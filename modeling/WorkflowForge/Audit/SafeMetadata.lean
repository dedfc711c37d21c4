import WorkflowForge.Audit.Metadata
import WorkflowForge.Python.TextLaws
import Mathlib.Data.List.Nodup

/-! What accepted metadata looks like at every depth, and that it is accepted again as it is. -/

namespace WorkflowForge.Audit

open Python

variable {u : Unicode}

-----------------------------------------------------------------------------------------
-- Safe values
-----------------------------------------------------------------------------------------

/-- A key that a safe mapping may have. -/
def SafeKey (u : Unicode) (key : Text) : Prop :=
  key ≠ [] ∧ key.length ≤ keyMaxLength ∧ isSecretLike u key = false

/-- A value as it is stored, with so many levels of containers. -/
inductive Safe (u : Unicode) : Nat → MetadataValue → Prop where
  | null {levels : Nat} : Safe u levels .null
  | bool {levels : Nat} (value : Bool) : Safe u levels (.bool value)
  | int {levels : Nat} (value : Int) : Safe u levels (.int value)
  | float {levels : Nat} (bits : UInt64) : Safe u levels (.float bits)
  | text {levels : Nat} {value : Text} (short : value.length ≤ stringMaxLength)
    : Safe u levels (.text value)
  | mapping {levels : Nat} {items : List (Text × MetadataValue)}
      (few : items.length ≤ maxKeys)
      (distinct : (items.map Prod.fst).Nodup)
      (keys : ∀ item ∈ items, SafeKey u item.1)
      (values : ∀ item ∈ items, Safe u levels item.2)
    : Safe u (levels + 1) (.mapping items)
  | list {levels : Nat} {items : List MetadataValue}
      (few : items.length ≤ listMaxItems)
      (values : ∀ item ∈ items, Safe u levels item)
    : Safe u (levels + 1) (.list items)

-----------------------------------------------------------------------------------------
-- Accepted values are safe
-----------------------------------------------------------------------------------------

theorem map_fst_assign (safe : List (Text × MetadataValue)) (key : Text) (value : MetadataValue)
    : (assign safe key value).map Prod.fst
      = if key ∈ safe.map Prod.fst then safe.map Prod.fst else safe.map Prod.fst ++ [key] := by
  have found : safe.any (fun item => item.1 == key) = true ↔ key ∈ safe.map Prod.fst := by simp
  have keep : (Prod.fst ∘ fun item : Text × MetadataValue =>
      if item.1 = key then (key, value) else item) = Prod.fst := by
    funext item
    by_cases same : item.1 = key <;> simp [same]
  unfold assign
  by_cases member : key ∈ safe.map Prod.fst
  · rw [if_pos (found.mpr member), if_pos member, List.map_map, keep]
  · rw [if_neg (fun any => member (found.mp any)), if_neg member, List.map_append]
    rfl

theorem mem_assign {safe : List (Text × MetadataValue)} {key : Text} {value : MetadataValue}
    {item : Text × MetadataValue} (member : item ∈ assign safe key value)
    : item ∈ safe ∨ item = (key, value) := by
  unfold assign at member
  split at member
  · obtain ⟨old, was, rfl⟩ := List.mem_map.mp member
    by_cases same : old.1 = key
    · exact .inr (if_pos same)
    · rw [if_neg same]
      exact .inl was
  · simpa using member

/-- The items collected so far, `left` at most, by one step and by the whole loop. -/
structure Collected (u : Unicode) (levels : Nat) (left : Nat) (safe : List (Text × MetadataValue))
    : Prop where
  few : safe.length ≤ left
  distinct : (safe.map Prod.fst).Nodup
  keys : ∀ item ∈ safe, SafeKey u item.1
  values : ∀ item ∈ safe, Safe u levels item.2

theorem Collected.assign {levels left : Nat} {safe : List (Text × MetadataValue)} {key : Text}
    {value : MetadataValue} (collected : Collected u levels left safe) (isKey : SafeKey u key)
    (isSafe : Safe u levels value)
    : Collected u levels (left + 1) (assign safe key value) := by
  have names := map_fst_assign safe key value
  refine ⟨?_, ?_, fun item member => ?_, fun item member => ?_⟩
  · have lengths := congrArg List.length names
    have bound := collected.few
    split at lengths
    · simp only [List.length_map] at lengths
      omega
    · simp only [List.length_map, List.length_append, List.length_cons, List.length_nil] at lengths
      omega
  · rw [names]
    split
    case isTrue => exact collected.distinct
    case isFalse fresh =>
      refine List.Nodup.append collected.distinct (List.nodup_singleton key) ?_
      simpa only [List.disjoint_singleton] using fresh
  · rcases mem_assign member with old | rfl
    · exact collected.keys item old
    · exact isKey
  · rcases mem_assign member with old | rfl
    · exact collected.values item old
    · exact isSafe

/-- The loop over the items keeps them collected, by induction on the items left. -/
theorem collected_safeItems {levels left : Nat}
    {safeValue : Text → MetadataValue → Except AuditExn MetadataValue}
    (sound
      : ∀ key value result, safeValue key value = .ok result
        → isSecretLike u key = false ∧ Safe u levels result)
    {items safe result : List (Text × MetadataValue)} (collected : Collected u levels left safe)
    (accepted : safeItems safeValue items safe = .ok result)
    : Collected u levels (left + items.length) result := by
  induction items generalizing left safe with
  | nil =>
      cases accepted
      exact collected
  | cons item rest ih =>
      obtain ⟨key, value⟩ := item
      by_cases bad : key = [] ∨ keyMaxLength < key.length
      · simp [safeItems, bad, bind, Except.bind, throw, throwThe, MonadExceptOf.throw] at accepted
      · cases made : safeValue key value with
        | error failure => simp [safeItems, bad, made, bind, Except.bind] at accepted
        | ok stored =>
            simp only [safeItems, if_neg bad, made, bind, Except.bind] at accepted
            obtain ⟨visible, isSafe⟩ := sound key value stored made
            push Not at bad
            have next := ih (collected.assign ⟨bad.1, bad.2, visible⟩ isSafe) accepted
            simpa [Nat.add_assoc, Nat.add_comm 1] using next

theorem safe_mapM {levels : Nat} {step : MetadataValue → Except AuditExn MetadataValue}
    (sound : ∀ value result, step value = .ok result → Safe u levels result)
    {items results : List MetadataValue} (accepted : items.mapM step = .ok results)
    : results.length = items.length ∧ ∀ item ∈ results, Safe u levels item := by
  induction items generalizing results with
  | nil =>
      cases accepted
      exact ⟨rfl, fun _ member => nomatch member⟩
  | cons item rest ih =>
      cases made : step item with
      | error failure => simp [List.mapM_cons, made, bind, Except.bind] at accepted
      | ok stored =>
          cases others : rest.mapM step with
          | error failure => simp [List.mapM_cons, made, others, bind, Except.bind] at accepted
          | ok tail =>
              simp only [List.mapM_cons, made, others, bind, Except.bind, pure, Except.pure,
                Except.ok.injEq] at accepted
              subst accepted
              obtain ⟨length, values⟩ := ih others
              refine ⟨by simp [length], ?_⟩
              simpa using ⟨sound item stored made, values⟩

theorem safe_safeMapping {levels : Nat}
    {safeValue : Text → MetadataValue → Except AuditExn MetadataValue}
    (sound
      : ∀ key value result, safeValue key value = .ok result
        → isSecretLike u key = false ∧ Safe u levels result)
    {metadata stored : List (Text × MetadataValue)}
    (accepted : safeMapping safeValue metadata = .ok stored)
    : Safe u (levels + 1) (.mapping stored) := by
  unfold safeMapping at accepted
  split at accepted
  case isTrue => cases accepted
  case isFalse few =>
    have collected := collected_safeItems sound
      (⟨Nat.le_refl 0, List.nodup_nil, by simp, by simp⟩ : Collected u levels 0 []) accepted
    have bound := collected.few
    exact .mapping (by omega) collected.distinct collected.keys collected.values

/-- What `_safe_metadata_value` returns is safe, by induction on the levels left. -/
theorem safe_safeMetadataValue {levels : Nat} {key : Text} {value stored : MetadataValue}
    (accepted : safeMetadataValue u levels key value = .ok stored)
    : isSecretLike u key = false ∧ Safe u levels stored := by
  induction levels using Nat.strong_induction_on generalizing key value stored with
  | _ levels ih =>
    unfold safeMetadataValue at accepted
    split at accepted
    case isTrue => cases accepted
    case isFalse visible =>
      refine ⟨by simpa using visible, ?_⟩
      cases value with
      | null =>
          cases accepted
          exact .null
      | bool value =>
          cases accepted
          exact .bool value
      | int value =>
          cases accepted
          exact .int value
      | float bits =>
          cases accepted
          exact .float bits
      | text content =>
          simp only at accepted
          split at accepted
          case isTrue => cases accepted
          case isFalse short =>
            cases accepted
            exact .text (by omega)
      | uuid id =>
          cases accepted
          exact .text (by rw [uuidText_length id.isLt]; decide)
      | datetime value =>
          cases value with
          | naive wall => cases accepted
          | aware instant =>
              cases accepted
              exact .text (Nat.le_trans (length_isoformat_le instant) (by decide))
      | mapping items =>
          cases levels with
          | zero => cases accepted
          | succ levels =>
              cases made : safeMapping (safeMetadataValue u levels) items with
              | error failure => simp [made, bind, Except.bind] at accepted
              | ok safe =>
                  simp only [made, bind, Except.bind, pure, Except.pure, Except.ok.injEq]
                    at accepted
                  subst accepted
                  exact safe_safeMapping
                    (fun _ _ _ => ih levels (Nat.lt_succ_self levels)) made
      | list items =>
          cases levels with
          | zero => cases accepted
          | succ levels =>
              simp only at accepted
              split at accepted
              case isTrue => cases accepted
              case isFalse few =>
                cases made : items.mapM (safeMetadataValue u levels key) with
                | error failure => simp [made, bind, Except.bind] at accepted
                | ok safe =>
                    simp only [made, bind, Except.bind, pure, Except.pure, Except.ok.injEq]
                      at accepted
                    subst accepted
                    obtain ⟨length, values⟩ := safe_mapM
                      (fun _ _ stored => (ih levels (Nat.lt_succ_self levels) stored).2) made
                    exact .list (by omega) values
      | unsupported => cases accepted

theorem safe_safeMetadata {metadata stored : List (Text × MetadataValue)}
    (accepted : safeMetadata u metadata = .ok stored)
    : Safe u (maxDepth + 1) (.mapping stored) :=
  safe_safeMapping (fun _ _ _ => safe_safeMetadataValue) accepted

-----------------------------------------------------------------------------------------
-- Safe values are accepted as they are
-----------------------------------------------------------------------------------------

theorem assign_of_fresh {safe : List (Text × MetadataValue)} {key : Text} {value : MetadataValue}
    (fresh : key ∉ safe.map Prod.fst)
    : assign safe key value = safe ++ [(key, value)] := by
  have unseen : ¬ safe.any (fun item => item.1 == key) = true := by simpa using fresh
  rw [assign, if_neg unseen]

/-- The loop appends items whose values are fixed, by induction on the items left. -/
theorem safeItems_fixed {safeValue : Text → MetadataValue → Except AuditExn MetadataValue}
    {items safe : List (Text × MetadataValue)}
    (distinct : ((safe ++ items).map Prod.fst).Nodup)
    (keys : ∀ item ∈ items, SafeKey u item.1)
    (fixed : ∀ item ∈ items, safeValue item.1 item.2 = .ok item.2)
    : safeItems safeValue items safe = .ok (safe ++ items) := by
  induction items generalizing safe with
  | nil => simp [safeItems]
  | cons item rest ih =>
      obtain ⟨key, value⟩ := item
      have isKey := keys (key, value) (List.mem_cons_self ..)
      have good : ¬ (key = [] ∨ keyMaxLength < key.length) := by
        rintro (empty | long)
        · exact isKey.1 empty
        · exact Nat.not_lt.mpr isKey.2.1 long
      have fresh : key ∉ safe.map Prod.fst := by
        intro member
        rw [List.map_append, List.nodup_append] at distinct
        exact distinct.2.2 key member key (by simp) rfl
      have next : safeItems safeValue rest (safe ++ [(key, value)])
          = .ok (safe ++ [(key, value)] ++ rest) := ih
        (by simpa only [List.append_assoc, List.singleton_append] using distinct)
        (fun item member => keys item (List.mem_cons_of_mem _ member))
        (fun item member => fixed item (List.mem_cons_of_mem _ member))
      simpa [safeItems, good, fixed (key, value) (List.mem_cons_self ..), assign_of_fresh fresh,
        bind, Except.bind] using next

theorem mapM_fixed {step : MetadataValue → Except AuditExn MetadataValue}
    {items : List MetadataValue} (fixed : ∀ item ∈ items, step item = .ok item)
    : items.mapM step = .ok items := by
  induction items with
  | nil => rfl
  | cons item rest ih =>
      have others := ih (fun item member => fixed item (List.mem_cons_of_mem _ member))
      simp [List.mapM_cons, fixed item (List.mem_cons_self ..), others, bind, Except.bind, pure,
        Except.pure]

theorem safeMapping_fixed {safeValue : Text → MetadataValue → Except AuditExn MetadataValue}
    {items : List (Text × MetadataValue)} (few : items.length ≤ maxKeys)
    (distinct : (items.map Prod.fst).Nodup) (keys : ∀ item ∈ items, SafeKey u item.1)
    (fixed : ∀ item ∈ items, safeValue item.1 item.2 = .ok item.2)
    : safeMapping safeValue items = .ok items := by
  rw [safeMapping, if_neg (by omega)]
  exact safeItems_fixed (by simpa using distinct) keys fixed

/-- `_safe_metadata_value` returns a safe value itself, by induction on its derivation. -/
theorem safeMetadataValue_of_safe {levels : Nat} {key : Text} {value : MetadataValue}
    (visible : isSecretLike u key = false) (isSafe : Safe u levels value)
    : safeMetadataValue u levels key value = .ok value := by
  induction isSafe generalizing key with
  | null | bool | int | float => simp [safeMetadataValue, visible]
  | text short => simp [safeMetadataValue, visible, Nat.not_lt.mpr short]
  | mapping few distinct keys values ih =>
      have fixed := safeMapping_fixed few distinct keys
        (fun item member => ih item member (keys item member).2.2)
      simp [safeMetadataValue, visible, fixed, bind, Except.bind, pure, Except.pure]
  | list few values ih =>
      have fixed := mapM_fixed (fun item member => ih item member visible)
      simp [safeMetadataValue, visible, Nat.not_lt.mpr few, fixed, bind, Except.bind, pure,
        Except.pure]

/-- Safe metadata is returned as it is. -/
theorem safeMetadata_of_safe {metadata : List (Text × MetadataValue)}
    (isSafe : Safe u (maxDepth + 1) (.mapping metadata))
    : safeMetadata u metadata = .ok metadata := by
  cases isSafe with
  | mapping few distinct keys values =>
      exact safeMapping_fixed few distinct keys
        (fun item member => safeMetadataValue_of_safe (keys item member).2.2 (values item member))

-----------------------------------------------------------------------------------------
-- Positions in a value
-----------------------------------------------------------------------------------------

/-- `Within n outer inner`: the value `inner` is `n` containers below `outer`. -/
inductive Within : Nat → MetadataValue → MetadataValue → Prop where
  | here {value : MetadataValue} : Within 0 value value
  | inMapping {distance : Nat} {items : List (Text × MetadataValue)}
      {item : Text × MetadataValue} {inner : MetadataValue}
      (member : item ∈ items) (rest : Within distance item.2 inner)
    : Within (distance + 1) (.mapping items) inner
  | inList {distance : Nat} {items : List MetadataValue} {item inner : MetadataValue}
      (member : item ∈ items) (rest : Within distance item inner)
    : Within (distance + 1) (.list items) inner

/-- Every position of a safe value is safe with the levels that are left there. -/
theorem Safe.within {levels distance : Nat} {outer inner : MetadataValue}
    (isSafe : Safe u levels outer) (position : Within distance outer inner)
    : distance ≤ levels ∧ Safe u (levels - distance) inner := by
  induction position generalizing levels with
  | here => exact ⟨Nat.zero_le levels, isSafe⟩
  | inMapping member rest ih =>
      cases isSafe with
      | mapping few distinct keys values =>
          obtain ⟨bound, below⟩ := ih (values _ member)
          exact ⟨by omega, by simpa using below⟩
  | inList member rest ih =>
      cases isSafe with
      | list few values =>
          obtain ⟨bound, below⟩ := ih (values _ member)
          exact ⟨by omega, by simpa using below⟩

theorem not_isSecretLike_iff {key : Text}
    : isSecretLike u key = false
      ↔ ∀ part ∈ secretKeyParts, ¬ part.toList <:+: u.casefold key := by
  simp [isSecretLike, ← Text.contains_iff]

end WorkflowForge.Audit
