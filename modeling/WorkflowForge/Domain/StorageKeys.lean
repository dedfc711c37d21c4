import WorkflowForge.Domain.Normalization

/-! Storage keys of documents and temporary uploads are always valid and tenant-safe. -/

namespace WorkflowForge

open Python

theorem digitChar_hex {n : Nat} (small : n < 16) : isLowerHex n.digitChar = true := by
  revert n
  decide

/-- Hex digits of a number, by induction on it. -/
theorem mem_toDigits (n : Nat) {c : Char} (member : c ∈ Nat.toDigits 16 n)
    : isLowerHex c = true := by
  induction n using Nat.strongRecOn with
  | ind n ih =>
      rw [Nat.toDigits_eq_if (by decide)] at member
      split at member
      · rename_i small
        rw [List.mem_singleton.mp member]
        exact digitChar_hex small
      · rename_i large
        rcases List.mem_append.mp member with front | last
        · exact ih (n / 16) (Nat.div_lt_self (by omega) (by decide)) front
        · rw [List.mem_singleton.mp last]
          exact digitChar_hex (Nat.mod_lt _ (by decide))

/-- A path segment of keys: edge characters and dashes, with edges at both ends. -/
structure KeySegment (segment : Text) : Prop where
  ne_nil : segment ≠ []
  inside : ∀ c ∈ segment, isKeyEdge c = true ∨ c = '-'
  start : segment.head?.any isKeyEdge = true
  finish : segment.getLast?.any isKeyEdge = true

theorem KeySegment.of_check {segment : Text}
    (checked
      : (!segment.isEmpty && segment.all (fun c => isKeyEdge c || c == '-')
          && segment.head?.any isKeyEdge && segment.getLast?.any isKeyEdge) = true)
    : KeySegment segment := by
  simp only [Bool.and_eq_true, Bool.not_eq_true', List.isEmpty_eq_false_iff, List.all_eq_true,
    Bool.or_eq_true, beq_iff_eq] at checked
  obtain ⟨⟨⟨some, inside⟩, start⟩, finish⟩ := checked
  exact ⟨some, inside, start, finish⟩

theorem isKeyEdge_of_hex {c : Char} (hex : isLowerHex c = true) : isKeyEdge c = true := by
  rcases isLowerHex_cases hex with digit | lower
  · simp [isKeyEdge, digit]
  · simp [isKeyEdge, lower]

/-- Nonempty hex texts are segments. -/
theorem KeySegment.of_hex {segment : Text} (some : segment ≠ [])
    (hex : ∀ c ∈ segment, isLowerHex c = true)
    : KeySegment segment := by
  refine ⟨some, fun c member => .inl (isKeyEdge_of_hex (hex c member)), ?_, ?_⟩
  · obtain ⟨c, rest, rfl⟩ := List.exists_cons_of_ne_nil some
    simpa using isKeyEdge_of_hex (hex c List.mem_cons_self)
  · obtain ⟨c, found⟩ := Option.isSome_iff_exists.mp (List.getLast?_isSome.mpr some)
    simpa [found] using isKeyEdge_of_hex (hex c (List.mem_of_getLast? found))

/-- The padded hex digits of a UUID. -/
def uuidDigits (value : UUID) : Text :=
  List.replicate (32 - (Nat.toDigits 16 value).length) '0' ++ Nat.toDigits 16 value

theorem uuidDigits_hex (value : UUID) {c : Char} (member : c ∈ uuidDigits value)
    : isLowerHex c = true := by
  rcases List.mem_append.mp member with padding | digit
  · rw [(List.mem_replicate.mp padding).2]
    decide
  · exact mem_toDigits value digit

theorem uuidDigits_length (value : UUID) : 32 ≤ (uuidDigits value).length := by
  simp [uuidDigits]
  omega

theorem uuidDigits_length_eq {value : UUID} (small : value < 2 ^ 128)
    : (uuidDigits value).length = 32 := by
  have short : (Nat.toDigits 16 value).length ≤ 32 :=
    (Nat.length_toDigits_le_iff (by decide) (by decide)).mpr (by simpa using small)
  simp [uuidDigits]
  omega

theorem uuidText_eq (value : UUID)
    : uuidText value
      = (uuidDigits value).take ((uuidDigits value).length - 24)
        ++ '-' :: ((uuidDigits value).drop ((uuidDigits value).length - 24)).take 4
        ++ '-' :: ((uuidDigits value).drop ((uuidDigits value).length - 24 + 4)).take 4
        ++ '-' :: ((uuidDigits value).drop ((uuidDigits value).length - 24 + 8)).take 4
        ++ '-' :: (uuidDigits value).drop ((uuidDigits value).length - 24 + 12) :=
  rfl

theorem uuidText_length {value : UUID} (small : value < 2 ^ 128)
    : (uuidText value).length = 36 := by
  have digits := uuidDigits_length_eq small
  rw [uuidText_eq]
  simp only [List.length_append, List.length_cons, List.length_take, List.length_drop, digits]
  decide

theorem mem_uuidText {value : UUID} {c : Char} (member : c ∈ uuidText value)
    : c ∈ uuidDigits value ∨ c = '-' := by
  rw [uuidText_eq] at member
  simp only [List.append_assoc, List.cons_append, List.mem_append, List.mem_cons] at member
  rcases member with part | rfl | part | rfl | part | rfl | part | rfl | part
  · exact .inl (List.mem_of_mem_take part)
  · exact .inr rfl
  · exact .inl (List.mem_of_mem_drop (List.mem_of_mem_take part))
  · exact .inr rfl
  · exact .inl (List.mem_of_mem_drop (List.mem_of_mem_take part))
  · exact .inr rfl
  · exact .inl (List.mem_of_mem_drop (List.mem_of_mem_take part))
  · exact .inr rfl
  · exact .inl (List.mem_of_mem_drop part)

/-- The text of a UUID is a path segment: it starts and ends with a digit group. -/
theorem KeySegment.uuid (value : UUID) : KeySegment (uuidText value) := by
  have long := uuidDigits_length value
  have lead : (uuidDigits value).take ((uuidDigits value).length - 24) ≠ [] := by
    apply List.ne_nil_of_length_pos
    simp
    omega
  have trail : (uuidDigits value).drop ((uuidDigits value).length - 24 + 12) ≠ [] := by
    apply List.ne_nil_of_length_pos
    simp
    omega
  obtain ⟨first, more, lead_eq⟩ := List.exists_cons_of_ne_nil lead
  obtain ⟨last, last_eq⟩ := Option.isSome_iff_exists.mp (List.getLast?_isSome.mpr trail)
  have first_hex : isLowerHex first = true := by
    apply uuidDigits_hex value
    apply List.mem_of_mem_take
    rw [lead_eq]
    exact List.mem_cons_self
  have last_hex : isLowerHex last = true :=
    uuidDigits_hex value (List.mem_of_mem_drop (List.mem_of_getLast? last_eq))
  refine ⟨?_, ?_, ?_, ?_⟩
  · rw [uuidText_eq, lead_eq]
    simp
  · intro c member
    rcases mem_uuidText member with digit | dash
    · exact .inl (isKeyEdge_of_hex (uuidDigits_hex value digit))
    · exact .inr dash
  · rw [uuidText_eq, lead_eq]
    simpa using isKeyEdge_of_hex first_hex
  · rw [uuidText_eq]
    simp [List.getLast?_append, List.getLast?_cons, last_eq, isKeyEdge_of_hex last_hex]

/-- Segments joined by slashes. -/
def joinSlashes : List Text → Text
  | [] => []
  | [segment] => segment
  | segment :: rest => segment ++ '/' :: joinSlashes rest

theorem joinSlashes_cons_cons (first second : Text) (rest : List Text)
    : joinSlashes (first :: second :: rest) = first ++ '/' :: joinSlashes (second :: rest) :=
  rfl

theorem mem_joinSlashes {segments : List Text} {c : Char} (member : c ∈ joinSlashes segments)
    : c = '/' ∨ ∃ segment ∈ segments, c ∈ segment := by
  induction segments with
  | nil => simp [joinSlashes] at member
  | cons first rest ih =>
      cases rest with
      | nil => exact .inr ⟨first, by simp, member⟩
      | cons second more =>
          rw [joinSlashes_cons_cons, List.mem_append, List.mem_cons] at member
          rcases member with inFirst | rfl | later
          · exact .inr ⟨first, by simp, inFirst⟩
          · exact .inl rfl
          · rcases ih later with slash | ⟨segment, inRest, inSegment⟩
            · exact .inl slash
            · exact .inr ⟨segment, by simp [inRest], inSegment⟩

private theorem edge_ne {c : Char} (edge : isKeyEdge c = true)
    : c ≠ '/' ∧ c ≠ '.' ∧ c ≠ '\\' := by
  refine ⟨?_, ?_, ?_⟩ <;> rintro rfl <;> revert edge <;> decide

theorem KeySegment.noSlash {segment : Text} (valid : KeySegment segment) : '/' ∉ segment := by
  intro member
  rcases valid.inside _ member with edge | dash
  · exact (edge_ne edge).1 rfl
  · revert dash
    decide

theorem splitOn_joinSlashes {segments : List Text} (some : segments ≠ [])
    (all : ∀ segment ∈ segments, KeySegment segment)
    : Text.splitOn '/' (joinSlashes segments) = segments := by
  induction segments with
  | nil => contradiction
  | cons first rest ih =>
      have slashless := (all first (by simp)).noSlash
      cases rest with
      | nil => exact Text.splitOn_of_notMem slashless
      | cons second more =>
          rw [joinSlashes_cons_cons, Text.splitOn_append slashless,
            ih (by simp) (fun segment member => all segment (by simp [member]))]

theorem KeySegment.safe {segment : Text} (valid : KeySegment segment)
    : isSafeSegment segment = true := by
  obtain ⟨first, rest, rfl⟩ := List.exists_cons_of_ne_nil valid.ne_nil
  simp only [isSafeSegment, Bool.and_eq_true, List.all_eq_true, Bool.or_eq_true, beq_iff_eq]
  refine ⟨by simpa using valid.start, ?_⟩
  intro c member
  rcases valid.inside c (List.mem_cons_of_mem _ member) with edge | dash
  · exact .inl (.inl (.inl edge))
  · exact .inr dash

private theorem head_joinSlashes {segments : List Text} (some : segments ≠ [])
    (all : ∀ segment ∈ segments, KeySegment segment)
    : (joinSlashes segments).head?.any isKeyEdge = true := by
  obtain ⟨first, rest, rfl⟩ := List.exists_cons_of_ne_nil some
  have valid := all first (by simp)
  obtain ⟨c, more, rfl⟩ := List.exists_cons_of_ne_nil valid.ne_nil
  have start := valid.start
  cases rest <;> simpa [joinSlashes] using start

private theorem last_joinSlashes {segments : List Text} (some : segments ≠ [])
    (all : ∀ segment ∈ segments, KeySegment segment)
    : (joinSlashes segments).getLast?.any isKeyEdge = true := by
  induction segments with
  | nil => contradiction
  | cons first rest ih =>
      cases rest with
      | nil => exact (all first (by simp)).finish
      | cons second more =>
          have inner := ih (by simp) (fun segment member => all segment (by simp [member]))
          rw [joinSlashes_cons_cons, List.getLast?_append, List.getLast?_cons]
          cases last : (joinSlashes (second :: more)).getLast? with
          | none => simp [last] at inner
          | some c => simpa [last] using inner

/-- Joined segments pass every check of a storage key.
Witness: dots and backslashes do not occur, and a doubled slash would be an empty segment.
-/
theorem isStorageKey_joinSlashes {first second : Text} {rest : List Text}
    (all : ∀ segment ∈ first :: second :: rest, KeySegment segment)
    : isStorageKey (joinSlashes (first :: second :: rest)) = true := by
  have split := splitOn_joinSlashes (by simp) all
  have plain
      : ∀ c ∈ joinSlashes (first :: second :: rest), isKeyEdge c = true ∨ c = '-' ∨ c = '/' := by
    intro c member
    rcases mem_joinSlashes member with slash | ⟨segment, inside, inSegment⟩
    · exact .inr (.inr slash)
    · rcases (all segment inside).inside c inSegment with edge | dash
      · exact .inl edge
      · exact .inr (.inl dash)
  have noDots : Text.contains (joinSlashes (first :: second :: rest)) "..".toList = false := by
    rw [Bool.eq_false_iff, ne_eq, Text.contains_iff]
    intro dots
    rcases plain '.' (dots.subset (by decide)) with edge | dash | slash
    · exact (edge_ne edge).2.1 rfl
    · revert dash
      decide
    · revert slash
      decide
  have noAlias : Text.contains (joinSlashes (first :: second :: rest)) ['\\'] = false := by
    rw [Bool.eq_false_iff, ne_eq, Text.contains_iff]
    intro aliased
    rcases plain '\\' (aliased.subset (by decide)) with edge | dash | slash
    · exact (edge_ne edge).2.2 rfl
    · revert dash
      decide
    · revert slash
      decide
  have noDouble : Text.contains (joinSlashes (first :: second :: rest)) "//".toList = false := by
    rw [Bool.eq_false_iff, ne_eq, Text.contains_iff]
    rintro ⟨before, after, same⟩
    have empty := Text.nil_mem_splitOn '/' before after
    have text : before ++ '/' :: '/' :: after = joinSlashes (first :: second :: rest) := by
      rw [← same]
      simp
    rw [text, split] at empty
    exact (all [] (List.mem_of_mem_tail empty)).ne_nil rfl
  have long : 2 ≤ (joinSlashes (first :: second :: rest)).length := by
    have nonempty := List.length_pos_iff.mpr (all first (by simp)).ne_nil
    rw [joinSlashes_cons_cons]
    simp
    omega
  simp only [isStorageKey, isKeyText, noDots, noAlias, noDouble, Bool.or_false, Bool.not_false,
    Bool.true_and, Bool.and_eq_true, decide_eq_true_eq, List.all_eq_true, split]
  refine ⟨⟨⟨⟨long, head_joinSlashes (by simp) all⟩, last_joinSlashes (by simp) all⟩, ?_⟩, ?_⟩
  · intro c member
    rcases plain c member with edge | rfl | rfl
    · simp [edge]
    · decide
    · decide
  · intro segment member
    exact (all segment member).safe

theorem documentContentKeyText_eq (organizationId : UUID) (digest : Text)
    : documentContentKeyText organizationId digest
      = joinSlashes ["documents".toList, uuidText organizationId, "sha256".toList,
          digest.take 2, (digest.drop 2).take 2, digest] := by
  have front : "documents/".toList = "documents".toList ++ ['/'] := by decide
  have middle : "/sha256/".toList = '/' :: ("sha256".toList ++ ['/']) := by decide
  unfold documentContentKeyText documentContentPrefix
  rw [front, middle]
  generalize "documents".toList = area
  generalize "sha256".toList = algorithm
  simp only [joinSlashes, List.append_assoc, List.cons_append, List.nil_append]

theorem KeySegment.documentContent (organizationId : UUID) (hash : ContentHash)
    : ∀ segment ∈ ["documents".toList, uuidText organizationId, "sha256".toList,
        hash.value.take 2, (hash.value.drop 2).take 2, hash.value], KeySegment segment := by
  obtain ⟨size, hex⟩ := hash.hex
  have lead : hash.value.take 2 ≠ [] := by
    apply List.ne_nil_of_length_pos
    rw [List.length_take, size]
    decide
  have next : (hash.value.drop 2).take 2 ≠ [] := by
    apply List.ne_nil_of_length_pos
    rw [List.length_take, List.length_drop, size]
    decide
  have whole : hash.value ≠ [] := by
    apply List.ne_nil_of_length_pos
    rw [size]
    decide
  intro segment member
  simp only [List.mem_cons, List.not_mem_nil, or_false] at member
  rcases member with rfl | rfl | rfl | rfl | rfl | rfl
  · exact .of_check (by decide)
  · exact .uuid organizationId
  · exact .of_check (by decide)
  · exact .of_hex lead (fun c member => hex c (List.mem_of_mem_take member))
  · exact .of_hex next (fun c member => hex c (List.mem_of_mem_drop (List.mem_of_mem_take member)))
  · exact .of_hex whole hex

/-- The final key of document bytes is valid. -/
theorem isStorageKey_documentContent (organizationId : UUID) (hash : ContentHash)
    : isStorageKey (documentContentKeyText organizationId hash.value) = true := by
  rw [documentContentKeyText_eq]
  exact isStorageKey_joinSlashes (KeySegment.documentContent organizationId hash)

/-- The key that `for_document_content` returns. -/
def documentContentKey (organizationId : UUID) (hash : ContentHash) : StorageObjectKey :=
  ⟨documentContentKeyText organizationId hash.value,
    isStorageKey_documentContent organizationId hash⟩

theorem StorageObjectKey.forDocumentContent_eq {organizationId : UUID}
    (some : organizationId ≠ 0) (hash : ContentHash)
    : StorageObjectKey.forDocumentContent organizationId hash
      = .ok (documentContentKey organizationId hash) := by
  have parsed := StorageObjectKey.parse_value (documentContentKey organizationId hash)
  simp only [StorageObjectKey.forDocumentContent, validateUuid, if_neg some, bind, Except.bind]
  exact parsed

theorem temporaryKeyText_eq (organizationId uploadId : UUID)
    : "tmp/".toList ++ uuidText organizationId ++ '/' :: uuidText uploadId
      = joinSlashes ["tmp".toList, uuidText organizationId, uuidText uploadId] := by
  have front : "tmp/".toList = "tmp".toList ++ ['/'] := by decide
  rw [front]
  generalize "tmp".toList = area
  simp only [joinSlashes, List.append_assoc, List.cons_append, List.nil_append]

/-- Temporary keys are valid. -/
theorem isStorageKey_temporaryUpload (organizationId uploadId : UUID)
    : isStorageKey
        ("tmp/".toList ++ uuidText organizationId ++ '/' :: uuidText uploadId) = true := by
  rw [temporaryKeyText_eq]
  apply isStorageKey_joinSlashes
  intro segment member
  simp only [List.mem_cons, List.not_mem_nil, or_false] at member
  rcases member with rfl | rfl | rfl
  · exact .of_check (by decide)
  · exact .uuid organizationId
  · exact .uuid uploadId

/-- The key that `for_temporary_upload` returns. -/
def temporaryUploadKey (organizationId uploadId : UUID) : StorageObjectKey :=
  ⟨"tmp/".toList ++ uuidText organizationId ++ '/' :: uuidText uploadId,
    isStorageKey_temporaryUpload organizationId uploadId⟩

theorem StorageObjectKey.forTemporaryUpload_eq {organizationId uploadId : UUID}
    (tenant : organizationId ≠ 0) (upload : uploadId ≠ 0)
    : StorageObjectKey.forTemporaryUpload organizationId uploadId
      = .ok (temporaryUploadKey organizationId uploadId) := by
  have parsed := StorageObjectKey.parse_value (temporaryUploadKey organizationId uploadId)
  simp only [StorageObjectKey.forTemporaryUpload, validateUuid, if_neg tenant, if_neg upload,
    bind, Except.bind]
  exact parsed

/-- The final key names its tenant and starts with the tenant's prefix. -/
theorem ensureKeyIsTenantSafe_documentContent (organizationId : UUID) (hash : ContentHash)
    : ensureKeyIsTenantSafe (documentContentKey organizationId hash) organizationId
        (documentContentPrefix organizationId)
      = .ok () := by
  have tenant
      : Text.contains (documentContentKeyText organizationId hash.value)
          (uuidText organizationId) = true := by
    rw [Text.contains_iff]
    have inPrefix : uuidText organizationId <:+: documentContentPrefix organizationId :=
      List.infix_append _ _ _
    refine inPrefix.trans ⟨[], hash.value.take 2 ++ '/' :: (hash.value.drop 2).take 2
      ++ '/' :: hash.value, ?_⟩
    simp only [documentContentKeyText, List.nil_append, List.append_assoc, List.cons_append]
  have start
      : (documentContentPrefix organizationId).isPrefixOf
          (documentContentKeyText organizationId hash.value) = true := by
    rw [List.isPrefixOf_iff_prefix]
    refine ⟨hash.value.take 2 ++ '/' :: (hash.value.drop 2).take 2 ++ '/' :: hash.value, ?_⟩
    simp only [documentContentKeyText, List.append_assoc, List.cons_append]
  simp only [ensureKeyIsTenantSafe, documentContentKey, tenant, start]
  rfl

-----------------------------------------------------------------------------------------
-- Keys name what they are for
-----------------------------------------------------------------------------------------

/-- The number a text of hex digits denotes. -/
def hexValue (digits : Text) : Nat :=
  digits.foldl
    (fun value c => 16 * value + (if c.toNat < 97 then c.toNat - 48 else c.toNat - 87)) 0

theorem hexValue_concat (digits : Text) {n : Nat} (small : n < 16)
    : hexValue (digits ++ [n.digitChar]) = 16 * hexValue digits + n := by
  have digit
      : (if n.digitChar.toNat < 97 then n.digitChar.toNat - 48 else n.digitChar.toNat - 87)
        = n := by
    revert n
    decide
  simp only [hexValue, List.foldl_append, List.foldl_cons, List.foldl_nil, digit]

/-- Reading the digits of a number back, by induction on it. -/
theorem hexValue_toDigits (n : Nat) : hexValue (Nat.toDigits 16 n) = n := by
  induction n using Nat.strongRecOn with
  | ind n ih =>
      rw [Nat.toDigits_eq_if (by decide)]
      split
      · rename_i small
        have single := hexValue_concat [] small
        simpa [hexValue] using single
      · rename_i large
        rw [hexValue_concat _ (Nat.mod_lt n (by decide)), ih (n / 16) (by omega)]
        omega

theorem hexValue_uuidDigits (value : UUID) : hexValue (uuidDigits value) = value := by
  have padding : ∀ count, hexValue (List.replicate count '0' ++ Nat.toDigits 16 value)
      = hexValue (Nat.toDigits 16 value) := by
    intro count
    induction count with
    | zero => rfl
    | succ count ih => exact ih
  rw [uuidDigits, padding, hexValue_toDigits]

/-- Dashes are the only additions of the text form. -/
theorem filter_uuidText (value : UUID)
    : (uuidText value).filter (fun c => c != '-') = uuidDigits value := by
  have keep
      : ∀ digits : Text, (∀ c ∈ digits, isLowerHex c = true)
        → digits.filter (fun c => c != '-') = digits := by
    intro digits hex
    rw [List.filter_eq_self]
    intro c member
    have isHex := hex c member
    simp only [bne_iff_ne, ne_eq]
    rintro rfl
    revert isHex
    decide
  have part := fun (c : Char) => uuidDigits_hex value (c := c)
  rw [uuidText_eq]
  simp only [List.filter_append, List.filter_cons, bne_self_eq_false, Bool.false_eq_true, if_false]
  rw [keep _ (fun c member => part c (List.mem_of_mem_take member)),
    keep _ (fun c member => part c (List.mem_of_mem_drop (List.mem_of_mem_take member))),
    keep _ (fun c member => part c (List.mem_of_mem_drop (List.mem_of_mem_take member))),
    keep _ (fun c member => part c (List.mem_of_mem_drop (List.mem_of_mem_take member))),
    keep _ (fun c member => part c (List.mem_of_mem_drop member))]
  generalize uuidDigits value = digits
  generalize digits.length - 24 = lead
  have split : ∀ n, (digits.drop n).take 4 ++ digits.drop (n + 4) = digits.drop n := by
    intro n
    rw [← List.drop_drop]
    exact List.take_append_drop 4 _
  calc
    digits.take lead ++ (digits.drop lead).take 4 ++ (digits.drop (lead + 4)).take 4
          ++ (digits.drop (lead + 8)).take 4 ++ digits.drop (lead + 12)
        = digits.take lead ++ ((digits.drop lead).take 4 ++ ((digits.drop (lead + 4)).take 4
          ++ ((digits.drop (lead + 8)).take 4 ++ digits.drop (lead + 12)))) := by
          simp only [List.append_assoc]
    _ = digits := by
          rw [split (lead + 8), split (lead + 4), split lead, List.take_append_drop]

theorem uuidText_injective {first second : UUID} (same : uuidText first = uuidText second)
    : first = second := by
  have digits : uuidDigits first = uuidDigits second := by
    rw [← filter_uuidText, ← filter_uuidText, same]
  rw [← hexValue_uuidDigits first, ← hexValue_uuidDigits second, digits]

/-- Final keys of different tenants differ. -/
theorem documentContentKeyText_organization {first second : UUID} {digest other : Text}
    (same : documentContentKeyText first digest = documentContentKeyText second other)
    : first = second := by
  have split
      : ∀ (organizationId : UUID) (text : Text), ∃ rest,
          Text.splitOn '/' (documentContentKeyText organizationId text)
            = "documents".toList :: uuidText organizationId :: rest := by
    intro organizationId text
    rw [documentContentKeyText_eq]
    generalize area : "documents".toList = segment
    have plain : '/' ∉ segment := by
      rw [← area]
      decide
    simp only [joinSlashes]
    rw [Text.splitOn_append plain, Text.splitOn_append (KeySegment.uuid organizationId).noSlash]
    exact ⟨_, rfl⟩
  obtain ⟨rest, left⟩ := split first digest
  obtain ⟨rest', right⟩ := split second other
  rw [same, right] at left
  simp only [List.cons.injEq, true_and] at left
  exact (uuidText_injective left.1).symm

theorem splitOn_temporaryUploadKey (organizationId uploadId : UUID)
    : Text.splitOn '/' (temporaryUploadKey organizationId uploadId).value
      = ["tmp".toList, uuidText organizationId, uuidText uploadId] := by
  have front : "tmp/".toList = "tmp".toList ++ ['/'] := by decide
  simp only [temporaryUploadKey]
  rw [front]
  generalize area : "tmp".toList = segment
  have plain : '/' ∉ segment := by
    rw [← area]
    decide
  simp only [List.append_assoc, List.cons_append, List.nil_append]
  rw [Text.splitOn_append plain, Text.splitOn_append (KeySegment.uuid organizationId).noSlash,
    Text.splitOn_of_notMem (KeySegment.uuid uploadId).noSlash]

/-- Temporary keys of different uploads differ. -/
theorem temporaryUploadKey_upload {first second upload other : UUID}
    (same
      : (temporaryUploadKey first upload).value = (temporaryUploadKey second other).value)
    : upload = other := by
  have left := splitOn_temporaryUploadKey first upload
  rw [same, splitOn_temporaryUploadKey second other] at left
  simp only [List.cons.injEq, and_true] at left
  exact (uuidText_injective left.2.2).symm

/-- Temporary keys are never final keys. -/
theorem temporaryUploadKey_ne_documentContent (organizationId uploadId owner : UUID)
    (digest : Text)
    : (temporaryUploadKey organizationId uploadId).value
      ≠ documentContentKeyText owner digest := by
  intro same
  have left := splitOn_temporaryUploadKey organizationId uploadId
  rw [same, documentContentKeyText_eq] at left
  generalize area : "documents".toList = segment at left
  have plain : '/' ∉ segment := by
    rw [← area]
    decide
  simp only [joinSlashes] at left
  rw [Text.splitOn_append plain, List.cons.injEq, ← area] at left
  exact absurd left.1 (by decide)

end WorkflowForge
