import Mathlib.Data.List.Nodup
import Mathlib.Data.List.Lookmap

/-! Databases as families of keyed tables, and row-level writes to them.
A table is the list of its rows; the key function of the schema gives each row its primary
key. Lookups determine everything that invariants talk about, so each write comes with the
lookup it produces.
-/

namespace Transactions

/-- The tables of a database with their primary keys and constraints.
`clash` says that two rows violate a unique constraint together; `sound` checks the foreign
keys and CHECK constraints of one row against the database, `fits` its column types.
`parents` are the rows that the foreign keys checked at once refer to. `Query` names what
SELECTs ask for.
-/
structure Schema where
  Table : Type
  Row : Table → Type
  Key : Type
  Query : Type
  decTable : DecidableEq Table
  decKey : DecidableEq Key
  key : (t : Table) → Row t → Key
  clash : (t : Table) → Row t → Row t → Bool
  sound : ((t : Table) → List (Row t)) → (t : Table) → Row t → Bool
  fits : (t : Table) → Row t → Bool
  parents : (t : Table) → Row t → List (Table × Key)

attribute [instance] Schema.decTable Schema.decKey

abbrev Db (S : Schema) := (t : S.Table) → List (S.Row t)

variable {S : Schema}

namespace Db

def find? (db : Db S) (t : S.Table) (k : S.Key) : Option (S.Row t) :=
  (db t).find? (fun row => S.key t row == k)

/-- Replace the row with the same key, or append a new one. -/
def upsert (t : S.Table) (row : S.Row t) (rows : List (S.Row t)) : List (S.Row t) :=
  if rows.any (fun old => S.key t old == S.key t row) then
    rows.map (fun old => if S.key t old = S.key t row then row else old)
  else rows ++ [row]

def put (db : Db S) (t : S.Table) (row : S.Row t) : Db S :=
  Function.update db t (upsert t row (db t))

def remove (db : Db S) (t : S.Table) (k : S.Key) : Db S :=
  Function.update db t ((db t).filter (fun row => S.key t row != k))

/-- No two rows of a table share their key. -/
def Keyed (db : Db S) : Prop := ∀ t, ((db t).map (S.key t)).Nodup

theorem find?_key {db : Db S} {t : S.Table} {k : S.Key} {row : S.Row t}
    (found : db.find? t k = some row)
    : S.key t row = k := by
  simpa using List.find?_some found

theorem mem_of_find? {db : Db S} {t : S.Table} {k : S.Key} {row : S.Row t}
    (found : db.find? t k = some row)
    : row ∈ db t :=
  List.mem_of_find?_eq_some found

/-- In a keyed table a row is found under its own key, by induction on the rows. -/
theorem find?_of_mem {db : Db S} (keyed : db.Keyed) {t : S.Table} {row : S.Row t}
    (member : row ∈ db t)
    : db.find? t (S.key t row) = some row := by
  have unique := keyed t
  unfold find?
  generalize db t = rows at member unique
  induction rows with
  | nil => cases member
  | cons head tail ih =>
      simp only [List.map_cons, List.nodup_cons] at unique
      rcases List.mem_cons.mp member with same | later
      · subst same
        simp
      · have differs : S.key t head ≠ S.key t row := by
          intro same
          exact unique.1 (same ▸ List.mem_map_of_mem later)
        rw [List.find?_cons_of_neg (by simpa using differs)]
        exact ih later unique.2

/-- Rows of one table with one key are the same. -/
theorem eq_of_key {db : Db S} (keyed : db.Keyed) {t : S.Table} {first second : S.Row t}
    (left : first ∈ db t) (right : second ∈ db t) (same : S.key t first = S.key t second)
    : first = second :=
  List.inj_on_of_nodup_map (keyed t) left right same

theorem mem_iff_find? {db : Db S} (keyed : db.Keyed) {t : S.Table} {row : S.Row t}
    : row ∈ db t ↔ db.find? t (S.key t row) = some row :=
  ⟨find?_of_mem keyed, mem_of_find?⟩

/-- Keys after an upsert: unchanged when the key was present, else one more at the end. -/
theorem upsert_keys (t : S.Table) (row : S.Row t) (rows : List (S.Row t))
    : (upsert t row rows).map (S.key t)
      = if S.key t row ∈ rows.map (S.key t) then rows.map (S.key t)
        else rows.map (S.key t) ++ [S.key t row] := by
  unfold upsert
  by_cases present : S.key t row ∈ rows.map (S.key t)
  · have found : rows.any (fun old => S.key t old == S.key t row) = true := by
      simpa using present
    rw [if_pos found, if_pos present, List.map_map]
    apply List.map_congr_left
    intro old _
    by_cases same : S.key t old = S.key t row <;> simp [same]
  · have absent : rows.any (fun old => S.key t old == S.key t row) = false := by
      simpa using present
    rw [if_neg (by simp [absent]), if_neg present]
    simp

theorem put_keyed {db : Db S} (keyed : db.Keyed) (t : S.Table) (row : S.Row t)
    : (db.put t row).Keyed := by
  intro t'
  unfold put
  by_cases same : t' = t
  · subst same
    rw [Function.update_self, upsert_keys]
    split
    · exact keyed t'
    · rename_i absent
      simpa [List.nodup_append] using ⟨keyed t', by simpa using absent⟩
  · rw [Function.update_of_ne same]
    exact keyed t'

theorem remove_keyed {db : Db S} (keyed : db.Keyed) (t : S.Table) (k : S.Key)
    : (db.remove t k).Keyed := by
  intro t'
  unfold remove
  by_cases same : t' = t
  · subst same
    rw [Function.update_self]
    exact (keyed t').sublist ((List.filter_sublist).map _)
  · rw [Function.update_of_ne same]
    exact keyed t'

private theorem find?_upsert_self (t : S.Table) (row : S.Row t) (rows : List (S.Row t))
    : (upsert t row rows).find? (fun old => S.key t old == S.key t row) = some row := by
  unfold upsert
  split
  · rename_i present
    induction rows with
    | nil => simp at present
    | cons head tail ih =>
        by_cases same : S.key t head = S.key t row
        · simp [same]
        · have later : tail.any (fun old => S.key t old == S.key t row) = true := by
            simpa [same] using present
          simp only [List.map_cons, same, if_false]
          rw [List.find?_cons_of_neg (by simpa using same)]
          exact ih later
  · rename_i absent
    rw [List.find?_append, List.find?_eq_none.mpr (by simpa using absent)]
    simp

private theorem find?_upsert_other (t : S.Table) (row : S.Row t) (rows : List (S.Row t))
    {k : S.Key} (other : k ≠ S.key t row)
    : (upsert t row rows).find? (fun old => S.key t old == k)
      = rows.find? (fun old => S.key t old == k) := by
  unfold upsert
  split
  · clear * - other
    induction rows with
    | nil => rfl
    | cons head tail ih =>
        by_cases same : S.key t head = S.key t row
        · have skip : S.key t head ≠ k := fun h => other (h ▸ same)
          rw [List.map_cons, if_pos same, List.find?_cons_of_neg (by simpa using other.symm),
            List.find?_cons_of_neg (by simpa using skip), ih]
        · simp only [List.map_cons, same, if_false, List.find?_cons, ih]
  · simp [List.find?_append, other.symm]

@[simp] theorem find?_put_self (db : Db S) (t : S.Table) (row : S.Row t)
    : (db.put t row).find? t (S.key t row) = some row := by
  unfold find? put
  rw [Function.update_self]
  exact find?_upsert_self t row (db t)

theorem find?_put_other (db : Db S) {t t' : S.Table} {row : S.Row t} {k : S.Key}
    (other : t' ≠ t ∨ k ≠ S.key t row)
    : (db.put t row).find? t' k = db.find? t' k := by
  unfold find? put
  by_cases same : t' = t
  · subst same
    rw [Function.update_self]
    exact find?_upsert_other t' row (db t') (other.resolve_left (by simp))
  · rw [Function.update_of_ne same]

/-- A new key is appended. -/
theorem put_of_absent {db : Db S} {t : S.Table} {row : S.Row t}
    (absent : db.find? t (S.key t row) = none)
    : (db.put t row) t = db t ++ [row] := by
  have none : (db t).any (fun old => S.key t old == S.key t row) = false := by
    simpa [find?] using absent
  simp [put, upsert, none]

/-- A known key is replaced in place, so projections that agree on the two rows stay. -/
theorem map_put_of_found {β : Type} {db : Db S} (keyed : db.Keyed) {t : S.Table}
    {row old : S.Row t} {project : S.Row t → β}
    (found : db.find? t (S.key t row) = some old) (agree : project row = project old)
    : ((db.put t row) t).map project = (db t).map project := by
  have present : (db t).any (fun other => S.key t other == S.key t row) = true :=
    List.any_eq_true.mpr ⟨old, mem_of_find? found, by simpa using find?_key found⟩
  simp only [put, Function.update_self, upsert, present, if_true, List.map_map]
  apply List.map_congr_left
  intro other member
  by_cases same : S.key t other = S.key t row
  · have here := find?_of_mem keyed member
    rw [same, found] at here
    simp only [Option.some.injEq] at here
    simp [same, agree, here]
  · simp [same]

theorem mem_put {db : Db S} (keyed : db.Keyed) {t : S.Table} {row other : S.Row t}
    : other ∈ (db.put t row) t
      ↔ other = row ∨ (other ∈ db t ∧ S.key t other ≠ S.key t row) := by
  rw [mem_iff_find? (put_keyed keyed t row)]
  by_cases same : S.key t other = S.key t row
  · rw [same, find?_put_self]
    simp [eq_comm]
  · rw [find?_put_other db (.inr same), ← mem_iff_find? keyed]
    have differs : other ≠ row := fun h => same (congrArg _ h)
    simp [same, differs]

theorem put_table_other (db : Db S) {t t' : S.Table} (row : S.Row t) (other : t' ≠ t)
    : (db.put t row) t' = db t' :=
  Function.update_of_ne other _ _

theorem remove_table_other (db : Db S) {t t' : S.Table} (k : S.Key) (other : t' ≠ t)
    : (db.remove t k) t' = db t' :=
  Function.update_of_ne other _ _

@[simp] theorem find?_remove_self (db : Db S) (t : S.Table) (k : S.Key)
    : (db.remove t k).find? t k = none := by
  unfold find? remove
  rw [Function.update_self]
  exact List.find?_eq_none.mpr (by intro row member; simpa using (List.mem_filter.mp member).2)

theorem find?_remove_other (db : Db S) {t t' : S.Table} {k k' : S.Key}
    (other : t' ≠ t ∨ k' ≠ k)
    : (db.remove t k).find? t' k' = db.find? t' k' := by
  unfold find? remove
  by_cases same : t' = t
  · subst same
    rw [Function.update_self, List.find?_filter]
    congr 1
    funext row
    by_cases hit : S.key t' row = k'
    · simp [hit, other.resolve_left (by simp)]
    · simp [hit]
  · rw [Function.update_of_ne same]

end Db

/-- One row-level write. -/
inductive Write (S : Schema) where
  | put (t : S.Table) (row : S.Row t)
  | remove (t : S.Table) (k : S.Key)

namespace Write

def apply : Write S → Db S → Db S
  | put t row, db => db.put t row
  | remove t k, db => db.remove t k

/-- The row a write is about. -/
def target : Write S → S.Table × S.Key
  | put t row => (t, S.key t row)
  | remove t k => (t, k)

/-- The row a write leaves under its target. -/
def row? (t : S.Table) : Write S → Option (S.Row t)
  | put t' row => if h : t' = t then some (h ▸ row) else none
  | remove _ _ => none

theorem apply_keyed {db : Db S} (keyed : db.Keyed) (write : Write S)
    : (write.apply db).Keyed := by
  cases write with
  | put t row => exact Db.put_keyed keyed t row
  | remove t k => exact Db.remove_keyed keyed t k

theorem find?_apply_other (db : Db S) (write : Write S) {t : S.Table} {k : S.Key}
    (other : write.target ≠ (t, k))
    : (write.apply db).find? t k = db.find? t k := by
  cases write with
  | put t' row =>
      apply Db.find?_put_other
      simp only [target, ne_eq, Prod.mk.injEq, not_and] at other
      by_cases same : t = t'
      · exact .inr (fun h => other same.symm h.symm)
      · exact .inl same
  | remove t' k' =>
      apply Db.find?_remove_other
      simp only [target, ne_eq, Prod.mk.injEq, not_and] at other
      by_cases same : t = t'
      · exact .inr (fun h => other same.symm h.symm)
      · exact .inl same

/-- A write settles the lookup of its target whatever the database was. -/
theorem find?_apply_target (first second : Db S) (write : Write S) {t : S.Table} {k : S.Key}
    (hit : write.target = (t, k))
    : (write.apply first).find? t k = (write.apply second).find? t k := by
  cases write with
  | put t' row =>
      simp only [target, Prod.mk.injEq] at hit
      obtain ⟨rfl, rfl⟩ := hit
      simp [apply]
  | remove t' k' =>
      simp only [target, Prod.mk.injEq] at hit
      obtain ⟨rfl, rfl⟩ := hit
      simp [apply]

/-- Apply a list of writes in order. -/
def applyAll (writes : List (Write S)) (db : Db S) : Db S :=
  writes.foldl (fun current write => write.apply current) db

theorem applyAll_append (first second : List (Write S)) (db : Db S)
    : applyAll (first ++ second) db = applyAll second (applyAll first db) :=
  List.foldl_append

theorem applyAll_keyed {db : Db S} (keyed : db.Keyed) (writes : List (Write S))
    : (applyAll writes db).Keyed := by
  induction writes generalizing db with
  | nil => exact keyed
  | cons write rest ih => exact ih (apply_keyed keyed write)

/-- Rows that no write is about keep their lookup, by induction on the writes. -/
theorem find?_applyAll_other (db : Db S) (writes : List (Write S)) {t : S.Table}
    {k : S.Key} (other : ∀ write ∈ writes, write.target ≠ (t, k))
    : (applyAll writes db).find? t k = db.find? t k := by
  induction writes generalizing db with
  | nil => rfl
  | cons write rest ih =>
      have tail := ih (write.apply db) (fun later member => other later (by simp [member]))
      exact tail.trans (find?_apply_other db write (other write (by simp)))

/-- Tables that no write is about stay as they are, by induction on the writes. -/
theorem applyAll_table_other (db : Db S) (writes : List (Write S)) {t : S.Table}
    (other : ∀ write ∈ writes, write.target.1 ≠ t)
    : (applyAll writes db) t = db t := by
  induction writes generalizing db with
  | nil => rfl
  | cons write rest ih =>
      have tail := ih (write.apply db) (fun later member => other later (by simp [member]))
      have head := other write (by simp)
      refine tail.trans ?_
      cases write with
      | put t' row => exact Db.put_table_other db row (Ne.symm head)
      | remove t' k => exact Db.remove_table_other db k (Ne.symm head)

/-- A row that some write is about is settled by the writes alone.
Witness: the first write about it forgets the database, the later ones keep agreeing.
-/
theorem find?_applyAll_target (first second : Db S) {writes : List (Write S)} {t : S.Table}
    {k : S.Key} (hit : ∃ write ∈ writes, write.target = (t, k))
    : (applyAll writes first).find? t k = (applyAll writes second).find? t k := by
  induction writes generalizing first second with
  | nil => simp at hit
  | cons write rest ih =>
      by_cases later : ∃ other ∈ rest, other.target = (t, k)
      · exact ih (write.apply first) (write.apply second) later
      · have quiet : ∀ other ∈ rest, other.target ≠ (t, k) := by
          intro other member same
          exact later ⟨other, member, same⟩
        obtain ⟨chosen, member, same⟩ := hit
        rcases List.mem_cons.mp member with rfl | inRest
        · calc (applyAll rest (chosen.apply first)).find? t k
              = (chosen.apply first).find? t k := find?_applyAll_other _ rest quiet
            _ = (chosen.apply second).find? t k := find?_apply_target first second chosen same
            _ = (applyAll rest (chosen.apply second)).find? t k :=
                (find?_applyAll_other _ rest quiet).symm
        · exact absurd same (quiet chosen inRest)

/-- A row found after writes about it was put by one of them. -/
theorem put_of_find?_applyAll {db : Db S} {writes : List (Write S)} {t : S.Table}
    {k : S.Key} {row : S.Row t} (hit : ∃ write ∈ writes, write.target = (t, k))
    (found : (applyAll writes db).find? t k = some row)
    : Write.put t row ∈ writes := by
  induction writes generalizing db with
  | nil => simp at hit
  | cons write rest ih =>
      by_cases later : ∃ other ∈ rest, other.target = (t, k)
      · exact List.mem_cons_of_mem _ (ih later found)
      · have quiet : ∀ other ∈ rest, other.target ≠ (t, k) := by
          intro other member same
          exact later ⟨other, member, same⟩
        obtain ⟨chosen, member, same⟩ := hit
        rcases List.mem_cons.mp member with rfl | inRest
        · have here : (chosen.apply db).find? t k = some row :=
            (find?_applyAll_other _ rest quiet).symm.trans found
          cases chosen with
          | put t' row' =>
              simp only [target, Prod.mk.injEq] at same
              obtain ⟨rfl, rfl⟩ := same
              simp only [apply, Db.find?_put_self, Option.some.injEq] at here
              subst here
              exact List.mem_cons_self
          | remove t' k' =>
              simp only [target, Prod.mk.injEq] at same
              obtain ⟨rfl, rfl⟩ := same
              simp [apply] at here
        · exact absurd same (quiet chosen inRest)

end Write

end Transactions
