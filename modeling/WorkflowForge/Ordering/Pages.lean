import Mathlib.Data.List.Basic

/-! Consecutive pages of a list. -/

namespace Pages

variable {α : Type}

/-- The page of a number, counted from zero. -/
def pageAt (rows : List α) (limit number : Nat) : List α := (rows.drop (number * limit)).take limit

theorem pageAt_map {β : Type} (f : α → β) (rows : List α) (limit number : Nat)
    : pageAt (rows.map f) limit number = (pageAt rows limit number).map f := by
  simp [pageAt, List.map_take, List.map_drop]

theorem mem_pageAt {rows : List α} {limit number : Nat} {row : α}
    (member : row ∈ pageAt rows limit number)
    : row ∈ rows :=
  List.mem_of_mem_drop (List.mem_of_mem_take member)

/-- The first pages together are a prefix of the list, by induction on their number. -/
theorem flatMap_pageAt (rows : List α) (limit count : Nat)
    : (List.range count).flatMap (pageAt rows limit) = rows.take (count * limit) := by
  induction count with
  | zero => simp
  | succ count ih =>
      rw [List.range_succ, List.flatMap_append, ih, Nat.succ_mul, List.take_add]
      simp [pageAt]

/-- Enough pages together are the whole list. -/
theorem flatMap_pageAt_complete {rows : List α} {limit count : Nat}
    (enough : rows.length ≤ count * limit)
    : (List.range count).flatMap (pageAt rows limit) = rows := by
  rw [flatMap_pageAt, List.take_of_length_le enough]

end Pages
