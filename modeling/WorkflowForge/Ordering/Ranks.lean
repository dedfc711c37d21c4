import Mathlib.Order.Lattice

/-! The first elements of a sorted list, found by counting the smaller ones. -/

namespace Ranks

variable {α κ : Type} [LinearOrder κ]

/-- How many of the rows have a smaller key. -/
def rank (key : α → κ) (rows : List α) (a : α) : Nat :=
  rows.countP (fun other => decide (key other < key a))

/-- Smaller keys have smaller ranks. -/
theorem rank_mono {key : α → κ} (rows : List α) {a b : α} (le : key a ≤ key b)
    : rank key rows a ≤ rank key rows b := by
  apply List.countP_mono_left
  intro other _ smaller
  simp only [decide_eq_true_eq] at smaller ⊢
  exact lt_of_lt_of_le smaller le

theorem rank_perm {key : α → κ} {rows others : List α} (perm : rows.Perm others) (a : α)
    : rank key rows a = rank key others a :=
  perm.countP_eq _

/-- In a strictly sorted list the rank of an element is its index. -/
theorem rank_getElem {key : α → κ} {rows : List α}
    (sorted : rows.Pairwise (fun a b => key a < key b)) {n : Nat} {a : α}
    (found : rows[n]? = some a)
    : rank key rows a = n := by
  induction rows generalizing n with
  | nil => simp at found
  | cons head tail ih =>
      obtain ⟨least, sorted⟩ := List.pairwise_cons.mp sorted
      cases n with
      | zero =>
          simp only [List.getElem?_cons_zero, Option.some.injEq] at found
          subst found
          simp only [rank, List.countP_cons, lt_irrefl, decide_false, Bool.false_eq_true,
            if_false, Nat.add_zero]
          apply List.countP_eq_zero.mpr
          intro other member
          simpa using le_of_lt (least other member)
      | succ n =>
          simp only [List.getElem?_cons_succ] at found
          have smaller := least a (List.mem_of_getElem? found)
          have rest := ih sorted found
          simp only [rank] at rest ⊢
          simp [rest, smaller]

/-- The first elements of a strictly sorted list are those of small rank. -/
theorem mem_take_iff_rank {key : α → κ} {rows : List α}
    (sorted : rows.Pairwise (fun a b => key a < key b)) {limit : Nat} {a : α}
    : a ∈ rows.take limit ↔ a ∈ rows ∧ rank key rows a < limit := by
  constructor
  · intro member
    obtain ⟨n, found⟩ := List.mem_iff_getElem?.mp member
    rw [List.getElem?_take] at found
    split at found
    · rename_i inside
      rw [rank_getElem sorted found]
      exact ⟨List.mem_of_getElem? found, inside⟩
    · contradiction
  · rintro ⟨member, small⟩
    obtain ⟨n, found⟩ := List.mem_iff_getElem?.mp member
    rw [rank_getElem sorted found] at small
    exact List.mem_iff_getElem?.mpr ⟨n, by rw [List.getElem?_take, if_pos small, found]⟩

/-- Sorting by different keys is strict. -/
theorem pairwise_sorted {key : α → κ} {rows : List α} (distinct : (rows.map key).Nodup)
    : (rows.mergeSort (fun a b => decide (key a ≤ key b))).Pairwise
        (fun a b => key a < key b) := by
  have ordered : (rows.mergeSort (fun a b => decide (key a ≤ key b))).Pairwise
      (fun a b => decide (key a ≤ key b) = true) := by
    apply List.pairwise_mergeSort
    · intro a b c first second
      simp only [decide_eq_true_eq] at first second ⊢
      exact le_trans first second
    · intro a b
      simpa using le_total (key a) (key b)
  have apart : ((rows.mergeSort (fun a b => decide (key a ≤ key b))).map key).Nodup :=
    ((List.mergeSort_perm rows _).map key).nodup_iff.mpr distinct
  refine ((List.pairwise_map.mp apart).and ordered).imp ?_
  rintro a b ⟨different, le⟩
  exact lt_of_le_of_ne (by simpa using le) different

/-- `ORDER BY key LIMIT limit` chooses the rows of small rank. -/
theorem mem_take_mergeSort {key : α → κ} {rows : List α} (distinct : (rows.map key).Nodup)
    {limit : Nat} {a : α}
    : a ∈ (rows.mergeSort (fun a b => decide (key a ≤ key b))).take limit
      ↔ a ∈ rows ∧ rank key rows a < limit := by
  rw [mem_take_iff_rank (pairwise_sorted distinct), List.mem_mergeSort,
    rank_perm (List.mergeSort_perm rows _)]

end Ranks
