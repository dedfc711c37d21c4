import WorkflowForge.Transactions.Isolation

/-! Lookups in the view of a session, from the set of its uncommitted writes.
The order of the writes does not matter as long as a row is only put, or only removed.
-/

namespace Transactions

variable {S : Schema}

namespace Write

/-- A row that is put and never removed is there, by induction on the writes. -/
theorem find?_applyAll_isSome {db : Db S} {writes : List (Write S)} {t : S.Table} {k : S.Key}
    (hit : ∃ write ∈ writes, write.target = (t, k)) (kept : Write.remove t k ∉ writes)
    : ((applyAll writes db).find? t k).isSome := by
  induction writes generalizing db with
  | nil => simp at hit
  | cons write rest ih =>
      have keptRest : Write.remove t k ∉ rest := fun member => kept (by simp [member])
      by_cases later : ∃ other ∈ rest, other.target = (t, k)
      · exact ih later keptRest
      · have quiet : ∀ other ∈ rest, other.target ≠ (t, k) := by
          intro other member same
          exact later ⟨other, member, same⟩
        obtain ⟨chosen, member, same⟩ := hit
        rcases List.mem_cons.mp member with rfl | inRest
        · have skip := find?_applyAll_other (chosen.apply db) rest quiet
          change ((applyAll rest (chosen.apply db)).find? t k).isSome
          rw [skip]
          cases chosen with
          | put t' row =>
              simp only [target, Prod.mk.injEq] at same
              obtain ⟨rfl, rfl⟩ := same
              simp [apply]
          | remove t' k' =>
              simp only [target, Prod.mk.injEq] at same
              obtain ⟨rfl, rfl⟩ := same
              exact absurd List.mem_cons_self kept
        · exact absurd same (quiet chosen inRest)

/-- A row that is removed and never put is gone. -/
theorem find?_applyAll_removed {db : Db S} {writes : List (Write S)} {t : S.Table} {k : S.Key}
    (removed : Write.remove t k ∈ writes)
    (unput : ∀ row, Write.put t row ∈ writes → S.key t row ≠ k)
    : (applyAll writes db).find? t k = none := by
  cases found : (applyAll writes db).find? t k with
  | none => rfl
  | some row =>
      have member := put_of_find?_applyAll ⟨_, removed, rfl⟩ found
      exact absurd (Db.find?_key found) (unput row member)

/-- The lookup of a row that is not put. -/
theorem find?_applyAll_remove (db : Db S) {writes : List (Write S)} {t : S.Table} {k : S.Key}
    (unput : ∀ row, Write.put t row ∈ writes → S.key t row ≠ k)
    : (Write.remove t k ∈ writes ∧ (applyAll writes db).find? t k = none)
      ∨ (Write.remove t k ∉ writes ∧ (applyAll writes db).find? t k = db.find? t k) := by
  by_cases removed : Write.remove t k ∈ writes
  · exact .inl ⟨removed, find?_applyAll_removed removed unput⟩
  · refine .inr ⟨removed, ?_⟩
    apply find?_applyAll_other
    intro write member hit
    cases write with
    | put t' row =>
        simp only [target, Prod.mk.injEq] at hit
        obtain ⟨rfl, rfl⟩ := hit
        exact unput row member rfl
    | remove t' k' =>
        simp only [target, Prod.mk.injEq] at hit
        obtain ⟨rfl, rfl⟩ := hit
        exact removed member

theorem mem_put_table {db : Db S} {t t' : S.Table} {row : S.Row t} {other : S.Row t'}
    (member : other ∈ (db.put t row) t')
    : other ∈ db t' ∨ Write.put t row = .put t' other := by
  by_cases same : t' = t
  · subst same
    simp only [Db.put, Function.update_self, Db.upsert] at member
    split at member
    · obtain ⟨old, present, choice⟩ := List.mem_map.mp member
      split at choice
      · exact .inr (by rw [choice])
      · exact .inl (choice ▸ present)
    · rcases List.mem_append.mp member with old | fresh
      · exact .inl old
      · exact .inr (by rw [List.mem_singleton.mp fresh])
  · rw [Db.put_table_other db row same] at member
    exact .inl member

/-- A row that is there after writes was there before or was put, by induction on them. -/
theorem mem_applyAll {db : Db S} {writes : List (Write S)} {t : S.Table} {row : S.Row t}
    (member : row ∈ (applyAll writes db) t)
    : row ∈ db t ∨ Write.put t row ∈ writes := by
  induction writes generalizing db with
  | nil => exact .inl member
  | cons write rest ih =>
      rcases ih member with early | late
      · cases write with
        | put t' other =>
            rcases mem_put_table early with old | same
            · exact .inl old
            · exact .inr (by rw [same]; exact List.mem_cons_self)
        | remove t' k =>
            refine .inl ?_
            by_cases same : t = t'
            · subst same
              simp only [apply, Db.remove, Function.update_self] at early
              exact (List.mem_filter.mp early).1
            · change row ∈ (db.remove t' k) t at early
              rwa [Db.remove_table_other db k same] at early
      · exact .inr (List.mem_cons_of_mem _ late)

/-- The effect of writes on a table depends on that table only. By induction on the writes. -/
theorem applyAll_table_congr {first second : Db S} (writes : List (Write S)) {t : S.Table}
    (same : first t = second t)
    : (applyAll writes first) t = (applyAll writes second) t := by
  induction writes generalizing first second with
  | nil => exact same
  | cons write rest ih =>
      refine ih ?_
      cases write with
      | put t' row =>
          by_cases here : t = t'
          · subst here
            simp only [apply, Db.put, Function.update_self, same]
          · simp only [apply, Db.put_table_other _ _ here, same]
      | remove t' k =>
          by_cases here : t = t'
          · subst here
            simp only [apply, Db.remove, Function.update_self, same]
          · simp only [apply, Db.remove_table_other _ _ here, same]

end Write

namespace Store

/-- Where an uncommitted row comes from, by cases on the statement. -/
theorem exec_put {store after : Store S} {i : Nat} {statement : Statement S}
    {answer : statement.Answer} (ran : exec i statement store = some (answer, after)) {j : Nat}
    {t : S.Table} {row : S.Row t} (member : (j, Write.put t row) ∈ after.pending)
    : (j, Write.put t row) ∈ store.pending
      ∨ statement = .insert t row
      ∨ ∃ k change old,
          statement = .update t k change
          ∧ (store.view i).find? t k = some old
          ∧ change old = some row := by
  cases statement with
  | select query =>
      simp only [exec, Option.some.injEq, Prod.mk.injEq] at ran
      rw [← ran.2] at member
      exact .inl member
  | selectForUpdate t' k chosen =>
      rcases exec_selectForUpdate ran with ⟨-, ⟨-, rfl⟩ | ⟨-, -, rfl⟩⟩ <;> exact .inl member
  | insert t' row' =>
      simp only [exec] at ran
      split at ran
      · contradiction
      split at ran
      · simp only [Option.some.injEq, Prod.mk.injEq] at ran
        rw [← ran.2] at member
        exact .inl member
      split at ran
      · simp only [Option.some.injEq, Prod.mk.injEq] at ran
        rw [← ran.2] at member
        exact .inl member
      split at ran
      · contradiction
      simp only [Option.some.injEq, Prod.mk.injEq] at ran
      rw [← ran.2] at member
      simp only [stage, List.mem_append, List.mem_singleton, Prod.mk.injEq] at member
      rcases member with old | ⟨-, same⟩
      · exact .inl old
      · cases same
        exact .inr (.inl rfl)
  | update t' k change =>
      rcases exec_update ran
        with ⟨-, -, rfl⟩ | ⟨-, rfl⟩ | ⟨old, row', -, found, changed, -, -, rfl, -⟩
      · exact .inl member
      · exact .inl member
      · simp only [stage, List.mem_append, List.mem_singleton, Prod.mk.injEq] at member
        rcases member with before | ⟨-, same⟩
        · exact .inl before
        · cases same
          exact .inr (.inr ⟨k, change, old, rfl, found, changed⟩)
  | delete t' chosen =>
      obtain ⟨-, -, rfl⟩ := exec_delete ran
      rw [stage_removals] at member
      rcases List.mem_append.mp member with old | removed
      · exact .inl old
      · obtain ⟨_, -, same⟩ := List.mem_map.mp removed
        cases same
  | commit =>
      simp only [exec, Option.some.injEq, Prod.mk.injEq] at ran
      rw [← ran.2] at member
      exact .inl (mem_release_pending.mp member).1
  | rollback =>
      simp only [exec, Option.some.injEq, Prod.mk.injEq] at ran
      rw [← ran.2] at member
      exact .inl (mem_release_pending.mp member).1

/-- The committed rows change only by a commit of the session's view. -/
theorem exec_committed_cases {store after : Store S} {i : Nat} {statement : Statement S}
    {answer : statement.Answer} (ran : exec i statement store = some (answer, after))
    : after.committed = store.committed ∨ after.committed = store.view i := by
  by_cases committing : statement = .commit
  · subst committing
    simp only [exec, Option.some.injEq, Prod.mk.injEq] at ran
    rw [← ran.2]
    exact .inr rfl
  · exact .inl (exec_committed ran committing)

/-- The lookup of a row that session `i` does not remove. -/
theorem find?_view_put (store : Store S) (i : Nat) {t : S.Table} {k : S.Key}
    (kept : Write.remove t k ∉ store.own i)
    : ((store.view i).find? t k = store.committed.find? t k
        ∧ ∀ row, Write.put t row ∈ store.own i → S.key t row ≠ k)
      ∨ ∃ row,
          Write.put t row ∈ store.own i
          ∧ S.key t row = k
          ∧ (store.view i).find? t k = some row := by
  rcases store.find?_view_cases i (t := t) (k := k) with ⟨same, untouched⟩ | ⟨touched, puts⟩
  · refine .inl ⟨same, ?_⟩
    intro row member hit
    exact untouched _ member (by simp [Write.target, hit])
  · have present : ((store.view i).find? t k).isSome :=
      Write.find?_applyAll_isSome touched kept
    obtain ⟨row, found⟩ := Option.isSome_iff_exists.mp present
    exact .inr ⟨row, puts row found, Db.find?_key found, found⟩

/-- The lookup of a row that session `i` does not put. -/
theorem find?_view_remove (store : Store S) (i : Nat) {t : S.Table} {k : S.Key}
    (unput : ∀ row, Write.put t row ∈ store.own i → S.key t row ≠ k)
    : (Write.remove t k ∈ store.own i ∧ (store.view i).find? t k = none)
      ∨ (Write.remove t k ∉ store.own i
          ∧ (store.view i).find? t k = store.committed.find? t k) :=
  Write.find?_applyAll_remove store.committed unput

/-- A table that session `i` does not write looks as it is committed. -/
theorem view_table (store : Store S) (i : Nat) {t : S.Table}
    (untouched : ∀ write ∈ store.own i, write.target.1 ≠ t)
    : store.view i t = store.committed t :=
  Write.applyAll_table_other store.committed (store.own i) untouched

/-- An accepted INSERT fits its columns. -/
theorem exec_insert_fits {store after : Store S} {i : Nat} {t : S.Table} {row : S.Row t}
    (ran : exec i (.insert t row) store = some (.ok (), after))
    : S.fits t row = true := by
  simp only [exec] at ran
  split at ran
  · contradiction
  split at ran
  · simp at ran
  split at ran
  · simp at ran
  · rename_i fits
    simpa using fits

/-- A DataError of an INSERT is about column widths. -/
theorem exec_insert_wide {store after : Store S} {i : Nat} {t : S.Table} {row : S.Row t}
    (ran : exec i (.insert t row) store = some (.error .data, after))
    : S.fits t row = false := by
  simp only [exec] at ran
  split at ran
  · contradiction
  split at ran
  · simp at ran
  split at ran
  · rename_i wide
    simpa using wide
  split at ran
  · contradiction
  · simp at ran

/-- Why an UPDATE is refused. -/
theorem exec_update_refused {store after : Store S} {i : Nat} {t : S.Table} {k : S.Key}
    {change : S.Row t → Option (S.Row t)} {violation : Violation}
    (ran : exec i (.update t k change) store = some (.error violation, after))
    : ∃ old row,
        (store.view i).find? t k = some old
        ∧ change old = some row
        ∧ (S.key t row ≠ k
            ∨ duplicates (store.view i) t row = true
            ∨ S.sound (store.view i) t row = false
            ∨ S.fits t row = false) := by
  simp only [exec] at ran
  split at ran
  · simp at ran
  rename_i row matched
  obtain ⟨old, found, changed⟩ := Option.bind_eq_some_iff.mp matched
  refine ⟨old, row, found, changed, ?_⟩
  split at ran
  · contradiction
  split at ran
  · rename_i refused
    simp only [Bool.or_eq_true, decide_eq_true_eq, Bool.not_eq_true'] at refused
    rcases refused with (moved | duplicate) | unsound
    · exact .inl moved
    · exact .inr (.inl duplicate)
    · exact .inr (.inr (.inl unsound))
  split at ran
  · rename_i wide
    exact .inr (.inr (.inr (by simpa using wide)))
  split at ran
  · contradiction
  · simp at ran

/-- A row without unique columns is uncontested where nobody else holds it. -/
theorem uncontested {store : Store S} (coherent : store.Coherent) {i : Nat} {t : S.Table}
    {row : S.Row t} (free : store.heldByOther i t (S.key t row) = false)
    (lone : ∀ other, S.clash t row other = false)
    : store.contested i t row = false := by
  simp only [contested, List.any_eq_false, Bool.and_eq_true, bne_iff_ne, ne_eq, not_and,
    Bool.not_eq_true]
  rintro ⟨j, write⟩ member different
  cases write with
  | remove t' k => rfl
  | put t' other =>
      by_cases same : t' = t
      · subst same
        have elsewhere : S.key t' other ≠ S.key t' row := by
          intro here
          have lock := coherent.covered j _ member
          simp only [Write.target, here] at lock
          exact different (heldByOther_eq_false.mp free j lock)
        simp [Write.row?, elsewhere, lone]
      · simp [Write.row?, same]

/-- The database takes the row from session `i` without an error or a wait. -/
structure Accepts (store : Store S) (i : Nat) (t : S.Table) (row : S.Row t) : Prop where
  settled : store.departing i t row = false
  new : (store.view i).find? t (S.key t row) = none
  single : duplicates (store.view i) t row = false
  sound : S.sound (store.view i) t row = true
  fits : S.fits t row = true
  uncontested : store.contested i t row = false
  unbarred : store.barred i (.put t row) = false

theorem exec_insert_ok {store after : Store S} {i : Nat} {t : S.Table} {row : S.Row t}
    : exec i (.insert t row) store = some (.ok (), after)
      ↔ store.Accepts i t row ∧ store.stage i (.put t row) = after := by
  constructor
  · intro ran
    simp only [exec] at ran
    split at ran
    · cases ran
    rename_i settled
    split at ran
    · cases ran
    rename_i valid
    split at ran
    · cases ran
    rename_i fits
    split at ran
    · cases ran
    rename_i free
    obtain ⟨-, rfl⟩ := Prod.mk.inj (Option.some.inj ran)
    simp only [Bool.or_eq_true, Bool.not_eq_true', not_or, Bool.not_eq_true,
      Bool.not_eq_false, Option.isSome_eq_false_iff, Option.isNone_iff_eq_none] at valid
    refine ⟨?_, rfl⟩
    exact {
      settled := by simpa using settled
      new := valid.1.1
      single := valid.1.2
      sound := valid.2
      fits := by simpa using fits
      uncontested := (Bool.or_eq_false_iff.mp (by simpa using free)).1
      unbarred := (Bool.or_eq_false_iff.mp (by simpa using free)).2
    }
  · rintro ⟨accepts, rfl⟩
    simp [exec, accepts.settled, accepts.new, accepts.single, accepts.sound, accepts.fits,
      accepts.uncontested, accepts.unbarred]

/-- A refused INSERT changes nothing. -/
theorem exec_insert_error {store after : Store S} {i : Nat} {t : S.Table} {row : S.Row t}
    {violation : Violation}
    (ran : exec i (.insert t row) store = some (.error violation, after))
    : after = store := by
  simp only [exec] at ran
  split at ran
  · cases ran
  split at ran
  · exact (Prod.mk.inj (Option.some.inj ran)).2.symm
  split at ran
  · exact (Prod.mk.inj (Option.some.inj ran)).2.symm
  split at ran
  · cases ran
  · cases (Prod.mk.inj (Option.some.inj ran)).1

/-- Whether a row is accepted does not depend on the histories. -/
theorem accepts_congr {store other : Store S}
    (same : ∃ history, other = { store with history := history }) {i : Nat} {t : S.Table}
    {row : S.Row t}
    : other.Accepts i t row ↔ store.Accepts i t row := by
  obtain ⟨history, rfl⟩ := same
  exact ⟨fun taken => { taken with }, fun taken => { taken with }⟩

end Store

end Transactions
