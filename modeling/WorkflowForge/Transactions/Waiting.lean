import WorkflowForge.Transactions.Lookups

/-! Which statements wait, and for whom.
A statement waits for a session that holds a lock: uncommitted rows are locked by the session
that wrote them.
-/

namespace Transactions

variable {S : Schema}

namespace Store

variable {store after : Store S} {i : Nat} {t : S.Table} {k : S.Key}

theorem heldByOther_eq_true
    : store.heldByOther i t k = true ↔ ∃ j, j ≠ i ∧ (j, t, k) ∈ store.locks := by
  constructor
  · intro held
    obtain ⟨⟨j, row⟩, member, both⟩ := List.any_eq_true.mp held
    rw [Bool.and_eq_true, bne_iff_ne, decide_eq_true_eq] at both
    exact ⟨j, both.1, both.2 ▸ member⟩
  · rintro ⟨j, different, member⟩
    refine List.any_eq_true.mpr ⟨_, member, ?_⟩
    simpa using different

/-- A contested row is compared with a row that another session has put. -/
theorem exists_of_contested {row : S.Row t} (contested : store.contested i t row = true)
    : ∃ j other,
        j ≠ i
        ∧ (j, Write.put t other) ∈ store.pending
        ∧ (S.key t other = S.key t row ∨ S.clash t row other = true) := by
  obtain ⟨⟨j, write⟩, member, both⟩ := List.any_eq_true.mp contested
  rw [Bool.and_eq_true, bne_iff_ne] at both
  obtain ⟨different, compared⟩ := both
  cases write with
  | remove t' k => cases compared
  | put t' other =>
      by_cases same : t' = t
      · subst same
        simp only [Write.row?, dif_pos, Bool.or_eq_true, decide_eq_true_eq] at compared
        exact ⟨j, other, different, member, compared⟩
      · simp [Write.row?, same] at compared

theorem exists_of_leaving {row : S.Table × S.Key} (leaving : store.leaving i row = true)
    : ∃ j, j ≠ i ∧ (j, Write.remove row.1 row.2) ∈ store.pending := by
  obtain ⟨⟨j, write⟩, member, both⟩ := List.any_eq_true.mp leaving
  rw [Bool.and_eq_true, bne_iff_ne] at both
  obtain ⟨different, target⟩ := both
  cases write with
  | put t row => cases target
  | remove t k =>
      obtain rfl := of_decide_eq_true target
      exact ⟨j, different, member⟩

/-- A departing row is one that another session has deleted. -/
theorem exists_of_departing {row : S.Row t} (departing : store.departing i t row = true)
    : ∃ j k, j ≠ i ∧ (j, Write.remove t k) ∈ store.pending := by
  obtain ⟨other, -, both⟩ := List.any_eq_true.mp departing
  obtain ⟨j, different, member⟩ := exists_of_leaving (Bool.and_eq_true_iff.mp both).2
  exact ⟨j, _, different, member⟩

theorem exists_of_reserved {row : S.Table × S.Key} (reserved : store.reservedByOther i row = true)
    : ∃ j, j ≠ i ∧ (j, row) ∈ store.locks ∧ (j, row) ∈ store.reserved := by
  obtain ⟨⟨j, row'⟩, member, both⟩ := List.any_eq_true.mp reserved
  simp only [Bool.and_eq_true, bne_iff_ne, decide_eq_true_eq, List.contains_iff_mem] at both
  obtain ⟨⟨different, rfl⟩, marked⟩ := both
  exact ⟨j, different, member, marked⟩

theorem exists_of_shared (shared : store.sharedByOther i t k = true)
    : ∃ j write, j ≠ i ∧ (j, write) ∈ store.pending := by
  obtain ⟨⟨j, write⟩, member, both⟩ := List.any_eq_true.mp shared
  rw [Bool.and_eq_true, bne_iff_ne] at both
  exact ⟨j, write, both.1, member⟩

/-- A session waits only for one that holds a lock, by cases on the statement. -/
theorem exec_waits (coherent : store.Coherent) {statement : Statement S}
    (stuck : exec i statement store = none)
    : ∃ j t k, j ≠ i ∧ (j, t, k) ∈ store.locks := by
  have held
      : ∀ {t k},
          store.heldByOther i t k = true → ∃ j t k, j ≠ i ∧ (j, t, k) ∈ store.locks := by
    intro t k held
    obtain ⟨j, different, member⟩ := heldByOther_eq_true.mp held
    exact ⟨j, t, k, different, member⟩
  have pending
      : ∀ {j write}, j ≠ i → (j, write) ∈ store.pending
        → ∃ j t k, j ≠ i ∧ (j, t, k) ∈ store.locks := by
    intro j write different member
    exact ⟨j, _, _, different, coherent.covered j write member⟩
  have withheld
      : ∀ {t k},
          store.withheld i t k = true → ∃ j t k, j ≠ i ∧ (j, t, k) ∈ store.locks := by
    intro t k withheld
    rcases Bool.or_eq_true_iff.mp withheld with locked | shared
    · exact held locked
    · obtain ⟨j, write, different, member⟩ := exists_of_shared shared
      exact pending different member
  have unwritten
      : ∀ {t row},
          (store.contested i t row || store.barred i (.put t row)) = true
          → ∃ j t k, j ≠ i ∧ (j, t, k) ∈ store.locks := by
    intro t row unwritten
    rcases Bool.or_eq_true_iff.mp unwritten with contested | barred
    · obtain ⟨j, other, different, member, -⟩ := exists_of_contested contested
      exact pending different member
    · obtain ⟨parent, -, kept⟩ := List.any_eq_true.mp barred
      rcases Bool.or_eq_true_iff.mp kept with reserved | leaving
      · obtain ⟨j, different, member, -⟩ := exists_of_reserved reserved
        exact ⟨j, _, _, different, member⟩
      · obtain ⟨j, different, member⟩ := exists_of_leaving leaving
        exact pending different member
  cases statement with
  | select query => simp [exec] at stuck
  | selectForUpdate t k chosen =>
      simp only [exec] at stuck
      split at stuck
      · cases stuck
      · split at stuck
        · exact withheld ‹_›
        · cases stuck
  | insert t row =>
      simp only [exec] at stuck
      split at stuck
      · obtain ⟨j, k, different, member⟩ := exists_of_departing ‹_›
        exact pending different member
      · repeat' split at stuck
        all_goals cases stuck
        exact unwritten ‹_›
  | update t k change =>
      simp only [exec] at stuck
      split at stuck
      · cases stuck
      · split at stuck
        · exact held ‹_›
        · repeat' split at stuck
          all_goals cases stuck
          exact unwritten ‹_›
  | delete t chosen =>
      simp only [exec] at stuck
      split at stuck
      · obtain ⟨row, -, blocked⟩ := List.any_eq_true.mp ‹_›
        exact withheld blocked
      · cases stuck
  | commit => simp [exec] at stuck
  | rollback => simp [exec] at stuck

/-- Nobody has the row locked FOR UPDATE or deletes it. -/
def Shareable (store : Store S) (row : S.Table × S.Key) : Prop :=
  (∀ j, (j, row) ∉ store.reserved) ∧ ∀ j, (j, Write.remove row.1 row.2) ∉ store.pending

theorem unbarred {write : Write S}
    (shareable : ∀ row ∈ write.references (store.view i), store.Shareable row)
    : store.barred i write = false := by
  by_contra barred
  rw [Bool.not_eq_false] at barred
  obtain ⟨row, refers, kept⟩ := List.any_eq_true.mp barred
  rcases Bool.or_eq_true_iff.mp kept with reserved | leaving
  · obtain ⟨j, -, -, marked⟩ := exists_of_reserved reserved
    exact (shareable row refers).1 j marked
  · obtain ⟨j, -, member⟩ := exists_of_leaving leaving
    exact (shareable row refers).2 j member

theorem mem_parents_of_references {db : Db S} {row : S.Row t} {parent : S.Table × S.Key}
    (refers : parent ∈ (Write.put t row).references db)
    : parent ∈ S.parents t row := by
  simp only [Write.references] at refers
  split at refers
  · exact refers
  · exact (List.mem_filter.mp refers).1

/-- Without unique columns an UPDATE of a row that the session has locked does not wait where
it refers anew to shareable rows only. -/
theorem exec_update_answered (coherent : store.Coherent) (lock : (i, t, k) ∈ store.locks)
    (lone : ∀ first second, S.clash t first second = false)
    {change : S.Row t → Option (S.Row t)}
    (shareable
      : ∀ row,
          ((store.view i).find? t k).bind change = some row
          → ∀ parent ∈ (Write.put t row).references (store.view i), store.Shareable parent)
    : exec i (.update t k change) store ≠ none := by
  intro stuck
  have free : store.heldByOther i t k = false :=
    heldByOther_eq_false.mpr (fun j held => coherent.exclusive j i _ held lock)
  simp only [exec, free] at stuck
  split at stuck
  · cases stuck
  · rename_i row matched
    rw [if_neg Bool.false_ne_true] at stuck
    split at stuck
    · cases stuck
    split at stuck
    · cases stuck
    split at stuck
    · rename_i refused _ unwritten
      have key : S.key t row = k := by
        by_contra other
        exact refused (by simp [other])
      rw [uncontested coherent (by rw [key]; exact free) (lone row),
        unbarred (shareable row matched)] at unwritten
      cases unwritten
    · cases stuck

/-- Without unique columns an INSERT whose parents are shareable waits only for an uncommitted
row of its key or for an uncommitted deletion. -/
theorem exec_insert_answered {row : S.Row t} (lone : ∀ other, S.clash t row other = false)
    (kept : ∀ j k, (j, Write.remove t k) ∉ store.pending)
    (fresh
      : ∀ j other,
          j ≠ i → (j, Write.put t other) ∈ store.pending → S.key t other ≠ S.key t row)
    (shareable : ∀ parent ∈ S.parents t row, store.Shareable parent)
    : exec i (.insert t row) store ≠ none := by
  intro stuck
  have unbarred : store.barred i (.put t row) = false :=
    unbarred (fun parent refers => shareable parent (mem_parents_of_references refers))
  simp only [exec, unbarred, Bool.or_false] at stuck
  split at stuck
  · obtain ⟨j, k, -, member⟩ := exists_of_departing ‹_›
    exact kept j k member
  · repeat' split at stuck
    all_goals cases stuck
    obtain ⟨j, other, different, member, same | clash⟩ := exists_of_contested ‹_›
    · exact fresh j other different member same
    · rw [lone other] at clash
      cases clash

/-- The writes of a DELETE: one removal for each chosen row that the session sees. -/
theorem exec_delete_writes {chosen : S.Row t → Bool} {count : Nat}
    (ran : exec i (.delete t chosen) store = some (count, after))
    : after.pending
        = store.pending
          ++ ((store.view i t).filter chosen).map (fun row => (i, Write.remove t (S.key t row)))
      ∧ after.own i
        = store.own i
          ++ ((store.view i t).filter chosen).map (fun row => .remove t (S.key t row)) := by
  obtain ⟨-, -, rfl⟩ := exec_delete ran
  refine ⟨by rw [stage_removals]; rfl, ?_⟩
  have mine
      : ∀ entry ∈ ((store.view i t).filter chosen).map
            (fun row => (i, Write.remove t (S.key t row))),
          (entry.1 == i) = true := by
    intro entry member
    obtain ⟨row, -, rfl⟩ := List.mem_map.mp member
    exact beq_self_eq_true i
  simp only [own, stage_removals, reading, record_pending, List.filter_append, List.map_append,
    List.filter_eq_self.mpr mine, List.map_map, Function.comp_def]

/-- Every uncommitted write was there before or is written by the statement, by cases on it. -/
theorem exec_pending {statement : Statement S} {answer : statement.Answer}
    (coherent : store.Coherent) (ran : exec i statement store = some (answer, after))
    {j : Nat} {write : Write S} (member : (j, write) ∈ after.pending)
    : (j, write) ∈ store.pending
      ∨ j = i
        ∧ ((∃ t row, statement = .insert t row ∧ write = .put t row)
          ∨ (∃ t k change row, statement = .update t k change ∧ write = .put t row)
          ∨ ∃ t chosen k, statement = .delete t chosen ∧ write = .remove t k) := by
  cases statement with
  | select query =>
      simp only [exec, Option.some.injEq, Prod.mk.injEq] at ran
      rw [← ran.2] at member
      exact .inl member
  | selectForUpdate t k chosen =>
      rcases exec_selectForUpdate ran with ⟨-, ⟨-, rfl⟩ | ⟨-, -, rfl⟩⟩ <;> exact .inl member
  | insert t row =>
      rcases exec_insert coherent ran with ⟨-, rfl⟩ | ⟨-, rfl, -⟩
      · exact .inl member
      · simp only [stage, List.mem_append, List.mem_singleton, Prod.mk.injEq] at member
        rcases member with old | ⟨rfl, rfl⟩
        · exact .inl old
        · exact .inr ⟨rfl, .inl ⟨t, row, rfl, rfl⟩⟩
  | update t k change =>
      rcases exec_update ran with
        ⟨-, -, rfl⟩ | ⟨-, rfl⟩ | ⟨old, row, -, -, -, -, -, rfl, -⟩
      · exact .inl member
      · exact .inl member
      · simp only [stage, List.mem_append, List.mem_singleton, Prod.mk.injEq] at member
        rcases member with old | ⟨rfl, rfl⟩
        · exact .inl old
        · exact .inr ⟨rfl, .inr (.inl ⟨t, k, change, row, rfl, rfl⟩)⟩
  | delete t chosen =>
      rw [(exec_delete_writes ran).1, List.mem_append, List.mem_map] at member
      rcases member with old | ⟨row, -, same⟩
      · exact .inl old
      · obtain ⟨rfl, rfl⟩ := Prod.mk.inj same
        exact .inr ⟨rfl, .inr (.inr ⟨t, chosen, S.key t row, rfl, rfl⟩)⟩
  | commit =>
      simp only [exec, Option.some.injEq, Prod.mk.injEq] at ran
      rw [← ran.2] at member
      exact .inl (mem_release_pending.mp member).1
  | rollback =>
      simp only [exec, Option.some.injEq, Prod.mk.injEq] at ran
      rw [← ran.2] at member
      exact .inl (mem_release_pending.mp member).1

/-- Only SELECT FOR UPDATE reserves a row. -/
theorem exec_reserved {statement : Statement S} {answer : statement.Answer}
    (coherent : store.Coherent) (ran : exec i statement store = some (answer, after))
    {lock : Nat × S.Table × S.Key} (member : lock ∈ after.reserved)
    : lock ∈ store.reserved
      ∨ ∃ t k chosen, statement = .selectForUpdate t k chosen ∧ lock = (i, t, k) := by
  cases statement with
  | select query =>
      simp only [exec, Option.some.injEq, Prod.mk.injEq] at ran
      rw [← ran.2] at member
      exact .inl member
  | selectForUpdate t k chosen =>
      rcases exec_selectForUpdate ran with ⟨-, ⟨-, rfl⟩ | ⟨-, -, rfl⟩⟩
      · exact .inl member
      · rcases List.mem_append.mp member with old | new
        · exact .inl old
        · exact .inr ⟨t, k, chosen, rfl, List.mem_singleton.mp new⟩
  | insert t row =>
      rcases exec_insert coherent ran with ⟨-, rfl⟩ | ⟨-, rfl, -⟩ <;> exact .inl member
  | update t k change =>
      rcases exec_update ran with ⟨-, -, rfl⟩ | ⟨-, rfl⟩ | ⟨_, _, -, -, -, -, -, rfl, -⟩
        <;> exact .inl member
  | delete t chosen =>
      obtain ⟨-, -, rfl⟩ := exec_delete ran
      rw [stage_removals] at member
      exact .inl member
  | commit =>
      obtain rfl := (Prod.mk.inj (Option.some.inj ran)).2
      exact .inl (List.mem_of_mem_filter member)
  | rollback =>
      obtain rfl := (Prod.mk.inj (Option.some.inj ran)).2
      exact .inl (List.mem_of_mem_filter member)

/-- Only a commit adds to the log of a session. -/
theorem exec_log_same {statement : Statement S} {answer : statement.Answer}
    (coherent : store.Coherent) (ran : exec i statement store = some (answer, after))
    (other : statement ≠ .commit)
    : (after.history i).log = (store.history i).log := by
  cases statement with
  | select query =>
      simp only [exec, Option.some.injEq, Prod.mk.injEq] at ran
      rw [← ran.2]
      simp [opening]
  | selectForUpdate t k chosen =>
      rcases exec_selectForUpdate ran with ⟨-, ⟨-, rfl⟩ | ⟨-, -, rfl⟩⟩ <;> simp [opening]
  | insert t row => rcases exec_insert coherent ran with ⟨-, rfl⟩ | ⟨-, rfl, -⟩ <;> simp
  | update t k change =>
      rcases exec_update ran with ⟨-, -, rfl⟩ | ⟨-, rfl⟩ | ⟨_, _, -, -, -, -, -, rfl, -⟩ <;> simp
  | delete t chosen =>
      obtain ⟨-, -, rfl⟩ := exec_delete ran
      simp [stage_removals, reading]
  | commit => exact absurd rfl other
  | rollback =>
      simp only [exec, Option.some.injEq, Prod.mk.injEq] at ran
      rw [← ran.2]
      simp

/-- What a commit does. -/
theorem exec_commit {answer : (Statement.commit (S := S)).Answer}
    (ran : exec i .commit store = some (answer, after))
    : after
      = ({ store with committed := store.view i }.release i).record i
          (fun h => { h with log := h.log ++ [(store.own i, store.view i)] }) := by
  simp only [exec, Option.some.injEq, Prod.mk.injEq] at ran
  exact ran.2.symm

end Store

end Transactions
