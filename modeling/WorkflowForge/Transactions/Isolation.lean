import WorkflowForge.Transactions.Store

/-! Isolation of concurrent sessions.
Every statement has one of a few effects on the store. Row locks are exclusive and cover
the uncommitted writes, so no session changes what another one has locked or written; the
unique constraints hold in the committed state and in every session's view.
-/

namespace Transactions

variable {S : Schema}

/-- Clashing on unique columns is symmetric. -/
def Schema.Symmetric (S : Schema) : Prop :=
  ∀ t first second, S.clash t first second = S.clash t second first

/-- No two different rows clash. -/
def Db.Unique (db : Db S) : Prop :=
  ∀ t first second,
    first ∈ db t → second ∈ db t → S.key t first ≠ S.key t second
    → S.clash t first second = false

namespace Store

@[simp] theorem record_committed (store : Store S) (i : Nat) (change : History S → History S)
    : (store.record i change).committed = store.committed :=
  rfl

@[simp] theorem record_pending (store : Store S) (i : Nat) (change : History S → History S)
    : (store.record i change).pending = store.pending :=
  rfl

@[simp] theorem record_locks (store : Store S) (i : Nat) (change : History S → History S)
    : (store.record i change).locks = store.locks :=
  rfl

@[simp] theorem record_own (store : Store S) (i j : Nat) (change : History S → History S)
    : (store.record i change).own j = store.own j :=
  rfl

@[simp] theorem record_view (store : Store S) (i j : Nat) (change : History S → History S)
    : (store.record i change).view j = store.view j :=
  rfl

@[simp] theorem record_history_self (store : Store S) (i : Nat)
    (change : History S → History S)
    : (store.record i change).history i = change (store.history i) := by
  simp [record]

theorem record_history_other (store : Store S) {i j : Nat} (change : History S → History S)
    (other : j ≠ i)
    : (store.record i change).history j = store.history j := by
  simp [record, other]

@[simp] theorem lock_committed (store : Store S) (i : Nat) (t : S.Table) (k : S.Key)
    : (store.lock i t k).committed = store.committed :=
  rfl

@[simp] theorem lock_own (store : Store S) (i j : Nat) (t : S.Table) (k : S.Key)
    : (store.lock i t k).own j = store.own j :=
  rfl

@[simp] theorem lock_history (store : Store S) (i : Nat) (t : S.Table) (k : S.Key)
    : (store.lock i t k).history = store.history :=
  rfl

theorem mem_own {store : Store S} {i : Nat} {write : Write S}
    : write ∈ store.own i ↔ (i, write) ∈ store.pending := by
  simp [own]

@[simp] theorem stage_committed (store : Store S) (i : Nat) (write : Write S)
    : (store.stage i write).committed = store.committed :=
  rfl

@[simp] theorem stage_history (store : Store S) (i : Nat) (write : Write S)
    : (store.stage i write).history = store.history :=
  rfl

@[simp] theorem stage_own_self (store : Store S) (i : Nat) (write : Write S)
    : (store.stage i write).own i = store.own i ++ [write] := by
  simp [own, stage]

theorem stage_own_other (store : Store S) {i j : Nat} (write : Write S) (other : j ≠ i)
    : (store.stage i write).own j = store.own j := by
  simp [own, stage, other.symm]

@[simp] theorem stage_view_self (store : Store S) (i : Nat) (write : Write S)
    : (store.stage i write).view i = write.apply (store.view i) := by
  simp [view, Write.applyAll]

theorem stage_view_other (store : Store S) {i j : Nat} (write : Write S) (other : j ≠ i)
    : (store.stage i write).view j = store.view j := by
  simp [view, stage_own_other store write other]

@[simp] theorem release_committed (store : Store S) (i : Nat)
    : (store.release i).committed = store.committed :=
  rfl

@[simp] theorem release_history (store : Store S) (i : Nat)
    : (store.release i).history = store.history :=
  rfl

@[simp] theorem release_own_self (store : Store S) (i : Nat) : (store.release i).own i = [] := by
  simp [own, release, List.filter_filter]

theorem release_own_other (store : Store S) {i j : Nat} (other : j ≠ i)
    : (store.release i).own j = store.own j := by
  have same : ∀ entry : Nat × Write S, (entry.1 == j && entry.1 != i) = (entry.1 == j) := by
    intro entry
    by_cases hit : entry.1 = j
    · simp [hit, other]
    · simp [hit]
  simp [own, release, List.filter_filter, same]

theorem mem_release_locks {store : Store S} {i : Nat} {lock : Nat × S.Table × S.Key}
    : lock ∈ (store.release i).locks ↔ lock ∈ store.locks ∧ lock.1 ≠ i := by
  simp [release]

theorem mem_release_pending {store : Store S} {i : Nat} {entry : Nat × Write S}
    : entry ∈ (store.release i).pending ↔ entry ∈ store.pending ∧ entry.1 ≠ i := by
  simp [release]

/-- A session without writes sees the committed state. -/
theorem view_of_own_nil {store : Store S} {i : Nat} (nothing : store.own i = [])
    : store.view i = store.committed := by
  simp [view, nothing, Write.applyAll]

theorem heldByOther_eq_false {store : Store S} {i : Nat} {t : S.Table} {k : S.Key}
    : store.heldByOther i t k = false
      ↔ ∀ j, (j, t, k) ∈ store.locks → j = i := by
  simp only [heldByOther, List.any_eq_false, Bool.and_eq_true, bne_iff_ne, ne_eq,
    decide_eq_true_eq, not_and, Prod.forall, Prod.mk.injEq]
  constructor
  · intro free j member
    by_contra different
    exact free j t k member different rfl rfl
  · rintro free j t' k' member different rfl rfl
    exact different (free j member)

theorem withheld_eq_false {store : Store S} {i : Nat} {t : S.Table} {k : S.Key}
    : store.withheld i t k = false
      ↔ store.heldByOther i t k = false ∧ store.sharedByOther i t k = false :=
  Bool.or_eq_false_iff

theorem contested_eq_false {store : Store S} {i : Nat} {t : S.Table} {row : S.Row t}
    (calm : store.contested i t row = false) {j : Nat} {other : S.Row t}
    (member : (j, .put t other) ∈ store.pending) (different : j ≠ i)
    : S.key t other ≠ S.key t row ∧ S.clash t row other = false := by
  simp only [contested, List.any_eq_false, Bool.and_eq_true, bne_iff_ne, ne_eq, not_and,
    Bool.not_eq_true] at calm
  have quiet := calm (j, .put t other) member different
  simpa [Write.row?] using quiet

theorem duplicates_eq_false {db : Db S} {t : S.Table} {row : S.Row t}
    : duplicates db t row = false
      ↔ ∀ other ∈ db t, S.key t other ≠ S.key t row → S.clash t row other = false := by
  simp [duplicates]

/-- The checks that precede an uncommitted write. -/
def Admissible (store : Store S) (i : Nat) (write : Write S) : Prop :=
  store.heldByOther i write.target.1 write.target.2 = false
  ∧ match write with
    | .put t row => duplicates (store.view i) t row = false ∧ store.contested i t row = false
    | .remove t k => ((store.view i).find? t k).isSome

/-- What a statement of session `i` can do to the store. -/
inductive Effect (i : Nat) (store : Store S) : Store S → Prop
  | observed (change : History S → History S) : Effect i store (store.record i change)
  | locked (change : History S → History S) (t : S.Table) (k : S.Key)
    (present : ((store.view i).find? t k).isSome) (free : store.heldByOther i t k = false)
    : Effect i store ((store.record i change).lock i t k)
  | staged {middle : Store S} (earlier : Effect i store middle) (write : Write S)
    (admissible : middle.Admissible i write)
    : Effect i store (middle.stage i write)
  | committed (change : History S → History S)
    : Effect i store (({ store with committed := store.view i }.release i).record i change)
  | released : Effect i store (store.release i)

theorem record_id (store : Store S) (i : Nat) : store.record i id = store := by
  simp [record]

/-- Doing nothing is an effect. -/
theorem Effect.same (i : Nat) (store : Store S) : Effect i store store := by
  have idle : Effect i store (store.record i id) := .observed id
  rwa [record_id] at idle

/-- The invariant of the store that all sessions together maintain. -/
structure Coherent (store : Store S) : Prop where
  keyed : store.committed.Keyed
  covered : ∀ i write, (i, write) ∈ store.pending → (i, write.target) ∈ store.locks
  exclusive : ∀ i j row, (i, row) ∈ store.locks → (j, row) ∈ store.locks → i = j
  grounded
    : ∀ i t k,
        (i, t, k) ∈ store.locks
        → (store.committed.find? t k).isSome
          ∨ ∃ row, (i, .put t row) ∈ store.pending ∧ S.key t row = k
  unique : ∀ i, (store.view i).Unique
  apart
    : ∀ i j t first second,
        (i, .put t first) ∈ store.pending
        → (j, .put t second) ∈ store.pending
        → i ≠ j
        → S.clash t first second = false
  settled : store.committed.Unique

theorem view_keyed {store : Store S} (coherent : store.Coherent) (i : Nat)
    : (store.view i).Keyed :=
  Write.applyAll_keyed coherent.keyed _

/-- A write of another session is about a different row, by exclusive locks. -/
theorem Coherent.own_disjoint {store : Store S} (coherent : store.Coherent) {i j : Nat}
    (different : i ≠ j) {first second : Write S} (left : first ∈ store.own i)
    (right : second ∈ store.own j)
    : first.target ≠ second.target := by
  intro same
  have held := coherent.covered i first (mem_own.mp left)
  have other := coherent.covered j second (mem_own.mp right)
  rw [same] at held
  exact different (coherent.exclusive i j _ held other)

/-- A row locked by another session looks the same in this session's view. -/
theorem Coherent.view_locked {store : Store S} (coherent : store.Coherent) {i j : Nat}
    (different : i ≠ j) {t : S.Table} {k : S.Key} (lock : (j, t, k) ∈ store.locks)
    : (store.view i).find? t k = store.committed.find? t k := by
  apply Write.find?_applyAll_other
  intro write member same
  have held := coherent.covered i write (mem_own.mp member)
  rw [same] at held
  exact different (coherent.exclusive i j _ held lock)

/-- A visible row is committed or written by the session itself. -/
theorem find?_view_cases (store : Store S) (i : Nat) {t : S.Table} {k : S.Key}
    : ((store.view i).find? t k = store.committed.find? t k
        ∧ ∀ write ∈ store.own i, write.target ≠ (t, k))
      ∨ ((∃ write ∈ store.own i, write.target = (t, k))
        ∧ ∀ row, (store.view i).find? t k = some row → Write.put t row ∈ store.own i) := by
  by_cases hit : ∃ write ∈ store.own i, write.target = (t, k)
  · exact .inr ⟨hit, fun row found => Write.put_of_find?_applyAll hit found⟩
  · have quiet : ∀ write ∈ store.own i, write.target ≠ (t, k) := by
      intro write member same
      exact hit ⟨write, member, same⟩
    exact .inl ⟨Write.find?_applyAll_other _ _ quiet, quiet⟩

/-- Effects leave the writes, locks and history of the other sessions alone. -/
theorem Effect.frame {i : Nat} {before after : Store S} (effect : Effect i before after)
    {j : Nat} (other : j ≠ i)
    : after.own j = before.own j
      ∧ (∀ row, (j, row) ∈ after.locks ↔ (j, row) ∈ before.locks)
      ∧ after.history j = before.history j := by
  induction effect with
  | observed change => exact ⟨rfl, fun _ => Iff.rfl, record_history_other _ change other⟩
  | locked change t k present free =>
      refine ⟨rfl, ?_, record_history_other _ change other⟩
      intro row
      simp [lock, other]
  | staged earlier write admissible ih =>
      obtain ⟨own, locks, history⟩ := ih
      refine ⟨(stage_own_other _ write other).trans own, ?_, history⟩
      intro row
      simp [stage, other, locks]
  | committed change =>
      refine ⟨release_own_other _ other, ?_, record_history_other _ change other⟩
      intro row
      simp [release, other]
  | released =>
      refine ⟨release_own_other _ other, ?_, rfl⟩
      intro row
      simp [release, other]

/-- Only a commit changes the committed state, and it publishes the session's view. -/
theorem Effect.committed_cases {i : Nat} {before after : Store S}
    (effect : Effect i before after)
    : after.committed = before.committed ∨ after.committed = before.view i := by
  induction effect with
  | observed change => exact .inl rfl
  | locked change t k present free => exact .inl rfl
  | staged earlier write admissible ih => exact ih
  | committed change => exact .inr rfl
  | released => exact .inl rfl

/-- No effect changes a row that another session has locked. -/
theorem Effect.locked_row {i : Nat} {before after : Store S} (coherent : before.Coherent)
    (effect : Effect i before after) {j : Nat} (other : j ≠ i) {t : S.Table} {k : S.Key}
    (lock : (j, t, k) ∈ before.locks)
    : after.committed.find? t k = before.committed.find? t k := by
  rcases effect.committed_cases with same | published
  · rw [same]
  · rw [published]
    exact coherent.view_locked other.symm lock

/-- What a session keeps while only other sessions act. -/
structure Undisturbed (i : Nat) (before after : Store S) : Prop where
  own : after.own i = before.own i
  locks : ∀ row, (i, row) ∈ after.locks ↔ (i, row) ∈ before.locks
  history : after.history i = before.history i
  rows
    : ∀ t k,
        (i, t, k) ∈ before.locks → after.committed.find? t k = before.committed.find? t k

theorem Undisturbed.refl (i : Nat) (store : Store S) : Undisturbed i store store :=
  ⟨rfl, fun _ => Iff.rfl, rfl, fun _ _ _ => rfl⟩

theorem Undisturbed.trans {i : Nat} {first second third : Store S}
    (early : Undisturbed i first second) (late : Undisturbed i second third)
    : Undisturbed i first third where
  own := late.own.trans early.own
  locks row := (late.locks row).trans (early.locks row)
  history := late.history.trans early.history
  rows t k lock := (late.rows t k ((early.locks _).mpr lock)).trans (early.rows t k lock)

/-- An effect of one session does not disturb the others. -/
theorem Effect.undisturbed {i : Nat} {before after : Store S} (coherent : before.Coherent)
    (effect : Effect i before after) {j : Nat} (other : j ≠ i)
    : Undisturbed j before after := by
  obtain ⟨own, locks, history⟩ := effect.frame other
  exact ⟨own, locks, history, fun t k lock => effect.locked_row coherent other lock⟩

-----------------------------------------------------------------------------------------
-- Effects keep the store coherent
-----------------------------------------------------------------------------------------

/-- Uniqueness after a write, when the row that was put does not clash with the others. -/
theorem unique_apply (symmetric : S.Symmetric) {db : Db S} (keyed : db.Keyed)
    (unique : db.Unique) {write : Write S}
    (quiet : ∀ t row, write = .put t row → duplicates db t row = false)
    : (write.apply db).Unique := by
  have keyed' := Write.apply_keyed keyed write
  have old
      : ∀ t row, row ∈ (write.apply db) t → (row ∈ db t ∨ write = .put t row) := by
    intro t row member
    have found := Db.find?_of_mem keyed' member
    by_cases hit : write.target = (t, S.key t row)
    · have put : Write.put t row ∈ [write] :=
        Write.put_of_find?_applyAll ⟨write, List.mem_singleton_self _, hit⟩ found
      exact .inr (List.mem_singleton.mp put).symm
    · rw [Write.find?_apply_other db write hit] at found
      exact .inl (Db.mem_of_find? found)
  intro t first second left right different
  rcases old t first left with first_old | rfl
  · rcases old t second right with second_old | rfl
    · exact unique t first second first_old second_old different
    · rw [symmetric]
      exact duplicates_eq_false.mp (quiet t second rfl) first first_old different
  · rcases old t second right with second_old | same
    · exact duplicates_eq_false.mp (quiet t first rfl) second second_old different.symm
    · simp only [Write.put.injEq, heq_eq_eq, true_and] at same
      exact absurd (congrArg (S.key t) same) different

theorem Coherent.stage (symmetric : S.Symmetric) {store : Store S}
    (coherent : store.Coherent) {i : Nat} {write : Write S}
    (admissible : store.Admissible i write)
    : (store.stage i write).Coherent := by
  obtain ⟨free, allowed⟩ := admissible
  rw [heldByOther_eq_false] at free
  refine {
    keyed := coherent.keyed
    covered := ?_
    exclusive := ?_
    grounded := ?_
    unique := ?_
    apart := ?_
    settled := coherent.settled
  }
  · intro j other member
    simp only [Store.stage, List.mem_append, List.mem_singleton, Prod.mk.injEq] at member ⊢
    rcases member with old | ⟨rfl, rfl⟩
    · exact .inl (coherent.covered j other old)
    · exact .inr ⟨rfl, rfl⟩
  · intro j l row left right
    simp only [Store.stage, List.mem_append, List.mem_singleton, Prod.mk.injEq] at left right
    rcases left with left | ⟨rfl, rfl⟩ <;> rcases right with right | ⟨rfl, same⟩
    · exact coherent.exclusive j l row left right
    · subst same
      exact free j left
    · exact (free l right).symm
    · rfl
  · intro j t k lock
    simp only [Store.stage, List.mem_append, List.mem_singleton, Prod.mk.injEq] at lock ⊢
    rcases lock with old | ⟨rfl, same⟩
    · rcases coherent.grounded j t k old with present | ⟨row, member, rfl⟩
      · exact .inl present
      · exact .inr ⟨row, .inl member, rfl⟩
    · cases write with
      | put t' row =>
          simp only [Write.target, Prod.mk.injEq] at same
          obtain ⟨rfl, rfl⟩ := same
          exact .inr ⟨row, .inr ⟨rfl, rfl⟩, rfl⟩
      | remove t' k' =>
          simp only [Write.target, Prod.mk.injEq] at same
          obtain ⟨rfl, rfl⟩ := same
          rcases store.find?_view_cases j (t := t) (k := k) with ⟨seen, _⟩ | ⟨_, puts⟩
          · exact .inl (seen ▸ allowed)
          · obtain ⟨row, found⟩ := Option.isSome_iff_exists.mp allowed
            exact .inr ⟨row, .inl (mem_own.mp (puts row found)), Db.find?_key found⟩
  · intro j
    by_cases same : j = i
    · subst same
      rw [stage_view_self]
      apply unique_apply symmetric (view_keyed coherent j) (coherent.unique j)
      rintro t row rfl
      exact allowed.1
    · rw [stage_view_other _ _ same]
      exact coherent.unique j
  · intro j l t first second left right different
    simp only [Store.stage, List.mem_append, List.mem_singleton, Prod.mk.injEq] at left right
    rcases left with left | ⟨rfl, same⟩ <;> rcases right with right | ⟨rfl, same'⟩
    · exact coherent.apart j l t first second left right different
    · subst same'
      rw [symmetric]
      exact (contested_eq_false allowed.2 left different).2
    · subst same
      exact (contested_eq_false allowed.2 right different.symm).2
    · exact absurd rfl different

theorem Coherent.release {store : Store S} (coherent : store.Coherent) (i : Nat)
    : (store.release i).Coherent := by
  refine {
    keyed := coherent.keyed
    covered := ?_
    exclusive := ?_
    grounded := ?_
    unique := ?_
    apart := ?_
    settled := coherent.settled
  }
  · intro j write member
    obtain ⟨member, other⟩ := mem_release_pending.mp member
    exact mem_release_locks.mpr ⟨coherent.covered j write member, other⟩
  · intro j l row left right
    exact coherent.exclusive j l row (mem_release_locks.mp left).1 (mem_release_locks.mp right).1
  · intro j t k lock
    obtain ⟨lock, other⟩ := mem_release_locks.mp lock
    rcases coherent.grounded j t k lock with present | ⟨row, member, same⟩
    · exact .inl present
    · exact .inr ⟨row, mem_release_pending.mpr ⟨member, other⟩, same⟩
  · intro j
    by_cases same : j = i
    · subst same
      rw [view_of_own_nil (release_own_self store j)]
      exact coherent.settled
    · have view : (store.release i).view j = store.view j := by
        simp [Store.view, release_own_other store same]
      rw [view]
      exact coherent.unique j
  · intro j l t first second left right different
    exact coherent.apart j l t first second (mem_release_pending.mp left).1
      (mem_release_pending.mp right).1 different

/-- Publishing a session's view keeps every other view unique.
Witness: each row of another view comes from its own writes or from the published view,
and rows of different sessions were kept apart when they were written.
-/
theorem Coherent.publish_unique {store : Store S} (coherent : store.Coherent) {i j : Nat}
    (different : j ≠ i)
    : (Write.applyAll (store.own j) (store.view i)).Unique := by
  have keyed := Write.applyAll_keyed (view_keyed coherent i) (store.own j)
  have origin
      : ∀ t row,
          row ∈ (Write.applyAll (store.own j) (store.view i)) t
          → (row ∈ store.view j t ∧ Write.put t row ∈ store.own j)
            ∨ (row ∈ store.view i t
                ∧ (row ∈ store.view j t ∨ Write.put t row ∈ store.own i)) := by
    intro t row member
    have found := Db.find?_of_mem keyed member
    by_cases hit : ∃ write ∈ store.own j, write.target = (t, S.key t row)
    · have put := Write.put_of_find?_applyAll hit found
      rw [Write.find?_applyAll_target _ store.committed hit] at found
      exact .inl ⟨Db.mem_of_find? found, put⟩
    · have quiet : ∀ write ∈ store.own j, write.target ≠ (t, S.key t row) := by
        intro write member same
        exact hit ⟨write, member, same⟩
      rw [Write.find?_applyAll_other _ _ quiet] at found
      refine .inr ⟨Db.mem_of_find? found, ?_⟩
      rcases store.find?_view_cases i (t := t) (k := S.key t row) with ⟨same, _⟩ | ⟨_, puts⟩
      · have seen : (store.view j).find? t (S.key t row) = some row := by
          unfold Store.view
          rw [Write.find?_applyAll_other _ _ quiet, ← same, found]
        exact .inl (Db.mem_of_find? seen)
      · exact .inr (puts row found)
  intro t first second left right distinct
  rcases origin t first left with ⟨first_j, first_put⟩ | ⟨first_i, first_from⟩
  · rcases origin t second right with ⟨second_j, _⟩ | ⟨_, second_j | second_put⟩
    · exact coherent.unique j t first second first_j second_j distinct
    · exact coherent.unique j t first second first_j second_j distinct
    · exact coherent.apart j i t first second (mem_own.mp first_put) (mem_own.mp second_put)
        different
  · rcases origin t second right with ⟨second_j, second_put⟩ | ⟨second_i, _⟩
    · rcases first_from with first_j | first_put
      · exact coherent.unique j t first second first_j second_j distinct
      · exact coherent.apart i j t first second (mem_own.mp first_put) (mem_own.mp second_put)
          different.symm
    · exact coherent.unique i t first second first_i second_i distinct

theorem Coherent.publish {store : Store S} (coherent : store.Coherent) (i : Nat)
    : ({ store with committed := store.view i }.release i).Coherent := by
  refine {
    keyed := view_keyed coherent i
    covered := ?_
    exclusive := ?_
    grounded := ?_
    unique := ?_
    apart := ?_
    settled := coherent.unique i
  }
  · intro j write member
    obtain ⟨member, other⟩ := mem_release_pending.mp member
    exact mem_release_locks.mpr ⟨coherent.covered j write member, other⟩
  · intro j l row left right
    exact coherent.exclusive j l row (mem_release_locks.mp left).1 (mem_release_locks.mp right).1
  · intro j t k lock
    obtain ⟨lock, other⟩ := mem_release_locks.mp lock
    rcases coherent.grounded j t k lock with present | ⟨row, member, same⟩
    · left
      simpa [coherent.view_locked (Ne.symm other) lock] using present
    · exact .inr ⟨row, mem_release_pending.mpr ⟨member, other⟩, same⟩
  · intro j
    by_cases same : j = i
    · subst same
      rw [view_of_own_nil (release_own_self _ j)]
      exact coherent.unique j
    · unfold Store.view
      rw [release_own_other _ same]
      exact coherent.publish_unique same
  · intro j l t first second left right different
    exact coherent.apart j l t first second (mem_release_pending.mp left).1
      (mem_release_pending.mp right).1 different

theorem Coherent.lock {store : Store S} (coherent : store.Coherent) {i : Nat} {t : S.Table}
    {k : S.Key} (present : ((store.view i).find? t k).isSome)
    (free : store.heldByOther i t k = false)
    : (store.lock i t k).Coherent := by
  rw [heldByOther_eq_false] at free
  refine {
    keyed := coherent.keyed
    covered := ?_
    exclusive := ?_
    grounded := ?_
    unique := coherent.unique
    apart := coherent.apart
    settled := coherent.settled
  }
  · intro j write member
    exact List.mem_append_left _ (coherent.covered j write member)
  · intro j l row left right
    simp only [Store.lock, List.mem_append, List.mem_singleton, Prod.mk.injEq] at left right
    rcases left with left | ⟨rfl, rfl⟩ <;> rcases right with right | ⟨rfl, same⟩
    · exact coherent.exclusive j l row left right
    · subst same
      exact free j left
    · exact (free l right).symm
    · rfl
  · intro j t' k' lock
    simp only [Store.lock, List.mem_append, List.mem_singleton, Prod.mk.injEq] at lock
    rcases lock with old | ⟨rfl, rfl, rfl⟩
    · exact coherent.grounded j t' k' old
    · rcases store.find?_view_cases j (t := t') (k := k') with ⟨seen, _⟩ | ⟨_, puts⟩
      · exact .inl (seen ▸ present)
      · obtain ⟨row, found⟩ := Option.isSome_iff_exists.mp present
        exact .inr ⟨row, mem_own.mp (puts row found), Db.find?_key found⟩

theorem Coherent.record {store : Store S} (coherent : store.Coherent) (i : Nat)
    (change : History S → History S)
    : (store.record i change).Coherent :=
  { keyed := coherent.keyed
    covered := coherent.covered
    exclusive := coherent.exclusive
    grounded := coherent.grounded
    unique := coherent.unique
    apart := coherent.apart
    settled := coherent.settled }

/-- Every effect keeps the store coherent, by induction on the effect. -/
theorem Effect.coherent (symmetric : S.Symmetric) {i : Nat} {before after : Store S}
    (coherent : before.Coherent) (effect : Effect i before after)
    : after.Coherent := by
  induction effect with
  | observed change => exact coherent.record i change
  | locked change t k present free => exact (coherent.record i change).lock present free
  | staged earlier write admissible ih => exact ih.stage symmetric admissible
  | committed change => exact (coherent.publish i).record i change
  | released => exact coherent.release i

-----------------------------------------------------------------------------------------
-- The statements
-----------------------------------------------------------------------------------------

/-- What an INSERT does: nothing and an error, or one uncommitted row. -/
theorem exec_insert {store after : Store S} {i : Nat} {t : S.Table} {row : S.Row t}
    {answer : Except Violation Unit} (coherent : store.Coherent)
    (ran : exec i (.insert t row) store = some (answer, after))
    : ((∃ violation, answer = .error violation) ∧ after = store)
      ∨ (answer = .ok ()
          ∧ after = store.stage i (.put t row)
          ∧ (store.view i).find? t (S.key t row) = none
          ∧ S.sound (store.view i) t row = true
          ∧ store.Admissible i (.put t row)) := by
  simp only [exec] at ran
  split at ran
  · contradiction
  split at ran
  · simp only [Option.some.injEq, Prod.mk.injEq] at ran
    exact .inl ⟨⟨_, ran.1.symm⟩, ran.2.symm⟩
  rename_i allowed
  split at ran
  · simp only [Option.some.injEq, Prod.mk.injEq] at ran
    exact .inl ⟨⟨_, ran.1.symm⟩, ran.2.symm⟩
  split at ran
  · contradiction
  rename_i calm
  simp only [Option.some.injEq, Prod.mk.injEq] at ran
  simp only [Bool.or_eq_true, not_or, Bool.not_eq_true, Bool.not_eq_true',
    Option.isSome_eq_false_iff, Option.isNone_iff_eq_none, Bool.not_eq_false] at allowed calm
  obtain ⟨⟨absent, quiet⟩, sound⟩ := allowed
  refine .inr ⟨ran.1.symm, ran.2.symm, absent, sound, ?_, quiet, calm.1⟩
  rw [heldByOther_eq_false]
  intro j lock
  simp only [Write.target] at lock
  by_contra different
  have committed := coherent.view_locked (Ne.symm different) lock
  rcases coherent.grounded j t _ lock with present | ⟨other, member, same⟩
  · rw [← committed, absent] at present
    simp at present
  · exact (contested_eq_false calm.1 member different).1 same

/-- Why an INSERT is refused. -/
theorem exec_insert_refused {store after : Store S} {i : Nat} {t : S.Table} {row : S.Row t}
    {violation : Violation}
    (ran : exec i (.insert t row) store = some (.error violation, after))
    : ((store.view i).find? t (S.key t row)).isSome
      ∨ duplicates (store.view i) t row = true
      ∨ S.sound (store.view i) t row = false
      ∨ S.fits t row = false := by
  simp only [exec] at ran
  split at ran
  · contradiction
  split at ran
  · rename_i refused
    simp only [Bool.or_eq_true, Bool.not_eq_true'] at refused
    rcases refused with (present | duplicate) | unsound
    · exact .inl present
    · exact .inr (.inl duplicate)
    · exact .inr (.inr (.inl unsound))
  split at ran
  · rename_i wide
    exact .inr (.inr (.inr (by simpa using wide)))
  split at ran
  · contradiction
  · simp at ran

/-- What an UPDATE does: it misses, fails, or leaves one uncommitted row. -/
theorem exec_update {store after : Store S} {i : Nat} {t : S.Table} {k : S.Key}
    {change : S.Row t → Option (S.Row t)} {answer : Except Violation Bool}
    (ran : exec i (.update t k change) store = some (answer, after))
    : (answer = .ok false
        ∧ ((store.view i).find? t k).bind change = none
        ∧ after = store.record i (fun h => { h with missed := h.missed ++ [(t, k)] }))
      ∨ ((∃ violation, answer = .error violation) ∧ after = store)
      ∨ (∃ old row,
          answer = .ok true
          ∧ (store.view i).find? t k = some old
          ∧ change old = some row
          ∧ S.key t row = k
          ∧ S.sound (store.view i) t row = true
          ∧ after = store.stage i (.put t row)
          ∧ store.Admissible i (.put t row)) := by
  simp only [exec] at ran
  split at ran
  · rename_i missed
    simp only [Option.some.injEq, Prod.mk.injEq] at ran
    exact .inl ⟨ran.1.symm, missed, ran.2.symm⟩
  rename_i row matched
  obtain ⟨old, found, changed⟩ := Option.bind_eq_some_iff.mp matched
  split at ran
  · contradiction
  rename_i free
  split at ran
  · simp only [Option.some.injEq, Prod.mk.injEq] at ran
    exact .inr (.inl ⟨⟨_, ran.1.symm⟩, ran.2.symm⟩)
  rename_i allowed
  split at ran
  · simp only [Option.some.injEq, Prod.mk.injEq] at ran
    exact .inr (.inl ⟨⟨_, ran.1.symm⟩, ran.2.symm⟩)
  split at ran
  · contradiction
  rename_i calm
  simp only [Option.some.injEq, Prod.mk.injEq] at ran
  simp only [Bool.or_eq_true, not_or, Bool.not_eq_true, Bool.not_eq_true', decide_eq_true_eq,
    ne_eq, not_not, Bool.not_eq_false] at allowed calm free
  obtain ⟨⟨rfl, quiet⟩, sound⟩ := allowed
  exact .inr (.inr ⟨old, row, ran.1.symm, found, changed, rfl, sound, ran.2.symm,
    free, quiet, calm.1⟩)

/-- A locking SELECT reads the view; it locks the row when it matches. -/
theorem exec_selectForUpdate {store after : Store S} {i : Nat} {t : S.Table} {k : S.Key}
    {chosen : S.Row t → Bool} {answer : Db S}
    (ran : exec i (.selectForUpdate t k chosen) store = some (answer, after))
    : answer = store.view i
      ∧ ((((store.view i).find? t k).filter chosen = none ∧ after = store.opening i)
        ∨ ((((store.view i).find? t k).filter chosen).isSome
            ∧ store.heldByOther i t k = false
            ∧ after = (store.opening i).lock i t k)) := by
  simp only [exec] at ran
  split at ran
  · rename_i nothing
    simp only [Option.some.injEq, Prod.mk.injEq] at ran
    exact ⟨ran.1.symm, .inl ⟨nothing, ran.2.symm⟩⟩
  · rename_i row matched
    split at ran
    · contradiction
    rename_i free
    simp only [Option.some.injEq, Prod.mk.injEq] at ran
    rw [Bool.not_eq_true, withheld_eq_false] at free
    exact ⟨ran.1.symm, .inr ⟨by simp [matched], free.1, ran.2.symm⟩⟩

/-- What a DELETE does: the chosen rows that the session sees are removed, one after the other. -/
theorem exec_delete {store after : Store S} {i : Nat} {t : S.Table} {chosen : S.Row t → Bool}
    {count : Nat} (ran : exec i (.delete t chosen) store = some (count, after))
    : (∀ row ∈ (store.view i t).filter chosen, store.withheld i t (S.key t row) = false)
      ∧ count = ((store.view i t).filter chosen).length
      ∧ after
        = ((store.view i t).filter chosen).foldl
            (fun current row => current.stage i (.remove t (S.key t row))) (store.reading i) := by
  simp only [exec] at ran
  split at ran
  · contradiction
  rename_i free
  simp only [Option.some.injEq, Prod.mk.injEq] at ran
  exact ⟨by simpa using free, ran.1.symm, ran.2.symm⟩

/-- Deleting rows one by one: each is visible, free and different from the earlier ones. -/
private theorem delete_effect {store : Store S} {i : Nat} {t : S.Table}
    (rows : List (S.Row t)) {middle : Store S} (earlier : Effect i store middle)
    (free : ∀ row ∈ rows, middle.heldByOther i t (S.key t row) = false)
    (visible : ∀ row ∈ rows, ((middle.view i).find? t (S.key t row)).isSome)
    (distinct : (rows.map (S.key t)).Nodup)
    : Effect i store
        (rows.foldl (fun current row => current.stage i (.remove t (S.key t row))) middle) := by
  induction rows generalizing middle with
  | nil => exact earlier
  | cons row rest ih =>
      simp only [List.map_cons, List.nodup_cons] at distinct
      apply ih (.staged earlier (.remove t (S.key t row))
        ⟨free row (by simp), visible row (by simp)⟩)
      · intro other member
        rw [heldByOther_eq_false]
        intro j lock
        simp only [Store.stage, List.mem_append, List.mem_singleton, Prod.mk.injEq] at lock
        rcases lock with old | ⟨same, _⟩
        · exact heldByOther_eq_false.mp (free other (by simp [member])) j old
        · exact same
      · intro other member
        have differs : S.key t other ≠ S.key t row := by
          intro same
          exact distinct.1 (same ▸ List.mem_map_of_mem member)
        rw [stage_view_self]
        simp only [Write.apply]
        rw [Db.find?_remove_other _ (.inr differs)]
        exact visible other (by simp [member])
      · exact distinct.2

/-- Every executed statement has an effect, by cases on the statement. -/
theorem exec_effect {store after : Store S} {i : Nat} {statement : Statement S}
    {answer : statement.Answer} (coherent : store.Coherent)
    (ran : exec i statement store = some (answer, after))
    : Effect i store after := by
  cases statement with
  | select query =>
      simp only [exec, Option.some.injEq, Prod.mk.injEq] at ran
      rw [← ran.2]
      exact .observed _
  | selectForUpdate t k chosen =>
      rcases exec_selectForUpdate ran with ⟨-, ⟨-, rfl⟩ | ⟨matched, free, rfl⟩⟩
      · exact .observed _
      · refine .locked _ t k ?_ free
        obtain ⟨row, found⟩ := Option.isSome_iff_exists.mp matched
        simp [(Option.filter_eq_some_iff.mp found).1]
  | insert t row =>
      rcases exec_insert coherent ran with ⟨-, rfl⟩ | ⟨-, rfl, -, -, admissible⟩
      · exact .same i _
      · exact .staged (.same i _) _ admissible
  | update t k change =>
      rcases exec_update ran with ⟨-, -, rfl⟩ | ⟨-, rfl⟩ | ⟨_, _, -, -, -, -, -, rfl, admissible⟩
      · exact .observed _
      · exact .same i _
      · exact .staged (.same i _) _ admissible
  | delete t chosen =>
      obtain ⟨free, -, rfl⟩ := exec_delete ran
      have keyed := view_keyed coherent i
      refine delete_effect _ (.observed _)
        (fun row member => (withheld_eq_false.mp (free row member)).1) ?_ ?_
      · intro row member
        have found := Db.find?_of_mem keyed (List.mem_filter.mp member).1
        exact Option.isSome_iff_exists.mpr ⟨row, found⟩
      · exact (keyed t).sublist ((List.filter_sublist).map _)
  | commit =>
      simp only [exec, Option.some.injEq, Prod.mk.injEq] at ran
      rw [← ran.2]
      exact .committed _
  | rollback =>
      simp only [exec, Option.some.injEq, Prod.mk.injEq] at ran
      rw [← ran.2]
      exact .released

/-- The deletions of one statement, one after the other. -/
theorem stage_removals (i : Nat) {t : S.Table} (rows : List (S.Row t)) (store : Store S)
    : rows.foldl (fun current row => current.stage i (.remove t (S.key t row))) store
      = {
        store with
        pending := store.pending ++ rows.map (fun row => (i, .remove t (S.key t row)))
        locks := store.locks ++ rows.map (fun row => (i, t, S.key t row))
      } := by
  induction rows generalizing store with
  | nil => simp
  | cons row rest ih =>
      rw [List.foldl_cons, ih]
      simp [stage, Write.target]

/-- Statements other than a commit leave the committed state alone. -/
theorem exec_committed {store after : Store S} {i : Nat} {statement : Statement S}
    {answer : statement.Answer} (ran : exec i statement store = some (answer, after))
    (other : statement ≠ .commit)
    : after.committed = store.committed := by
  cases statement with
  | select query =>
      simp only [exec, Option.some.injEq, Prod.mk.injEq] at ran
      rw [← ran.2]
      rfl
  | selectForUpdate t k chosen =>
      rcases exec_selectForUpdate ran with ⟨-, ⟨-, rfl⟩ | ⟨-, -, rfl⟩⟩ <;> rfl
  | insert t row =>
      simp only [exec] at ran
      split at ran
      · contradiction
      split at ran
      · simp only [Option.some.injEq, Prod.mk.injEq] at ran
        rw [← ran.2]
      split at ran
      · simp only [Option.some.injEq, Prod.mk.injEq] at ran
        rw [← ran.2]
      split at ran
      · contradiction
      simp only [Option.some.injEq, Prod.mk.injEq] at ran
      rw [← ran.2]
      rfl
  | update t k change =>
      rcases exec_update ran with ⟨-, -, rfl⟩ | ⟨-, rfl⟩ | ⟨_, _, -, -, -, -, -, rfl, -⟩ <;> rfl
  | delete t chosen =>
      obtain ⟨-, -, rfl⟩ := exec_delete ran
      rw [stage_removals]
      rfl
  | commit => exact absurd rfl other
  | rollback =>
      simp only [exec, Option.some.injEq, Prod.mk.injEq] at ran
      rw [← ran.2]
      rfl

/-- A statement leaves the history of its session alone, notes a first snapshot or a missed
row, or appends a commit. -/
theorem exec_log {store after : Store S} {i : Nat} {statement : Statement S}
    {answer : statement.Answer} (coherent : store.Coherent)
    (ran : exec i statement store = some (answer, after))
    : (store.history i).log <+: (after.history i).log := by
  cases statement with
  | select query =>
      simp only [exec, Option.some.injEq, Prod.mk.injEq] at ran
      rw [← ran.2]
      simp [opening]
  | selectForUpdate t k chosen =>
      rcases exec_selectForUpdate ran with ⟨-, ⟨-, rfl⟩ | ⟨-, -, rfl⟩⟩ <;> simp [opening]
  | insert t row =>
      rcases exec_insert coherent ran with ⟨-, rfl⟩ | ⟨-, rfl, -⟩ <;> simp
  | update t k change =>
      rcases exec_update ran with ⟨-, -, rfl⟩ | ⟨-, rfl⟩ | ⟨_, _, -, -, -, -, -, rfl, -⟩ <;> simp
  | delete t chosen =>
      obtain ⟨-, -, rfl⟩ := exec_delete ran
      simp [stage_removals, reading]
  | commit =>
      simp only [exec, Option.some.injEq, Prod.mk.injEq] at ran
      rw [← ran.2]
      simp
  | rollback =>
      simp only [exec, Option.some.injEq, Prod.mk.injEq] at ran
      rw [← ran.2]
      simp

/-- The first snapshot of a session stays its first. -/
theorem exec_opened {store after : Store S} {i : Nat} {statement : Statement S}
    {answer : statement.Answer} (coherent : store.Coherent)
    (ran : exec i statement store = some (answer, after)) {db : Db S}
    (opened : (store.history i).opened = some db)
    : (after.history i).opened = some db := by
  cases statement with
  | select query =>
      simp only [exec, Option.some.injEq, Prod.mk.injEq] at ran
      rw [← ran.2]
      simp [opening, opened]
  | selectForUpdate t k chosen =>
      rcases exec_selectForUpdate ran with ⟨-, ⟨-, rfl⟩ | ⟨-, -, rfl⟩⟩ <;> simp [opening, opened]
  | insert t row =>
      rcases exec_insert coherent ran with ⟨-, rfl⟩ | ⟨-, rfl, -⟩ <;> simpa using opened
  | update t k change =>
      rcases exec_update ran with ⟨-, -, rfl⟩ | ⟨-, rfl⟩ | ⟨_, _, -, -, -, -, -, rfl, -⟩
        <;> simpa using opened
  | delete t chosen =>
      obtain ⟨-, -, rfl⟩ := exec_delete ran
      simpa [stage_removals, reading] using opened
  | commit =>
      simp only [exec, Option.some.injEq, Prod.mk.injEq] at ran
      rw [← ran.2]
      simpa using opened
  | rollback =>
      simp only [exec, Option.some.injEq, Prod.mk.injEq] at ran
      rw [← ran.2]
      simpa using opened

end Store

end Transactions
