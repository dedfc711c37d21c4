import WorkflowForge.Concurrency.Contracts
import WorkflowForge.Infrastructure.Commitless
import WorkflowForge.Infrastructure.Constraints

/-! Sessions that write only tables to which no foreign key points.
Alone such a session never waits, and it keeps every constraint of the database.
-/

namespace Transactions

variable {S : Schema} {i : Nat}

/-- Only session `i` has uncommitted writes and locks. -/
structure Store.Alone (i : Nat) (store : Store S) : Prop where
  pending : ∀ entry ∈ store.pending, entry.1 = i
  locks : ∀ lock ∈ store.locks, lock.1 = i

namespace Store.Alone

variable {store : Store S}

theorem of_rested (pending : store.pending = []) (locks : store.locks = []) : store.Alone i where
  pending := by simp [pending]
  locks := by simp [locks]

theorem stage (alone : store.Alone i) (write : Write S) : (store.stage i write).Alone i where
  pending entry member := by
    rcases List.mem_append.mp member with old | new
    · exact alone.pending entry old
    · rw [List.mem_singleton.mp new]
  locks lock member := by
    rcases List.mem_append.mp member with old | new
    · exact alone.locks lock old
    · rw [List.mem_singleton.mp new]

/-- Nothing is left when the session ends. -/
theorem release (alone : store.Alone i)
    : (store.release i).pending = [] ∧ (store.release i).locks = [] := by
  simp only [Store.release, List.filter_eq_nil_iff]
  exact ⟨fun entry member => by simp [alone.pending entry member],
    fun lock member => by simp [alone.locks lock member]⟩

theorem not_held (alone : store.Alone i) (t : S.Table) (k : S.Key)
    : store.heldByOther i t k = false :=
  Store.heldByOther_eq_false.mpr (fun j member => alone.locks (j, t, k) member)

theorem not_contested (alone : store.Alone i) (t : S.Table) (row : S.Row t)
    : store.contested i t row = false := by
  simp only [Store.contested, List.any_eq_false, Bool.and_eq_true, bne_iff_ne, ne_eq, not_and]
  exact fun entry member different => absurd (alone.pending entry member) different

theorem not_leaving (alone : store.Alone i) (row : S.Table × S.Key)
    : store.leaving i row = false := by
  simp only [Store.leaving, List.any_eq_false, Bool.and_eq_true, bne_iff_ne, ne_eq, not_and]
  exact fun entry member different => absurd (alone.pending entry member) different

theorem not_departing (alone : store.Alone i) (t : S.Table) (row : S.Row t)
    : store.departing i t row = false := by
  simp [Store.departing, alone.not_leaving]

theorem not_reserved (alone : store.Alone i) (row : S.Table × S.Key)
    : store.reservedByOther i row = false := by
  simp only [Store.reservedByOther, List.any_eq_false, Bool.and_eq_true, bne_iff_ne, ne_eq,
    not_and]
  exact fun lock member both => absurd (alone.locks lock member) both.1

theorem not_barred (alone : store.Alone i) (write : Write S) : store.barred i write = false := by
  simp [Store.barred, alone.not_reserved, alone.not_leaving]

theorem not_withheld (alone : store.Alone i) (t : S.Table) (k : S.Key)
    : store.withheld i t k = false := by
  refine Store.withheld_eq_false.mpr ⟨alone.not_held t k, ?_⟩
  simp only [Store.sharedByOther, List.any_eq_false, Bool.and_eq_true, bne_iff_ne, ne_eq, not_and]
  exact fun entry member different => absurd (alone.pending entry member) different

end Store.Alone

/-- Deleting rows by their keys. -/
def Db.removeRows (t : S.Table) (rows : List (S.Row t)) (db : Db S) : Db S :=
  rows.foldl (fun current row => current.remove t (S.key t row)) db

theorem Db.removeRows_other (db : Db S) {t t' : S.Table} (rows : List (S.Row t))
    (other : t' ≠ t)
    : db.removeRows t rows t' = db t' := by
  induction rows generalizing db with
  | nil => rfl
  | cons row rest ih => exact (ih _).trans (Db.remove_table_other db _ other)

/-- What remains after deleting some of the rows, by induction on them. -/
theorem Db.mem_removeRows {db : Db S} {t : S.Table} {rows : List (S.Row t)} {other : S.Row t}
    : other ∈ db.removeRows t rows t
      ↔ other ∈ db t ∧ ∀ row ∈ rows, S.key t other ≠ S.key t row := by
  induction rows generalizing db with
  | nil => simp [removeRows]
  | cons row rest ih =>
      have removed
          : other ∈ (db.remove t (S.key t row)) t
            ↔ other ∈ db t ∧ S.key t other ≠ S.key t row := by
        simp [Db.remove]
      rw [List.forall_mem_cons, ← and_assoc, ← removed]
      exact ih

/-- The view of a session that deletes rows, by induction on them. -/
theorem Store.view_removing (store : Store S) (t : S.Table) (rows : List (S.Row t))
    : (rows.foldl (fun current row => current.stage i (.remove t (S.key t row))) store).view i
      = (store.view i).removeRows t rows := by
  induction rows generalizing store with
  | nil => rfl
  | cons row rest ih =>
      refine (ih _).trans ?_
      rw [Store.stage_view_self]
      rfl

end Transactions

namespace WorkflowForge

open Python Transactions Concurrency

/-- No foreign key points to the table. -/
def TableName.isLeaf : TableName → Bool
  | users | organizations | documents | documentVersions | batches | cases => false
  | _ => true

/-- The constraints of a row read the tables that foreign keys point to. -/
theorem rowSound_congr {first second : Database}
    (same : ∀ t : TableName, t.isLeaf = false → first t = second t) (t : TableName)
    (row : TableRow t)
    : rowSound first t row = rowSound second t row := by
  have users : hasUser first = hasUser second := by
    funext user
    rw [hasUser, hasUser, same .users rfl]
  have organizations : hasOrganization first = hasOrganization second := by
    funext organization
    rw [hasOrganization, hasOrganization, same .organizations rfl]
  have documents : hasDocument first = hasDocument second := by
    funext organization document
    rw [hasDocument, hasDocument, same .documents rfl]
  have versions : hasVersion first = hasVersion second := by
    funext organization version
    rw [hasVersion, hasVersion, same .documentVersions rfl]
  have batches : hasBatch first = hasBatch second := by
    funext organization batch
    rw [hasBatch, hasBatch, same .batches rfl]
  have cases : hasCase first = hasCase second := by
    funext organization case
    rw [hasCase, hasCase, same .cases rfl]
  cases t <;> simp only [rowSound, users, organizations, documents, versions, batches, cases]

namespace Constrained

variable {db : Database} {t : TableName}

/-- A row that is accepted in a leaf table. -/
theorem put (constrained : Constrained db) (leaf : t.isLeaf = true) {row : TableRow t}
    (single : Store.duplicates db t row = false) (sound : rowSound db t row = true)
    (fits : rowFits t row = true)
    : Constrained (Db.put db t row) where
  keyed := Db.put_keyed constrained.keyed t row
  unique := by
    refine @Store.unique_apply _ schema_symmetric db constrained.keyed constrained.unique
      (.put t row) ?_
    intro t' row' same
    cases same
    exact single
  sound t' row' member := by
    have congr : rowSound (db.put t row) t' row' = rowSound db t' row' :=
      rowSound_congr (fun other referred =>
        Db.put_table_other db row (by rintro rfl; simp [leaf] at referred)) t' row'
    rw [congr]
    rcases Write.mem_put_table member with old | new
    · exact constrained.sound t' row' old
    · cases new
      exact sound
  fits t' row' member := by
    rcases Write.mem_put_table member with old | new
    · exact constrained.fits t' row' old
    · cases new
      exact fits
  current row' member := by
    have versions : (db.put t row) .documentVersions = db .documentVersions :=
      Db.put_table_other db row (by rintro rfl; cases leaf)
    have documents : (db.put t row) .documents = db .documents :=
      Db.put_table_other db row (by rintro rfl; cases leaf)
    rw [documents] at member
    rw [hasVersion, versions]
    exact constrained.current row' member

theorem mem_remove {t' : TableName} {k : UUID} {row : TableRow t'}
    (member : row ∈ (Db.remove (S := schema) db t k) t')
    : row ∈ db t' := by
  by_cases same : t' = t
  · subst same
    simp only [Db.remove, Function.update_self] at member
    exact List.mem_of_mem_filter member
  · rwa [Db.remove_table_other db k same] at member

/-- A row is removed from a leaf table. -/
theorem remove (constrained : Constrained db) (leaf : t.isLeaf = true) (k : UUID)
    : Constrained (Db.remove (S := schema) db t k) where
  keyed := Db.remove_keyed constrained.keyed t k
  unique t' first second left right different :=
    constrained.unique t' first second (mem_remove left) (mem_remove right) different
  sound t' row' member := by
    have congr : rowSound (Db.remove (S := schema) db t k) t' row' = rowSound db t' row' :=
      rowSound_congr (fun other referred =>
        Db.remove_table_other db k (by rintro rfl; simp [leaf] at referred)) t' row'
    rw [congr]
    exact constrained.sound t' row' (mem_remove member)
  fits t' row' member := constrained.fits t' row' (mem_remove member)
  current row' member := by
    have versions : (Db.remove (S := schema) db t k) .documentVersions = db .documentVersions :=
      Db.remove_table_other db k (by rintro rfl; cases leaf)
    rw [hasVersion, versions]
    exact constrained.current row' (mem_remove member)

end Constrained

-----------------------------------------------------------------------------------------
-- Sessions
-----------------------------------------------------------------------------------------

/-- Reads, and writes to leaf tables. -/
def Op.LeafWrites : Op → Prop
  | .sql (.select _) => True
  | .sql (.insert t _) => t.isLeaf = true
  | .sql (.delete t _) => t.isLeaf = true
  | .sql .commit => True
  | .sql .rollback => True
  | .enter _ => True
  | .now => True
  | .newUuid => True
  | _ => False

def leafWrites : Contract Op Op.Answer where
  may := Op.LeafWrites
  learns _ _ := True

/-- The program makes no other operations, whatever it is answered. -/
abbrev LeafWriting {α : Type} (program : App α) : Prop := Keeps leafWrites (fun _ => True) program

/-- Session `i` is alone, and all constraints hold before and after its writes. -/
structure Store.Lawful (i : Nat) (store : Store schema) : Prop where
  alone : store.Alone i
  committed : Constrained store.committed
  view : Constrained (store.view i)

namespace Store.Lawful

variable {i : Nat} {store : Store schema}

theorem of_rested (pending : store.pending = []) (locks : store.locks = [])
    (constrained : Constrained store.committed)
    : Store.Lawful i store where
  alone := .of_rested pending locks
  committed := constrained
  view := by
    rw [Store.view_of_own_nil (by simp [Store.own, pending])]
    exact constrained

theorem record (lawful : Store.Lawful i store) (change : History schema → History schema)
    : Store.Lawful i (store.record i change) where
  alone := { lawful.alone with }
  committed := lawful.committed
  view := lawful.view

theorem opening (lawful : Store.Lawful i store) : Store.Lawful i (store.opening i) :=
  lawful.record _

theorem release (lawful : Store.Lawful i store) : Store.Lawful i (store.release i) :=
  .of_rested lawful.alone.release.1 lawful.alone.release.2 lawful.committed

/-- Deleting rows of a leaf table, by induction on the rows. -/
theorem removing (lawful : Store.Lawful i store) {t : TableName} (leaf : t.isLeaf = true)
    (rows : List (TableRow t))
    : Store.Lawful i
        (rows.foldl (fun current row => current.stage i (.remove t (primaryKey t row))) store) := by
  induction rows generalizing store with
  | nil => exact lawful
  | cons row rest ih =>
      apply ih
      exact {
        alone := lawful.alone.stage _
        committed := lawful.committed
        view := by
          rw [Store.stage_view_self]
          exact lawful.view.remove leaf _
      }

/-- Alone nothing waits. -/
theorem exec (lawful : Store.Lawful i store) {statement : Statement schema}
    (allowed : (Op.sql statement).LeafWrites)
    : ∃ answer after,
        Store.exec i statement store = some (answer, after) ∧ Store.Lawful i after := by
  cases statement with
  | select query => exact ⟨_, _, rfl, lawful.opening⟩
  | selectForUpdate t k chosen => exact absurd allowed id
  | update t k change => exact absurd allowed id
  | insert t row =>
      simp only [Store.exec, lawful.alone.not_departing, lawful.alone.not_contested,
        lawful.alone.not_barred, Bool.or_self, Bool.false_eq_true, if_false]
      split
      · exact ⟨_, _, rfl, lawful⟩
      rename_i valid
      split
      · exact ⟨_, _, rfl, lawful⟩
      rename_i fits
      simp only [Bool.or_eq_true, Bool.not_eq_true', not_or, Bool.not_eq_true,
        Bool.not_eq_false] at valid fits
      refine ⟨_, _, rfl, ?_⟩
      exact {
        alone := lawful.alone.stage _
        committed := lawful.committed
        view := by
          rw [Store.stage_view_self]
          exact lawful.view.put allowed valid.1.2 valid.2 fits
      }
  | delete t chosen =>
      have free : ((store.view i t).filter chosen).any (fun row =>
          store.withheld i t (schema.key t row)) = false := by
        simp [lawful.alone.not_withheld]
      simp only [Store.exec, free, Bool.false_eq_true, if_false]
      exact ⟨_, _, rfl, (lawful.record _).removing allowed _⟩
  | commit =>
      refine ⟨_, _, rfl, ?_⟩
      exact .of_rested lawful.alone.release.1 lawful.alone.release.2 lawful.view
  | rollback => exact ⟨_, _, rfl, lawful.release⟩

end Store.Lawful

/-- What one operation of such a session leaves. -/
theorem exec_lawful {i : Nat} {op : Op} {world : World}
    (lawful : Store.Lawful i world.store) (allowed : op.LeafWrites)
    : ∃ answer after,
        exec i op world = some (answer, after) ∧ Store.Lawful i after.store := by
  cases op with
  | sql statement =>
      obtain ⟨answer, store, ran, kept⟩ := lawful.exec allowed
      exact ⟨answer, { world with store }, by simp only [WorkflowForge.exec, ran], kept⟩
  | enter port => exact ⟨_, _, rfl, lawful⟩
  | now => exact ⟨_, _, rfl, lawful⟩
  | newUuid => exact ⟨_, _, rfl, lawful⟩
  | _ => exact absurd allowed id

/-- Such a program ends, and the constraints hold when it does. -/
theorem LeafWriting.ends {α : Type} {program : App α} (writes : LeafWriting program) {i : Nat}
    {world : World} (lawful : Store.Lawful i world.store)
    : ∃ result after, App.run i program world = some (result, after)
        ∧ Store.Lawful i after.store := by
  have answered
      : ∀ op (state : World),
          Store.Lawful i state.store → leafWrites.may op
          → ∃ answer after,
              exec i op state = some (answer, after)
              ∧ Store.Lawful i after.store
              ∧ leafWrites.learns op answer := by
    intro op state kept allowed
    obtain ⟨answer, after, ran, lawful⟩ := exec_lawful kept allowed
    exact ⟨answer, after, ran, lawful, trivial⟩
  exact Keeps.total answered writes lawful

/-- After a request nothing is left open. -/
theorem LeafWriting.request_ends {α : Type} {program : App α} (writes : LeafWriting program)
    {i : Nat} {world : World} (lawful : Store.Lawful i world.store)
    : ∃ result after,
        App.run i (request program) world = some (result, after)
        ∧ after.store.pending = []
        ∧ after.store.locks = []
        ∧ Constrained after.store.committed := by
  obtain ⟨result, after, ran, kept⟩ := writes.ends lawful
  refine ⟨result, { after with store := after.store.release i }, ?_, kept.alone.release.1,
    kept.alone.release.2, kept.committed⟩
  rw [run_request, ran]
  rfl

-----------------------------------------------------------------------------------------
-- Building such programs
-----------------------------------------------------------------------------------------

/-- Reads and leaf writes that are not committed yet. -/
def drafts : Contract Op Op.Answer where
  may op := op.LeafWrites ∧ op.Commitless
  learns _ _ := True

/-- The program makes no other operations, whatever it is answered. -/
abbrev Drafts {α : Type} (program : App α) : Prop := Keeps drafts (fun _ => True) program

namespace Drafts

variable {α β : Type} {program : App α}

theorem leafWriting (keeps : Drafts program) : LeafWriting program :=
  keeps.weaken (fun _ allowed => allowed.1) (fun _ _ _ => trivial)

theorem commitless (keeps : Drafts program) : Commitless program :=
  keeps.weaken (fun _ allowed => allowed.2) (fun _ _ _ => trivial)

theorem andThen {next : α → App β} (first : Drafts program)
    (second : ∀ value, Drafts (next value))
    : Drafts (program >>= next) :=
  Keeps.bind first (fun value _ => second value)

theorem pure (value : α) : Drafts (Pure.pure value : App α) := Keeps.pure trivial

theorem throw (failure : Exn) : Drafts (MonadExcept.throw failure : App α) :=
  Keeps.throw failure

theorem liftExcept (result : Except Exn α) : Drafts (liftExcept result) :=
  Keeps.ofExcept (fun _ _ => trivial)

theorem enter (port : Port) : Drafts (enter port) := by
  refine andThen (Keeps.perform ⟨trivial, trivial⟩) (fun raised => ?_)
  cases raised
  · exact pure ()
  · exact throw _

theorem select (query : Query) : Drafts (select query) := Keeps.perform ⟨trivial, trivial⟩

theorem insert {t : TableName} (leaf : t.isLeaf = true) (row : TableRow t)
    : Drafts (insert t row) := by
  refine andThen (Keeps.perform ⟨leaf, trivial⟩) fun answer => ?_
  cases answer with
  | ok value => exact pure ()
  | error violation => cases violation <;> exact throw _

theorem delete {t : TableName} (leaf : t.isLeaf = true) (chosen : TableRow t → Bool)
    : Drafts (delete t chosen) :=
  Keeps.perform ⟨leaf, trivial⟩

theorem sessionRollback : Drafts sessionRollback := Keeps.perform ⟨trivial, trivial⟩

theorem rollback : Drafts rollback :=
  andThen (enter _) (fun _ => Keeps.perform ⟨trivial, trivial⟩)

theorem newUuid : Drafts newUuid := Keeps.perform ⟨trivial, trivial⟩

theorem now : Drafts (nowOr none) := Keeps.perform ⟨trivial, trivial⟩

theorem scalarOneOrNone {rows : List α} : Drafts (scalarOneOrNone rows) := by
  match rows with
  | [] => exact pure _
  | [_] => exact pure _
  | _ :: _ :: _ => exact throw _

end Drafts

/-- Leaf writes with COMMIT as the last operation. -/
structure CommitsLast {α : Type} (program : App α) : Prop where
  writes : LeafWriting program
  unsaved : RaisesUnsaved program

namespace CommitsLast

variable {α β : Type} {program : App α}

theorem andThen {next : α → App β} (first : Drafts program)
    (second : ∀ value, CommitsLast (next value))
    : CommitsLast (program >>= next) where
  writes := Keeps.bind first.leafWriting (fun value _ => (second value).writes)
  unsaved := .andThen first.commitless (fun value => (second value).unsaved)

theorem commit (value : α)
    : CommitsLast (do
        WorkflowForge.commit
        return value) where
  writes :=
    Keeps.bind (Keeps.bind (Drafts.enter _).leafWriting (fun _ _ => Keeps.perform trivial))
      (fun _ _ => Keeps.pure trivial)
  unsaved := .commit value

theorem tryCatch {handler : Exn → App α} (guarded : CommitsLast program)
    (handled : ∀ failure, Drafts (handler failure))
    : CommitsLast (MonadExcept.tryCatch program handler) where
  writes := Keeps.tryCatch guarded.writes (fun failure => (handled failure).leafWriting)
  unsaved := guarded.unsaved.tryCatch (fun failure => (handled failure).commitless)

/-- A result that is only wrapped. -/
theorem map (last : CommitsLast program) (f : α → β)
    : CommitsLast (do return f (← program)) where
  writes := Keeps.bind last.writes (fun _ _ => Keeps.pure trivial)
  unsaved i world failure after raised := by
    rcases Returns.bind_raises raised with early | ⟨_, _, -, late⟩
    · exact last.unsaved i world failure after early
    · cases late

end CommitsLast

end WorkflowForge
