import WorkflowForge.Bootstrap.Discipline

/-! Specifications of the actions of a bootstrap run.
Whenever an action raises, the run has not founded the identity tables.
-/

namespace WorkflowForge.Bootstrap

open Python Transactions Concurrency

/-- From states with `pre` the program ends in `value`, or raises without having founded. -/
abbrev Spec {α : Type} (i : Nat) (pre : World → Prop) (program : App α)
    (value : α → World → Prop)
    : Prop :=
  Triple exec discipline i pre program (returns value (fun _ world => ¬ world.Founded i))

abbrev Stable (i : Nat) (assertion : World → Prop) : Prop := discipline.Stable i assertion

variable {i : Nat} {α β : Type} {pre : World → Prop}

-----------------------------------------------------------------------------------------
-- Assertions
-----------------------------------------------------------------------------------------

/-- The run has not founded the identity tables. -/
def Unfounded (i : Nat) (world : World) : Prop := ¬ world.Founded i

/-- It has staged audit events at most. -/
structure Bystander (i : Nat) (world : World) : Prop where
  audits : world.OnlyAudits i
  unfounded : ¬ world.Founded i

/-- It holds the lock and has staged nothing. -/
structure Locked (i : Nat) (world : World) : Prop where
  lock : world.advisory = some i
  own : world.store.own i = []
  unfounded : ¬ world.Founded i

/-- It holds the lock while the identity tables are empty, and has staged these writes and
drawn these identifiers. -/
structure Holding (i : Nat) (writes : List (Write schema)) (ids : List UUID) (world : World)
    : Prop where
  lock : world.advisory = some i
  empty : world.identity = .empty
  own : world.store.own i = writes
  drawn : ∀ id ∈ ids, world.DrawnBy i id

/-- An unchanged run stays unfounded. -/
theorem unfounded_of {before after : World} (unfounded : ¬ before.Founded i)
    (drew : ∀ id, after.DrawnBy i id → before.DrawnBy i id)
    (foreign
      : after.identity = before.identity ∨ ∃ j, j ≠ i ∧ after.Founded j)
    : ¬ after.Founded i := by
  intro founded
  rcases foreign with same | ⟨j, other, founded'⟩
  · exact unfounded (founded.mono same.symm drew)
  · exact other (founded'.unique founded)

theorem Rely.unfounded {before after : World} (rely : Rely i before after)
    (unfounded : ¬ before.Founded i)
    : ¬ after.Founded i :=
  unfounded_of unfounded (fun id => (rely.drew id).mp) (rely.foreign.imp_right And.right)

theorem Unfounded.stable : Stable i (Unfounded i) :=
  fun _ _ _ _ rely unfounded => rely.unfounded unfounded

theorem Bystander.stable : Stable i (Bystander i) := by
  intro before now _ _ rely holds
  refine { audits := ?_, unfounded := rely.unfounded holds.unfounded }
  rw [World.OnlyAudits, rely.own]
  exact holds.audits

theorem Locked.stable : Stable i (Locked i) :=
  fun _ _ _ _ rely holds => {
    lock := rely.lock.mpr holds.lock
    own := rely.own.trans holds.own
    unfounded := rely.unfounded holds.unfounded }

theorem Holding.stable {writes : List (Write schema)} {ids : List UUID}
    : Stable i (Holding i writes ids) :=
  fun _ _ _ _ rely holds => {
    lock := rely.lock.mpr holds.lock
    empty := (rely.held holds.lock).trans holds.empty
    own := rely.own.trans holds.own
    drawn := fun id member => rely.drawn i id (holds.drawn id member) }

theorem Locked.bystander {world : World} (locked : Locked i world) : Bystander i world where
  audits write member := by
    rw [locked.own] at member
    cases member
  unfounded := locked.unfounded

theorem Holding.unfounded {writes : List (Write schema)} {ids : List UUID} {world : World}
    (holding : Holding i writes ids world)
    : ¬ world.Founded i :=
  fun founded => founded.ne_empty holding.empty

-----------------------------------------------------------------------------------------
-- Rules
-----------------------------------------------------------------------------------------

namespace Spec

theorem bind {program : App α} {next : α → App β} {middle : α → World → Prop}
    {value : β → World → Prop} (first : Spec i pre program middle)
    (second : ∀ value', Spec i (middle value') (next value') value)
    : Spec i pre (program >>= next) value :=
  Triple.bind discipline_coherent.toOrdered first second (fun _ _ _ unfounded => unfounded)

theorem pure {result : α} {value : α → World → Prop} (stable : Stable i pre)
    (holds : ∀ world, pre world → value result world)
    : Spec i pre (Pure.pure result : App α) value :=
  Triple.done stable (fun world _ before => holds world before)

theorem throw {failure : AccountExn} {value : α → World → Prop} (stable : Stable i pre)
    (unfounded : ∀ world, pre world → ¬ world.Founded i)
    : Spec i pre (MonadExcept.throw failure : App α) value :=
  Triple.done stable (fun world _ before => unfounded world before)

theorem weaken {program : App α} {stronger : World → Prop} {value : α → World → Prop}
    (spec : Spec i pre program value) (before : ∀ world, stronger world → pre world)
    : Spec i stronger program value :=
  Triple.consequence spec (fun world _ => before world) (fun _ _ _ reached => reached)

theorem mono {program : App α} {value weaker : α → World → Prop}
    (spec : Spec i pre program value)
    (after : ∀ result world, Invariant world → value result world → weaker result world)
    : Spec i pre program weaker := by
  refine Triple.consequence spec (fun _ _ before => before) (fun result world inv reached => ?_)
  cases result with
  | ok result => exact after result world inv reached
  | error failure => exact reached

/-- A pure computation: its value is known afterwards. -/
theorem liftExcept {result : Except AccountExn α} (stable : Stable i pre)
    (unfounded : ∀ world, pre world → ¬ world.Founded i)
    : Spec i pre (liftExcept result) (fun value world => result = .ok value ∧ pre world) := by
  cases result with
  | ok value => exact pure stable (fun _ holds => ⟨rfl, holds⟩)
  | error failure => exact throw stable unfounded

/-- What a pure value is known to be may be used. -/
theorem known {fact : Prop} {program : App α} {value : α → World → Prop}
    (spec : fact → Spec i pre program value)
    : Spec i (fun world => fact ∧ pre world) program value := by
  intro world inv holds
  exact spec holds.1 world inv holds.2

/-- What is known to exist may be used. -/
theorem given {ι : Type} {assertion : ι → World → Prop} {program : App α}
    {value : α → World → Prop} (spec : ∀ x, Spec i (assertion x) program value)
    : Spec i (fun world => ∃ x, assertion x world) program value := by
  rintro world inv ⟨x, holds⟩
  exact spec x world inv holds

theorem perform {op : Op} {answered : op.Answer → World → Prop} (stable : Stable i pre)
    (lasting : ∀ answer, Stable i (answered answer))
    (step
      : ∀ now answer after,
          Invariant now → pre now → exec i op now = some (answer, after)
          → Kept i now after ∧ answered answer after)
    : Spec i pre (perform op) answered := by
  refine Triple.perform stable lasting ?_ (fun _ _ _ reached => reached)
  intro now answer after inv before _ ran
  obtain ⟨kept, reached⟩ := step now answer after inv before ran
  exact ⟨kept.invariant, kept.others, reached⟩

/-- Looking changes nothing. -/
theorem look {op : Op} (looks : op.Looks) (stable : Stable i pre)
    : Spec i pre (Bootstrap.perform op) (fun _ => pre) := by
  refine perform stable (fun _ => stable) (fun now answer after inv before ran => ?_)
  have same := looks.same ran
  exact ⟨same.kept inv, stable now after inv (same.invariant inv) (same.rely i) before⟩

theorem enter {port : Port} (stable : Stable i pre)
    (unfounded : ∀ world, pre world → ¬ world.Founded i)
    : Spec i pre (enter port) (fun _ => pre) := by
  refine bind (look trivial stable) (fun raised => ?_)
  cases raised with
  | false => exact pure stable (fun _ holds => holds)
  | true => exact throw stable unfounded

theorem sessionRollback (stable : Stable i pre)
    (unfounded : ∀ world, pre world → ¬ world.Founded i)
    : Spec i pre sessionRollback (fun _ world => world.store.own i = [] ∧ Unfounded i world) := by
  refine perform stable (fun _ => ?_) (fun now answer after inv before ran => ?_)
  · exact fun _ _ _ _ rely holds => ⟨rely.own.trans holds.1, rely.unfounded holds.2⟩
  · obtain ⟨ending, identity⟩ := rollback_ending ran
    exact ⟨ending.kept inv, ending.own, unfounded_of (unfounded now before)
      (fun id => (ending.drawnBy i id).mp) (.inl identity)⟩

/-- The lock. -/
theorem lock
    : Spec i (fun world => world.store.own i = [] ∧ Unfounded i world)
        (Bootstrap.perform .lock) (fun _ => Locked i) := by
  refine perform ?_ (fun _ => Locked.stable) (fun now answer after inv before ran => ?_)
  · exact fun _ _ _ _ rely holds => ⟨rely.own.trans holds.1, rely.unfounded holds.2⟩
  · simp only [exec] at ran
    split at ran
    · rename_i free
      obtain ⟨-, rfl⟩ := Prod.mk.inj (Option.some.inj ran)
      exact ⟨lock_kept inv free, rfl, before.1,
        unfounded_of before.2 (fun _ drawn => drawn) (.inl rfl)⟩
    · cases ran

end Spec

-----------------------------------------------------------------------------------------
-- Identifiers
-----------------------------------------------------------------------------------------

theorem newUuid_holding {writes : List (Write schema)} {ids : List UUID}
    : Spec i (Holding i writes ids) newUuid (fun id => Holding i writes (id :: ids)) := by
  refine Spec.bind (Spec.enter Holding.stable fun _ => Holding.unfounded) (fun _ => ?_)
  refine Spec.perform Holding.stable (fun _ => Holding.stable)
    (fun now answer after inv before ran => ?_)
  obtain ⟨rfl, rfl⟩ := Prod.mk.inj (Option.some.inj ran)
  refine ⟨drawing_kept inv, before.lock, before.empty, before.own, ?_⟩
  intro id member
  rcases List.mem_cons.mp member with rfl | old
  · exact drawing_new now i
  · exact (before.drawn id old).drawing

theorem newUuid_bystander : Spec i (Bystander i) newUuid (fun _ => Bystander i) := by
  refine Spec.bind (Spec.enter Bystander.stable fun _ => Bystander.unfounded) (fun _ => ?_)
  refine Spec.perform Bystander.stable (fun _ => Bystander.stable)
    (fun now answer after inv before ran => ?_)
  obtain ⟨-, rfl⟩ := Prod.mk.inj (Option.some.inj ran)
  refine ⟨drawing_kept inv, before.audits, fun founded => ?_⟩
  rcases inv.settled with empty | ⟨j, founded'⟩
  · exact founded.ne_empty empty
  · have later : (now.drawing i).Founded j :=
      founded'.mono rfl fun _ => World.DrawnBy.drawing
    obtain rfl := later.unique founded
    exact before.unfounded founded'

-----------------------------------------------------------------------------------------
-- Inserts
-----------------------------------------------------------------------------------------

/-- The INSERT of a row under the lock. -/
theorem insertRow_holding {writes : List (Write schema)} {ids : List UUID} (t : TableName)
    (row : TableRow t)
    : Spec i (Holding i writes ids) (perform (.sql (.insert t row)))
        (fun (answer : Except Violation Unit) world =>
          match answer with
          | .ok () => Holding i (writes ++ [.put t row]) ids world
          | .error _ => Holding i writes ids world) := by
  refine Spec.perform Holding.stable (fun answer => ?_) (fun now answer after inv before ran => ?_)
  · cases answer <;> exact Holding.stable
  · rcases insert_cases ran with ⟨violation, rfl, same⟩ | ⟨rfl, rfl⟩
    · exact ⟨same.kept inv,
        Holding.stable now after inv (same.invariant inv) (same.rely i) before⟩
    · refine ⟨staging_kept inv t row (.inr before.lock), before.lock, before.empty, ?_,
        before.drawn⟩
      rw [staging_own, before.own]

/-- `flush` of an identity row under the lock; `conflict` only raises. -/
theorem insert_holding {writes : List (Write schema)} {ids : List UUID} (t : TableName)
    (row : TableRow t) {conflict : App Unit}
    (raises : Spec i (Unfounded i) conflict (fun _ _ => False))
    : Spec i (Holding i writes ids) (insert t row conflict)
        (fun _ => Holding i (writes ++ [.put t row]) ids) := by
  refine Spec.bind (insertRow_holding t row) (fun answer => ?_)
  cases answer with
  | ok value => exact Spec.pure Holding.stable (fun _ holds => holds)
  | error violation =>
      cases violation with
      | integrity =>
          refine Spec.bind (Spec.sessionRollback Holding.stable fun _ => Holding.unfounded)
            (fun _ => ?_)
          exact (raises.weaken fun _ holds => holds.2).mono fun _ _ _ impossible => impossible.elim
      | data => exact Spec.throw Holding.stable (fun _ => Holding.unfounded)

/-- Recording an audit event under the lock. -/
theorem auditRecord_holding {writes : List (Write schema)} {ids : List UUID}
    (event : BootstrapEvent)
    : Spec i (Holding i writes ids) (auditRecord event)
        (fun _ => Holding i (writes ++ [.put .securityAuditEvents event]) ids) := by
  refine Spec.bind (Spec.enter Holding.stable fun _ => Holding.unfounded) (fun _ => ?_)
  refine Spec.bind (insertRow_holding .securityAuditEvents event) (fun answer => ?_)
  cases answer with
  | ok value => exact Spec.pure Holding.stable (fun _ holds => holds)
  | error violation => exact Spec.throw Holding.stable (fun _ => Holding.unfounded)

/-- Recording an audit event of a run that founds nothing. -/
theorem auditRecord_bystander (event : BootstrapEvent)
    : Spec i (Bystander i) (auditRecord event) (fun _ => Bystander i) := by
  refine Spec.bind (Spec.enter Bystander.stable fun _ => Bystander.unfounded) (fun _ => ?_)
  have inserted
      : Spec i (Bystander i) (perform (.sql (.insert .securityAuditEvents event)))
          (fun _ => Bystander i) := by
    refine Spec.perform Bystander.stable (fun _ => Bystander.stable)
      (fun now answer after inv before ran => ?_)
    rcases insert_cases ran with ⟨violation, rfl, same⟩ | ⟨rfl, rfl⟩
    · exact ⟨same.kept inv,
        Bystander.stable now after inv (same.invariant inv) (same.rely i) before⟩
    · refine ⟨staging_kept inv _ event (.inl rfl), ?_,
        unfounded_of before.unfounded (fun _ drawn => drawn) (.inl rfl)⟩
      intro write member
      rw [staging_own, List.mem_append, List.mem_singleton] at member
      rcases member with old | rfl
      · exact before.audits write old
      · rfl
  refine Spec.bind inserted (fun (answer : Except Violation Unit) => ?_)
  cases answer with
  | ok value => exact Spec.pure Bystander.stable (fun _ holds => holds)
  | error violation => exact Spec.throw Bystander.stable (fun _ => Bystander.unfounded)

-----------------------------------------------------------------------------------------
-- Selects and commits
-----------------------------------------------------------------------------------------

/-- What the writes leave in empty identity tables. -/
def tablesOf (writes : List (Write schema)) : IdentityTables :=
  identityOf (Write.applyAll writes (fun _ => []))

theorem Holding.seen {writes : List (Write schema)} {ids : List UUID} {world : World}
    (holding : Holding i writes ids world)
    : world.seen i = tablesOf writes := by
  have same := holding.empty
  simp only [World.identity, identityOf, IdentityTables.empty, IdentityTables.mk.injEq] at same
  obtain ⟨users, organizations, memberships, credentials⟩ := same
  have table {t : TableName} (none : world.store.committed t = [])
      : world.store.view i t = (Write.applyAll writes (fun _ => []) : Database) t := by
    rw [Store.view, holding.own]
    exact Write.applyAll_table_congr writes none
  simp only [World.seen, tablesOf, identityOf, table users, table organizations,
    table memberships, table credentials]

/-- A SELECT under the lock shows the staged identity rows. -/
theorem select_holding {writes : List (Write schema)} {ids : List UUID} (query : Query)
    : Spec i (Holding i writes ids) (select query)
        (fun db world => identityOf db = tablesOf writes ∧ Holding i writes ids world) := by
  refine Spec.perform Holding.stable (fun db => ?_) (fun now answer after inv before ran => ?_)
  · intro now later inv inv' rely holds
    exact ⟨holds.1, Holding.stable now later inv inv' rely holds.2⟩
  · have same := Op.Looks.same (by exact trivial) ran
    obtain ⟨rfl, -⟩ := Prod.mk.inj (Option.some.inj ran)
    exact ⟨same.kept inv, before.seen,
      Holding.stable now after inv (same.invariant inv) (same.rely i) before⟩

/-- The lock holder, and identity tables as they were seen. -/
structure Observed (i : Nat) (tables : IdentityTables) (world : World) : Prop where
  locked : Locked i world
  identity : world.identity = tables

theorem Observed.stable {tables : IdentityTables} : Stable i (Observed i tables) :=
  fun before now inv inv' rely holds => {
    locked := Locked.stable before now inv inv' rely holds.locked
    identity := (rely.held holds.locked.lock).trans holds.identity }

/-- A SELECT of the lock holder that has staged nothing shows what stays committed. -/
theorem select_locked (query : Query)
    : Spec i (Locked i) (select query) (fun db => Observed i (identityOf db)) := by
  refine Spec.perform Locked.stable (fun _ => Observed.stable)
    (fun now answer after inv before ran => ?_)
  have same := Op.Looks.same (by exact trivial) ran
  obtain ⟨rfl, -⟩ := Prod.mk.inj (Option.some.inj ran)
  have view : now.store.view i = now.store.committed := by
    rw [Store.view, before.own]
    rfl
  refine ⟨same.kept inv,
    Locked.stable now after inv (same.invariant inv) (same.rely i) before, ?_⟩
  rw [same.identity, view]
  rfl

/-- Committing what a run that founds nothing has staged. -/
theorem commit_bystander : Spec i (Bystander i) commit (fun _ => Unfounded i) := by
  refine Spec.bind (Spec.enter Bystander.stable fun _ => Bystander.unfounded) (fun _ => ?_)
  refine Spec.perform Bystander.stable (fun _ => Unfounded.stable)
    (fun now answer after inv before ran => ?_)
  have seen := seen_of_audits before.audits
  obtain ⟨ending, identity⟩ := commit_ending ran (.inl seen)
  exact ⟨ending.kept inv, unfounded_of before.unfounded (fun id => (ending.drawnBy i id).mp)
    (.inl (identity.trans seen))⟩

/-- What a founding commit leaves. -/
theorem founded_stable {founding : Founding}
    : Stable i (fun world => world.FoundedBy i founding) := by
  intro before now _ _ rely founded
  have same : now.identity = before.identity :=
    rely.foreign.resolve_right fun foreign =>
      World.Founded.ne_empty ⟨founding, founded⟩ foreign.1
  exact {
    tables := same.trans founded.tables
    user := rely.drawn _ _ founded.user
    organization := rely.drawn _ _ founded.organization
    membership := rely.drawn _ _ founded.membership }

/-- Committing the founding rows. -/
theorem commit_holding {writes : List (Write schema)} {ids : List UUID} {founding : Founding}
    (tables : tablesOf writes = founding.tables) (user : founding.user.id ∈ ids)
    (organization : founding.organization.id ∈ ids) (membership : founding.membership.id ∈ ids)
    : Spec i (Holding i writes ids) commit (fun _ world => world.FoundedBy i founding) := by
  refine Spec.bind (Spec.enter Holding.stable fun _ => Holding.unfounded) (fun _ => ?_)
  refine Spec.perform Holding.stable (fun _ => founded_stable)
    (fun now answer after inv before ran => ?_)
  have seen : now.seen i = founding.tables := before.seen.trans tables
  obtain ⟨ending, identity⟩ := commit_ending ran (.inr ⟨before.empty, before.lock, founding, seen,
    before.drawn _ user, before.drawn _ organization, before.drawn _ membership⟩)
  exact ⟨ending.kept inv, {
    tables := identity.trans seen
    user := (ending.drawnBy i _).mpr (before.drawn _ user)
    organization := (ending.drawnBy i _).mpr (before.drawn _ organization)
    membership := (ending.drawnBy i _).mpr (before.drawn _ membership) }⟩

end WorkflowForge.Bootstrap
