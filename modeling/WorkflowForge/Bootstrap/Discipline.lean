import WorkflowForge.Application.BootstrapOwner
import WorkflowForge.Concurrency.Triples
import WorkflowForge.Transactions.Isolation
import WorkflowForge.Transactions.Lookups

/-! What concurrent bootstrap runs may rely on: identity rows are staged by the holder of the
lock only, and committed only into empty identity tables.
-/

namespace WorkflowForge.Bootstrap

open Python Transactions Concurrency

-----------------------------------------------------------------------------------------
-- The identity tables
-----------------------------------------------------------------------------------------

/-- The tables of users, organizations, memberships and credentials. -/
structure IdentityTables where
  users : List UserRecord
  organizations : List OrganizationRecord
  memberships : List Membership
  credentials : List PasswordCredential

def IdentityTables.empty : IdentityTables where
  users := []
  organizations := []
  memberships := []
  credentials := []

def identityOf (db : Database) : IdentityTables where
  users := db .users
  organizations := db .organizations
  memberships := db .memberships
  credentials := db .passwordCredentials

/-- One user, one organization, one active owner membership that links them, and one password
credential of the user. -/
structure Founding where
  user : UserRecord
  organization : OrganizationRecord
  membership : Membership
  credential : PasswordCredential
  member : membership.userId = user.id
  tenant : membership.organizationId = organization.id
  owner : membership.isActiveOwner = true
  credited : credential.userId = user.id

def Founding.tables (founding : Founding) : IdentityTables where
  users := [founding.user]
  organizations := [founding.organization]
  memberships := [founding.membership]
  credentials := [founding.credential]

theorem Founding.tables_ne_empty (founding : Founding) : founding.tables ≠ .empty := by
  intro same
  have users := congrArg IdentityTables.users same
  cases users

namespace World

def identity (world : World) : IdentityTables := identityOf world.store.committed

/-- Session `i` has drawn the identifier. -/
def DrawnBy (world : World) (i : Nat) (id : UUID) : Prop :=
  ∃ n, world.drawn[n]? = some i ∧ world.ids.get n = id

/-- An identifier is drawn once. -/
theorem DrawnBy.unique {world : World} {i j : Nat} {id : UUID} (first : world.DrawnBy i id)
    (second : world.DrawnBy j id)
    : i = j := by
  obtain ⟨m, drawn, rfl⟩ := first
  obtain ⟨n, drawn', same⟩ := second
  obtain rfl := world.ids.injective n m same
  exact Option.some.inj (drawn.symm.trans drawn')

/-- The identity tables hold the founding rows, under identifiers of session `i`. -/
structure FoundedBy (world : World) (i : Nat) (founding : Founding) : Prop where
  tables : world.identity = founding.tables
  user : world.DrawnBy i founding.user.id
  organization : world.DrawnBy i founding.organization.id
  membership : world.DrawnBy i founding.membership.id

def Founded (world : World) (i : Nat) : Prop := ∃ founding, world.FoundedBy i founding

theorem Founded.unique {world : World} {i j : Nat} (first : world.Founded i)
    (second : world.Founded j)
    : i = j := by
  obtain ⟨founding, first⟩ := first
  obtain ⟨founding', second⟩ := second
  have users := congrArg IdentityTables.users (first.tables.symm.trans second.tables)
  have same : founding.user = founding'.user := by simpa [Founding.tables] using users
  exact first.user.unique (same ▸ second.user)

end World

-----------------------------------------------------------------------------------------
-- Invariant and interference
-----------------------------------------------------------------------------------------

/-- The session has staged nothing but audit events. -/
def World.OnlyAudits (world : World) (i : Nat) : Prop :=
  ∀ write ∈ world.store.own i, write.target.1 = TableName.securityAuditEvents

structure Invariant (world : World) : Prop where
  exclusive : ∀ i, world.OnlyAudits i ∨ world.advisory = some i
  settled : world.identity = .empty ∨ ∃ i, world.Founded i

/-- What session `i` may rely on while the others act. -/
structure Rely (i : Nat) (before after : World) : Prop where
  own : after.store.own i = before.store.own i
  lock : after.advisory = some i ↔ before.advisory = some i
  drew : ∀ id, after.DrawnBy i id ↔ before.DrawnBy i id
  drawn : ∀ j id, before.DrawnBy j id → after.DrawnBy j id
  held : before.advisory = some i → after.identity = before.identity
  foreign
    : after.identity = before.identity
      ∨ (before.identity = .empty ∧ ∃ j, j ≠ i ∧ after.Founded j)

theorem World.Founded.mono {before after : World} {j : Nat} (founded : before.Founded j)
    (identity : after.identity = before.identity)
    (drawn : ∀ id, before.DrawnBy j id → after.DrawnBy j id)
    : after.Founded j := by
  obtain ⟨founding, founded⟩ := founded
  exact ⟨founding, {
    tables := identity.trans founded.tables
    user := drawn _ founded.user
    organization := drawn _ founded.organization
    membership := drawn _ founded.membership }⟩

theorem World.Founded.ne_empty {world : World} {j : Nat} (founded : world.Founded j)
    : world.identity ≠ .empty := by
  obtain ⟨founding, founded⟩ := founded
  rw [founded.tables]
  exact founding.tables_ne_empty

/-- What was founded stays so while the identity tables stay. -/
theorem Invariant.settles {before after : World} (invariant : Invariant before)
    (identity : after.identity = before.identity)
    (drawn : ∀ j id, before.DrawnBy j id → after.DrawnBy j id)
    : after.identity = .empty ∨ ∃ j, after.Founded j := by
  rw [identity]
  exact invariant.settled.imp_right fun ⟨j, founded⟩ => ⟨j, founded.mono identity (drawn j)⟩

theorem Rely.refl (i : Nat) (world : World) : Rely i world world where
  own := rfl
  lock := Iff.rfl
  drew _ := Iff.rfl
  drawn _ _ drawn := drawn
  held _ := rfl
  foreign := .inl rfl

theorem Rely.trans {i : Nat} {first second third : World} (early : Rely i first second)
    (late : Rely i second third)
    : Rely i first third where
  own := late.own.trans early.own
  lock := late.lock.trans early.lock
  drew id := (late.drew id).trans (early.drew id)
  drawn j id drawn := late.drawn j id (early.drawn j id drawn)
  held locked := (late.held (early.lock.mpr locked)).trans (early.held locked)
  foreign := by
    rcases early.foreign with same | ⟨empty, j, other, founded⟩
    · rcases late.foreign with same' | ⟨empty, founded⟩
      · exact .inl (same'.trans same)
      · exact .inr ⟨same ▸ empty, founded⟩
    · rcases late.foreign with same | ⟨empty', -⟩
      · exact .inr ⟨empty, j, other, founded.mono same (late.drawn j)⟩
      · exact absurd empty' founded.ne_empty

/-- The rules of the bootstrap runs. -/
def discipline : Discipline Op World where
  inv := Invariant
  rely := Rely
  guar i before after := ∀ j, j ≠ i → Rely j before after
  admits _ _ _ := True

theorem discipline_coherent : discipline.Coherent where
  refl i world := Rely.refl i world
  trans _ _ _ _ early late := Rely.trans early late
  compatible i _ other _ _ promised := promised i other

-----------------------------------------------------------------------------------------
-- Steps that touch neither rows nor lock
-----------------------------------------------------------------------------------------

/-- Rows, lock and identifiers are the same. -/
structure Same (before after : World) : Prop where
  committed : after.store.committed = before.store.committed
  pending : after.store.pending = before.store.pending
  advisory : after.advisory = before.advisory
  ids : after.ids = before.ids
  drawn : after.drawn = before.drawn

variable {i : Nat} {before after : World}

theorem Same.own (same : Same before after) (j : Nat)
    : after.store.own j = before.store.own j := by
  simp only [Store.own, same.pending]

theorem Same.drawnBy (same : Same before after) (j : Nat) (id : UUID)
    : after.DrawnBy j id ↔ before.DrawnBy j id := by
  simp only [World.DrawnBy, same.drawn, same.ids]

theorem Same.identity (same : Same before after) : after.identity = before.identity :=
  congrArg identityOf same.committed

theorem Same.rely (same : Same before after) (j : Nat) : Rely j before after where
  own := same.own j
  lock := by rw [same.advisory]
  drew := same.drawnBy j
  drawn k id := (same.drawnBy k id).mpr
  held _ := same.identity
  foreign := .inl same.identity

theorem Same.invariant (same : Same before after) (invariant : Invariant before)
    : Invariant after where
  exclusive j := by
    rw [World.OnlyAudits, same.own, same.advisory]
    exact invariant.exclusive j
  settled := invariant.settles same.identity fun j id => (same.drawnBy j id).mpr

/-- The operations that only look. -/
def Op.Looks : Op → Prop
  | .sql (.select _) => True
  | .enter _ => True
  | .now => True
  | .duplicateNamed => True
  | _ => False

theorem Op.Looks.same {op : Op} (looks : op.Looks) {answer : op.Answer}
    (ran : exec i op before = some (answer, after))
    : Same before after := by
  cases op with
  | sql statement =>
      cases statement with
      | select query =>
          obtain ⟨-, rfl⟩ := Prod.mk.inj (Option.some.inj ran)
          exact ⟨rfl, rfl, rfl, rfl, rfl⟩
      | _ => exact absurd looks id
  | enter port =>
      obtain ⟨-, rfl⟩ := Prod.mk.inj (Option.some.inj ran)
      exact ⟨rfl, rfl, rfl, rfl, rfl⟩
  | now =>
      obtain ⟨-, rfl⟩ := Prod.mk.inj (Option.some.inj ran)
      exact ⟨rfl, rfl, rfl, rfl, rfl⟩
  | duplicateNamed =>
      obtain ⟨-, rfl⟩ := Prod.mk.inj (Option.some.inj ran)
      exact ⟨rfl, rfl, rfl, rfl, rfl⟩
  | lock => exact absurd looks id
  | newUuid => exact absurd looks id

-----------------------------------------------------------------------------------------
-- The other steps
-----------------------------------------------------------------------------------------

/-- What a step of session `i` keeps for everyone. -/
structure Kept (i : Nat) (before after : World) : Prop where
  invariant : Invariant after
  others : ∀ j, j ≠ i → Rely j before after

theorem Same.kept (same : Same before after) (invariant : Invariant before)
    : Kept i before after where
  invariant := same.invariant invariant
  others j _ := same.rely j

/-- Drawing an identifier. -/
def World.drawing (world : World) (i : Nat) : World := { world with drawn := world.drawn ++ [i] }

theorem World.DrawnBy.drawing {j : Nat} {id : UUID} (drawn : before.DrawnBy j id)
    : (before.drawing i).DrawnBy j id := by
  obtain ⟨n, found, same⟩ := drawn
  have short : n < before.drawn.length := (List.getElem?_eq_some_iff.mp found).1
  refine ⟨n, ?_, same⟩
  rw [World.drawing, List.getElem?_append_left short]
  exact found

theorem drawing_new (world : World) (i : Nat)
    : (world.drawing i).DrawnBy i (world.ids.get world.drawn.length) :=
  ⟨world.drawn.length, by simp [World.drawing], rfl⟩

theorem drawing_other {j : Nat} (other : j ≠ i) {id : UUID}
    : (before.drawing i).DrawnBy j id ↔ before.DrawnBy j id := by
  refine ⟨?_, World.DrawnBy.drawing⟩
  rintro ⟨n, found, same⟩
  refine ⟨n, ?_, same⟩
  rw [World.drawing, List.getElem?_append] at found
  split at found
  · exact found
  · rw [List.getElem?_singleton] at found
    split at found
    · exact absurd (Option.some.inj found).symm other
    · cases found

theorem drawing_kept (invariant : Invariant before) : Kept i before (before.drawing i) where
  invariant := {
    exclusive := invariant.exclusive
    settled := invariant.settles rfl fun _ _ => World.DrawnBy.drawing }
  others _ other := {
    own := rfl
    lock := Iff.rfl
    drew _ := drawing_other other
    drawn _ _ := World.DrawnBy.drawing
    held _ := rfl
    foreign := .inl rfl }

/-- Taking the lock while nobody else has it. -/
theorem lock_kept (invariant : Invariant before) (free : before.advisory.all (· == i) = true)
    : Kept i before { before with advisory := some i } := by
  have apart {j : Nat} (other : j ≠ i) : before.advisory ≠ some j := by
    intro held
    rw [held] at free
    exact other (by simpa using free)
  refine {
    invariant := { exclusive := ?_, settled := invariant.settles rfl fun _ _ drawn => drawn }
    others := ?_
  }
  · intro j
    by_cases same : j = i
    · exact .inr (congrArg some same.symm)
    · exact .inl ((invariant.exclusive j).resolve_right (apart same))
  · intro j other
    exact {
      own := rfl
      lock := ⟨fun held => absurd (Option.some.inj held).symm other,
        fun held => absurd held (apart other)⟩
      drew := fun _ => Iff.rfl
      drawn := fun _ _ drawn => drawn
      held := fun _ => rfl
      foreign := .inl rfl }

/-- Staging a row. -/
def World.staging (world : World) (i : Nat) (t : TableName) (row : TableRow t) : World :=
  { world with store := world.store.stage i (.put t row) }

theorem staging_own (t : TableName) (row : TableRow t)
    : (before.staging i t row).store.own i = before.store.own i ++ [.put t row] :=
  Store.stage_own_self _ _ _

/-- Identity rows are staged under the lock only. -/
theorem staging_kept (invariant : Invariant before) (t : TableName) (row : TableRow t)
    (allowed : t = .securityAuditEvents ∨ before.advisory = some i)
    : Kept i before (before.staging i t row) where
  invariant := {
    exclusive := fun j => by
      by_cases same : j = i
      · subst same
        rcases allowed with audit | held
        · refine (invariant.exclusive j).imp_left fun audits write member => ?_
          rw [staging_own, List.mem_append, List.mem_singleton] at member
          rcases member with old | rfl
          · exact audits write old
          · exact audit
        · exact .inr held
      · rw [World.OnlyAudits, World.staging, Store.stage_own_other _ _ same]
        exact invariant.exclusive j
    settled := invariant.settles rfl fun _ _ drawn => drawn }
  others j other := {
    own := Store.stage_own_other _ _ other
    lock := Iff.rfl
    drew _ := Iff.rfl
    drawn _ _ drawn := drawn
    held _ := rfl
    foreign := .inl rfl }

/-- An INSERT is refused and changes nothing, or stages its row. -/
theorem insert_cases {t : TableName} {row : TableRow t} {answer : Except Violation Unit}
    (ran : exec i (.sql (.insert t row)) before = some (answer, after))
    : (∃ violation, answer = .error violation ∧ Same before after)
      ∨ (answer = .ok () ∧ after = before.staging i t row) := by
  simp only [exec] at ran
  split at ran
  · cases ran
  rename_i reply store executed
  obtain ⟨rfl, rfl⟩ := Prod.mk.inj (Option.some.inj ran)
  simp only [ends, Bool.false_and, Bool.false_eq_true, if_false]
  cases reply with
  | ok value =>
      obtain ⟨-, rfl⟩ := Store.exec_insert_ok.mp executed
      exact .inr ⟨rfl, rfl⟩
  | error violation =>
      refine .inl ⟨violation, rfl, ?_⟩
      obtain rfl := Store.exec_insert_error executed
      exact ⟨rfl, rfl, rfl, rfl, rfl⟩

/-- The lock after a transaction of session `i` has ended. -/
def World.unlocked (world : World) (i : Nat) : Option Nat :=
  if world.advisory == some i then none else world.advisory

theorem unlocked_other {j : Nat} (other : j ≠ i)
    : before.unlocked i = some j ↔ before.advisory = some j := by
  unfold World.unlocked
  split
  · rename_i held
    rw [beq_iff_eq] at held
    rw [held]
    refine ⟨fun impossible => ?_, fun same => absurd (Option.some.inj same).symm other⟩
    cases impossible
  · rfl

/-- Session `i` ends its transaction: the identity tables stay, or it founds them. -/
structure Ending (i : Nat) (before after : World) : Prop where
  own : after.store.own i = []
  others : ∀ j, j ≠ i → after.store.own j = before.store.own j
  advisory : after.advisory = before.unlocked i
  ids : after.ids = before.ids
  drawn : after.drawn = before.drawn
  identity
    : after.identity = before.identity
      ∨ (before.identity = .empty ∧ before.advisory = some i ∧ after.Founded i)

theorem Ending.drawnBy (ending : Ending i before after) (j : Nat) (id : UUID)
    : after.DrawnBy j id ↔ before.DrawnBy j id := by
  simp only [World.DrawnBy, ending.drawn, ending.ids]

theorem Ending.kept (ending : Ending i before after) (invariant : Invariant before)
    : Kept i before after where
  invariant := {
    exclusive := fun j => by
      by_cases same : j = i
      · subst same
        refine .inl fun write member => ?_
        rw [ending.own] at member
        cases member
      · rw [World.OnlyAudits, ending.others j same, ending.advisory, unlocked_other same]
        exact invariant.exclusive j
    settled := by
      rcases ending.identity with same | ⟨-, -, founded⟩
      · exact invariant.settles same fun j id => (ending.drawnBy j id).mpr
      · exact .inr ⟨i, founded⟩ }
  others j other := {
    own := ending.others j other
    lock := by rw [ending.advisory, unlocked_other other]
    drew := ending.drawnBy j
    drawn k id := (ending.drawnBy k id).mpr
    held locked := by
      rcases ending.identity with same | ⟨-, held, -⟩
      · exact same
      · exact absurd (Option.some.inj (held.symm.trans locked)).symm other
    foreign :=
      ending.identity.imp_right fun ⟨empty, _, founded⟩ => ⟨empty, i, other.symm, founded⟩ }

theorem rollback_ending {answer : Unit}
    (ran : exec i (.sql .rollback) before = some (answer, after))
    : Ending i before after ∧ after.identity = before.identity := by
  obtain ⟨-, rfl⟩ := Prod.mk.inj (Option.some.inj ran)
  refine ⟨{
    own := Store.release_own_self _ _
    others := fun j other => Store.release_own_other _ other
    advisory := by simp [ends, World.unlocked]
    ids := rfl
    drawn := rfl
    identity := .inl rfl }, rfl⟩

/-- The identity tables as session `i` sees them. -/
def World.seen (world : World) (i : Nat) : IdentityTables := identityOf (world.store.view i)

theorem seen_of_audits {world : World} (audits : world.OnlyAudits i)
    : world.seen i = world.identity := by
  have table {t : TableName} (identity : t ≠ .securityAuditEvents)
      : world.store.view i t = world.store.committed t :=
    Store.view_table _ i fun write member same => identity (same ▸ audits write member)
  simp only [World.seen, World.identity, identityOf, table (t := .users) (by decide),
    table (t := .organizations) (by decide), table (t := .memberships) (by decide),
    table (t := .passwordCredentials) (by decide)]

/-- A COMMIT makes the rows of the session those that it sees. -/
theorem commit_ending {answer : Unit}
    (ran : exec i (.sql .commit) before = some (answer, after))
    (identity
      : before.seen i = before.identity
        ∨ (before.identity = .empty ∧ before.advisory = some i
            ∧ ∃ founding : Founding,
                before.seen i = founding.tables
                ∧ before.DrawnBy i founding.user.id
                ∧ before.DrawnBy i founding.organization.id
                ∧ before.DrawnBy i founding.membership.id))
    : Ending i before after ∧ after.identity = before.seen i := by
  obtain ⟨-, rfl⟩ := Prod.mk.inj (Option.some.inj ran)
  refine ⟨{
    own := (Store.release_own_self _ _)
    others := fun j other => Store.release_own_other _ other
    advisory := by simp [ends, World.unlocked]
    ids := rfl
    drawn := rfl
    identity := ?_ }, rfl⟩
  refine identity.imp id ?_
  rintro ⟨empty, held, founding, seen, user, organization, membership⟩
  exact ⟨empty, held, founding, seen, user, organization, membership⟩

end WorkflowForge.Bootstrap
