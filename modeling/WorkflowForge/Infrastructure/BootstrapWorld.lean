import WorkflowForge.Domain.Accounts
import WorkflowForge.Infrastructure.World

/-! The identity tables, and the environment of the first-owner bootstrap.
`pg_advisory_xact_lock` gives one lock to one transaction, until that commits or rolls back.
-/

namespace WorkflowForge.Bootstrap

open Python Transactions Concurrency

structure UserRecord where
  id : UUID
  email : Text
  normalizedEmail : Text
  displayName : Text
  isActive : Bool
  createdAt : Timestamp
  updatedAt : Timestamp
  disabledAt : Option Timestamp
  deriving DecidableEq

structure OrganizationRecord where
  id : UUID
  name : Text
  slug : Text
  isActive : Bool
  createdAt : Timestamp
  updatedAt : Timestamp
  deactivatedAt : Option Timestamp
  deriving DecidableEq

inductive BootstrapEventType where
  | bootstrapRefused
  | bootstrapOwnerCreated
  deriving DecidableEq, Repr

inductive BootstrapOutcome where
  | success
  | denied
  deriving DecidableEq, Repr

/-- An audit event as the bootstrap writes it. -/
structure BootstrapEvent where
  id : UUID
  eventType : BootstrapEventType
  outcome : BootstrapOutcome
  occurredAt : Timestamp
  actorUserId : Option UUID := none
  organizationId : Option UUID := none
  requestContext : AuditRequestContext
  metadata : List (String × AuditValue) := []
  deriving DecidableEq

inductive TableName where
  | users
  | organizations
  | memberships
  | passwordCredentials
  | securityAuditEvents
  deriving DecidableEq, Repr

abbrev TableRow : TableName → Type
  | .users => UserRecord
  | .organizations => OrganizationRecord
  | .memberships => Membership
  | .passwordCredentials => PasswordCredential
  | .securityAuditEvents => BootstrapEvent

def primaryKey : (t : TableName) → TableRow t → UUID
  | .users, row => row.id
  | .organizations, row => row.id
  | .memberships, row => row.id
  | .passwordCredentials, row => row.userId
  | .securityAuditEvents, row => row.id

/-- The unique constraints besides the primary keys. -/
def uniqueClash : (t : TableName) → TableRow t → TableRow t → Bool
  | .users, first, second => first.normalizedEmail == second.normalizedEmail
  | .organizations, first, second => first.slug == second.slug
  | .memberships, first, second =>
      first.organizationId == second.organizationId && first.userId == second.userId
  | _, _, _ => false

abbrev Rows := (t : TableName) → List (TableRow t)

def hasUser (db : Rows) (user : UUID) : Bool := (db .users).any (fun row => row.id == user)

def hasOrganization (db : Rows) (organization : UUID) : Bool :=
  (db .organizations).any (fun row => row.id == organization)

/-- Foreign keys and CHECK constraints of one row. -/
def rowSound (db : Rows) : (t : TableName) → TableRow t → Bool
  | .users, row => row.isActive == row.disabledAt.isNone
  | .organizations, row => row.isActive == row.deactivatedAt.isNone
  | .memberships, row =>
      hasUser db row.userId && hasOrganization db row.organizationId
      && (match row.status with
          | .invited =>
              row.invitedAt.isSome && row.joinedAt.isNone && row.suspendedAt.isNone
              && row.removedAt.isNone
          | .active => row.joinedAt.isSome && row.suspendedAt.isNone && row.removedAt.isNone
          | .suspended =>
              row.joinedAt.isSome && row.suspendedAt.isSome && row.removedAt.isNone
          | .removed => row.removedAt.isSome)
  | .passwordCredentials, row => hasUser db row.userId
  | .securityAuditEvents, row =>
      row.actorUserId.all (hasUser db) && row.organizationId.all (hasOrganization db)

/-- The column widths of the VARCHAR columns. -/
def rowFits : (t : TableName) → TableRow t → Bool
  | .users, row =>
      within row.email 254 && within row.normalizedEmail 254 && within row.displayName 120
  | .organizations, row => within row.name 160 && within row.slug 63
  | .passwordCredentials, row => within row.passwordHash 1024
  | _, _ => true

/-- The rows that a row refers to. -/
def rowParents : (t : TableName) → TableRow t → List (TableName × UUID)
  | .users, _ => []
  | .organizations, _ => []
  | .memberships, row => [(.users, row.userId), (.organizations, row.organizationId)]
  | .passwordCredentials, row => [(.users, row.userId)]
  | .securityAuditEvents, row =>
      row.actorUserId.toList.map (Prod.mk .users)
      ++ row.organizationId.toList.map (Prod.mk .organizations)

/-- What the SELECTs ask for. -/
inductive Query where
  | countUsers
  | countOrganizations
  | user (id : UUID)
  | passwordCredential (userId : UUID)
  deriving DecidableEq

abbrev schema : Schema where
  Table := TableName
  Row := TableRow
  Key := UUID
  Query := Query
  decTable := inferInstance
  decKey := inferInstance
  key := primaryKey
  clash := uniqueClash
  sound := rowSound
  fits := rowFits
  parents := rowParents

abbrev Database := Db schema

-----------------------------------------------------------------------------------------
-- The environment
-----------------------------------------------------------------------------------------

/-- The port methods that the bootstrap calls. -/
inductive Port where
  | acquireBootstrapLock
  | bootstrapState
  | newUuid
  | addUser
  | addOrganization
  | addMembership
  | getUserById
  | hashPassword
  | getCredentialByUserId
  | setCredentialForUser
  | auditRecord
  | commit
  | rollback
  deriving DecidableEq, Repr

/-- `advisory` is the session that holds the bootstrap lock. `drawn` is a history variable:
the session that drew each id so far. `duplicateNamed` says whether the text of an integrity
error names the unique constraint of memberships, given the port calls so far. -/
structure World where
  store : Store schema
  advisory : Option Nat
  ids : IdSource
  drawn : List Nat
  clock : Clock
  ticks : Nat
  raises : Port → Nat → Bool
  entered : List Port
  duplicateNamed : List Port → Bool

inductive Op where
  | sql (statement : Statement schema)
  | lock
  | enter (port : Port)
  | now
  | newUuid
  | duplicateNamed

abbrev Op.Answer : Op → Type
  | sql statement => statement.Answer
  | lock => Unit
  | enter _ => Bool
  | now => Timestamp
  | newUuid => UUID
  | duplicateNamed => Bool

abbrev App (α : Type) := Program Op Op.Answer AccountExn α

/-- Does the statement end its transaction? -/
def ends : Statement schema → Bool
  | .commit => true
  | .rollback => true
  | _ => false

/-- Execute one operation of session `i`; SQL statements and the lock can make it wait. -/
def exec (i : Nat) : (op : Op) → World → Option (op.Answer × World)
  | .sql statement, world =>
      match Store.exec i statement world.store with
      | none => none
      | some (answer, store) =>
          some (answer, { world with
            store
            advisory :=
              if ends statement && world.advisory == some i then none else world.advisory })
  | .lock, world =>
      if world.advisory.all (· == i) then some ((), { world with advisory := some i }) else none
  | .enter port, world =>
      some (world.raises port (world.entered.count port),
        { world with entered := world.entered ++ [port] })
  | .now, world =>
      some (world.clock.reading world.ticks, { world with ticks := world.ticks + 1 })
  | .newUuid, world =>
      some (world.ids.get world.drawn.length, { world with drawn := world.drawn ++ [i] })
  | .duplicateNamed, world => some (world.duplicateNamed world.entered, world)

def App.run {α : Type} (i : Nat) (program : App α) (world : World)
    : Option (Except AccountExn α × World) :=
  Program.run (exec i) program world

-----------------------------------------------------------------------------------------
-- Primitive actions
-----------------------------------------------------------------------------------------

def perform (op : Op) : App op.Answer := Program.perform op

def liftExcept {α : Type} (result : Except AccountExn α) : App α := Program.ofExcept result

/-- Enter a port method, which may raise. -/
def enter (port : Port) : App Unit := do
  if ← perform (.enter port) then throw .portFailure

/-- The snapshot of a SELECT. -/
def select (query : Query) : App Database := perform (.sql (.select query))

/-- `session.rollback()`. -/
def sessionRollback : App Unit := perform (.sql .rollback)

/-- `flush` of one new row; `conflict` is what follows an IntegrityError and the rollback. -/
def insert (t : TableName) (row : TableRow t) (conflict : App Unit) : App Unit := do
  let answer : Except Violation Unit ← perform (.sql (.insert t row))
  match answer with
  | .ok () => return ()
  | .error .integrity => do
      sessionRollback
      conflict
  | .error .data => throw .dataError

def commit : App Unit := do
  enter .commit
  perform (.sql .commit)

def rollback : App Unit := do
  enter .rollback
  perform (.sql .rollback)

def newUuid : App UUID := do
  enter .newUuid
  perform .newUuid

/-- Closing the session rolls back whatever is left open. -/
def closing {α : Type} (call : App α) : App α := do
  let result ← tryCatch (do return Except.ok (← call)) (fun failure => return .error failure)
  sessionRollback
  liftExcept result

end WorkflowForge.Bootstrap
