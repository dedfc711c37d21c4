import WorkflowForge.Concurrency.RelyGuarantee
import WorkflowForge.Infrastructure.Schema

/-! The environment of a request: PostgreSQL sessions, the S3 bucket, the clock and ids.
What the environment chooses (ids, clock readings, client failures, raising ports) is fixed
in advance by oracles of the state, so a run is determined by its initial state.
-/

namespace WorkflowForge

open Python Transactions Concurrency

/-- The methods of the application ports that a failure can be injected into. -/
inductive Port where
  | idempotencyGet
  | idempotencyReserve
  | idempotencyMarkInProgress
  | idempotencyFinalizeFingerprint
  | idempotencyComplete
  | idempotencyFail
  | addDocument
  | getDocument
  | getDocumentForUpdate
  | findDocumentByTenantContentHash
  | archiveDocument
  | addVersion
  | getVersion
  | listVersions
  | setCurrentVersion
  | markVersionStored
  | markVersionFailed
  | putTempStream
  | promoteTempObject
  | headObject
  | deleteObject
  | createDownloadUrl
  | addArtifact
  | getArtifact
  | listArtifacts
  | listDocuments
  | auditRecord (eventType : AuditEventType)
  | commit
  | rollback
  | batchRepository
  | caseRepository
  deriving DecidableEq, Repr

/-- Distinct non-nil identifiers. -/
structure IdSource where
  get : Nat → UUID
  injective : ∀ m n, get m = get n → m = n
  ne_nil : ∀ n, get n ≠ 0

/-- The successive readings of one shared clock. Nothing keeps it from running backwards. -/
structure Clock where
  reading : Nat → Timestamp

/-- How a call of the S3 client ends. A failed call may have been carried out before the
error; `missing` says that the error text looks like a missing key. -/
inductive ClientOutcome where
  | ok
  | fails (applied missing : Bool)
  deriving DecidableEq, Repr

structure StoredObject where
  body : Bytes
  mediaType : Option Text
  deriving DecidableEq

/-- The answer of the client's `head_object`. -/
inductive HeadAnswer where
  | found (byteSize : Nat) (mediaType : Option Text)
  | missing
  | failed
  deriving DecidableEq

/-- `drawn` is a history variable: the session that drew each id so far. `presigned` is what
the client signs for a key, a lifetime in seconds and the number of the client call. -/
structure World where
  store : Store schema
  objects : List (Text × StoredObject)
  ids : IdSource
  drawn : List Nat
  clock : Clock
  ticks : Nat
  outcomes : Nat → ClientOutcome
  clientCalls : Nat
  presigned : Text → Int → Nat → Text
  raises : Port → Nat → Bool
  entered : List Port

/-- One atomic interaction of the application with its environment. -/
inductive Op where
  | sql (statement : Statement schema)
  | enter (port : Port)
  | now
  | newUuid
  | putObject (key : Text) (body : Bytes) (mediaType : Text)
  | copyObject (source destination : Text) (mediaType : Option Text)
  | deleteObject (key : Text)
  | headObject (key : Text)
  | presignUrl (key : Text) (expiresInSeconds : Int)

/-- Answers. `enter` answers whether the port raises; client calls answer success. -/
abbrev Op.Answer : Op → Type
  | sql statement => statement.Answer
  | enter _ => Bool
  | now => Timestamp
  | newUuid => UUID
  | putObject _ _ _ => Bool
  | copyObject _ _ _ => Bool
  | deleteObject _ => Bool
  | headObject _ => HeadAnswer
  | presignUrl _ _ => Option Text

/-- The application code: a program over the environment's operations. -/
abbrev App (α : Type) := Program Op Op.Answer Exn α

namespace World

/-- The object stored under a key. -/
def object? (world : World) (key : Text) : Option StoredObject :=
  (world.objects.find? (fun entry => entry.1 == key)).map Prod.snd

def storeObject (world : World) (key : Text) (object : StoredObject) : World :=
  { world with
    objects := (key, object) :: world.objects.filter (fun entry => entry.1 != key) }

def eraseObject (world : World) (key : Text) : World :=
  { world with objects := world.objects.filter (fun entry => entry.1 != key) }

/-- The outcome of the next client call, and the state after counting it. -/
def clientCall (world : World) : ClientOutcome × World :=
  (world.outcomes world.clientCalls, { world with clientCalls := world.clientCalls + 1 })

/-- A client call with an effect: done on success, and perhaps done on failure. -/
def clientEffect (world : World) (effect : World → World) : Bool × World :=
  match world.clientCall with
  | (.ok, world) => (true, effect world)
  | (.fails applied _, world) => (false, if applied then effect world else world)

def copyEffect (source destination : Text) (mediaType : Option Text) (world : World)
    : World :=
  match world.object? source with
  | none => world
  | some object =>
      world.storeObject destination
        { object with mediaType := mediaType.or object.mediaType }

end World

/-- Execute one operation of session `i`; only SQL statements can make it wait. -/
def exec (i : Nat) : (op : Op) → World → Option (op.Answer × World)
  | .sql statement, world =>
      match Store.exec i statement world.store with
      | none => none
      | some (answer, store) => some (answer, { world with store })
  | .enter port, world =>
      some (world.raises port (world.entered.count port),
        { world with entered := world.entered ++ [port] })
  | .now, world =>
      some (world.clock.reading world.ticks, { world with ticks := world.ticks + 1 })
  | .newUuid, world =>
      some (world.ids.get world.drawn.length, { world with drawn := world.drawn ++ [i] })
  | .putObject key body mediaType, world =>
      some (world.clientEffect (fun w => w.storeObject key ⟨body, some mediaType⟩))
  | .copyObject source destination mediaType, world =>
      match world.object? source with
      | none => some (false, world.clientCall.2)
      | some _ => some (world.clientEffect (World.copyEffect source destination mediaType))
  | .deleteObject key, world => some (world.clientEffect (fun w => w.eraseObject key))
  | .headObject key, world =>
      match world.clientCall with
      | (.ok, next) =>
          match world.object? key with
          | some object => some (.found object.body.length object.mediaType, next)
          | none => some (.missing, next)
      | (.fails _ missing, next) => some (if missing then .missing else .failed, next)
  | .presignUrl key expiresInSeconds, world =>
      match world.clientCall with
      | (.ok, next) =>
          some (some (world.presigned key expiresInSeconds world.clientCalls), next)
      | (.fails _ _, next) => some (none, next)

/-- Run application code alone as session `i`. -/
def App.run {α : Type} (i : Nat) (program : App α) (world : World)
    : Option (Except Exn α × World) :=
  Program.run (exec i) program world

-----------------------------------------------------------------------------------------
-- Primitive application actions
-----------------------------------------------------------------------------------------

def perform (op : Op) : App op.Answer := Program.perform op

/-- Enter a port method, which may raise. -/
def enter (port : Port) : App Unit := do
  if ← perform (.enter port) then throw .portFailure

/-- The snapshot of a SELECT. -/
def select (query : Query) : App Database := perform (.sql (.select query))

def selectForUpdate (t : TableName) (id : UUID) (chosen : TableRow t → Bool) : App Database :=
  perform (.sql (.selectForUpdate t id chosen))

def raiseViolation {α : Type} : Violation → App α
  | .integrity => throw .integrityError
  | .data => throw .dataError

/-- INSERT one row; constraint violations raise. -/
def insert (t : TableName) (row : TableRow t) : App Unit := do
  let answer : Except Violation Unit ← perform (.sql (.insert t row))
  match answer with
  | .ok () => return ()
  | .error violation => raiseViolation violation

/-- UPDATE one row by primary key; answers whether the WHERE clause matched. -/
def update (t : TableName) (id : UUID) (change : TableRow t → Option (TableRow t))
    : App Bool := do
  let answer : Except Violation Bool ← perform (.sql (.update t id change))
  match answer with
  | .ok matched => return matched
  | .error violation => raiseViolation violation

def delete (t : TableName) (chosen : TableRow t → Bool) : App Nat :=
  perform (.sql (.delete t chosen))

/-- `session.rollback()` inside a repository. -/
def sessionRollback : App Unit := perform (.sql .rollback)

/-- `TransactionManager.commit`. -/
def commit : App Unit := do
  enter .commit
  perform (.sql .commit)

/-- `TransactionManager.rollback`. -/
def rollback : App Unit := do
  enter .rollback
  perform (.sql .rollback)

def newUuid : App UUID := perform .newUuid

/-- `_now(value)`: the given time, which must carry a time zone, or the clock. -/
def nowOr : Option Datetime → App Timestamp
  | none => perform .now
  | some (.aware instant) => return instant
  | some (.naive _) => throw (.valueError "Application timestamp must be timezone-aware.")

/-- Continue with the value of a pure computation, or raise its error. -/
def liftExcept {α : Type} (result : Except Exn α) : App α := Program.ofExcept result

/-- One request: the session scope rolls back and closes whatever is left open. -/
def request {α : Type} (call : App α) : App α := do
  let result ← tryCatch (do return Except.ok (← call)) (fun failure => return .error failure)
  sessionRollback
  liftExcept result

end WorkflowForge
