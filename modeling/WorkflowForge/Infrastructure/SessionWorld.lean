import WorkflowForge.Domain.Sessions
import WorkflowForge.Infrastructure.World

/-! The tables of sessions and refresh tokens, and the environment of the session use cases.
A bulk UPDATE is its snapshot followed by one row update for every row it chose, each of which
checks the row again when it gets the lock. A DELETE takes its rows, cascades and then checks
the references between refresh tokens, as PostgreSQL does at the end of the statement.
An INSERT or UPDATE that has to wait while its call holds locks may be ended by the deadlock
detector: the session calls lock tokens and sessions in different orders.
-/

namespace WorkflowForge.Identity

open Python Transactions Concurrency

inductive TableName where
  | users
  | authSessions
  | refreshTokens
  | securityAuditEvents
  deriving DecidableEq, Repr

abbrev TableRow : TableName → Type
  | .users => UUID
  | .authSessions => AuthSession
  | .refreshTokens => RefreshTokenRecord
  | .securityAuditEvents => SecurityEvent

def primaryKey : (t : TableName) → TableRow t → UUID
  | .users, row => row
  | .authSessions, row => row.id
  | .refreshTokens, row => row.id
  | .securityAuditEvents, row => row.id

/-- `uq_refresh_tokens_token_hash` and `uq_refresh_tokens_session_generation`. -/
def uniqueClash : (t : TableName) → TableRow t → TableRow t → Bool
  | .refreshTokens, first, second =>
      first.tokenDigest == second.tokenDigest
      || (first.sessionId == second.sessionId && first.generation == second.generation)
  | _, _, _ => false

abbrev Rows := (t : TableName) → List (TableRow t)

def hasUser (db : Rows) (user : UUID) : Bool := (db .users).contains user

def hasSession (db : Rows) (session : UUID) : Bool :=
  (db .authSessions).any (fun row => row.id == session)

def hasRefreshToken (db : Rows) (token : UUID) : Bool :=
  (db .refreshTokens).any (fun row => row.id == token)

/-- Foreign keys and CHECK constraints of one row. -/
def rowSound (db : Rows) : (t : TableName) → TableRow t → Bool
  | .users, _ => true
  | .authSessions, row =>
      hasUser db row.userId && decide (row.createdAt < row.expiresAt)
      && decide (row.createdAt ≤ row.updatedAt)
      && row.revokedAt.all (fun revokedAt => decide (row.createdAt ≤ revokedAt))
  | .refreshTokens, row =>
      hasSession db row.sessionId && row.replacedByTokenId.all (hasRefreshToken db)
      && decide (row.issuedAt < row.expiresAt)
      && row.usedAt.all (fun usedAt => decide (row.issuedAt ≤ usedAt))
      && row.revokedAt.all (fun revokedAt => decide (row.issuedAt ≤ revokedAt))
  | .securityAuditEvents, row =>
      row.actorUserId.all (hasUser db) && row.sessionId.all (hasSession db)

/-- The generation is a 32-bit INTEGER column. -/
def rowFits : (t : TableName) → TableRow t → Bool
  | .refreshTokens, row => decide (row.generation < 2 ^ 31)
  | _, _ => true

/-- The rows that a row refers to. -/
def rowParents : (t : TableName) → TableRow t → List (TableName × UUID)
  | .users, _ => []
  | .authSessions, row => [(.users, row.userId)]
  | .refreshTokens, row =>
      (.authSessions, row.sessionId) :: row.replacedByTokenId.toList.map (Prod.mk .refreshTokens)
  | .securityAuditEvents, row =>
      row.actorUserId.toList.map (Prod.mk .users)
      ++ row.sessionId.toList.map (Prod.mk .authSessions)

/-- What the SELECTs, and the snapshots of bulk UPDATEs, ask for. -/
inductive Query where
  | refreshTokenByDigest (digest : RefreshTokenDigest)
  | session (id : UUID)
  | activeSession (id : UUID) (instant : Timestamp)
  | sessionToRevoke (id : UUID) (revokedAt : Timestamp)
  | currentRefreshTokens (sessionId : UUID) (revokedAt : Timestamp)
  | openSessions (userId : UUID) (revokedAt : Timestamp)
  | rotation (sessionId : UUID) (rotatedAt : Timestamp)
  | expiredRefreshTokens (before : Timestamp) (limit : Nat)
  | expiredSessions (before : Timestamp) (limit : Nat)
  | revokedSessions (before : Timestamp) (limit : Nat)
  deriving DecidableEq

abbrev schema : Schema where
  Table := TableName
  Row := TableRow
  Key := UUID
  Query := Query
  decTable := inferInstance
  decKey := inferInstance
  key := primaryKey
  clash := uniqueClash
  sound := rowSound
  fits := rowFits
  parents := rowParents

abbrev Database := Db schema

-----------------------------------------------------------------------------------------
-- Row updates
-----------------------------------------------------------------------------------------

/-- The UPDATE statements, for one row each: the parameters of WHERE and SET. -/
inductive RowUpdate where
  | revokeRefreshToken (id sessionId : UUID) (revokedAt : Timestamp)
  | revokeUserSession (id userId : UUID) (revokedAt : Timestamp)
  | saveSession (id : UUID) (updatedAt : Option Timestamp) (revokedAt : Timestamp)
  | consumeRefreshToken (id sessionId : UUID) (digest : RefreshTokenDigest) (generation : Nat)
      (rotatedAt : Timestamp) (replacement : UUID)
  deriving DecidableEq

namespace RowUpdate

def table : RowUpdate → TableName
  | revokeRefreshToken _ _ _ => .refreshTokens
  | revokeUserSession _ _ _ => .authSessions
  | saveSession _ _ _ => .authSessions
  | consumeRefreshToken _ _ _ _ _ _ => .refreshTokens

def key : RowUpdate → UUID
  | revokeRefreshToken id _ _ => id
  | revokeUserSession id _ _ => id
  | saveSession id _ _ => id
  | consumeRefreshToken id _ _ _ _ _ => id

/-- The changed row, when the WHERE clause holds of the row. -/
def change : (update : RowUpdate) → TableRow update.table → Option (TableRow update.table)
  | revokeRefreshToken _ sessionId revokedAt => fun (row : RefreshTokenRecord) =>
      if row.sessionId = sessionId ∧ row.usedAt = none ∧ row.revokedAt = none then
        some { row with revokedAt := some revokedAt }
      else none
  | revokeUserSession _ userId revokedAt => fun (row : AuthSession) =>
      if row.userId = userId ∧ row.revokedAt = none then
        some { row with revokedAt := some revokedAt, updatedAt := revokedAt }
      else none
  | saveSession _ updatedAt revokedAt => fun (row : AuthSession) =>
      some { row with updatedAt := updatedAt.getD row.updatedAt, revokedAt := some revokedAt }
  | consumeRefreshToken _ sessionId digest generation rotatedAt replacement =>
      fun (row : RefreshTokenRecord) =>
        if row.sessionId = sessionId ∧ row.tokenDigest = digest ∧ row.generation = generation
            ∧ row.usedAt = none ∧ row.revokedAt = none ∧ row.replacedByTokenId = none
            ∧ rotatedAt < row.expiresAt then
          some { row with usedAt := some rotatedAt, replacedByTokenId := some replacement }
        else none

end RowUpdate

-----------------------------------------------------------------------------------------
-- The environment
-----------------------------------------------------------------------------------------

/-- The oracles fix what the environment chooses; `tokens` are the random strings of the run,
and a call waits when they are used up. `detector` says whether the deadlock detector ends a
call that waits, by the number of locks it then holds. The other lists are history variables:
who drew each id and each refresh token, and who inserted which session and refresh-token
rows. -/
structure World where
  store : Store schema
  detector : Nat → Nat → Bool
  ids : IdSource
  drawn : List Nat
  clock : Nat → Timestamp
  ticks : Nat
  tokens : List Text
  generated : List Nat
  authenticates : Nat → Text → Text → Except Fault UUID
  logins : Nat
  verifies : Nat → Text → Except Fault AccessTokenClaims
  verified : Nat
  mintedSessions : List (Nat × AuthSession)
  mintedTokens : List (Nat × RefreshTokenRecord)

/-- One atomic interaction of a use case with its environment. -/
inductive Op where
  | select (query : Query)
  | insert (t : TableName) (row : TableRow t)
  | update (change : RowUpdate)
  | deleteRefreshTokens (ids : List UUID)
  | deleteSessions (ids : List UUID)
  | commit
  | rollback
  | now
  | newUuid
  | generateToken
  | authenticate (email password : Text)
  | verifyToken (token : Text)

/-- Why a statement fails: IntegrityError, DataError, or the DBAPIError of a deadlock. -/
inductive StatementError where
  | integrity
  | data
  | deadlock
  deriving DecidableEq, Repr

def StatementError.ofViolation : Violation → StatementError
  | .integrity => .integrity
  | .data => .data

/-- What the error of an INSERT says: `tokenHash` when the message names
`uq_refresh_tokens_token_hash`. -/
structure InsertFailure where
  violation : StatementError
  tokenHash : Bool
  deriving DecidableEq, Repr

abbrev Op.Answer : Op → Type
  | select _ => Database
  | insert _ _ => Except InsertFailure Unit
  | update _ => Except StatementError Bool
  | deleteRefreshTokens _ => Except Violation Unit
  | deleteSessions _ => Except Violation Unit
  | commit => Unit
  | rollback => Unit
  | now => Timestamp
  | newUuid => UUID
  | generateToken => Text
  | authenticate _ _ => Except Fault UUID
  | verifyToken _ => Except Fault AccessTokenClaims

abbrev App (α : Type) := Program Op Op.Answer Fault α

/-- Some visible refresh token carries the digest. -/
def digestTaken (db : Rows) : (t : TableName) → TableRow t → Bool
  | .refreshTokens, row =>
      (db .refreshTokens).any (fun other => other.tokenDigest == row.tokenDigest)
  | _, _ => false

/-- Some refresh token points to a missing one. -/
def dangling (db : Database) : Bool :=
  (db .refreshTokens).any (fun token =>
    token.replacedByTokenId.any (fun k => (db.find? .refreshTokens k).isNone))

/-- `DELETE FROM refresh_tokens WHERE id IN ids`. -/
def tokenDeletion (db : Database) (ids : List UUID) : List (Write schema) :=
  ((db .refreshTokens).filter (fun token => ids.contains token.id)).map (fun token =>
    .remove .refreshTokens token.id)

/-- `DELETE FROM auth_sessions WHERE id IN ids` with the actions of its foreign keys: refresh
tokens are deleted, audit events lose their session. -/
def sessionDeletion (db : Database) (ids : List UUID) : List (Write schema) :=
  ((db .refreshTokens).filter (fun token => ids.contains token.sessionId)).map (fun token =>
    .remove .refreshTokens token.id)
  ++ ((db .authSessions).filter (fun session => ids.contains session.id)).map (fun session =>
    .remove .authSessions session.id)
  ++ ((db .securityAuditEvents).filter (fun event =>
      event.sessionId.any (fun k => ids.contains k))).map (fun event =>
    .put .securityAuditEvents { event with sessionId := none })

def stageAll (store : Store schema) (i : Nat) (writes : List (Write schema)) : Store schema :=
  writes.foldl (fun current write => current.stage i write) store

/-- Another session keeps the row from being written. -/
def contends (store : Store schema) (i : Nat) : Write schema → Bool
  | .put t row => store.heldByOther i t (primaryKey t row)
  | .remove t k => store.withheld i t k

/-- Wait for the rows, then write them unless a reference would dangle. -/
def execDeletion (i : Nat) (writes : List (Write schema)) (world : World)
    : Option (Except Violation Unit × World) :=
  if writes.any (contends world.store i) then none
  else
    let after := stageAll world.store i writes
    if dangling (after.view i) then some (.error .integrity, world)
    else some (.ok (), { world with store := after })

/-- Note an inserted row in the history. -/
def World.mint (world : World) (i : Nat) : (t : TableName) → TableRow t → World
  | .authSessions, row => { world with mintedSessions := world.mintedSessions ++ [(i, row)] }
  | .refreshTokens, row => { world with mintedTokens := world.mintedTokens ++ [(i, row)] }
  | _, _ => world

/-- The INSERT or UPDATE has to wait for another session. -/
def waits (i : Nat) : Op → World → Bool
  | .insert t row, world => (Store.exec i (.insert t row) world.store).isNone
  | .update change, world =>
      (Store.exec i (.update change.table change.key change.change) world.store).isNone
  | _, _ => false

/-- The number of locks of session `i`. -/
def World.held (world : World) (i : Nat) : Nat :=
  (world.store.locks.filter (fun lock => lock.1 == i)).length

/-- The statement has to wait, its session holds locks, and the deadlock detector ends it. -/
def deadlocks (i : Nat) (op : Op) (world : World) : Bool :=
  world.held i != 0 && world.detector i (world.held i) && waits i op world

/-- Execute one operation of session `i`; `none` means that it has to wait. -/
def exec (i : Nat) : (op : Op) → World → Option (op.Answer × World)
  | .select query, world =>
      (Store.exec i (.select query) world.store).map (fun result =>
        (result.1, { world with store := result.2 }))
  | .insert t row, world =>
      if deadlocks i (.insert t row) world then some (.error ⟨.deadlock, false⟩, world)
      else
        match Store.exec i (.insert t row) world.store with
        | none => none
        | some (.error violation, store) =>
            some (.error ⟨.ofViolation violation, digestTaken (world.store.view i) t row⟩,
              { world with store })
        | some (.ok (), store) => some (.ok (), { world with store }.mint i t row)
  | .update change, world =>
      if deadlocks i (.update change) world then some (.error .deadlock, world)
      else
        (Store.exec i (.update change.table change.key change.change) world.store).map
          (fun result =>
            (result.1.mapError StatementError.ofViolation, { world with store := result.2 }))
  | .deleteRefreshTokens ids, world =>
      execDeletion i (tokenDeletion (world.store.view i) ids) world
  | .deleteSessions ids, world =>
      execDeletion i (sessionDeletion (world.store.view i) ids) world
  | .commit, world =>
      (Store.exec i .commit world.store).map (fun result =>
        (result.1, { world with store := result.2 }))
  | .rollback, world =>
      (Store.exec i .rollback world.store).map (fun result =>
        (result.1, { world with store := result.2 }))
  | .now, world =>
      some (world.clock world.ticks, { world with ticks := world.ticks + 1 })
  | .newUuid, world =>
      some (world.ids.get world.drawn.length, { world with drawn := world.drawn ++ [i] })
  | .generateToken, world =>
      (world.tokens[world.generated.length]?).map (fun token =>
        (token, { world with generated := world.generated ++ [i] }))
  | .authenticate email password, world =>
      some (world.authenticates world.logins email password,
        { world with logins := world.logins + 1 })
  | .verifyToken token, world =>
      some (world.verifies world.verified token, { world with verified := world.verified + 1 })

-----------------------------------------------------------------------------------------
-- Primitive actions
-----------------------------------------------------------------------------------------

def perform (op : Op) : App op.Answer := Program.perform op

def select (query : Query) : App Database := perform (.select query)

/-- UPDATE one row; answers whether the WHERE clause matched. -/
def update (change : RowUpdate) : App Bool := do
  let answer : Except StatementError Bool ← perform (.update change)
  match answer with
  | .ok matched => return matched
  | .error .integrity => throw .integrityError
  | .error .data => throw .dataError
  | .error .deadlock => throw .dbapiError

/-- A DELETE raises when it breaks a foreign key. -/
def raiseDeletion : Except Violation Unit → App Unit
  | .ok () => return ()
  | .error _ => throw .integrityError

def commit : App Unit := perform .commit

def rollback : App Unit := perform .rollback

def clockNow : App Timestamp := perform .now

def newUuid : App UUID := perform .newUuid

def liftExcept {α : Type} (result : Except Fault α) : App α := Program.ofExcept result

/-- The same action for every element of a list, in order. -/
def forEach {α : Type} (action : α → App Unit) : List α → App Unit
  | [] => return ()
  | head :: tail => do
      action head
      forEach action tail

/-- `except Exception: rollback; raise`. -/
def orRollback {α : Type} (call : App α) : App α :=
  tryCatch call (fun failure => do
    rollback
    throw failure)

end WorkflowForge.Identity
