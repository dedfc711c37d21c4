import WorkflowForge.Infrastructure.SessionWorld

/-! The SQLAlchemy repositories for sessions, session cleanup and audit events.
The sessions are made with `autoflush=False`, so the change of a loaded session row is written
by the flush at the end of its method, after the bulk UPDATE of its refresh tokens.
-/

namespace WorkflowForge.Identity

open Python Transactions

/-- `scalar_one_or_none`. -/
def scalarOneOrNone {α : Type} : List α → App (Option α)
  | [] => return none
  | [row] => return some row
  | _ :: _ :: _ => throw .multipleResultsFound

/-- `_auth_session_from_record`. -/
def authSessionFromRecord (record : AuthSession) : Except Fault AuthSession :=
  record.postInit

/-- `_refresh_token_from_record`. -/
def refreshTokenFromRecord (record : RefreshTokenRecord) : Except Fault RefreshTokenRecord :=
  record.postInit

/-- A loaded row as a domain value. -/
def loaded {α : Type} (fromRecord : α → Except Fault α) : Option α → App (Option α)
  | none => return none
  | some record => return some (← liftExcept (fromRecord record))

/-- The refresh tokens that a revocation stamps: unused and not revoked. -/
def currentRefreshTokens (db : Database) (sessionId : UUID) : List RefreshTokenRecord :=
  (db .refreshTokens).filter (fun row =>
    row.sessionId == sessionId && row.usedAt.isNone && row.revokedAt.isNone)

/-- The sessions of a user that are not revoked. -/
def openSessions (db : Database) (userId : UUID) : List AuthSession :=
  (db .authSessions).filter (fun row => row.userId == userId && row.revokedAt.isNone)

def isActive (session : AuthSession) (instant : Timestamp) : Bool :=
  session.revokedAt.isNone && decide (instant < session.expiresAt)

/-- The rows that the rotating UPDATE joins with an active session. -/
def rotatable (db : Database) (sessionId : UUID) (digest : RefreshTokenDigest)
    (generation : Nat) (rotatedAt : Timestamp)
    : List RefreshTokenRecord :=
  (db .refreshTokens).filter (fun row =>
    row.sessionId == sessionId && row.tokenDigest == digest && row.generation == generation
    && row.usedAt.isNone && row.revokedAt.isNone && row.replacedByTokenId.isNone
    && decide (rotatedAt < row.expiresAt)
    && (db .authSessions).any (fun session =>
        session.id == row.sessionId && isActive session rotatedAt))

namespace SessionRepository

/-- `flush` of new rows inside `try … except IntegrityError`; `reraise` is what the handler
raises for the message. -/
def insertOrReraise (t : TableName) (row : TableRow t) (reraise : InsertFailure → Fault)
    : App Unit := do
  let answer : Except InsertFailure Unit ← perform (.insert t row)
  match answer with
  | .ok () => return ()
  | .error failure =>
      match failure.violation with
      | .integrity => do
          rollback
          throw (reraise failure)
      | .data => throw .dataError
      | .deadlock => throw .dbapiError

/-- `_raise_session_integrity_error`. -/
def sessionIntegrityError (failure : InsertFailure) : Fault :=
  if failure.tokenHash then
    .duplicateRefreshTokenDigest "Refresh token digest already exists."
  else .missingIdentityReference "Session references a missing user."

/-- `_raise_refresh_token_integrity_error`. -/
def refreshTokenIntegrityError (failure : InsertFailure) : Fault :=
  if failure.tokenHash then
    .duplicateRefreshTokenDigest "Refresh token digest already exists."
  else .refreshRotationConflict "Refresh token rotation state is stale or invalid."

def add (session : AuthSession) (refreshToken : RefreshTokenRecord) : App AuthSession := do
  insertOrReraise .authSessions session sessionIntegrityError
  insertOrReraise .refreshTokens refreshToken sessionIntegrityError
  liftExcept (authSessionFromRecord session)

def getById (sessionId : UUID) : App (Option AuthSession) := do
  let db ← select (.session sessionId)
  loaded authSessionFromRecord (db.find? .authSessions sessionId)

def getActiveById (sessionId : UUID) (instant : Timestamp) : App (Option AuthSession) := do
  let db ← select (.activeSession sessionId instant)
  loaded authSessionFromRecord
    ((db.find? .authSessions sessionId).filter (fun row => isActive row instant))

def getRefreshTokenByDigest (digest : RefreshTokenDigest)
    : App (Option RefreshTokenRecord) := do
  let db ← select (.refreshTokenByDigest digest)
  let record ←
    scalarOneOrNone ((db .refreshTokens).filter (fun row => row.tokenDigest == digest))
  loaded refreshTokenFromRecord record

/-- `_revoke_current_refresh_tokens`. -/
def revokeCurrentRefreshTokens (sessionId : UUID) (revokedAt : Timestamp) : App Unit := do
  let db ← select (.currentRefreshTokens sessionId revokedAt)
  forEach
    (fun (token : RefreshTokenRecord) => do
      let _ ← update (.revokeRefreshToken token.id sessionId revokedAt)
      return ())
    (currentRefreshTokens db sessionId)

/-- The flush of a loaded session row: an UPDATE of the changed columns, if there are any. -/
def flushSession (before after : AuthSession) : App Unit :=
  match after.revokedAt with
  | some revokedAt =>
      if after = before then return ()
      else do
        let matched ←
          update (.saveSession before.id
            (if after.updatedAt = before.updatedAt then none else some after.updatedAt)
            revokedAt)
        if matched then return () else throw .staleData
  | none => return ()

def revoke (sessionId : UUID) (revokedAt : Timestamp) : App AuthSession := do
  let db ← select (.sessionToRevoke sessionId revokedAt)
  match db.find? .authSessions sessionId with
  | none => throw (.sessionNotFound "Session does not exist.")
  | some record =>
      let before ← liftExcept (authSessionFromRecord record)
      let after ← liftExcept (before.revoke revokedAt)
      revokeCurrentRefreshTokens sessionId revokedAt
      flushSession before after
      liftExcept (authSessionFromRecord after)

/-- `UPDATE auth_sessions … RETURNING id`, row by row. -/
def revokeUserSessions (userId : UUID) (revokedAt : Timestamp)
    : List AuthSession → App (List UUID)
  | [] => return []
  | session :: rest => do
      let matched ← update (.revokeUserSession session.id userId revokedAt)
      let others ← revokeUserSessions userId revokedAt rest
      return if matched then session.id :: others else others

def revokeAllForUser (userId : UUID) (revokedAt : Timestamp) : App Nat := do
  let db ← select (.openSessions userId revokedAt)
  let sessionIds ← revokeUserSessions userId revokedAt (openSessions db userId)
  forEach (fun sessionId => revokeCurrentRefreshTokens sessionId revokedAt) sessionIds
  return sessionIds.length

/-- The rotating UPDATE; answers its row count. -/
def consumeRefreshToken (sessionId : UUID) (digest : RefreshTokenDigest) (generation : Nat)
    (rotatedAt : Timestamp) (replacement : UUID)
    : List RefreshTokenRecord → App Nat
  | [] => return 0
  | token :: rest => do
      let matched ←
        update (.consumeRefreshToken token.id sessionId digest generation rotatedAt replacement)
      let others ← consumeRefreshToken sessionId digest generation rotatedAt replacement rest
      return if matched then others + 1 else others

def rotateRefreshToken (sessionId : UUID) (expectedDigest : RefreshTokenDigest)
    (expectedGeneration : Nat) (replacement : RefreshTokenRecord) (rotatedAt : Timestamp)
    : App RefreshTokenRecord := do
  insertOrReraise .refreshTokens replacement refreshTokenIntegrityError
  let db ← select (.rotation sessionId rotatedAt)
  let rowcount ←
    consumeRefreshToken sessionId expectedDigest expectedGeneration rotatedAt replacement.id
      (rotatable db sessionId expectedDigest expectedGeneration rotatedAt)
  if rowcount = 1 then liftExcept (refreshTokenFromRecord replacement)
  else do
    rollback
    throw (.refreshRotationConflict "Refresh token rotation state is stale or invalid.")

end SessionRepository

/-- `SqlAlchemyAuditRepository.record`. -/
def recordEvent (event : SecurityEvent) : App Unit := do
  let answer : Except InsertFailure Unit ← perform (.insert .securityAuditEvents event)
  match answer with
  | .ok () => return ()
  | .error _ => throw (.auditPersistence "Audit event could not be persisted.")

-----------------------------------------------------------------------------------------
-- Cleanup
-----------------------------------------------------------------------------------------

/-- `ORDER BY instant, id LIMIT limit`, as the ids of the rows. -/
def boundedIds {α : Type} (instant : α → Timestamp) (id : α → UUID) (limit : Nat)
    (rows : List α)
    : List UUID :=
  ((rows.mergeSort (fun first second =>
      decide (instant first < instant second)
      || (decide (instant first = instant second) && decide (id first ≤ id second)))).take
    limit).map id

/-- The batch of `delete_expired_refresh_tokens`. -/
def expiredRefreshTokens (db : Database) (before : Timestamp) (limit : Nat) : List UUID :=
  boundedIds RefreshTokenRecord.expiresAt RefreshTokenRecord.id limit
    ((db .refreshTokens).filter (fun row => decide (row.expiresAt < before)))

def expiredSessions (db : Database) (before : Timestamp) (limit : Nat) : List UUID :=
  boundedIds AuthSession.expiresAt AuthSession.id limit
    ((db .authSessions).filter (fun row => decide (row.expiresAt < before)))

def revokedSessions (db : Database) (before : Timestamp) (limit : Nat) : List UUID :=
  boundedIds (fun (row : AuthSession) => row.revokedAt.getD 0) AuthSession.id limit
    ((db .authSessions).filter (fun row =>
      row.revokedAt.any (fun revokedAt => decide (revokedAt < before))))

namespace SessionCleanupRepository

def deleteExpiredRefreshTokens (before : Timestamp) (limit : Nat) : App Nat := do
  let db ← select (.expiredRefreshTokens before limit)
  let ids := expiredRefreshTokens db before limit
  if ids = [] then return 0
  else do
    let answer ← perform (.deleteRefreshTokens ids)
    raiseDeletion answer
    return ids.length

/-- `DELETE FROM auth_sessions` of the chosen ids. -/
def deleteSessions (ids : List UUID) : App Nat :=
  if ids = [] then return 0
  else do
    let answer ← perform (.deleteSessions ids)
    raiseDeletion answer
    return ids.length

def deleteExpiredSessions (before : Timestamp) (limit : Nat) : App Nat := do
  let db ← select (.expiredSessions before limit)
  deleteSessions (expiredSessions db before limit)

def deleteRevokedSessions (before : Timestamp) (limit : Nat) : App Nat := do
  let db ← select (.revokedSessions before limit)
  deleteSessions (revokedSessions db before limit)

end SessionCleanupRepository

end WorkflowForge.Identity
