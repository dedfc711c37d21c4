import WorkflowForge.Infrastructure.SessionRepository

/-! The session lifecycle use cases and the cleanup of expired sessions. -/

namespace WorkflowForge.Identity

open Python Transactions

/-- `SessionLifecyclePolicy` with the checks of its constructor. -/
structure SessionLifecyclePolicy where
  accessTokenLifetime : Timedelta
  refreshTokenLifetime : Timedelta
  sessionLifetime : Timedelta
  access_pos : 0 < accessTokenLifetime
  refresh_pos : 0 < refreshTokenLifetime
  session_pos : 0 < sessionLifetime
  refresh_le : refreshTokenLifetime ≤ sessionLifetime

/-- The ports given to the constructors. `audit` and `logoutIds` say whether an audit recorder
is given, and an id generator to the two logout use cases. -/
structure Services where
  policy : SessionLifecyclePolicy
  digestToken : Text → RefreshTokenDigest
  issueToken : AccessTokenClaims → Except Fault Text
  audit : Bool
  logoutIds : Bool

variable (services : Services)

/-- Record an audit event, when a recorder is given. -/
def audited (id : App UUID) (eventType : SecurityEventType) (outcome : SecurityOutcome)
    (occurredAt : Timestamp) (actorUserId sessionId : Option UUID)
    (requestContext : AuditRequestContext) (metadata : List (String × AuditValue))
    : App Unit :=
  if services.audit then do
    let id ← id
    recordEvent {
      id, eventType, outcome, occurredAt, actorUserId, sessionId, requestContext, metadata
    }
  else return ()

/-- `_audit_id`. -/
def auditId : App UUID :=
  if services.logoutIds then newUuid
  else throw (.valueError "Audit recording requires an ID generator.")

/-- A new id that its strongly typed wrapper accepts. -/
def newTypedId (fieldName : String) : App UUID := do
  let id ← newUuid
  liftExcept (validateUuid id fieldName)
  return id

/-- `_new_refresh_credential`: the token with its digest. -/
def newRefreshCredential : App (Text × RefreshTokenDigest) := do
  let token ← perform .generateToken
  return (token, services.digestToken token)

/-- `_issue_access_token`: the token with its expiry. -/
def issueAccessToken (userId sessionId : UUID) (issuedAt : Timestamp)
    : App (Text × Timestamp) := do
  let expiresAt := issuedAt + services.policy.accessTokenLifetime
  let tokenId ← newUuid
  let claims ←
    liftExcept (AccessTokenClaims.postInit { userId, sessionId, tokenId, issuedAt, expiresAt })
  let token ← liftExcept (services.issueToken claims)
  return (token, expiresAt)

-----------------------------------------------------------------------------------------
-- StartUserSession
-----------------------------------------------------------------------------------------

structure StartUserSessionCommand where
  email : Text
  password : Text
  auditContext : AuditRequestContext

def startUserSession (command : StartUserSessionCommand) : App TokenPair :=
  orRollback (do
    let userId ← liftExcept (← perform (.authenticate command.email command.password))
    let issuedAt ← clockNow
    let sessionId ← newTypedId "Session identifier"
    let sessionExpiresAt := issuedAt + services.policy.sessionLifetime
    let refreshExpiresAt := issuedAt + services.policy.refreshTokenLifetime
    let session ← liftExcept (AuthSession.create sessionId userId issuedAt sessionExpiresAt)
    let (token, digest) ← newRefreshCredential services
    let tokenId ← newTypedId "Refresh token identifier"
    let familyId ← newTypedId "Refresh token family identifier"
    let refreshRecord ←
      liftExcept
        (RefreshTokenRecord.issueInitial tokenId sessionId familyId digest issuedAt
          refreshExpiresAt)
    let (accessToken, accessExpiresAt) ← issueAccessToken services userId sessionId issuedAt
    let _ ← SessionRepository.add session refreshRecord
    audited services newUuid .authenticationLoginSucceeded .success issuedAt (some userId)
      (some sessionId) command.auditContext []
    audited services newUuid .sessionCreated .success issuedAt (some userId) (some sessionId)
      command.auditContext []
    commit
    return {
      accessToken
      refreshToken := token
      sessionId
      accessTokenExpiresAt := accessExpiresAt
      refreshTokenExpiresAt := refreshExpiresAt
    })

-----------------------------------------------------------------------------------------
-- RefreshSession
-----------------------------------------------------------------------------------------

structure RefreshSessionCommand where
  refreshToken : Text
  auditContext : AuditRequestContext

/-- The reaction to a token that was used before: the session is revoked first. -/
def replayDetected (current : RefreshTokenRecord) (rotatedAt : Timestamp)
    (auditContext : AuditRequestContext)
    : App TokenPair := do
  let _ ← SessionRepository.revoke current.sessionId rotatedAt
  audited services newUuid .sessionRefreshReplayDetected .replayDetected rotatedAt none
    (some current.sessionId) auditContext []
  audited services newUuid .sessionRevoked .success rotatedAt none (some current.sessionId)
    auditContext [("reason", .text "refresh_replay")]
  commit
  throw (.refreshTokenReplay "Refresh token replay was detected.")

/-- The rotation of a current token. -/
def rotateCurrent (digest : RefreshTokenDigest) (current : RefreshTokenRecord)
    (rotatedAt : Timestamp) (auditContext : AuditRequestContext)
    : App TokenPair := do
  match ← SessionRepository.getActiveById current.sessionId rotatedAt with
  | none => throw (.invalidRefreshToken "Refresh token is invalid.")
  | some session =>
      let (token, newDigest) ← newRefreshCredential services
      let replacementId ← newTypedId "Refresh token identifier"
      let replacement ←
        liftExcept
          (current.replacement replacementId newDigest rotatedAt
            (min (rotatedAt + services.policy.refreshTokenLifetime) session.expiresAt))
      let (accessToken, accessExpiresAt) ←
        issueAccessToken services session.userId session.id rotatedAt
      let _ ←
        SessionRepository.rotateRefreshToken session.id digest current.generation replacement
          rotatedAt
      audited services newUuid .sessionRefreshed .success rotatedAt (some session.userId)
        (some session.id) auditContext []
      commit
      return {
        accessToken
        refreshToken := token
        sessionId := session.id
        accessTokenExpiresAt := accessExpiresAt
        refreshTokenExpiresAt := replacement.expiresAt
      }

def refreshSession (command : RefreshSessionCommand) : App TokenPair :=
  tryCatch
    (do
      let rotatedAt ← clockNow
      let digest := services.digestToken command.refreshToken
      match ← SessionRepository.getRefreshTokenByDigest digest with
      | none => throw (.invalidRefreshToken "Refresh token is invalid.")
      | some current =>
          if current.usedAt.isSome || current.replacedByTokenId.isSome then
            replayDetected services current rotatedAt command.auditContext
          else if current.revokedAt.isSome then
            throw (.invalidRefreshToken "Refresh token is invalid.")
          else if current.isExpired rotatedAt then
            throw (.expiredRefreshToken "Refresh token has expired.")
          else rotateCurrent services digest current rotatedAt command.auditContext)
    (fun failure =>
      match failure with
      | .refreshTokenReplay message => throw (.refreshTokenReplay message)
      | other => do
          rollback
          throw other)

-----------------------------------------------------------------------------------------
-- Logout
-----------------------------------------------------------------------------------------

structure LogoutSessionCommand where
  userId : UUID
  sessionId : UUID
  auditContext : AuditRequestContext

def logoutSession (command : LogoutSessionCommand) : App Unit :=
  orRollback (do
    match ← SessionRepository.getById command.sessionId with
    | none => throw (.sessionNotFound "Session does not exist.")
    | some session =>
        if session.userId ≠ command.userId then
          throw (.sessionOwnership "Session does not belong to the user.")
        else do
          let revokedAt ← clockNow
          let _ ← SessionRepository.revoke command.sessionId revokedAt
          audited services (auditId services) .sessionRevoked .success revokedAt
            (some command.userId) (some command.sessionId) command.auditContext []
          commit)

structure LogoutAllSessionsCommand where
  userId : UUID
  sessionId : Option UUID
  auditContext : AuditRequestContext

/-- `LogoutAllSessions`; answers the number of revoked sessions. -/
def logoutAllSessions (command : LogoutAllSessionsCommand) : App Nat :=
  orRollback (do
    let revokedAt ← clockNow
    let revoked ← SessionRepository.revokeAllForUser command.userId revokedAt
    audited services (auditId services) .sessionRevokedAll .success revokedAt
      (some command.userId) command.sessionId command.auditContext
      [("revoked_sessions", .int revoked)]
    commit
    return revoked)

-----------------------------------------------------------------------------------------
-- VerifyAccessToken
-----------------------------------------------------------------------------------------

def verifyAccessToken (token : Text) : App VerifiedAccessPrincipal := do
  let claims ← liftExcept (← perform (.verifyToken token))
  let instant ← clockNow
  match ← SessionRepository.getActiveById claims.sessionId instant with
  | none => throw (.invalidAccessToken "Access token is invalid.")
  | some session =>
      if session.userId ≠ claims.userId then
        throw (.invalidAccessToken "Access token is invalid.")
      else liftExcept claims.postInit

-----------------------------------------------------------------------------------------
-- CleanupExpiredSessions
-----------------------------------------------------------------------------------------

/-- `CleanupExpiredSessionsCommand` with the checks of its constructor. -/
structure CleanupExpiredSessionsCommand where
  batchLimit : Nat
  expiredSessionRetention : Timedelta
  revokedSessionRetention : Timedelta
  limit_pos : 0 < batchLimit
  limit_le : batchLimit ≤ 10000
  expired_nonneg : 0 ≤ expiredSessionRetention
  revoked_nonneg : 0 ≤ revokedSessionRetention

structure SessionCleanupResult where
  expiredRefreshTokensDeleted : Nat
  expiredSessionsDeleted : Nat
  revokedSessionsDeleted : Nat
  deriving DecidableEq, Repr

def cleanupExpiredSessions (command : CleanupExpiredSessionsCommand)
    : App SessionCleanupResult :=
  orRollback (do
    let now ← clockNow
    let expiredRefreshTokensDeleted ←
      SessionCleanupRepository.deleteExpiredRefreshTokens now command.batchLimit
    let expiredSessionsDeleted ←
      SessionCleanupRepository.deleteExpiredSessions (now - command.expiredSessionRetention)
        command.batchLimit
    let revokedSessionsDeleted ←
      SessionCleanupRepository.deleteRevokedSessions (now - command.revokedSessionRetention)
        command.batchLimit
    commit
    return { expiredRefreshTokensDeleted, expiredSessionsDeleted, revokedSessionsDeleted })

-----------------------------------------------------------------------------------------
-- Calls
-----------------------------------------------------------------------------------------

/-- A call of one of the session use cases. -/
inductive SessionCall where
  | start (command : StartUserSessionCommand)
  | refresh (command : RefreshSessionCommand)
  | logout (command : LogoutSessionCommand)
  | logoutAll (command : LogoutAllSessionsCommand)
  | verify (token : Text)
  | cleanup (command : CleanupExpiredSessionsCommand)

/-- What a call returns. -/
inductive Reply where
  | pair (pair : TokenPair)
  | loggedOut
  | revoked (sessions : Nat)
  | principal (principal : VerifiedAccessPrincipal)
  | cleaned (result : SessionCleanupResult)
  deriving DecidableEq, Repr

def SessionCall.body : SessionCall → App Reply
  | start command => do return .pair (← startUserSession services command)
  | refresh command => do return .pair (← refreshSession services command)
  | logout command => do
      logoutSession services command
      return .loggedOut
  | logoutAll command => do return .revoked (← logoutAllSessions services command)
  | verify token => do return .principal (← verifyAccessToken token)
  | cleanup command => do return .cleaned (← cleanupExpiredSessions command)

end WorkflowForge.Identity
