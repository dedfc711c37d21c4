import WorkflowForge.Domain.Audit
import WorkflowForge.Domain.Documents

/-! Authenticated sessions, refresh-token records and the claims of access tokens. -/

namespace WorkflowForge.Identity

open Python

/-- Everything the session use cases raise. -/
inductive Fault where
  | invalidIdentifier (message : String)
  | invalidTimestamp (message : String)
  | invalidSessionState (message : String)
  | invalidRefreshTokenState (message : String)
  | invalidCredentials (message : String)
  | userAuthenticationDisabled (message : String)
  | invalidRefreshToken (message : String)
  | expiredRefreshToken (message : String)
  | refreshTokenReplay (message : String)
  | refreshRotationConflict (message : String)
  | duplicateRefreshTokenDigest (message : String)
  | missingIdentityReference (message : String)
  | sessionNotFound (message : String)
  | sessionOwnership (message : String)
  | invalidAccessToken (message : String)
  | expiredAccessToken (message : String)
  | tokenIssuance (message : String)
  | auditPersistence (message : String)
  | valueError (message : String)
  | multipleResultsFound
  | staleData
  | integrityError
  | dataError
  | dbapiError
  deriving DecidableEq, Repr

/-- A Python `timedelta`, in microseconds. -/
abbrev Timedelta := Int

/-- `if condition: raise failure`. -/
def raiseIf (condition : Prop) [Decidable condition] (failure : Fault) : Except Fault Unit :=
  if condition then .error failure else .ok ()

def validateUuid (value : UUID) (fieldName : String) : Except Fault Unit :=
  raiseIf (value = 0) (.invalidIdentifier (fieldName ++ " must not be the nil UUID."))

-----------------------------------------------------------------------------------------
-- Sessions
-----------------------------------------------------------------------------------------

structure AuthSession where
  id : UUID
  userId : UUID
  createdAt : Timestamp
  updatedAt : Timestamp
  expiresAt : Timestamp
  revokedAt : Option Timestamp
  deriving DecidableEq, Repr

namespace AuthSession

def postInit (self : AuthSession) : Except Fault AuthSession := do
  validateUuid self.id "Session identifier"
  validateUuid self.userId "Session user identifier"
  raiseIf (self.expiresAt ≤ self.createdAt)
    (.invalidTimestamp "Session expiry timestamp must be later than creation timestamp.")
  raiseIf (self.updatedAt < self.createdAt)
    (.invalidTimestamp "Session updated timestamp must not be earlier than creation timestamp.")
  raiseIf (self.revokedAt.any (fun revokedAt => revokedAt < self.createdAt))
    (.invalidTimestamp
      "Session revocation timestamp must not be earlier than creation timestamp.")
  return self

def create (id userId : UUID) (now expiresAt : Timestamp) : Except Fault AuthSession :=
  postInit {
    id, userId
    createdAt := now
    updatedAt := now
    expiresAt
    revokedAt := none
  }

/-- `revoke`. Repeated revocation is idempotent. -/
def revoke (self : AuthSession) (now : Timestamp) : Except Fault AuthSession :=
  if self.revokedAt.isSome then .ok self
  else if now < self.createdAt then
    .error (.invalidSessionState
      "Session mutation timestamp must not be earlier than creation timestamp.")
  else postInit { self with updatedAt := now, revokedAt := some now }

end AuthSession

-----------------------------------------------------------------------------------------
-- Refresh tokens
-----------------------------------------------------------------------------------------

/-- A lower-case SHA-256 hex digest of an opaque refresh token. -/
structure RefreshTokenDigest where
  value : Text
  valid : isSha256Hex value = true
  deriving Repr

theorem RefreshTokenDigest.eq_of_value {first second : RefreshTokenDigest}
    (same : first.value = second.value)
    : first = second := by
  cases first
  cases second
  cases same
  rfl

instance : DecidableEq RefreshTokenDigest := fun first second =>
  decidable_of_iff (first.value = second.value)
    ⟨RefreshTokenDigest.eq_of_value, congrArg RefreshTokenDigest.value⟩

structure RefreshTokenRecord where
  id : UUID
  sessionId : UUID
  tokenFamilyId : UUID
  tokenDigest : RefreshTokenDigest
  generation : Nat
  issuedAt : Timestamp
  expiresAt : Timestamp
  usedAt : Option Timestamp
  revokedAt : Option Timestamp
  replacedByTokenId : Option UUID
  deriving DecidableEq, Repr

namespace RefreshTokenRecord

def postInit (self : RefreshTokenRecord) : Except Fault RefreshTokenRecord := do
  validateUuid self.id "Refresh token identifier"
  validateUuid self.sessionId "Session identifier"
  validateUuid self.tokenFamilyId "Refresh token family identifier"
  raiseIf (self.expiresAt ≤ self.issuedAt)
    (.invalidTimestamp "Refresh token expiry timestamp must be later than issue timestamp.")
  raiseIf (self.usedAt.any (fun usedAt => usedAt < self.issuedAt))
    (.invalidTimestamp "Refresh token used timestamp must not be earlier than issue timestamp.")
  raiseIf (self.revokedAt.any (fun revokedAt => revokedAt < self.issuedAt))
    (.invalidTimestamp
      "Refresh token revocation timestamp must not be earlier than issue timestamp.")
  return self

def issueInitial (id sessionId tokenFamilyId : UUID) (tokenDigest : RefreshTokenDigest)
    (issuedAt expiresAt : Timestamp)
    : Except Fault RefreshTokenRecord :=
  postInit {
    id, sessionId, tokenFamilyId, tokenDigest
    generation := 0
    issuedAt, expiresAt
    usedAt := none
    revokedAt := none
    replacedByTokenId := none
  }

def isExpired (self : RefreshTokenRecord) (instant : Timestamp) : Bool :=
  decide (self.expiresAt ≤ instant)

/-- `replacement`: the next token of the family. -/
def replacement (self : RefreshTokenRecord) (id : UUID) (tokenDigest : RefreshTokenDigest)
    (issuedAt expiresAt : Timestamp)
    : Except Fault RefreshTokenRecord :=
  if tokenDigest = self.tokenDigest then
    .error (.invalidRefreshTokenState "Refresh token rotation must install a new digest.")
  else
    postInit {
      id
      sessionId := self.sessionId
      tokenFamilyId := self.tokenFamilyId
      tokenDigest
      generation := self.generation + 1
      issuedAt, expiresAt
      usedAt := none
      revokedAt := none
      replacedByTokenId := none
    }

end RefreshTokenRecord

-----------------------------------------------------------------------------------------
-- Access tokens and results
-----------------------------------------------------------------------------------------

structure AccessTokenClaims where
  userId : UUID
  sessionId : UUID
  tokenId : UUID
  issuedAt : Timestamp
  expiresAt : Timestamp
  deriving DecidableEq, Repr

def AccessTokenClaims.postInit (self : AccessTokenClaims) : Except Fault AccessTokenClaims := do
  validateUuid self.userId "Access token user identifier"
  validateUuid self.tokenId "Access token identifier"
  raiseIf (self.expiresAt ≤ self.issuedAt)
    (.invalidTimestamp "Access token expiry timestamp must be later than issue timestamp.")
  return self

structure TokenPair where
  accessToken : Text
  refreshToken : Text
  sessionId : UUID
  accessTokenExpiresAt : Timestamp
  refreshTokenExpiresAt : Timestamp
  deriving DecidableEq, Repr

/-- The principal of a verified access token has the fields of its claims. -/
abbrev VerifiedAccessPrincipal := AccessTokenClaims

-----------------------------------------------------------------------------------------
-- Security audit events
-----------------------------------------------------------------------------------------

inductive SecurityEventType where
  | authenticationLoginSucceeded
  | sessionCreated
  | sessionRefreshed
  | sessionRefreshReplayDetected
  | sessionRevoked
  | sessionRevokedAll
  deriving DecidableEq, Repr

inductive SecurityOutcome where
  | success
  | replayDetected
  deriving DecidableEq, Repr

/-- An audit event as the session use cases write it. -/
structure SecurityEvent where
  id : UUID
  eventType : SecurityEventType
  outcome : SecurityOutcome
  occurredAt : Timestamp
  actorUserId : Option UUID
  sessionId : Option UUID
  requestContext : AuditRequestContext
  metadata : List (String × AuditValue)
  deriving DecidableEq

-----------------------------------------------------------------------------------------
-- What the constructors accept
-----------------------------------------------------------------------------------------

@[simp] theorem raiseIf_bind {α : Type} {condition : Prop} [Decidable condition]
    {failure : Fault} {rest : Except Fault α} {result : α}
    : (raiseIf condition failure >>= fun _ => rest) = .ok result
      ↔ ¬ condition ∧ rest = .ok result := by
  by_cases holds : condition <;> simp [raiseIf, holds, bind, Except.bind]

/-- The checks of `AuthSession.__post_init__`. -/
structure AuthSession.Valid (session : AuthSession) : Prop where
  id : session.id ≠ 0
  user : session.userId ≠ 0
  expires : session.createdAt < session.expiresAt
  updated : session.createdAt ≤ session.updatedAt
  revoked : ∀ revokedAt, session.revokedAt = some revokedAt → session.createdAt ≤ revokedAt

theorem AuthSession.postInit_eq_ok {session result : AuthSession}
    : session.postInit = .ok result ↔ session.Valid ∧ result = session := by
  unfold AuthSession.postInit validateUuid
  simp only [raiseIf_bind, pure, Except.pure, Except.ok.injEq]
  constructor
  · rintro ⟨id, user, expires, updated, revoked, same⟩
    refine ⟨⟨id, user, Int.not_le.mp expires, Int.not_lt.mp updated, ?_⟩, same.symm⟩
    intro revokedAt stamped
    simpa [stamped] using revoked
  · rintro ⟨valid, same⟩
    refine ⟨valid.id, valid.user, Int.not_le.mpr valid.expires, Int.not_lt.mpr valid.updated,
      ?_, same.symm⟩
    · cases stamped : session.revokedAt with
      | none => simp
      | some revokedAt => simpa using valid.revoked revokedAt stamped

/-- A session is stamped once, and never before its creation. -/
theorem AuthSession.revoke_eq_ok {session result : AuthSession} {now : Timestamp}
    (revoked : session.revoke now = .ok result)
    : (session.revokedAt.isSome ∧ result = session)
      ∨ (session.revokedAt = none ∧ session.createdAt ≤ now
          ∧ result = { session with updatedAt := now, revokedAt := some now }) := by
  unfold AuthSession.revoke at revoked
  split at revoked
  · rename_i stamped
    simp only [Except.ok.injEq] at revoked
    exact .inl ⟨stamped, revoked.symm⟩
  · rename_i unstamped
    split at revoked
    · contradiction
    · rename_i late
      exact .inr ⟨by simpa using unstamped, Int.not_lt.mp late, (postInit_eq_ok.mp revoked).2⟩

/-- A valid session can be revoked at any time from its creation on. -/
theorem AuthSession.revoke_ok {session : AuthSession} {now : Timestamp}
    (valid : session.Valid) (late : session.revokedAt = none → session.createdAt ≤ now)
    : ∃ result, session.revoke now = .ok result := by
  unfold AuthSession.revoke
  split
  · exact ⟨session, rfl⟩
  · rename_i unstamped
    have after := late (by simpa using unstamped)
    rw [if_neg (Int.not_lt.mpr after)]
    refine ⟨_, postInit_eq_ok.mpr ⟨?_, rfl⟩⟩
    refine {
      id := valid.id
      user := valid.user
      expires := valid.expires
      updated := after
      revoked := ?_
    }
    intro revokedAt stamped
    simp only [Option.some.injEq] at stamped
    exact stamped ▸ after

/-- A valid session refuses only a revocation dated before its creation. -/
theorem AuthSession.revoke_eq_error {session : AuthSession} {now : Timestamp}
    {failure : Fault} (valid : session.Valid) (refused : session.revoke now = .error failure)
    : session.revokedAt = none ∧ now < session.createdAt
      ∧ failure = .invalidSessionState
          "Session mutation timestamp must not be earlier than creation timestamp." := by
  by_cases late : session.revokedAt = none → session.createdAt ≤ now
  · obtain ⟨result, accepted⟩ := revoke_ok valid late
    rw [accepted] at refused
    contradiction
  · obtain ⟨fresh, early⟩ := Classical.not_imp.mp late
    have early' := Int.not_le.mp early
    refine ⟨fresh, early', ?_⟩
    unfold AuthSession.revoke at refused
    rw [if_neg (by simp [fresh]), if_pos early'] at refused
    exact (Except.error.inj refused).symm

theorem AuthSession.revoke_valid {session result : AuthSession} {now : Timestamp}
    (valid : session.Valid) (revoked : session.revoke now = .ok result)
    : result.Valid := by
  unfold AuthSession.revoke at revoked
  split at revoked
  · exact Except.ok.inj revoked ▸ valid
  · split at revoked
    · contradiction
    · obtain ⟨valid', same⟩ := postInit_eq_ok.mp revoked
      exact same ▸ valid'

/-- The checks of `RefreshTokenRecord.__post_init__`. -/
structure RefreshTokenRecord.Valid (token : RefreshTokenRecord) : Prop where
  id : token.id ≠ 0
  session : token.sessionId ≠ 0
  family : token.tokenFamilyId ≠ 0
  expires : token.issuedAt < token.expiresAt
  used : ∀ usedAt, token.usedAt = some usedAt → token.issuedAt ≤ usedAt
  revoked : ∀ revokedAt, token.revokedAt = some revokedAt → token.issuedAt ≤ revokedAt

theorem RefreshTokenRecord.postInit_eq_ok {token result : RefreshTokenRecord}
    : token.postInit = .ok result ↔ token.Valid ∧ result = token := by
  unfold RefreshTokenRecord.postInit validateUuid
  simp only [raiseIf_bind, pure, Except.pure, Except.ok.injEq]
  constructor
  · rintro ⟨id, session, family, expires, used, revoked, same⟩
    refine ⟨⟨id, session, family, Int.not_le.mp expires, ?_, ?_⟩, same.symm⟩
    · intro usedAt stamped
      simpa [stamped] using used
    · intro revokedAt stamped
      simpa [stamped] using revoked
  · rintro ⟨valid, same⟩
    refine ⟨valid.id, valid.session, valid.family, Int.not_le.mpr valid.expires, ?_, ?_,
      same.symm⟩
    · cases stamped : token.usedAt with
      | none => simp
      | some usedAt => simpa using valid.used usedAt stamped
    · cases stamped : token.revokedAt with
      | none => simp
      | some revokedAt => simpa using valid.revoked revokedAt stamped

theorem AccessTokenClaims.postInit_eq_ok {claims result : AccessTokenClaims}
    : claims.postInit = .ok result
      ↔ (claims.userId ≠ 0 ∧ claims.tokenId ≠ 0 ∧ claims.issuedAt < claims.expiresAt)
        ∧ result = claims := by
  unfold AccessTokenClaims.postInit validateUuid
  simp only [raiseIf_bind, pure, Except.pure, Except.ok.injEq]
  constructor
  · rintro ⟨user, token, expires, same⟩
    exact ⟨⟨user, token, Int.not_le.mp expires⟩, same.symm⟩
  · rintro ⟨⟨user, token, expires⟩, same⟩
    exact ⟨user, token, Int.not_le.mpr expires, same.symm⟩

end WorkflowForge.Identity
