import WorkflowForge.Identity.Credentials
import WorkflowForge.Identity.Revocations

/-! Starting sessions, logging out and verifying access tokens. -/

namespace WorkflowForge.Identity

open Python Transactions Concurrency

variable {services : Services} {regime : Regime} {i : Nat} {world after : World}
variable {raised : Fault → World → Prop}

-----------------------------------------------------------------------------------------
-- StartUserSession
-----------------------------------------------------------------------------------------

/-- A session is inserted with its first token. -/
theorem add_spec {session : AuthSession} {token : RefreshTokenRecord}
    (first : FirstToken services session token)
    : Spec services regime i
        (fun world =>
          (Idle world i ∧ world.DrawnBy i session.id)
          ∧ world.DrawnBy i token.id ∧ world.GeneratedBy services i token.tokenDigest)
        (SessionRepository.add session token)
        (fun _ world => Opening services world i session token) (fun _ _ => True) := by
  have always : ∀ failure : Fault, Tame services regime i ((fun _ _ => True) failure) :=
    fun _ => .const True
  have insertSession : Spec services regime i
      (fun world => Idle world i ∧ world.DrawnBy i session.id)
      (SessionRepository.insertOrReraise .authSessions session
        SessionRepository.sessionIntegrityError)
      (fun _ world => Opened world i session) (fun _ _ => True) := by
    apply insertOrReraise_spec insertSession_spec _ always
    · exact fun world holds => holds.1 rfl
    · exact fun _ _ _ _ _ => trivial
    · exact fun _ _ _ _ => trivial
    · exact fun _ _ _ _ => trivial
    · intro answer
      exact (Tame.imp fun _ => Opened.tame session).and (.imp fun _ => Idle.tame)
  unfold SessionRepository.add
  apply Spec.bind
  · exact (Spec.drawn token.id token.tokenDigest insertSession).weaken (fun _ holds => holds)
      (fun _ _ holds => holds) (fun _ _ _ => trivial)
  intro _
  apply Spec.bind
  · apply insertOrReraise_spec (insertFirstToken_spec first) _ always
    · exact fun world holds => holds rfl
    · exact fun _ _ _ _ _ => trivial
    · exact fun _ _ _ _ => trivial
    · exact fun _ _ _ _ => trivial
    · intro answer
      exact Tame.imp fun _ => Opening.tame session token
  intro _
  exact Spec.lift (Opening.tame session token) (fun _ _ _ holds => holds)
    (fun _ _ _ _ => trivial)

/-- The session and the token that `StartUserSession` builds belong together. -/
theorem firstToken {sessionId userId tokenId familyId : UUID} {digest : RefreshTokenDigest}
    {issuedAt : Timestamp} {session : AuthSession} {token : RefreshTokenRecord}
    (created
      : AuthSession.create sessionId userId issuedAt
          (issuedAt + services.policy.sessionLifetime)
        = .ok session)
    (issued
      : RefreshTokenRecord.issueInitial tokenId sessionId familyId digest issuedAt
          (issuedAt + services.policy.refreshTokenLifetime)
        = .ok token)
    : FirstToken services session token ∧ session.id = sessionId ∧ token.id = tokenId
      ∧ token.tokenDigest = digest ∧ userId ≠ 0 := by
  obtain ⟨validSession, rfl⟩ := AuthSession.postInit_eq_ok.mp created
  obtain ⟨validToken, rfl⟩ := RefreshTokenRecord.postInit_eq_ok.mp issued
  refine ⟨?_, rfl, rfl, rfl, validSession.user⟩
  exact {
    parent := rfl
    unrevoked := rfl
    unused := rfl
    unreplaced := rfl
    initial := rfl
    within := Int.add_le_add_left services.policy.refresh_le _
    span := Int.le_refl _
    validSession := validSession
    validToken := validToken
  }

/-- The transaction of a new session is committed, or nothing is. -/
theorem startUserSession_spec (command : StartUserSessionCommand)
    : Spec services regime i (fun world => Idle world i) (startUserSession services command)
        (fun _ _ => True) (fun _ _ => True) := by
  suffices body : Spec services regime i (fun world => Idle world i) _ (fun _ _ => True)
      (fun _ _ => True) from
    orRollback_spec body (fun _ => .const _) (fun _ => .const _) (fun _ _ _ _ => trivial)
  apply Spec.bind (authenticate_spec Idle.tame)
  intro answer
  refine Spec.lifted Idle.tame ?_ (fun _ _ _ _ => trivial)
  intro userId _
  apply Spec.bind (clockNow_spec Idle.tame)
  intro issuedAt
  apply Spec.bind (newTypedId_spec Idle.tame)
  intro sessionId
  have stable : Tame services regime i (fun world =>
      Idle world i ∧ (world.Untaken i sessionId ∧ sessionId ≠ 0)) :=
    Idle.tame.and ((Tame.untaken _).and (.const _))
  refine Spec.lifted stable ?_ (fun _ _ _ _ => trivial)
  intro session created
  apply Spec.bind (newRefreshCredential_spec stable)
  rintro ⟨token, digest⟩
  have stable : Tame services regime i (fun world =>
      (Idle world i ∧ (world.Untaken i sessionId ∧ sessionId ≠ 0))
      ∧ world.GeneratedBy services i digest) := stable.and (.generatedBy _)
  apply Spec.bind (newTypedId_spec stable)
  intro tokenId
  have stable : Tame services regime i (fun world =>
      ((Idle world i ∧ (world.Untaken i sessionId ∧ sessionId ≠ 0))
        ∧ world.GeneratedBy services i digest)
      ∧ (world.Untaken i tokenId ∧ tokenId ≠ 0)) :=
    stable.and ((Tame.untaken _).and (.const _))
  apply Spec.bind (newTypedId_spec stable)
  intro familyId
  have stable : Tame services regime i (fun world =>
      (((Idle world i ∧ (world.Untaken i sessionId ∧ sessionId ≠ 0))
        ∧ world.GeneratedBy services i digest)
        ∧ (world.Untaken i tokenId ∧ tokenId ≠ 0))
      ∧ (world.Untaken i familyId ∧ familyId ≠ 0)) :=
    stable.and ((Tame.untaken _).and (.const _))
  refine Spec.lifted stable ?_ (fun _ _ _ _ => trivial)
  intro record issued
  obtain ⟨first, rfl, rfl, rfl, user⟩ := firstToken created issued
  apply Spec.bind (issueAccessToken_spec stable user (fun _ _ _ _ => trivial))
  rintro ⟨accessToken, accessExpiresAt⟩
  apply Spec.bind
  · apply (add_spec first).weaken
    · rintro world ⟨⟨⟨⟨idle, sessionDrawn, _⟩, generated⟩, tokenDrawn, _⟩, _⟩
      exact ⟨⟨idle, sessionDrawn.drawn⟩, tokenDrawn.drawn, generated⟩
    · exact fun _ _ holds => holds
    · exact fun _ _ failed => failed
  intro _
  have tame : Tame services regime i (fun world => Opening services world i session record) :=
    Opening.tame session record
  apply Spec.bind (audited_spec tame (Opening.eventProof session record)
    (fun _ => newUuid_spec tame) (fun _ _ _ _ => trivial))
  intro _
  apply Spec.bind (audited_spec tame (Opening.eventProof session record)
    (fun _ => newUuid_spec tame) (fun _ _ _ _ => trivial))
  intro _
  apply Spec.bind (commit_spec tame (.const True)
    (fun world _ opening => .opening session record opening) (fun _ _ _ => trivial))
  intro _
  exact Spec.pure (.const True) (fun _ _ => trivial)

-----------------------------------------------------------------------------------------
-- LogoutSession
-----------------------------------------------------------------------------------------

/-- `_audit_id` fails only where no id generator is given. -/
theorem auditId_spec {pre : World → Prop} (tame : Tame services regime i pre)
    (missing : services.logoutIds = false → ∀ failure world, pre world → raised failure world)
    : Spec services regime i pre (auditId services)
        (fun k world => pre world ∧ (world.Untaken i k ∧ k ≠ 0)) raised := by
  unfold auditId
  cases given : services.logoutIds with
  | true => exact newUuid_spec tame
  | false => exact Spec.throw tame (missing given _)

/-- What the first SELECT of a logout finds. -/
theorem getById_spec {k : UUID}
    : Spec services regime i (fun world => Idle world i ∧ Unopened world i)
        (SessionRepository.getById k)
        (fun result world =>
          ∃ db,
            (Idle world i ∧ result = sessionAt db k
              ∧ (¬ regime.deletes → result.isSome → (sessionAt world.committed k).isSome))
            ∧ (world.store.history i).opened = some db)
        raised := by
  let known (db : Database) (world : World) : Prop :=
    (∀ session, sessionAt db k = some session → session.Valid)
    ∧ (¬ regime.deletes → (sessionAt db k).isSome → (sessionAt world.committed k).isSome)
  have tame (db : Database) : Tame services regime i (known db) :=
    (Tame.const _).and (.imp fun lasting => .imp fun _ => .present lasting k)
  unfold SessionRepository.getById
  refine Spec.bind (firstSelect_spec known Idle.tame tame ?_) ?_
  · intro world invariant _ idle _
    rw [idle.view]
    exact ⟨invariant.lineage.validSessions k, fun _ present => present⟩
  · intro db
    have stable : Tame services regime i (fun world =>
        Idle world i ∧ known db world ∧ (world.store.history i).opened = some db) :=
      Idle.tame.and ((tame db).and (.opened db))
    refine Spec.fact (fun world _ holds => holds.2.1.1) (fun valid => ?_)
    have ok : loaded authSessionFromRecord (db.find? .authSessions k)
        = Program.done (.ok (sessionAt db k)) :=
      loaded_eq fun session found => AuthSession.postInit_eq_ok.mpr ⟨valid session found, rfl⟩
    rw [ok]
    exact Spec.pure stable (fun world holds => ⟨db, ⟨holds.1, rfl, holds.2.1.2⟩, holds.2.2⟩)

/-- The runs in which a logout is not stopped by a constraint, by a deletion, or by a missing
id generator. -/
def Undisturbed (services : Services) (regime : Regime) : Prop :=
  regime.calm ∧ ¬ regime.deletes ∧ (services.audit = true → services.logoutIds = true)

/-- The statements that log out of an owned session. -/
theorem logoutOwned_spec {k : UUID} {revokedAt : Timestamp} {eventType : SecurityEventType}
    {outcome : SecurityOutcome} {actorUserId sessionId : Option UUID}
    {requestContext : AuditRequestContext} {metadata : List (String × AuditValue)}
    : Spec services regime i
        (fun world =>
          Idle world i ∧ (¬ regime.deletes → (sessionAt world.committed k).isSome))
        (do
          let _ ← SessionRepository.revoke k revokedAt
          audited services (auditId services) eventType outcome revokedAt actorUserId sessionId
            requestContext metadata
          commit)
        (fun _ world => world.Revoked regime.deletes k)
        (fun _ _ => ¬ Undisturbed services regime) := by
  apply Spec.bind
  · exact revoke_spec.weaken (fun _ holds => holds) (fun _ _ holds => holds)
      (fun _ _ thwarted disturbed => thwarted.why ⟨disturbed.1, disturbed.2.1⟩)
  intro _
  apply Spec.bind
  · refine Spec.weaken (audited_spec (Sealed.tame (· = k)) (Sealed.eventProof (· = k)) ?_ ?_)
      (fun world holds => ⟨fun other same => same ▸ holds.2, holds.1⟩)
      (fun _ _ holds => holds) (fun _ _ failed => failed)
    · intro recorded
      apply auditId_spec (Sealed.tame (· = k))
      intro missing _ _ _ undisturbed
      rw [undisturbed.2.2 recorded] at missing
      contradiction
    · exact fun stormy _ _ _ undisturbed => stormy undisturbed.1
  intro _
  exact (commitRevocation_spec (· = k)).weaken (fun _ holds => holds)
    (fun _ _ holds => holds.1 k rfl) (fun _ _ failed => failed)

/-- The session was not the user's when the call first looked. -/
def Unowned (command : LogoutSessionCommand) (i : Nat) (world : World) : Prop :=
  ∃ db, (world.store.history i).opened = some db
    ∧ ∀ session, sessionAt db command.sessionId = some session
        → session.userId ≠ command.userId

/-- A logout revokes the session; undisturbed it fails only where the session is not owned. -/
theorem logoutSession_spec (command : LogoutSessionCommand)
    : Spec services regime i (fun world => Idle world i ∧ Unopened world i)
        (logoutSession services command)
        (fun _ world => world.Revoked regime.deletes command.sessionId)
        (fun _ world => Undisturbed services regime → Unowned command i world) := by
  have tame : Tame services regime i (fun world =>
      Undisturbed services regime → Unowned command i world) :=
    .imp fun _ => .ex fun db => (Tame.opened db).and (.const _)
  suffices body : Spec services regime i (fun world => Idle world i ∧ Unopened world i) _
      (fun _ world => world.Revoked regime.deletes command.sessionId)
      (fun _ world => Undisturbed services regime → Unowned command i world) from
    orRollback_spec body (fun _ => tame) (fun _ => tame) (fun _ _ _ holds => holds)
  apply Spec.bind getById_spec
  intro result
  refine Spec.exists fun db => ?_
  have stable : Tame services regime i (fun world =>
      Idle world i ∧ result = sessionAt db command.sessionId
      ∧ (¬ regime.deletes → result.isSome → (sessionAt world.committed command.sessionId).isSome))
      := Idle.tame.and ((Tame.const _).and (.imp fun lasting => .imp fun _ => .present lasting _))
  match result with
  | none =>
      refine Spec.throw (stable.and (.opened db)) (fun world holds _ => ⟨db, holds.2, ?_⟩)
      intro session found
      rw [found] at holds
      exact nomatch holds.1.2.1
  | some session =>
      by_cases owner : session.userId = command.userId
      · simp only [ne_eq, owner, not_true, if_false]
        apply Spec.bind (clockNow_spec (stable.and (.opened db)))
        intro revokedAt
        apply (Spec.opened db logoutOwned_spec).weaken
        · rintro world ⟨⟨idle, _, present⟩, opened⟩
          exact ⟨⟨idle, fun lasting => present lasting rfl⟩, opened⟩
        · exact fun _ _ holds => holds.1
        · exact fun _ _ failed undisturbed => absurd undisturbed failed.1
      · simp only [ne_eq, owner, not_false_eq_true, if_true]
        refine Spec.throw (stable.and (.opened db)) (fun world holds _ => ⟨db, holds.2, ?_⟩)
        intro other found
        rw [found, Option.some.injEq] at holds
        exact holds.1.2.1 ▸ owner

-----------------------------------------------------------------------------------------
-- LogoutAllSessions
-----------------------------------------------------------------------------------------

/-- Logging out everywhere revokes every session of the user. -/
theorem logoutAllSessions_spec (command : LogoutAllSessionsCommand)
    : Spec services regime i (fun world => Idle world i) (logoutAllSessions services command)
        (fun _ world =>
          ∀ k, Enrolled regime command.userId k → ¬ regime.deletes → world.Revoked regime.deletes k)
        (fun _ _ => ¬ Undisturbed services regime) := by
  let listed (k : UUID) : Prop := Enrolled regime command.userId k ∧ ¬ regime.deletes
  suffices body : Spec services regime i (fun world => Idle world i) _
      (fun _ world =>
        ∀ k, Enrolled regime command.userId k → ¬ regime.deletes → world.Revoked regime.deletes k)
      (fun _ _ => ¬ Undisturbed services regime) from
    orRollback_spec body (fun _ => .const _) (fun _ => .const _) (fun _ _ _ holds => holds)
  apply Spec.bind (clockNow_spec Idle.tame)
  intro revokedAt
  apply Spec.bind
  · exact revokeAllForUser_spec.weaken (fun _ holds => holds) (fun _ _ holds => holds)
      (fun _ _ failed undisturbed => failed.2.2 undisturbed.1)
  intro revoked
  apply Spec.bind
  · refine Spec.weaken (audited_spec (Sealed.tame listed) (Sealed.eventProof listed) ?_ ?_)
      (fun world holds => ⟨fun k known => holds.1 k known.1 known.2, holds.2⟩)
      (fun _ _ holds => holds) (fun _ _ failed => failed)
    · intro recorded
      apply auditId_spec (Sealed.tame listed)
      intro missing _ _ _ undisturbed
      rw [undisturbed.2.2 recorded] at missing
      contradiction
    · exact fun stormy _ _ _ undisturbed => stormy undisturbed.1
  intro _
  apply Spec.bind (commitRevocation_spec listed)
  intro _
  apply Spec.pure ((Tame.all fun k => .imp fun _ => .revoked k).and Tame.noToken)
  exact fun world holds k enrolled lasting => holds.1 k ⟨enrolled, lasting⟩

-----------------------------------------------------------------------------------------
-- VerifyAccessToken
-----------------------------------------------------------------------------------------

/-- The session is revoked or gone in every state of the runs under consideration. -/
def Doomed (regime : Regime) (k : UUID) : Prop := ∀ world, regime.also world → world.Dead k

/-- A session that the call has read as active. -/
structure ActiveSession (regime : Regime) (k : UUID) (instant : Timestamp)
    (session : AuthSession) (world : World)
    : Prop where
  read : SessionRead world k session
  current : instant < session.expiresAt
  undoomed : ¬ Doomed regime k

theorem ActiveSession.tame (k : UUID) (instant : Timestamp) (session : AuthSession)
    : Tame services regime i (ActiveSession regime k instant session) := by
  intro before after invariant keeps active
  exact { active with
    read := SessionRead.tame k session before after invariant keeps active.read }

/-- No revoked session is found active. -/
theorem getActiveById_spec {pre : World → Prop} {k : UUID} {instant : Timestamp}
    (tame : Tame services regime i pre) (idle : ∀ world, pre world → Idle world i)
    : Spec services regime i pre (SessionRepository.getActiveById k instant)
        (fun result world =>
          pre world
          ∧ ∀ session, result = some session → ActiveSession regime k instant session world)
        raised := by
  let chosen (db : Database) : Option AuthSession :=
    (sessionAt db k).filter (fun row => isActive row instant)
  let known (db : Database) (world : World) : Prop :=
    ∀ session, chosen db = some session → ActiveSession regime k instant session world
  have stable (db : Database) : Tame services regime i (known db) :=
    .all fun session => .imp fun _ => ActiveSession.tame k instant session
  unfold SessionRepository.getActiveById
  refine Spec.bind (select_spec known tame stable ?_) ?_
  · intro world invariant also holds _ session found
    rw [(idle world holds).view] at found
    obtain ⟨found, active⟩ := Option.filter_eq_some_iff.mp found
    simp only [isActive, Bool.and_eq_true, decide_eq_true_eq, Option.isNone_iff_eq_none] at active
    refine { read := invariant.sessionRead found, current := active.2, undoomed := ?_ }
    intro doomed
    have stamped := (doomed world also).committed session found
    simp [active.1] at stamped
  · intro db
    refine Spec.fact (fun world _ holds session found => (holds.2 session found).read.valid)
      (fun valid => ?_)
    have ok : loaded authSessionFromRecord (chosen db) = Program.done (.ok (chosen db)) :=
      loaded_eq fun session found => AuthSession.postInit_eq_ok.mpr ⟨valid session found, rfl⟩
    change Spec services regime i _ (loaded authSessionFromRecord (chosen db)) _ _
    rw [ok]
    exact Spec.pure (tame.and (stable db)) (fun world holds => holds)

/-- No access token of a revoked session is verified. -/
theorem verifyAccessToken_spec (token : Text)
    : Spec services regime i (fun world => Idle world i) (verifyAccessToken token)
        (fun principal _ => ¬ Doomed regime principal.sessionId) (fun _ _ => True) := by
  unfold verifyAccessToken
  apply Spec.bind (verifyToken_spec Idle.tame)
  intro answer
  refine Spec.lifted Idle.tame ?_ (fun _ _ _ _ => trivial)
  intro claims _
  apply Spec.bind (clockNow_spec Idle.tame)
  intro instant
  apply Spec.bind (getActiveById_spec Idle.tame (fun _ idle => idle))
  intro result
  have stable : Tame services regime i (fun world =>
      Idle world i
      ∧ ∀ session, result = some session
          → ActiveSession regime claims.sessionId instant session world) :=
    Idle.tame.and (.all fun session => .imp fun _ => ActiveSession.tame _ instant session)
  match result with
  | none => exact Spec.throw stable (fun _ _ => trivial)
  | some session =>
      by_cases owner : session.userId = claims.userId
      · simp only [ne_eq, owner, not_true, if_false]
        refine Spec.lift stable ?_ (fun _ _ _ _ => trivial)
        intro principal made world holds
        rw [(AccessTokenClaims.postInit_eq_ok.mp made).2]
        exact (holds.2 session rfl).undoomed
      · simp only [ne_eq, owner, not_false_eq_true, if_true]
        exact Spec.throw stable (fun _ _ => trivial)

end WorkflowForge.Identity
