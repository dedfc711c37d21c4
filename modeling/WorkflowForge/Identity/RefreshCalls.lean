import WorkflowForge.Identity.Rotations
import WorkflowForge.Identity.SessionCalls

/-! The `RefreshSession` use case: rotation, the reaction to a replay, and the refusals. -/

namespace WorkflowForge.Identity

open Python Transactions Concurrency

variable {services : Services} {regime : Regime} {i : Nat} {world after : World}
variable {raised : Fault → World → Prop}

-----------------------------------------------------------------------------------------
-- Reading the presented token
-----------------------------------------------------------------------------------------

/-- A token as the call has read it. -/
structure TokenRead (regime : Regime) (digest : RefreshTokenDigest)
    (token : RefreshTokenRecord) (world : World)
    : Prop where
  digest : token.tokenDigest = digest
  valid : token.Valid
  minted : ∃ j minted, (j, minted) ∈ world.mintedTokens ∧ token.Alike minted
  present : ¬ regime.deletes → (sessionAt world.committed token.sessionId).isSome
  used : token.usedAt.isSome = token.replacedByTokenId.isSome

theorem TokenRead.tame (digest : RefreshTokenDigest) (token : RefreshTokenRecord)
    : Tame services regime i (TokenRead regime digest token) := by
  intro before after invariant keeps read
  obtain ⟨j, minted, member, alike⟩ := read.minted
  exact { read with
    minted := ⟨j, minted, keeps.mintedTokens member, alike⟩
    present := fun lasting =>
      Tame.present lasting token.sessionId before after invariant keeps (read.present lasting) }

/-- The first SELECT of a refresh finds the one row with the digest, or none. -/
theorem getRefreshTokenByDigest_spec {digest : RefreshTokenDigest}
    : Spec services regime i (fun world => Idle world i ∧ Unopened world i)
        (SessionRepository.getRefreshTokenByDigest digest)
        (fun result world =>
          ∃ db,
            (Idle world i ∧ withDigest db digest = result.toList
              ∧ ∀ token, result = some token → TokenRead regime digest token world)
            ∧ (world.store.history i).opened = some db)
        raised := by
  let known (db : Database) (world : World) : Prop :=
    (withDigest db digest).length ≤ 1
    ∧ ∀ token ∈ withDigest db digest, TokenRead regime digest token world
  have tame (db : Database) : Tame services regime i (known db) :=
    (Tame.const _).and (.all fun token => .all fun _ => TokenRead.tame digest token)
  unfold SessionRepository.getRefreshTokenByDigest
  refine Spec.bind (firstSelect_spec known Idle.tame tame ?_) ?_
  · intro world invariant _ idle _
    rw [idle.view]
    have keyed := invariant.coherent.keyed
    refine ⟨withDigest_length keyed invariant.coherent.settled digest, ?_⟩
    intro token member
    obtain ⟨present, same⟩ := mem_withDigest.mp member
    have found : tokenAt world.committed token.id = some token := Db.find?_of_mem keyed present
    obtain ⟨session, owned, _⟩ := invariant.lineage.owned token.id token found
    exact {
      digest := same
      valid := invariant.lineage.validTokens token.id token found
      minted := invariant.ledger.tokens token.id token found
      present := fun _ => by rw [owned]; rfl
      used := invariant.lineage.used token.id token found
    }
  · intro db
    have stable : Tame services regime i (fun world =>
        Idle world i ∧ known db world ∧ (world.store.history i).opened = some db) :=
      Idle.tame.and ((tame db).and (.opened db))
    refine Spec.fact (fun world _ holds => holds.2.1.1) (fun few => ?_)
    change Spec services regime i _ (scalarOneOrNone (withDigest db digest) >>= _) _ _
    match rows : withDigest db digest with
    | [] =>
        refine Spec.pure stable (fun world holds => ⟨db, ⟨holds.1, rows, ?_⟩, holds.2.2⟩)
        exact fun _ impossible => by contradiction
    | [token] =>
        have facts : ∀ world, known db world → TokenRead regime digest token world :=
          fun world holds => holds.2 token (by simp [rows])
        refine Spec.fact (fun world _ holds => (facts world holds.2.1).valid) (fun valid => ?_)
        have ok : loaded refreshTokenFromRecord (some token)
            = Program.done (.ok (some token)) := by
          refine loaded_eq fun row same => ?_
          rw [← Option.some.inj same]
          exact RefreshTokenRecord.postInit_eq_ok.mpr ⟨valid, rfl⟩
        change Spec services regime i _ (loaded refreshTokenFromRecord (some token)) _ _
        rw [ok]
        refine Spec.pure stable (fun world holds => ⟨db, ⟨holds.1, rows, ?_⟩, holds.2.2⟩)
        intro other same
        exact Option.some.inj same ▸ facts world holds.2.1
    | _ :: _ :: _ => simp [rows] at few

-----------------------------------------------------------------------------------------
-- Replay
-----------------------------------------------------------------------------------------

/-- How the reaction to a replay ends: no token is inserted; with nothing in its way the session
is revoked and the replay is reported. -/
structure ReplayEnded (regime : Regime) (i : Nat) (k : UUID) (failure : Fault) (world : World)
    : Prop where
  withheld : world.Withheld i
  kind
    : regime.calm → ¬ regime.deletes
        → (∃ message, failure = .refreshTokenReplay message) ∧ world.Revoked regime.deletes k

theorem ReplayEnded.tame (k : UUID) (failure : Fault)
    : Tame services regime i (ReplayEnded regime i k failure) := by
  intro before after invariant keeps ended
  exact {
    withheld := keeps.withheld ended.withheld
    kind := fun calm lasting =>
      (ended.kind calm lasting).imp_right (Tame.revoked k before after invariant keeps)
  }

theorem withheld_of_noToken (noToken : ∀ row, (i, row) ∉ world.mintedTokens)
    : world.Withheld i :=
  fun token member => absurd member (noToken token)

/-- A replay is answered by revoking the session of the token. -/
theorem replayDetected_spec {current : RefreshTokenRecord} {rotatedAt : Timestamp}
    {auditContext : AuditRequestContext}
    : Spec services regime i
        (fun world =>
          Idle world i
          ∧ (¬ regime.deletes → (sessionAt world.committed current.sessionId).isSome))
        (replayDetected services current rotatedAt auditContext) (fun _ _ => False)
        (ReplayEnded regime i current.sessionId) := by
  let session (k : UUID) : Prop := k = current.sessionId
  have tame : Tame services regime i (Sealed regime i session) := Sealed.tame session
  have stormy : ¬ regime.calm → ∀ failure world, Sealed regime i session world
      → ReplayEnded regime i current.sessionId failure world := by
    intro stormy failure world ready
    exact {
      withheld := withheld_of_noToken ready.revoking.noToken
      kind := fun calm => absurd calm stormy
    }
  unfold replayDetected
  apply Spec.bind
  · apply revoke_spec.weaken (fun _ holds => holds) (fun _ _ holds => holds)
    intro failure world thwarted
    exact {
      withheld := withheld_of_noToken thwarted.noToken
      kind := fun calm lasting => absurd ⟨calm, lasting⟩ thwarted.why
    }
  intro _
  apply Spec.bind
  · exact Spec.weaken
      (audited_spec tame (Sealed.eventProof session) (fun _ => newUuid_spec tame) stormy)
      (fun world holds => ⟨fun k same => same ▸ holds.2, holds.1⟩) (fun _ _ holds => holds)
      (fun _ _ failed => failed)
  intro _
  apply Spec.bind
    (audited_spec tame (Sealed.eventProof session) (fun _ => newUuid_spec tame) stormy)
  intro _
  apply Spec.bind (commitRevocation_spec session)
  intro _
  apply Spec.throw ((Tame.all fun k => .imp fun _ => .revoked k).and Tame.noToken)
  intro world holds
  exact {
    withheld := withheld_of_noToken holds.2
    kind := fun _ _ => ⟨⟨_, rfl⟩, holds.1 current.sessionId rfl⟩
  }

-----------------------------------------------------------------------------------------
-- Rotation
-----------------------------------------------------------------------------------------

/-- The token with the digest was replaced by the token that call `i` inserted. -/
def World.Spent (world : World) (i : Nat) (digest : RefreshTokenDigest) : Prop :=
  ∃ k token new,
    tokenAt world.committed k = some token
    ∧ token.tokenDigest = digest
    ∧ (i, new) ∈ world.mintedTokens
    ∧ token.replacedByTokenId = some new.id

theorem Tame.spent (lasting : ¬ regime.deletes) (digest : RefreshTokenDigest)
    : Tame services regime i (fun world => world.Spent i digest) := by
  rintro before after invariant keeps ⟨k, token, new, found, same, minted, pointed⟩
  obtain ⟨later, found', alike, pointed'⟩ := keeps.consumed lasting k token new.id found pointed
  exact ⟨k, later, new, found', alike.digest.trans same, keeps.mintedTokens minted, pointed'⟩

/-- The commit of a rotation leaves the old token replaced. -/
theorem Rotating.spent {old new : RefreshTokenRecord} {rotatedAt : Timestamp}
    (rotating : Rotating services world i old new rotatedAt) (ledger : Ledger services world)
    : (world.publish i).Spent i old.tokenDigest := by
  have different : old.id ≠ new.id := by
    intro same
    have fresh := rotating.fresh
    rw [← same, rotating.known] at fresh
    contradiction
  refine ⟨old.id, old.consumed rotatedAt new.id, new, ?_, rfl, rotating.minted, rfl⟩
  have found := (rotating.rotates ledger).tokens old.id
  rw [if_neg different, if_pos rfl] at found
  exact found

/-- What a successful refresh has done. -/
structure Refreshed (regime : Regime) (i : Nat) (digest : RefreshTokenDigest)
    (pair : TokenPair) (world : World)
    : Prop where
  spent : ¬ regime.deletes → world.Spent i digest
  origin
    : ∃ j minted,
        (j, minted) ∈ world.mintedTokens
        ∧ minted.tokenDigest = digest
        ∧ minted.sessionId = pair.sessionId
  undoomed : ¬ Doomed regime pair.sessionId

theorem Refreshed.tame (digest : RefreshTokenDigest) (pair : TokenPair)
    : Tame services regime i (Refreshed regime i digest pair) := by
  intro before after invariant keeps refreshed
  obtain ⟨j, minted, member, origin⟩ := refreshed.origin
  exact {
    spent := fun lasting =>
      Tame.spent lasting digest before after invariant keeps (refreshed.spent lasting)
    origin := ⟨j, minted, keeps.mintedTokens member, origin⟩
    undoomed := refreshed.undoomed
  }

/-- The runs in which a refresh is refused only as it is meant to be. -/
def Plain (services : Services) (regime : Regime) : Prop :=
  regime.calm ∧ regime.smooth ∧ ¬ regime.deletes ∧ services.Issues

/-- The replacement that `RefreshSession` builds is always accepted. -/
theorem replacement_made (services : Services) {digest newDigest : RefreshTokenDigest}
    {rotatedAt : Timestamp} {current : RefreshTokenRecord} {session : AuthSession} {id : UUID}
    (read : TokenRead regime digest current world)
    (active : ActiveSession regime current.sessionId rotatedAt session world)
    (other : newDigest ≠ current.tokenDigest) (nonzero : id ≠ 0)
    : ∃ new,
        current.replacement id newDigest rotatedAt
          (min (rotatedAt + services.policy.refreshTokenLifetime) session.expiresAt) = .ok new
        ∧ new.id = id
        ∧ new.tokenDigest = newDigest
        ∧ Replaces services rotatedAt current new world := by
  obtain ⟨j, minted, member, alike⟩ := read.minted
  obtain ⟨j', parent, member', alike'⟩ := active.read.minted
  let new : RefreshTokenRecord := {
    id
    sessionId := current.sessionId
    tokenFamilyId := current.tokenFamilyId
    tokenDigest := newDigest
    generation := current.generation + 1
    issuedAt := rotatedAt
    expiresAt := min (rotatedAt + services.policy.refreshTokenLifetime) session.expiresAt
    usedAt := none
    revokedAt := none
    replacedByTokenId := none
  }
  have valid : new.Valid := {
    id := nonzero
    session := read.valid.session
    family := read.valid.family
    expires :=
      Int.lt_min.mpr ⟨Int.lt_add_of_pos_right _ services.policy.refresh_pos, active.current⟩
    used := fun _ impossible => by contradiction
    revoked := fun _ impossible => by contradiction
  }
  refine ⟨new, ?_, rfl, rfl, ?_⟩
  · unfold RefreshTokenRecord.replacement
    rw [if_neg other]
    exact RefreshTokenRecord.postInit_eq_ok.mpr ⟨valid, rfl⟩
  · exact {
      known := ⟨j, minted, member, alike⟩
      parent := ⟨j', parent, member', alike'.id.symm.trans active.read.id,
        by rw [← alike'.expires]⟩
      other := other
      session := rfl
      family := rfl
      generation := rfl
      live := ⟨rfl, rfl⟩
      unreplaced := rfl
      issued := rfl
      valid := valid
    }

/-- The transaction of a rotation is audited and committed. -/
theorem concludeRotation_spec {digest : RefreshTokenDigest} {rotatedAt : Timestamp}
    {new : RefreshTokenRecord} {actorUserId sessionId : Option UUID}
    {auditContext : AuditRequestContext} {pair : TokenPair}
    : Spec services regime i
        (fun world =>
          ∃ old, Rotating services world i old new rotatedAt ∧ old.tokenDigest = digest)
        (do
          audited services newUuid .sessionRefreshed .success rotatedAt actorUserId sessionId
            auditContext []
          commit
          return pair)
        (fun result world =>
          (¬ regime.deletes → world.Spent i digest) ∧ result.sessionId = pair.sessionId)
        (Refused (Plain services regime) i) := by
  let ready (world : World) : Prop :=
    (∃ old, Rotating services world i old new rotatedAt ∧ old.tokenDigest = digest)
    ∧ world.Withheld i
  have tame : Tame services regime i ready :=
    (Tame.ex fun old => (Rotating.tame old new rotatedAt).and (.const _)).and .withheld
  have proof : EventProof i ready := by
    rintro before after besides ⟨⟨old, rotating, same⟩, withheld⟩
    exact ⟨⟨old, Rotating.eventProof old new rotatedAt before after besides rotating, same⟩,
      Withheld.eventProof before after besides withheld⟩
  apply Spec.learn (fun world invariant ⟨old, rotating, _⟩ => rotating.withheld invariant.ledger)
  apply Spec.bind (audited_spec tame proof (fun _ => newUuid_spec tame) ?_)
  · intro _
    have spent : Tame services regime i (fun world =>
        ¬ regime.deletes → world.Spent i digest) := .imp fun lasting => .spent lasting digest
    apply Spec.bind (commit_spec tame spent ?_ ?_)
    · intro _
      exact Spec.pure spent (fun world holds => ⟨holds, rfl⟩)
    · rintro world _ ⟨⟨old, rotating, _⟩, _⟩
      exact .rotating old new rotatedAt rotating
    · rintro world invariant ⟨⟨old, rotating, rfl⟩, _⟩ _
      exact rotating.spent invariant.ledger
  · intro stormy failure world holds
    exact { withheld := holds.2, kind := fun plain => absurd plain.1 stormy }

/-- The statements of a rotation, once the replacement is built. -/
theorem issueAndRotate_spec {current new : RefreshTokenRecord} {rotatedAt : Timestamp}
    {session : AuthSession} {token : Text} {auditContext : AuditRequestContext}
    (user : session.userId ≠ 0) (parent : session.id = new.sessionId)
    : Spec services regime i
        (fun world =>
          (Idle world i ∧ world.DrawnBy i new.id
            ∧ world.GeneratedBy services i new.tokenDigest)
          ∧ Replaces services rotatedAt current new world)
        (do
          let (accessToken, accessExpiresAt) ←
            issueAccessToken services session.userId session.id rotatedAt
          let _ ←
            SessionRepository.rotateRefreshToken session.id current.tokenDigest
              current.generation new rotatedAt
          audited services newUuid .sessionRefreshed .success rotatedAt (some session.userId)
            (some session.id) auditContext []
          commit
          return {
            accessToken
            refreshToken := token
            sessionId := session.id
            accessTokenExpiresAt := accessExpiresAt
            refreshTokenExpiresAt := new.expiresAt
          })
        (fun pair world =>
          (¬ regime.deletes → world.Spent i current.tokenDigest)
          ∧ TokenPair.sessionId pair = new.sessionId)
        (Refused (Plain services regime) i) := by
  have stable : Tame services regime i (fun world =>
      (Idle world i ∧ world.DrawnBy i new.id
        ∧ world.GeneratedBy services i new.tokenDigest)
      ∧ Replaces services rotatedAt current new world) :=
    (Idle.tame.and ((Tame.drawnBy _).and (.generatedBy _))).and
      (Replaces.tame rotatedAt current new)
  apply Spec.bind (issueAccessToken_spec stable user ?_)
  · rintro ⟨accessToken, accessExpiresAt⟩
    rw [parent]
    apply Spec.bind (rotateRefreshToken_spec (fun plain => plain.2.1))
    intro _
    exact concludeRotation_spec
  · rintro silent failure world ⟨⟨idle, _⟩, _⟩
    exact { withheld := idle.withheld, kind := fun plain => absurd plain.2.2.2 silent }

/-- A token of an active session is rotated, or the refresh is refused. -/
theorem rotateActive_spec {digest : RefreshTokenDigest} {current : RefreshTokenRecord}
    {rotatedAt : Timestamp} {auditContext : AuditRequestContext} {session : AuthSession}
    : Spec services regime i
        (fun world =>
          (Idle world i ∧ TokenRead regime digest current world)
          ∧ ActiveSession regime current.sessionId rotatedAt session world)
        (do
          let (token, newDigest) ← newRefreshCredential services
          let replacementId ← newTypedId "Refresh token identifier"
          let replacement ←
            liftExcept
              (current.replacement replacementId newDigest rotatedAt
                (min (rotatedAt + services.policy.refreshTokenLifetime) session.expiresAt))
          let (accessToken, accessExpiresAt) ←
            issueAccessToken services session.userId session.id rotatedAt
          let _ ←
            SessionRepository.rotateRefreshToken session.id digest current.generation replacement
              rotatedAt
          audited services newUuid .sessionRefreshed .success rotatedAt (some session.userId)
            (some session.id) auditContext []
          commit
          return {
            accessToken
            refreshToken := token
            sessionId := session.id
            accessTokenExpiresAt := accessExpiresAt
            refreshTokenExpiresAt := replacement.expiresAt
          })
        (Refreshed regime i digest) (Refused (Plain services regime) i) := by
  let found (world : World) : Prop :=
    (Idle world i ∧ TokenRead regime digest current world)
    ∧ ActiveSession regime current.sessionId rotatedAt session world
  have stable : Tame services regime i found :=
    (Idle.tame.and (TokenRead.tame digest current)).and (ActiveSession.tame _ rotatedAt session)
  apply Spec.bind (newRefreshCredential_spec stable)
  rintro ⟨token, newDigest⟩
  have stable : Tame services regime i (fun world =>
      found world ∧ world.GeneratedBy services i newDigest) := stable.and (.generatedBy _)
  have differs : ∀ world, Invariant services regime.toFlags world
      → found world ∧ world.GeneratedBy services i newDigest
      → newDigest ≠ current.tokenDigest := by
    rintro world invariant ⟨⟨⟨idle, read⟩, _⟩, generated⟩ same
    obtain ⟨j, minted, member, alike⟩ := read.minted
    exact idle.minted_digest invariant.ledger generated member (alike.digest.symm.trans same.symm)
  refine Spec.fact differs (fun other => ?_)
  apply Spec.bind (newTypedId_spec stable)
  intro id
  have stable : Tame services regime i (fun world =>
      (found world ∧ world.GeneratedBy services i newDigest)
      ∧ (world.Untaken i id ∧ id ≠ 0)) := stable.and ((Tame.untaken _).and (.const _))
  refine Spec.lifted stable ?_ ?_
  · intro new made
    have facts : ∀ world,
        (found world ∧ world.GeneratedBy services i newDigest)
          ∧ (world.Untaken i id ∧ id ≠ 0)
        → new.id = id ∧ new.tokenDigest = newDigest
          ∧ Replaces services rotatedAt current new world := by
      rintro world ⟨⟨⟨⟨_, read⟩, active⟩, _⟩, _, nonzero⟩
      obtain ⟨new', made', same⟩ := replacement_made services read active other nonzero
      rw [made, Except.ok.injEq] at made'
      exact made' ▸ same
    have constants : ∀ world, Invariant services regime.toFlags world
        → (found world ∧ world.GeneratedBy services i newDigest)
            ∧ (world.Untaken i id ∧ id ≠ 0)
        → new.id = id ∧ new.tokenDigest = newDigest ∧ current.tokenDigest = digest
          ∧ session.userId ≠ 0 ∧ session.id = new.sessionId ∧ ¬ Doomed regime new.sessionId := by
      intro world _ holds
      obtain ⟨same, same', replaces⟩ := facts world holds
      have active := holds.1.1.2
      refine ⟨same, same', holds.1.1.1.2.digest, active.read.valid.user, ?_, ?_⟩
      · exact active.read.id.trans replaces.session.symm
      · rw [replaces.session]
        exact active.undoomed
    refine Spec.fact constants (fun ⟨same, same', read, user, parent, undoomed⟩ => ?_)
    subst same same' read
    apply (Spec.frame (Replaces.tame rotatedAt current new) ?_
      (issueAndRotate_spec user parent)).weaken
    · intro world holds
      have replaces := (facts world holds).2.2
      exact ⟨⟨⟨holds.1.1.1.1, holds.2.1.drawn, holds.1.2⟩, replaces⟩, replaces⟩
    · rintro pair world ⟨⟨spent, owner⟩, replaces⟩
      obtain ⟨j, minted, member, alike⟩ := replaces.known
      refine {
        spent := spent
        origin := ⟨j, minted, member, alike.digest.symm, ?_⟩
        undoomed := owner ▸ undoomed
      }
      exact alike.session.symm.trans (replaces.session.symm.trans owner.symm)
    · exact fun _ _ failed => failed.1
    · intro op now answer after invariant ran replaces
      exact replaces.remembers (exec_remembers invariant.coherent ran)
  · rintro failure made world ⟨⟨⟨⟨_, read⟩, active⟩, _⟩, _, nonzero⟩
    obtain ⟨new, made', _⟩ := replacement_made services read active other nonzero
    rw [made] at made'
    contradiction

/-- A current token is rotated, or the refresh is refused. -/
theorem rotateCurrent_spec {digest : RefreshTokenDigest} {current : RefreshTokenRecord}
    {rotatedAt : Timestamp} {auditContext : AuditRequestContext}
    : Spec services regime i
        (fun world => Idle world i ∧ TokenRead regime digest current world)
        (rotateCurrent services digest current rotatedAt auditContext)
        (Refreshed regime i digest) (Refused (Plain services regime) i) := by
  have stable : Tame services regime i (fun world =>
      Idle world i ∧ TokenRead regime digest current world) :=
    Idle.tame.and (TokenRead.tame digest current)
  unfold rotateCurrent
  apply Spec.bind (getActiveById_spec stable (fun _ holds => holds.1))
  intro result
  match result with
  | none =>
      refine Spec.throw (stable.and (.all fun session => .imp fun _ =>
        ActiveSession.tame _ rotatedAt session)) (fun world holds => ?_)
      exact { withheld := holds.1.1.withheld, kind := fun _ => rfl }
  | some session =>
      suffices rest : Spec services regime i (fun world =>
          (Idle world i ∧ TokenRead regime digest current world)
          ∧ ActiveSession regime current.sessionId rotatedAt session world) _
          (Refreshed regime i digest) (Refused (Plain services regime) i) from
        rest.weaken (fun world holds => ⟨holds.1, holds.2 session rfl⟩)
          (fun _ _ holds => holds) (fun _ _ failed => failed)
      exact rotateActive_spec

-----------------------------------------------------------------------------------------
-- RefreshSession
-----------------------------------------------------------------------------------------

/-- How a refresh ends that raises. -/
structure RefreshFailed (services : Services) (regime : Regime) (i : Nat)
    (digest : RefreshTokenDigest) (failure : Fault) (world : World)
    : Prop where
  refused : Refused (Plain services regime) i failure world
  replay
    : ∃ db,
        (world.store.history i).opened = some db
        ∧ ∀ token ∈ withDigest db digest,
            token.usedAt.isSome
            → regime.calm
            → ¬ regime.deletes
            → (∃ message, failure = .refreshTokenReplay message)
              ∧ world.Revoked regime.deletes token.sessionId

theorem RefreshFailed.tame (digest : RefreshTokenDigest) (failure : Fault)
    : Tame services regime i (RefreshFailed services regime i digest failure) := by
  intro before after invariant keeps failed
  obtain ⟨db, opened, replay⟩ := failed.replay
  refine {
    refused := Refused.tame _ failure before after invariant keeps failed.refused
    replay := ⟨db, keeps.opened db opened, ?_⟩
  }
  intro token member used calm lasting
  exact (replay token member used calm lasting).imp_right
    (Tame.revoked token.sessionId before after invariant keeps)

theorem World.Dead.retract {k : UUID} (dead : world.Dead k) : (world.retract i).Dead k where
  minted := dead.minted
  committed := dead.committed
  pending j row put here := dead.pending j row (World.retract_member put) here

theorem World.Revoked.retract {deletes : Prop} {k : UUID} (revoked : world.Revoked deletes k)
    : (world.retract i).Revoked deletes k where
  dead := revoked.dead.retract
  present := revoked.present

theorem RefreshFailed.retract {digest : RefreshTokenDigest} {failure : Fault}
    (failed : RefreshFailed services regime i digest failure world)
    : RefreshFailed services regime i digest failure (world.retract i) := by
  obtain ⟨db, opened, replay⟩ := failed.replay
  refine {
    refused := { failed.refused with withheld := failed.refused.withheld.retract }
    replay := ⟨db, opened, ?_⟩
  }
  intro token member used calm lasting
  exact (replay token member used calm lasting).imp_right World.Revoked.retract

/-- A refusal that does not concern a used token. -/
theorem Refused.failed {digest : RefreshTokenDigest} {failure : Fault} {db : Database}
    (refused : Refused (Plain services regime) i failure world)
    (opened : (world.store.history i).opened = some db)
    (unused : ∀ token ∈ withDigest db digest, token.usedAt = none)
    : RefreshFailed services regime i digest failure world where
  refused := refused
  replay := ⟨db, opened, fun token member used => by simp [unused token member] at used⟩

/-- The call first saw the token unused, if it saw it at all. -/
def ReadUnused (i : Nat) (digest : RefreshTokenDigest) (world : World) : Prop :=
  ∃ db, (world.store.history i).opened = some db
    ∧ ∀ token ∈ withDigest db digest, token.usedAt = none

theorem ReadUnused.tame (digest : RefreshTokenDigest)
    : Tame services regime i (ReadUnused i digest) :=
  .ex fun db => (Tame.opened db).and (.const _)

/-- What a refresh does after it has read the token. -/
theorem refreshRead_spec {digest : RefreshTokenDigest} {rotatedAt : Timestamp}
    {auditContext : AuditRequestContext} {result : Option RefreshTokenRecord} {db : Database}
    : Spec services regime i
        (fun world =>
          (Idle world i ∧ withDigest db digest = result.toList
            ∧ ∀ token, result = some token → TokenRead regime digest token world)
          ∧ (world.store.history i).opened = some db)
        (match result with
          | none => throw (.invalidRefreshToken "Refresh token is invalid.")
          | some current =>
              if current.usedAt.isSome || current.replacedByTokenId.isSome then
                replayDetected services current rotatedAt auditContext
              else if current.revokedAt.isSome then
                throw (.invalidRefreshToken "Refresh token is invalid.")
              else if current.isExpired rotatedAt then
                throw (.expiredRefreshToken "Refresh token has expired.")
              else rotateCurrent services digest current rotatedAt auditContext)
        (fun pair world => Refreshed regime i digest pair world ∧ ReadUnused i digest world)
        (RefreshFailed services regime i digest) := by
  have stable : Tame services regime i (fun world =>
      (Idle world i ∧ withDigest db digest = result.toList
        ∧ ∀ token, result = some token → TokenRead regime digest token world)
      ∧ (world.store.history i).opened = some db) :=
    (Idle.tame.and ((Tame.const _).and (.all fun token => .imp fun _ =>
      TokenRead.tame digest token))).and (.opened db)
  refine Spec.fact (fun world _ holds => holds.1.2.1) (fun rows => ?_)
  match result with
  | none =>
      refine Spec.throw stable (fun world holds => ?_)
      refine Refused.failed ⟨holds.1.1.withheld, fun _ => rfl⟩ holds.2 ?_
      simp [rows]
  | some current =>
      refine Spec.fact (fun world _ holds => (holds.1.2.2 current rfl).used) (fun same => ?_)
      by_cases used : current.usedAt.isSome
      · simp only [used, Bool.true_or, if_true]
        apply (Spec.opened db replayDetected_spec).weaken
        · rintro world ⟨⟨idle, _, read⟩, opened⟩
          exact ⟨⟨idle, (read current rfl).present⟩, opened⟩
        · exact fun _ _ holds => holds.1.elim
        · rintro failure world ⟨ended, opened⟩
          refine { refused := ⟨ended.withheld, fun plain => ?_⟩, replay := ⟨db, opened, ?_⟩ }
          · obtain ⟨⟨message, rfl⟩, _⟩ := ended.kind plain.1 plain.2.2.1
            rfl
          · intro token member _ calm lasting
            rw [rows, Option.toList_some, List.mem_singleton] at member
            exact member ▸ ended.kind calm lasting
      · have unused : ∀ token ∈ withDigest db digest, token.usedAt = none := by
          intro token member
          rw [rows, Option.toList_some, List.mem_singleton] at member
          simpa [member] using used
        have unreplaced : current.replacedByTokenId.isSome = false := by
          rw [← same]
          simpa using used
        simp only [Bool.not_eq_true] at used
        simp only [used, unreplaced, Bool.or_false, Bool.false_eq_true, if_false]
        split
        · refine Spec.throw stable (fun world holds => ?_)
          exact Refused.failed ⟨holds.1.1.withheld, fun _ => rfl⟩ holds.2 unused
        split
        · refine Spec.throw stable (fun world holds => ?_)
          exact Refused.failed ⟨holds.1.1.withheld, fun _ => rfl⟩ holds.2 unused
        · apply (Spec.opened db rotateCurrent_spec).weaken
          · rintro world ⟨⟨idle, _, read⟩, opened⟩
            exact ⟨⟨idle, read current rfl⟩, opened⟩
          · exact fun _ _ holds => ⟨holds.1, db, holds.2, unused⟩
          · exact fun failure world failed => Refused.failed failed.1 failed.2 unused

/-- A refresh rotates an unused token, or is refused with nothing of it committed. -/
theorem refreshSession_spec (command : RefreshSessionCommand)
    : Spec services regime i (fun world => Idle world i ∧ Unopened world i)
        (refreshSession services command)
        (fun pair world =>
          Refreshed regime i (services.digestToken command.refreshToken) pair world
          ∧ ReadUnused i (services.digestToken command.refreshToken) world)
        (RefreshFailed services regime i (services.digestToken command.refreshToken)) := by
  let failed := RefreshFailed services regime i (services.digestToken command.refreshToken)
  have tame (failure : Fault) : Tame services regime i (failed failure) :=
    RefreshFailed.tame _ failure
  suffices body : Spec services regime i (fun world => Idle world i ∧ Unopened world i) _
      (fun pair world =>
        Refreshed regime i (services.digestToken command.refreshToken) pair world
        ∧ ReadUnused i (services.digestToken command.refreshToken) world)
      failed by
    apply Triple.tryCatch (discipline_coherent services regime).toOrdered body
    · intro failure
      split
      · exact Spec.throw (tame _) (fun _ holds => holds)
      · apply Spec.bind
          (rollback_spec (tame failure) (tame failure) (fun _ _ holds => holds.retract))
        intro _
        exact Spec.throw (tame failure) (fun _ holds => holds)
    · exact fun _ _ _ holds => holds
  apply Spec.bind (clockNow_unopened Idle.tame)
  intro rotatedAt
  apply Spec.bind getRefreshTokenByDigest_spec
  intro result
  exact Spec.exists fun db => refreshRead_spec

end WorkflowForge.Identity
