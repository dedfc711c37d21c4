import WorkflowForge.Identity.Updates

/-! Revoking sessions with their refresh tokens. The bulk UPDATE of the tokens works through
the rows of its snapshot one by one, so its loop invariant says which of them are left.
-/

namespace WorkflowForge.Identity

open Python Transactions Concurrency

variable {services : Services} {regime : Regime} {i : Nat} {world after : World}
variable {raised : Fault → World → Prop}

-----------------------------------------------------------------------------------------
-- A revocation under way
-----------------------------------------------------------------------------------------

/-- The call has stamped rows and inserted no token; the live tokens of every session that it
revokes are stamped, but for the sessions in `todo`. -/
structure Revoking (world : World) (settles : Prop) (i : Nat) (todo : List UUID) : Prop where
  stamping : Stamping world i
  covers : world.Covers settles i todo
  noToken : ∀ row, (i, row) ∉ world.mintedTokens

theorem Revoking.tame (todo : List UUID)
    : Tame services regime i (fun world => Revoking world regime.settles i todo) := by
  intro before after invariant keeps revoking
  exact {
    stamping := Stamping.tame before after invariant keeps revoking.stamping
    covers := Tame.covers todo before after invariant keeps revoking.covers
    noToken := Tame.noToken before after invariant keeps revoking.noToken
  }

theorem Revoking.eventProof {settles : Prop} (todo : List UUID)
    : EventProof i (fun world => Revoking world settles i todo) := by
  intro before after besides revoking
  exact {
    stamping := Stamping.eventProof before after besides revoking.stamping
    covers := EventProof.covers todo before after besides revoking.covers
    noToken := besides.mintedTokens ▸ revoking.noToken
  }

theorem Idle.revoking (idle : Idle world i) (settles : Prop) (todo : List UUID)
    : Revoking world settles i todo where
  stamping := idle.stamping
  covers := idle.covers settles todo
  noToken := idle.noToken

/-- A session whose live tokens are stamped is done. -/
theorem Revoking.settle {settles : Prop} {session : UUID} {todo : List UUID}
    (revoking : Revoking world settles i (session :: todo))
    (chased : settles → world.Chased i session [])
    : Revoking world settles i todo where
  stamping := revoking.stamping
  noToken := revoking.noToken
  covers known row member := by
    rcases revoking.covers known row member with listed | done
    · rcases List.mem_cons.mp listed with same | later
      · exact .inr (same ▸ chased known)
      · exact .inl later
    · exact .inr done

theorem Revoking.mono {settles : Prop} {todo more : List UUID}
    (revoking : Revoking world settles i todo) (sub : todo ⊆ more)
    : Revoking world settles i more where
  stamping := revoking.stamping
  noToken := revoking.noToken
  covers known row member :=
    (revoking.covers known row member).elim (fun listed => .inl (sub listed)) .inr

/-- Stamping one more token. -/
theorem Revoking.stage_token {settles : Prop} {todo : List UUID}
    (revoking : Revoking world settles i todo) {row old : RefreshTokenRecord}
    (known : tokenAt world.committed row.id = some old) (stamps : row.Stamps old)
    : Revoking { world with store := world.store.stage i (putToken row) } settles i todo where
  stamping := revoking.stamping.stage_token known stamps
  noToken := revoking.noToken
  covers know session member := by
    rw [show World.own { world with store := world.store.stage i (putToken row) } i
      = world.own i ++ [putToken row] from Store.stage_own_self world.store i _] at member
    have old : putSession session ∈ world.own i := by simpa using member
    refine (revoking.covers know session old).imp_right ?_
    exact Growing.chased session.id [] _ _ (grows_stage fun _ impossible => by cases impossible)

/-- Revoking one more session that is on the list. -/
theorem Revoking.stage_session {settles : Prop} {todo : List UUID}
    (revoking : Revoking world settles i todo) {row old : AuthSession} (stamps : row.Stamps old)
    (known : sessionAt world.committed row.id = some old) (listed : row.id ∈ todo)
    : Revoking { world with store := world.store.stage i (putSession row) } settles i todo where
  stamping := revoking.stamping.stage_session known stamps
  noToken := revoking.noToken
  covers know session member := by
    rw [show World.own { world with store := world.store.stage i (putSession row) } i
      = world.own i ++ [putSession row] from Store.stage_own_self world.store i _,
      List.mem_append, List.mem_singleton] at member
    rcases member with earlier | same
    · refine (revoking.covers know session earlier).imp_right ?_
      refine Growing.chased session.id [] _ _ (grows_stage ?_)
      intro other put
      cases put
      exact stamps.stamped
    · cases same
      exact .inl listed

-----------------------------------------------------------------------------------------
-- One token
-----------------------------------------------------------------------------------------

/-- A token that the UPDATE does not match needs no stamp. -/
theorem Chased.missed {session k : UUID} {rest : List UUID} {revokedAt : Timestamp}
    (chased : world.Chased i session (k :: rest)) (stamping : Stamping world i)
    (unconsumed : ∀ token, tokenAt (world.store.view i) k = some token → token.usedAt = none)
    (missing
      : (tokenAt (world.store.view i) k).bind
          (RowUpdate.revokeRefreshToken k session revokedAt).change
        = none)
    : world.Chased i session rest := by
  refine { present := chased.present, chased := ?_ }
  rcases chased.chased with every | ⟨k', listed, token, found, used⟩
  · refine .inl ?_
    intro j token found sibling live
    rcases every j token found sibling live with listed | stamped
    · rcases List.mem_cons.mp listed with same | later
      · subst same
        rcases token_view stamping.kept j with ⟨same, _⟩ | ⟨row, put, here, _⟩
        · rw [same, found] at missing
          have matched : token.sessionId = session ∧ token.usedAt = none ∧ token.revokedAt = none :=
            ⟨sibling, live⟩
          simp [RowUpdate.change, matched] at missing
        · exact .inr ⟨row, put, here⟩
      · exact .inl later
    · exact .inr stamped
  · rcases List.mem_cons.mp listed with same | later
    · subst same
      exfalso
      rcases token_view stamping.kept k' with ⟨same, _⟩ | ⟨row, put, here, found'⟩
      · have unused := unconsumed token (same.trans found)
        simp [unused] at used
      · obtain ⟨old, known, stamps⟩ := stamping.tokens row put
        rw [here, found, Option.some.injEq] at known
        subst known
        simp [stamps.unused] at used
    · exact .inr ⟨k', later, token, found, used⟩

/-- A stamped token is off the list. -/
theorem Chased.stamped {session : UUID} {rest : List UUID} {row old : RefreshTokenRecord}
    (chased : world.Chased i session (row.id :: rest))
    (known : tokenAt world.committed row.id = some old) (unused : old.usedAt = none)
    : World.Chased { world with store := world.store.stage i (putToken row) } i session rest := by
  refine { present := chased.present, chased := ?_ }
  have own : World.own { world with store := world.store.stage i (putToken row) } i
      = world.own i ++ [putToken row] := Store.stage_own_self world.store i _
  rcases chased.chased with every | ⟨k', listed, token, found, used⟩
  · refine .inl ?_
    intro j token found sibling live
    rw [own]
    rcases every j token found sibling live with listed | ⟨other, put, here⟩
    · rcases List.mem_cons.mp listed with same | later
      · exact .inr ⟨row, by simp, same.symm⟩
      · exact .inl later
    · exact .inr ⟨other, List.mem_append_left _ put, here⟩
  · rcases List.mem_cons.mp listed with same | later
    · subst same
      rw [known, Option.some.injEq] at found
      subst found
      simp [unused] at used
    · exact .inr ⟨k', later, token, found, used⟩

/-- What a revocation that fails leaves. -/
def RevocationFailed (calm : Prop) (i : Nat) (failure : Fault) (world : World) : Prop :=
  failure.ofUpdate ∧ (∀ row, (i, row) ∉ world.mintedTokens) ∧ ¬ calm

/-- A revocation stamps the token, finds it spent, is refused for its date, or is ended by the
deadlock detector. -/
theorem revokeToken_spec {pre : World → Prop} {k session : UUID} {revokedAt : Timestamp}
    {rest todo : List UUID} (tame : Tame services regime i pre) (growing : Growing i pre)
    : Spec services regime i
        (fun world =>
          pre world ∧ Revoking world regime.settles i todo
          ∧ (regime.settles → world.Chased i session (k :: rest)))
        (update (.revokeRefreshToken k session revokedAt))
        (fun _ world =>
          pre world ∧ Revoking world regime.settles i todo
          ∧ (regime.settles → world.Chased i session rest))
        (RevocationFailed regime.calm i) := by
  apply update_spec
  · exact tame.and ((Revoking.tame todo).and (.imp fun settles => .chased settles _ _))
  · intro _
    exact tame.and ((Revoking.tame todo).and (.imp fun settles => .chased settles _ _))
  · exact Tame.noToken.and (.const _)
  · intro world invariant ⟨holds, revoking, chased⟩ admitted missing
    refine ⟨holds, revoking, fun settles => ?_⟩
    exact Chased.missed (chased settles) revoking.stamping
      (regime.unconsumed settles i k session revokedAt world admitted) missing
  · rintro world _ ⟨_, revoking, _⟩ admitted deadlock
    exact ⟨revoking.noToken, regime.undisturbed_of_calm admitted deadlock⟩
  · intro world (old : RefreshTokenRecord) (row : RefreshTokenRecord) invariant
    rintro ⟨_, revoking, _⟩ admitted found changed why
    refine ⟨revoking.noToken, fun calm => ?_⟩
    obtain ⟨_, live, rfl⟩ := revokeToken_row changed
    have dated : old.issuedAt ≤ revokedAt := by
      have stampable := (regime.stamped calm i _ _ admitted).2
      simp only [Identity.stampable] at stampable
      rw [show tokenAt (world.store.view i) k = some old from found] at stampable
      change (!decide old.Live || decide (old.issuedAt ≤ revokedAt)) = true at stampable
      simpa [live] using stampable
    obtain ⟨distinct, sound, fits⟩ := revoking.stamping.token_allowed invariant found live dated
    rcases why with moved | duplicate | unsound | wide
    · exact moved (Db.find?_key found)
    · exact absurd (distinct.symm.trans duplicate) (by decide)
    · exact absurd (sound.symm.trans unsound) (by decide)
    · exact absurd (fits.symm.trans wide) (by decide)
  · intro world (old : RefreshTokenRecord) (row : RefreshTokenRecord) invariant
    rintro ⟨holds, revoking, chased⟩ admitted found changed here sound
    obtain ⟨_, live, rfl⟩ := revokeToken_row changed
    have known := revoking.stamping.token_committed found live.2
    have valid := invariant.lineage.validTokens k old known
    have dated : old.issuedAt ≤ revokedAt := by
      have checks : rowSound (world.store.view i) .refreshTokens
        { old with revokedAt := some revokedAt } = true := sound
      simp only [rowSound, Bool.and_eq_true] at checks
      simpa using checks.2
    have id : old.id = k := Db.find?_key found
    rw [← id] at known chased
    have stamps : RefreshTokenRecord.Stamps { old with revokedAt := some revokedAt } old := {
      same := rfl
      stamped := rfl
      unused := live.1
      valid := {
        id := valid.id
        session := valid.session
        family := valid.family
        expires := valid.expires
        used := valid.used
        revoked := fun stamp same => by
          simp only [Option.some.injEq] at same
          exact same ▸ dated
      }
    }
    refine ⟨?_, revoking.stage_token known stamps, ?_⟩
    · exact growing world _ (grows_stage fun _ impossible => by cases impossible) holds
    · intro settles
      exact Chased.stamped (chased settles) known live.1

-----------------------------------------------------------------------------------------
-- The tokens of a session
-----------------------------------------------------------------------------------------

/-- The snapshot of the bulk UPDATE holds every live token of the session. -/
theorem Stamping.chased (stamping : Stamping world i) {session : UUID}
    (present : (sessionAt world.committed session).isSome)
    : world.Chased i session
        ((currentRefreshTokens (world.store.view i) session).map RefreshTokenRecord.id) := by
  refine { present, chased := .inl ?_ }
  intro k token found sibling live
  rcases token_view stamping.kept k with ⟨same, _⟩ | ⟨row, put, here, _⟩
  · rw [found] at same
    have id : token.id = k := Db.find?_key found
    refine .inl (List.mem_map.mpr ⟨token, ?_, id⟩)
    refine List.mem_filter.mpr ⟨Db.mem_of_find? same, ?_⟩
    simp [sibling, live.1, live.2]
  · exact .inr ⟨row, put, here⟩

theorem revokeTokens_spec {pre : World → Prop} {session : UUID} {revokedAt : Timestamp}
    {todo : List UUID} (tame : Tame services regime i pre) (growing : Growing i pre)
    (tokens : List RefreshTokenRecord)
    : Spec services regime i
        (fun world =>
          pre world ∧ Revoking world regime.settles i todo
          ∧ (regime.settles → world.Chased i session (tokens.map RefreshTokenRecord.id)))
        (forEach
          (fun (token : RefreshTokenRecord) => do
            let _ ← update (.revokeRefreshToken token.id session revokedAt)
            return ())
          tokens)
        (fun _ world =>
          pre world ∧ Revoking world regime.settles i todo
          ∧ (regime.settles → world.Chased i session []))
        (RevocationFailed regime.calm i) := by
  have stable (rest : List UUID) : Tame services regime i (fun world =>
      pre world ∧ Revoking world regime.settles i todo
      ∧ (regime.settles → world.Chased i session rest)) :=
    tame.and ((Revoking.tame todo).and (.imp fun settles => .chased settles _ _))
  induction tokens with
  | nil => exact Spec.pure (stable _) (fun _ holds => holds)
  | cons token rest ih =>
      refine Spec.bind ?_ (fun _ => ih)
      apply Spec.bind (revokeToken_spec tame growing)
      intro _
      exact Spec.pure (stable _) (fun _ holds => holds)

/-- Revoking the current tokens of a session leaves none of them live. -/
theorem revokeCurrentRefreshTokens_spec {pre : World → Prop} {session : UUID}
    {revokedAt : Timestamp} {todo : List UUID} (tame : Tame services regime i pre)
    (growing : Growing i pre)
    : Spec services regime i
        (fun world =>
          pre world ∧ Revoking world regime.settles i todo
          ∧ (regime.settles → (sessionAt world.committed session).isSome))
        (SessionRepository.revokeCurrentRefreshTokens session revokedAt)
        (fun _ world =>
          pre world ∧ Revoking world regime.settles i todo
          ∧ (regime.settles → world.Chased i session []))
        (RevocationFailed regime.calm i) := by
  have stable : Tame services regime i (fun world =>
      pre world ∧ Revoking world regime.settles i todo
      ∧ (regime.settles → (sessionAt world.committed session).isSome)) :=
    tame.and ((Revoking.tame todo).and (.imp fun settles => .present (regime.lasting settles) _))
  unfold SessionRepository.revokeCurrentRefreshTokens
  refine Spec.bind (select_spec
    (fun db world => regime.settles
      → world.Chased i session ((currentRefreshTokens db session).map RefreshTokenRecord.id))
    stable ?_ ?_) ?_
  · exact fun db => .imp fun settles => .chased settles _ _
  · intro world invariant _ ⟨_, revoking, present⟩ _ settles
    exact revoking.stamping.chased (present settles)
  · intro db
    apply (revokeTokens_spec tame growing (currentRefreshTokens db session)).weaken
    · rintro world ⟨⟨holds, revoking, _⟩, chased⟩
      exact ⟨holds, revoking, chased⟩
    · exact fun _ _ holds => holds
    · exact fun _ _ holds => holds

-----------------------------------------------------------------------------------------
-- A session row
-----------------------------------------------------------------------------------------

/-- A session as the call has read it. -/
structure SessionRead (world : World) (k : UUID) (session : AuthSession) : Prop where
  id : session.id = k
  valid : session.Valid
  minted : ∃ j minted, (j, minted) ∈ world.mintedSessions ∧ session.Alike minted
  dead : session.revokedAt.isSome → world.Dead k

theorem SessionRead.tame (k : UUID) (session : AuthSession)
    : Tame services regime i (fun world => SessionRead world k session) := by
  intro before after invariant keeps read
  obtain ⟨j, minted, member, alike⟩ := read.minted
  exact { read with
    minted := ⟨j, minted, keeps.mintedSessions member, alike⟩
    dead := fun stamped => keeps.dead k (read.dead stamped) }

theorem SessionRead.growing (k : UUID) (session : AuthSession)
    : Growing i (fun world => SessionRead world k session) := by
  intro before after grows read
  exact { read with
    minted := grows.mintedSessions ▸ read.minted
    dead := fun stamped => Growing.dead k before after grows (read.dead stamped) }

/-- A session that is committed as revoked stays so. -/
theorem Invariant.dead {flags : Flags} (invariant : Invariant services flags world) {k : UUID}
    {session : AuthSession} (found : sessionAt world.committed k = some session)
    (stamped : session.revokedAt.isSome)
    : world.Dead k := by
  obtain ⟨j, minted, member, alike⟩ := invariant.ledger.sessions k session found
  have id : session.id = k := Db.find?_key found
  refine {
    minted := ⟨j, minted, member, alike.id.symm.trans id⟩
    committed := ?_
    pending := ?_
  }
  · intro other found'
    rw [found, Option.some.injEq] at found'
    exact found' ▸ stamped
  · intro j row put here
    rcases invariant.newSessions j row put with revoked | absent
    · exact revoked
    · rw [here, found] at absent
      contradiction

theorem Invariant.sessionRead {flags : Flags} (invariant : Invariant services flags world)
    {k : UUID} {session : AuthSession} (found : sessionAt world.committed k = some session)
    : SessionRead world k session where
  id := Db.find?_key found
  valid := invariant.lineage.validSessions k session found
  minted := invariant.ledger.sessions k session found
  dead := invariant.dead found

/-- The row that a revocation writes, and why the constraints let it pass. -/
theorem Stamping.session_row (stamping : Stamping world i)
    (invariant : Invariant services regime.toFlags world) {k : UUID}
    {old : AuthSession} {updatedAt revokedAt : Timestamp}
    (found : sessionAt (world.store.view i) k = some old) (dated : old.createdAt ≤ revokedAt)
    (updated : old.createdAt ≤ updatedAt)
    : (∃ base,
        sessionAt world.committed k = some base
        ∧ AuthSession.Stamps { old with updatedAt, revokedAt := some revokedAt } base)
      ∧ rowSound (world.store.view i) .authSessions
          { old with updatedAt, revokedAt := some revokedAt } = true := by
  obtain ⟨base, known, same, _⟩ := stamping.session_committed found
  have valid := invariant.lineage.validSessions k base known
  have home := invariant.homes k base known
  have users : world.store.view i TableName.users = world.committed TableName.users :=
    Store.view_table world.store i (invariant.untouched i)
  have user : old.userId = base.userId := by rw [same]
  have expires : old.createdAt < old.expiresAt := by
    rw [same]
    exact valid.expires
  refine ⟨⟨base, known, ?_⟩, ?_⟩
  · refine { same := ?_, stamped := rfl, valid := ?_ }
    · rw [same]
    · exact {
        id := by rw [same]; exact valid.id
        user := by rw [same]; exact valid.user
        expires := expires
        updated := updated
        revoked := fun stamp stamped => by
          simp only [Option.some.injEq] at stamped
          exact stamped ▸ dated
      }
  · rw [← user] at home
    simpa [rowSound, hasUser, users, expires, updated, dated] using home

/-- A session keeps its creation date. -/
theorem SessionRead.created {k : UUID} {before now : AuthSession}
    (read : SessionRead world k before) (stamping : Stamping world i)
    (ledger : Ledger services world) (found : sessionAt (world.store.view i) k = some now)
    : before.createdAt = now.createdAt := by
  obtain ⟨j, minted, member, alike⟩ := read.minted
  obtain ⟨base, known, same, _⟩ := stamping.session_committed found
  have alike' := ledger.session_expires member known (alike.id.symm.trans read.id)
  rw [same, alike.created]
  exact alike'.created.symm

theorem SessionRead.getD {k : UUID} {before now : AuthSession} {updatedAt : Option Timestamp}
    (read : SessionRead world k before) (stamping : Stamping world i)
    (invariant : Invariant services regime.toFlags world)
    (found : sessionAt (world.store.view i) k = some now)
    (updated : ∀ stamp, updatedAt = some stamp → before.createdAt ≤ stamp)
    : now.createdAt ≤ updatedAt.getD now.updatedAt := by
  cases chosen : updatedAt with
  | some stamp =>
      rw [← read.created stamping invariant.ledger found]
      exact updated stamp chosen
  | none =>
      rcases session_view stamping.kept k with ⟨same, _⟩ | ⟨row, put, _, found'⟩
      · exact (invariant.lineage.validSessions k now (same.symm.trans found)).updated
      · rw [found, Option.some.injEq] at found'
        obtain ⟨_, _, stamps⟩ := stamping.sessions row put
        exact found' ▸ stamps.valid.updated

theorem no_session_duplicates (db : Database) (row : AuthSession)
    : Store.duplicates (S := schema) db TableName.authSessions row = false := by
  simp [Store.duplicates, uniqueClash]

/-- Saving a loaded session revokes it, unless the row is gone. -/
theorem saveSession_spec {k : UUID} {updatedAt : Option Timestamp} {revokedAt : Timestamp}
    {before : AuthSession} (dated : before.createdAt ≤ revokedAt)
    (updated : ∀ stamp, updatedAt = some stamp → before.createdAt ≤ stamp)
    : Spec services regime i
        (fun world =>
          SessionRead world k before ∧ Revoking world regime.settles i []
          ∧ (regime.settles → world.Chased i k [])
          ∧ (¬ regime.deletes → (sessionAt world.committed k).isSome))
        (update (.saveSession k updatedAt revokedAt))
        (fun matched world =>
          Revoking world regime.settles i []
          ∧ (matched = true → world.Marks regime.deletes i k)
          ∧ (matched = false → ¬ ¬ regime.deletes))
        (RevocationFailed regime.calm i) := by
  apply update_spec
  · exact (SessionRead.tame k before).and ((Revoking.tame []).and
      ((Tame.imp fun settles => .chased settles _ _).and
        (.imp fun lasting => .present lasting _)))
  · intro matched
    exact (Revoking.tame []).and ((Tame.imp fun _ => .marks k).and (.const _))
  · exact Tame.noToken.and (.const _)
  · rintro world invariant ⟨_, revoking, _, present⟩ _ missing
    refine ⟨revoking, fun impossible => by contradiction, fun _ lasting => ?_⟩
    obtain ⟨session, known⟩ := Option.isSome_iff_exists.mp (present lasting)
    obtain ⟨row, found⟩ := revoking.stamping.session_visible known
    rw [show (world.store.view i).find? (RowUpdate.saveSession k updatedAt revokedAt).table
      (RowUpdate.saveSession k updatedAt revokedAt).key = some row from found] at missing
    exact Option.some_ne_none _ missing
  · rintro world _ ⟨_, revoking, _⟩ admitted deadlock
    exact ⟨revoking.noToken, regime.undisturbed_of_calm admitted deadlock⟩
  · intro world (old : AuthSession) (row : AuthSession) invariant
    rintro ⟨read, revoking, _⟩ _ found changed why
    exfalso
    have same := Option.some.inj changed
    subst same
    obtain ⟨_, sound⟩ := revoking.stamping.session_row invariant found
      (read.created revoking.stamping invariant.ledger found ▸ dated)
      (read.getD revoking.stamping invariant found updated)
    rcases why with moved | duplicate | unsound | wide
    · exact moved (Db.find?_key found)
    · exact absurd ((no_session_duplicates _ _).symm.trans duplicate) (by decide)
    · exact absurd (sound.symm.trans unsound) (by decide)
    · exact absurd (show true = false from wide) (by decide)
  · intro world (old : AuthSession) (row : AuthSession) invariant
    rintro ⟨read, revoking, chased, _⟩ _ found changed here sound
    have same := Option.some.inj changed
    subst same
    obtain ⟨⟨base, known, stamps⟩, _⟩ := revoking.stamping.session_row invariant found
      (read.created revoking.stamping invariant.ledger found ▸ dated)
      (read.getD revoking.stamping invariant found updated)
    have id : old.id = k := Db.find?_key found
    rw [← id] at known
    have staged := (revoking.mono (List.nil_subset [k])).stage_session stamps known (by simp [id])
    refine ⟨staged.settle fun settles => ?_, fun _ => ?_, fun impossible => by contradiction⟩
    · refine Growing.chased k [] world _ (grows_stage ?_) (chased settles)
      intro other put
      cases put
      rfl
    · refine .inl ⟨{ old with
        updatedAt := updatedAt.getD old.updatedAt, revokedAt := some revokedAt }, ?_, id, rfl⟩
      rw [World.own, Store.stage_own_self]
      exact List.mem_append_right _ (List.mem_singleton.mpr rfl)

-----------------------------------------------------------------------------------------
-- revoke
-----------------------------------------------------------------------------------------

/-- What a revocation that raises leaves: it inserted no token, and something stood in its
way. -/
structure Thwarted (regime : Regime) (i : Nat) (world : World) : Prop where
  noToken : ∀ row, (i, row) ∉ world.mintedTokens
  why : ¬ (regime.calm ∧ ¬ regime.deletes)

theorem Thwarted.tame : Tame services regime i (Thwarted regime i) := by
  intro before after invariant keeps thwarted
  exact { thwarted with
    noToken := Tame.noToken before after invariant keeps thwarted.noToken }

theorem RevocationFailed.thwarted {failure : Fault}
    (failed : RevocationFailed regime.calm i failure world)
    : Thwarted regime i world where
  noToken := failed.2.1
  why both := failed.2.2 both.1

theorem flushSession_spec {k : UUID} {revokedAt : Timestamp} {before session : AuthSession}
    (revoked : before.revoke revokedAt = .ok session)
    : Spec services regime i
        (fun world =>
          SessionRead world k before ∧ Revoking world regime.settles i []
          ∧ (regime.settles → world.Chased i k [])
          ∧ (¬ regime.deletes → (sessionAt world.committed k).isSome))
        (SessionRepository.flushSession before session)
        (fun _ world => Revoking world regime.settles i [] ∧ world.Marks regime.deletes i k)
        (fun _ => Thwarted regime i) := by
  have stable : Tame services regime i (fun world =>
      SessionRead world k before ∧ Revoking world regime.settles i []
      ∧ (regime.settles → world.Chased i k [])
      ∧ (¬ regime.deletes → (sessionAt world.committed k).isSome)) :=
    (SessionRead.tame k before).and ((Revoking.tame []).and
      ((Tame.imp fun settles => .chased settles _ _).and
        (.imp fun lasting => .present lasting _)))
  rcases before.revoke_eq_ok revoked with ⟨stamped, rfl⟩ | ⟨fresh, dated, rfl⟩
  · obtain ⟨stamp, same⟩ := Option.isSome_iff_exists.mp stamped
    unfold SessionRepository.flushSession
    simp only [same, if_true]
    refine Spec.pure stable ?_
    rintro world ⟨read, revoking, _, present⟩
    exact ⟨revoking, .inr ⟨read.dead stamped, present⟩⟩
  · have changed : ¬ { before with updatedAt := revokedAt, revokedAt := some revokedAt }
        = before := by
      intro same
      have stamp := congrArg AuthSession.revokedAt same
      simp [fresh] at stamp
    unfold SessionRepository.flushSession
    simp only [if_neg changed]
    refine Spec.fact (fun world _ holds => holds.1.id) (fun id => ?_)
    subst id
    apply Spec.bind
    · refine (saveSession_spec dated ?_).weaken (fun _ holds => holds) (fun _ _ holds => holds)
        (fun _ _ failed => failed.thwarted)
      intro stamp same
      split at same
      · contradiction
      · exact Option.some.inj same ▸ dated
    · intro matched
      cases matched with
      | true =>
          apply Spec.pure
          · exact (Revoking.tame []).and ((Tame.imp fun _ => .marks _).and (.const _))
          · intro world holds
            exact ⟨holds.1, holds.2.1 rfl⟩
      | false =>
          apply Spec.throw
          · exact (Revoking.tame []).and ((Tame.imp fun _ => .marks _).and (.const _))
          · intro world holds
            exact {
              noToken := holds.1.noToken
              why := fun both => holds.2.2 rfl both.2
            }

/-- The statements that revoke a loaded session. -/
theorem revokeLoaded_spec {k : UUID} {revokedAt : Timestamp} {before session : AuthSession}
    (valid : before.Valid) (revoked : before.revoke revokedAt = .ok session)
    : Spec services regime i
        (fun world =>
          SessionRead world k before ∧ Revoking world regime.settles i []
          ∧ (¬ regime.deletes → (sessionAt world.committed k).isSome))
        (do
          SessionRepository.revokeCurrentRefreshTokens k revokedAt
          SessionRepository.flushSession before session
          liftExcept (authSessionFromRecord session))
        (fun _ world => Revoking world regime.settles i [] ∧ world.Marks regime.deletes i k)
        (fun _ => Thwarted regime i) := by
  have growing : Growing i (fun world =>
      SessionRead world k before
      ∧ (¬ regime.deletes → (sessionAt world.committed k).isSome)) := by
    refine (SessionRead.growing k before).and (.imp fun _ => ?_)
    intro old new grows present
    exact grows.committed ▸ present
  have stable : Tame services regime i (fun world =>
      SessionRead world k before
      ∧ (¬ regime.deletes → (sessionAt world.committed k).isSome)) :=
    (SessionRead.tame k before).and (.imp fun lasting => .present lasting _)
  apply Spec.bind
  · apply (revokeCurrentRefreshTokens_spec stable growing).weaken
    · rintro world ⟨read, revoking, present⟩
      exact ⟨⟨read, present⟩, revoking, fun settles => present (regime.lasting settles)⟩
    · exact fun _ _ holds => holds
    · exact fun _ _ failed => failed.thwarted
  · intro _
    apply Spec.bind
    · apply (flushSession_spec revoked).weaken
      · rintro world ⟨⟨read, present⟩, revoking, chased⟩
        exact ⟨read, revoking, chased, present⟩
      · exact fun _ _ holds => holds
      · exact fun _ _ failed => failed
    · intro _
      have ok : authSessionFromRecord session = .ok session :=
        AuthSession.postInit_eq_ok.mpr ⟨before.revoke_valid valid revoked, rfl⟩
      rw [ok]
      exact Spec.pure ((Revoking.tame []).and (.marks k)) (fun _ holds => holds)

/-- What the call knows of a session that it is about to revoke. -/
def Revocable (regime : Regime) (k : UUID) (revokedAt : Timestamp) (db : Database)
    (world : World)
    : Prop :=
  (¬ regime.deletes → (sessionAt db k).isSome)
  ∧ ∀ session, sessionAt db k = some session
      → SessionRead world k session
        ∧ (regime.calm → session.revokedAt = none → session.createdAt ≤ revokedAt)

/-- Revoking a session leaves its live tokens and then the session itself stamped. -/
theorem revoke_spec {k : UUID} {revokedAt : Timestamp}
    : Spec services regime i
        (fun world =>
          Idle world i ∧ (¬ regime.deletes → (sessionAt world.committed k).isSome))
        (SessionRepository.revoke k revokedAt)
        (fun _ world => Revoking world regime.settles i [] ∧ world.Marks regime.deletes i k)
        (fun _ => Thwarted regime i) := by
  have stable : Tame services regime i (fun world =>
      Idle world i ∧ (¬ regime.deletes → (sessionAt world.committed k).isSome)) :=
    Idle.tame.and (.imp fun lasting => .present lasting _)
  have stable' (db : Database) : Tame services regime i (Revocable regime k revokedAt db) :=
    (Tame.const _).and (Tame.all fun session => .imp fun _ =>
      (SessionRead.tame k session).and (.const _))
  unfold SessionRepository.revoke
  refine Spec.bind (select_spec (Revocable regime k revokedAt) stable stable' ?_) ?_
  · rintro world invariant _ ⟨idle, present⟩ admitted
    rw [idle.view]
    refine ⟨present, fun session found => ⟨invariant.sessionRead found, fun calm fresh => ?_⟩⟩
    have stampable := (regime.stamped calm i _ _ admitted).2
    simp only [Identity.stampable] at stampable
    rw [idle.view, show sessionAt world.committed k = some session from found] at stampable
    simpa [fresh] using stampable
  · intro db
    cases found : db.find? .authSessions k with
    | none =>
        refine Spec.throw (stable.and (stable' db)) ?_
        rintro world ⟨⟨idle, _⟩, revocable⟩
        refine {
          noToken := idle.noToken
          why := fun both => ?_
        }
        have present := revocable.1 both.2
        rw [show sessionAt db k = none from found] at present
        contradiction
    | some record =>
        have facts : ∀ world, Revocable regime k revokedAt db world
            → SessionRead world k record
              ∧ (regime.calm → record.revokedAt = none → record.createdAt ≤ revokedAt) :=
          fun _ revocable => revocable.2 record found
        refine Spec.fact (fun world _ holds => (facts world holds.2).1.valid) (fun valid => ?_)
        refine Spec.fact (fun world _ holds => (facts world holds.2).2) (fun dated => ?_)
        have ok : authSessionFromRecord record = .ok record :=
          AuthSession.postInit_eq_ok.mpr ⟨valid, rfl⟩
        simp only [ok]
        change Spec services regime i _ (liftExcept (record.revoke revokedAt) >>= _) _ _
        cases revoked : record.revoke revokedAt with
        | error failure =>
            obtain ⟨fresh, early, rfl⟩ := record.revoke_eq_error valid revoked
            refine Spec.throw (stable.and (stable' db)) ?_
            rintro world ⟨⟨idle, _⟩, _⟩
            exact {
              noToken := idle.noToken
              why := fun both => Int.not_le.mpr early (dated both.1 fresh)
            }
        | ok session =>
            exact revokeLoaded_spec valid revoked
              |>.weaken
                (fun world holds => ⟨(facts world holds.2).1, holds.1.1.revoking _ _, holds.1.2⟩)
                (fun _ _ holds => holds) (fun _ _ failed => failed)

-----------------------------------------------------------------------------------------
-- revoke_all_for_user
-----------------------------------------------------------------------------------------

/-- A session of the user that the call has read. -/
structure Candidate (regime : Regime) (user : UUID) (session : AuthSession) (world : World)
    : Prop where
  read : SessionRead world session.id session
  owner : session.userId = user
  present : ¬ regime.deletes → (sessionAt world.committed session.id).isSome

theorem Candidate.tame (user : UUID) (session : AuthSession)
    : Tame services regime i (Candidate regime user session) := by
  intro before after invariant keeps candidate
  exact {
    read := SessionRead.tame session.id session before after invariant keeps candidate.read
    owner := candidate.owner
    present := fun lasting =>
      Tame.present lasting session.id before after invariant keeps (candidate.present lasting)
  }

theorem Candidate.growing (user : UUID) (session : AuthSession)
    : Growing i (Candidate regime user session) := by
  intro before after grows candidate
  exact {
    read := SessionRead.growing session.id session before after grows candidate.read
    owner := candidate.owner
    present := grows.committed ▸ candidate.present
  }

/-- A session that the UPDATE does not match is revoked already. -/
theorem Candidate.missed {user : UUID} {session : AuthSession} {revokedAt : Timestamp}
    (candidate : Candidate regime user session world) (stamping : Stamping world i)
    (invariant : Invariant services regime.toFlags world) (lasting : ¬ regime.deletes)
    (missing
      : (sessionAt (world.store.view i) session.id).bind
          (RowUpdate.revokeUserSession session.id user revokedAt).change
        = none)
    : world.Marks regime.deletes i session.id := by
  obtain ⟨base, known⟩ := Option.isSome_iff_exists.mp (candidate.present lasting)
  rcases session_view stamping.kept session.id with ⟨same, _⟩ | ⟨row, put, here, _⟩
  · rw [same, known] at missing
    obtain ⟨j, minted, member, alike⟩ := candidate.read.minted
    have alike' := invariant.ledger.session_expires member known alike.id.symm
    have owner : base.userId = user :=
      alike'.user.trans (alike.user.symm.trans candidate.owner)
    refine .inr ⟨invariant.dead known ?_, fun _ => by rw [known]; rfl⟩
    cases stamped : base.revokedAt with
    | some _ => rfl
    | none =>
        have matched : base.userId = user ∧ base.revokedAt = none := ⟨owner, stamped⟩
        simp [RowUpdate.change, matched] at missing
  · obtain ⟨_, _, stamps⟩ := stamping.sessions row put
    exact .inl ⟨row, put, here, stamps.stamped⟩

/-- One row of the bulk UPDATE of sessions. -/
theorem revokeUserSession_spec {pre : World → Prop} {user : UUID} {session : AuthSession}
    {revokedAt : Timestamp} {todo : List UUID} (tame : Tame services regime i pre)
    (growing : Growing i pre)
    : Spec services regime i
        (fun world =>
          pre world ∧ Revoking world regime.settles i todo
          ∧ Candidate regime user session world)
        (update (.revokeUserSession session.id user revokedAt))
        (fun matched world =>
          pre world
          ∧ Revoking world regime.settles i (if matched then session.id :: todo else todo)
          ∧ Candidate regime user session world
          ∧ (¬ regime.deletes → world.Marks regime.deletes i session.id))
        (RevocationFailed regime.calm i) := by
  apply update_spec
  · exact tame.and ((Revoking.tame todo).and (Candidate.tame user session))
  · intro matched
    exact tame.and ((Revoking.tame _).and
      ((Candidate.tame user session).and (.imp fun _ => .marks _)))
  · exact Tame.noToken.and (.const _)
  · rintro world invariant ⟨holds, revoking, candidate⟩ _ missing
    exact ⟨holds, revoking, candidate,
      fun lasting => candidate.missed revoking.stamping invariant lasting missing⟩
  · rintro world _ ⟨_, revoking, _⟩ admitted deadlock
    exact ⟨revoking.noToken, regime.undisturbed_of_calm admitted deadlock⟩
  · intro world (old : AuthSession) (row : AuthSession) invariant
    rintro ⟨_, revoking, candidate⟩ admitted found changed why
    refine ⟨revoking.noToken, fun calm => ?_⟩
    obtain ⟨matched, same⟩ := Option.ite_none_right_eq_some.mp changed
    have same := Option.some.inj same
    subst same
    have dated : old.createdAt ≤ revokedAt := by
      have stampable := (regime.stamped calm i _ _ admitted).2
      simp only [Identity.stampable] at stampable
      rw [show sessionAt (world.store.view i) session.id = some old from found] at stampable
      change (old.revokedAt.isSome || decide (old.createdAt ≤ revokedAt)) = true at stampable
      have fresh : old.revokedAt = none := matched.2
      simpa [fresh] using stampable
    obtain ⟨_, sound⟩ := revoking.stamping.session_row invariant found dated dated
    rcases why with moved | duplicate | unsound | wide
    · exact moved (Db.find?_key found)
    · exact absurd ((no_session_duplicates _ _).symm.trans duplicate) (by decide)
    · exact absurd (sound.symm.trans unsound) (by decide)
    · exact absurd (show true = false from wide) (by decide)
  · intro world (old : AuthSession) (row : AuthSession) invariant
    rintro ⟨holds, revoking, candidate⟩ _ found changed here sound
    obtain ⟨_, same⟩ := Option.ite_none_right_eq_some.mp changed
    have same := Option.some.inj same
    subst same
    have dated : old.createdAt ≤ revokedAt := by
      have checks : rowSound (world.store.view i) .authSessions
        { old with revokedAt := some revokedAt, updatedAt := revokedAt } = true := sound
      simp only [rowSound, Bool.and_eq_true] at checks
      simpa using checks.2
    obtain ⟨⟨base, known, stamps⟩, _⟩ :=
      revoking.stamping.session_row invariant found dated dated
    have id : old.id = session.id := Db.find?_key found
    have known : sessionAt world.committed old.id = some base := id ▸ known
    have grows : Grows i world { world with
        store := world.store.stage i
          (putSession { old with revokedAt := some revokedAt, updatedAt := revokedAt }) } := by
      apply grows_stage
      intro other put
      cases put
      rfl
    refine ⟨growing _ _ grows holds, ?_, Candidate.growing user session _ _ grows candidate, ?_⟩
    · exact (revoking.mono (List.subset_cons_self session.id todo)).stage_session stamps known
        (by simp [id])
    · refine fun _ => .inl ⟨{ old with revokedAt := some revokedAt, updatedAt := revokedAt },
        ?_, id, rfl⟩
      rw [World.own, Store.stage_own_self]
      exact List.mem_append_right _ (List.mem_singleton.mpr rfl)

/-- What the bulk UPDATE of sessions leaves: the returned ids are to do, and all sessions of
the snapshot are revoked. -/
structure Returned (regime : Regime) (i : Nat) (sessions : List AuthSession) (todo ids : List UUID)
    (world : World)
    : Prop where
  revoking : Revoking world regime.settles i (ids ++ todo)
  present : ∀ k ∈ ids, ¬ regime.deletes → (sessionAt world.committed k).isSome
  marks : ∀ session ∈ sessions, ¬ regime.deletes → world.Marks regime.deletes i session.id

theorem Returned.tame (sessions : List AuthSession) (todo ids : List UUID)
    : Tame services regime i (Returned regime i sessions todo ids) := by
  intro before after invariant keeps returned
  exact {
    revoking := Revoking.tame _ before after invariant keeps returned.revoking
    present := fun k listed lasting =>
      Tame.present lasting k before after invariant keeps (returned.present k listed lasting)
    marks := fun session listed lasting =>
      Tame.marks session.id before after invariant keeps (returned.marks session listed lasting)
  }

theorem revokeUserSessions_spec {user : UUID} {revokedAt : Timestamp}
    (sessions : List AuthSession)
    : ∀ {pre : World → Prop} {todo : List UUID},
        Tame services regime i pre
        → Growing i pre
        → Spec services regime i
            (fun world =>
              pre world ∧ Revoking world regime.settles i todo
              ∧ ∀ session ∈ sessions, Candidate regime user session world)
            (SessionRepository.revokeUserSessions user revokedAt sessions)
            (fun ids world => pre world ∧ Returned regime i sessions todo ids world)
            (RevocationFailed regime.calm i) := by
  induction sessions with
  | nil =>
      intro pre todo tame growing
      apply Spec.pure
      · exact tame.and ((Revoking.tame todo).and (.all fun session => .all fun _ =>
          Candidate.tame user session))
      · rintro world ⟨holds, revoking, _⟩
        exact ⟨holds, { revoking, present := by simp, marks := by simp }⟩
  | cons session rest ih =>
      intro pre todo tame growing
      have others : Tame services regime i (fun world =>
          pre world ∧ ∀ other ∈ rest, Candidate regime user other world) :=
        tame.and (.all fun other => .all fun _ => Candidate.tame user other)
      have growing' : Growing i (fun world =>
          pre world ∧ ∀ other ∈ rest, Candidate regime user other world) :=
        growing.and (.all fun other => .all fun _ => Candidate.growing user other)
      unfold SessionRepository.revokeUserSessions
      apply Spec.bind
      · apply (revokeUserSession_spec others growing').weaken
        · rintro world ⟨holds, revoking, candidates⟩
          exact ⟨⟨holds, fun other listed => candidates other (List.mem_cons_of_mem _ listed)⟩,
            revoking, candidates session List.mem_cons_self⟩
        · exact fun _ _ holds => holds
        · exact fun _ _ failed => failed
      · intro matched
        have kept : Tame services regime i (fun world =>
            pre world ∧ Candidate regime user session world
            ∧ (¬ regime.deletes → world.Marks regime.deletes i session.id)) :=
          tame.and ((Candidate.tame user session).and (.imp fun _ => .marks _))
        have kept' : Growing i (fun world =>
            pre world ∧ Candidate regime user session world
            ∧ (¬ regime.deletes → world.Marks regime.deletes i session.id)) :=
          growing.and ((Candidate.growing user session).and (.imp fun _ => .marks _))
        apply Spec.bind
        · apply (ih kept kept').weaken
          · rintro world ⟨⟨holds, candidates⟩, revoking, candidate, marks⟩
            exact ⟨⟨holds, candidate, marks⟩, revoking, candidates⟩
          · exact fun _ _ holds => holds
          · exact fun _ _ failed => failed
        · intro ids
          refine Spec.pure (kept.and (Returned.tame rest _ ids)) ?_
          rintro world ⟨⟨holds, candidate, marks⟩, returned⟩
          refine ⟨holds, { revoking := ?_, present := ?_, marks := ?_ }⟩
          · refine returned.revoking.mono ?_
            cases matched <;> grind
          · intro k listed lasting
            cases matched with
            | false => exact returned.present k listed lasting
            | true =>
                rcases List.mem_cons.mp listed with rfl | later
                · exact candidate.present lasting
                · exact returned.present k later lasting
          · intro other listed lasting
            rcases List.mem_cons.mp listed with rfl | later
            · exact marks lasting
            · exact returned.marks other later lasting

/-- The tokens of all listed sessions. -/
theorem revokeListed_spec {pre : World → Prop} {revokedAt : Timestamp}
    (tame : Tame services regime i pre) (growing : Growing i pre) (ids : List UUID)
    : Spec services regime i
        (fun world =>
          pre world ∧ Revoking world regime.settles i ids
          ∧ ∀ k ∈ ids, ¬ regime.deletes → (sessionAt world.committed k).isSome)
        (forEach (fun k => SessionRepository.revokeCurrentRefreshTokens k revokedAt) ids)
        (fun _ world => pre world ∧ Revoking world regime.settles i [])
        (RevocationFailed regime.calm i) := by
  induction ids with
  | nil =>
      apply Spec.pure
      · exact tame.and ((Revoking.tame []).and (.all fun k => .all fun _ =>
          .imp fun lasting => .present lasting k))
      · exact fun world holds => ⟨holds.1, holds.2.1⟩
  | cons k rest ih =>
      have kept : Tame services regime i (fun world =>
          pre world
          ∧ ∀ other ∈ rest, ¬ regime.deletes → (sessionAt world.committed other).isSome) :=
        tame.and (.all fun other => .all fun _ => .imp fun lasting => .present lasting other)
      have kept' : Growing i (fun world =>
          pre world
          ∧ ∀ other ∈ rest, ¬ regime.deletes → (sessionAt world.committed other).isSome) :=
        growing.and (.all fun other => .all fun _ => .imp fun _ _ _ grows present =>
          grows.committed ▸ present)
      apply Spec.bind
      · apply (revokeCurrentRefreshTokens_spec kept kept').weaken
        · rintro world ⟨holds, revoking, present⟩
          exact ⟨⟨holds, fun other listed => present other (List.mem_cons_of_mem k listed)⟩,
            revoking, fun settles => present k List.mem_cons_self (regime.lasting settles)⟩
        · exact fun _ _ holds => holds
        · exact fun _ _ failed => failed
      · intro _
        apply ih.weaken
        · rintro world ⟨⟨holds, present⟩, revoking, chased⟩
          exact ⟨holds, revoking.settle chased, present⟩
        · exact fun _ _ holds => holds
        · exact fun _ _ failed => failed

/-- The session is one of the user's in every state of the runs under consideration. -/
def Enrolled (regime : Regime) (user k : UUID) : Prop :=
  ∀ world, regime.also world
    → ∃ session, sessionAt world.committed k = some session ∧ session.userId = user

/-- Every session of the user is revoked. -/
theorem revokeAllForUser_spec {user : UUID} {revokedAt : Timestamp}
    : Spec services regime i (fun world => Idle world i)
        (SessionRepository.revokeAllForUser user revokedAt)
        (fun _ world =>
          (∀ k, Enrolled regime user k → ¬ regime.deletes → world.Marks regime.deletes i k)
          ∧ Revoking world regime.settles i [])
        (RevocationFailed regime.calm i) := by
  let listed (db : Database) (world : World) : Prop :=
    (∀ session ∈ openSessions db user, Candidate regime user session world)
    ∧ ∀ k, Enrolled regime user k
        → (∃ session ∈ openSessions db user, session.id = k) ∨ world.Revoked regime.deletes k
  have stable (db : Database) : Tame services regime i (listed db) :=
    (Tame.all fun session => .all fun _ => Candidate.tame user session).and
      (.all fun k => .imp fun _ => (Tame.const _).or (.revoked k))
  unfold SessionRepository.revokeAllForUser
  refine Spec.bind (select_spec listed Idle.tame stable ?_) ?_
  · intro world invariant also idle _
    rw [idle.view]
    have keyed := invariant.coherent.keyed
    refine ⟨?_, ?_⟩
    · intro session member
      obtain ⟨member, chosen⟩ := List.mem_filter.mp member
      have found : sessionAt world.committed session.id = some session :=
        Db.find?_of_mem keyed member
      simp only [Bool.and_eq_true, beq_iff_eq] at chosen
      exact {
        read := invariant.sessionRead found
        owner := chosen.1
        present := fun _ => by rw [found]; rfl
      }
    · intro k enrolled
      obtain ⟨session, found, owner⟩ := enrolled world also
      by_cases stamped : session.revokedAt.isSome
      · exact .inr ⟨invariant.dead found stamped, fun _ => by rw [found]; rfl⟩
      · refine .inl ⟨session, List.mem_filter.mpr ⟨Db.mem_of_find? found, ?_⟩,
          Db.find?_key found⟩
        simpa [owner] using stamped
  · intro db
    let left (world : World) : Prop :=
      ∀ k, Enrolled regime user k
        → (∃ session ∈ openSessions db user, session.id = k) ∨ world.Revoked regime.deletes k
    have leftTame : Tame services regime i left :=
      .all fun k => .imp fun _ => (Tame.const _).or (.revoked k)
    have leftGrowing : Growing i left :=
      .all fun k => .imp fun _ => (Growing.const _).or (.revoked k)
    apply Spec.bind
    · apply (revokeUserSessions_spec (openSessions db user) leftTame leftGrowing).weaken
      · rintro world ⟨idle, candidates, known⟩
        exact ⟨known, idle.revoking regime.settles [], candidates⟩
      · exact fun _ _ holds => holds
      · exact fun _ _ failed => failed
    · intro ids
      let marked (world : World) : Prop :=
        ∀ k, Enrolled regime user k → ¬ regime.deletes → world.Marks regime.deletes i k
      have markedTame : Tame services regime i marked :=
        .all fun k => .imp fun _ => .imp fun _ => .marks k
      have markedGrowing : Growing i marked :=
        .all fun k => .imp fun _ => .imp fun _ => .marks k
      apply Spec.bind
      · apply (revokeListed_spec markedTame markedGrowing ids).weaken
        · rintro world ⟨known, returned⟩
          refine ⟨?_, by simpa using returned.revoking, returned.present⟩
          intro k enrolled lasting
          rcases known k enrolled with ⟨session, member, rfl⟩ | revoked
          · exact returned.marks session member lasting
          · exact .inr revoked
        · exact fun _ _ holds => holds
        · exact fun _ _ failed => failed
      · intro _
        exact Spec.pure (markedTame.and (Revoking.tame [])) (fun _ holds => holds)

-----------------------------------------------------------------------------------------
-- The commit of a revocation
-----------------------------------------------------------------------------------------

/-- A revocation that is ready: it marks the sessions `ks`. -/
structure Sealed (regime : Regime) (i : Nat) (ks : UUID → Prop) (world : World) : Prop where
  marks : ∀ k, ks k → world.Marks regime.deletes i k
  revoking : Revoking world regime.settles i []

theorem Sealed.tame (ks : UUID → Prop)
    : Tame services regime i (Sealed regime i ks) := by
  intro before after invariant keeps bound
  exact {
    marks := fun k listed => Tame.marks k before after invariant keeps (bound.marks k listed)
    revoking := Revoking.tame [] before after invariant keeps bound.revoking
  }

theorem Sealed.eventProof (ks : UUID → Prop) : EventProof i (Sealed regime i ks) := by
  intro before after besides bound
  exact {
    marks := fun k listed => EventProof.marks k before after besides (bound.marks k listed)
    revoking := Revoking.eventProof [] before after besides bound.revoking
  }

/-- A committed revocation is final. -/
theorem World.Marks.publish {deletes : Prop} {k : UUID} (marks : world.Marks deletes i k)
    (stamping : Stamping world i) (invariant : Invariant services regime.toFlags world)
    : (world.publish i).Revoked deletes k := by
  have effect := world.publish_effect (i := i) invariant.coherent
  have visible : ∀ session, sessionAt (world.store.view i) k = some session
      → session.revokedAt.isSome := by
    intro session found
    rcases session_view stamping.kept k with ⟨same, untouched⟩ | ⟨row, put, _, found'⟩
    · rcases marks with ⟨row, put, here, _⟩ | revoked
      · exact absurd here (untouched row put)
      · exact revoked.dead.committed session (same.symm.trans found)
    · rw [found, Option.some.injEq] at found'
      obtain ⟨_, _, stamps⟩ := stamping.sessions row put
      exact found' ▸ stamps.stamped
  refine { dead := { minted := ?_, committed := visible, pending := ?_ }, present := ?_ }
  · rcases marks with ⟨row, put, rfl, _⟩ | revoked
    · obtain ⟨old, found, stamps⟩ := stamping.sessions row put
      obtain ⟨j, minted, member, alike⟩ := invariant.ledger.sessions row.id old found
      exact ⟨j, minted, member, alike.id.symm.trans stamps.alike.id.symm⟩
    · exact revoked.dead.minted
  · intro j row put here
    by_cases same : j = i
    · subst same
      simp [World.publish_own_self] at put
    · rw [World.own, (effect.frame same).1] at put
      rcases marks with ⟨mine, written, rfl, _⟩ | revoked
      · rcases invariant.newSessions j row put with stamped | absent
        · exact stamped
        · obtain ⟨old, found, _⟩ := stamping.sessions mine written
          rw [here, found] at absent
          contradiction
      · exact revoked.dead.pending j row put here
  · intro lasting
    have known : ∃ session, sessionAt world.committed k = some session := by
      rcases marks with ⟨row, put, rfl, _⟩ | revoked
      · obtain ⟨old, found, _⟩ := stamping.sessions row put
        exact ⟨old, found⟩
      · exact Option.isSome_iff_exists.mp (revoked.present lasting)
    obtain ⟨session, found⟩ := known
    exact Option.isSome_iff_exists.mpr (stamping.session_visible found)

/-- The commit leaves the sessions revoked for good. -/
theorem commitRevocation_spec (ks : UUID → Prop)
    : Spec services regime i (Sealed regime i ks) commit
        (fun _ world =>
          (∀ k, ks k → world.Revoked regime.deletes k)
          ∧ ∀ row, (i, row) ∉ world.mintedTokens)
        raised := by
  apply commit_spec (Sealed.tame ks)
  · exact (Tame.all fun k => .imp fun _ => .revoked k).and Tame.noToken
  · intro world _ bound
    refine .stamping bound.revoking.stamping (fun settles row put => ?_)
    exact (bound.revoking.covers settles row put).resolve_left (by simp)
  · intro world invariant bound
    refine ⟨fun k listed => ?_, bound.revoking.noToken⟩
    exact (bound.marks k listed).publish bound.revoking.stamping invariant

end WorkflowForge.Identity
