import WorkflowForge.Identity.Operations

/-! Inserting sessions, refresh tokens and audit events. -/

namespace WorkflowForge.Identity

open Python Transactions Concurrency

variable {services : Services} {regime : Regime} {i : Nat} {world after : World}
variable {raised : Fault → World → Prop}

-----------------------------------------------------------------------------------------
-- What an INSERT does
-----------------------------------------------------------------------------------------

/-- A failed INSERT changes nothing; an accepted one leaves one uncommitted row. -/
theorem exec_insert_cases {t : TableName} {row : TableRow t}
    {answer : Except InsertFailure Unit} (coherent : world.store.Coherent)
    (ran : exec i (.insert t row) world = some (answer, after))
    : (∃ failure,
        answer = .error failure
        ∧ after = world
        ∧ (failure.tokenHash = true → digestTaken (world.store.view i) t row = true)
        ∧ (failure.violation = .data → rowFits t row = false)
        ∧ (failure.violation = .deadlock → deadlocks i (.insert t row) world = true)
        ∧ (deadlocks i (.insert t row) world = true
            ∨ ((world.store.view i).find? t (primaryKey t row)).isSome
            ∨ Store.duplicates (world.store.view i) t row = true
            ∨ rowSound (world.store.view i) t row = false
            ∨ rowFits t row = false))
      ∨ (answer = .ok ()
          ∧ after = { world with store := world.store.stage i (.put t row) }.mint i t row
          ∧ (world.store.view i).find? t (primaryKey t row) = none
          ∧ rowSound (world.store.view i) t row = true
          ∧ rowFits t row = true
          ∧ world.store.Admissible i (.put t row)) := by
  simp only [exec] at ran
  split at ran
  · rename_i deadlock
    simp only [Option.some.injEq, Prod.mk.injEq] at ran
    obtain ⟨rfl, rfl⟩ := ran
    refine .inl ⟨_, rfl, rfl, ?_, ?_, fun _ => deadlock, .inl deadlock⟩ <;>
      intro impossible <;> contradiction
  split at ran
  · contradiction
  · rename_i violation store inserted
    simp only [Option.some.injEq, Prod.mk.injEq] at ran
    obtain ⟨rfl, rfl⟩ := ran
    have refused := Store.exec_insert_refused inserted
    rcases Store.exec_insert coherent inserted with ⟨_, rfl⟩ | ⟨impossible, _⟩
    · refine .inl ⟨_, rfl, rfl, id, ?_, ?_, .inr refused⟩
      · intro wide
        cases violation
        · contradiction
        · exact Store.exec_insert_wide inserted
      · intro impossible
        cases violation <;> contradiction
    · contradiction
  · rename_i store inserted
    simp only [Option.some.injEq, Prod.mk.injEq] at ran
    obtain ⟨rfl, rfl⟩ := ran
    rcases Store.exec_insert coherent inserted with ⟨⟨_, impossible⟩, _⟩ | ⟨_, rfl, facts⟩
    · contradiction
    · exact .inr ⟨rfl, rfl, facts.1, facts.2.1, Store.exec_insert_fits inserted, facts.2.2⟩

theorem stage_effect {write : Write schema} (admissible : world.store.Admissible i write)
    : Store.Effect i world.store (world.store.stage i write) :=
  .staged (.same i world.store) write admissible

-----------------------------------------------------------------------------------------
-- Phases of a call before its transaction is ready
-----------------------------------------------------------------------------------------

/-- The call has written nothing. -/
structure Idle (world : World) (i : Nat) : Prop where
  own : world.own i = []
  noSession : ∀ row, (i, row) ∉ world.mintedSessions
  noToken : ∀ row, (i, row) ∉ world.mintedTokens

theorem Idle.tame : Tame services regime i (fun world => Idle world i) := by
  intro before after invariant keeps idle
  exact {
    own := keeps.own.trans idle.own
    noSession := fun row member => idle.noSession row (keeps.ownSessions row member)
    noToken := fun row member => idle.noToken row (keeps.ownTokens row member)
  }

theorem Idle.view (idle : Idle world i) : world.store.view i = world.committed :=
  Store.view_of_own_nil idle.own

theorem Idle.withheld (idle : Idle world i) : world.Withheld i :=
  fun token member => absurd member (idle.noToken token)

/-- The call has inserted a session and nothing else. -/
structure Opened (world : World) (i : Nat) (session : AuthSession) : Prop where
  own : world.own i = [putSession session]
  minted : (i, session) ∈ world.mintedSessions
  noToken : ∀ row, (i, row) ∉ world.mintedTokens
  sessionNew : sessionAt world.committed session.id = none
  home : hasUser world.committed session.userId = true

theorem Opened.tame (session : AuthSession)
    : Tame services regime i (fun world => Opened world i session) := by
  intro before after invariant keeps opened
  have member : putSession session ∈ before.own i := by simp [opened.own]
  exact {
    own := keeps.own.trans opened.own
    minted := keeps.mintedSessions opened.minted
    noToken := fun row token => opened.noToken row (keeps.ownTokens row token)
    sessionNew := (keeps.written invariant member rfl).trans opened.sessionNew
    home := keeps.home opened.home
  }

/-- The call has inserted a replacement and nothing else. -/
structure Offered (world : World) (i : Nat) (token : RefreshTokenRecord) : Prop where
  own : world.own i = [putToken token]
  minted : (i, token) ∈ world.mintedTokens
  fresh : tokenAt world.committed token.id = none
  narrow : token.generation < 2 ^ 31

theorem Offered.tame (token : RefreshTokenRecord)
    : Tame services regime i (fun world => Offered world i token) := by
  intro before after invariant keeps offered
  have member : putToken token ∈ before.own i := by simp [offered.own]
  exact {
    own := keeps.own.trans offered.own
    minted := keeps.mintedTokens offered.minted
    fresh := (keeps.written invariant member rfl).trans offered.fresh
    narrow := offered.narrow
  }

-----------------------------------------------------------------------------------------
-- Sessions
-----------------------------------------------------------------------------------------

theorem insertSession_stages (idle : Idle world i) (ledger : Ledger services world)
    {session : AuthSession} (drawn : world.DrawnBy i session.id)
    (admissible : world.store.Admissible i (putSession session))
    : Stages i world
        ({ world with store := world.store.stage i (putSession session) }.mint i .authSessions
          session)
        [putSession session] where
  effect := stage_effect admissible
  committed := rfl
  own := Store.stage_own_self world.store i _
  ids := rfl
  tokens := rfl
  drawn := rfl
  generated := rfl
  mintedSessions := fun _ member => List.mem_append_left _ member
  mintedTokens := fun _ member => member
  newSessions j row member := by
    simp only [World.mint, List.mem_append, List.mem_singleton, Prod.mk.injEq] at member
    exact member.imp_right (·.1)
  newTokens _ _ member := .inl member
  revoked row member := by
    simp only [List.mem_singleton, Write.put.injEq, heq_eq_eq, true_and] at member
    subst member
    refine .inr ?_
    intro j other minted same
    have drawn' := ledger.drawnSession j other minted
    rw [same] at drawn'
    have index := drawn'.unique drawn
    subst index
    exact idle.noSession other minted
  events event member := by simp at member

/-- A new session is inserted, or refused with nothing written. -/
theorem insertSession_spec {session : AuthSession}
    : Spec services regime i
        (fun world => Idle world i ∧ world.DrawnBy i session.id)
        (perform (.insert .authSessions session))
        (fun answer world =>
          (answer = .ok () → Opened world i session)
          ∧ ((∃ failure, answer = .error failure) → Idle world i))
        raised := by
  apply Spec.staging (Idle.tame.and (.drawnBy _))
  · intro answer
    exact (Tame.imp fun _ => Opened.tame session).and (Tame.imp fun _ => Idle.tame)
  intro world answer after invariant _ ⟨idle, drawn⟩ _ ran
  rcases exec_insert_cases invariant.coherent ran with
    ⟨failure, rfl, rfl, _⟩ | ⟨rfl, rfl, absent, sound, _, admissible⟩
  · refine ⟨invariant, fun j _ => ⟨Keeps.refl _ j _, rfl⟩, ?_, fun _ => idle⟩
    intro impossible
    contradiction
  · have stages := insertSession_stages idle invariant.ledger drawn admissible
    have none : sessionAt world.committed session.id = none := idle.view ▸ absent
    refine ⟨?_, fun j different => stages.leaves invariant.coherent different, ?_, ?_⟩
    · apply stages.invariant invariant
      · exact (invariant.ledger.mintSession idle.noSession drawn).same rfl rfl rfl rfl rfl rfl rfl
      · intro write member
        simp only [List.mem_singleton] at member
        subst member
        simp [Write.target]
      · intro row member
        simp only [List.mem_singleton, Write.put.injEq, heq_eq_eq, true_and] at member
        subst member
        exact .inr none
    · intro _
      refine {
        own := ?_
        minted := by simp [World.mint]
        noToken := idle.noToken
        sessionNew := none
        home := ?_
      }
      · rw [stages.own, idle.own]
        rfl
      · simp only [rowSound, Bool.and_eq_true] at sound
        have home := sound.1.1.1
        rw [idle.view] at home
        exact home
    · rintro ⟨_, impossible⟩
      contradiction

-----------------------------------------------------------------------------------------
-- Refresh tokens
-----------------------------------------------------------------------------------------

theorem insertToken_stages {token : RefreshTokenRecord}
    (admissible : world.store.Admissible i (putToken token))
    : Stages i world
        ({ world with store := world.store.stage i (putToken token) }.mint i .refreshTokens
          token)
        [putToken token] where
  effect := stage_effect admissible
  committed := rfl
  own := Store.stage_own_self world.store i _
  ids := rfl
  tokens := rfl
  drawn := rfl
  generated := rfl
  mintedSessions := fun _ member => member
  mintedTokens := fun _ member => List.mem_append_left _ member
  newSessions _ _ member := .inl member
  newTokens j row member := by
    simp only [World.mint, List.mem_append, List.mem_singleton, Prod.mk.injEq] at member
    exact member.imp_right (·.1)
  revoked row member := by simp at member
  events event member := by simp at member

theorem insertToken_invariant (invariant : Invariant services regime.toFlags world)
    {token : RefreshTokenRecord} (noToken : ∀ row, (i, row) ∉ world.mintedTokens)
    (drawn : world.DrawnBy i token.id)
    (generated : world.GeneratedBy services i token.tokenDigest)
    (admissible : world.store.Admissible i (putToken token))
    : Invariant services regime.toFlags
        ({ world with store := world.store.stage i (putToken token) }.mint i .refreshTokens
          token) := by
  apply (insertToken_stages admissible).invariant invariant
  · exact (invariant.ledger.mintToken noToken drawn generated).same rfl rfl rfl rfl rfl rfl rfl
  · intro write member
    simp only [List.mem_singleton] at member
    subst member
    simp [Write.target]
  · intro row member
    simp at member

/-- The first token of a new session, as `StartUserSession` builds it. -/
structure FirstToken (services : Services) (session : AuthSession)
    (token : RefreshTokenRecord)
    : Prop where
  parent : token.sessionId = session.id
  unrevoked : session.revokedAt = none
  unused : token.usedAt = none
  unreplaced : token.replacedByTokenId = none
  initial : token.generation = 0
  within : token.expiresAt ≤ session.expiresAt
  span : token.expiresAt ≤ token.issuedAt + services.policy.refreshTokenLifetime
  validSession : session.Valid
  validToken : token.Valid

theorem Opening.tame (session : AuthSession) (token : RefreshTokenRecord)
    : Tame services regime i (fun world => Opening services world i session token) := by
  intro before after invariant keeps opening
  have putS := (opening.sessions session).mpr rfl
  have putT := (opening.tokens token).mpr rfl
  exact { opening with
    kept := keeps.own ▸ opening.kept
    sessions := keeps.own ▸ opening.sessions
    tokens := keeps.own ▸ opening.tokens
    sessionNew := (keeps.written invariant putS rfl).trans opening.sessionNew
    tokenNew := (keeps.written invariant putT rfl).trans opening.tokenNew
    mintedSession := keeps.mintedSessions opening.mintedSession
    mintedToken := keeps.mintedTokens opening.mintedToken
    home := keeps.home opening.home }

/-- The first token completes the transaction of a new session. -/
theorem insertFirstToken_spec {session : AuthSession} {token : RefreshTokenRecord}
    (first : FirstToken services session token)
    : Spec services regime i
        (fun world =>
          Opened world i session ∧ world.DrawnBy i token.id
          ∧ world.GeneratedBy services i token.tokenDigest)
        (perform (.insert .refreshTokens token))
        (fun answer world => answer = .ok () → Opening services world i session token)
        raised := by
  apply Spec.staging ((Opened.tame session).and ((Tame.drawnBy _).and (.generatedBy _)))
  · intro answer
    exact Tame.imp fun _ => Opening.tame session token
  intro world answer after invariant _ ⟨opened, drawn, generated⟩ _ ran
  rcases exec_insert_cases invariant.coherent ran with
    ⟨failure, rfl, rfl, _⟩ | ⟨rfl, rfl, absent, _, _, admissible⟩
  · refine ⟨invariant, fun j _ => ⟨Keeps.refl _ j _, rfl⟩, ?_⟩
    intro impossible
    contradiction
  · have stages := insertToken_stages admissible
    have own := stages.own
    rw [opened.own] at own
    refine ⟨insertToken_invariant invariant opened.noToken drawn generated admissible,
      fun j different => stages.leaves invariant.coherent different, fun _ => ?_⟩
    have tokenNew : tokenAt world.committed token.id = none := by
      rcases world.store.find?_view_cases i (t := TableName.refreshTokens) (k := token.id) with
        ⟨same, _⟩ | ⟨⟨write, member, hit⟩, _⟩
      · exact same.symm.trans absent
      · rw [show world.store.own i = [putSession session] from opened.own] at member
        simp only [List.mem_singleton] at member
        subst member
        simp [Write.target] at hit
    exact {
      kept := fun t k => by rw [own]; simp
      sessions := fun row => by rw [own]; simp
      tokens := fun row => by rw [own]; simp
      sessionNew := opened.sessionNew
      tokenNew := tokenNew
      mintedSession := opened.minted
      mintedToken := by simp [World.mint]
      home := opened.home
      parent := first.parent
      unrevoked := first.unrevoked
      unused := first.unused
      unreplaced := first.unreplaced
      initial := first.initial
      within := first.within
      span := first.span
      validSession := first.validSession
      validToken := first.validToken
    }

/-- No inserted token has the digest of a token that the call generated and did not insert. -/
theorem Idle.minted_digest (idle : Idle world i) (ledger : Ledger services world)
    {digest : RefreshTokenDigest} (generated : world.GeneratedBy services i digest) {j : Nat}
    {minted : RefreshTokenRecord} (member : (j, minted) ∈ world.mintedTokens)
    : minted.tokenDigest ≠ digest := by
  intro same
  have theirs := ledger.generatedToken j minted member
  rw [same] at theirs
  have call := generated.unique services ledger.distinct theirs
  subst call
  exact idle.noToken minted member

theorem Idle.digest_free (idle : Idle world i) (ledger : Ledger services world)
    {token : RefreshTokenRecord} (generated : world.GeneratedBy services i token.tokenDigest)
    (keyed : world.committed.Keyed)
    : digestTaken (world.store.view i) .refreshTokens token = false := by
  rw [idle.view]
  simp only [digestTaken, List.any_eq_false, beq_iff_eq]
  intro other member same
  have found : tokenAt world.committed other.id = some other := Db.find?_of_mem keyed member
  obtain ⟨j, minted, member', alike⟩ := ledger.tokens other.id other found
  exact idle.minted_digest ledger generated member' (alike.digest.symm.trans same)

/-- A replacement is inserted, or refused with nothing written; its digest is never taken. -/
theorem insertReplacement_spec {token : RefreshTokenRecord}
    : Spec services regime i
        (fun world =>
          Idle world i ∧ world.DrawnBy i token.id
          ∧ world.GeneratedBy services i token.tokenDigest)
        (perform (.insert .refreshTokens token))
        (fun answer world =>
          (answer = .ok () → Offered world i token)
          ∧ ∀ failure, answer = .error failure
              → Idle world i ∧ failure.tokenHash = false
                ∧ (regime.smooth → failure.violation = .integrity))
        raised := by
  apply Spec.staging (Idle.tame.and ((Tame.drawnBy _).and (.generatedBy _)))
  · intro answer
    exact (Tame.imp fun _ => Offered.tame token).and
      (Tame.all fun failure => Tame.imp fun _ => Idle.tame.and (.const _))
  intro world answer after invariant _ ⟨idle, drawn, generated⟩ admitted ran
  rcases exec_insert_cases invariant.coherent ran with
    ⟨failure, rfl, rfl, hash, wide, deadlock, _⟩ | ⟨rfl, rfl, absent, _, fits, admissible⟩
  · refine ⟨invariant, fun j _ => ⟨Keeps.refl _ j _, rfl⟩, ?_, ?_⟩
    · intro impossible
      contradiction
    · intro failure' same
      simp only [Except.error.injEq] at same
      subst same
      refine ⟨idle, ?_, ?_⟩
      · have free := idle.digest_free invariant.ledger generated invariant.coherent.keyed
        exact Bool.eq_false_iff.mpr (fun taken => by simp [hash taken] at free)
      · intro smooth
        have narrow := (regime.consumed smooth i _ _ admitted).2
        cases why : failure.violation with
        | integrity => rfl
        | data =>
            have tooWide := wide why
            simp only [consumable, rowFits, decide_eq_true_eq, decide_eq_false_iff_not]
              at narrow tooWide
            exact absurd narrow tooWide
        | deadlock => exact absurd smooth (regime.undisturbed_of_smooth admitted (deadlock why))
  · have stages := insertToken_stages admissible
    have own := stages.own
    rw [idle.own] at own
    refine ⟨insertToken_invariant invariant idle.noToken drawn generated admissible,
      fun j different => stages.leaves invariant.coherent different, fun _ => ?_, ?_⟩
    · exact {
        own := own
        minted := by simp [World.mint]
        fresh := idle.view ▸ absent
        narrow := by simpa [rowFits] using fits
      }
    · intro failure impossible
      contradiction

-----------------------------------------------------------------------------------------
-- Audit events
-----------------------------------------------------------------------------------------

/-- The states differ for call `i` by an uncommitted audit event only. -/
structure Besides (i : Nat) (before after : World) : Prop where
  committed : after.committed = before.committed
  kept : ∀ t k, Write.remove t k ∈ after.own i ↔ Write.remove t k ∈ before.own i
  sessions : ∀ row, putSession row ∈ after.own i ↔ putSession row ∈ before.own i
  tokens : ∀ row, putToken row ∈ after.own i ↔ putToken row ∈ before.own i
  others : ∀ j, j ≠ i → after.own j = before.own j
  mintedSessions : after.mintedSessions = before.mintedSessions
  mintedTokens : after.mintedTokens = before.mintedTokens
  history : after.store.history = before.store.history

/-- An assertion that an audit event of the call does not falsify. -/
def EventProof (i : Nat) (assertion : World → Prop) : Prop :=
  ∀ before after, Besides i before after → assertion before → assertion after

theorem EventProof.and {first second : World → Prop} (left : EventProof i first)
    (right : EventProof i second)
    : EventProof i (fun world => first world ∧ second world) :=
  fun before after besides holds =>
    ⟨left before after besides holds.1, right before after besides holds.2⟩

theorem EventProof.const (fact : Prop) : EventProof i (fun _ => fact) :=
  fun _ _ _ holds => holds

theorem EventProof.imp {fact : Prop} {assertion : World → Prop}
    (proof : fact → EventProof i assertion)
    : EventProof i (fun world => fact → assertion world) :=
  fun before after besides holds known => proof known before after besides (holds known)

theorem EventProof.all {ι : Sort _} {assertion : ι → World → Prop}
    (proof : ∀ x, EventProof i (assertion x))
    : EventProof i (fun world => ∀ x, assertion x world) :=
  fun before after besides holds x => proof x before after besides (holds x)

theorem Opening.eventProof (session : AuthSession) (token : RefreshTokenRecord)
    : EventProof i (fun world => Opening services world i session token) := by
  intro before after besides opening
  exact { opening with
    kept := fun t k member => opening.kept t k ((besides.kept t k).mp member)
    sessions := fun row => (besides.sessions row).trans (opening.sessions row)
    tokens := fun row => (besides.tokens row).trans (opening.tokens row)
    sessionNew := besides.committed ▸ opening.sessionNew
    tokenNew := besides.committed ▸ opening.tokenNew
    mintedSession := besides.mintedSessions ▸ opening.mintedSession
    mintedToken := besides.mintedTokens ▸ opening.mintedToken
    home := besides.committed ▸ opening.home }

theorem Rotating.eventProof (old new : RefreshTokenRecord) (rotatedAt : Timestamp)
    : EventProof i (fun world => Rotating services world i old new rotatedAt) := by
  intro before after besides rotating
  exact { rotating with
    kept := fun t k member => rotating.kept t k ((besides.kept t k).mp member)
    sessions := fun row member => rotating.sessions row ((besides.sessions row).mp member)
    tokens := fun row => (besides.tokens row).trans (rotating.tokens row)
    known := besides.committed ▸ rotating.known
    fresh := besides.committed ▸ rotating.fresh
    minted := besides.mintedTokens ▸ rotating.minted
    within := besides.mintedSessions ▸ rotating.within }

theorem Stamping.eventProof : EventProof i (fun world => Stamping world i) := by
  intro before after besides stamping
  refine {
    kept := fun t k member => stamping.kept t k ((besides.kept t k).mp member)
    sessions := ?_
    tokens := ?_
  }
  · intro row member
    rw [besides.committed]
    exact stamping.sessions row ((besides.sessions row).mp member)
  · intro row member
    rw [besides.committed]
    exact stamping.tokens row ((besides.tokens row).mp member)

theorem Chased.eventProof (session : UUID) (rest : List UUID)
    : EventProof i (fun world => world.Chased i session rest) := by
  intro before after besides chased
  refine { present := besides.committed ▸ chased.present, chased := ?_ }
  rw [besides.committed]
  refine chased.chased.imp_left ?_
  intro every k token found sibling live
  refine (every k token found sibling live).imp_right ?_
  rintro ⟨row, put, here⟩
  exact ⟨row, (besides.tokens row).mpr put, here⟩

theorem Dead.eventProof (k : UUID) : EventProof i (fun world => world.Dead k) := by
  intro before after besides dead
  refine {
    minted := besides.mintedSessions ▸ dead.minted
    committed := besides.committed ▸ dead.committed
    pending := ?_
  }
  intro j row member
  by_cases same : j = i
  · subst same
    exact dead.pending j row ((besides.sessions row).mp member)
  · rw [besides.others j same] at member
    exact dead.pending j row member

theorem Withheld.eventProof : EventProof i (fun world => world.Withheld i) := by
  intro before after besides withheld
  simpa only [World.Withheld, besides.committed, besides.mintedTokens] using withheld

/-- Without constraints in its way an audit event is recorded. -/
theorem insertEvent_spec {pre : World → Prop} {event : SecurityEvent}
    (tame : Tame services regime i pre) (proof : EventProof i pre)
    : Spec services regime i (fun world => pre world ∧ world.Untaken i event.id)
        (perform (.insert .securityAuditEvents event))
        (fun answer world => pre world ∧ (regime.calm → answer = .ok ()))
        raised := by
  apply Spec.staging (tame.and (.untaken _))
  · intro answer
    exact tame.and (.const _)
  intro world answer after invariant _ ⟨holds, untaken⟩ admitted ran
  rcases exec_insert_cases invariant.coherent ran with
    ⟨failure, rfl, rfl, _, _, _, refused⟩ | ⟨rfl, rfl, absent, _, _, admissible⟩
  · refine ⟨invariant, fun j _ => ⟨Keeps.refl _ j _, rfl⟩, holds, ?_⟩
    intro calm
    exfalso
    rcases refused with deadlock | present | duplicate | unsound | wide
    · exact regime.undisturbed_of_calm admitted deadlock calm
    · rcases after.store.find?_view_cases i (t := TableName.securityAuditEvents) (k := event.id)
        with ⟨same, _⟩ | ⟨_, puts⟩
      · have absent := untaken.committed
        rw [show primaryKey .securityAuditEvents event = event.id from rfl, same,
          show after.store.committed.find? .securityAuditEvents event.id = none from absent]
          at present
        simp at present
      · obtain ⟨other, found⟩ := Option.isSome_iff_exists.mp present
        exact untaken.pending i other (puts other found) (Db.find?_key found)
    · simp [Store.duplicates, uniqueClash] at duplicate
    · have sound := (regime.stamped calm i _ _ admitted).2
      simp only [stampable] at sound
      rw [sound] at unsound
      contradiction
    · simp [rowFits] at wide
  · have stages : Stages i world
        ({ world with store := world.store.stage i (putEvent event) }.mint i
          .securityAuditEvents event)
        [putEvent event] := {
      effect := stage_effect admissible
      committed := rfl
      own := Store.stage_own_self world.store i _
      ids := rfl
      tokens := rfl
      drawn := rfl
      generated := rfl
      mintedSessions := fun _ member => member
      mintedTokens := fun _ member => member
      newSessions := fun _ _ member => .inl member
      newTokens := fun _ _ member => .inl member
      revoked := fun row member => by simp at member
      events := fun other member => by
        simp only [List.mem_singleton, Write.put.injEq, heq_eq_eq, true_and] at member
        subst member
        exact .inl untaken.drawn
    }
    refine ⟨?_, fun j different => stages.leaves invariant.coherent different, ?_, fun _ => rfl⟩
    · apply stages.invariant invariant
      · exact invariant.ledger.same rfl rfl rfl rfl rfl rfl rfl
      · intro write member
        simp only [List.mem_singleton] at member
        subst member
        simp [Write.target]
      · intro row member
        simp at member
    · apply proof world _ _ holds
      have own := stages.own
      exact {
        committed := rfl
        kept := fun t k => by rw [own]; simp
        sessions := fun row => by rw [own]; simp
        tokens := fun row => by rw [own]; simp
        others := fun j different => (stages.effect.frame different).1
        mintedSessions := rfl
        mintedTokens := rfl
        history := rfl
      }

end WorkflowForge.Identity
