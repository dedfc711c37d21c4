import WorkflowForge.Identity.RotationRuns

/-! Revocations over all interleavings: a committed revocation is final, and the calls that are
meant to revoke a session do so unless a row is dated after their clock reading.
-/

namespace WorkflowForge.Identity

open Python Transactions Concurrency

variable {services : Services} {world : World} {earlier later : SessionConfig}

-----------------------------------------------------------------------------------------
-- Finality
-----------------------------------------------------------------------------------------

/-- What follows from a revocation of session `k` that is committed in `earlier`: it lasts, and
no call that starts afterwards succeeds with a token of the session. -/
structure StaysRevoked (services : Services) (k : UUID) (earlier later : SessionConfig)
    : Prop where
  revoked
    : ∀ session ∈ later.shared.committed .authSessions,
        session.id = k → session.revokedAt.isSome
  verify
    : ∀ (i : Nat) (token : Text) (reply : Reply),
        earlier.threads.length ≤ i
        → later.threads[i]? = some ⟨.verify token, .done (.ok reply)⟩
        → ∃ principal : VerifiedAccessPrincipal,
            reply = .principal principal ∧ principal.sessionId ≠ k
  refresh
    : ∀ (i : Nat) (command : RefreshSessionCommand) (reply : Reply),
        earlier.threads.length ≤ i
        → later.threads[i]? = some ⟨.refresh command, .done (.ok reply)⟩
        → ∀ j token,
            (j, token) ∈ later.shared.mintedTokens
            → token.tokenDigest = services.digestToken command.refreshToken
            → token.sessionId ≠ k

/-- A committed revocation is final. -/
theorem revoked_session_final (initial : world.Initial services)
    (before
      : Reaches exec (SessionCall.body services) (fun _ _ _ => True) (.idle world) earlier)
    {session : AuthSession} (found : session ∈ earlier.shared.committed .authSessions)
    (stamped : session.revokedAt.isSome)
    (run : Reaches exec (SessionCall.body services) (fun _ _ _ => True) earlier later)
    : StaysRevoked services session.id earlier later := by
  have sound := sessions_sound Regime.free initial trivial before
  have here := Db.find?_of_mem sound.inv.1.coherent.keyed found
  have dead := sound.inv.1.dead here stamped
  have noted := sessions_later (fun _ _ _ keeps => keeps.dead session.id) sound dead run
  have invariant := noted.inv.1
  refine { revoked := ?_, verify := ?_, refresh := ?_ }
  · intro row member same
    apply noted.inv.2.2.committed row
    rw [← same]
    exact Db.find?_of_mem invariant.coherent.keyed member
  · intro i token reply late ended
    have outcome := noted.finished (discipline_coherent services _) ended late
    cases reply <;> try contradiction
    rename_i principal
    refine ⟨principal, rfl, ?_⟩
    intro same
    exact outcome (fun state also => same ▸ also.2)
  · intro i command reply late ended j token member digest same
    have outcome := noted.finished (discipline_coherent services _) ended late
    cases reply <;> try contradiction
    obtain ⟨_, minted, member', digest', parent⟩ := outcome.1.origin
    obtain ⟨_, rfl⟩ := invariant.ledger.digest_unique services member member'
      (digest.trans digest'.symm)
    exact outcome.1.undoomed (fun state also => parent ▸ same ▸ also.2)

/-- A refresh after a logout finds the session revoked. -/
theorem logged_out_session_final
    : ∃ (earlier later : SessionConfig) (session : AuthSession),
        Reaches exec (SessionCall.body Sample.services) (fun _ _ _ => True)
          (.idle (Sample.world Sample.ascending fun n => n)) earlier
        ∧ session ∈ earlier.shared.committed .authSessions
        ∧ session.revokedAt.isSome
        ∧ Reaches exec (SessionCall.body Sample.services) (fun _ _ _ => True) earlier later
        ∧ (Sample.refusal later 2).isSome
        ∧ StaysRevoked Sample.services session.id earlier later := by
  have checked
      : (Sample.follow Sample.ascending (fun n => n) (fun _ _ _ => true)
            (Sample.loggedIn
              ++ .start (Sample.logout Sample.ascending) :: Sample.acts 1 9)).any
          (fun earlier =>
            (earlier.follow exec (SessionCall.body Sample.services) (fun _ _ _ => true)
              (.start (Sample.refresh "alpha") :: Sample.acts 2 3)).any
            (fun later =>
              (earlier.shared.committed .authSessions).any
                (fun session => session.revokedAt.isSome)
              && (Sample.refusal later 2).isSome)) = true := by
    decide +kernel
  obtain ⟨earlier, later, before, run, found⟩ :=
    Config.reaches_of_checks (fun _ _ _ _ => trivial) checked
  rw [Bool.and_eq_true] at found
  obtain ⟨session, member, stamped⟩ := List.any_eq_true.mp found.1
  exact ⟨earlier, later, session, before, member, stamped, run, found.2,
    revoked_session_final (Sample.world_initial _ _) before member stamped run⟩

-----------------------------------------------------------------------------------------
-- Durable revocations
-----------------------------------------------------------------------------------------

/-- The session is there, and revoked. -/
def RevokedIn (db : Database) (k : UUID) : Prop :=
  ∃ session, sessionAt db k = some session ∧ session.revokedAt.isSome

theorem World.Revoked.committed {k : UUID} (revoked : world.Revoked False k)
    : RevokedIn world.committed k := by
  obtain ⟨session, found⟩ := Option.isSome_iff_exists.mp (revoked.present id)
  exact ⟨session, found, revoked.dead.committed session found⟩

/-- The calls that are meant to revoke sessions and have ended in `later` did so: a refresh that
read its token as used, a logout that read the session as the user's, and a logout from all
sessions, for those that were committed in `earlier`, before it began. -/
structure RevocationsHold (services : Services) (earlier later : SessionConfig) : Prop where
  replay
    : ∀ (i : Nat) (command : RefreshSessionCommand) (result : Except Fault Reply) db token,
        later.threads[i]? = some ⟨.refresh command, .done result⟩
        → (later.shared.store.history i).opened = some db
        → token ∈ withDigest db (services.digestToken command.refreshToken)
        → token.usedAt.isSome
        → (∃ message, result = .error (.refreshTokenReplay message))
          ∧ RevokedIn later.shared.committed token.sessionId
  logout
    : ∀ (i : Nat) (command : LogoutSessionCommand) (result : Except Fault Reply) db session,
        later.threads[i]? = some ⟨.logout command, .done result⟩
        → (later.shared.store.history i).opened = some db
        → sessionAt db command.sessionId = some session
        → session.userId = command.userId
        → (∃ reply, result = .ok reply)
          ∧ RevokedIn later.shared.committed command.sessionId
  logoutAll
    : ∀ (i : Nat) (command : LogoutAllSessionsCommand) (result : Except Fault Reply) session,
        earlier.threads.length ≤ i
        → later.threads[i]? = some ⟨.logoutAll command, .done result⟩
        → session ∈ earlier.shared.committed .authSessions
        → session.userId = command.userId
        → (∃ reply, result = .ok reply)
          ∧ RevokedIn later.shared.committed session.id

theorem Regime.stampable_lasting : False → ¬ False :=
  False.elim

/-- The regime of runs in which no row is dated after the revocation that meets it, and no call
that holds locks is ended by the deadlock detector. -/
def Regime.stampable : Regime where
  deletes := False
  settles := False
  calm := True
  smooth := False
  admits i op world :=
    op.lasting = true ∧ deadlocks i op world = false ∧ Identity.stampable i world op = true
  also _ := True
  undeleted _ _ _ _ admitted := Op.lasting_ne admitted.1
  lasting := stampable_lasting
  unconsumed := False.elim
  stamped _ _ _ _ admitted := admitted.2
  consumed := False.elim
  also_kept _ _ _ _ holds := holds

/-- The session stays one of the user's where nothing is deleted. -/
theorem Keeps.enrolled {flags : Flags} (lasting : ¬ flags.deletes) (user k : UUID) (j : Nat)
    (before after : World) (keeps : Keeps flags j before after)
    (holds : ∃ session, sessionAt before.committed k = some session ∧ session.userId = user)
    : ∃ session, sessionAt after.committed k = some session ∧ session.userId = user := by
  obtain ⟨session, found, owner⟩ := holds
  obtain ⟨row, found', alike⟩ := keeps.sessions lasting k session found
  exact ⟨row, found', alike.user.trans owner⟩

/-- Where no row is dated after the revocation that meets it and no call falls to the deadlock
detector, every revocation holds. -/
theorem reachable_revocations_hold (ids : services.audit = true → services.logoutIds = true)
    (initial : world.Initial services)
    (before
      : Reaches exec (SessionCall.body services)
          (fun i op state =>
            op.lasting = true ∧ deadlocks i op state = false ∧ stampable i state op = true)
          (.idle world) earlier)
    (run
      : Reaches exec (SessionCall.body services)
          (fun i op state =>
            op.lasting = true ∧ deadlocks i op state = false ∧ stampable i state op = true)
          earlier later)
    : RevocationsHold services earlier later := by
  have start := sessions_sound Regime.stampable initial trivial before
  have sound := sessions_sound Regime.stampable initial trivial (before.trans run)
  have coherent := discipline_coherent services Regime.stampable
  refine { replay := ?_, logout := ?_, logoutAll := ?_ }
  · intro i command result db token ended opened member used
    have outcome := sound.finished coherent ended
    cases result with
    | ok reply =>
        cases reply <;> try contradiction
        obtain ⟨db', opened', unused⟩ := outcome.2
        rw [opened, Option.some.injEq] at opened'
        rw [unused token (opened' ▸ member)] at used
        contradiction
    | error failure =>
        obtain ⟨db', opened', replayed⟩ := outcome.replay
        rw [opened, Option.some.injEq] at opened'
        obtain ⟨⟨message, kind⟩, revoked⟩ :=
          replayed token (opened' ▸ member) used trivial id
        exact ⟨⟨message, congrArg _ kind⟩, revoked.committed⟩
  · intro i command result db session ended opened found owner
    have outcome := sound.finished coherent ended
    cases result with
    | ok reply => exact ⟨⟨reply, rfl⟩, World.Revoked.committed outcome⟩
    | error failure =>
        obtain ⟨db', opened', unowned⟩ := outcome ⟨trivial, id, ids⟩
        rw [opened, Option.some.injEq] at opened'
        exact absurd owner (unowned session (opened' ▸ found))
  · intro i command result session late ended member owner
    have here := Db.find?_of_mem start.inv.1.coherent.keyed member
    have noted := sessions_later (Keeps.enrolled id command.userId session.id) start
      ⟨session, here, owner⟩ run
    have outcome := noted.finished (discipline_coherent services _) ended late
    cases result with
    | ok reply =>
        have revoked := outcome session.id (fun state also => also.2) id
        exact ⟨⟨reply, rfl⟩, World.Revoked.committed revoked⟩
    | error failure => exact absurd ⟨trivial, id, ids⟩ outcome

/-- A logout from the session that a login has committed. -/
theorem logout_revocation_holds
    : ∃ earlier later : SessionConfig,
        Reaches exec (SessionCall.body Sample.services)
          (fun i op state =>
            op.lasting = true ∧ deadlocks i op state = false ∧ stampable i state op = true)
          (.idle (Sample.world Sample.ascending fun n => n)) earlier
        ∧ Reaches exec (SessionCall.body Sample.services)
            (fun i op state =>
              op.lasting = true ∧ deadlocks i op state = false ∧ stampable i state op = true)
            earlier later
        ∧ (earlier.shared.committed .authSessions).map AuthSession.revokedAt = [none]
        ∧ (later.shared.committed .authSessions).map AuthSession.revokedAt = [some 1]
        ∧ RevocationsHold Sample.services earlier later := by
  have checked
      : (Sample.follow Sample.ascending (fun n => n)
            (fun i op state => op.lasting && (!deadlocks i op state && stampable i state op))
            Sample.loggedIn).any
          (fun earlier =>
            (earlier.follow exec (SessionCall.body Sample.services)
              (fun i op state => op.lasting && (!deadlocks i op state && stampable i state op))
              (.start (Sample.logout Sample.ascending) :: Sample.acts 1 9)).any
            (fun later =>
              (earlier.shared.committed .authSessions).map AuthSession.revokedAt == [none]
              && (later.shared.committed .authSessions).map AuthSession.revokedAt
                == [some 1])) = true := by
    decide +kernel
  obtain ⟨earlier, later, before, run, found⟩ :=
    Config.reaches_of_checks (fun _ _ _ allowed => by simpa using allowed) checked
  simp only [Bool.and_eq_true, beq_iff_eq] at found
  exact ⟨earlier, later, before, run, found.1, found.2,
    reachable_revocations_hold (fun _ => rfl) (Sample.world_initial _ _) before run⟩

/-- A logout holds the token and a logout from all sessions the session: when the first one needs
the session, the deadlock detector may end it, and its revocation is rolled back. -/
example
    : (Sample.follow Sample.ascending (fun n => n) (fun _ op _ => op.lasting)
          (Sample.loggedIn ++ .start (Sample.logout Sample.ascending) :: Sample.acts 1 5
            ++ .start Sample.logoutAll :: Sample.acts 2 3 ++ Sample.acts 1 2)).bind
        (fun config => (config.ended 1).map Prod.snd)
      = some (.error .dbapiError) := by
  decide +kernel

/-- A refresh reads the clock, and another one rotates the token before it goes on: the refresh
sees a used token, and its revocation of the session is rolled back. -/
theorem replay_revocation_rolled_back
    : ¬ ∀ (services : Services) (world : World) (earlier later : SessionConfig),
          (services.audit = true → services.logoutIds = true)
          → (∀ m n, m ≤ n → world.clock m ≤ world.clock n)
          → world.Initial services
          → Reaches exec (SessionCall.body services) (fun _ op _ => op.lasting = true)
              (.idle world) earlier
          → Reaches exec (SessionCall.body services) (fun _ op _ => op.lasting = true)
              earlier later
          → RevocationsHold services earlier later := by
  intro claim
  have checked
      : (Sample.follow Sample.ascending (fun n => n) (fun _ op _ => op.lasting)
            (Sample.loggedIn ++ .start (Sample.refresh "alpha") :: Sample.acts 1 1
              ++ .start (Sample.refresh "alpha") :: Sample.acts 2 12 ++ Sample.acts 1 5)).any
          (fun config =>
            (Sample.refusal config 1).any (fun refusal =>
              refusal.2 == .integrityError
              && (config.shared.store.history 1).opened.any (fun db =>
                  (withDigest db (Sample.services.digestToken refusal.1.refreshToken)).any
                    (fun token => token.usedAt.isSome))))
        = true := by
    decide +kernel
  obtain ⟨config, run, found⟩ := Config.reaches_of_check (fun _ _ _ lasting => lasting) checked
  obtain ⟨⟨command, failure⟩, refused, facts⟩ := (Option.any_eq_true _ _).mp found
  rw [Bool.and_eq_true] at facts
  obtain rfl : failure = .integrityError := beq_iff_eq.mp facts.1
  obtain ⟨db, opened, shown⟩ := (Option.any_eq_true _ _).mp facts.2
  obtain ⟨token, member, used⟩ := List.any_eq_true.mp shown
  have holds := claim Sample.services _ config config (fun _ => rfl)
    (fun _ _ le => Int.ofNat_le.mpr le) (Sample.world_initial _ _) run .refl
  obtain ⟨⟨message, kind⟩, _⟩ :=
    holds.replay 1 command _ db token (Sample.refusal_cases refused) opened member used
  cases kind

end WorkflowForge.Identity
