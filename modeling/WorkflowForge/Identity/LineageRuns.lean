import WorkflowForge.Identity.SessionRuns

/-! The lines of refresh tokens over all interleavings: in every committed state they are in
order, and a revocation leaves no current token unless a rotation overtakes it.
-/

namespace WorkflowForge.Identity

open Python Transactions Concurrency

variable {services : Services} {world : World} {config : SessionConfig}

-----------------------------------------------------------------------------------------
-- Tokens in order
-----------------------------------------------------------------------------------------

/-- The refresh tokens of every session form one line of succession, within the lifetime of
their session. -/
structure TokensInOrder (db : Database) : Prop where
  generations
    : (db .refreshTokens).Pairwise (fun first second =>
        first.sessionId = second.sessionId → first.generation ≠ second.generation)
  family
    : ∀ first ∈ db .refreshTokens,
        ∀ second ∈ db .refreshTokens,
          first.sessionId = second.sessionId → first.tokenFamilyId = second.tokenFamilyId
  current
    : (db .refreshTokens).Pairwise (fun first second =>
        first.sessionId = second.sessionId → ¬ (first.Live ∧ second.Live))
  used
    : ∀ token ∈ db .refreshTokens, token.usedAt.isSome ↔ token.replacedByTokenId.isSome
  replaced
    : ∀ token ∈ db .refreshTokens,
        ∀ replacement, token.replacedByTokenId = some replacement
          → ∃ next ∈ db .refreshTokens,
              next.id = replacement
              ∧ next.sessionId = token.sessionId
              ∧ next.tokenFamilyId = token.tokenFamilyId
              ∧ next.generation = token.generation + 1
  within
    : ∀ token ∈ db .refreshTokens,
        ∃ session ∈ db .authSessions,
          session.id = token.sessionId ∧ token.expiresAt ≤ session.expiresAt

/-- A relation between rows with different keys holds pairwise. -/
theorem pairwise_rows {db : Database} (keyed : db.Keyed) (t : TableName)
    {related : TableRow t → TableRow t → Prop}
    (apart
      : ∀ first ∈ db t, ∀ second ∈ db t,
          primaryKey t first ≠ primaryKey t second → related first second)
    : (db t).Pairwise related := by
  have different := List.pairwise_map.mp (keyed t)
  exact different.imp_of_mem (fun left right => apart _ left _ right)

/-- Lines in keyed tables without clashes are in order. -/
theorem Lineage.in_order {lifetime : Timedelta} {db : Database} (lineage : Lineage lifetime db)
    (keyed : db.Keyed) (unique : db.Unique)
    : TokensInOrder db := by
  have found {token : RefreshTokenRecord} (member : token ∈ db .refreshTokens)
      : tokenAt db token.id = some token :=
    Db.find?_of_mem keyed member
  refine {
    generations := ?_
    family := ?_
    current := ?_
    used := ?_
    replaced := ?_
    within := ?_
  }
  · apply pairwise_rows keyed .refreshTokens
    intro first left second right apart session generation
    have clash := unique .refreshTokens first second left right apart
    simp [uniqueClash, session, generation] at clash
  · intro first left second right session
    exact lineage.family _ _ first second (found left) (found right) session
  · apply pairwise_rows keyed .refreshTokens
    rintro first left second right apart session ⟨live, live'⟩
    exact apart (lineage.current _ _ first second (found left) (found right) session live live')
  · intro token member
    rw [lineage.used _ token (found member)]
  · intro token member replacement pointed
    obtain ⟨next, here, session, family, generation, _⟩ :=
      lineage.replaced _ token replacement (found member) pointed
    exact ⟨next, Db.mem_of_find? here, Db.find?_key here, session, family, generation⟩
  · intro token member
    obtain ⟨session, here, expiry⟩ := lineage.owned _ token (found member)
    exact ⟨session, Db.mem_of_find? here, Db.find?_key here, expiry⟩

/-- In every state of every run the refresh tokens are in order. -/
theorem reachable_tokens_in_order (initial : world.Initial services)
    (run
      : Reaches exec (SessionCall.body services) (fun _ _ _ => True) (.idle world) config)
    : TokensInOrder config.shared.committed := by
  have sound := sessions_sound Regime.free initial trivial run
  exact sound.inv.1.lineage.in_order sound.inv.1.coherent.keyed sound.inv.1.coherent.settled

/-- A login and a rotation leave two tokens in order. -/
theorem rotated_tokens_in_order
    : ∃ config : SessionConfig,
        Reaches exec (SessionCall.body Sample.services) (fun _ _ _ => True)
          (.idle (Sample.world Sample.ascending fun n => n)) config
        ∧ (config.shared.committed .refreshTokens).length = 2
        ∧ TokensInOrder config.shared.committed := by
  have checked
      : (Sample.follow Sample.ascending (fun n => n) (fun _ _ _ => true)
            (Sample.loggedIn ++ .start (Sample.refresh "alpha") :: Sample.acts 1 12)).any
          (fun config => (config.shared.committed .refreshTokens).length == 2) = true := by
    decide +kernel
  obtain ⟨config, run, two⟩ := Config.reaches_of_check (fun _ _ _ _ => trivial) checked
  exact ⟨config, run, by simpa using two,
    reachable_tokens_in_order (Sample.world_initial _ _) run⟩

-----------------------------------------------------------------------------------------
-- Current tokens of revoked sessions
-----------------------------------------------------------------------------------------

/-- No revoked session has a token that is neither used nor revoked. -/
def NoCurrentTokenLeft (db : Database) : Prop :=
  ∀ session ∈ db .authSessions,
    ∀ token ∈ db .refreshTokens,
      session.revokedAt.isSome → token.sessionId = session.id → ¬ token.Live

instance (db : Database) : Decidable (NoCurrentTokenLeft db) :=
  inferInstanceAs (Decidable (∀ session ∈ db .authSessions, ∀ token ∈ db .refreshTokens, _))

/-- The row that a revocation stamps has not been consumed since the snapshot. -/
def unovertaken (i : Nat) (world : World) : Op → Bool
  | .update (.revokeRefreshToken k _ _) =>
      (tokenAt (world.store.view i) k).all (fun token => token.usedAt.isNone)
  | _ => true

theorem Op.lasting_ne {op : Op} (lasting : op.lasting = true)
    : (∀ ids, op ≠ .deleteRefreshTokens ids) ∧ ∀ ids, op ≠ .deleteSessions ids := by
  constructor <;> (rintro ids rfl; contradiction)

/-- The regime of runs in which no rotation overtakes a revocation. -/
def Regime.unovertaken : Regime where
  deletes := False
  settles := True
  calm := False
  smooth := False
  admits i op world := op.lasting = true ∧ Identity.unovertaken i world op = true
  also _ := True
  undeleted _ _ _ _ admitted := Op.lasting_ne admitted.1
  lasting _ := id
  unconsumed := by
    intro _ i k session revokedAt world admitted token found
    have unused := admitted.2
    simp only [Identity.unovertaken, found, Option.all_some] at unused
    exact Option.isNone_iff_eq_none.mp unused
  stamped := False.elim
  consumed := False.elim
  also_kept _ _ _ _ holds := holds

/-- Where no rotation overtakes a revocation, no current token is left in a revoked session. -/
theorem reachable_no_current_token_left (initial : world.Initial services)
    (run
      : Reaches exec (SessionCall.body services)
          (fun i op state => op.lasting = true ∧ unovertaken i state op = true)
          (.idle world) config)
    : NoCurrentTokenLeft config.shared.committed := by
  have sound := sessions_sound Regime.unovertaken initial trivial run
  intro session left token right stamped parent
  have keyed := sound.inv.1.coherent.keyed
  exact sound.inv.1.quenched trivial session.id token.id session token
    (Db.find?_of_mem keyed left) stamped (Db.find?_of_mem keyed right) parent

/-- A logout that nothing overtakes revokes the session together with its token. -/
theorem logout_leaves_no_current_token
    : ∃ config : SessionConfig,
        Reaches exec (SessionCall.body Sample.services)
          (fun i op state => op.lasting = true ∧ unovertaken i state op = true)
          (.idle (Sample.world Sample.ascending fun n => n)) config
        ∧ (config.shared.committed .authSessions).map AuthSession.revokedAt = [some 1]
        ∧ (config.shared.committed .refreshTokens).length = 1
        ∧ NoCurrentTokenLeft config.shared.committed := by
  have checked
      : (Sample.follow Sample.ascending (fun n => n)
            (fun i op state => op.lasting && unovertaken i state op)
            (Sample.loggedIn ++ .start (Sample.logout Sample.ascending) :: Sample.acts 1 9)).any
          (fun config =>
            (config.shared.committed .authSessions).map AuthSession.revokedAt == [some 1]
            && (config.shared.committed .refreshTokens).length == 1) = true := by
    decide +kernel
  obtain ⟨config, run, found⟩ :=
    Config.reaches_of_check (fun _ _ _ => Bool.and_eq_true_iff.mp) checked
  simp only [Bool.and_eq_true, beq_iff_eq] at found
  exact ⟨config, run, found.1, found.2,
    reachable_no_current_token_left (Sample.world_initial _ _) run⟩

/-- A rotation that commits between the snapshot of a logout and its row update leaves a
current token in the revoked session. -/
theorem current_token_overtakes_logout
    : ¬ ∀ (services : Services) (world : World) (config : SessionConfig),
          world.Initial services
          → Reaches exec (SessionCall.body services) (fun _ op _ => op.lasting = true)
              (.idle world) config
          → NoCurrentTokenLeft config.shared.committed := by
  intro claim
  have checked
      : (Sample.follow Sample.ascending (fun n => n) (fun _ op _ => op.lasting)
            (Sample.loggedIn ++ .start (Sample.logout Sample.ascending) :: Sample.acts 1 4
              ++ .start (Sample.refresh "alpha") :: Sample.acts 2 12 ++ Sample.acts 1 5)).any
          (fun config => !decide (NoCurrentTokenLeft config.shared.committed)) = true := by
    decide +kernel
  obtain ⟨config, run, found⟩ := Config.reaches_of_check (fun _ _ _ lasting => lasting) checked
  have holds := claim Sample.services _ config (Sample.world_initial _ _) run
  simp [holds] at found

end WorkflowForge.Identity
