import WorkflowForge.Identity.LineageRuns

/-! Rotations over all interleavings: of all calls that present one refresh token, one succeeds
at most.
-/

namespace WorkflowForge.Identity

open Python Transactions Concurrency

variable {services : Services} {world : World} {config : SessionConfig}

/-- Among the refresh calls with one token at most one succeeds; the others raise what they are
meant to raise, and none of the refresh tokens that they inserted is committed. -/
structure RotatedOnce (config : SessionConfig) : Prop where
  once
    : ∀ (i j : Nat) (first second : RefreshSessionCommand) (left right : Reply),
        config.threads[i]? = some ⟨.refresh first, .done (.ok left)⟩
        → config.threads[j]? = some ⟨.refresh second, .done (.ok right)⟩
        → first.refreshToken = second.refreshToken
        → i = j
  refused
    : ∀ (i : Nat) (command : RefreshSessionCommand) (failure : Fault),
        config.threads[i]? = some ⟨.refresh command, .done (.error failure)⟩
        → failure.refusesRefresh = true ∧ config.shared.Withheld i

/-- A refresh token is replaced by the token of one call. -/
theorem World.Spent.unique {flags : Flags} (invariant : Invariant services flags world)
    {i j : Nat} {digest : RefreshTokenDigest} (left : world.Spent i digest)
    (right : world.Spent j digest)
    : i = j := by
  obtain ⟨k, token, new, found, same, minted, pointed⟩ := left
  obtain ⟨k', token', new', found', same', minted', pointed'⟩ := right
  obtain ⟨_, row, member, alike⟩ := invariant.ledger.tokens k token found
  obtain ⟨_, row', member', alike'⟩ := invariant.ledger.tokens k' token' found'
  have digests : row.tokenDigest = row'.tokenDigest :=
    alike.digest.symm.trans (same.trans (same'.symm.trans alike'.digest))
  obtain ⟨_, rfl⟩ := invariant.ledger.digest_unique services member member' digests
  have key : k = k' :=
    (Db.find?_key found).symm.trans
      (alike.id.trans (alike'.id.symm.trans (Db.find?_key found')))
  rw [key, found', Option.some.injEq] at found
  have replacement : new.id = new'.id := by
    rw [← found, pointed'] at pointed
    exact (Option.some.inj pointed).symm
  exact (invariant.ledger.token_unique services minted minted' replacement).1

/-- The regime of runs in which no constraint refuses a revocation or a rotation for its
dates, and no call that holds locks is ended by the deadlock detector. -/
def Regime.dated : Regime where
  deletes := False
  settles := False
  calm := True
  smooth := True
  admits i op world :=
    op.lasting = true ∧ deadlocks i op world = false
    ∧ stampable i world op = true ∧ consumable i world op = true
  also _ := True
  undeleted _ _ _ _ admitted := Op.lasting_ne admitted.1
  lasting := False.elim
  unconsumed := False.elim
  stamped _ _ _ _ admitted := ⟨admitted.2.1, admitted.2.2.1⟩
  consumed _ _ _ _ admitted := ⟨admitted.2.1, admitted.2.2.2⟩
  also_kept _ _ _ _ holds := holds

/-- Where the dates are in order and no call falls to the deadlock detector, every refresh token
is rotated at most once. -/
theorem reachable_rotated_once (issues : services.Issues) (initial : world.Initial services)
    (run
      : Reaches exec (SessionCall.body services)
          (fun i op state =>
            op.lasting = true ∧ deadlocks i op state = false
            ∧ stampable i state op = true ∧ consumable i state op = true)
          (.idle world) config)
    : RotatedOnce config := by
  have sound := sessions_sound Regime.dated initial trivial run
  have coherent := discipline_coherent services Regime.dated
  refine { once := ?_, refused := ?_ }
  · intro i j first second left right ended ended' same
    have outcome := sound.finished coherent ended
    have outcome' := sound.finished coherent ended'
    cases left <;> cases right <;> try contradiction
    have spent := outcome.1.spent id
    rw [same] at spent
    exact spent.unique sound.inv.1 (outcome'.1.spent id)
  · intro i command failure ended
    have failed := sound.finished coherent ended
    exact ⟨failed.refused.kind ⟨trivial, trivial, id, issues⟩, failed.refused.withheld⟩

namespace Sample

theorem services_issues : Sample.services.Issues := fun _ => ⟨_, rfl⟩

/-- The command and the fault of a refresh call that has ended with one. -/
def refusal (config : SessionConfig) (i : Nat) : Option (RefreshSessionCommand × Fault) :=
  match config.ended i with
  | some (.refresh command, .error failure) => some (command, failure)
  | _ => none

theorem refusal_cases {config : SessionConfig} {i : Nat} {command : RefreshSessionCommand}
    {failure : Fault} (found : refusal config i = some (command, failure))
    : config.threads[i]? = some ⟨.refresh command, .done (.error failure)⟩ := by
  unfold refusal at found
  split at found
  · rename_i origin other ended
    cases found
    exact Config.ended_eq_some.mp ended
  · contradiction

end Sample

/-- Two refreshes with one token read it as unused: the second insert waits for the first
commit and then conflicts. -/
theorem second_rotation_conflicts
    : ∃ config : SessionConfig,
        Reaches exec (SessionCall.body Sample.services)
          (fun i op state =>
            op.lasting = true ∧ deadlocks i op state = false
            ∧ stampable i state op = true ∧ consumable i state op = true)
          (.idle (Sample.world Sample.ascending fun n => n)) config
        ∧ (Sample.refusal config 1).isSome
        ∧ RotatedOnce config := by
  have checked
      : (Sample.follow Sample.ascending (fun n => n)
            (fun i op state =>
              op.lasting
              && (!deadlocks i op state && (stampable i state op && consumable i state op)))
            (Sample.loggedIn ++ .start (Sample.refresh "alpha") :: Sample.acts 1 5
              ++ .start (Sample.refresh "alpha") :: Sample.acts 2 12 ++ Sample.acts 1 4)).any
          (fun config => (Sample.refusal config 1).isSome) = true := by
    decide +kernel
  obtain ⟨config, run, found⟩ :=
    Config.reaches_of_check (fun _ _ _ allowed => by simpa using allowed) checked
  exact ⟨config, run, found,
    reachable_rotated_once Sample.services_issues (Sample.world_initial _ _) run⟩

/-- A refresh reads the clock, and another one rotates the token before it goes on: the
revocation of the replay is dated before the new token, and the CHECK constraint refuses it. -/
theorem replay_raises_integrity_error
    : ¬ ∀ (services : Services) (world : World) (config : SessionConfig),
          services.Issues
          → (∀ m n, m ≤ n → world.clock m ≤ world.clock n)
          → world.Initial services
          → Reaches exec (SessionCall.body services) (fun _ op _ => op.lasting = true)
              (.idle world) config
          → RotatedOnce config := by
  intro claim
  have checked
      : (Sample.follow Sample.ascending (fun n => n) (fun _ op _ => op.lasting)
            (Sample.loggedIn ++ .start (Sample.refresh "alpha") :: Sample.acts 1 1
              ++ .start (Sample.refresh "alpha") :: Sample.acts 2 12 ++ Sample.acts 1 5)).any
          (fun config =>
            (Sample.refusal config 1).any (fun refusal => refusal.2 == .integrityError))
        = true := by
    decide +kernel
  obtain ⟨config, run, found⟩ := Config.reaches_of_check (fun _ _ _ lasting => lasting) checked
  obtain ⟨⟨command, failure⟩, refused, kind⟩ := (Option.any_eq_true _ _).mp found
  have ended := Sample.refusal_cases refused
  obtain rfl : failure = .integrityError := beq_iff_eq.mp kind
  have holds := claim Sample.services _ config Sample.services_issues
    (fun _ _ le => Int.ofNat_le.mpr le) (Sample.world_initial _ _) run
  exact absurd (holds.refused 1 command _ ended).1 (by decide)

end WorkflowForge.Identity
