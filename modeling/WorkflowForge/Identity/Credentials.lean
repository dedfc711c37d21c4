import WorkflowForge.Identity.Updates

/-! The steps that the session use cases share: new ids, new tokens, audit events and the end
of the transaction. -/

namespace WorkflowForge.Identity

open Python Transactions Concurrency

variable {services : Services} {regime : Regime} {i : Nat} {world after : World}
variable {raised : Fault → World → Prop} {pre : World → Prop}

-----------------------------------------------------------------------------------------
-- Ids and tokens
-----------------------------------------------------------------------------------------

/-- A new id is never the nil UUID. -/
theorem newTypedId_spec {fieldName : String} (tame : Tame services regime i pre)
    : Spec services regime i pre (newTypedId fieldName)
        (fun k world => pre world ∧ (world.Untaken i k ∧ k ≠ 0)) raised := by
  apply Spec.bind (newUuid_spec tame)
  intro k
  refine Spec.fact (fun world _ holds => holds.2.2) (fun nonzero => ?_)
  have valid : validateUuid k fieldName = .ok () := by
    simp [validateUuid, raiseIf, nonzero]
  rw [valid]
  exact Spec.pure (tame.and ((Tame.untaken k).and (.const _))) (fun _ holds => holds)

theorem newRefreshCredential_spec (tame : Tame services regime i pre)
    : Spec services regime i pre (newRefreshCredential services)
        (fun credential world =>
          pre world ∧ world.GeneratedBy services i credential.2) raised := by
  apply Spec.bind (generateToken_spec tame)
  intro token
  exact Spec.pure (tame.and (.generatedBy _)) (fun _ holds => holds)

/-- Every access token can be issued. -/
def Services.Issues (services : Services) : Prop :=
  ∀ claims, ∃ token, services.issueToken claims = .ok token

/-- Issuing an access token fails only where the issuer does. -/
theorem issueAccessToken_spec {user session : UUID} {issuedAt : Timestamp}
    (tame : Tame services regime i pre) (known : user ≠ 0)
    (unissued
      : ¬ services.Issues → ∀ failure world, pre world → raised failure world)
    : Spec services regime i pre (issueAccessToken services user session issuedAt)
        (fun _ => pre) raised := by
  apply Spec.bind (newUuid_spec tame)
  intro k
  refine Spec.fact (fun world _ holds => holds.2.2) (fun nonzero => ?_)
  have stable : Tame services regime i (fun world =>
      pre world ∧ (world.Untaken i k ∧ k ≠ 0)) := tame.and ((Tame.untaken k).and (.const _))
  let claims : AccessTokenClaims := {
    userId := user
    sessionId := session
    tokenId := k
    issuedAt
    expiresAt := issuedAt + services.policy.accessTokenLifetime
  }
  have valid : claims.postInit = .ok claims := by
    refine AccessTokenClaims.postInit_eq_ok.mpr ⟨⟨known, nonzero, ?_⟩, rfl⟩
    exact Int.lt_add_of_pos_right _ services.policy.access_pos
  rw [show AccessTokenClaims.postInit {
    userId := user, sessionId := session, tokenId := k, issuedAt,
    expiresAt := issuedAt + services.policy.accessTokenLifetime } = .ok claims from valid]
  change Spec services regime i _ (liftExcept (services.issueToken claims) >>= _) _ _
  cases issued : services.issueToken claims with
  | ok token => exact Spec.pure stable (fun _ holds => holds.1)
  | error failure =>
      refine Spec.throw stable (fun world holds => unissued ?_ failure world holds.1)
      intro issues
      obtain ⟨token, ok⟩ := issues claims
      rw [issued] at ok
      contradiction

-----------------------------------------------------------------------------------------
-- Audit events
-----------------------------------------------------------------------------------------

/-- Recording an audit event changes nothing else, and fails only against a constraint. -/
theorem audited_spec {id : App UUID} {eventType : SecurityEventType}
    {outcome : SecurityOutcome} {occurredAt : Timestamp} {actorUserId sessionId : Option UUID}
    {requestContext : AuditRequestContext} {metadata : List (String × AuditValue)}
    (tame : Tame services regime i pre) (proof : EventProof i pre)
    (drawn
      : services.audit = true
        → Spec services regime i pre id
            (fun k world => pre world ∧ (world.Untaken i k ∧ k ≠ 0)) raised)
    (failed : ¬ regime.calm → ∀ failure world, pre world → raised failure world)
    : Spec services regime i pre
        (audited services id eventType outcome occurredAt actorUserId sessionId requestContext
          metadata)
        (fun _ => pre) raised := by
  unfold audited
  cases recorded : services.audit with
  | false => exact Spec.pure tame (fun _ holds => holds)
  | true =>
      apply Spec.bind (drawn recorded)
      intro k
      unfold recordEvent
      apply Spec.bind
      · exact (insertEvent_spec tame proof).weaken (fun _ holds => ⟨holds.1, holds.2.1⟩)
          (fun _ _ holds => holds) (fun _ _ failed => failed)
      · intro answer
        match answer with
        | .ok () => exact Spec.pure (tame.and (.const _)) (fun _ holds => holds.1)
        | .error failure =>
            refine Spec.throw (tame.and (.const _)) (fun world holds => failed ?_ _ world holds.1)
            intro calm
            exact nomatch holds.2 calm

-----------------------------------------------------------------------------------------
-- The handler
-----------------------------------------------------------------------------------------

/-- `except Exception: rollback; raise`. -/
theorem orRollback_spec {α : Type} {call : App α} {value : α → World → Prop}
    {known : Fault → World → Prop} (body : Spec services regime i pre call value raised)
    (tame : ∀ failure, Tame services regime i (raised failure))
    (tame' : ∀ failure, Tame services regime i (known failure))
    (undone
      : ∀ failure world, Invariant services regime.toFlags world → raised failure world
          → known failure (world.retract i))
    : Spec services regime i pre (orRollback call) value known := by
  apply Triple.tryCatch (discipline_coherent services regime).toOrdered body
  · intro failure
    apply Spec.bind (rollback_spec (tame failure) (tame' failure) (undone failure))
    intro _
    exact Spec.throw (tame' failure) (fun _ holds => holds)
  · exact fun _ _ _ holds => holds

/-- A valid row is loaded as it is. -/
theorem loaded_eq {α : Type} {fromRecord : α → Except Fault α} {record : Option α}
    (ok : ∀ row, record = some row → fromRecord row = .ok row)
    : loaded fromRecord record = Program.done (.ok record) := by
  cases record with
  | none => rfl
  | some row =>
      unfold loaded
      simp only [ok row rfl]
      rfl

end WorkflowForge.Identity
