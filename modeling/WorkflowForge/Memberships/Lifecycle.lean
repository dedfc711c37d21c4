import WorkflowForge.Application.MembershipAdministration
import WorkflowForge.Infrastructure.IdentityRecords

/-! The life of a membership under any sequence of domain operations. -/

namespace WorkflowForge

theorem validateIdentityUuid_eq_ok {value : UUID} {fieldName : String}
    : validateIdentityUuid value fieldName = .ok () ↔ value ≠ 0 := by
  unfold validateIdentityUuid
  split
  · rename_i nil
    simp [nil]
  · rename_i some
    simp [some]

namespace Membership

/-- An exception that `_validate_lifecycle_state` raises for some membership. -/
def LifecycleFailure (failure : IdentityExn) : Prop :=
  ∃ membership : Membership, membership.validateLifecycleState = .error failure

/-- The texts of the lifecycle validation. -/
def lifecycleMessages : List String := [
  "Invited membership must have an invited timestamp.",
  "Invited membership cannot have joined or suspended timestamps.",
  "Invited membership cannot have a removed timestamp.",
  "Active membership must have a joined timestamp.",
  "Active membership cannot have suspended or removed timestamps.",
  "Suspended membership must have joined and suspended timestamps.",
  "Suspended membership cannot have a removed timestamp.",
  "Removed membership must have a removed timestamp."
]

theorem LifecycleFailure.message {failure : IdentityExn} (raised : LifecycleFailure failure)
    : ∃ message ∈ lifecycleMessages, failure = .invalidTimestamp message := by
  obtain ⟨membership, raised⟩ := raised
  unfold validateLifecycleState at raised
  split at raised <;> repeat' split at raised
  all_goals first
    | contradiction
    | cases raised; exact ⟨_, by decide, rfl⟩

/-- The stamps that each status asks for. -/
def Stamped (membership : Membership) : Prop :=
  match membership.status with
  | .invited =>
      membership.invitedAt.isSome ∧ membership.joinedAt = none ∧ membership.suspendedAt = none
      ∧ membership.removedAt = none
  | .active =>
      membership.joinedAt.isSome ∧ membership.suspendedAt = none ∧ membership.removedAt = none
  | .suspended =>
      membership.joinedAt.isSome ∧ membership.suspendedAt.isSome ∧ membership.removedAt = none
  | .removed => membership.removedAt.isSome

theorem validateLifecycleState_eq_ok {membership : Membership}
    : membership.validateLifecycleState = .ok () ↔ membership.Stamped := by
  obtain ⟨id, userId, organizationId, role, status, createdAt, updatedAt, invitedAt, joinedAt,
    suspendedAt, removedAt⟩ := membership
  cases status <;> cases invitedAt <;> cases joinedAt <;> cases suspendedAt
    <;> cases removedAt
    <;> simp [validateLifecycleState, Stamped]

/-- The table's CHECK constraint asks for the same stamps. -/
theorem lifecycleTimestampsConsistent_iff {membership : Membership}
    : (Records.recordFromMembership membership).lifecycleTimestampsConsistent = true
      ↔ membership.Stamped := by
  obtain ⟨id, userId, organizationId, role, status, createdAt, updatedAt, invitedAt, joinedAt,
    suspendedAt, removedAt⟩ := membership
  cases status <;> cases invitedAt <;> cases joinedAt <;> cases suspendedAt
    <;> cases removedAt
    <;> simp [Records.MembershipRecord.lifecycleTimestampsConsistent, Stamped,
      Records.recordFromMembership, MembershipStatus.value]

/-- The checks of `Membership.__post_init__`. -/
structure WellFormed (membership : Membership) : Prop where
  id : membership.id ≠ 0
  user : membership.userId ≠ 0
  organization : membership.organizationId ≠ 0
  updated : membership.createdAt ≤ membership.updatedAt
  stamped : membership.Stamped

theorem postInit_iff {membership result : Membership}
    : membership.postInit = .ok result ↔ membership.WellFormed ∧ result = membership := by
  constructor
  · intro accepted
    obtain ⟨⟨⟩, id, accepted⟩ := exists_of_bind_ok accepted
    obtain ⟨⟨⟩, user, accepted⟩ := exists_of_bind_ok accepted
    obtain ⟨⟨⟩, organization, accepted⟩ := exists_of_bind_ok accepted
    split at accepted
    · cases accepted
    · rename_i updated
      obtain ⟨⟨⟩, lifecycle, accepted⟩ := exists_of_bind_ok accepted
      refine ⟨?_, (Except.ok.inj accepted).symm⟩
      exact {
        id := validateIdentityUuid_eq_ok.mp id
        user := validateIdentityUuid_eq_ok.mp user
        organization := validateIdentityUuid_eq_ok.mp organization
        updated := Int.not_lt.mp updated
        stamped := validateLifecycleState_eq_ok.mp lifecycle
      }
  · rintro ⟨valid, rfl⟩
    simp only [postInit, validateIdentityUuid_eq_ok.mpr valid.id,
      validateIdentityUuid_eq_ok.mpr valid.user,
      validateIdentityUuid_eq_ok.mpr valid.organization,
      validateLifecycleState_eq_ok.mpr valid.stamped, bind, Except.bind]
    rw [if_neg (Int.not_lt.mpr valid.updated)]
    rfl

/-- What one operation can make of a membership. -/
inductive Evolves (self : Membership) : Membership → Prop where
  | same : Evolves self self
  | activated (timestamp : Timestamp) (invited : self.status = .invited)
    : Evolves self {
        self with
        status := .active
        updatedAt := timestamp
        joinedAt := some timestamp
        suspendedAt := none
        removedAt := none
      }
  | reactivated (timestamp : Timestamp) (suspended : self.status = .suspended)
    : Evolves self {
        self with
        status := .active
        updatedAt := timestamp
        suspendedAt := none
        removedAt := none
      }
  | suspended (timestamp : Timestamp) (active : self.status = .active)
    : Evolves self {
        self with
        status := .suspended
        updatedAt := timestamp
        suspendedAt := some timestamp
        removedAt := none
      }
  | removed (timestamp : Timestamp) (present : self.status ≠ .removed)
    : Evolves self {
        self with
        status := .removed
        updatedAt := timestamp
        removedAt := some timestamp
      }
  | reassigned (role : Role) (timestamp : Timestamp)
    (assignable : self.status = .invited ∨ self.status = .active)
    : Evolves self { self with role, updatedAt := timestamp }

/-- The outcome of an operation on a well-formed membership: either it raises, but not in the
lifecycle validation, or it returns a well-formed membership. -/
def Outcome (self : Membership) (result : Except IdentityExn Membership) : Prop :=
  match result with
  | .error failure => ¬ LifecycleFailure failure
  | .ok changed => self.Evolves changed ∧ changed.WellFormed

theorem outcome_invalidTransition (self : Membership) (operation : String)
    : self.Outcome (self.invalidTransition operation) := by
  unfold invalidTransition
  split
  all_goals
    intro raised
    obtain ⟨message, -, same⟩ := raised.message
    cases same

/-- A stamped mutation raises for its time stamp only, if what it builds is well formed. -/
theorem outcome_stamped {self : Membership} (now : Datetime) {build : Timestamp → Membership}
    (evolves : ∀ timestamp, self.Evolves (build timestamp))
    (valid : ∀ timestamp, self.createdAt ≤ timestamp → (build timestamp).WellFormed)
    : self.Outcome (do
        let timestamp ← self.mutationTimestamp now
        postInit (build timestamp)) := by
  cases now with
  | naive wall =>
      intro raised
      obtain ⟨message, known, same⟩ := raised.message
      cases same
      revert known
      decide
  | aware instant =>
      by_cases early : instant < self.createdAt
      · simp only [mutationTimestamp, normalizeIdentityTimestamp, bind, Except.bind, early,
          if_true]
        intro raised
        obtain ⟨message, known, same⟩ := raised.message
        cases same
        revert known
        decide
      · have built := valid instant (Int.not_lt.mp early)
        simp only [mutationTimestamp, normalizeIdentityTimestamp, bind, Except.bind, early,
          if_false, pure, Except.pure, postInit_iff.mpr ⟨built, rfl⟩]
        exact ⟨evolves instant, built⟩

/-- What an operation returns when it has nothing to change. -/
theorem outcome_same {self : Membership} (valid : self.WellFormed) : self.Outcome (.ok self) :=
  ⟨.same, valid⟩

-----------------------------------------------------------------------------------------
-- One operation
-----------------------------------------------------------------------------------------

theorem activate_outcome {self : Membership} (valid : self.WellFormed) (now : Datetime)
    : self.Outcome (self.activate now) := by
  unfold activate
  split
  · exact outcome_same valid
  · split
    · exact outcome_invalidTransition self _
    · rename_i invited
      have status := not_not.mp invited
      refine outcome_stamped now (fun timestamp => .activated timestamp status) ?_
      intro timestamp later
      exact ⟨valid.id, valid.user, valid.organization, later, rfl, rfl, rfl⟩

theorem reactivate_outcome {self : Membership} (valid : self.WellFormed) (now : Datetime)
    : self.Outcome (self.reactivate now) := by
  unfold reactivate
  split
  · exact outcome_same valid
  · split
    · exact outcome_invalidTransition self _
    · rename_i suspended
      have status := not_not.mp suspended
      have stamped := valid.stamped
      simp only [Stamped, status] at stamped
      refine outcome_stamped now (fun timestamp => .reactivated timestamp status) ?_
      intro timestamp later
      exact ⟨valid.id, valid.user, valid.organization, later, stamped.1, rfl, rfl⟩

theorem suspend_outcome {self : Membership} (valid : self.WellFormed) (now : Datetime)
    : self.Outcome (self.suspend now) := by
  unfold suspend
  split
  · exact outcome_invalidTransition self _
  · rename_i active
    have status := not_not.mp active
    have stamped := valid.stamped
    simp only [Stamped, status] at stamped
    refine outcome_stamped now (fun timestamp => .suspended timestamp status) ?_
    intro timestamp later
    exact ⟨valid.id, valid.user, valid.organization, later, stamped.1, rfl, rfl⟩

theorem remove_outcome {self : Membership} (valid : self.WellFormed) (now : Datetime)
    : self.Outcome (self.remove now) := by
  unfold remove
  split
  · exact outcome_same valid
  · rename_i present
    refine outcome_stamped now (fun timestamp => .removed timestamp present) ?_
    intro timestamp later
    exact ⟨valid.id, valid.user, valid.organization, later, rfl⟩

theorem changeRole_outcome {self : Membership} (valid : self.WellFormed) (role : Role)
    (now : Datetime)
    : self.Outcome (self.changeRole role now) := by
  unfold changeRole
  split
  · intro raised
    obtain ⟨message, -, same⟩ := raised.message
    cases same
  · split
    · exact outcome_invalidTransition self _
    · split
      · exact outcome_same valid
      · rename_i notRemoved notSuspended _
        have status : self.status = .invited ∨ self.status = .active := by
          cases status : self.status <;> simp_all
        refine outcome_stamped now (fun timestamp => .reassigned role timestamp status) ?_
        intro timestamp later
        exact ⟨valid.id, valid.user, valid.organization, later, valid.stamped⟩

end Membership

/-- Every operation on a well-formed membership returns a well-formed one, unless it raises
before the lifecycle validation. -/
theorem MembershipChange.apply_outcome (change : MembershipChange) (now : Datetime)
    {membership : Membership} (valid : membership.WellFormed)
    : membership.Outcome (change.apply now membership) := by
  cases change with
  | activate => exact Membership.activate_outcome valid now
  | reactivate => exact Membership.reactivate_outcome valid now
  | suspend => exact Membership.suspend_outcome valid now
  | remove => exact Membership.remove_outcome valid now
  | changeRole role => exact Membership.changeRole_outcome valid role now

/-- The membership after an operation; an operation that raises is skipped. -/
def MembershipChange.step (membership : Membership) (operation : MembershipChange × Datetime)
    : Membership :=
  match operation.1.apply operation.2 membership with
  | .ok changed => changed
  | .error _ => membership

theorem MembershipChange.step_evolves {membership : Membership} (valid : membership.WellFormed)
    (operation : MembershipChange × Datetime)
    : membership.Evolves (step membership operation)
      ∧ (step membership operation).WellFormed := by
  have outcome := operation.1.apply_outcome operation.2 valid
  unfold step
  split
  · rename_i changed applied
    rw [applied] at outcome
    exact outcome
  · exact ⟨.same, valid⟩

namespace Membership

/-- Two versions of one membership. -/
def SameIdentity (self other : Membership) : Prop :=
  self.id = other.id ∧ self.userId = other.userId
  ∧ self.organizationId = other.organizationId ∧ self.createdAt = other.createdAt

theorem Evolves.sameIdentity {self changed made : Membership} (_ : self.WellFormed)
    (evolves : self.Evolves changed) (same : self.SameIdentity made)
    : changed.SameIdentity made := by
  cases evolves <;> exact same

/-- Joining is stamped once: only an invited membership is, and it has no stamp yet. -/
theorem Evolves.joinedAt {self changed : Membership} (evolves : self.Evolves changed)
    (valid : self.WellFormed) {joined : Timestamp} (stamped : self.joinedAt = some joined)
    : changed.joinedAt = some joined := by
  cases evolves with
  | activated timestamp invited =>
      have stamps := valid.stamped
      simp only [Stamped, invited, stamped] at stamps
      exact nomatch stamps.2.1
  | _ => exact stamped

theorem Evolves.of_removed {self changed : Membership} (evolves : self.Evolves changed)
    (removed : self.status = .removed)
    : changed = self := by
  cases evolves with
  | same => rfl
  | activated timestamp invited => exact nomatch invited.symm.trans removed
  | reactivated timestamp suspended => exact nomatch suspended.symm.trans removed
  | suspended timestamp active => exact nomatch active.symm.trans removed
  | removed timestamp present => exact absurd removed present
  | reassigned role timestamp assignable =>
      rcases assignable with status | status <;> exact nomatch status.symm.trans removed

theorem Evolves.assignable {self changed : Membership} (evolves : self.Evolves changed)
    (reassigned : changed.role ≠ self.role)
    : self.status = .invited ∨ self.status = .active := by
  cases evolves with
  | reassigned role timestamp assignable => exact assignable
  | _ => exact absurd rfl reassigned

-----------------------------------------------------------------------------------------
-- Sequences of operations
-----------------------------------------------------------------------------------------

/-- The membership after a sequence of operations. -/
def after (membership : Membership) (operations : List (MembershipChange × Datetime))
    : Membership :=
  operations.foldl MembershipChange.step membership

/-- Whatever each operation keeps of a well-formed membership, a sequence keeps. -/
theorem after_induction (kept : Membership → Prop)
    (step
      : ∀ {before changed}, before.WellFormed → before.Evolves changed → kept before
          → kept changed)
    {membership : Membership} (valid : membership.WellFormed) (start : kept membership)
    (operations : List (MembershipChange × Datetime))
    : (membership.after operations).WellFormed ∧ kept (membership.after operations) := by
  induction operations generalizing membership with
  | nil => exact ⟨valid, start⟩
  | cons operation rest ih =>
      obtain ⟨evolves, valid'⟩ := MembershipChange.step_evolves valid operation
      exact ih valid' (step valid evolves start)

/-- A membership made by `invite` or by `activate_directly`. -/
def Made (membership : Membership) : Prop :=
  ∃ id userId organizationId role now,
    invite id userId organizationId role now = .ok membership
    ∨ activateDirectly id userId organizationId role now = .ok membership

theorem Made.wellFormed {membership : Membership} (made : membership.Made)
    : membership.WellFormed := by
  obtain ⟨id, userId, organizationId, role, now, made | made⟩ := made
  all_goals
    obtain ⟨timestamp, -, made⟩ := exists_of_bind_ok made
    obtain ⟨valid, rfl⟩ := postInit_iff.mp made
    exact valid

/-- Along every sequence of operations on a made membership, the table's CHECK constraint
holds, identity and creation time stay, a stamped joining time stays, a removed membership
stays as it is and roles change only while invited or active. No operation raises in the
lifecycle validation. -/
theorem lifecycle_after {made : Membership} (created : made.Made)
    (operations : List (MembershipChange × Datetime))
    : let reached := made.after operations
      (Records.recordFromMembership reached).lifecycleTimestampsConsistent = true
      ∧ reached.SameIdentity made
      ∧ (∀ later joined,
          reached.joinedAt = some joined → (reached.after later).joinedAt = some joined)
      ∧ (∀ later, reached.status = .removed → reached.after later = reached)
      ∧ ∀ operation : MembershipChange, ∀ now,
          (∀ failure, operation.apply now reached = .error failure → ¬ LifecycleFailure failure)
          ∧ ((MembershipChange.step reached (operation, now)).role ≠ reached.role
            → reached.status = .invited ∨ reached.status = .active) := by
  obtain ⟨valid, identity⟩ :=
    after_induction (·.SameIdentity made) Evolves.sameIdentity created.wellFormed
      ⟨rfl, rfl, rfl, rfl⟩ operations
  generalize made.after operations = reached at valid identity
  refine ⟨lifecycleTimestampsConsistent_iff.mpr valid.stamped, identity, ?_, ?_, ?_⟩
  · intro later joined stamped
    exact (after_induction (fun membership => membership.joinedAt = some joined)
      (fun valid evolves stamped => evolves.joinedAt valid stamped) valid stamped later).2
  · intro later removed
    refine (after_induction (fun membership => membership = reached) ?_ valid rfl later).2
    rintro before changed - evolves rfl
    exact evolves.of_removed removed
  · intro operation now
    constructor
    · intro failure raised
      have outcome := operation.apply_outcome now valid
      rwa [raised] at outcome
    · intro reassigned
      exact (MembershipChange.step_evolves valid (operation, now)).1.assignable reassigned

/-- A membership that a user was invited to. -/
def invitedSample : Membership where
  id := 1
  userId := 2
  organizationId := 3
  role := .reviewer
  status := .invited
  createdAt := 10
  updatedAt := 10
  invitedAt := some 10

theorem lifecycle_after_sample
    : (Records.recordFromMembership
          (invitedSample.after [(.suspend, .aware 11), (.activate, .aware 12),
            (.suspend, .aware 13), (.remove, .aware 14)])).lifecycleTimestampsConsistent
        = true :=
  (lifecycle_after ⟨1, 2, 3, .reviewer, .aware 10, .inl rfl⟩ _).1

end Membership

end WorkflowForge
