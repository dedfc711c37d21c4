import WorkflowForge.Bootstrap.Specs
import WorkflowForge.Memberships.Administration

/-! Concurrent bootstrap runs: at most one founds the identity tables, with all of its rows. -/

namespace WorkflowForge.Bootstrap

open Python Transactions Concurrency

variable {i : Nat} {services : Services} {command : BootstrapOwnerCommand}

-----------------------------------------------------------------------------------------
-- What the constructors keep
-----------------------------------------------------------------------------------------

theorem userCreate_id {u : Unicode} {id : UUID} {email : EmailAddress} {displayName : Text}
    {now : Timestamp} {user : User}
    (created : User.create u id email displayName now = .ok user)
    : user.id = id := by
  obtain ⟨⟨⟩, -, created⟩ := exists_of_bind_ok created
  obtain ⟨name, -, created⟩ := exists_of_bind_ok created
  simp only [Int.lt_irrefl, if_false, Option.isSome_none, Bool.and_false, Bool.false_eq_true,
    Bool.not_true, Bool.false_and] at created
  obtain rfl := Except.ok.inj created
  rfl

theorem organizationCreate_id {u : Unicode} {id : UUID} {name : Text} {slug : OrganizationSlug}
    {now : Timestamp} {organization : Organization}
    (created : Organization.create u id name slug now = .ok organization)
    : organization.id = id := by
  obtain ⟨⟨⟩, -, created⟩ := exists_of_bind_ok created
  obtain ⟨name, -, created⟩ := exists_of_bind_ok created
  simp only [Int.lt_irrefl, if_false, Option.isSome_none, Bool.and_false, Bool.false_eq_true,
    Bool.not_true, Bool.false_and] at created
  obtain rfl := Except.ok.inj created
  rfl

theorem activateDirectly_ok {id userId organizationId : UUID} {role : Role} {now : Datetime}
    {membership : Membership}
    (created
      : ofIdentity (Membership.activateDirectly id userId organizationId role now)
        = .ok membership)
    : membership.id = id ∧ membership.userId = userId
      ∧ membership.organizationId = organizationId ∧ membership.role = role
      ∧ membership.status = .active := by
  cases activated : Membership.activateDirectly id userId organizationId role now with
  | error failure =>
      rw [activated] at created
      cases created
  | ok result =>
      rw [activated] at created
      obtain rfl := Except.ok.inj created
      obtain ⟨timestamp, -, accepted⟩ := exists_of_bind_ok activated
      obtain rfl := Membership.postInit_eq_ok accepted
      exact ⟨rfl, rfl, rfl, rfl, rfl⟩

theorem credentialPostInit_ok {draft credential : PasswordCredential}
    (created : draft.postInit = .ok credential)
    : credential = draft := by
  obtain ⟨⟨⟩, -, created⟩ := exists_of_bind_ok created
  by_cases hash : draft.passwordHash = []
  · rw [if_pos hash] at created
    exact nomatch created
  · rw [if_neg hash] at created
    by_cases late : draft.updatedAt < draft.createdAt
    · simp only [if_pos late] at created
      exact nomatch created
    · simp only [if_neg late] at created
      exact (Except.ok.inj created).symm

-----------------------------------------------------------------------------------------
-- The steps of founding
-----------------------------------------------------------------------------------------

variable {writes : List (Write schema)} {ids : List UUID}

theorem raises_throw (failure : AccountExn)
    : Spec i (Unfounded i) (throw failure : App Unit) (fun _ _ => False) :=
  Spec.throw Unfounded.stable (fun _ unfounded => unfounded)

theorem raises_membership
    : Spec i (Unfounded i) raiseMembershipIntegrityError (fun _ _ => False) := by
  refine Spec.bind (Spec.look trivial Unfounded.stable) (fun (named : Bool) => ?_)
  cases named with
  | true => exact Spec.bind (raises_throw _) (fun _ _ _ impossible => impossible.elim)
  | false => exact raises_throw _

/-- A pure computation under the lock. -/
theorem lift_holding {α : Type} (result : Except AccountExn α)
    : Spec i (Holding i writes ids) (liftExcept result)
        (fun value world => result = .ok value ∧ Holding i writes ids world) :=
  Spec.liftExcept Holding.stable (fun _ => Holding.unfounded)

theorem enter_holding (port : Port)
    : Spec i (Holding i writes ids) (enter port) (fun _ => Holding i writes ids) :=
  Spec.enter Holding.stable (fun _ => Holding.unfounded)

theorem addUser_holding {u : Unicode} (user : User)
    : Spec i (Holding i writes ids) (addUser u user)
        (fun _ => Holding i (writes ++ [.put .users (recordFromUser user)]) ids) := by
  refine Spec.bind (enter_holding _) (fun _ => ?_)
  refine Spec.bind (insert_holding .users _ (raises_throw _)) (fun _ => ?_)
  exact (lift_holding _).mono (fun _ _ _ holds => holds.2)

theorem addOrganization_holding {u : Unicode} (organization : Organization)
    : Spec i (Holding i writes ids) (addOrganization u organization)
        (fun _ => Holding i
          (writes ++ [.put .organizations (recordFromOrganization organization)]) ids) := by
  refine Spec.bind (enter_holding _) (fun _ => ?_)
  refine Spec.bind (insert_holding .organizations _ (raises_throw _)) (fun _ => ?_)
  exact (lift_holding _).mono (fun _ _ _ holds => holds.2)

theorem addMembership_holding (membership : Membership)
    : Spec i (Holding i writes ids) (addMembership membership)
        (fun _ => Holding i (writes ++ [.put .memberships membership]) ids) := by
  refine Spec.bind (enter_holding _) (fun _ => ?_)
  refine Spec.bind (insert_holding .memberships _ raises_membership) (fun _ => ?_)
  exact (lift_holding _).mono (fun _ _ _ holds => holds.2)

theorem getUserById_holding {u : Unicode} (userId : UUID)
    : Spec i (Holding i writes ids) (getUserById u userId)
        (fun _ => Holding i writes ids) := by
  refine Spec.bind (enter_holding _) (fun _ => ?_)
  refine Spec.bind (select_holding _) (fun db => Spec.known fun _ => ?_)
  cases db.find? .users userId with
  | none => exact Spec.pure Holding.stable (fun _ holds => holds)
  | some record =>
      exact Spec.bind (lift_holding _) (fun _ => Spec.known fun _ =>
        Spec.pure Holding.stable (fun _ holds => holds))

/-- A lookup of credentials while none is staged. -/
theorem credentials_none {db : Database} (same : identityOf db = tablesOf writes)
    (none : (tablesOf writes).credentials = []) (userId : UUID)
    : db.find? .passwordCredentials userId = .none := by
  have empty : db .passwordCredentials = [] :=
    (congrArg IdentityTables.credentials same).trans none
  rw [Db.find?, empty]
  rfl

theorem getCredentialByUserId_holding (none : (tablesOf writes).credentials = [])
    (userId : UUID)
    : Spec i (Holding i writes ids) (getCredentialByUserId userId)
        (fun existing world => existing = .none ∧ Holding i writes ids world) := by
  refine Spec.bind (enter_holding _) (fun _ => ?_)
  refine Spec.bind (select_holding _) (fun db => Spec.known fun same => ?_)
  rw [credentials_none same none]
  exact Spec.pure Holding.stable (fun _ holds => ⟨rfl, holds⟩)

theorem setCredentialForUser_holding (none : (tablesOf writes).credentials = [])
    (credential : PasswordCredential)
    : Spec i (Holding i writes ids) (setCredentialForUser credential)
        (fun _ => Holding i (writes ++ [.put .passwordCredentials credential]) ids) := by
  refine Spec.bind (enter_holding _) (fun _ => ?_)
  refine Spec.bind (select_holding _) (fun db => Spec.known fun same => ?_)
  rw [credentials_none same none]
  refine Spec.bind (insert_holding .passwordCredentials _ (raises_throw _)) (fun _ => ?_)
  exact (lift_holding _).mono (fun _ _ _ holds => holds.2)

/-- Setting the first password stages one credential. -/
theorem setUserPassword_holding (none : (tablesOf writes).credentials = []) (userId : UUID)
    (password : Text) (now : Timestamp)
    : Spec i (Holding i writes ids) (setUserPassword services userId password now)
        (fun _ world => ∃ credential : PasswordCredential,
          credential.userId = userId
          ∧ Holding i (writes ++ [.put .passwordCredentials credential]) ids world) := by
  refine Spec.bind (lift_holding _) (fun _ => Spec.known fun _ => ?_)
  refine Spec.bind (getUserById_holding _) (fun user => ?_)
  cases user with
  | none => exact Spec.throw Holding.stable (fun _ => Holding.unfounded)
  | some user =>
      refine Spec.bind (enter_holding _) (fun _ => ?_)
      refine Spec.bind (lift_holding _) (fun passwordHash => Spec.known fun _ => ?_)
      refine Spec.bind (getCredentialByUserId_holding none _) (fun existing =>
        Spec.known fun absent => ?_)
      subst absent
      refine Spec.bind (lift_holding _) (fun credential => Spec.known fun built => ?_)
      obtain rfl := credentialPostInit_ok built
      exact (setCredentialForUser_holding none _).mono (fun _ _ _ holds => ⟨_, rfl, holds⟩)

-----------------------------------------------------------------------------------------
-- The use case
-----------------------------------------------------------------------------------------

/-- The identity tables are founded by the run, and the result names its rows. -/
def Founds (i : Nat) (result : BootstrapOwnerResult) (world : World) : Prop :=
  ∃ founding : Founding,
    world.FoundedBy i founding
    ∧ result = {
        userId := founding.user.id
        organizationId := founding.organization.id
        membershipId := founding.membership.id }

theorem found_spec (now : Timestamp)
    : Spec i (Holding i [] []) (found services command now) (Founds i) := by
  refine Spec.bind newUuid_holding (fun userId => ?_)
  refine Spec.bind newUuid_holding (fun organizationId => ?_)
  refine Spec.bind newUuid_holding (fun membershipId => ?_)
  refine Spec.bind (lift_holding _) (fun email => Spec.known fun _ => ?_)
  refine Spec.bind (lift_holding _) (fun user => Spec.known fun userBuilt => ?_)
  refine Spec.bind (lift_holding _) (fun slug => Spec.known fun _ => ?_)
  refine Spec.bind (lift_holding _) (fun organization => Spec.known fun organizationBuilt => ?_)
  refine Spec.bind (lift_holding _) (fun membership => Spec.known fun membershipBuilt => ?_)
  have userId_eq := userCreate_id userBuilt
  have organizationId_eq := organizationCreate_id organizationBuilt
  obtain ⟨membershipId_eq, member, tenant, role, status⟩ := activateDirectly_ok membershipBuilt
  refine Spec.bind (addUser_holding user) (fun _ => ?_)
  refine Spec.bind (addOrganization_holding organization) (fun _ => ?_)
  refine Spec.bind (addMembership_holding membership) (fun _ => ?_)
  refine Spec.bind (setUserPassword_holding rfl userId _ now) (fun _ => ?_)
  refine Spec.given fun credential => Spec.known fun credited => ?_
  refine Spec.bind newUuid_holding (fun eventId => ?_)
  refine Spec.bind (auditRecord_holding _) (fun _ => ?_)
  let founding : Founding := {
    user := recordFromUser user
    organization := recordFromOrganization organization
    membership
    credential
    member := member.trans userId_eq.symm
    tenant := tenant.trans organizationId_eq.symm
    owner := by simp [Membership.isActiveOwner, role, status]
    credited := credited.trans userId_eq.symm }
  have named
      : ({ userId, organizationId, membershipId } : BootstrapOwnerResult)
        = { userId := founding.user.id
            organizationId := founding.organization.id
            membershipId := founding.membership.id } := by
    rw [← userId_eq, ← organizationId_eq, ← membershipId_eq]
    rfl
  have committed (event : BootstrapEvent)
      : Spec i (Holding i ([] ++ [.put .users (recordFromUser user)]
              ++ [.put .organizations (recordFromOrganization organization)]
              ++ [.put .memberships membership] ++ [.put .passwordCredentials credential]
              ++ [.put .securityAuditEvents event])
            [eventId, membershipId, organizationId, userId])
          commit (fun _ world => world.FoundedBy i founding) :=
    commit_holding rfl (by simp [founding, recordFromUser, userId_eq])
      (by simp [founding, recordFromOrganization, organizationId_eq])
      (by simp [founding, membershipId_eq])
  refine Spec.bind (committed _) (fun _ => ?_)
  exact Spec.pure founded_stable (fun _ founded => ⟨founding, founded, named⟩)

theorem refuse_spec {result : BootstrapOwnerResult → World → Prop} (state : BootstrapState)
    (now : Timestamp)
    : Spec i (Bystander i) (refuse command state now) result := by
  refine Spec.bind newUuid_bystander (fun id => ?_)
  refine Spec.bind (auditRecord_bystander _) (fun _ => ?_)
  refine Spec.bind commit_bystander (fun _ => ?_)
  exact Spec.throw Unfounded.stable (fun _ unfounded => unfounded)

/-- The state counted by the lock holder: identity tables not initialized are empty. -/
def Counted (i : Nat) (state : BootstrapState) (world : World) : Prop :=
  Locked i world ∧ (state.initialized = false → world.identity = .empty)

theorem Counted.stable {state : BootstrapState} : Stable i (Counted i state) :=
  fun before now inv inv' rely holds =>
    ⟨Locked.stable before now inv inv' rely holds.1,
      fun uncounted => (rely.held holds.1.lock).trans (holds.2 uncounted)⟩

theorem bootstrapState_spec : Spec i (Locked i) bootstrapState (Counted i) := by
  refine Spec.bind (Spec.enter Locked.stable fun _ => Locked.unfounded) (fun _ => ?_)
  refine Spec.bind (select_locked _) (fun users => ?_)
  have again : Spec i (Observed i (identityOf users)) (select .countOrganizations)
      (fun _ => Observed i (identityOf users)) :=
    Spec.look trivial Observed.stable
  refine Spec.bind again (fun organizations => ?_)
  refine Triple.done Observed.stable (fun world inv observed =>
    ⟨observed.locked, fun counted => ?_⟩)
  rcases inv.settled with empty | ⟨j, founding, founded⟩
  · exact empty
  · have rows : users .users = founding.tables.users :=
      congrArg IdentityTables.users (observed.identity.symm.trans founded.tables)
    simp [BootstrapState.initialized, rows, Founding.tables] at counted

theorem Counted.holding {state : BootstrapState} {world : World} (counted : Counted i state world)
    (uncounted : state.initialized = false)
    : Holding i [] [] world where
  lock := counted.1.lock
  empty := counted.2 uncounted
  own := counted.1.own
  drawn _ member := nomatch member

/-- Nothing staged, nothing founded. -/
def Idle (i : Nat) (world : World) : Prop := world.store.own i = [] ∧ Unfounded i world

theorem Idle.stable : Stable i (Idle i) :=
  fun _ _ _ _ rely holds => ⟨rely.own.trans holds.1, rely.unfounded holds.2⟩

theorem Founds.stable {result : BootstrapOwnerResult} : Stable i (Founds i result) :=
  fun before now inv inv' rely ⟨founding, founded, named⟩ =>
    ⟨founding, founded_stable before now inv inv' rely founded, named⟩

/-- The body of the `try`. -/
theorem attempt_spec
    : Spec i (Idle i)
        (do
          let now ← perform .now
          acquireBootstrapLock
          let state ← bootstrapState
          if state.initialized then refuse command state now
          else found services command now)
        (Founds i) := by
  have acquired : Spec i (Idle i) acquireBootstrapLock (fun _ => Locked i) :=
    Spec.bind (Spec.enter Idle.stable fun _ holds => holds.2) (fun _ => Spec.lock)
  refine Spec.bind (Spec.look trivial Idle.stable) (fun now => ?_)
  refine Spec.bind acquired (fun _ => ?_)
  refine Spec.bind bootstrapState_spec (fun state => ?_)
  cases initialized : state.initialized with
  | true => exact (refuse_spec state now).weaken (fun _ counted => counted.1.bystander)
  | false => exact (found_spec now).weaken (fun _ counted => counted.holding initialized)

theorem rollback_spec : Spec i (Unfounded i) rollback (fun _ => Unfounded i) := by
  refine Spec.bind (Spec.enter Unfounded.stable fun _ unfounded => unfounded) (fun _ => ?_)
  exact (Spec.sessionRollback Unfounded.stable fun _ unfounded => unfounded).mono
    (fun _ _ _ holds => holds.2)

theorem bootstrapOwner_spec
    : Spec i (Idle i) (bootstrapOwner services command) (Founds i) := by
  refine Triple.tryCatch discipline_coherent.toOrdered attempt_spec (fun failure => ?_)
    (fun _ _ _ founds => founds)
  have unfounded {failure : AccountExn}
      : Spec i (Unfounded i) (throw failure : App BootstrapOwnerResult) (Founds i) :=
    Spec.throw Unfounded.stable (fun _ unfounded => unfounded)
  have undone {failure : AccountExn}
      : Spec i (Unfounded i) (do rollback; throw failure) (Founds i) :=
    Spec.bind rollback_spec (fun _ => unfounded)
  cases failure with
  | bootstrapRefused message => exact unfounded
  | _ => exact undone

/-- A run has founded the identity tables, or raised without having founded them. -/
def Reached (i : Nat) : Except AccountExn BootstrapOwnerResult → World → Prop
  | .ok result => Founds i result
  | .error _ => Unfounded i

theorem Reached.stable
    : {result : Except AccountExn BootstrapOwnerResult} → Stable i (Reached i result)
  | .ok _ => Founds.stable
  | .error _ => Unfounded.stable

/-- How a run ends: with nothing left open. -/
structure Outcome (i : Nat) (result : Except AccountExn BootstrapOwnerResult) (world : World)
    : Prop where
  own : world.store.own i = []
  reached : Reached i result world

theorem Outcome.stable {result : Except AccountExn BootstrapOwnerResult}
    : Stable i (Outcome i result) :=
  fun before now inv inv' rely holds => {
    own := rely.own.trans holds.own
    reached := Reached.stable before now inv inv' rely holds.reached }

/-- The rollback of a closing session undoes nothing that was committed. -/
theorem rollback_reached {result : Except AccountExn BootstrapOwnerResult}
    : Triple exec discipline i (Reached i result) sessionRollback
        (returns (fun _ => Outcome i result) (fun (_ : AccountExn) _ => False)) := by
  refine Triple.perform Reached.stable (fun _ => Outcome.stable)
    (fun now answer after inv reached _ ran => ?_) (fun _ _ _ outcome => outcome)
  obtain ⟨ending, identity⟩ := rollback_ending ran
  have kept := ending.kept inv
  refine ⟨kept.invariant, kept.others, ending.own, ?_⟩
  cases result with
  | ok result =>
      obtain ⟨founding, founded, named⟩ := reached
      exact ⟨founding, {
        tables := identity.trans founded.tables
        user := (ending.drawnBy i _).mpr founded.user
        organization := (ending.drawnBy i _).mpr founded.organization
        membership := (ending.drawnBy i _).mpr founded.membership }, named⟩
  | error failure =>
      exact unfounded_of reached (fun id => (ending.drawnBy i id).mp) (.inl identity)

theorem run_spec
    : Triple exec discipline i (Idle i) (command.run services) (Outcome i) := by
  have called
      : Spec i (Idle i) (do return Except.ok (← bootstrapOwner services command))
          (Reached i) :=
    Spec.bind bootstrapOwner_spec (fun _ => Spec.pure Founds.stable fun _ founds => founds)
  have caught
      : Triple exec discipline i (Idle i)
          (tryCatch (do return Except.ok (← bootstrapOwner services command))
            (fun failure => return .error failure))
          (returns (Reached i) (fun (_ : AccountExn) _ => False)) :=
    Triple.tryCatch discipline_coherent.toOrdered called
      (fun _ => Triple.done Unfounded.stable fun _ _ unfounded => unfounded)
      (fun _ _ _ reached => reached)
  have ended (result : Except AccountExn BootstrapOwnerResult)
      : Triple exec discipline i (Reached i result)
          (do sessionRollback; liftExcept result) (Outcome i) :=
    Triple.bind discipline_coherent.toOrdered rollback_reached
      (fun _ => Triple.done Outcome.stable fun _ _ outcome => outcome)
      (fun _ _ _ impossible => impossible.elim)
  exact Triple.bind discipline_coherent.toOrdered caught ended
    (fun _ _ _ impossible => impossible.elim)

end WorkflowForge.Bootstrap
