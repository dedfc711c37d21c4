import WorkflowForge.Documents.Runs
import WorkflowForge.Memberships.Selection
import WorkflowForge.Tenancy.ServiceContracts

/-! The users in the rows of an organization are its members.
Users come from the tenant context, which was resolved for a member, or from a command that
names a task's assignee, which is only checked to be a user.
-/

namespace WorkflowForge

open Python Transactions Concurrency Organizations

variable {u : Unicode} {services : Services}

/-- The user has a membership in the organization, whatever its status. -/
def Organizations.IdentityStore.HasMember (store : IdentityStore u)
    (userId organizationId : UUID)
    : Prop :=
  ∃ row ∈ store.memberships, row.userId = userId ∧ row.organizationId = organizationId

/-- `ResolveTenantContext` produced the context, now or earlier: membership rows are never
deleted. -/
def ResolvedContext (store : IdentityStore u) (tenant : TenantContext) : Prop :=
  ∃ earlier : IdentityStore u,
    (∀ userId organizationId,
      earlier.HasMember userId organizationId → store.HasMember userId organizationId)
    ∧ resolveTenantContext earlier tenant.userId tenant.organizationId = .ok tenant

/-- The user of a resolved context is a member. -/
theorem ResolvedContext.member {store : IdentityStore u} {tenant : TenantContext}
    (resolved : ResolvedContext store tenant)
    : store.HasMember tenant.userId tenant.organizationId := by
  obtain ⟨earlier, kept, resolved⟩ := resolved
  obtain ⟨membership, acts, -⟩ := resolveTenantContext_mayAct resolved
  exact kept _ _ ⟨membership, acts.member, acts.user, acts.organization⟩

/-- Runs of all services. -/
abbrev TenantConfig := Config Op Op.Answer Exn ServiceReply World TenantCall

/-- In every run from empty tables whose contexts were resolved, all users in the rows of an
organization are its members, if those that task commands assign to are. -/
theorem users_are_members {store : IdentityStore u} {initial : World} {config : TenantConfig}
    (start : initial.Initial)
    (run
      : Reaches exec (TenantCall.body services) (fun _ _ _ => True) (.idle initial) config)
    (resolved : ∀ thread ∈ config.threads, ResolvedContext store thread.origin.tenant)
    (assigned
      : ∀ thread ∈ config.threads, ∀ user ∈ thread.origin.call.assignees,
          store.HasMember user thread.origin.tenant.organizationId)
    : Peopled store.HasMember config.shared.store.committed := by
  have empty : StorePeopled store.HasMember initial.store := {
    committed := by
      intro t row member organizationId owned
      by_cases users : t = .users
      · subst users
        cases owned
      · by_cases organizations : t = .organizations
        · subst organizations
          cases owned
        · rw [start.tables t users organizations] at member
          cases member
    pending := by
      intro i t row member
      rw [start.pending] at member
      cases member
  }
  have orderly
      : Orderly (fun world : World => StorePeopled store.HasMember world.store)
          (fun origin : TenantCall =>
            tenantContract store.HasMember origin.tenant.organizationId) config :=
    Orderly.reaches_started
      (fun origin => tenantContract_respected _ origin.tenant.organizationId)
      (Orderly.idle empty) run
      (fun thread started =>
        TenantCall.body_honours (resolved thread started).member (assigned thread started))
  exact orderly.inv.committed

namespace Sample

def acme : Bootstrap.OrganizationRecord := Organizations.Sample.organization 5 "acme" true

theorem acme_loads
    : ∃ organization,
        Bootstrap.organizationFromRecord asciiUnicode acme = .ok organization := by
  have ok : (Bootstrap.organizationFromRecord asciiUnicode acme).isOk = true := by
    decide +kernel
  cases loaded : Bootstrap.organizationFromRecord asciiUnicode acme with
  | ok organization => exact ⟨organization, rfl⟩
  | error failure => simp [loaded, Except.isOk, Except.toBool] at ok

/-- The sample tenant's organization, with its owner as the only member. -/
def ownerStore : IdentityStore asciiUnicode where
  organizations := [acme]
  memberships := [{
    id := 9
    userId := 7
    organizationId := 5
    role := .owner
    status := .active
    createdAt := 0
    updatedAt := 0
    joinedAt := some 0
  }]
  organization_key := by decide
  membership_pair := by decide
  organizations_load := by
    intro row member
    rw [List.mem_singleton.mp member]
    exact acme_loads
  memberships_load := by decide
  organization_lt := by decide

/-- The context of the owner. -/
def owner : TenantContext := { tenant with permissions := permissionsForRole .owner }

theorem owner_resolved : ResolvedContext ownerStore owner :=
  ⟨ownerStore, fun _ _ member => member, rfl⟩

def caseCall : TenantCall where
  tenant := owner
  call := .cases (.create { title := "Claim".toList })

/-- A task of the first case, whose id is the first one drawn. -/
def taskCall (assignee : UUID) : TenantCall where
  tenant := owner
  call := .cases (.createTask {
    caseId := 100
    title := "Review".toList
    assignedToUserId := some assignee
  })

/-- The sample installation with a second user, who has no membership. -/
def sharedWorld : World :=
  { world (fun _ => .ok) with
    store := {
      committed := fun
        | .users => [(7 : UUID), (8 : UUID)]
        | .organizations => [(5 : UUID)]
        | _ => []
    }
  }

theorem sharedWorld_initial : sharedWorld.Initial where
  tables t users organizations := by
    cases t <;> first | rfl | exact absurd rfl users | exact absurd rfl organizations
  users := by decide
  organizations := by decide
  pending := rfl
  locks := rfl
  history _ := rfl

/-- A case, and then a task in it. -/
def taskSchedule (assignee : UUID) : List (Move TenantCall) :=
  .start caseCall :: List.replicate 10 (.act 0)
    ++ .start (taskCall assignee) :: List.replicate 12 (.act 1)

/-- The sample owner makes all calls, and the task is assigned to this user. -/
def assigns (assignee : UUID) (config : TenantConfig) : Bool :=
  config.threads.all (fun thread =>
    thread.origin.tenant == owner
    && thread.origin.call.assignees.all (fun user => user == assignee))
  && (config.shared.store.committed .caseTasks).any (fun task =>
    task.organizationId == 5 && task.assignedToUserId == some assignee)

end Sample

/-- The owner assigns a task to a user who has no membership in the organization. -/
theorem stranger_assigned
    : ∃ config : TenantConfig,
        Sample.sharedWorld.Initial
        ∧ Reaches exec (TenantCall.body Sample.services) (fun _ _ _ => True)
            (.idle Sample.sharedWorld) config
        ∧ (∀ thread ∈ config.threads, ResolvedContext Sample.ownerStore thread.origin.tenant)
        ∧ ¬ Peopled Sample.ownerStore.HasMember config.shared.store.committed := by
  have checked
      : ((Config.idle Sample.sharedWorld).follow exec (TenantCall.body Sample.services)
            (fun _ _ _ => true) (Sample.taskSchedule 8)).any (Sample.assigns 8) = true := by
    decide +kernel
  obtain ⟨config, run, found⟩ := Config.reaches_of_check (fun _ _ _ _ => trivial) checked
  simp only [Sample.assigns, Bool.and_eq_true, List.all_eq_true, List.any_eq_true,
    beq_iff_eq] at found
  obtain ⟨calls, task, member, owned, assignee⟩ := found
  refine ⟨config, Sample.sharedWorld_initial, run, ?_, ?_⟩
  · intro thread started
    rw [(calls thread started).1]
    exact Sample.owner_resolved
  · intro peopled
    obtain ⟨row, listed, user, -⟩ :=
      peopled .caseTasks task member 5 (congrArg some owned) 8 (by simp [rowUsers, assignee])
    rw [List.mem_singleton.mp listed] at user
    exact absurd user (by decide)

/-- The owner assigns the task to themselves. -/
theorem owner_assigned
    : ∃ config : TenantConfig,
        (∃ task ∈ config.shared.store.committed .caseTasks, task.assignedToUserId = some 7)
        ∧ Peopled Sample.ownerStore.HasMember config.shared.store.committed := by
  have checked
      : ((Config.idle Sample.sharedWorld).follow exec (TenantCall.body Sample.services)
            (fun _ _ _ => true) (Sample.taskSchedule 7)).any (Sample.assigns 7) = true := by
    decide +kernel
  obtain ⟨config, run, found⟩ := Config.reaches_of_check (fun _ _ _ _ => trivial) checked
  simp only [Sample.assigns, Bool.and_eq_true, List.all_eq_true, List.any_eq_true,
    beq_iff_eq] at found
  obtain ⟨calls, task, member, -, assignee⟩ := found
  refine ⟨config, ⟨task, member, assignee⟩,
    users_are_members Sample.sharedWorld_initial run (fun thread started => ?_)
      (fun thread started user named => ?_)⟩
  · rw [(calls thread started).1]
    exact Sample.owner_resolved
  · rw [(calls thread started).1, (calls thread started).2 user named]
    exact Sample.owner_resolved.member

end WorkflowForge
