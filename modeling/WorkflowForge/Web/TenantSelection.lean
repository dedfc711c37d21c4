import WorkflowForge.Web.Effects

/-! The tenant context is always one of the selected organization. -/

namespace WorkflowForge.Web

open Python

/-- A tenant context belongs to the selected organization. -/
def AuthState.InStep (state : AuthState) : Prop :=
  ∀ context, state.tenantContext = some context
    → state.selectedOrganizationId = some context.organizationId

theorem AuthState.InStep.of_none {state : AuthState} (empty : state.tenantContext = none)
    : state.InStep := by
  intro context chosen
  rw [empty] at chosen
  cases chosen

/-- Functional updates of other fields keep the two in step. -/
theorem AuthState.InStep.of_same {state next : AuthState} (step : state.InStep)
    (context : next.tenantContext = state.tenantContext)
    (selected : next.selectedOrganizationId = state.selectedOrganizationId)
    : next.InStep := by
  intro chosen found
  rw [selected]
  exact step chosen (context.symm.trans found)

namespace Tab

variable {tab : Tab} {i : Nat} {task : Task}

theorem refresh_inStep {born : Nat} (step : tab.state.InStep)
    : (tab.refresh born).1.state.InStep := by
  unfold refresh
  split <;> exact step

theorem refreshHandler_inStep {generation : Nat} {answer : Except Failure TokenResponse}
    (step : tab.state.InStep)
    : (tab.refreshHandler generation answer).1.state.InStep := by
  unfold refreshHandler
  split
  · exact step
  · cases answer with
    | ok token => exact step.of_same rfl rfl
    | error failure =>
        dsimp only
        split
        · exact .of_none rfl
        · exact step.of_same rfl rfl

theorem commitSession_inStep {load : Load} {user : MeResponse}
    {organizations : List UserOrganization} {selected : Option UserOrganization}
    {context : Option TenantContext} (step : tab.state.InStep)
    : (tab.commitSession i task load user organizations selected context).state.InStep := by
  unfold commitSession
  split
  · exact step
  · split
    · exact .of_none rfl
    next matched =>
      intro chosen found
      simp only at found
      subst found
      simpa [eq_comm] using matched

theorem fetched_inStep {caller : Caller} {load : Load} {user : MeResponse}
    {organizations : List UserOrganization} (step : tab.state.InStep)
    : (tab.fetched i task caller load user organizations).state.InStep := by
  unfold fetched
  split
  · exact step
  · dsimp only
    split
    · exact commitSession_inStep step
    · exact step

theorem loadFailed_inStep {caller : Caller} {failure : Failure}
    : (tab.loadFailed i task caller failure).state.InStep := by
  cases caller <;> exact .of_none rfl

theorem selectAnswered_inStep {organizationId : Text} {context : TenantContext}
    : (tab.selectAnswered i task organizationId context).state.InStep := by
  unfold selectAnswered
  split
  · exact .of_none rfl
  next matched =>
    intro chosen found
    cases found
    simpa [eq_comm] using matched

theorem resumeLoad_inStep {caller : Caller} {load : Load} {stage : LoadStage} {slot : Slot}
    {outcome : Outcome slot.Data} (step : tab.state.InStep)
    : (tab.resumeLoad i task caller load stage slot outcome).state.InStep := by
  unfold resumeLoad
  split
  · exact step
  · split
    · exact fetched_inStep step
    · exact step
  · exact loadFailed_inStep
  · exact step
  · split
    · exact fetched_inStep step
    · exact step
  · exact loadFailed_inStep
  · exact step
  · exact commitSession_inStep step
  · exact loadFailed_inStep
  · exact step

theorem resume_inStep {slot : Slot} {outcome : Outcome slot.Data} (step : tab.state.InStep)
    : (tab.resume i task slot outcome).state.InStep := by
  unfold resume
  cases task.work with
  | loading caller load => exact resumeLoad_inStep step
  | selecting organizationId call =>
      cases slot <;> cases outcome
      case context.resolves => exact selectAnswered_inStep
      case context.rejects => exact .of_none rfl
      all_goals exact step
  | calling call => cases slot <;> cases outcome <;> exact step
  | restoring active promise => exact step
  | loggingIn => exact step
  | loggingOut => exact step
  | loggingOutAll => exact step
  | finished => exact step

theorem answerCall_inStep {α : Type} {born : Nat} {call : Call α} {answer : Except ApiError α}
    {next : Tab} {outcome : Outcome α}
    (answered : tab.answerCall born call answer = some (next, outcome))
    (step : tab.state.InStep)
    : next.state.InStep := by
  rcases answerCall_tab answered with rfl | rfl
  · exact step
  · exact refresh_inStep step

theorem step_inStep {event : Event} {next : Tab} (step : tab.state.InStep)
    (taken : tab.step event = some next)
    : next.state.InStep := by
  cases step_effect taken with
  | mountAnonymous => exact .of_none rfl
  | mountRestores =>
      have mounted : { tab with mounted := true }.state.InStep := step
      exact refresh_inStep mounted
  | login => exact step.of_same rfl rfl
  | logout => exact step
  | logoutAll => exact step
  | refresh => exact refresh_inStep step
  | selectOrganization organizationId => exact .of_none rfl
  | apiCall => exact step
  | clearError => exact step.of_same rfl rfl
  | refreshAnswered answer => exact refreshHandler_inStep step
  | refreshSettled => exact step
  | restoreInactive => exact step
  | restoreRefused => exact .of_none rfl
  | restoreUndated => exact loadFailed_inStep
  | restoreLoads => exact step
  | loginAccepted => exact step
  | loginRefused => exact loadFailed_inStep
  | loggedOut => exact .of_none rfl
  | callAnswered answer mounted found waits answered =>
      exact resume_inStep (answerCall_inStep answered step)
  | callResumed => exact resume_inStep step

end Tab

/-- In every reachable state, the tenant context and every permission that `hasPermission`
grants are those of the selected organization. -/
theorem context_of_selected (storage : Storage) {tab : Tab}
    (run : TabRun (fun _ _ => True) (.initial storage) tab)
    : (∀ context, tab.state.tenantContext = some context
        → tab.state.selectedOrganizationId = some context.organizationId)
      ∧ ∀ permission, tab.state.hasPermission permission = true
        → ∃ context,
            tab.state.tenantContext = some context
            ∧ tab.state.selectedOrganizationId = some context.organizationId
            ∧ permission ∈ context.permissions := by
  have inStep : tab.state.InStep :=
    run.invariant (fun state event next step _ taken => Tab.step_inStep step taken)
      (.of_none rfl)
  refine ⟨inStep, fun permission granted => ?_⟩
  unfold AuthState.hasPermission at granted
  split at granted
  · cases granted
  next context found => exact ⟨context, found, inStep context found, by simpa using granted⟩

namespace Sample

def token : TokenResponse where
  accessToken := ['t']
  accessTokenExpiresAt := ['e']

def organizationId (last : Char) : Text := "11111111-1111-4111-8111-11111111111".toList ++ [last]

def membershipId (last : Char) : Text := "22222222-2222-4222-8222-22222222222".toList ++ [last]

def me : MeResponse where
  userId := "33333333-3333-4333-8333-333333333333".toList
  sessionId := "44444444-4444-4444-8444-444444444444".toList
  issuedAt := ['i']
  expiresAt := ['e']

def organization (last : Char) : UserOrganization where
  id := organizationId last
  name := [last]
  slug := [last]
  membershipId := membershipId last
  membershipRole := .reviewer
  membershipStatus := .active

def context (last : Char) : TenantContext where
  userId := me.userId
  organizationId := organizationId last
  membershipId := membershipId last
  role := .reviewer
  permissions := [.organizationRead]

def storage : Storage where
  available := true
  selected := none

/-- A mount that restores the session, with the first of two organizations. -/
def restored : List Event :=
  [.mount true false, .refreshAnswered 0 (.ok token), .refreshSettled 0, .restoreResumed 0,
    .callAnswered 0 .user (.ok me),
    .callAnswered 0 .organizations (.ok [organization 'a', organization 'b']),
    .callAnswered 0 .context (.ok (context 'a'))]

end Sample

/-- The restored session has the context of the first organization. -/
theorem restored_context
    : ∃ tab : Tab,
        TabRun (fun _ _ => True) (.initial Sample.storage) tab
        ∧ tab.state.tenantContext = some (Sample.context 'a')
        ∧ tab.state.selectedOrganizationId = some (Sample.organizationId 'a') := by
  have checked
      : (Concurrency.follow Tab.step (fun _ _ => true) Sample.restored
            (.initial Sample.storage)).any
          (fun tab => tab.state.tenantContext == some (Sample.context 'a')) = true := by
    decide +kernel
  obtain ⟨tab, run, found⟩ := Concurrency.exists_run_of_check (fun _ _ _ => trivial) checked
  have shown := beq_iff_eq.mp found
  exact ⟨tab, run, shown, (context_of_selected Sample.storage run).1 _ shown⟩

end WorkflowForge.Web
