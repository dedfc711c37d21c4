import WorkflowForge.Web.Staleness

/-! What stays of the latest logout and of the latest selection. -/

namespace WorkflowForge.Web

open Python

/-- A late response reaches a comparison that finds a newer generation, and organizations are
selected by signed-in users. -/
structure Careful (tab : Tab) (event : Event) : Prop where
  late : tab.Late event → tab.unchecked event = false
  selects : ∀ organizationId, event = .selectOrganization organizationId
    → tab.state.status = .authenticated

/-- A task older than the latest login, logout or selection makes every event late that
resumes it. -/
theorem Careful.kept {tab next : Tab} {event : Event} (careful : Careful tab event)
    {task : Task} (origin : tab.origin event = some task.born) (late : task.born < tab.latest)
    (taken : tab.step event = some next)
    : Kept tab next :=
  Tab.late_kept ⟨task.born, origin, late⟩ (careful.late ⟨task.born, origin, late⟩) taken

-----------------------------------------------------------------------------------------
-- Logout
-----------------------------------------------------------------------------------------

/-- Nobody is signed in, and what could still open a session is late. -/
structure SignedOut (tab : Tab) : Prop where
  mounted : tab.mounted = true
  status : tab.state.status ≠ .authenticated
  openings : ∀ task ∈ tab.tasks, task.work.kind = .opens → task.born < tab.latest

namespace SignedOut

variable {tab next : Tab}

theorem of_resumes (out : SignedOut tab) (resumed : Resumes tab next)
    (status : next.state.status ≠ .authenticated)
    : SignedOut next where
  mounted := resumed.mounted.trans out.mounted
  status := status
  openings task member opens := by
    obtain ⟨old, here, born, kind⟩ := resumed.tasks.old member
    rw [← born, resumed.latest]
    exact out.openings old here ((kind (by simp [opens])).trans opens)

/-- A new action that opens nothing. -/
theorem of_action (out : SignedOut tab) {started : Task}
    (tasks : next.tasks = tab.tasks ++ [started]) (kind : started.work.kind ≠ .opens)
    (mounted : next.mounted = tab.mounted) (state : next.state = tab.state)
    (latest : tab.latest ≤ next.latest)
    : SignedOut next where
  mounted := mounted.trans out.mounted
  status := by rw [state]; exact out.status
  openings task member opens := by
    rw [tasks, List.mem_append] at member
    rcases member with old | new
    · exact Nat.lt_of_lt_of_le (out.openings task old opens) latest
    · obtain rfl := List.mem_singleton.mp new
      exact absurd opens kind

theorem refreshHandler_status (out : SignedOut tab) (generation : Nat)
    (answer : Except Failure TokenResponse)
    : (tab.refreshHandler generation answer).1.state.status ≠ .authenticated := by
  unfold Tab.refreshHandler
  split
  · exact out.status
  · cases answer with
    | ok token => exact out.status
    | error failure =>
        dsimp only
        split
        · simp [anonymousState]
        · simp

end SignedOut

/-- A call that resumes without a session in view leaves the session alone. -/
theorem Tab.resume_kept_of_calling {tab : Tab} {i : Nat} {task : Task} {slot : Slot}
    {outcome : Outcome slot.Data} (kind : task.work.kind ≠ .opens)
    : Kept tab (tab.resume i task slot outcome) := by
  refine resume_kept ?_
  cases outcome with
  | waits call => trivial
  | rejects error => exact kind
  | resolves data =>
      cases work : task.work with
      | loading caller load => exact absurd (by rw [work]; rfl) kind
      | selecting organizationId call => exact absurd (by rw [work]; rfl) kind
      | _ => trivial

theorem Tab.step_signedOut {tab next : Tab} {event : Event} (ordered : tab.Ordered)
    (out : SignedOut tab) (careful : Careful tab event) (noLogin : event ≠ .login)
    (taken : tab.step event = some next)
    : SignedOut next := by
  -- an event that resumes an opening task is late
  have quiet {i : Nat} {task : Task} (found : tab.tasks[i]? = some task)
      (origin : tab.origin event = some task.born) (opens : task.work.kind = .opens)
      : SignedOut next := by
    have kept := careful.kept origin
      (out.openings task (List.mem_of_getElem? found) opens) taken
    refine out.of_resumes (step_resumes task.born origin taken) ?_
    rw [kept.state]
    exact out.status
  cases step_effect taken with
  | mountAnonymous strictMode first => exact absurd (out.mounted.symm.trans first) (by simp)
  | mountRestores strictMode first => exact absurd (out.mounted.symm.trans first) (by simp)
  | login => exact absurd rfl noLogin
  | logout => exact out.of_action rfl (by simp [Work.kind]) rfl rfl ordered.latest_le
  | logoutAll => exact out.of_action rfl (by simp [Work.kind]) rfl rfl ordered.latest_le
  | refresh =>
      have refreshed := refresh_resumes tab tab.actions
      have kept : Kept tab (tab.refresh tab.actions).1 := refresh_kept tab.actions
      have same := kept.state
      exact {
        mounted := refreshed.mounted.trans out.mounted
        status := by rw [same]; exact out.status
        openings := by
          intro task member opens
          show task.born < (tab.refresh tab.actions).1.latest
          rw [refreshed.latest]
          exact out.openings task (by simpa using member) opens }
  | selectOrganization organizationId =>
      exact absurd (careful.selects organizationId rfl) out.status
  | apiCall => exact out.of_action rfl (by simp [Work.kind]) rfl rfl (Nat.le_refl _)
  | clearError => exact ⟨out.mounted, out.status, out.openings⟩
  | @refreshAnswered promise request answer mounted found inFlight =>
      exact out.of_resumes (step_resumes request.born (by simp [origin, found]) taken)
        (out.refreshHandler_status request.generation answer)
  | @refreshSettled promise request token mounted found =>
      exact out.of_resumes (step_resumes request.born (by simp [origin, found]) taken) out.status
  | restoreInactive mounted found work =>
      exact quiet found (by simp [origin, found]) (by rw [work]; rfl)
  | restoreRefused mounted found work =>
      exact quiet found (by simp [origin, found]) (by rw [work]; rfl)
  | restoreUndated mounted found work =>
      exact quiet found (by simp [origin, found]) (by rw [work]; rfl)
  | restoreLoads mounted found work =>
      exact quiet found (by simp [origin, found]) (by rw [work]; rfl)
  | loginAccepted token mounted found work =>
      exact quiet found (by simp [origin, found]) (by rw [work]; rfl)
  | loginRefused failure mounted found work =>
      exact quiet found (by simp [origin, found]) (by rw [work]; rfl)
  | @loggedOut i task mounted found work =>
      refine out.of_resumes (step_resumes task.born (by simp [origin, found]) taken) ?_
      simp [become, clearSession, anonymousState]
  | @callAnswered i slot task call answer middle outcome mounted found waits answered =>
      by_cases opens : task.work.kind = .opens
      · exact quiet found (by simp [origin, found]) opens
      · refine out.of_resumes (step_resumes task.born (by simp [origin, found]) taken) ?_
        rw [((answerCall_kept answered).trans (resume_kept_of_calling opens)).state]
        exact out.status
  | @callResumed i slot task call outcome mounted found waits resumed =>
      by_cases opens : task.work.kind = .opens
      · exact quiet found (by simp [origin, found]) opens
      · refine out.of_resumes (step_resumes task.born (by simp [origin, found]) taken) ?_
        rw [(resume_kept_of_calling opens).state]
        exact out.status

/-- A logout that completes in time leaves nobody signed in. -/
theorem signedOut_of_logout {tab next : Tab} {i : Nat} (ordered : tab.Ordered)
    (careful : Careful tab (.logoutAnswered i))
    (taken : tab.step (.logoutAnswered i) = some next)
    : SignedOut next := by
  cases Tab.step_effect taken with
  | @loggedOut _ task mounted found work =>
      have member := List.mem_of_getElem? found
      have ends : task.work.kind = .ends := by rcases work with work | work <;> rw [work] <;> rfl
      have newest : task.born = tab.latest := by
        have most := ordered.ranked task member (by simp [ends])
        have inTime : ¬ task.born < tab.latest := by
          intro late
          cases careful.late ⟨task.born, by simp [Tab.origin, found], late⟩
        omega
      have resumed := Tab.step_resumes task.born (by simp [Tab.origin, found]) taken
      refine { mounted := resumed.mounted.trans mounted, status := ?_, openings := ?_ }
      · simp [Tab.become, Tab.clearSession, anonymousState]
      · intro other there opens
        obtain ⟨old, here, born, kind⟩ := resumed.tasks.old there
        have opened := (kind (by simp [opens])).trans opens
        have most := ordered.ranked old here (by simp [opened])
        have apart := ordered.apart task member old here ends opened
        rw [← born, resumed.latest]
        omega

-----------------------------------------------------------------------------------------
-- Selection
-----------------------------------------------------------------------------------------

/-- The refreshes and the requests of selections are answered successfully; a 401 that a
refresh repairs counts as well. -/
def Succeeds (tab : Tab) : Event → Prop
  | .refreshAnswered _ answer => ∃ token, answer = .ok token
  | .callAnswered i .context answer =>
      ∀ task organizationId call,
        tab.tasks[i]? = some task → task.work = .selecting organizationId call
        → (∃ context, answer = .ok context ∧ context.organizationId = organizationId)
          ∨ ∃ error, answer = .error error ∧ call.retries error = true
  | _ => True

/-- No newer login, logout or selection. -/
def Event.older : Event → Bool
  | .login => false
  | .logout => false
  | .logoutAll => false
  | .selectOrganization _ => false
  | _ => true

/-- The promise has given no token, or will not give one. -/
def RefreshPromise.refuses (request : RefreshPromise) : Prop :=
  request.status = .handled none ∨ request.status = .settled none

/-- The selection of the organization is the latest action: it waits for its tenant context
or has it, and no refresh of this generation has failed. -/
structure Selected (organizationId : Text) (tab : Tab) : Prop where
  mounted : tab.mounted = true
  selected : tab.state.selectedOrganizationId = some organizationId
  others
    : ∀ task ∈ tab.tasks,
        task.work.kind ≠ .other
        → task.born < tab.latest ∨ ∃ call, task.work = .selecting organizationId call
  hopeful : ∀ request ∈ tab.promises, request.generation = tab.generation → ¬ request.refuses
  waiting
    : ∀ task ∈ tab.tasks, tab.latest ≤ task.born
        → ∀ promise unauthorized,
            task.work = .selecting organizationId (.refreshing promise unauthorized)
            → ∃ request,
                tab.promises[promise]? = some request ∧ request.generation = tab.generation
  outcome
    : (∃ (i : Nat) (task : Task) (call : Call TenantContext),
          tab.tasks[i]? = some task ∧ tab.latest ≤ task.born
          ∧ task.work = .selecting organizationId call)
      ∨ (tab.state.status = .authenticated
          ∧ ∃ context,
              tab.state.tenantContext = some context
              ∧ context.organizationId = organizationId)

theorem selected_of_select {tab : Tab} {organizationId : Text} (ordered : tab.Ordered)
    (mounted : tab.mounted = true)
    : Selected organizationId (tab.selectOrganization organizationId) where
  mounted := mounted
  selected := rfl
  others task member rank := by
    rcases List.mem_append.mp member with old | new
    · exact .inl (ordered.born_lt task old)
    · obtain rfl := List.mem_singleton.mp new
      exact .inr ⟨.sent, rfl⟩
  hopeful request member current := by
    have past := ordered.past request member
    have same : request.generation = tab.generation + 1 := current
    omega
  waiting task member newest promise unauthorized work := by
    rcases List.mem_append.mp member with old | new
    · have := ordered.born_lt task old
      have : tab.actions ≤ task.born := newest
      omega
    · obtain rfl := List.mem_singleton.mp new
      cases work
  outcome :=
    .inl ⟨tab.tasks.length, _, .sent, List.getElem?_concat_length, Nat.le_refl _, rfl⟩

namespace Selected

variable {organizationId : Text} {tab next : Tab}

/-- Refreshes start, are answered and settle; the session keeps its organization. -/
theorem of_same_tasks (selected : Selected organizationId tab)
    (mounted : next.mounted = tab.mounted) (generation : next.generation = tab.generation)
    (latest : next.latest = tab.latest) (tasks : next.tasks = tab.tasks)
    (kept
      : next.state.selectedOrganizationId = tab.state.selectedOrganizationId
        ∧ next.state.tenantContext = tab.state.tenantContext
        ∧ next.state.status = tab.state.status)
    (promises
      : ∀ (promise : Nat) request,
          tab.promises[promise]? = some request
          → ∃ later,
              next.promises[promise]? = some later ∧ later.generation = request.generation)
    (hopeful
      : ∀ request ∈ next.promises, request.generation = tab.generation → ¬ request.refuses)
    : Selected organizationId next where
  mounted := mounted.trans selected.mounted
  selected := kept.1.trans selected.selected
  others task member := by
    rw [tasks] at member
    rw [latest]
    exact selected.others task member
  hopeful request member := by
    rw [generation]
    exact hopeful request member
  waiting task member newest promise unauthorized work := by
    rw [tasks] at member
    rw [latest] at newest
    obtain ⟨request, found, current⟩ :=
      selected.waiting task member newest promise unauthorized work
    obtain ⟨later, there, same⟩ := promises promise request found
    exact ⟨later, there, (same.trans current).trans generation.symm⟩
  outcome := by
    rw [tasks, latest, kept.2.1, kept.2.2]
    exact selected.outcome

theorem of_refresh (selected : Selected organizationId tab) (born : Nat)
    : Selected organizationId (tab.refresh born).1 := by
  unfold Tab.refresh
  cases current : tab.refreshPromise with
  | some promise => exact selected
  | none =>
      refine selected.of_same_tasks rfl rfl rfl rfl ⟨rfl, rfl, rfl⟩ ?_ ?_
      · intro promise request found
        refine ⟨request, ?_, rfl⟩
        rw [← found]
        exact List.getElem?_append_left (List.getElem?_eq_some_iff.mp found).1
      · intro request member same
        rcases List.mem_append.mp member with old | new
        · exact selected.hopeful request old same
        · obtain rfl := List.mem_singleton.mp new
          simp [RefreshPromise.refuses]

theorem of_setPromise (selected : Selected organizationId tab) {promise : Nat}
    {request : RefreshPromise} {status : PromiseStatus}
    (found : tab.promises[promise]? = some request)
    (hopeful
      : request.generation = tab.generation → ¬ { request with status }.refuses)
    : Selected organizationId (tab.setPromise promise request status) := by
  refine selected.of_same_tasks rfl rfl rfl rfl ⟨rfl, rfl, rfl⟩ ?_ ?_
  · intro other known there
    dsimp only [Tab.setPromise]
    by_cases same : promise = other
    · subst same
      rw [found] at there
      cases there
      rw [List.getElem?_set_self (List.getElem?_eq_some_iff.mp found).1]
      exact ⟨_, rfl, rfl⟩
    · rw [List.getElem?_set_ne same]
      exact ⟨known, there, rfl⟩
  · intro other member current
    rcases List.mem_or_eq_of_mem_set member with old | rfl
    · exact selected.hopeful other old current
    · exact hopeful current

/-- A task that is not the pending selection resumes and leaves the state alone. -/
theorem of_continues (selected : Selected organizationId tab) {i : Nat} {task : Task}
    (continued : Continues i task tab next) (found : tab.tasks[i]? = some task)
    (state : next.state = tab.state)
    (aside : task.born < tab.latest ∨ task.work.kind = .other)
    : Selected organizationId next where
  mounted := continued.mounted.trans selected.mounted
  selected := by rw [state]; exact selected.selected
  others other member rank := by
    rw [continued.latest]
    rcases continued.tasks other member with old | ⟨born, same | finished⟩
    · exact selected.others other old rank
    · rcases aside with late | calling
      · exact .inl (born.trans_lt late)
      · exact absurd (same.trans calling) rank
    · exact absurd finished rank
  hopeful := by
    rw [continued.promises, continued.generation]
    exact selected.hopeful
  waiting other member newest promise unauthorized work := by
    rw [continued.latest] at newest
    rw [continued.promises, continued.generation]
    rcases continued.tasks other member with old | ⟨born, kind⟩
    · exact selected.waiting other old newest promise unauthorized work
    · have opens : other.work.kind = .opens := by rw [work]; rfl
      rcases aside with late | calling
      · omega
      · rw [opens, calling] at kind
        rcases kind with wrong | wrong <;> cases wrong
  outcome := by
    rw [continued.latest, state]
    rcases selected.outcome with ⟨j, other, call, there, newest, work⟩ | done
    · refine .inl ⟨j, other, call, continued.others j ?_ other there, newest, work⟩
      rintro rfl
      rw [found] at there
      cases there
      rcases aside with late | calling
      · omega
      · rw [work] at calling
        cases calling
    · exact .inr done

/-- A page calls. -/
theorem of_calling (selected : Selected organizationId tab)
    : Selected organizationId (tab.start (.calling .sent)) where
  mounted := selected.mounted
  selected := selected.selected
  others task member rank := by
    rcases List.mem_append.mp member with old | new
    · exact selected.others task old rank
    · obtain rfl := List.mem_singleton.mp new
      exact absurd rfl rank
  hopeful := selected.hopeful
  waiting task member newest promise unauthorized work := by
    rcases List.mem_append.mp member with old | new
    · exact selected.waiting task old newest promise unauthorized work
    · obtain rfl := List.mem_singleton.mp new
      cases work
  outcome := by
    rcases selected.outcome with ⟨j, task, call, there, newest, work⟩ | done
    · refine .inl ⟨j, task, call, ?_, newest, work⟩
      rw [← there]
      exact List.getElem?_append_left (List.getElem?_eq_some_iff.mp there).1
    · exact .inr done

/-- The pending selection waits on. -/
theorem of_waiting (selected : Selected organizationId tab) {i : Nat} {task : Task}
    {call : Call TenantContext} (found : tab.tasks[i]? = some task)
    (newest : tab.latest ≤ task.born)
    (waiting
      : ∀ promise unauthorized,
          call = .refreshing promise unauthorized
          → ∃ request,
              tab.promises[promise]? = some request ∧ request.generation = tab.generation)
    : Selected organizationId (tab.become i task (.selecting organizationId call)) where
  mounted := selected.mounted
  selected := selected.selected
  others other member rank := by
    rcases List.mem_or_eq_of_mem_set member with old | rfl
    · exact selected.others other old rank
    · exact .inr ⟨call, rfl⟩
  hopeful := selected.hopeful
  waiting other member later promise unauthorized work := by
    rcases List.mem_or_eq_of_mem_set member with old | rfl
    · exact selected.waiting other old later promise unauthorized work
    · cases work
      exact waiting promise unauthorized rfl
  outcome :=
    .inl ⟨i, _, call, List.getElem?_set_self (List.getElem?_eq_some_iff.mp found).1, newest, rfl⟩

/-- The pending selection has its tenant context. -/
theorem of_answered (selected : Selected organizationId tab) {i : Nat} {task : Task}
    {context : TenantContext} (same : context.organizationId = organizationId)
    : Selected organizationId (tab.selectAnswered i task organizationId context) := by
  have kept {other : Task} (member : other ∈ (tab.become i task .finished).tasks)
      (rank : other.work.kind ≠ .other)
      : other ∈ tab.tasks := by
    rcases List.mem_or_eq_of_mem_set member with old | rfl
    · exact old
    · exact absurd rfl rank
  unfold Tab.selectAnswered
  rw [if_neg (not_not.mpr same)]
  exact {
    mounted := selected.mounted
    selected := rfl
    others := fun other member rank => selected.others other (kept member rank) rank
    hopeful := selected.hopeful
    waiting := fun other member newest promise unauthorized work =>
      selected.waiting other (kept member (by rw [work]; simp [Work.kind])) newest promise
        unauthorized work
    outcome := .inr ⟨rfl, context, rfl, same⟩ }

end Selected

theorem Tab.refreshHandler_ok {tab : Tab} (generation : Nat) (token : TokenResponse)
    : (tab.refreshHandler generation (.ok token)).1.state.selectedOrganizationId
          = tab.state.selectedOrganizationId
        ∧ (tab.refreshHandler generation (.ok token)).1.state.tenantContext
          = tab.state.tenantContext
        ∧ (tab.refreshHandler generation (.ok token)).1.state.status = tab.state.status := by
  unfold refreshHandler
  split <;> exact ⟨rfl, rfl, rfl⟩

/-- The steps after the selection: careful, successful and without a newer action. -/
structure Undisturbed (tab : Tab) (event : Event) : Prop where
  careful : Careful tab event
  older : event.older = true
  succeeds : Succeeds tab event

/-- The answer to the tenant-context request of the pending selection. -/
theorem Selected.answer {organizationId : Text} {tab middle : Tab} {i : Nat} {slot : Slot}
    {task : Task} {call : Call slot.Data} {answer : Except ApiError slot.Data}
    {outcome : Outcome slot.Data} {pending : Call TenantContext} (ordered : tab.Ordered)
    (selected : Selected organizationId tab) (newest : tab.latest ≤ task.born)
    (work : task.work = .selecting organizationId pending)
    (succeeds : Succeeds tab (.callAnswered i slot answer))
    (found : tab.tasks[i]? = some task) (waits : task.work.call slot = some call)
    (answered : tab.answerCall task.born call answer = some (middle, outcome))
    : Selected organizationId (middle.resume i task slot outcome) := by
  cases slot with
  | context =>
      have same : pending = call := by
        rw [work] at waits
        exact Option.some.inj waits
      subst same
      have kept : Selected organizationId middle := by
        rcases Tab.answerCall_tab answered with rfl | rfl
        · exact selected
        · exact selected.of_refresh task.born
      have there : middle.tasks[i]? = some task := by rw [Tab.answerCall_tasks answered, found]
      cases outcome with
      | waits again =>
          obtain ⟨rfl, error, rfl⟩ := Tab.answerCall_waits answered
          simp only [Tab.resume, work]
          refine kept.of_waiting there ?_ ?_
          · rw [(Tab.refresh_resumes tab task.born).latest]
            exact newest
          · intro promise unauthorized same
            cases same
            exact (ordered.refresh task.born).shared _ (Tab.refresh_shares tab task.born)
      | resolves context =>
          simp only [Tab.resume, work]
          refine kept.of_answered ?_
          rcases Tab.answerCall_outcome answered
            with ⟨_, wrong⟩ | ⟨data, same, rfl⟩ | ⟨_, wrong, -⟩
          · cases wrong
          · cases same
            rcases succeeds task organizationId pending found work
              with ⟨_, ok, right⟩ | ⟨_, wrong, -⟩
            · cases ok
              exact right
            · cases wrong
          · cases wrong
      | rejects error =>
          rcases Tab.answerCall_outcome answered
            with ⟨_, wrong⟩ | ⟨_, wrong, -⟩ | ⟨_, -, rfl, final⟩
          · cases wrong
          · cases wrong
          · rcases succeeds task organizationId pending found work
              with ⟨_, wrong, -⟩ | ⟨_, same, retries⟩
            · cases wrong
            · cases same
              rw [final] at retries
              cases retries
  | user => rw [work] at waits; cases waits
  | organizations => rw [work] at waits; cases waits
  | page => rw [work] at waits; cases waits

/-- The refresh that the pending selection waits for has given a token. -/
theorem Selected.proceed {organizationId : Text} {tab : Tab} {i : Nat} {slot : Slot}
    {task : Task} {call : Call slot.Data} {outcome : Outcome slot.Data}
    {pending : Call TenantContext} (selected : Selected organizationId tab)
    (newest : tab.latest ≤ task.born) (work : task.work = .selecting organizationId pending)
    (found : tab.tasks[i]? = some task) (waits : task.work.call slot = some call)
    (resumed : tab.resumeCall call = some outcome)
    : Selected organizationId (tab.resume i task slot outcome) := by
  cases slot with
  | context =>
      have same : pending = call := by
        rw [work] at waits
        exact Option.some.inj waits
      subst same
      cases outcome with
      | waits again =>
          obtain rfl := Tab.resumeCall_waits resumed
          simp only [Tab.resume, work]
          exact selected.of_waiting found newest (fun _ _ wrong => nomatch wrong)
      | resolves context =>
          rcases Tab.resumeCall_outcome resumed with ⟨_, wrong⟩ | ⟨_, wrong, -⟩ <;> cases wrong
      | rejects error =>
          -- no refresh of this generation was refused
          rcases Tab.resumeCall_outcome resumed with ⟨_, wrong⟩ | ⟨_, -, refused⟩
          · cases wrong
          · unfold Tab.refusesCall at refused
            split at refused
            next promise unauthorized =>
              obtain ⟨request, at_, settled⟩ := Tab.settledToken_eq (by simpa using refused)
              obtain ⟨other, there, current⟩ := selected.waiting task
                (List.mem_of_getElem? found) newest promise unauthorized work
              rw [at_] at there
              cases there
              exact absurd (.inr settled)
                (selected.hopeful request (List.mem_of_getElem? at_) current)
            · cases refused
  | user => rw [work] at waits; cases waits
  | organizations => rw [work] at waits; cases waits
  | page => rw [work] at waits; cases waits

theorem Tab.step_selected {organizationId : Text} {tab next : Tab} {event : Event}
    (ordered : tab.Ordered) (selected : Selected organizationId tab)
    (undisturbed : Undisturbed tab event) (taken : tab.step event = some next)
    : Selected organizationId next := by
  obtain ⟨careful, older, succeeds⟩ := undisturbed
  -- a task that opens or ends a session, other than the pending selection, is late
  have late {i : Nat} {task : Task} (found : tab.tasks[i]? = some task)
      (rank : task.work.kind ≠ .other)
      (apart : ∀ call, task.work ≠ .selecting organizationId call)
      : task.born < tab.latest := by
    rcases selected.others task (List.mem_of_getElem? found) rank with late | ⟨call, work⟩
    · exact late
    · exact absurd work (apart call)
  have aside_or_pending {i : Nat} {task : Task} (found : tab.tasks[i]? = some task)
      : (∃ pending, task.work = .selecting organizationId pending ∧ tab.latest ≤ task.born)
        ∨ task.born < tab.latest ∨ task.work.kind = .other := by
    by_cases rank : task.work.kind = .other
    · exact .inr (.inr rank)
    · rcases Nat.lt_or_ge task.born tab.latest with old | newest
      · exact .inr (.inl old)
      · rcases selected.others task (List.mem_of_getElem? found) rank with old | ⟨call, work⟩
        · exact .inr (.inl old)
        · exact .inl ⟨call, work, newest⟩
  cases step_effect taken with
  | mountAnonymous strictMode first =>
      exact absurd (selected.mounted.symm.trans first) (by simp)
  | mountRestores strictMode first =>
      exact absurd (selected.mounted.symm.trans first) (by simp)
  | login => cases older
  | logout => cases older
  | logoutAll => cases older
  | selectOrganization => cases older
  | refresh =>
      exact (selected.of_refresh tab.actions).of_same_tasks rfl rfl rfl rfl ⟨rfl, rfl, rfl⟩
        (fun promise request found => ⟨request, found, rfl⟩)
        (selected.of_refresh tab.actions).hopeful
  | apiCall => exact selected.of_calling
  | clearError =>
      exact selected.of_same_tasks rfl rfl rfl rfl ⟨rfl, rfl, rfl⟩
        (fun promise request found => ⟨request, found, rfl⟩) selected.hopeful
  | @refreshAnswered promise request answer mounted found inFlight =>
      obtain ⟨token, rfl⟩ := succeeds
      have handled := tab.refreshHandler_same request.generation (.ok token)
      have kept : Selected organizationId (tab.refreshHandler request.generation (.ok token)).1 :=
        selected.of_same_tasks handled.mounted handled.generation handled.latest handled.tasks
          (refreshHandler_ok _ _)
          (fun promise request found => ⟨request, by rw [handled.promises, found], rfl⟩)
          (by rw [handled.promises]; exact selected.hopeful)
      refine kept.of_setPromise (by rw [handled.promises]; exact found) fun current => ?_
      rw [handled.generation] at current
      rw [refreshHandler, if_neg (not_not.mpr current)]
      simp [RefreshPromise.refuses]
  | @refreshSettled promise request token mounted found handled =>
      have hopeful : request.generation = tab.generation → token ≠ none := by
        rintro current rfl
        exact selected.hopeful request (List.mem_of_getElem? found) current (.inl handled)
      have kept : Selected organizationId (tab.setPromise promise request (.settled token)) :=
        selected.of_setPromise found fun current => by
          simpa [RefreshPromise.refuses] using hopeful current
      exact kept.of_same_tasks rfl rfl rfl rfl ⟨rfl, rfl, rfl⟩
        (fun promise request found => ⟨request, found, rfl⟩) kept.hopeful
  | restoreInactive mounted found work =>
      exact selected.of_continues finish_continues found rfl
        (.inl (late found (by simp [work, Work.kind]) (by simp [work])))
  | restoreRefused mounted found work =>
      have old := late found (by simp [work, Work.kind]) (by simp [work])
      have checked := careful.late ⟨_, by simp [origin, found], old⟩
      simp [unchecked, found, work] at checked
  | restoreUndated mounted found work =>
      have old := late found (by simp [work, Work.kind]) (by simp [work])
      have checked := careful.late ⟨_, by simp [origin, found], old⟩
      simp [unchecked, found, work] at checked
  | restoreLoads mounted found work =>
      have old := late found (by simp [work, Work.kind]) (by simp [work])
      have checked := careful.late ⟨_, by simp [origin, found], old⟩
      simp [unchecked, found, work] at checked
  | loginAccepted token mounted found work =>
      have old := late found (by simp [work, Work.kind]) (by simp [work])
      cases careful.late ⟨_, by simp [origin, found], old⟩
  | loginRefused failure mounted found work =>
      have old := late found (by simp [work, Work.kind]) (by simp [work])
      cases careful.late ⟨_, by simp [origin, found], old⟩
  | loggedOut mounted found work =>
      have old := late found (by rcases work with work | work <;> simp [work, Work.kind])
        (by rcases work with work | work <;> simp [work])
      cases careful.late ⟨_, by simp [origin, found], old⟩
  | @callAnswered i slot task call answer middle outcome mounted found waits answered =>
      have kept : Selected organizationId middle := by
        rcases answerCall_tab answered with rfl | rfl
        · exact selected
        · exact selected.of_refresh task.born
      have there : middle.tasks[i]? = some task := by rw [answerCall_tasks answered, found]
      have latest : middle.latest = tab.latest := by
        rcases answerCall_tab answered with rfl | rfl
        · rfl
        · exact (refresh_resumes tab task.born).latest
      rcases aside_or_pending found with ⟨pending, work, newest⟩ | aside
      · exact selected.answer ordered newest work succeeds found waits answered
      · refine kept.of_continues resume_continues there ?_ (by rwa [latest])
        rcases aside with old | calling
        · exact (careful.kept (by simp [origin, found]) old taken).state.trans
            (answerCall_kept answered).state.symm
        · exact (resume_kept_of_calling (by simp [calling])).state
  | @callResumed i slot task call outcome mounted found waits resumed =>
      rcases aside_or_pending found with ⟨pending, work, newest⟩ | aside
      · exact selected.proceed newest work found waits resumed
      · refine selected.of_continues resume_continues found ?_ aside
        rcases aside with old | calling
        · exact (careful.kept (by simp [origin, found]) old taken).state
        · exact (resume_kept_of_calling (by simp [calling])).state

-----------------------------------------------------------------------------------------
-- The latest action
-----------------------------------------------------------------------------------------

/-- In the runs of allowed events from a storage: a late response changes nothing of the
session; after a logout nobody is signed in without a newer login; and once all requests are
answered successfully, the organization of the latest selection is selected. -/
structure LatestWins (storage : Storage) (allowed : Tab → Event → Prop) : Prop where
  ignored
    : ∀ tab event next,
        TabRun allowed (.initial storage) tab → allowed tab event
        → tab.step event = some next → tab.Late event
        → Kept tab next
  signedOut
    : ∀ before i after tab,
        TabRun allowed (.initial storage) before → allowed before (.logoutAnswered i)
        → before.step (.logoutAnswered i) = some after
        → TabRun (fun tab event => allowed tab event ∧ event ≠ .login) after tab
        → tab.state.status ≠ .authenticated
  selected
    : ∀ before organizationId after tab,
        TabRun allowed (.initial storage) before
        → allowed before (.selectOrganization organizationId)
        → before.step (.selectOrganization organizationId) = some after
        → TabRun
            (fun tab event => allowed tab event ∧ event.older = true ∧ Succeeds tab event)
            after tab
        → tab.state.selectedOrganizationId = some organizationId
          ∧ ((∀ task ∈ tab.tasks, task.work = .finished)
            → tab.state.status = .authenticated
              ∧ ∃ context,
                  tab.state.tenantContext = some context
                  ∧ context.organizationId = organizationId)

theorem Tab.ordered_run {allowed : Tab → Event → Prop} {storage : Storage} {tab : Tab}
    (run : TabRun allowed (.initial storage) tab)
    : tab.Ordered :=
  run.invariant (fun _ _ _ ordered _ taken => step_ordered ordered taken)
    (ordered_initial storage)

/-- The latest login, logout or selection wins while late responses only reach continuations
that find a newer generation, and organizations are selected by signed-in users. -/
theorem latest_action_wins (storage : Storage) : LatestWins storage Careful where
  ignored _ _ _ _ careful taken late := Tab.late_kept late (careful.late late) taken
  signedOut before i after tab run careful taken rest := by
    have ordered := Tab.ordered_run run
    have out : SignedOut tab :=
      rest.invariant_with
        (fun _ _ _ ordered out allowed taken =>
          Tab.step_signedOut ordered out allowed.1 allowed.2 taken)
        (fun _ _ _ ordered taken => Tab.step_ordered ordered taken)
        (Tab.step_ordered ordered taken) (signedOut_of_logout ordered careful taken)
    exact out.status
  selected before organizationId after tab run careful taken rest := by
    have ordered := Tab.ordered_run run
    have start : Selected organizationId after := by
      cases Tab.step_effect taken with
      | selectOrganization _ mounted => exact selected_of_select ordered mounted
    have selected : Selected organizationId tab :=
      rest.invariant_with
        (fun _ _ _ ordered selected allowed taken =>
          Tab.step_selected ordered selected ⟨allowed.1, allowed.2.1, allowed.2.2⟩ taken)
        (fun _ _ _ ordered taken => Tab.step_ordered ordered taken)
        (Tab.step_ordered ordered taken) start
    refine ⟨selected.selected, fun finished => ?_⟩
    rcases selected.outcome with ⟨i, task, call, found, -, work⟩ | done
    · rw [finished task (List.mem_of_getElem? found)] at work
      cases work
    · exact done

namespace Sample

/-- The user selects the other organization and signs out; the selection is answered last. -/
def selectedThenSignedOut : List Event :=
  restored ++ [.selectOrganization (organizationId 'b'), .logout]

def careful (tab : Tab) (event : Event) : Bool :=
  (!(tab.origin event).any (· < tab.latest) || !tab.unchecked event)
  && (match event with
      | .selectOrganization _ => tab.state.status == .authenticated
      | _ => true)

theorem careful_sound (tab : Tab) (event : Event) (checked : careful tab event = true)
    : Careful tab event := by
  simp only [careful, Bool.and_eq_true, Bool.or_eq_true, Bool.not_eq_true'] at checked
  constructor
  · rintro ⟨born, origin, late⟩
    rcases checked.1 with inTime | compared
    · simp [origin, late] at inTime
    · exact compared
  · rintro organizationId rfl
    simpa using checked.2

end Sample

/-- A selection that is answered after the logout signs the user in again. -/
theorem late_selection_signs_in : ¬ LatestWins Sample.storage (fun _ _ => True) := by
  intro wins
  have checked
      : (Concurrency.follow Tab.step (fun _ _ => true) Sample.selectedThenSignedOut
            (.initial Sample.storage)).any
          (fun before => (before.step (.logoutAnswered 2)).any
            (fun after => (after.step (.callAnswered 1 .context (.ok (Sample.context 'b')))).any
              (fun tab => tab.state.status == .authenticated))) = true := by
    decide +kernel
  obtain ⟨before, run, found⟩ := Concurrency.exists_run_of_check (fun _ _ _ => trivial) checked
  obtain ⟨after, signedOut, found⟩ := Option.any_eq_true _ _ |>.mp found
  obtain ⟨tab, answered, signedIn⟩ := Option.any_eq_true _ _ |>.mp found
  exact wins.signedOut before 2 after tab run trivial signedOut
    (.tail (.refl after) ⟨trivial, by simp⟩ answered) (by simpa using signedIn)

/-- A selection that is answered in time is the selected organization. -/
theorem selection_in_time
    : ∃ tab : Tab,
        TabRun Careful (.initial Sample.storage) tab
        ∧ (∀ task ∈ tab.tasks, task.work = .finished)
        ∧ tab.state.selectedOrganizationId = some (Sample.organizationId 'b') := by
  have checked
      : (Concurrency.follow Tab.step Sample.careful Sample.restored
            (.initial Sample.storage)).any
          (fun before => Sample.careful before (.selectOrganization (Sample.organizationId 'b'))
            && (before.step (.selectOrganization (Sample.organizationId 'b'))).any
              (fun after =>
                Sample.careful after (.callAnswered 1 .context (.ok (Sample.context 'b')))
                && after.tasks[1]? == some {
                  born := 1, work := .selecting (Sample.organizationId 'b') .sent }
                && (after.step (.callAnswered 1 .context (.ok (Sample.context 'b')))).any
                  (fun tab => tab.tasks.all (·.work == .finished)))) = true := by
    decide +kernel
  obtain ⟨before, run, found⟩ := Concurrency.exists_run_of_check Sample.careful_sound checked
  obtain ⟨allowed, found⟩ := Bool.and_eq_true _ _ |>.mp found
  obtain ⟨after, selects, found⟩ := Option.any_eq_true _ _ |>.mp found
  simp only [Bool.and_eq_true, beq_iff_eq] at found
  obtain ⟨⟨allowedToo, waits⟩, found⟩ := found
  obtain ⟨tab, answered, finished⟩ := Option.any_eq_true _ _ |>.mp found
  have careful := Sample.careful_sound _ _ allowed
  have carefulToo := Sample.careful_sound _ _ allowedToo
  have rest
      : TabRun (fun tab event => Careful tab event ∧ event.older = true ∧ Succeeds tab event)
          after tab := by
    refine .tail (.refl after) ⟨carefulToo, rfl, ?_⟩ answered
    intro task organizationId call there work
    rw [waits] at there
    cases there
    cases work
    exact .inl ⟨_, rfl, rfl⟩
  refine ⟨tab, .tail (.tail run careful selects) carefulToo answered, ?_, ?_⟩
  · simpa using finished
  · exact ((latest_action_wins Sample.storage).selected before (Sample.organizationId 'b') after tab
      run careful selects rest).1

end WorkflowForge.Web
