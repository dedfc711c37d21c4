import WorkflowForge.Web.AuthProvider

/-! What each event does to the tab, case by case. -/

namespace WorkflowForge.Web

open Python

/-- The tab after the `finally` handler. -/
def Tab.settle (tab : Tab) (promise : Nat) (request : RefreshPromise) (token : Option Text)
    : Tab :=
  { tab.setPromise promise request (.settled token) with
    refreshPromise :=
      if tab.refreshPromise = some promise then none else tab.refreshPromise }

/-- `restoreSession` finds no token. -/
def Tab.restoreRefused (tab : Tab) (i : Nat) (task : Task) : Tab :=
  { tab.become i task .finished with
    accessToken := none
    accessTokenExpiresAt := none
    state := anonymousState }

/-- `login` has a token. -/
def Tab.loginAccepted (tab : Tab) (i : Nat) (task : Task) (token : TokenResponse) : Tab :=
  { tab with
    generation := tab.generation + 1
    refreshPromise := none
    accessToken := some token.accessToken }.loadSession i task .login token.accessToken
      token.accessTokenExpiresAt

/-- The tasks of a mount that restores the session, one for each run of the effect. -/
def Tab.restores (tab : Tab) (strictMode : Bool) : List Task :=
  let promise := ({ tab with mounted := true }.refresh tab.actions).2
  (if strictMode then [{ born := tab.actions, work := .restoring false promise }] else [])
    ++ [{ born := tab.actions, work := .restoring true promise }]

/-- The tab after a mount that restores the session: all its tasks join one refresh. -/
def Tab.restoring (tab : Tab) (strictMode : Bool) : Tab :=
  { ({ tab with mounted := true }.refresh tab.actions).1 with
    tasks := tab.tasks ++ tab.restores strictMode
    actions := tab.actions + 1 }

inductive Effect (tab : Tab) : Event → Tab → Prop
  | mountAnonymous (strictMode : Bool) (first : tab.mounted = false)
    : Effect tab (.mount false strictMode)
        { tab with mounted := true, state := anonymousState, actions := tab.actions + 1 }
  | mountRestores (strictMode : Bool) (first : tab.mounted = false)
    : Effect tab (.mount true strictMode) (tab.restoring strictMode)
  | login (mounted : tab.mounted = true) : Effect tab .login tab.login
  | logout (mounted : tab.mounted = true) : Effect tab .logout (tab.asLatest.start .loggingOut)
  | logoutAll (mounted : tab.mounted = true)
    : Effect tab .logoutAll (tab.asLatest.start .loggingOutAll)
  | refresh (mounted : tab.mounted = true)
    : Effect tab .refresh { (tab.refresh tab.actions).1 with actions := tab.actions + 1 }
  | selectOrganization (organizationId : Text) (mounted : tab.mounted = true)
    : Effect tab (.selectOrganization organizationId) (tab.selectOrganization organizationId)
  | apiCall (mounted : tab.mounted = true) : Effect tab .apiCall (tab.start (.calling .sent))
  | clearError (mounted : tab.mounted = true)
    : Effect tab .clearError { tab with
        state := { tab.state with error := none }
        actions := tab.actions + 1 }
  | refreshAnswered {promise : Nat} {request : RefreshPromise}
    (answer : Except Failure TokenResponse) (mounted : tab.mounted = true)
    (found : tab.promises[promise]? = some request) (inFlight : request.status = .inFlight)
    : Effect tab (.refreshAnswered promise answer)
        ((tab.refreshHandler request.generation answer).1.setPromise promise request
          (.handled (tab.refreshHandler request.generation answer).2))
  | refreshSettled {promise : Nat} {request : RefreshPromise} {token : Option Text}
    (mounted : tab.mounted = true) (found : tab.promises[promise]? = some request)
    (handled : request.status = .handled token)
    : Effect tab (.refreshSettled promise) (tab.settle promise request token)
  | restoreInactive {i promise : Nat} {task : Task} {token : Option Text}
    (mounted : tab.mounted = true) (found : tab.tasks[i]? = some task)
    (work : task.work = .restoring false promise) (settled : tab.settledToken promise = some token)
    : Effect tab (.restoreResumed i) (tab.become i task .finished)
  | restoreRefused {i promise : Nat} {task : Task} (mounted : tab.mounted = true)
    (found : tab.tasks[i]? = some task) (work : task.work = .restoring true promise)
    (settled : tab.settledToken promise = some none)
    : Effect tab (.restoreResumed i) (tab.restoreRefused i task)
  | restoreUndated {i promise : Nat} {task : Task} {token : Text} (mounted : tab.mounted = true)
    (found : tab.tasks[i]? = some task) (work : task.work = .restoring true promise)
    (settled : tab.settledToken promise = some (some token))
    (undated : tab.accessTokenExpiresAt = none)
    : Effect tab (.restoreResumed i)
        (tab.loadFailed i task .restoreSession
          (.other "Refreshed token was missing expiry metadata."))
  | restoreLoads {i promise : Nat} {task : Task} {token expiresAt : Text}
    (mounted : tab.mounted = true) (found : tab.tasks[i]? = some task)
    (work : task.work = .restoring true promise)
    (settled : tab.settledToken promise = some (some token))
    (dated : tab.accessTokenExpiresAt = some expiresAt)
    : Effect tab (.restoreResumed i) (tab.loadSession i task .restoreSession token expiresAt)
  | loginAccepted {i : Nat} {task : Task} (token : TokenResponse) (mounted : tab.mounted = true)
    (found : tab.tasks[i]? = some task) (work : task.work = .loggingIn)
    : Effect tab (.loginAnswered i (.ok token)) (tab.loginAccepted i task token)
  | loginRefused {i : Nat} {task : Task} (failure : Failure) (mounted : tab.mounted = true)
    (found : tab.tasks[i]? = some task) (work : task.work = .loggingIn)
    : Effect tab (.loginAnswered i (.error failure)) (tab.loadFailed i task .login failure)
  | loggedOut {i : Nat} {task : Task} (mounted : tab.mounted = true)
    (found : tab.tasks[i]? = some task)
    (work : task.work = .loggingOut ∨ task.work = .loggingOutAll)
    : Effect tab (.logoutAnswered i) (tab.clearSession.become i task .finished)
  | callAnswered {i : Nat} {slot : Slot} {task : Task} {call : Call slot.Data}
    (answer : Except ApiError slot.Data) {middle : Tab} {outcome : Outcome slot.Data}
    (mounted : tab.mounted = true) (found : tab.tasks[i]? = some task)
    (waits : task.work.call slot = some call)
    (answered : tab.answerCall task.born call answer = some (middle, outcome))
    : Effect tab (.callAnswered i slot answer) (middle.resume i task slot outcome)
  | callResumed {i : Nat} {slot : Slot} {task : Task} {call : Call slot.Data}
    {outcome : Outcome slot.Data} (mounted : tab.mounted = true)
    (found : tab.tasks[i]? = some task) (waits : task.work.call slot = some call)
    (resumed : tab.resumeCall call = some outcome)
    : Effect tab (.callResumed i slot) (tab.resume i task slot outcome)

namespace Tab

variable {tab next : Tab}

/-- A refresh changes the shared promise and the promises only. -/
theorem refresh_eq (tab : Tab) (born : Nat)
    : (tab.refresh born).1 = { tab with
        promises := (tab.refresh born).1.promises
        refreshPromise := some (tab.refresh born).2 } := by
  unfold refresh
  cases shared : tab.refreshPromise with
  | some promise =>
      show tab = { tab with refreshPromise := some promise }
      rw [← shared]
  | none => rfl

@[simp] theorem refresh_tasks (tab : Tab) (born : Nat)
    : (tab.refresh born).1.tasks = tab.tasks := by
  rw [refresh_eq]

/-- An answer leaves the tab as it is, or refreshes it. -/
theorem answerCall_tab {α : Type} {born : Nat} {call : Call α} {answer : Except ApiError α}
    {outcome : Outcome α} (answered : tab.answerCall born call answer = some (next, outcome))
    : next = tab ∨ next = (tab.refresh born).1 := by
  unfold answerCall at answered
  split at answered
  · exact .inl (by cases answered; rfl)
  · split at answered
    · exact .inr (by cases answered; rfl)
    · exact .inl (by cases answered; rfl)
  · exact .inl (by cases answered; rfl)
  · exact .inl (by cases answered; rfl)
  · cases answered

/-- A request waits after a first 401, for the shared promise. -/
theorem answerCall_waits {α : Type} {born : Nat} {call pending : Call α}
    {answer : Except ApiError α}
    (answered : tab.answerCall born call answer = some (next, .waits pending))
    : next = (tab.refresh born).1
      ∧ ∃ error, pending = .refreshing (tab.refresh born).2 error := by
  unfold answerCall at answered
  split at answered
  · cases answered
  next error =>
    split at answered
    · cases answered
      exact ⟨rfl, error, rfl⟩
    · cases answered
  · cases answered
  · cases answered
  · cases answered

theorem resumeCall_waits {α : Type} {call pending : Call α}
    (resumed : tab.resumeCall call = some (.waits pending))
    : pending = .resent := by
  unfold resumeCall at resumed
  split at resumed
  · split at resumed
    · cases resumed
      rfl
    · cases resumed
    · cases resumed
  · cases resumed

theorem refresh_shares (tab : Tab) (born : Nat)
    : (tab.refresh born).1.refreshPromise = some (tab.refresh born).2 := by
  rw [refresh_eq]

theorem settledToken_eq {promise : Nat} {token : Option Text}
    (settled : tab.settledToken promise = some token)
    : ∃ request, tab.promises[promise]? = some request ∧ request.status = .settled token := by
  unfold settledToken at settled
  split at settled
  next found =>
    cases settled
    exact ⟨_, found, rfl⟩
  · cases settled

theorem answerCall_tasks {α : Type} {born : Nat} {call : Call α} {answer : Except ApiError α}
    {outcome : Outcome α} (answered : tab.answerCall born call answer = some (next, outcome))
    : next.tasks = tab.tasks := by
  rcases answerCall_tab answered with rfl | rfl
  · rfl
  · exact refresh_tasks tab born

theorem refresh_of_shared {promise : Nat} (shared : tab.refreshPromise = some promise)
    (born : Nat)
    : tab.refresh born = (tab, promise) := by
  unfold refresh
  rw [shared]

theorem mount_restoring (tab : Tab) (strictMode : Bool)
    : tab.mount true strictMode = tab.restoring strictMode := by
  have first := refresh_eq { tab with mounted := true } tab.actions
  unfold mount restoring restores
  cases strictMode
  · dsimp only
    rw [first, refresh_of_shared rfl]
    simp [start]
  · dsimp only
    rw [first, refresh_of_shared rfl]
    simp [start]

theorem refreshAnswered_effect {promise : Nat} {answer : Except Failure TokenResponse}
    (mounted : tab.mounted = true) (taken : tab.refreshAnswered promise answer = some next)
    : Effect tab (.refreshAnswered promise answer) next := by
  unfold refreshAnswered at taken
  split at taken
  next request found =>
    split at taken
    next inFlight =>
      cases taken
      exact .refreshAnswered answer mounted found inFlight
    · cases taken
  · cases taken

theorem refreshSettled_effect {promise : Nat} (mounted : tab.mounted = true)
    (taken : tab.refreshSettled promise = some next)
    : Effect tab (.refreshSettled promise) next := by
  unfold refreshSettled at taken
  split at taken
  next request found =>
    split at taken
    next token handled =>
      have same : next = tab.settle promise request token := by
        dsimp only [setPromise] at taken
        unfold settle setPromise
        split at taken
        next shared =>
          rw [if_pos shared]
          exact (Option.some.inj taken).symm
        next apart =>
          rw [if_neg apart]
          exact (Option.some.inj taken).symm
      rw [same]
      exact .refreshSettled mounted found handled
    · cases taken
  · cases taken

theorem restoreResumed_effect {i : Nat} (mounted : tab.mounted = true)
    (taken : tab.restoreResumed i = some next)
    : Effect tab (.restoreResumed i) next := by
  unfold restoreResumed at taken
  split at taken
  next task found =>
    split at taken
    next active promise work =>
      split at taken
      · cases taken
      next token settled =>
        cases active with
        | false =>
            cases taken
            exact .restoreInactive mounted found work settled
        | true =>
            cases token with
            | none =>
                cases taken
                exact .restoreRefused mounted found work settled
            | some token =>
                simp only [Bool.not_true, Bool.false_eq_true, if_false] at taken
                split at taken
                next undated =>
                  cases taken
                  exact .restoreUndated mounted found work settled undated
                next expiresAt dated =>
                  cases taken
                  exact .restoreLoads mounted found work settled dated
    · cases taken
  · cases taken

theorem loginAnswered_effect {i : Nat} {answer : Except Failure TokenResponse}
    (mounted : tab.mounted = true) (taken : tab.loginAnswered i answer = some next)
    : Effect tab (.loginAnswered i answer) next := by
  unfold loginAnswered at taken
  split at taken
  next task found =>
    split at taken
    next work =>
      cases answer with
      | ok token =>
          cases taken
          exact .loginAccepted token mounted found work
      | error failure =>
          cases taken
          exact .loginRefused failure mounted found work
    · cases taken
  · cases taken

theorem logoutAnswered_effect {i : Nat} (mounted : tab.mounted = true)
    (taken : tab.logoutAnswered i = some next)
    : Effect tab (.logoutAnswered i) next := by
  unfold logoutAnswered at taken
  split at taken
  next task found =>
    split at taken
    next work =>
      cases taken
      exact .loggedOut mounted found (.inl work)
    next work =>
      cases taken
      exact .loggedOut mounted found (.inr work)
    · cases taken
  · cases taken

theorem callAnswered_effect {i : Nat} {slot : Slot} {answer : Except ApiError slot.Data}
    (mounted : tab.mounted = true) (taken : tab.callAnswered i slot answer = some next)
    : Effect tab (.callAnswered i slot answer) next := by
  obtain ⟨task, found, rest⟩ := Option.bind_eq_some_iff.mp taken
  obtain ⟨call, waits, rest⟩ := Option.bind_eq_some_iff.mp rest
  obtain ⟨⟨middle, outcome⟩, answered, rest⟩ := Option.bind_eq_some_iff.mp rest
  cases rest
  exact .callAnswered answer mounted found waits answered

theorem callResumed_effect {i : Nat} {slot : Slot} (mounted : tab.mounted = true)
    (taken : tab.callResumed i slot = some next)
    : Effect tab (.callResumed i slot) next := by
  obtain ⟨task, found, rest⟩ := Option.bind_eq_some_iff.mp taken
  obtain ⟨call, waits, rest⟩ := Option.bind_eq_some_iff.mp rest
  obtain ⟨outcome, resumed, rest⟩ := Option.bind_eq_some_iff.mp rest
  cases rest
  exact .callResumed mounted found waits resumed

theorem step_effect {event : Event} (taken : tab.step event = some next)
    : Effect tab event next := by
  unfold step at taken
  split at taken
  next restoreSessionOnMount strictMode =>
    split at taken
    · cases taken
    next first =>
      have unmounted : tab.mounted = false := by simpa using first
      cases taken
      cases restoreSessionOnMount with
      | false => exact .mountAnonymous strictMode unmounted
      | true =>
          rw [mount_restoring]
          exact .mountRestores strictMode unmounted
  next notMount =>
    split at taken
    · cases taken
    next running =>
      have mounted : tab.mounted = true := by simpa using running
      cases event with
      | mount restoreSessionOnMount strictMode => exact absurd rfl (notMount _ _)
      | login => cases taken; exact .login mounted
      | logout => cases taken; exact .logout mounted
      | logoutAll => cases taken; exact .logoutAll mounted
      | refresh => cases taken; exact .refresh mounted
      | selectOrganization organizationId =>
          cases taken; exact .selectOrganization organizationId mounted
      | apiCall => cases taken; exact .apiCall mounted
      | clearError => cases taken; exact .clearError mounted
      | refreshAnswered promise answer => exact refreshAnswered_effect mounted taken
      | refreshSettled promise => exact refreshSettled_effect mounted taken
      | restoreResumed i => exact restoreResumed_effect mounted taken
      | loginAnswered i answer => exact loginAnswered_effect mounted taken
      | logoutAnswered i => exact logoutAnswered_effect mounted taken
      | callAnswered i slot answer => exact callAnswered_effect mounted taken
      | callResumed i slot => exact callResumed_effect mounted taken

end Tab

end WorkflowForge.Web
