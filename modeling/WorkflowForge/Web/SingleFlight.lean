import WorkflowForge.Web.Continuations
import WorkflowForge.Web.Effects
import WorkflowForge.Web.TenantSelection

/-! How many refresh requests of a tab are in flight.
`refresh` joins the shared promise. A login, a selection and the end of a logout drop that
promise, also while its request has no answer yet.
-/

namespace WorkflowForge.Web

open Python

/-- The refresh request waits for its response. -/
def Tab.InFlight (tab : Tab) (promise : Nat) : Prop :=
  ∃ request, tab.promises[promise]? = some request ∧ request.status = .inFlight

def Tab.SingleFlight (tab : Tab) : Prop :=
  ∀ first second, tab.InFlight first → tab.InFlight second → first = second

/-- The events that drop the shared promise. -/
def Event.drops : Event → Bool
  | .selectOrganization _ => true
  | .loginAnswered _ (.ok _) => true
  | .logoutAnswered _ => true
  | _ => false

/-- The shared promise is only dropped when no refresh request is in flight. -/
def KeepsFlight (tab : Tab) (event : Event) : Prop :=
  event.drops = true → ∀ promise, ¬ tab.InFlight promise

/-- The request in flight is the shared one. -/
def Tab.FlightShared (tab : Tab) : Prop :=
  ∀ promise, tab.InFlight promise → tab.refreshPromise = some promise

theorem Tab.FlightShared.single {tab : Tab} (shared : tab.FlightShared) : tab.SingleFlight := by
  intro first second inFirst inSecond
  exact Option.some.inj ((shared first inFirst).symm.trans (shared second inSecond))

theorem Tab.FlightShared.of_same {tab next : Tab} (shared : tab.FlightShared)
    (promises : next.promises = tab.promises)
    (refreshPromise : next.refreshPromise = tab.refreshPromise)
    : next.FlightShared := by
  intro promise inFlight
  rw [refreshPromise]
  refine shared promise ?_
  unfold InFlight at inFlight
  rwa [promises] at inFlight

theorem Continues.flightShared {i : Nat} {task : Task} {tab next : Tab}
    (continued : Continues i task tab next) (shared : tab.FlightShared)
    : next.FlightShared :=
  shared.of_same continued.promises continued.refreshPromise

namespace Tab

variable {tab : Tab}

theorem refresh_flightShared (shared : tab.FlightShared) (born : Nat)
    : (tab.refresh born).1.FlightShared := by
  unfold refresh
  cases current : tab.refreshPromise with
  | some promise => exact shared
  | none =>
      rintro promise ⟨request, found, waiting⟩
      by_cases old : promise < tab.promises.length
      · rw [List.getElem?_append_left old] at found
        exact nomatch current.symm.trans (shared promise ⟨request, found, waiting⟩)
      · have last : promise < (tab.promises ++ [_]).length :=
          (List.getElem?_eq_some_iff.mp found).1
        simp only [List.length_append, List.length_singleton] at last
        exact congrArg some (by omega)

theorem setPromise_flightShared {promise : Nat} {request : RefreshPromise}
    {status : PromiseStatus} (shared : tab.FlightShared)
    (answered : status ≠ .inFlight)
    : (tab.setPromise promise request status).FlightShared := by
  rintro other ⟨found, at_, waiting⟩
  refine shared other ⟨found, ?_, waiting⟩
  dsimp only [setPromise] at at_
  rw [List.getElem?_set] at at_
  split at at_
  · split at at_
    · cases at_
      exact absurd waiting answered
    · cases at_
  · exact at_

theorem settle_flightShared {promise : Nat} {request : RefreshPromise} {token : Option Text}
    (shared : tab.FlightShared) (found : tab.promises[promise]? = some request)
    : (tab.settle promise request token).FlightShared := by
  have kept : (tab.setPromise promise request (.settled token)).FlightShared :=
    setPromise_flightShared shared (by simp)
  intro other inFlight
  have sharedOther : tab.refreshPromise = some other := kept other inFlight
  -- the settled promise is not the one in flight
  have apart : other ≠ promise := by
    rintro rfl
    obtain ⟨waiting, at_, inFlight⟩ := inFlight
    have bounded := (List.getElem?_eq_some_iff.mp found).1
    dsimp only [settle, setPromise] at at_
    rw [List.getElem?_set_self bounded] at at_
    cases at_
    cases inFlight
  show (if tab.refreshPromise = some promise then none else tab.refreshPromise) = some other
  rw [sharedOther, if_neg (by simpa using apart)]

theorem answerCall_flightShared {α : Type} {born : Nat} {call : Call α}
    {answer : Except ApiError α} {next : Tab} {outcome : Outcome α}
    (answered : tab.answerCall born call answer = some (next, outcome))
    (shared : tab.FlightShared)
    : next.FlightShared := by
  rcases answerCall_tab answered with rfl | rfl
  · exact shared
  · exact refresh_flightShared shared born

theorem step_flightShared {event : Event} {next : Tab} (shared : tab.FlightShared)
    (keeps : KeepsFlight tab event) (taken : tab.step event = some next)
    : next.FlightShared := by
  have idle (dropped : event.drops = true) {other : Tab} (promises : other.promises = tab.promises)
      : other.FlightShared := by
    intro promise inFlight
    unfold InFlight at inFlight
    rw [promises] at inFlight
    exact absurd inFlight (keeps dropped promise)
  cases step_effect taken with
  | mountAnonymous => exact shared.of_same rfl rfl
  | mountRestores =>
      have mounted : { tab with mounted := true }.FlightShared := shared.of_same rfl rfl
      exact (refresh_flightShared mounted tab.actions).of_same rfl rfl
  | login => exact shared.of_same rfl rfl
  | logout => exact shared.of_same rfl rfl
  | logoutAll => exact shared.of_same rfl rfl
  | refresh => exact (refresh_flightShared shared tab.actions).of_same rfl rfl
  | selectOrganization organizationId => exact idle rfl rfl
  | apiCall => exact shared.of_same rfl rfl
  | clearError => exact shared.of_same rfl rfl
  | @refreshAnswered promise request answer _ found inFlight =>
      have handled := tab.refreshHandler_same request.generation answer
      exact setPromise_flightShared (shared.of_same handled.promises handled.refreshPromise)
        (by simp)
  | refreshSettled _ found => exact settle_flightShared shared found
  | restoreInactive => exact shared.of_same rfl rfl
  | restoreRefused => exact shared.of_same rfl rfl
  | restoreUndated _ found => exact loadFailed_continues.flightShared shared
  | restoreLoads => exact shared.of_same rfl rfl
  | loginAccepted token => exact idle rfl rfl
  | loginRefused _ _ found => exact loadFailed_continues.flightShared shared
  | loggedOut => exact idle rfl rfl
  | callAnswered answer mounted found waits answered =>
      rw [← answerCall_tasks answered] at found
      exact resume_continues.flightShared (answerCall_flightShared answered shared)
  | callResumed _ found => exact resume_continues.flightShared shared

/-- A request that outlives the shared promise admits a second one. -/
theorem second_refresh {promise : Nat} (inFlight : tab.InFlight promise)
    (dropped : tab.refreshPromise = none)
    : ¬ (tab.refresh tab.actions).1.SingleFlight := by
  obtain ⟨request, found, waiting⟩ := inFlight
  have bounded := (List.getElem?_eq_some_iff.mp found).1
  intro single
  have same := single promise tab.promises.length
    ⟨request, by simpa [refresh, dropped, List.getElem?_append_left bounded] using found, waiting⟩
    ⟨{ generation := tab.generation, born := tab.actions, status := .inFlight },
      by simp [refresh, dropped], rfl⟩
  omega

end Tab

/-- While the shared promise is only dropped when no refresh request is in flight, there is
at most one such request. -/
theorem refresh_single_flight (storage : Storage) {tab : Tab}
    (run : TabRun KeepsFlight (.initial storage) tab)
    : tab.SingleFlight := by
  have shared : tab.FlightShared :=
    run.invariant
      (fun state event next shared keeps taken => Tab.step_flightShared shared keeps taken)
      (by rintro promise ⟨request, found, -⟩; cases found)
  exact shared.single

namespace Sample

def unauthorized : ApiError where
  status := some 401
  code := "unauthorized"

/-- A page request and the selection of the other organization are answered 401. -/
def selectedWhileRefreshing : List Event :=
  restored ++ [.apiCall, .callAnswered 1 .page (.error unauthorized),
    .selectOrganization (organizationId 'b'), .callAnswered 2 .context (.error unauthorized)]

/-- The page request is answered 401, and the refresh gives a new token. -/
def refreshed : List Event :=
  restored ++ [.apiCall, .callAnswered 1 .page (.error unauthorized),
    .refreshAnswered 1 (.ok token), .refreshSettled 1, .callResumed 1 .page]

/-- Sign out and in again, between two refreshes. -/
def signedInAgain : List Event :=
  refreshed ++ [.logout, .logoutAnswered 2, .login, .loginAnswered 3 (.ok token), .refresh]

def keepsFlight (tab : Tab) (event : Event) : Bool :=
  !event.drops || tab.promises.all (fun request => request.status != .inFlight)

theorem keepsFlight_sound (tab : Tab) (event : Event) (checked : keepsFlight tab event = true)
    : KeepsFlight tab event := by
  rintro dropped promise ⟨request, found, inFlight⟩
  have idle := by simpa [keepsFlight, dropped] using checked
  exact idle request (List.mem_of_getElem? found) inFlight

end Sample

/-- A sign-out and a login between two refreshes leave one request in flight. -/
theorem signed_in_again_single
    : ∃ tab : Tab,
        TabRun KeepsFlight (.initial Sample.storage) tab
        ∧ tab.promises.map (·.status)
          = [.settled (some ['t']), .settled (some ['t']), .inFlight]
        ∧ tab.SingleFlight := by
  have checked
      : (Concurrency.follow Tab.step Sample.keepsFlight Sample.signedInAgain
            (.initial Sample.storage)).any
          (fun tab =>
            (tab.promises.map (·.status))
              == [.settled (some ['t']), .settled (some ['t']), .inFlight]) = true := by
    decide +kernel
  obtain ⟨tab, run, found⟩ :=
    Concurrency.exists_run_of_check Sample.keepsFlight_sound checked
  exact ⟨tab, run, beq_iff_eq.mp found, refresh_single_flight Sample.storage run⟩

/-- A selection during a refresh lets a second refresh request start. -/
theorem selection_doubles_refresh
    : ¬ ∀ (storage : Storage) (tab : Tab),
        TabRun (fun _ _ => True) (.initial storage) tab → tab.SingleFlight := by
  intro single
  have checked
      : (Concurrency.follow Tab.step (fun _ _ => true) Sample.selectedWhileRefreshing
            (.initial Sample.storage)).any
          (fun tab =>
            (tab.promises.map (·.status)) == [.settled (some ['t']), .inFlight, .inFlight])
          = true := by
    decide +kernel
  obtain ⟨tab, run, found⟩ := Concurrency.exists_run_of_check (fun _ _ _ => trivial) checked
  have statuses := beq_iff_eq.mp found
  have inFlight (promise : Nat) (at_ : (tab.promises.map (·.status))[promise]? = some .inFlight)
      : tab.InFlight promise := by
    rw [List.getElem?_map, Option.map_eq_some_iff] at at_
    exact at_
  have same := single Sample.storage tab run 1 2 (inFlight 1 (by rw [statuses]; rfl))
    (inFlight 2 (by rw [statuses]; rfl))
  cases same

end WorkflowForge.Web
