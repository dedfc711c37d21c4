import WorkflowForge.Web.Generations
import WorkflowForge.Web.TenantSelection

/-! Responses that arrive after a newer login, logout or selection.
The handlers of `refresh` and the continuations of `loadSession` compare generations.
`restoreSession`, `login`, `selectOrganization` and `logout` go on without a comparison after
their own `await`, and so do the handlers that catch the errors of `loadSession`.
-/

namespace WorkflowForge.Web

open Python

/-- The action that the resumed call belongs to. -/
def Tab.origin (tab : Tab) : Event → Option Nat
  | .refreshAnswered promise _ => (tab.promises[promise]?).map (·.born)
  | .refreshSettled promise => (tab.promises[promise]?).map (·.born)
  | .restoreResumed i => (tab.tasks[i]?).map (·.born)
  | .loginAnswered i _ => (tab.tasks[i]?).map (·.born)
  | .logoutAnswered i => (tab.tasks[i]?).map (·.born)
  | .callAnswered i _ _ => (tab.tasks[i]?).map (·.born)
  | .callResumed i _ => (tab.tasks[i]?).map (·.born)
  | _ => none

/-- The event resumes an action older than the latest login, logout or selection. -/
def Tab.Late (tab : Tab) (event : Event) : Prop :=
  ∃ born, tab.origin event = some born ∧ born < tab.latest

/-- A 401 that the client answers with a refresh. -/
def Call.retries {α : Type} : Call α → ApiError → Bool
  | .sent, error => error.status == some 401
  | _, _ => false

/-- What follows `Promise.all` changes the session: there is no organization to select, or the
stored one is invalid and is removed. Otherwise the tenant context is requested first. -/
def Storage.settles (storage : Storage) (organizations : List UserOrganization) : Bool :=
  organizations.isEmpty || storage.get.2 != storage

/-- The answer is the last one that `loadSession` waits for before it changes the session. -/
def LoadStage.completes (storage : Storage) : LoadStage → (slot : Slot) → slot.Data → Bool
  | .fetching _ (.resolved organizations), .user, _ => storage.settles organizations
  | .fetching (.resolved _) _, .organizations, organizations => storage.settles organizations
  | .verifying _ _ _ _, .context, _ => true
  | _, _, _ => false

theorem LoadStage.completes_organizations {storage : Storage} {user : MeResponse}
    {pending : Call (List UserOrganization)} {organizations : List UserOrganization}
    : LoadStage.completes storage (.fetching (.resolved user) pending) .organizations organizations
      = storage.settles organizations := by
  cases pending <;> rfl

/-- The answer ends the wait of a continuation that does not find a newer generation. -/
def Work.uncheckedAnswer (work : Work) (tab : Tab) (slot : Slot)
    (answer : Except ApiError slot.Data)
    : Bool :=
  match work.call slot, answer with
  | some call, .error error => work.kind == .opens && !call.retries error
  | some _, .ok data =>
      match work with
      | .loading _ load =>
          load.generation == tab.generation && load.stage.completes tab.storage slot data
      | .selecting _ _ => true
      | _ => false
  | none, _ => false

/-- The refresh that the request waits for has given no token. -/
def Tab.refusesCall (tab : Tab) {α : Type} : Call α → Bool
  | .refreshing promise _ => tab.settledToken promise == some none
  | _ => false

/-- The event reaches a continuation that goes on without a comparison of generations, or
whose comparison finds none that is newer. -/
def Tab.unchecked (tab : Tab) : Event → Bool
  | .refreshAnswered promise _ =>
      (tab.promises[promise]?).any (fun request => request.generation == tab.generation)
  | .restoreResumed i =>
      (tab.tasks[i]?).any (fun task =>
        match task.work with
        | .restoring active _ => active
        | _ => false)
  | .loginAnswered _ _ => true
  | .logoutAnswered _ => true
  | .callAnswered i slot answer =>
      (tab.tasks[i]?).any (fun task => task.work.uncheckedAnswer tab slot answer)
  | .callResumed i slot =>
      (tab.tasks[i]?).any (fun task =>
        task.work.kind == .opens && (task.work.call slot).any tab.refusesCall)
  | _ => false

/-- What a late response must leave alone. -/
structure Kept (tab next : Tab) : Prop where
  state : next.state = tab.state
  accessToken : next.accessToken = tab.accessToken
  storage : next.storage = tab.storage

theorem Kept.refl (tab : Tab) : Kept tab tab := ⟨rfl, rfl, rfl⟩

theorem Kept.trans {tab middle next : Tab} (first : Kept tab middle) (second : Kept middle next)
    : Kept tab next :=
  ⟨second.state.trans first.state, second.accessToken.trans first.accessToken,
    second.storage.trans first.storage⟩

namespace Tab

variable {tab : Tab} {i : Nat} {task : Task}

theorem refresh_kept (born : Nat) : Kept tab (tab.refresh born).1 := by
  rw [refresh_eq]
  exact ⟨rfl, rfl, rfl⟩

theorem answerCall_kept {α : Type} {born : Nat} {call : Call α} {answer : Except ApiError α}
    {next : Tab} {outcome : Outcome α}
    (answered : tab.answerCall born call answer = some (next, outcome))
    : Kept tab next := by
  rcases answerCall_tab answered with rfl | rfl
  · exact .refl _
  · exact refresh_kept born

theorem answerCall_generation {α : Type} {born : Nat} {call : Call α}
    {answer : Except ApiError α} {next : Tab} {outcome : Outcome α}
    (answered : tab.answerCall born call answer = some (next, outcome))
    : next.generation = tab.generation := by
  rcases answerCall_tab answered with rfl | rfl
  · rfl
  · rw [refresh_eq]

/-- A request that is not answered in vain ends as its answer says. -/
theorem answerCall_outcome {α : Type} {born : Nat} {call : Call α} {answer : Except ApiError α}
    {next : Tab} {outcome : Outcome α}
    (answered : tab.answerCall born call answer = some (next, outcome))
    : (∃ pending, outcome = .waits pending)
      ∨ (∃ data, outcome = .resolves data ∧ answer = .ok data)
      ∨ ∃ error,
          outcome = .rejects error ∧ answer = .error error ∧ call.retries error = false := by
  unfold answerCall at answered
  split at answered
  · cases answered
    exact .inr (.inl ⟨_, rfl, rfl⟩)
  · split at answered
    · cases answered
      exact .inl ⟨_, rfl⟩
    next other =>
      cases answered
      exact .inr (.inr ⟨_, rfl, rfl, by simpa [Call.retries] using other⟩)
  · cases answered
    exact .inr (.inl ⟨_, rfl, rfl⟩)
  · cases answered
    exact .inr (.inr ⟨_, rfl, rfl, rfl⟩)
  · cases answered

/-- What keeps a resumed continuation from changing the session: it waits on, or it compares
generations and finds a newer one. -/
def Harmless (generation : Nat) (storage : Storage) (work : Work) (slot : Slot)
    : Outcome slot.Data → Prop
  | .waits _ => True
  | .rejects _ => work.kind ≠ .opens
  | .resolves data =>
      match work with
      | .loading _ load =>
          load.generation ≠ generation ∨ load.stage.completes storage slot data = false
      | .selecting _ _ => False
      | _ => True

theorem fetched_kept {caller : Caller} {load : Load} {user : MeResponse}
    {organizations : List UserOrganization}
    (idle : load.generation ≠ tab.generation ∨ tab.storage.settles organizations = false)
    : Kept tab (tab.fetched i task caller load user organizations) := by
  unfold fetched
  split
  · exact ⟨rfl, rfl, rfl⟩
  · rename_i current
    have waits := idle.resolve_left current
    simp only [Storage.settles, Bool.or_eq_false_iff, List.isEmpty_eq_false_iff,
      bne_eq_false_iff_eq] at waits
    obtain ⟨first, rest, rfl⟩ := List.exists_cons_of_ne_nil waits.1
    dsimp only
    split
    · rename_i chosen
      simp at chosen
    · exact ⟨rfl, rfl, waits.2⟩

theorem commitSession_kept {load : Load} {user : MeResponse}
    {organizations : List UserOrganization} {selected : Option UserOrganization}
    {context : Option TenantContext} (newer : load.generation ≠ tab.generation)
    : Kept tab (tab.commitSession i task load user organizations selected context) := by
  unfold commitSession
  rw [if_pos newer]
  exact ⟨rfl, rfl, rfl⟩

theorem resumeLoad_kept {caller : Caller} {load : Load} {slot : Slot}
    {outcome : Outcome slot.Data}
    (harmless : Harmless tab.generation tab.storage (.loading caller load) slot outcome)
    : Kept tab (tab.resumeLoad i task caller load load.stage slot outcome) := by
  obtain ⟨generation, accessToken, expiresAt, stage⟩ := load
  cases outcome with
  | waits call => cases stage <;> cases slot <;> exact ⟨rfl, rfl, rfl⟩
  | rejects error => exact absurd rfl harmless
  | resolves data =>
      cases stage with
      | fetching user organizations =>
          cases slot
          case user =>
            cases organizations
            case resolved => exact fetched_kept harmless
            all_goals exact ⟨rfl, rfl, rfl⟩
          case organizations =>
            cases user
            case resolved =>
              exact fetched_kept (harmless.imp_right LoadStage.completes_organizations.symm.trans)
            all_goals exact ⟨rfl, rfl, rfl⟩
          all_goals exact .refl tab
      | verifying user organizations selected context =>
          cases slot
          case context => exact commitSession_kept (harmless.resolve_right Bool.noConfusion)
          all_goals exact .refl tab

theorem resume_kept {slot : Slot} {outcome : Outcome slot.Data}
    (harmless : Harmless tab.generation tab.storage task.work slot outcome)
    : Kept tab (tab.resume i task slot outcome) := by
  unfold resume
  cases work : task.work with
  | loading caller load =>
      rw [work] at harmless
      exact resumeLoad_kept harmless
  | selecting organizationId call =>
      rw [work] at harmless
      cases slot <;> cases outcome
      case context.waits => exact ⟨rfl, rfl, rfl⟩
      case context.resolves => exact harmless.elim
      case context.rejects => exact absurd rfl harmless
      all_goals exact .refl tab
  | calling call => cases slot <;> cases outcome <;> exact ⟨rfl, rfl, rfl⟩
  | restoring active promise => exact .refl tab
  | loggingIn => exact .refl tab
  | loggingOut => exact .refl tab
  | loggingOutAll => exact .refl tab
  | finished => exact .refl tab

theorem resumeCall_outcome {α : Type} {call : Call α} {outcome : Outcome α}
    (resumed : tab.resumeCall call = some outcome)
    : (∃ pending, outcome = .waits pending)
      ∨ ∃ error, outcome = .rejects error ∧ tab.refusesCall call = true := by
  unfold resumeCall at resumed
  split at resumed
  next promise unauthorized =>
    split at resumed
    · cases resumed
      exact .inl ⟨_, rfl⟩
    next settled =>
      cases resumed
      exact .inr ⟨_, rfl, by simp [refusesCall, settled]⟩
    · cases resumed
  · cases resumed

theorem refreshHandler_newer {generation : Nat} {answer : Except Failure TokenResponse}
    (newer : generation ≠ tab.generation)
    : tab.refreshHandler generation answer = (tab, none) := by
  unfold refreshHandler
  rw [if_pos newer]

/-- What resumes a call starts no action, and its tasks continue earlier ones. -/
theorem step_resumes {event : Event} {next : Tab} (born : Nat)
    (origin : tab.origin event = some born) (taken : tab.step event = some next)
    : Resumes tab next := by
  cases step_effect taken with
  | @refreshAnswered promise request answer =>
      have handled := tab.refreshHandler_same request.generation answer
      exact ⟨handled.mounted, handled.actions, handled.latest, handled.tasksFrom⟩
  | refreshSettled => exact ⟨rfl, rfl, rfl, .refl tab⟩
  | restoreInactive mounted found => exact finish_continues.resumes found
  | restoreRefused mounted found =>
      exact ⟨rfl, rfl, rfl, finish_continues.tasksFrom found⟩
  | restoreUndated mounted found => exact loadFailed_continues.resumes found
  | restoreLoads mounted found work =>
      exact (loadSession_continues (by rw [work]; rfl)).resumes found
  | loginAccepted token mounted found work =>
      refine ⟨rfl, rfl, rfl, fun other member => ?_⟩
      exact (become_continues (.inl (by rw [work]; rfl))).tasksFrom found other member
  | loginRefused failure mounted found => exact loadFailed_continues.resumes found
  | loggedOut mounted found => exact ⟨rfl, rfl, rfl, finish_continues.tasksFrom found⟩
  | callAnswered answer mounted found waits answered =>
      rw [← answerCall_tasks answered] at found
      rcases answerCall_tab answered with rfl | rfl
      · exact resume_continues.resumes found
      · exact (refresh_resumes tab _).trans (resume_continues.resumes found)
  | callResumed mounted found => exact resume_continues.resumes found
  | _ => cases origin

/-- A late response leaves the session alone where generations are compared. -/
theorem late_kept {event : Event} {next : Tab} (late : tab.Late event)
    (checked : tab.unchecked event = false) (taken : tab.step event = some next)
    : Kept tab next := by
  cases step_effect taken with
  | @refreshAnswered promise request answer mounted found inFlight =>
      have newer : request.generation ≠ tab.generation := by
        simpa [unchecked, found] using checked
      rw [refreshHandler_newer newer]
      exact ⟨rfl, rfl, rfl⟩
  | refreshSettled => exact ⟨rfl, rfl, rfl⟩
  | restoreInactive => exact ⟨rfl, rfl, rfl⟩
  | restoreRefused mounted found work => simp [unchecked, found, work] at checked
  | restoreUndated mounted found work => simp [unchecked, found, work] at checked
  | restoreLoads mounted found work => simp [unchecked, found, work] at checked
  | loginAccepted => cases checked
  | loginRefused => cases checked
  | loggedOut => cases checked
  | @callAnswered i slot task call answer middle outcome mounted found waits answered =>
      refine (answerCall_kept answered).trans (resume_kept ?_)
      rw [answerCall_generation answered, (answerCall_kept answered).storage]
      have safe : task.work.uncheckedAnswer tab slot answer = false := by
        simpa [unchecked, found] using checked
      rcases answerCall_outcome answered
        with ⟨pending, rfl⟩ | ⟨data, rfl, rfl⟩ | ⟨error, rfl, rfl, final⟩
      · trivial
      · simp only [Work.uncheckedAnswer, waits] at safe
        unfold Harmless
        split at safe
        · simpa only [Bool.and_eq_false_iff, beq_eq_false_iff_ne] using safe
        · cases safe
        · trivial
      · simp only [Work.uncheckedAnswer, waits, final, Bool.not_false, Bool.and_true,
          beq_eq_false_iff_ne] at safe
        exact safe
  | @callResumed i slot task call outcome mounted found waits resumed =>
      refine resume_kept ?_
      rcases resumeCall_outcome resumed with ⟨pending, rfl⟩ | ⟨error, rfl, refused⟩
      · trivial
      · have safe : task.work.kind ≠ .opens := by
          simpa [unchecked, found, waits, refused] using checked
        exact safe
  | _ =>
      obtain ⟨born, origin, -⟩ := late
      cases origin

end Tab

end WorkflowForge.Web
