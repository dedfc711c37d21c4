import WorkflowForge.Web.Continuations
import WorkflowForge.Web.Effects

/-! The order of actions and generations in every reachable tab. -/

namespace WorkflowForge.Web

open Python

/-- Tasks come from earlier actions, those that open or end a session from the latest such
action at most; the shared promise is of the current generation. -/
structure Tab.Ordered (tab : Tab) : Prop where
  unmounted : tab.mounted = false → tab.actions = 0
  latest_le : tab.latest ≤ tab.actions
  born_lt : ∀ task ∈ tab.tasks, task.born < tab.actions
  ranked : ∀ task ∈ tab.tasks, task.work.kind ≠ .other → task.born ≤ tab.latest
  apart
    : ∀ ending ∈ tab.tasks, ∀ opening ∈ tab.tasks,
        ending.work.kind = .ends → opening.work.kind = .opens → ending.born ≠ opening.born
  shared
    : ∀ promise, tab.refreshPromise = some promise
        → ∃ request,
            tab.promises[promise]? = some request ∧ request.generation = tab.generation
  past : ∀ request ∈ tab.promises, request.generation ≤ tab.generation

theorem Tab.ordered_initial (storage : Storage) : (Tab.initial storage).Ordered where
  unmounted _ := rfl
  latest_le := Nat.le_refl 0
  born_lt _ member := nomatch member
  ranked _ member := nomatch member
  apart _ member := nomatch member
  shared _ shared := nomatch shared
  past _ member := nomatch member

/-- Every task of a continuation keeps its rank. -/
theorem TasksFrom.old {tab next : Tab} (tasks : TasksFrom tab next) {task : Task}
    (member : task ∈ next.tasks)
    : ∃ old ∈ tab.tasks,
        old.born = task.born
        ∧ (task.work.kind ≠ .other → old.work.kind = task.work.kind) := by
  obtain ⟨old, here, born, same | other⟩ := tasks task member
  · exact ⟨old, here, born, fun _ => same.symm⟩
  · exact ⟨old, here, born, fun not => absurd other not⟩

namespace Tab.Ordered

variable {tab next : Tab}

/-- The tasks of the next tab continue those of this one; `generations` is what is known of
its promises. -/
theorem of_tasks (ordered : tab.Ordered) (tasks : TasksFrom tab next)
    (mounted : next.mounted = tab.mounted) (actions : next.actions = tab.actions)
    (latest : next.latest = tab.latest)
    (shared
      : ∀ promise, next.refreshPromise = some promise
          → ∃ request,
              next.promises[promise]? = some request ∧ request.generation = next.generation)
    (past : ∀ request ∈ next.promises, request.generation ≤ next.generation)
    : next.Ordered where
  unmounted unmounted := actions.trans (ordered.unmounted (mounted.symm.trans unmounted))
  latest_le := by rw [latest, actions]; exact ordered.latest_le
  born_lt task member := by
    obtain ⟨old, here, born, -⟩ := tasks.old member
    rw [← born, actions]
    exact ordered.born_lt old here
  ranked task member rank := by
    obtain ⟨old, here, born, kind⟩ := tasks.old member
    rw [← born, latest]
    exact ordered.ranked old here (by rwa [kind rank])
  apart ending there opening here ends opens := by
    obtain ⟨oldEnding, before, bornEnding, kindEnding⟩ := tasks.old there
    obtain ⟨oldOpening, beforeToo, bornOpening, kindOpening⟩ := tasks.old here
    rw [← bornEnding, ← bornOpening]
    exact ordered.apart oldEnding before oldOpening beforeToo
      ((kindEnding (by simp [ends])).trans ends)
      ((kindOpening (by simp [opens])).trans opens)
  shared := shared
  past := past

theorem of_continues {i : Nat} {task : Task} (ordered : tab.Ordered)
    (continued : Continues i task tab next) (found : tab.tasks[i]? = some task)
    : next.Ordered := by
  refine ordered.of_tasks (continued.tasksFrom found) continued.mounted continued.actions
    continued.latest ?_ ?_
  · rw [continued.refreshPromise, continued.promises, continued.generation]
    exact ordered.shared
  · rw [continued.promises, continued.generation]
    exact ordered.past

/-- A continuation that starts a new generation and drops the shared promise. -/
theorem of_next_generation (ordered : tab.Ordered) (tasks : TasksFrom tab next)
    (mounted : next.mounted = tab.mounted) (actions : next.actions = tab.actions)
    (latest : next.latest = tab.latest) (dropped : next.refreshPromise = none)
    (promises : next.promises = tab.promises) (generation : next.generation = tab.generation + 1)
    : next.Ordered := by
  refine ordered.of_tasks tasks mounted actions latest ?_ ?_
  · rw [dropped]
    exact fun _ shared => nomatch shared
  · rw [promises, generation]
    exact fun request member => Nat.le_succ_of_le (ordered.past request member)

theorem refresh (ordered : tab.Ordered) (born : Nat) : (tab.refresh born).1.Ordered := by
  unfold Tab.refresh
  cases current : tab.refreshPromise with
  | some promise => exact ordered
  | none =>
      refine ordered.of_tasks (.refl tab) rfl rfl rfl ?_ ?_
      · intro promise shared
        cases shared
        exact ⟨_, List.getElem?_concat_length, rfl⟩
      · intro request member
        rcases List.mem_append.mp member with old | new
        · exact ordered.past request old
        · obtain rfl := List.mem_singleton.mp new
          exact Nat.le_refl _

theorem setPromise (ordered : tab.Ordered) {promise : Nat} {request : RefreshPromise}
    (found : tab.promises[promise]? = some request) (status : PromiseStatus)
    : (tab.setPromise promise request status).Ordered := by
  refine ordered.of_tasks (.refl tab) rfl rfl rfl ?_ ?_
  · intro other shared
    obtain ⟨known, at_, generation⟩ := ordered.shared other shared
    dsimp only [Tab.setPromise]
    rw [List.getElem?_set]
    split
    next same =>
      subst same
      rw [found] at at_
      cases at_
      rw [if_pos (List.getElem?_eq_some_iff.mp found).1]
      exact ⟨_, rfl, generation⟩
    · exact ⟨known, at_, generation⟩
  · intro other member
    rcases List.mem_or_eq_of_mem_set member with old | rfl
    · exact ordered.past other old
    · exact ordered.past request (List.mem_of_getElem? found)

/-- A new action starts tasks that are all after a session, or none of them is; in the first
case it is the latest one, or the first one. -/
theorem of_action (ordered : tab.Ordered) {started : List Task}
    (tasks : next.tasks = tab.tasks ++ started)
    (actions : next.actions = tab.actions + 1)
    (born : ∀ task ∈ started, task.born = tab.actions)
    (kinds
      : (∀ task ∈ started, task.work.kind = .other) ∧ next.latest = tab.latest
        ∨ (∀ task ∈ started, ∀ other ∈ started, task.work.kind = other.work.kind)
          ∧ next.latest = tab.actions)
    (mounted : next.mounted = true)
    (shared
      : ∀ promise, next.refreshPromise = some promise
          → ∃ request,
              next.promises[promise]? = some request ∧ request.generation = next.generation)
    (past : ∀ request ∈ next.promises, request.generation ≤ next.generation)
    : next.Ordered where
  unmounted unmounted := by rw [mounted] at unmounted; cases unmounted
  latest_le := by
    have before := ordered.latest_le
    rcases kinds with ⟨-, latest⟩ | ⟨-, latest⟩ <;> omega
  born_lt task member := by
    rw [tasks, List.mem_append] at member
    rcases member with old | new
    · have := ordered.born_lt task old
      omega
    · have := born task new
      omega
  ranked task member rank := by
    rw [tasks, List.mem_append] at member
    rcases member with old | new
    · have kept := ordered.ranked task old rank
      have before := ordered.born_lt task old
      rcases kinds with ⟨-, latest⟩ | ⟨-, latest⟩ <;> omega
    · rcases kinds with ⟨other, -⟩ | ⟨-, latest⟩
      · exact absurd (other task new) rank
      · rw [latest, born task new]
  apart ending there opening here ends opens := by
    rw [tasks, List.mem_append] at there here
    rcases there with oldEnding | newEnding <;> rcases here with oldOpening | newOpening
    · exact ordered.apart ending oldEnding opening oldOpening ends opens
    · have := ordered.born_lt ending oldEnding
      have := born opening newOpening
      omega
    · have := ordered.born_lt opening oldOpening
      have := born ending newEnding
      omega
    · rcases kinds with ⟨other, -⟩ | ⟨same, -⟩
      · rw [other ending newEnding] at ends
        cases ends
      · rw [same ending newEnding opening newOpening, opens] at ends
        cases ends
  shared := shared
  past := past

end Tab.Ordered

theorem Tab.restores_opens (tab : Tab) (strictMode : Bool)
    : ∀ task ∈ tab.restores strictMode,
        task.born = tab.actions ∧ task.work.kind = .opens := by
  intro task member
  cases strictMode with
  | false =>
      obtain rfl := List.mem_singleton.mp member
      exact ⟨rfl, rfl⟩
  | true =>
      rcases List.mem_cons.mp member with rfl | member
      · exact ⟨rfl, rfl⟩
      · obtain rfl := List.mem_singleton.mp member
        exact ⟨rfl, rfl⟩

theorem Tab.step_ordered {tab next : Tab} {event : Event} (ordered : tab.Ordered)
    (taken : tab.step event = some next)
    : next.Ordered := by
  cases step_effect taken with
  | mountAnonymous strictMode first =>
      exact ordered.of_action (List.append_nil _).symm rfl (by simp) (.inl ⟨by simp, rfl⟩) rfl
        ordered.shared ordered.past
  | mountRestores strictMode first =>
      have none : tab.actions = 0 := ordered.unmounted first
      have latest : tab.latest = tab.actions := by
        have := ordered.latest_le
        omega
      have refreshed : ({ tab with mounted := true }.refresh tab.actions).1.Ordered := by
        refine Ordered.refresh ?_ tab.actions
        exact {
          unmounted := fun _ => none
          latest_le := ordered.latest_le
          born_lt := ordered.born_lt
          ranked := ordered.ranked
          apart := ordered.apart
          shared := ordered.shared
          past := ordered.past }
      have opens := tab.restores_opens strictMode
      refine ordered.of_action rfl rfl (fun task member => (opens task member).1)
        (.inr ⟨fun task member other memberToo => ?_, ?_⟩) ?_ refreshed.shared refreshed.past
      · rw [(opens task member).2, (opens other memberToo).2]
      · show ({ tab with mounted := true }.refresh tab.actions).1.latest = tab.actions
        rw [refresh_eq]
        exact latest
      · show ({ tab with mounted := true }.refresh tab.actions).1.mounted = true
        rw [refresh_eq]
  | login mounted =>
      exact ordered.of_action rfl rfl (by simp [asLatest]) (.inr ⟨by simp, rfl⟩) mounted
        ordered.shared ordered.past
  | logout mounted =>
      exact ordered.of_action rfl rfl (by simp [asLatest]) (.inr ⟨by simp, rfl⟩) mounted
        ordered.shared ordered.past
  | logoutAll mounted =>
      exact ordered.of_action rfl rfl (by simp [asLatest]) (.inr ⟨by simp, rfl⟩) mounted
        ordered.shared ordered.past
  | refresh mounted =>
      have refreshed := Ordered.refresh ordered tab.actions
      have same := refresh_eq tab tab.actions
      have tasks : (tab.refresh tab.actions).1.tasks = tab.tasks ++ [] := by simp
      refine ordered.of_action tasks rfl (by simp) (.inl ⟨by simp, ?_⟩) ?_ refreshed.shared
        refreshed.past
      · show (tab.refresh tab.actions).1.latest = tab.latest
        rw [same]
      · show (tab.refresh tab.actions).1.mounted = true
        rw [same]
        exact mounted
  | selectOrganization organizationId mounted =>
      exact ordered.of_action rfl rfl (by simp [asLatest]) (.inr ⟨by simp, rfl⟩) mounted
        (fun _ shared => nomatch shared)
        (fun request member => Nat.le_succ_of_le (ordered.past request member))
  | apiCall mounted =>
      exact ordered.of_action rfl rfl (by simp) (.inl ⟨by simp [Work.kind], rfl⟩) mounted
        ordered.shared ordered.past
  | clearError mounted =>
      exact ordered.of_action (List.append_nil _).symm rfl (by simp) (.inl ⟨by simp, rfl⟩)
        mounted ordered.shared ordered.past
  | @refreshAnswered promise request answer mounted found inFlight =>
      have handled := tab.refreshHandler_same request.generation answer
      have kept : (tab.refreshHandler request.generation answer).1.Ordered := by
        refine ordered.of_tasks handled.tasksFrom handled.mounted handled.actions handled.latest
          ?_ ?_
        · rw [handled.refreshPromise, handled.promises, handled.generation]
          exact ordered.shared
        · rw [handled.promises, handled.generation]
          exact ordered.past
      exact kept.setPromise (by rw [handled.promises]; exact found) _
  | @refreshSettled promise request token mounted found handled =>
      have kept := ordered.setPromise found (.settled token)
      refine kept.of_tasks (.refl _) rfl rfl rfl ?_ kept.past
      intro other shared
      refine kept.shared other ?_
      simp only [settle] at shared
      split at shared
      · cases shared
      · exact shared
  | restoreInactive mounted found => exact ordered.of_continues finish_continues found
  | restoreRefused mounted found =>
      exact (ordered.of_continues finish_continues found).of_tasks (.refl _) rfl rfl rfl
        ordered.shared ordered.past
  | restoreUndated mounted found => exact ordered.of_continues loadFailed_continues found
  | restoreLoads mounted found work =>
      exact ordered.of_continues (loadSession_continues (by rw [work]; rfl)) found
  | loginAccepted token mounted found work =>
      refine ordered.of_next_generation ?_ rfl rfl rfl rfl rfl rfl
      intro other member
      exact (become_continues (.inl (by rw [work]; rfl))).tasksFrom found other member
  | loginRefused failure mounted found =>
      exact ordered.of_continues loadFailed_continues found
  | loggedOut mounted found =>
      exact ordered.of_next_generation (finish_continues.tasksFrom found)
        rfl rfl rfl rfl rfl rfl
  | callAnswered answer mounted found waits answered =>
      rw [← answerCall_tasks answered] at found
      rcases answerCall_tab answered with rfl | rfl
      · exact ordered.of_continues resume_continues found
      · exact (ordered.refresh _).of_continues resume_continues found
  | callResumed mounted found => exact ordered.of_continues resume_continues found

end WorkflowForge.Web
