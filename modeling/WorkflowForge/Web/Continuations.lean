import WorkflowForge.Web.AuthProvider

/-! What the continuations of the provider leave alone.
Only `refresh`, `login`, `selectOrganization` and `clearSession` touch the generation and the
shared promise.
-/

namespace WorkflowForge.Web

open Python

/-- What a task is after: a session, the end of one, or neither. -/
inductive Kind where
  | opens
  | ends
  | other
  deriving DecidableEq

def Work.kind : Work → Kind
  | .restoring _ _ => .opens
  | .loggingIn => .opens
  | .loading _ _ => .opens
  | .selecting _ _ => .opens
  | .loggingOut => .ends
  | .loggingOutAll => .ends
  | .calling _ => .other
  | .finished => .other

/-- Every task of the later tab continues one of the earlier tab. -/
def TasksFrom (tab next : Tab) : Prop :=
  ∀ task ∈ next.tasks, ∃ old ∈ tab.tasks,
    old.born = task.born ∧ (task.work.kind = old.work.kind ∨ task.work.kind = .other)

/-- A continuation of the task at `i`. -/
structure Continues (i : Nat) (task : Task) (tab next : Tab) : Prop where
  mounted : next.mounted = tab.mounted
  generation : next.generation = tab.generation
  refreshPromise : next.refreshPromise = tab.refreshPromise
  promises : next.promises = tab.promises
  actions : next.actions = tab.actions
  latest : next.latest = tab.latest
  tasks
    : ∀ other ∈ next.tasks,
        other ∈ tab.tasks
        ∨ (other.born = task.born
            ∧ (other.work.kind = task.work.kind ∨ other.work.kind = .other))
  others : ∀ j ≠ i, ∀ other, tab.tasks[j]? = some other → next.tasks[j]? = some other

theorem TasksFrom.refl (tab : Tab) : TasksFrom tab tab :=
  fun task member => ⟨task, member, rfl, .inl rfl⟩

theorem TasksFrom.trans {tab middle next : Tab} (first : TasksFrom tab middle)
    (second : TasksFrom middle next)
    : TasksFrom tab next := by
  intro task member
  obtain ⟨between, there, bornBetween, kindBetween⟩ := second task member
  obtain ⟨old, here, born, kind⟩ := first between there
  refine ⟨old, here, born.trans bornBetween, ?_⟩
  rcases kindBetween with same | other
  · rcases kind with kept | other
    · exact .inl (same.trans kept)
    · exact .inr (same.trans other)
  · exact .inr other

theorem Continues.refl {i : Nat} {task : Task} (tab : Tab) : Continues i task tab tab where
  mounted := rfl
  generation := rfl
  refreshPromise := rfl
  promises := rfl
  actions := rfl
  latest := rfl
  tasks _ member := .inl member
  others _ _ _ found := found

theorem Continues.trans {i : Nat} {task : Task} {tab middle next : Tab}
    (first : Continues i task tab middle) (second : Continues i task middle next)
    : Continues i task tab next where
  mounted := second.mounted.trans first.mounted
  generation := second.generation.trans first.generation
  refreshPromise := second.refreshPromise.trans first.refreshPromise
  promises := second.promises.trans first.promises
  actions := second.actions.trans first.actions
  latest := second.latest.trans first.latest
  tasks other member := by
    rcases second.tasks other member with between | resumed
    · exact first.tasks other between
    · exact .inr resumed
  others j apart other found := second.others j apart other (first.others j apart other found)

theorem Continues.tasksFrom {i : Nat} {task : Task} {tab next : Tab}
    (continued : Continues i task tab next) (found : tab.tasks[i]? = some task)
    : TasksFrom tab next := by
  intro other member
  rcases continued.tasks other member with old | ⟨born, kind⟩
  · exact ⟨other, old, rfl, .inl rfl⟩
  · exact ⟨task, List.mem_of_getElem? found, born.symm, kind⟩

/-- Only the session differs: the React state, the tokens and the storage. -/
structure SameControl (tab next : Tab) : Prop where
  mounted : next.mounted = tab.mounted
  generation : next.generation = tab.generation
  refreshPromise : next.refreshPromise = tab.refreshPromise
  promises : next.promises = tab.promises
  actions : next.actions = tab.actions
  latest : next.latest = tab.latest
  tasks : next.tasks = tab.tasks

theorem SameControl.tasksFrom {tab next : Tab} (same : SameControl tab next)
    : TasksFrom tab next := by
  intro task member
  rw [same.tasks] at member
  exact ⟨task, member, rfl, .inl rfl⟩

theorem Continues.of_same {i : Nat} {task : Task} {tab middle next : Tab}
    (continued : Continues i task tab middle) (same : SameControl middle next)
    : Continues i task tab next := by
  refine continued.trans {
    mounted := same.mounted
    generation := same.generation
    refreshPromise := same.refreshPromise
    promises := same.promises
    actions := same.actions
    latest := same.latest
    tasks := fun other member => .inl (by rwa [same.tasks] at member)
    others := fun j _ other found => by rwa [same.tasks] }

/-- What resumes a call: the actions stay as they are. -/
structure Resumes (tab next : Tab) : Prop where
  mounted : next.mounted = tab.mounted
  actions : next.actions = tab.actions
  latest : next.latest = tab.latest
  tasks : TasksFrom tab next

theorem Continues.resumes {i : Nat} {task : Task} {tab next : Tab}
    (continued : Continues i task tab next) (found : tab.tasks[i]? = some task)
    : Resumes tab next where
  mounted := continued.mounted
  actions := continued.actions
  latest := continued.latest
  tasks := continued.tasksFrom found

theorem Resumes.trans {tab middle next : Tab} (first : Resumes tab middle)
    (second : Resumes middle next)
    : Resumes tab next where
  mounted := second.mounted.trans first.mounted
  actions := second.actions.trans first.actions
  latest := second.latest.trans first.latest
  tasks := first.tasks.trans second.tasks

namespace Tab

variable {tab : Tab} {i : Nat} {task : Task} {work : Work}

theorem become_continues (kind : work.kind = task.work.kind ∨ work.kind = .other)
    : Continues i task tab (tab.become i task work) where
  mounted := rfl
  generation := rfl
  refreshPromise := rfl
  promises := rfl
  actions := rfl
  latest := rfl
  tasks other member := by
    rcases List.mem_or_eq_of_mem_set member with old | rfl
    · exact .inl old
    · exact .inr ⟨rfl, kind⟩
  others j apart other there := by
    rw [← there]
    exact List.getElem?_set_ne apart.symm

theorem finish_continues : Continues i task tab (tab.become i task .finished) :=
  become_continues (.inr rfl)

theorem refresh_resumes (tab : Tab) (born : Nat) : Resumes tab (tab.refresh born).1 := by
  unfold refresh
  cases tab.refreshPromise with
  | some promise => exact ⟨rfl, rfl, rfl, .refl tab⟩
  | none => exact ⟨rfl, rfl, rfl, .refl tab⟩

/-- The handlers of a refresh change the session only. -/
theorem refreshHandler_same (tab : Tab) (generation : Nat)
    (answer : Except Failure TokenResponse)
    : SameControl tab (tab.refreshHandler generation answer).1 := by
  unfold refreshHandler
  split
  · exact ⟨rfl, rfl, rfl, rfl, rfl, rfl, rfl⟩
  · cases answer with
    | ok token => exact ⟨rfl, rfl, rfl, rfl, rfl, rfl, rfl⟩
    | error failure =>
        dsimp only
        split <;> exact ⟨rfl, rfl, rfl, rfl, rfl, rfl, rfl⟩

theorem loadSession_continues {caller : Caller} {accessToken expiresAt : Text}
    (opens : task.work.kind = .opens)
    : Continues i task tab (tab.loadSession i task caller accessToken expiresAt) := by
  have given : Continues i task tab { tab with
      accessToken := some accessToken
      accessTokenExpiresAt := some expiresAt } :=
    (Continues.refl tab).of_same ⟨rfl, rfl, rfl, rfl, rfl, rfl, rfl⟩
  exact given.trans (become_continues (.inl opens.symm))

theorem commitSession_continues {load : Load} {user : MeResponse}
    {organizations : List UserOrganization} {selected : Option UserOrganization}
    {context : Option TenantContext}
    : Continues i task tab (tab.commitSession i task load user organizations selected context) := by
  unfold commitSession
  split
  · exact finish_continues
  · split
    · exact finish_continues.of_same ⟨rfl, rfl, rfl, rfl, rfl, rfl, rfl⟩
    · exact finish_continues.of_same ⟨rfl, rfl, rfl, rfl, rfl, rfl, rfl⟩

theorem fetched_continues {caller : Caller} {load : Load} {user : MeResponse}
    {organizations : List UserOrganization}
    (opens : task.work.kind = .opens)
    : Continues i task tab (tab.fetched i task caller load user organizations) := by
  unfold fetched
  split
  · exact finish_continues
  · have read : Continues i task tab { tab with storage := tab.storage.get.2 } :=
      (Continues.refl tab).of_same ⟨rfl, rfl, rfl, rfl, rfl, rfl, rfl⟩
    dsimp only
    split
    · exact read.trans commitSession_continues
    · exact read.trans (become_continues (.inl opens.symm))

theorem loadFailed_continues {caller : Caller} {failure : Failure}
   
    : Continues i task tab (tab.loadFailed i task caller failure) := by
  unfold loadFailed
  cases caller with
  | restoreSession => exact finish_continues.of_same ⟨rfl, rfl, rfl, rfl, rfl, rfl, rfl⟩
  | login => exact finish_continues.of_same ⟨rfl, rfl, rfl, rfl, rfl, rfl, rfl⟩

theorem orphan_continues {α : Type} {call : Call α}
    : Continues i task tab (tab.orphan task call) := by
  have grown (work : Work) (kind : work.kind = .other)
      : Continues i task tab { tab with tasks := tab.tasks ++ [{ task with work }] } := {
    mounted := rfl
    generation := rfl
    refreshPromise := rfl
    promises := rfl
    actions := rfl
    latest := rfl
    tasks := fun other member => by
      rcases List.mem_append.mp member with old | new
      · exact .inl old
      · obtain rfl := List.mem_singleton.mp new
        exact .inr ⟨rfl, .inr kind⟩
    others := fun j _ other there => by
      rw [← there]
      exact List.getElem?_append_left (List.getElem?_eq_some_iff.mp there).1 }
  cases call with
  | sent => exact grown _ rfl
  | refreshing promise unauthorized => exact grown _ rfl
  | resent => exact grown _ rfl
  | resolved data => exact .refl tab

theorem selectFailed_continues {failure : Failure}
    : Continues i task tab (tab.selectFailed i task failure) :=
  finish_continues.of_same ⟨rfl, rfl, rfl, rfl, rfl, rfl, rfl⟩

theorem selectAnswered_continues {organizationId : Text} {context : TenantContext}
   
    : Continues i task tab (tab.selectAnswered i task organizationId context) := by
  unfold selectAnswered
  split
  · exact finish_continues.of_same ⟨rfl, rfl, rfl, rfl, rfl, rfl, rfl⟩
  · exact finish_continues.of_same ⟨rfl, rfl, rfl, rfl, rfl, rfl, rfl⟩

theorem resumeLoad_continues {caller : Caller} {load : Load} {stage : LoadStage} {slot : Slot}
    {outcome : Outcome slot.Data}
    (opens : task.work.kind = .opens)
    : Continues i task tab (tab.resumeLoad i task caller load stage slot outcome) := by
  have failed {α : Type} (call : Call α) (failure : Failure)
      : Continues i task tab ((tab.orphan task call).loadFailed i task caller failure) :=
    orphan_continues.trans loadFailed_continues
  unfold resumeLoad
  split
  · exact become_continues (.inl opens.symm)
  · split
    · exact fetched_continues opens
    · exact become_continues (.inl opens.symm)
  · exact failed _ _
  · exact become_continues (.inl opens.symm)
  · split
    · exact fetched_continues opens
    · exact become_continues (.inl opens.symm)
  · exact failed _ _
  · exact become_continues (.inl opens.symm)
  · exact commitSession_continues
  · exact loadFailed_continues
  · exact .refl tab

theorem resume_continues {slot : Slot} {outcome : Outcome slot.Data}
   
    : Continues i task tab (tab.resume i task slot outcome) := by
  unfold resume
  cases work : task.work with
  | loading caller load => exact resumeLoad_continues (by rw [work]; rfl)
  | selecting organizationId call =>
      have opens : task.work.kind = .opens := by rw [work]; rfl
      cases slot <;> cases outcome
      case context.waits => exact become_continues (.inl opens.symm)
      case context.resolves => exact selectAnswered_continues
      case context.rejects => exact selectFailed_continues
      all_goals exact .refl tab
  | calling call =>
      cases slot <;> cases outcome
      case page.waits => exact become_continues (.inr rfl)
      case page.resolves => exact finish_continues
      case page.rejects => exact finish_continues
      all_goals exact .refl tab
  | restoring active promise => exact .refl tab
  | loggingIn => exact .refl tab
  | loggingOut => exact .refl tab
  | loggingOutAll => exact .refl tab
  | finished => exact .refl tab

end Tab

end WorkflowForge.Web
