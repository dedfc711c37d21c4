import WorkflowForge.Security.LimiterStages

/-! What one operation of a worker does to one counter of the limiter. -/

namespace WorkflowForge.AuthRoutes

open Concurrency Python
open Identity (TokenPair)

-----------------------------------------------------------------------------------------
-- What is counted
-----------------------------------------------------------------------------------------

/-- The route charges the attempt to its counters. -/
def Attempt.refused (attempt : Attempt) : Bool := attempt.failure.any attempt.request.refuses

@[simp] theorem Attempt.refused_none (request : AuthRequest)
    : (Attempt.mk request none).refused = false :=
  rfl

@[simp] theorem Attempt.refused_some (request : AuthRequest) (failure : SessionFailure)
    : (Attempt.mk request (some failure)).refused = request.refuses failure :=
  rfl

namespace Subject

variable (site : AuthSite) (subject : Subject) (world : AuthWorld)

def attempts : Nat :=
  world.attempts.countP (fun attempt => subject.Concerns site attempt.request)

def failures : Nat :=
  world.attempts.countP (fun attempt =>
    subject.Concerns site attempt.request ∧ attempt.refused)

def successes : Nat :=
  world.attempts.countP (fun attempt =>
    subject.Concerns site attempt.request ∧ attempt.failure = none)

def resets : Nat := world.resets.countP (fun keys => keys.contains (subject.key site))

/-- The counter, unless it has expired. -/
def counter : Option Windows.Counter :=
  Windows.live (world.counters (subject.key site)) world.now

variable {site subject world}

@[simp] theorem resets_increment {key : Text} {windowSeconds : Nat}
    : subject.resets site (world.increment key windowSeconds) = subject.resets site world :=
  rfl

@[simp] theorem successes_increment {key : Text} {windowSeconds : Nat}
    : subject.successes site (world.increment key windowSeconds)
      = subject.successes site world :=
  rfl

@[simp] theorem failures_increment {key : Text} {windowSeconds : Nat}
    : subject.failures site (world.increment key windowSeconds) = subject.failures site world :=
  rfl

theorem counters_increment {windowSeconds : Nat}
    : (world.increment (subject.key site) windowSeconds).counters (subject.key site)
      = some (Windows.bump (windowSeconds * 1000) world.now
          (world.counters (subject.key site))) := by
  simp [AuthWorld.increment]

theorem counters_increment_ne {key : Text} {windowSeconds : Nat} (other : key ≠ subject.key site)
    : (world.increment key windowSeconds).counters (subject.key site)
      = world.counters (subject.key site) := by
  simp [AuthWorld.increment, Function.update_of_ne other.symm]

theorem resets_delete {keys : List Text}
    : subject.resets site (world.delete keys)
      = subject.resets site world + if subject.key site ∈ keys then 1 else 0 := by
  simp [resets, AuthWorld.delete, List.countP_append, List.countP_singleton]

theorem attempts_attempted {request : AuthRequest} {result : Except SessionFailure TokenPair}
    : subject.attempts site (world.attempted request result)
      = subject.attempts site world + if subject.Concerns site request then 1 else 0 := by
  simp [attempts, AuthWorld.attempted, List.countP_append, List.countP_singleton]

theorem successes_attempted {request : AuthRequest} {result : Except SessionFailure TokenPair}
    : subject.successes site (world.attempted request result)
      = subject.successes site world
        + if subject.Concerns site request ∧ Stage.attempted request result = .won then 1
          else 0 := by
  cases result with
  | ok pair =>
      simp [successes, AuthWorld.attempted, List.countP_append, List.countP_singleton,
        Stage.attempted]
  | error failure =>
      have lost : Stage.attempted request (.error failure) ≠ .won := by
        simp only [Stage.attempted]
        split <;> simp
      simp [successes, AuthWorld.attempted, List.countP_append, lost]

theorem failures_attempted {request : AuthRequest} {result : Except SessionFailure TokenPair}
    : subject.failures site (world.attempted request result)
      = subject.failures site world
        + if subject.Concerns site request ∧ Stage.attempted request result = .owing then 1
          else 0 := by
  cases result with
  | ok pair =>
      simp [failures, AuthWorld.attempted, List.countP_append, Stage.attempted]
  | error failure =>
      have owed : Stage.attempted request (.error failure) = .owing
          ↔ request.refuses failure = true := by
        simp only [Stage.attempted]
        split <;> simp_all
      simp [failures, AuthWorld.attempted, List.countP_append, List.countP_singleton, owed]

end Subject

-----------------------------------------------------------------------------------------
-- What one operation does to a counter
-----------------------------------------------------------------------------------------

/-- The two worlds agree on the counter and on its attempts. -/
structure SameView (site : AuthSite) (subject : Subject) (world after : AuthWorld) : Prop where
  now : after.now = world.now
  counters : after.counters (subject.key site) = world.counters (subject.key site)
  resets : subject.resets site after = subject.resets site world
  attempts : subject.attempts site after = subject.attempts site world
  successes : subject.successes site after = subject.successes site world
  failures : subject.failures site after = subject.failures site world

theorem SameView.refl (site : AuthSite) (subject : Subject) (world : AuthWorld)
    : SameView site subject world world :=
  ⟨rfl, rfl, rfl, rfl, rfl, rfl⟩

theorem SameView.attempted {site : AuthSite} {subject : Subject} {request : AuthRequest}
    (apart : ¬ subject.Concerns site request) (world : AuthWorld)
    (result : Except SessionFailure TokenPair)
    : SameView site subject world (world.attempted request result) where
  now := rfl
  counters := rfl
  resets := rfl
  attempts := by rw [Subject.attempts_attempted, if_neg apart, Nat.add_zero]
  successes := by
    rw [Subject.successes_attempted, if_neg (fun both => apart both.1), Nat.add_zero]
  failures := by
    rw [Subject.failures_attempted, if_neg (fun both => apart both.1), Nat.add_zero]

/-- How a worker's stage and the world change together. -/
inductive Happens (site : AuthSite) (subject : Subject)
    : Stage → AuthWorld → Stage → AuthWorld → Prop
  | elsewhere {stage : Stage} {world after : AuthWorld} (same : SameView site subject world after)
    : Happens site subject stage world stage after
  | enter {world : AuthWorld}
    (unfilled
      : ∀ counter,
          subject.counter site world = some counter → counter.count < subject.threshold site)
    : Happens site subject .outside world .passed world
  | leave {world after : AuthWorld} (same : SameView site subject world after)
    : Happens site subject .passed world .outside after
  | charge {stage : Stage} {world : AuthWorld} (due : stage = .passed ∨ stage = .owing)
    : Happens site subject stage world .outside
        (world.increment (subject.key site) (subject.rule site).windowSeconds)
  | attempt {world : AuthWorld} {request : AuthRequest}
    {result : Except SessionFailure TokenPair} (concerned : subject.Concerns site request)
    : Happens site subject .passed world (.attempted request result)
        (world.attempted request result)
  | reset {world : AuthWorld} {keys : List Text} (member : subject.key site ∈ keys)
    : Happens site subject .won world .outside (world.delete keys)

/-- The worker moves as the discipline says, by cases on its operation. -/
theorem perform_happens {site : AuthSite} {subject : Subject} {world : AuthWorld}
    {stage : Stage} {moment : Moment} (answers : moment.redis = .answered) {op : AuthOp}
    (allowed : (discipline site subject).may stage op)
    : ∃ later,
        (discipline site subject).moves stage op (perform moment world op).1 later
        ∧ Happens site subject stage world later (perform moment world op).2 := by
  have same := SameView.refl site subject world
  cases op with
  | get key =>
      simp only [perform, commanded, answers]
      refine ⟨_, ⟨_, rfl, rfl⟩, ?_⟩
      split
      · rename_i opens
        obtain ⟨rfl, rfl, few⟩ := opens
        refine .enter (fun counter found => ?_)
        unfold Subject.counter at found
        simpa [AuthWorld.count, found] using few
      · exact .elsewhere same
  | ttl key =>
      simp only [perform, commanded, answers]
      exact ⟨stage, ⟨⟨_, rfl⟩, rfl⟩, .elsewhere same⟩
  | incrementWindow key windowSeconds =>
      simp only [perform, commanded, answers]
      refine ⟨_, ⟨⟨_, rfl⟩, rfl⟩, ?_⟩
      split
      · rename_i own
        obtain ⟨due, rfl⟩ := allowed own
        subst own
        exact .charge due
      · rename_i other
        exact .elsewhere { same with counters := Subject.counters_increment_ne other }
  | delete keys =>
      simp only [perform, commanded, answers]
      refine ⟨_, ⟨rfl, rfl⟩, ?_⟩
      split
      · rename_i found
        have member := List.contains_iff_mem.mp found
        obtain rfl := allowed member
        exact .reset member
      · rename_i unfound
        have other := mt List.contains_iff_mem.mpr unfound
        exact .elsewhere {
          same with
          counters := if_neg unfound
          resets := by rw [Subject.resets_delete, if_neg other, Nat.add_zero]
        }
  | startUserSession request =>
      simp only [perform]
      refine ⟨_, rfl, ?_⟩
      split
      · rename_i concerned
        obtain rfl := allowed concerned
        exact .attempt concerned
      · rename_i apart
        exact .elsewhere (.attempted apart _ _)
  | refreshSession request refreshToken =>
      simp only [perform]
      refine ⟨_, rfl, ?_⟩
      split
      · rename_i concerned
        obtain rfl := allowed concerned
        exact .attempt concerned
      · rename_i apart
        exact .elsewhere (.attempted apart _ _)
  | audit event =>
      refine ⟨.outside, rfl, ?_⟩
      rcases allowed with rfl | rfl
      · exact .elsewhere ⟨rfl, rfl, rfl, rfl, rfl, rfl⟩
      · exact .leave ⟨rfl, rfl, rfl, rfl, rfl, rfl⟩
  | csrfToken => exact ⟨stage, rfl, .elsewhere same⟩

end WorkflowForge.AuthRoutes
