import WorkflowForge.Domain.Aggregates
import WorkflowForge.Python.Ascii

/-! The life of cases and of their tasks under any sequence of domain operations. -/

namespace WorkflowForge

open Python

variable {u : Unicode}

/-- `_timestamp` of the case module. -/
def caseTimestamp : Datetime → Except Exn Timestamp
  | .aware instant => .ok instant
  | .naive _ => .error (.caseError "Case timestamps must be timezone-aware.")

-----------------------------------------------------------------------------------------
-- Cases
-----------------------------------------------------------------------------------------

inductive CaseOperation where
  | update (title summary : Option Text) (priority : Option CasePriority)
    (externalReference : Option Text) (actorUserId : UUID) (now : Datetime)
  | close (actorUserId : UUID) (now : Datetime)
  | reopen (actorUserId : UUID) (now : Datetime)
  | archive (actorUserId : UUID) (now : Datetime)

namespace CaseOperation

/-- What the domain makes of the case. -/
def apply (u : Unicode) (case : Case) : CaseOperation → Except Exn Case
  | update title summary priority externalReference actorUserId now => do
      case.ensureMutable
      let timestamp ← caseTimestamp now
      case.update u title summary priority externalReference actorUserId timestamp
  | close actorUserId now => do
      case.ensureMutable
      let timestamp ← caseTimestamp now
      case.close u actorUserId timestamp
  | reopen actorUserId now =>
      if case.status = .archived then
        .error (.caseError "Archived cases cannot be reopened.")
      else do
        let timestamp ← caseTimestamp now
        case.reopen u actorUserId timestamp
  | archive actorUserId now => do
      let timestamp ← caseTimestamp now
      case.archive u actorUserId timestamp

/-- A case with the number of operations that have succeeded on it. An operation that raises
is skipped. -/
def step (u : Unicode) (state : Case × Nat) (operation : CaseOperation) : Case × Nat :=
  match operation.apply u state.1 with
  | .ok changed => (changed, state.2 + 1)
  | .error _ => state

end CaseOperation

namespace Case

def after (u : Unicode) (case : Case) (operations : List CaseOperation) : Case × Nat :=
  operations.foldl (CaseOperation.step u) (case, 0)

/-- The closing and archiving metadata that each status asks for. -/
def Stamped (case : Case) : Prop :=
  match case.status with
  | .open =>
      case.closedAt = none ∧ case.closedByUserId = none ∧ case.archivedAt = none
      ∧ case.archivedByUserId = none
  | .closed =>
      case.closedAt.isSome ∧ case.closedByUserId.isSome ∧ case.archivedAt = none
      ∧ case.archivedByUserId = none
  | .archived => case.archivedAt.isSome ∧ case.archivedByUserId.isSome

/-- What one successful operation keeps or counts. -/
structure Advances (case changed : Case) : Prop where
  stamped : case.Stamped → changed.Stamped
  version : changed.lockVersion = case.lockVersion + 1
  archived : case.status = .archived → changed.status = .archived

/-- Before it is archived a case has no archiving metadata. -/
theorem Stamped.unarchived {case : Case} (stamped : case.Stamped)
    (active : case.status ≠ .archived)
    : case.archivedAt = none ∧ case.archivedByUserId = none := by
  unfold Stamped at stamped
  cases status : case.status with
  | archived => exact absurd status active
  | _ =>
      rw [status] at stamped
      exact stamped.2.2

end Case

/-- Every operation ends in the constructor, which only normalizes texts. -/
theorem CaseOperation.apply_advances {case changed : Case} {operation : CaseOperation}
    (applied : operation.apply u case = .ok changed)
    : case.Advances changed := by
  cases operation with
  | update title summary priority externalReference actorUserId now =>
      obtain ⟨⟨⟩, -, applied⟩ := exists_of_bind_ok applied
      obtain ⟨timestamp, -, applied⟩ := exists_of_bind_ok applied
      obtain ⟨active, built⟩ := Case.postInit_of_update applied
      obtain ⟨_, _, _, -, -, -, -, rfl⟩ := Case.postInit_eq_ok built
      exact ⟨id, rfl, id⟩
  | close actorUserId now =>
      obtain ⟨⟨⟩, -, applied⟩ := exists_of_bind_ok applied
      obtain ⟨timestamp, -, applied⟩ := exists_of_bind_ok applied
      obtain ⟨active, built⟩ := Case.postInit_of_close applied
      obtain ⟨_, _, _, -, -, -, -, rfl⟩ := Case.postInit_eq_ok built
      refine ⟨fun stamped => ?_, rfl, fun archived => absurd archived active⟩
      exact ⟨rfl, rfl, stamped.unarchived active⟩
  | reopen actorUserId now =>
      simp only [apply] at applied
      split at applied
      · cases applied
      · obtain ⟨timestamp, -, applied⟩ := exists_of_bind_ok applied
        obtain ⟨active, built⟩ := Case.postInit_of_reopen applied
        obtain ⟨_, _, _, -, -, -, -, rfl⟩ := Case.postInit_eq_ok built
        refine ⟨fun stamped => ?_, rfl, fun archived => absurd archived active⟩
        exact ⟨rfl, rfl, stamped.unarchived active⟩
  | archive actorUserId now =>
      obtain ⟨timestamp, -, built⟩ := exists_of_bind_ok applied
      obtain ⟨_, _, _, -, -, -, -, rfl⟩ := Case.postInit_eq_ok built
      exact ⟨fun _ => ⟨rfl, rfl⟩, rfl, fun _ => rfl⟩

/-- The metadata fits the status, the version counts the operations, and archiving lasts. -/
structure Case.Followed (start : Case) (state : Case × Nat) : Prop where
  stamped : start.Stamped → state.1.Stamped
  version : state.1.lockVersion = start.lockVersion + state.2
  archived : start.status = .archived → state.1.status = .archived

theorem CaseOperation.step_followed {start : Case} {state : Case × Nat}
    (followed : start.Followed state) (operation : CaseOperation)
    : start.Followed (step u state operation) := by
  unfold step
  split
  · rename_i changed applied
    have advances := apply_advances applied
    refine ⟨fun stamped => advances.stamped (followed.stamped stamped), ?_,
      fun archived => advances.archived (followed.archived archived)⟩
    rw [advances.version, followed.version, Nat.add_assoc]
  · exact followed

theorem Case.after_followed (case : Case) (operations : List CaseOperation)
    : case.Followed (case.after u operations) := by
  suffices run : ∀ state, case.Followed state
      → case.Followed (operations.foldl (CaseOperation.step u) state) from
    run (case, 0) ⟨fun stamped => stamped, rfl, fun archived => archived⟩
  induction operations with
  | nil => exact fun _ followed => followed
  | cons operation rest ih => exact fun _ followed => ih _ (CaseOperation.step_followed followed _)

/-- A case as `Case.create` makes it. -/
def Case.Made (u : Unicode) (case : Case) : Prop :=
  ∃ id organizationId title summary priority externalReference createdByUserId timestamp,
    Case.create u id organizationId title summary priority externalReference createdByUserId
      timestamp = .ok case

theorem Case.Made.start {case : Case} (made : case.Made u)
    : case.Stamped ∧ case.lockVersion = 1 := by
  obtain ⟨id, organizationId, title, summary, priority, externalReference, createdByUserId,
    timestamp, built⟩ := made
  obtain ⟨_, _, _, -, -, -, -, rfl⟩ := Case.postInit_eq_ok built
  exact ⟨⟨rfl, rfl, rfl, rfl⟩, rfl⟩

-----------------------------------------------------------------------------------------
-- Tasks
-----------------------------------------------------------------------------------------

inductive CaseTaskOperation where
  | update (title description : Option Text) (assignedToUserId : Option UUID)
    (dueAt : Option Timestamp) (actorUserId : UUID) (now : Datetime)
  | complete (actorUserId : UUID) (now : Datetime)

namespace CaseTaskOperation

/-- What the domain makes of the task. -/
def apply (task : CaseTask) : CaseTaskOperation → Except Exn CaseTask
  | update title description assignedToUserId dueAt actorUserId now => do
      let timestamp ← caseTimestamp now
      return task.update title description assignedToUserId dueAt actorUserId timestamp
  | complete actorUserId now => do
      let timestamp ← caseTimestamp now
      return task.complete actorUserId timestamp

def step (state : CaseTask × Nat) (operation : CaseTaskOperation) : CaseTask × Nat :=
  match operation.apply state.1 with
  | .ok changed => (changed, state.2 + 1)
  | .error _ => state

end CaseTaskOperation

namespace CaseTask

def after (task : CaseTask) (operations : List CaseTaskOperation) : CaseTask × Nat :=
  operations.foldl CaseTaskOperation.step (task, 0)

/-- Completed is what has both completion fields; any other task has neither. -/
def Stamped (task : CaseTask) : Prop :=
  (task.status = .completed ↔ task.completedAt.isSome ∧ task.completedByUserId.isSome)
  ∧ (task.status ≠ .completed → task.completedAt = none ∧ task.completedByUserId = none)

/-- The fields that `CaseService.create_task` gives a new task, whatever the other fields. -/
structure New (task : CaseTask) : Prop where
  status : task.status = .open
  completedAt : task.completedAt = none
  completedByUserId : task.completedByUserId = none
  lockVersion : task.lockVersion = 1

structure Followed (start : CaseTask) (state : CaseTask × Nat) : Prop where
  stamped : start.Stamped → state.1.Stamped
  version : state.1.lockVersion = start.lockVersion + state.2

end CaseTask

theorem CaseTaskOperation.apply_eq_ok {task changed : CaseTask}
    {operation : CaseTaskOperation} (applied : operation.apply task = .ok changed)
    : (task.Stamped → changed.Stamped) ∧ changed.lockVersion = task.lockVersion + 1 := by
  cases operation with
  | update title description assignedToUserId dueAt actorUserId now =>
      obtain ⟨timestamp, -, applied⟩ := exists_of_bind_ok applied
      cases applied
      exact ⟨id, rfl⟩
  | complete actorUserId now =>
      obtain ⟨timestamp, -, applied⟩ := exists_of_bind_ok applied
      cases applied
      exact ⟨fun _ => by simp [CaseTask.Stamped, CaseTask.complete], rfl⟩

theorem CaseTaskOperation.step_followed {start : CaseTask} {state : CaseTask × Nat}
    (followed : start.Followed state) (operation : CaseTaskOperation)
    : start.Followed (step state operation) := by
  unfold step
  split
  · rename_i changed applied
    obtain ⟨stamped, version⟩ := apply_eq_ok applied
    refine ⟨fun start => stamped (followed.stamped start), ?_⟩
    rw [version, followed.version, Nat.add_assoc]
  · exact followed

theorem CaseTask.after_followed (task : CaseTask) (operations : List CaseTaskOperation)
    : task.Followed (task.after operations) := by
  suffices run : ∀ state, task.Followed state
      → task.Followed (operations.foldl CaseTaskOperation.step state) from
    run (task, 0) ⟨fun stamped => stamped, rfl⟩
  induction operations with
  | nil => exact fun _ followed => followed
  | cons operation rest ih =>
      exact fun _ followed => ih _ (CaseTaskOperation.step_followed followed _)

/-- Along every sequence of operations, the metadata of a case and of a task fit its status,
an archived case stays archived, and the lock version is one more than the number of
operations that succeeded. -/
theorem lifecycles_followed (u : Unicode)
    : (∀ made : Case, made.Made u → ∀ operations,
        let reached := made.after u operations
        reached.1.Stamped
        ∧ reached.1.lockVersion = 1 + reached.2
        ∧ (reached.1.status = .archived
          → ∀ later, (reached.1.after u later).1.status = .archived))
      ∧ ∀ new : CaseTask, new.New → ∀ operations,
          let reached := new.after operations
          reached.1.Stamped ∧ reached.1.lockVersion = 1 + reached.2 := by
  constructor
  · intro made created operations
    obtain ⟨stamped, version⟩ := created.start
    have followed := made.after_followed (u := u) operations
    refine ⟨followed.stamped stamped, by rw [followed.version, version], ?_⟩
    intro archived later
    exact (Case.after_followed _ later).archived archived
  · intro new created operations
    have followed := new.after_followed operations
    have stamped : new.Stamped := by
      simp [CaseTask.Stamped, created.status, created.completedAt, created.completedByUserId]
    exact ⟨followed.stamped stamped, by rw [followed.version, created.lockVersion]⟩

/-- A case that was just opened. -/
def openedSample : Case where
  id := 1
  organizationId := 2
  title := "Refund".toList
  summary := none
  status := .open
  priority := .normal
  externalReference := none
  createdAt := 10
  createdByUserId := 3
  updatedAt := 10
  updatedByUserId := 3
  closedAt := none
  closedByUserId := none
  archivedAt := none
  archivedByUserId := none
  lockVersion := 1

theorem openedSample_made : openedSample.Made asciiUnicode :=
  ⟨1, 2, "Refund".toList, none, .normal, none, 3, 10, by decide +kernel⟩

theorem lifecycles_followed_sample
    : (openedSample.after asciiUnicode [.close 3 (.aware 11), .archive 3 (.naive 12)]).1.Stamped :=
  ((lifecycles_followed asciiUnicode).1 openedSample openedSample_made _).1

end WorkflowForge
