import WorkflowForge.Concurrency.Transitions
import WorkflowForge.Domain.Aggregates
import WorkflowForge.Infrastructure.BatchRepository
import WorkflowForge.Infrastructure.CaseRepository

/-! The revisions of batches, cases and tasks: what the domain makes of a loaded row.
Each revision is one domain operation and raises the lock version by one, so the lock version
of a row counts the operations since it was opened.
-/

namespace WorkflowForge

open Python Transactions Concurrency

variable {u : Unicode}

-----------------------------------------------------------------------------------------
-- One domain operation
-----------------------------------------------------------------------------------------

inductive Batch.Revises (u : Unicode) (batch : Batch) : Batch → Prop
  | update {result : Batch} {name description externalReference : Option Text}
    {actorUserId : UUID} {timestamp : Timestamp}
    (updated
      : batch.update u name description externalReference actorUserId timestamp = .ok result)
    : Revises u batch result
  | archive {result : Batch} {actorUserId : UUID} {timestamp : Timestamp}
    (archived : batch.archive u actorUserId timestamp = .ok result)
    : Revises u batch result

inductive Case.Revises (u : Unicode) (case : Case) : Case → Prop
  | update {result : Case} {title summary : Option Text} {priority : Option CasePriority}
    {externalReference : Option Text} {actorUserId : UUID} {timestamp : Timestamp}
    (updated
      : case.update u title summary priority externalReference actorUserId timestamp
        = .ok result)
    : Revises u case result
  | close {result : Case} {actorUserId : UUID} {timestamp : Timestamp}
    (closed : case.close u actorUserId timestamp = .ok result)
    : Revises u case result
  | reopen {result : Case} {actorUserId : UUID} {timestamp : Timestamp}
    (reopened : case.reopen u actorUserId timestamp = .ok result)
    : Revises u case result
  | archive {result : Case} {actorUserId : UUID} {timestamp : Timestamp}
    (archived : case.archive u actorUserId timestamp = .ok result)
    : Revises u case result

inductive CaseTask.Revises (task : CaseTask) : CaseTask → Prop
  | update (title description : Option Text) (assignedToUserId : Option UUID)
    (dueAt : Option Timestamp) (actorUserId : UUID) (timestamp : Timestamp)
    : Revises task (task.update title description assignedToUserId dueAt actorUserId timestamp)
  | complete (actorUserId : UUID) (timestamp : Timestamp)
    : Revises task (task.complete actorUserId timestamp)

/-- The columns that no UPDATE of a batch sets; the lock version goes up by one. -/
structure Batch.Succeeds (batch result : Batch) : Prop where
  id : result.id = batch.id
  organizationId : result.organizationId = batch.organizationId
  createdAt : result.createdAt = batch.createdAt
  createdByUserId : result.createdByUserId = batch.createdByUserId
  lockVersion : result.lockVersion = batch.lockVersion + 1

structure Case.Succeeds (case result : Case) : Prop where
  id : result.id = case.id
  organizationId : result.organizationId = case.organizationId
  createdAt : result.createdAt = case.createdAt
  createdByUserId : result.createdByUserId = case.createdByUserId
  lockVersion : result.lockVersion = case.lockVersion + 1

structure CaseTask.Succeeds (task result : CaseTask) : Prop where
  id : result.id = task.id
  organizationId : result.organizationId = task.organizationId
  caseId : result.caseId = task.caseId
  createdAt : result.createdAt = task.createdAt
  createdByUserId : result.createdByUserId = task.createdByUserId
  lockVersion : result.lockVersion = task.lockVersion + 1

theorem Batch.Revises.succeeds {batch result : Batch} (revises : batch.Revises u result)
    : batch.Succeeds result := by
  cases revises with
  | update updated =>
      obtain ⟨_, _, _, -, -, -, -, -, rfl⟩ :=
        Batch.postInit_eq_ok (Batch.postInit_of_update updated).2
      exact ⟨rfl, rfl, rfl, rfl, rfl⟩
  | archive archived =>
      obtain ⟨_, _, _, -, -, -, -, -, rfl⟩ :=
        Batch.postInit_eq_ok (Batch.postInit_of_archive archived).2
      exact ⟨rfl, rfl, rfl, rfl, rfl⟩

/-- An archived batch has no revision. -/
theorem Batch.Revises.active {batch result : Batch} (revises : batch.Revises u result)
    : batch.status ≠ .archived := by
  cases revises with
  | update updated => exact (Batch.postInit_of_update updated).1
  | archive archived => exact (Batch.postInit_of_archive archived).1

theorem Case.Revises.succeeds {case result : Case} (revises : case.Revises u result)
    : case.Succeeds result := by
  cases revises with
  | update updated =>
      obtain ⟨_, _, _, -, -, -, -, rfl⟩ :=
        Case.postInit_eq_ok (Case.postInit_of_update updated).2
      exact ⟨rfl, rfl, rfl, rfl, rfl⟩
  | close closed =>
      obtain ⟨_, _, _, -, -, -, -, rfl⟩ :=
        Case.postInit_eq_ok (Case.postInit_of_close closed).2
      exact ⟨rfl, rfl, rfl, rfl, rfl⟩
  | reopen reopened =>
      obtain ⟨_, _, _, -, -, -, -, rfl⟩ :=
        Case.postInit_eq_ok (Case.postInit_of_reopen reopened).2
      exact ⟨rfl, rfl, rfl, rfl, rfl⟩
  | archive archived =>
      obtain ⟨_, _, _, -, -, -, -, rfl⟩ := Case.postInit_eq_ok archived
      exact ⟨rfl, rfl, rfl, rfl, rfl⟩

theorem CaseTask.Revises.succeeds {task result : CaseTask} (revises : task.Revises result)
    : task.Succeeds result := by
  cases revises with
  | update => exact ⟨rfl, rfl, rfl, rfl, rfl, rfl⟩
  | complete => exact ⟨rfl, rfl, rfl, rfl, rfl, rfl⟩

-----------------------------------------------------------------------------------------
-- Rows
-----------------------------------------------------------------------------------------

/-- The tables whose rows carry a lock version that their calls compare. -/
def TableName.isVersioned : TableName → Bool
  | batches | cases | caseTasks => true
  | _ => false

/-- The lock version of a versioned row. -/
def rowRevision : (t : TableName) → TableRow t → Nat
  | .batches, row => row.lockVersion
  | .cases, row => row.lockVersion
  | .caseTasks, row => row.lockVersion
  | _, _ => 0

/-- The new row is what a domain operation makes of the loaded old row. -/
def RowRevises (u : Unicode) : (t : TableName) → TableRow t → TableRow t → Prop
  | .batches, old, row => ∃ batch, batchFromRecord u old = .ok batch ∧ batch.Revises u row
  | .cases, old, row => ∃ case, caseFromRecord u old = .ok case ∧ case.Revises u row
  | .caseTasks, old, row => old.Revises row
  | _, _, _ => False

/-- The row is the first of its aggregate, as its table's INSERT writes it. -/
def RowOpens (u : Unicode) : (t : TableName) → TableRow t → Prop
  | .batches, row =>
      ∃ id organizationId name description externalReference createdByUserId timestamp,
        Batch.create u id organizationId name description externalReference createdByUserId
          timestamp = .ok row
  | .cases, row =>
      ∃ id organizationId title summary priority externalReference createdByUserId timestamp,
        Case.create u id organizationId title summary priority externalReference
          createdByUserId timestamp = .ok row
  | .caseTasks, row =>
      row.status = .open ∧ row.completedAt = none ∧ row.completedByUserId = none
      ∧ row.lockVersion = 1
  | .batchDocuments, _ | .caseDocuments, _ | .caseComments, _ | .caseDecisions, _ => True
  | _, _ => False

theorem RowRevises.versioned {t : TableName} {old row : TableRow t}
    (revises : RowRevises u t old row)
    : t.isVersioned = true := by
  cases t <;> first | rfl | exact revises.elim

theorem batchFromRecord_succeeds {old batch row : Batch}
    (loaded : batchFromRecord u old = .ok batch) (succeeds : batch.Succeeds row)
    : old.Succeeds row := by
  obtain ⟨_, _, _, -, -, -, -, -, rfl⟩ := Batch.postInit_eq_ok loaded
  exact ⟨succeeds.id, succeeds.organizationId, succeeds.createdAt, succeeds.createdByUserId,
    succeeds.lockVersion⟩

theorem caseFromRecord_succeeds {old case row : Case}
    (loaded : caseFromRecord u old = .ok case) (succeeds : case.Succeeds row)
    : old.Succeeds row := by
  obtain ⟨_, _, _, -, -, -, -, rfl⟩ := Case.postInit_eq_ok loaded
  exact ⟨succeeds.id, succeeds.organizationId, succeeds.createdAt, succeeds.createdByUserId,
    succeeds.lockVersion⟩

theorem RowRevises.key {t : TableName} {old row : TableRow t}
    (revises : RowRevises u t old row)
    : primaryKey t row = primaryKey t old := by
  cases t
  case batches =>
    obtain ⟨batch, loaded, revises⟩ := revises
    exact (batchFromRecord_succeeds loaded revises.succeeds).id
  case cases =>
    obtain ⟨case, loaded, revises⟩ := revises
    exact (caseFromRecord_succeeds loaded revises.succeeds).id
  case caseTasks => exact (CaseTask.Revises.succeeds revises).id
  all_goals exact revises.elim

/-- A revision raises the lock version by one. -/
theorem RowRevises.revision {t : TableName} {old row : TableRow t}
    (revises : RowRevises u t old row)
    : rowRevision t row = rowRevision t old + 1 := by
  cases t
  case batches =>
    obtain ⟨batch, loaded, revises⟩ := revises
    exact (batchFromRecord_succeeds loaded revises.succeeds).lockVersion
  case cases =>
    obtain ⟨case, loaded, revises⟩ := revises
    exact (caseFromRecord_succeeds loaded revises.succeeds).lockVersion
  case caseTasks => exact (CaseTask.Revises.succeeds revises).lockVersion
  all_goals exact revises.elim

theorem RowOpens.revision {t : TableName} {row : TableRow t} (opens : RowOpens u t row)
    (versioned : t.isVersioned = true)
    : rowRevision t row = 1 := by
  cases t
  case batches =>
    obtain ⟨_, _, _, _, _, _, _, created⟩ := opens
    obtain ⟨_, _, _, -, -, -, -, -, rfl⟩ := Batch.postInit_eq_ok created
    rfl
  case cases =>
    obtain ⟨_, _, _, _, _, _, _, _, created⟩ := opens
    obtain ⟨_, _, _, -, -, -, -, rfl⟩ := Case.postInit_eq_ok created
    rfl
  case caseTasks => exact opens.2.2.2
  all_goals cases versioned

/-- The lock version counts the revisions. -/
theorem revisions_counted {t : TableName} {n : Nat} {old row : TableRow t}
    (steps : Steps (RowRevises u t) n old row)
    : rowRevision t row = rowRevision t old + n :=
  steps.counts (fun _ _ revises => revises.revision)

/-- By induction on the revisions. -/
theorem revisions_key {t : TableName} {n : Nat} {old row : TableRow t}
    (steps : Steps (RowRevises u t) n old row)
    : primaryKey t row = primaryKey t old := by
  induction steps with
  | refl => rfl
  | tail _ last ih => exact last.key.trans ih

-----------------------------------------------------------------------------------------
-- Archived rows
-----------------------------------------------------------------------------------------

/-- An archived batch has no revisions. -/
theorem archived_batch_stays {n : Nat} {row later : Batch} (archived : row.status = .archived)
    (steps : Steps (RowRevises u .batches) n row later)
    : later = row := by
  refine steps.stays (fun next revises => ?_)
  obtain ⟨batch, loaded, revises⟩ := revises
  obtain ⟨_, _, _, -, -, -, -, -, rfl⟩ := Batch.postInit_eq_ok loaded
  exact revises.active archived

/-- Equal but for who last changed and archived the case, and when. -/
def Case.Restamped (case later : Case) : Prop :=
  later = {
    case with
    updatedAt := later.updatedAt
    updatedByUserId := later.updatedByUserId
    archivedAt := later.archivedAt
    archivedByUserId := later.archivedByUserId
    lockVersion := later.lockVersion
  }

/-- A case that a domain operation has written is loaded as it is. -/
theorem RowRevises.normal {old row : Case} (revises : RowRevises u .cases old row)
    : caseFromRecord u row = .ok row := by
  obtain ⟨case, -, revises⟩ := revises
  cases revises with
  | update updated => exact Case.postInit_again (Case.postInit_of_update updated).2
  | close closed => exact Case.postInit_again (Case.postInit_of_close closed).2
  | reopen reopened => exact Case.postInit_again (Case.postInit_of_reopen reopened).2
  | archive archived => exact Case.postInit_again archived

theorem RowOpens.normal {row : Case} (opens : RowOpens u .cases row)
    : caseFromRecord u row = .ok row := by
  obtain ⟨_, _, _, _, _, _, _, _, created⟩ := opens
  exact Case.postInit_again created

theorem cases_normal {n : Nat} {row later : Case} (normal : caseFromRecord u row = .ok row)
    (steps : Steps (RowRevises u .cases) n row later)
    : caseFromRecord u later = .ok later := by
  cases steps with
  | refl => exact normal
  | tail _ last => exact RowRevises.normal last

/-- An archived case, with its texts as the constructor leaves them, can only be archived
again. -/
structure Case.Shelved (u : Unicode) (case later : Case) : Prop where
  restamped : case.Restamped later
  archived : later.status = .archived
  normal : caseFromRecord u later = .ok later

theorem Case.Shelved.revises {case later next : Case} (shelved : case.Shelved u later)
    (revises : RowRevises u .cases later next)
    : case.Shelved u next := by
  obtain ⟨same, archived, normal⟩ := shelved
  obtain ⟨loaded, found, revises⟩ := revises
  rw [normal] at found
  cases found
  cases revises with
  | update updated => exact absurd archived (Case.postInit_of_update updated).1
  | close closed => exact absurd archived (Case.postInit_of_close closed).1
  | reopen reopened => exact absurd archived (Case.postInit_of_reopen reopened).1
  | archive again =>
      obtain ⟨title, summary, reference, hasTitle, hasSummary, hasReference, -, shape⟩ :=
        Case.postInit_eq_ok again
      obtain ⟨title', summary', reference', hasTitle', hasSummary', hasReference', -, shape'⟩ :=
        Case.postInit_eq_ok normal
      rw [hasTitle'] at hasTitle
      rw [hasSummary'] at hasSummary
      rw [hasReference'] at hasReference
      cases hasTitle
      cases hasSummary
      cases hasReference
      have texts : title = later.title ∧ summary = later.summary
          ∧ reference = later.externalReference := by
        rw [shape']
        exact ⟨rfl, rfl, rfl⟩
      obtain ⟨rfl, rfl, rfl⟩ := texts
      have status : case.status = .archived := by
        rw [same] at archived
        exact archived
      refine ⟨?_, by rw [shape], Case.postInit_again again⟩
      rw [Case.Restamped, shape, same]
      simp [status]

/-- By induction on the revisions. -/
theorem archived_case_shelved {n : Nat} {row later : Case} (archived : row.status = .archived)
    (normal : caseFromRecord u row = .ok row) (steps : Steps (RowRevises u .cases) n row later)
    : row.Shelved u later :=
  steps.keeps (fun _ _ revises shelved => shelved.revises revises)
    ⟨rfl, archived, normal⟩

-----------------------------------------------------------------------------------------
-- Databases
-----------------------------------------------------------------------------------------

/-- The versioned rows of the later database are revisions of the earlier ones or of rows
opened since, and none is lost. -/
structure Revised (u : Unicode) (before after : Database) : Prop where
  kept
    : ∀ {t k row},
        t.isVersioned = true
        → before.find? t k = some row
        → ∃ later n, after.find? t k = some later ∧ Steps (RowRevises u t) n row later
  opened
    : ∀ {t k later},
        t.isVersioned = true
        → before.find? t k = none
        → after.find? t k = some later
        → ∃ row n, RowOpens u t row ∧ Steps (RowRevises u t) n row later

namespace Revised

theorem refl (u : Unicode) (db : Database) : Revised u db db where
  kept _ found := ⟨_, 0, found, .refl _⟩
  opened _ absent found := by
    rw [absent] at found
    cases found

theorem trans {first second third : Database} (early : Revised u first second)
    (late : Revised u second third)
    : Revised u first third where
  kept versioned found := by
    obtain ⟨middle, m, found', steps⟩ := early.kept versioned found
    obtain ⟨later, n, found'', more⟩ := late.kept versioned found'
    exact ⟨later, m + n, found'', steps.trans more⟩
  opened {t k later} versioned absent found := by
    cases middle : second.find? t k with
    | none => exact late.opened versioned middle found
    | some row =>
        obtain ⟨first, m, opens, steps⟩ := early.opened versioned absent middle
        obtain ⟨later', n, found', more⟩ := late.kept versioned middle
        rw [found] at found'
        cases found'
        exact ⟨first, m + n, opens, steps.trans more⟩

theorem of_same {before after : Database}
    (same : ∀ t k, t.isVersioned = true → after.find? t k = before.find? t k)
    : Revised u before after where
  kept {t k row} versioned found := ⟨row, 0, by rw [same t k versioned, found], .refl _⟩
  opened {t k later} versioned absent found := by
    rw [same t k versioned, absent] at found
    cases found

end Revised

end WorkflowForge
