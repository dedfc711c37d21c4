import WorkflowForge.Domain.Batches

/-! The case domain model: cases, their tasks and their child records. -/

namespace WorkflowForge

open Python

inductive CaseStatus where
  | open
  | closed
  | archived
  deriving DecidableEq, Repr

inductive CasePriority where
  | low
  | normal
  | high
  | urgent
  deriving DecidableEq, Repr

inductive CaseTaskStatus where
  | open
  | completed
  | cancelled
  deriving DecidableEq, Repr

/-- `_validate_uuid` of the case module. -/
def validateCaseUuid (value : UUID) (fieldName : String) : Except Exn Unit :=
  if value = 0 then .error (.caseError (fieldName ++ " must not be the nil UUID."))
  else .ok ()

structure Case where
  id : UUID
  organizationId : UUID
  title : Text
  summary : Option Text
  status : CaseStatus
  priority : CasePriority
  externalReference : Option Text
  createdAt : Timestamp
  createdByUserId : UUID
  updatedAt : Timestamp
  updatedByUserId : UUID
  closedAt : Option Timestamp
  closedByUserId : Option UUID
  archivedAt : Option Timestamp
  archivedByUserId : Option UUID
  lockVersion : Nat
  deriving DecidableEq

def Case.postInit (u : Unicode) (self : Case) : Except Exn Case := do
  validateCaseUuid self.organizationId "Case organization identifier"
  let title ← requiredText u .caseError self.title "Case title" 255
  let summary ← boundedText u .caseError self.summary "Case summary" 4000 true
  let externalReference ←
    boundedText u .caseError self.externalReference "Case external reference" 255 true
  if self.lockVersion ≤ 0 then
    throw (.caseError "Case lock version must be positive.")
  return { self with title, summary, externalReference }

/-- `Case.create`. -/
def Case.create (u : Unicode) (id organizationId : UUID) (title : Text)
    (summary : Option Text) (priority : CasePriority) (externalReference : Option Text)
    (createdByUserId : UUID) (timestamp : Timestamp)
    : Except Exn Case :=
  Case.postInit u {
    id, organizationId, title, summary
    status := .open
    priority
    externalReference
    createdAt := timestamp
    createdByUserId
    updatedAt := timestamp
    updatedByUserId := createdByUserId
    closedAt := none
    closedByUserId := none
    archivedAt := none
    archivedByUserId := none
    lockVersion := 1
  }

/-- `_ensure_mutable`. -/
def Case.ensureMutable (self : Case) : Except Exn Unit :=
  if self.status = .archived then
    .error (.caseError "Archived cases reject ordinary mutation.")
  else .ok ()

def Case.update (u : Unicode) (self : Case) (title summary : Option Text)
    (priority : Option CasePriority) (externalReference : Option Text) (actorUserId : UUID)
    (timestamp : Timestamp)
    : Except Exn Case := do
  self.ensureMutable
  Case.postInit u {
    self with
    title := title.getD self.title
    summary
    priority := priority.getD self.priority
    externalReference
    updatedAt := timestamp
    updatedByUserId := actorUserId
    lockVersion := self.lockVersion + 1
  }

def Case.close (u : Unicode) (self : Case) (actorUserId : UUID) (timestamp : Timestamp)
    : Except Exn Case := do
  self.ensureMutable
  Case.postInit u {
    self with
    status := .closed
    closedAt := some timestamp
    closedByUserId := some actorUserId
    updatedAt := timestamp
    updatedByUserId := actorUserId
    lockVersion := self.lockVersion + 1
  }

def Case.reopen (u : Unicode) (self : Case) (actorUserId : UUID) (timestamp : Timestamp)
    : Except Exn Case := do
  if self.status = .archived then
    throw (.caseError "Archived cases cannot be reopened.")
  Case.postInit u {
    self with
    status := .open
    closedAt := none
    closedByUserId := none
    updatedAt := timestamp
    updatedByUserId := actorUserId
    lockVersion := self.lockVersion + 1
  }

/-- `Case.archive`. Unlike the other transitions it does not ask for a mutable case. -/
def Case.archive (u : Unicode) (self : Case) (actorUserId : UUID) (timestamp : Timestamp)
    : Except Exn Case :=
  Case.postInit u {
    self with
    status := .archived
    archivedAt := some timestamp
    archivedByUserId := some actorUserId
    updatedAt := timestamp
    updatedByUserId := actorUserId
    lockVersion := self.lockVersion + 1
  }

structure CaseDocument where
  id : UUID
  organizationId : UUID
  caseId : UUID
  documentId : UUID
  addedAt : Timestamp
  addedByUserId : UUID
  deriving DecidableEq

structure CaseComment where
  id : UUID
  organizationId : UUID
  caseId : UUID
  body : Text
  createdAt : Timestamp
  createdByUserId : UUID
  updatedAt : Option Timestamp
  updatedByUserId : Option UUID
  deriving DecidableEq

structure CaseTask where
  id : UUID
  organizationId : UUID
  caseId : UUID
  title : Text
  description : Option Text
  status : CaseTaskStatus
  assignedToUserId : Option UUID
  dueAt : Option Timestamp
  completedAt : Option Timestamp
  completedByUserId : Option UUID
  createdAt : Timestamp
  createdByUserId : UUID
  updatedAt : Timestamp
  updatedByUserId : UUID
  lockVersion : Nat
  deriving DecidableEq

def CaseTask.update (self : CaseTask) (title description : Option Text)
    (assignedToUserId : Option UUID) (dueAt : Option Timestamp) (actorUserId : UUID)
    (timestamp : Timestamp)
    : CaseTask :=
  { self with
    title := title.getD self.title
    description
    assignedToUserId
    dueAt
    updatedAt := timestamp
    updatedByUserId := actorUserId
    lockVersion := self.lockVersion + 1 }

def CaseTask.complete (self : CaseTask) (actorUserId : UUID) (timestamp : Timestamp)
    : CaseTask :=
  { self with
    status := .completed
    completedAt := some timestamp
    completedByUserId := some actorUserId
    updatedAt := timestamp
    updatedByUserId := actorUserId
    lockVersion := self.lockVersion + 1 }

structure CaseDecision where
  id : UUID
  organizationId : UUID
  caseId : UUID
  decisionType : Text
  rationale : Text
  createdAt : Timestamp
  createdByUserId : UUID
  deriving DecidableEq

end WorkflowForge
