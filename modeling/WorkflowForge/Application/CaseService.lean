import WorkflowForge.Application.DocumentService
import WorkflowForge.Infrastructure.CaseRepository

/-! Case use cases. No operation rolls back by itself; an exception leaves that to the
session scope of the request.
-/

namespace WorkflowForge

open Python

structure CreateCaseCommand where
  title : Text
  summary : Option Text := none
  priority : CasePriority := .normal
  externalReference : Option Text := none
  auditContext : Option AuditRequestContext := none

structure UpdateCaseCommand where
  caseId : UUID
  lockVersion : Nat
  title : Option Text := none
  summary : Option Text := none
  priority : Option CasePriority := none
  externalReference : Option Text := none
  auditContext : Option AuditRequestContext := none

structure CaseDocumentCommand where
  caseId : UUID
  documentId : UUID
  auditContext : Option AuditRequestContext := none

structure CreateCaseCommentCommand where
  caseId : UUID
  body : Text
  auditContext : Option AuditRequestContext := none

structure CreateCaseTaskCommand where
  caseId : UUID
  title : Text
  description : Option Text := none
  assignedToUserId : Option UUID := none
  dueAt : Option Timestamp := none
  auditContext : Option AuditRequestContext := none

structure UpdateCaseTaskCommand where
  caseId : UUID
  taskId : UUID
  lockVersion : Nat
  title : Option Text := none
  description : Option Text := none
  assignedToUserId : Option UUID := none
  dueAt : Option Timestamp := none
  auditContext : Option AuditRequestContext := none

structure CompleteCaseTaskCommand where
  caseId : UUID
  taskId : UUID
  lockVersion : Nat
  auditContext : Option AuditRequestContext := none

structure CreateCaseDecisionCommand where
  caseId : UUID
  decisionType : Text
  rationale : Text
  auditContext : Option AuditRequestContext := none

structure CaseStateCommand where
  caseId : UUID
  lockVersion : Nat
  auditContext : Option AuditRequestContext := none

namespace CaseService

variable (services : Services)

/-- `_record`. -/
def recordCaseEvent (eventType : AuditEventType) (tenant : TenantContext) (targetId : UUID)
    (requestContext : Option AuditRequestContext) (now : Timestamp)
    (metadata : List (String × AuditValue))
    : App Unit :=
  recordEvent services eventType .success tenant requestContext now
    (("target_type", .text "case") :: ("target_id", .uuid targetId) :: metadata)

def create (command : CreateCaseCommand) (tenant : TenantContext) : App Case := do
  liftExcept (require tenant .caseWrite)
  let timestamp ← nowOr none
  let id ← newUuid
  let case ← liftExcept
    (Case.create services.platform.unicode id tenant.organizationId command.title
      command.summary command.priority command.externalReference tenant.userId timestamp)
  let saved ← CaseRepository.add services.platform.unicode case
  recordCaseEvent services .caseCreated tenant saved.id command.auditContext timestamp []
  commit
  return saved

def get (caseId : UUID) (tenant : TenantContext) : App Case := do
  liftExcept (require tenant .caseRead)
  match ← CaseRepository.get services.platform.unicode tenant.organizationId caseId with
  | none => throw (.caseNotFound "Case was not found.")
  | some case => return case

def listCases (tenant : TenantContext) (query : CaseListFilter) : App (ListPage Case) := do
  liftExcept (require tenant .caseRead)
  CaseRepository.listCases services.platform.unicode tenant.organizationId query

/-- `_locked_case`. -/
def lockedCase (caseId : UUID) (tenant : TenantContext) (lockVersion : Nat) : App Case := do
  match ← CaseRepository.getForUpdate services.platform.unicode tenant.organizationId
      caseId with
  | none => throw (.caseNotFound "Case was not found.")
  | some case =>
      if case.lockVersion ≠ lockVersion then
        throw (.concurrencyConflict "Case was changed by another request.")
      return case

/-- `_locked_task`. -/
def lockedTask (caseId taskId : UUID) (tenant : TenantContext) (lockVersion : Nat)
    : App CaseTask := do
  let _ ← get services caseId tenant
  match ← CaseRepository.getTaskForUpdate tenant.organizationId caseId taskId with
  | none => throw (.caseTaskNotFound "Case task was not found.")
  | some task =>
      if task.lockVersion ≠ lockVersion then
        throw (.concurrencyConflict "Case task was changed by another request.")
      return task

/-- The common end of the operations that change a case: save, record and commit. -/
def saveCase (changed : Except Exn Case) (eventType : AuditEventType) (tenant : TenantContext)
    (auditContext : Option AuditRequestContext)
    : App Case := do
  let saved ← CaseRepository.update (← liftExcept changed)
  recordCaseEvent services eventType tenant saved.id auditContext saved.updatedAt []
  commit
  return saved

def update (command : UpdateCaseCommand) (tenant : TenantContext) : App Case := do
  liftExcept (require tenant .caseWrite)
  let case ← lockedCase services command.caseId tenant command.lockVersion
  let now ← nowOr none
  saveCase services
    (case.update services.platform.unicode command.title command.summary command.priority
      command.externalReference tenant.userId now)
    .caseUpdated tenant command.auditContext

def close (command : CaseStateCommand) (tenant : TenantContext) : App Case := do
  liftExcept (require tenant .caseWrite)
  let case ← lockedCase services command.caseId tenant command.lockVersion
  let now ← nowOr none
  saveCase services (case.close services.platform.unicode tenant.userId now) .caseClosed tenant
    command.auditContext

def reopen (command : CaseStateCommand) (tenant : TenantContext) : App Case := do
  liftExcept (require tenant .caseWrite)
  let case ← lockedCase services command.caseId tenant command.lockVersion
  let now ← nowOr none
  saveCase services (case.reopen services.platform.unicode tenant.userId now) .caseReopened
    tenant command.auditContext

def archive (command : CaseStateCommand) (tenant : TenantContext) : App Case := do
  liftExcept (require tenant .caseArchive)
  let case ← lockedCase services command.caseId tenant command.lockVersion
  let now ← nowOr none
  saveCase services (case.archive services.platform.unicode tenant.userId now) .caseArchived
    tenant command.auditContext

def addDocument (command : CaseDocumentCommand) (tenant : TenantContext)
    : App CaseDocument := do
  liftExcept (require tenant .caseManageDocuments)
  let _ ← get services command.caseId tenant
  let id ← newUuid
  let addedAt ← nowOr none
  let saved ← CaseRepository.addDocument {
    id
    organizationId := tenant.organizationId
    caseId := command.caseId
    documentId := command.documentId
    addedAt
    addedByUserId := tenant.userId
  }
  recordCaseEvent services .caseDocumentAdded tenant command.caseId command.auditContext
    saved.addedAt [("document_id", .uuid command.documentId)]
  commit
  return saved

def removeDocument (command : CaseDocumentCommand) (tenant : TenantContext) : App Bool := do
  liftExcept (require tenant .caseManageDocuments)
  let _ ← get services command.caseId tenant
  let removed ←
    CaseRepository.removeDocument tenant.organizationId command.caseId command.documentId
  let now ← nowOr none
  recordCaseEvent services .caseDocumentRemoved tenant command.caseId command.auditContext now
    [("document_id", .uuid command.documentId), ("removed", .bool removed)]
  commit
  return removed

def createComment (command : CreateCaseCommentCommand) (tenant : TenantContext)
    : App CaseComment := do
  liftExcept (require tenant .caseComment)
  let _ ← get services command.caseId tenant
  let id ← newUuid
  let createdAt ← nowOr none
  let saved ← CaseRepository.addComment {
    id
    organizationId := tenant.organizationId
    caseId := command.caseId
    body := command.body
    createdAt
    createdByUserId := tenant.userId
    updatedAt := none
    updatedByUserId := none
  }
  recordCaseEvent services .caseCommentCreated tenant command.caseId command.auditContext
    saved.createdAt []
  commit
  return saved

def createTask (command : CreateCaseTaskCommand) (tenant : TenantContext)
    : App CaseTask := do
  liftExcept (require tenant .caseTask)
  let _ ← get services command.caseId tenant
  let timestamp ← nowOr none
  let id ← newUuid
  let saved ← CaseRepository.addTask {
    id
    organizationId := tenant.organizationId
    caseId := command.caseId
    title := command.title
    description := command.description
    status := .open
    assignedToUserId := command.assignedToUserId
    dueAt := command.dueAt
    completedAt := none
    completedByUserId := none
    createdAt := timestamp
    createdByUserId := tenant.userId
    updatedAt := timestamp
    updatedByUserId := tenant.userId
    lockVersion := 1
  }
  recordCaseEvent services .caseTaskCreated tenant command.caseId command.auditContext
    timestamp []
  commit
  return saved

/-- The common end of the operations that change a task. -/
def saveTask (task : CaseTask) (eventType : AuditEventType) (caseId : UUID)
    (tenant : TenantContext) (auditContext : Option AuditRequestContext)
    : App CaseTask := do
  let saved ← CaseRepository.updateTask task
  recordCaseEvent services eventType tenant caseId auditContext saved.updatedAt
    [("task_id", .uuid saved.id)]
  commit
  return saved

def updateTask (command : UpdateCaseTaskCommand) (tenant : TenantContext)
    : App CaseTask := do
  liftExcept (require tenant .caseTask)
  let task ←
    lockedTask services command.caseId command.taskId tenant command.lockVersion
  let now ← nowOr none
  saveTask services
    (task.update command.title command.description command.assignedToUserId command.dueAt
      tenant.userId now)
    .caseTaskUpdated command.caseId tenant command.auditContext

def completeTask (command : CompleteCaseTaskCommand) (tenant : TenantContext)
    : App CaseTask := do
  liftExcept (require tenant .caseTask)
  let task ←
    lockedTask services command.caseId command.taskId tenant command.lockVersion
  let now ← nowOr none
  saveTask services (task.complete tenant.userId now) .caseTaskCompleted command.caseId tenant
    command.auditContext

def createDecision (command : CreateCaseDecisionCommand) (tenant : TenantContext)
    : App CaseDecision := do
  liftExcept (require tenant .caseDecision)
  let _ ← get services command.caseId tenant
  let id ← newUuid
  let createdAt ← nowOr none
  let saved ← CaseRepository.addDecision {
    id
    organizationId := tenant.organizationId
    caseId := command.caseId
    decisionType := command.decisionType
    rationale := command.rationale
    createdAt
    createdByUserId := tenant.userId
  }
  recordCaseEvent services .caseDecisionCreated tenant command.caseId command.auditContext
    saved.createdAt []
  commit
  return saved

/-- `details`: the child records, each kind read by its own statement. -/
def details (caseId : UUID) (tenant : TenantContext)
    : App (List CaseDocument × List CaseComment × List CaseTask × List CaseDecision) := do
  let _ ← get services caseId tenant
  let documents ← CaseRepository.listDocuments tenant.organizationId caseId
  let comments ← CaseRepository.listComments tenant.organizationId caseId
  let tasks ← CaseRepository.listTasks tenant.organizationId caseId
  let decisions ← CaseRepository.listDecisions tenant.organizationId caseId
  return (documents, comments, tasks, decisions)

end CaseService

/-- The calls of the case service. -/
inductive CaseCall where
  | create (command : CreateCaseCommand)
  | get (caseId : UUID)
  | listCases (query : CaseListFilter)
  | update (command : UpdateCaseCommand)
  | addDocument (command : CaseDocumentCommand)
  | removeDocument (command : CaseDocumentCommand)
  | createComment (command : CreateCaseCommentCommand)
  | createTask (command : CreateCaseTaskCommand)
  | updateTask (command : UpdateCaseTaskCommand)
  | completeTask (command : CompleteCaseTaskCommand)
  | createDecision (command : CreateCaseDecisionCommand)
  | close (command : CaseStateCommand)
  | reopen (command : CaseStateCommand)
  | archive (command : CaseStateCommand)
  | details (caseId : UUID)

/-- What a case call returns. -/
inductive CaseReply where
  | case (value : Case)
  | cases (value : ListPage Case)
  | membership (value : CaseDocument)
  | removed (value : Bool)
  | comment (value : CaseComment)
  | task (value : CaseTask)
  | decision (value : CaseDecision)
  | details
    (value : List CaseDocument × List CaseComment × List CaseTask × List CaseDecision)
  deriving DecidableEq

/-- The use case behind a call. -/
def CaseCall.useCase (services : Services) (tenant : TenantContext) : CaseCall → App CaseReply
  | create command => do return .case (← CaseService.create services command tenant)
  | get caseId => do return .case (← CaseService.get services caseId tenant)
  | listCases query => do return .cases (← CaseService.listCases services tenant query)
  | update command => do return .case (← CaseService.update services command tenant)
  | addDocument command => do
      return .membership (← CaseService.addDocument services command tenant)
  | removeDocument command => do
      return .removed (← CaseService.removeDocument services command tenant)
  | createComment command => do
      return .comment (← CaseService.createComment services command tenant)
  | createTask command => do return .task (← CaseService.createTask services command tenant)
  | updateTask command => do return .task (← CaseService.updateTask services command tenant)
  | completeTask command => do
      return .task (← CaseService.completeTask services command tenant)
  | createDecision command => do
      return .decision (← CaseService.createDecision services command tenant)
  | close command => do return .case (← CaseService.close services command tenant)
  | reopen command => do return .case (← CaseService.reopen services command tenant)
  | archive command => do return .case (← CaseService.archive services command tenant)
  | details caseId => do return .details (← CaseService.details services caseId tenant)

end WorkflowForge
