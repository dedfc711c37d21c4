import WorkflowForge.Application.DocumentService
import WorkflowForge.Infrastructure.BatchRepository

/-! Batch use cases. -/

namespace WorkflowForge

open Python

structure CreateBatchCommand where
  name : Text
  description : Option Text := none
  externalReference : Option Text := none
  auditContext : Option AuditRequestContext := none

structure UpdateBatchCommand where
  batchId : UUID
  lockVersion : Nat
  name : Option Text := none
  description : Option Text := none
  externalReference : Option Text := none
  auditContext : Option AuditRequestContext := none

structure BatchDocumentCommand where
  batchId : UUID
  documentId : UUID
  auditContext : Option AuditRequestContext := none

structure ArchiveBatchCommand where
  batchId : UUID
  lockVersion : Nat
  auditContext : Option AuditRequestContext := none

namespace BatchService

variable (services : Services)

/-- `_record`. -/
def recordBatchEvent (eventType : AuditEventType) (tenant : TenantContext) (targetId : UUID)
    (requestContext : Option AuditRequestContext) (now : Timestamp)
    (metadata : List (String × AuditValue))
    : App Unit :=
  recordEvent services eventType .success tenant requestContext now
    (("target_type", .text "batch") :: ("target_id", .uuid targetId) :: metadata)

def create (command : CreateBatchCommand) (tenant : TenantContext) : App Batch := do
  liftExcept (require tenant .batchWrite)
  let timestamp ← nowOr none
  let id ← newUuid
  let batch ← liftExcept
    (Batch.create services.platform.unicode id tenant.organizationId command.name
      command.description command.externalReference tenant.userId timestamp)
  orRollback (do
    let saved ← BatchRepository.add services.platform.unicode batch
    recordBatchEvent services .batchCreated tenant saved.id command.auditContext timestamp []
    commit
    return saved)

def get (batchId : UUID) (tenant : TenantContext) : App Batch := do
  liftExcept (require tenant .batchRead)
  match ← BatchRepository.get services.platform.unicode tenant.organizationId batchId with
  | none => throw (.batchNotFound "Batch was not found.")
  | some batch => return batch

def listBatches (tenant : TenantContext) (query : BatchListFilter) : App (ListPage Batch) := do
  liftExcept (require tenant .batchRead)
  BatchRepository.listBatches services.platform.unicode tenant.organizationId query

/-- The locking lookup and the version check that `update` and `archive` begin with. -/
def lockedBatch (batchId : UUID) (tenant : TenantContext) (lockVersion : Nat) : App Batch := do
  match ← BatchRepository.getForUpdate services.platform.unicode tenant.organizationId
      batchId with
  | none => throw (.batchNotFound "Batch was not found.")
  | some batch =>
      if batch.lockVersion ≠ lockVersion then
        throw (.concurrencyConflict "Batch was changed by another request.")
      return batch

def update (command : UpdateBatchCommand) (tenant : TenantContext) : App Batch := do
  liftExcept (require tenant .batchWrite)
  let batch ← lockedBatch services command.batchId tenant command.lockVersion
  let now ← nowOr none
  let updated ← liftExcept
    (batch.update services.platform.unicode command.name command.description
      command.externalReference tenant.userId now)
  orRollback (do
    let saved ← BatchRepository.update updated
    recordBatchEvent services .batchUpdated tenant saved.id command.auditContext
      saved.updatedAt []
    commit
    return saved)

/-- Only a missing document leads to a rollback here. -/
def addDocument (command : BatchDocumentCommand) (tenant : TenantContext)
    : App BatchDocument := do
  liftExcept (require tenant .batchManageDocuments)
  let _ ← get services command.batchId tenant
  let id ← newUuid
  let addedAt ← nowOr none
  let membership ← liftExcept (BatchDocument.postInit {
    id
    organizationId := tenant.organizationId
    batchId := command.batchId
    documentId := command.documentId
    addedAt
    addedByUserId := tenant.userId
  })
  tryCatch (do
    let saved ← BatchRepository.addDocument membership
    recordBatchEvent services .batchDocumentAdded tenant command.batchId command.auditContext
      saved.addedAt [("document_id", .uuid command.documentId)]
    commit
    return saved)
    (fun failure =>
      match failure with
      | .documentNotFound message => do
          rollback
          throw (.documentNotFound message)
      | other => throw other)

def removeDocument (command : BatchDocumentCommand) (tenant : TenantContext)
    : App Bool := do
  liftExcept (require tenant .batchManageDocuments)
  let _ ← get services command.batchId tenant
  let removed ←
    BatchRepository.removeDocument tenant.organizationId command.batchId command.documentId
  let now ← nowOr none
  recordBatchEvent services .batchDocumentRemoved tenant command.batchId command.auditContext
    now [("document_id", .uuid command.documentId), ("removed", .bool removed)]
  commit
  return removed

def archive (command : ArchiveBatchCommand) (tenant : TenantContext) : App Batch := do
  liftExcept (require tenant .batchArchive)
  let batch ← lockedBatch services command.batchId tenant command.lockVersion
  let now ← nowOr none
  let archived ← liftExcept (batch.archive services.platform.unicode tenant.userId now)
  let saved ← BatchRepository.update archived
  recordBatchEvent services .batchArchived tenant saved.id command.auditContext
    saved.updatedAt []
  commit
  return saved

def listDocuments (batchId : UUID) (tenant : TenantContext) : App (List BatchDocument) := do
  let _ ← get services batchId tenant
  BatchRepository.listDocuments tenant.organizationId batchId

end BatchService

/-- The calls of the batch service. -/
inductive BatchCall where
  | create (command : CreateBatchCommand)
  | get (batchId : UUID)
  | listBatches (query : BatchListFilter)
  | update (command : UpdateBatchCommand)
  | addDocument (command : BatchDocumentCommand)
  | removeDocument (command : BatchDocumentCommand)
  | archive (command : ArchiveBatchCommand)
  | listDocuments (batchId : UUID)

/-- What a batch call returns. -/
inductive BatchReply where
  | batch (value : Batch)
  | batches (value : ListPage Batch)
  | membership (value : BatchDocument)
  | memberships (value : List BatchDocument)
  | removed (value : Bool)
  deriving DecidableEq

/-- The use case behind a call. -/
def BatchCall.useCase (services : Services) (tenant : TenantContext) : BatchCall → App BatchReply
  | create command => do return .batch (← BatchService.create services command tenant)
  | get batchId => do return .batch (← BatchService.get services batchId tenant)
  | listBatches query => do
      return .batches (← BatchService.listBatches services tenant query)
  | update command => do return .batch (← BatchService.update services command tenant)
  | addDocument command => do
      return .membership (← BatchService.addDocument services command tenant)
  | removeDocument command => do
      return .removed (← BatchService.removeDocument services command tenant)
  | archive command => do return .batch (← BatchService.archive services command tenant)
  | listDocuments batchId => do
      return .memberships (← BatchService.listDocuments services batchId tenant)

end WorkflowForge
