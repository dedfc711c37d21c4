import WorkflowForge.Infrastructure.IdentityRecords

/-! The table records of batches and cases. -/

namespace WorkflowForge.Records

open Python

-----------------------------------------------------------------------------------------
-- Batches
-----------------------------------------------------------------------------------------

structure BatchRecord where
  id : UUID
  organizationId : UUID
  name : Text
  description : Option Text
  status : String
  externalReference : Option Text
  createdAt : ZonedDatetime
  createdByUserId : UUID
  updatedAt : ZonedDatetime
  updatedByUserId : UUID
  archivedAt : Option ZonedDatetime
  archivedByUserId : Option UUID
  lockVersion : Nat
  deriving DecidableEq

def batchStatusValue : BatchStatus → String
  | .open => "open"
  | .closed => "closed"
  | .archived => "archived"

/-- `BatchStatus(text)`. -/
def parseBatchStatus : String → Except RecordExn BatchStatus :=
  parseEnum .valueError "BatchStatus" batchStatusValue [.open, .closed, .archived]

/-- `_record_from_batch`. -/
def recordFromBatch (batch : Batch) : BatchRecord where
  id := batch.id
  organizationId := batch.organizationId
  name := batch.name
  description := batch.description
  status := batchStatusValue batch.status
  externalReference := batch.externalReference
  createdAt := .utc batch.createdAt
  createdByUserId := batch.createdByUserId
  updatedAt := .utc batch.updatedAt
  updatedByUserId := batch.updatedByUserId
  archivedAt := batch.archivedAt.map .utc
  archivedByUserId := batch.archivedByUserId
  lockVersion := batch.lockVersion

/-- `_batch_from_record`, which builds the `BatchId` first. -/
def batchFromRecord (u : Unicode) (record : BatchRecord) : Except RecordExn Batch := do
  raised .domain (validateBatchUuid record.id "Batch identifier")
  let status ← parseBatchStatus record.status
  raised .domain (Batch.postInit u {
    id := record.id
    organizationId := record.organizationId
    name := record.name
    description := record.description
    status
    externalReference := record.externalReference
    createdAt := record.createdAt.astimezoneUtc
    createdByUserId := record.createdByUserId
    updatedAt := record.updatedAt.astimezoneUtc
    updatedByUserId := record.updatedByUserId
    archivedAt := record.archivedAt.map ZonedDatetime.astimezoneUtc
    archivedByUserId := record.archivedByUserId
    lockVersion := record.lockVersion
  })

def BatchRecord.returned (zone : Timestamp → Int) (record : BatchRecord) : BatchRecord :=
  { record with
    createdAt := record.createdAt.returned zone
    updatedAt := record.updatedAt.returned zone
    archivedAt := record.archivedAt.map (ZonedDatetime.returned zone) }

/-- `status_valid`, `lock_version_positive` and the widths. -/
def BatchRecord.accepted (record : BatchRecord) : Bool :=
  ["open", "closed", "archived"].contains record.status
  && decide (0 < record.lockVersion)
  && within record.name 255 && record.description.all (within · 2000)
  && within record.status.toList 32 && record.externalReference.all (within · 255)

-----------------------------------------------------------------------------------------
-- Cases
-----------------------------------------------------------------------------------------

structure CaseRecord where
  id : UUID
  organizationId : UUID
  title : Text
  summary : Option Text
  status : String
  priority : String
  externalReference : Option Text
  createdAt : ZonedDatetime
  createdByUserId : UUID
  updatedAt : ZonedDatetime
  updatedByUserId : UUID
  closedAt : Option ZonedDatetime
  closedByUserId : Option UUID
  archivedAt : Option ZonedDatetime
  archivedByUserId : Option UUID
  lockVersion : Nat
  deriving DecidableEq

def caseStatusValue : CaseStatus → String
  | .open => "open"
  | .closed => "closed"
  | .archived => "archived"

def casePriorityValue : CasePriority → String
  | .low => "low"
  | .normal => "normal"
  | .high => "high"
  | .urgent => "urgent"

/-- `CaseStatus(text)`. -/
def parseCaseStatus : String → Except RecordExn CaseStatus :=
  parseEnum .valueError "CaseStatus" caseStatusValue [.open, .closed, .archived]

/-- `CasePriority(text)`. -/
def parseCasePriority : String → Except RecordExn CasePriority :=
  parseEnum .valueError "CasePriority" casePriorityValue [.low, .normal, .high, .urgent]

/-- `_case_record`. -/
def caseRecord (case : Case) : CaseRecord where
  id := case.id
  organizationId := case.organizationId
  title := case.title
  summary := case.summary
  status := caseStatusValue case.status
  priority := casePriorityValue case.priority
  externalReference := case.externalReference
  createdAt := .utc case.createdAt
  createdByUserId := case.createdByUserId
  updatedAt := .utc case.updatedAt
  updatedByUserId := case.updatedByUserId
  closedAt := case.closedAt.map .utc
  closedByUserId := case.closedByUserId
  archivedAt := case.archivedAt.map .utc
  archivedByUserId := case.archivedByUserId
  lockVersion := case.lockVersion

/-- `_case`. A `CaseId` may be nil. -/
def caseFromRecord (u : Unicode) (record : CaseRecord) : Except RecordExn Case := do
  let status ← parseCaseStatus record.status
  let priority ← parseCasePriority record.priority
  raised .domain (Case.postInit u {
    id := record.id
    organizationId := record.organizationId
    title := record.title
    summary := record.summary
    status, priority
    externalReference := record.externalReference
    createdAt := record.createdAt.astimezoneUtc
    createdByUserId := record.createdByUserId
    updatedAt := record.updatedAt.astimezoneUtc
    updatedByUserId := record.updatedByUserId
    closedAt := record.closedAt.map ZonedDatetime.astimezoneUtc
    closedByUserId := record.closedByUserId
    archivedAt := record.archivedAt.map ZonedDatetime.astimezoneUtc
    archivedByUserId := record.archivedByUserId
    lockVersion := record.lockVersion
  })

def CaseRecord.returned (zone : Timestamp → Int) (record : CaseRecord) : CaseRecord :=
  { record with
    createdAt := record.createdAt.returned zone
    updatedAt := record.updatedAt.returned zone
    closedAt := record.closedAt.map (ZonedDatetime.returned zone)
    archivedAt := record.archivedAt.map (ZonedDatetime.returned zone) }

/-- `status_valid`, `priority_valid`, `lock_version_positive` and the widths. -/
def CaseRecord.accepted (record : CaseRecord) : Bool :=
  ["open", "closed", "archived"].contains record.status
  && ["low", "normal", "high", "urgent"].contains record.priority
  && decide (0 < record.lockVersion)
  && within record.title 255 && record.summary.all (within · 4000)
  && within record.status.toList 32 && within record.priority.toList 32
  && record.externalReference.all (within · 255)

end WorkflowForge.Records
