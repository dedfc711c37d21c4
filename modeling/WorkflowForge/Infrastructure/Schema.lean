import WorkflowForge.Domain.Audit
import WorkflowForge.Domain.Cases
import WorkflowForge.Transactions.Store

/-! The PostgreSQL schema of documents, uploads, batches, cases and audit events.
Rows carry the columns of their ORM records. Aggregates whose record has exactly the fields
of the domain value reuse its structure; users and organizations are known by id only.
-/

namespace WorkflowForge

open Python Transactions

inductive UploadIdempotencyStatus where
  | inProgress
  | completed
  | failed
  deriving DecidableEq, Repr

inductive UploadDocumentOutcome where
  | created
  | duplicate
  | idempotentReplay
  deriving DecidableEq, Repr

structure DocumentVersionRecord where
  id : UUID
  organizationId : UUID
  documentId : UUID
  versionNumber : Nat
  originalFilename : Text
  mediaType : Text
  byteSize : Int
  contentHash : Text
  storageObjectKey : Text
  storageState : DocumentStorageState
  createdAt : Timestamp
  createdByUserId : UUID
  deriving DecidableEq

structure UploadIdempotencyRecord where
  id : UUID
  organizationId : UUID
  idempotencyKey : Text
  requestFingerprint : Option Text
  status : UploadIdempotencyStatus
  documentId : Option UUID
  documentVersionId : Option UUID
  responseStatus : Option Nat
  outcome : Option UploadDocumentOutcome
  errorCode : Option String
  retryable : Bool
  createdAt : Timestamp
  updatedAt : Timestamp
  expiresAt : Timestamp
  deriving DecidableEq

structure DocumentArtifactRecord where
  id : UUID
  organizationId : UUID
  documentId : UUID
  documentVersionId : Option UUID
  artifactType : DocumentArtifactType
  mediaType : Text
  byteSize : Int
  contentHash : Option Text
  storageObjectKey : Text
  metadata : List (Text × MetadataValue)
  createdAt : Timestamp
  createdByUserId : UUID
  deriving DecidableEq

inductive TableName where
  | users
  | organizations
  | documents
  | documentVersions
  | documentArtifacts
  | uploadIdempotency
  | batches
  | batchDocuments
  | cases
  | caseDocuments
  | caseComments
  | caseTasks
  | caseDecisions
  | securityAuditEvents
  deriving DecidableEq, Repr

abbrev TableRow : TableName → Type
  | .users => UUID
  | .organizations => UUID
  | .documents => Document
  | .documentVersions => DocumentVersionRecord
  | .documentArtifacts => DocumentArtifactRecord
  | .uploadIdempotency => UploadIdempotencyRecord
  | .batches => Batch
  | .batchDocuments => BatchDocument
  | .cases => Case
  | .caseDocuments => CaseDocument
  | .caseComments => CaseComment
  | .caseTasks => CaseTask
  | .caseDecisions => CaseDecision
  | .securityAuditEvents => AuditEvent

def primaryKey : (t : TableName) → TableRow t → UUID
  | .users, row => row
  | .organizations, row => row
  | .documents, row => row.id
  | .documentVersions, row => row.id
  | .documentArtifacts, row => row.id
  | .uploadIdempotency, row => row.id
  | .batches, row => row.id
  | .batchDocuments, row => row.id
  | .cases, row => row.id
  | .caseDocuments, row => row.id
  | .caseComments, row => row.id
  | .caseTasks, row => row.id
  | .caseDecisions, row => row.id
  | .securityAuditEvents, row => row.id

/-- The unique constraints besides the primary keys. -/
def uniqueClash : (t : TableName) → TableRow t → TableRow t → Bool
  | .documentVersions, first, second =>
      (first.documentId == second.documentId && first.versionNumber == second.versionNumber)
      || (first.organizationId == second.organizationId
          && first.contentHash == second.contentHash)
      || (first.organizationId == second.organizationId
          && first.storageObjectKey == second.storageObjectKey)
  | .documentArtifacts, first, second =>
      first.organizationId == second.organizationId
      && first.storageObjectKey == second.storageObjectKey
  | .uploadIdempotency, first, second =>
      first.organizationId == second.organizationId
      && first.idempotencyKey == second.idempotencyKey
  | .batchDocuments, first, second =>
      first.batchId == second.batchId && first.documentId == second.documentId
  | .caseDocuments, first, second =>
      first.caseId == second.caseId && first.documentId == second.documentId
  | _, _, _ => false

abbrev Rows := (t : TableName) → List (TableRow t)

/-- References checked by foreign keys. -/
def hasUser (db : Rows) (user : UUID) : Bool := (db .users).contains user

def hasOrganization (db : Rows) (organization : UUID) : Bool :=
  (db .organizations).contains organization

def hasDocument (db : Rows) (organization document : UUID) : Bool :=
  (db .documents).any (fun row => row.organizationId == organization && row.id == document)

def hasVersion (db : Rows) (organization version : UUID) : Bool :=
  (db .documentVersions).any (fun row => row.organizationId == organization && row.id == version)

def hasBatch (db : Rows) (organization batch : UUID) : Bool :=
  (db .batches).any (fun row => row.organizationId == organization && row.id == batch)

def hasCase (db : Rows) (organization case : UUID) : Bool :=
  (db .cases).any (fun row => row.organizationId == organization && row.id == case)

/-- Foreign keys and CHECK constraints of one row. The two deferred keys between a document
and its current version are left out of the statement-time check on documents. -/
def rowSound (db : Rows) : (t : TableName) → TableRow t → Bool
  | .users, _ => true
  | .organizations, _ => true
  | .documents, row =>
      hasOrganization db row.organizationId && hasUser db row.createdByUserId
      && hasUser db row.updatedByUserId && row.archivedByUserId.all (hasUser db)
      && decide (0 < row.lockVersion)
      && (if row.status = .archived then
            row.archivedAt.isSome && row.archivedByUserId.isSome
          else row.archivedAt.isNone && row.archivedByUserId.isNone)
  | .documentVersions, row =>
      hasOrganization db row.organizationId && hasUser db row.createdByUserId
      && hasDocument db row.organizationId row.documentId && decide (0 < row.versionNumber)
      && decide (0 ≤ row.byteSize)
  | .documentArtifacts, row =>
      hasOrganization db row.organizationId && hasUser db row.createdByUserId
      && hasDocument db row.organizationId row.documentId
      && row.documentVersionId.all (hasVersion db row.organizationId)
      && decide (0 ≤ row.byteSize)
  | .uploadIdempotency, row =>
      hasOrganization db row.organizationId
      && row.documentId.all (hasDocument db row.organizationId)
      && row.documentVersionId.all (hasVersion db row.organizationId)
      && row.responseStatus.all (fun status => decide (100 ≤ status))
  | .batches, row =>
      hasOrganization db row.organizationId && hasUser db row.createdByUserId
      && hasUser db row.updatedByUserId && row.archivedByUserId.all (hasUser db)
      && decide (0 < row.lockVersion)
  | .batchDocuments, row =>
      hasOrganization db row.organizationId && hasBatch db row.organizationId row.batchId
      && hasDocument db row.organizationId row.documentId && hasUser db row.addedByUserId
  | .cases, row =>
      hasOrganization db row.organizationId && hasUser db row.createdByUserId
      && hasUser db row.updatedByUserId && row.closedByUserId.all (hasUser db)
      && row.archivedByUserId.all (hasUser db) && decide (0 < row.lockVersion)
  | .caseDocuments, row =>
      hasCase db row.organizationId row.caseId
      && hasDocument db row.organizationId row.documentId && hasUser db row.addedByUserId
  | .caseComments, row =>
      hasCase db row.organizationId row.caseId && hasUser db row.createdByUserId
      && row.updatedByUserId.all (hasUser db)
  | .caseTasks, row =>
      hasCase db row.organizationId row.caseId && row.assignedToUserId.all (hasUser db)
      && row.completedByUserId.all (hasUser db) && hasUser db row.createdByUserId
      && hasUser db row.updatedByUserId && decide (0 < row.lockVersion)
  | .caseDecisions, row =>
      hasCase db row.organizationId row.caseId && hasUser db row.createdByUserId
  | .securityAuditEvents, row =>
      hasUser db row.actorUserId && hasOrganization db row.organizationId

def within (text : Text) (width : Nat) : Bool := decide (text.length ≤ width)

/-- The range of INTEGER. -/
def integer (value : Nat) : Bool := decide (value < 2 ^ 31)

/-- The range of BIGINT. -/
def bigint (value : Int) : Bool := decide (-2 ^ 63 ≤ value) && decide (value < 2 ^ 63)

/-- JSONB knows no U+0000 in a string, no NaN and no infinity. -/
def jsonbValue : MetadataValue → Bool
  | .scalar repr => !(["NaN".toList, "Infinity".toList, "-Infinity".toList].contains repr)
  | .text value => !value.any (· == '\x00')
  | _ => true

def jsonb (metadata : List (Text × MetadataValue)) : Bool :=
  metadata.all (fun entry => !entry.1.any (· == '\x00') && jsonbValue entry.2)

/-- The widths of the VARCHAR columns, the ranges of the integers and what JSONB takes. The
metadata of audit events consists of identifiers, numbers and texts of the services. -/
def rowFits : (t : TableName) → TableRow t → Bool
  | .documents, row =>
      within row.displayFilename 255 && row.sourceReference.all (within · 512)
      && integer row.lockVersion
  | .documentVersions, row =>
      within row.originalFilename 255 && within row.mediaType 255 && within row.contentHash 64
      && within row.storageObjectKey 255 && integer row.versionNumber && bigint row.byteSize
  | .documentArtifacts, row =>
      within row.mediaType 255 && row.contentHash.all (within · 64)
      && within row.storageObjectKey 255 && bigint row.byteSize && jsonb row.metadata
  | .uploadIdempotency, row =>
      within row.idempotencyKey 128 && row.requestFingerprint.all (within · 64)
      && row.errorCode.all (fun code => decide (code.length ≤ 64))
      && row.responseStatus.all integer
  | .batches, row =>
      within row.name 255 && row.description.all (within · 2000)
      && row.externalReference.all (within · 255) && integer row.lockVersion
  | .cases, row =>
      within row.title 255 && row.summary.all (within · 4000)
      && row.externalReference.all (within · 255) && integer row.lockVersion
  | .caseComments, row => within row.body 4000
  | .caseTasks, row =>
      within row.title 255 && row.description.all (within · 2000) && integer row.lockVersion
  | .caseDecisions, row => within row.decisionType 255 && within row.rationale 4000
  | _, _ => true

def toUsers (ids : List UUID) : List (TableName × UUID) := ids.map (Prod.mk .users)

/-- The rows that a row refers to. The keys between a document and its versions are deferred,
so they lock nothing before the commit. -/
def rowParents : (t : TableName) → TableRow t → List (TableName × UUID)
  | .users, _ => []
  | .organizations, _ => []
  | .documents, row =>
      (.organizations, row.organizationId)
      :: toUsers (row.createdByUserId :: row.updatedByUserId :: row.archivedByUserId.toList)
  | .documentVersions, row =>
      (.organizations, row.organizationId) :: toUsers [row.createdByUserId]
  | .documentArtifacts, row =>
      (.organizations, row.organizationId) :: (.documents, row.documentId)
      :: row.documentVersionId.toList.map (Prod.mk .documentVersions)
      ++ toUsers [row.createdByUserId]
  | .uploadIdempotency, row =>
      (.organizations, row.organizationId) :: row.documentId.toList.map (Prod.mk .documents)
      ++ row.documentVersionId.toList.map (Prod.mk .documentVersions)
  | .batches, row =>
      (.organizations, row.organizationId)
      :: toUsers (row.createdByUserId :: row.updatedByUserId :: row.archivedByUserId.toList)
  | .batchDocuments, row =>
      (.organizations, row.organizationId) :: (.batches, row.batchId)
      :: (.documents, row.documentId) :: toUsers [row.addedByUserId]
  | .cases, row =>
      (.organizations, row.organizationId)
      :: toUsers (row.createdByUserId :: row.updatedByUserId :: row.closedByUserId.toList
        ++ row.archivedByUserId.toList)
  | .caseDocuments, row =>
      (.cases, row.caseId) :: (.documents, row.documentId) :: toUsers [row.addedByUserId]
  | .caseComments, row =>
      (.cases, row.caseId) :: toUsers (row.createdByUserId :: row.updatedByUserId.toList)
  | .caseTasks, row =>
      (.cases, row.caseId)
      :: toUsers (row.assignedToUserId.toList ++ row.completedByUserId.toList
        ++ [row.createdByUserId, row.updatedByUserId])
  | .caseDecisions, row => (.cases, row.caseId) :: toUsers [row.createdByUserId]
  | .securityAuditEvents, row =>
      (.organizations, row.organizationId) :: toUsers [row.actorUserId]

/-- What the SELECT statements of the repositories ask for. -/
inductive Query where
  | document (organizationId documentId : UUID)
  | documentByContentHash (organizationId : UUID) (contentHash : ContentHash)
  | documentVersion (organizationId documentId versionId : UUID)
  | documentVersions (organizationId documentId : UUID)
  | uploadIdempotency (organizationId : UUID) (idempotencyKey : Text)
  | documents (organizationId : UUID)
  | documentArtifact (organizationId documentId artifactId : UUID)
  | documentArtifacts (organizationId documentId : UUID)
  | batch (organizationId batchId : UUID)
  | batches (organizationId : UUID)
  | batchDocument (organizationId batchId documentId : UUID)
  | batchDocuments (organizationId batchId : UUID)
  | case (organizationId caseId : UUID)
  | cases (organizationId : UUID)
  | caseDocument (organizationId caseId documentId : UUID)
  | caseDocuments (organizationId caseId : UUID)
  | caseComments (organizationId caseId : UUID)
  | caseTasks (organizationId caseId : UUID)
  | caseDecisions (organizationId caseId : UUID)

/-- The schema as the transactional store sees it. -/
abbrev schema : Schema where
  Table := TableName
  Row := TableRow
  Key := UUID
  Query := Query
  decTable := inferInstance
  decKey := inferInstance
  key := primaryKey
  clash := uniqueClash
  sound := rowSound
  fits := rowFits
  parents := rowParents

abbrev Database := Db schema

end WorkflowForge
