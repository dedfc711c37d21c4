import WorkflowForge.Infrastructure.Listing

/-! The SQLAlchemy repositories for documents, upload idempotency and audit events.
Every method is a port method; a flush is the INSERT or UPDATE statements it emits. Rows are
turned back into domain values through their constructors, which validate again.
-/

namespace WorkflowForge

open Python Transactions

/-- `scalar_one_or_none`. -/
def scalarOneOrNone {α : Type} : List α → App (Option α)
  | [] => return none
  | [row] => return some row
  | _ :: _ :: _ => throw .multipleResultsFound

/-- `_record_from_version`. -/
def recordFromVersion (version : DocumentVersion) : DocumentVersionRecord where
  id := version.id
  organizationId := version.organizationId
  documentId := version.documentId
  versionNumber := version.versionNumber
  originalFilename := version.originalFilename
  mediaType := version.mediaType
  byteSize := version.byteSize
  contentHash := version.contentHash.value
  storageObjectKey := version.storageObjectKey.value
  storageState := version.storageState
  createdAt := version.createdAt
  createdByUserId := version.createdByUserId

/-- `_version_from_record`. -/
def versionFromRecord (u : Unicode) (record : DocumentVersionRecord)
    : Except Exn DocumentVersion := do
  let contentHash ← ContentHash.parse u record.contentHash
  let storageObjectKey ← StorageObjectKey.parse record.storageObjectKey
  DocumentVersion.postInit u {
    id := record.id
    organizationId := record.organizationId
    documentId := record.documentId
    versionNumber := record.versionNumber
    originalFilename := record.originalFilename
    mediaType := record.mediaType
    byteSize := record.byteSize
    contentHash, storageObjectKey
    storageState := record.storageState
    createdAt := record.createdAt
    createdByUserId := record.createdByUserId
  }

/-- `_document_from_record`. -/
def documentFromRecord (u : Unicode) (record : Document) : Except Exn Document :=
  Document.postInit u record

/-- `_record_from_artifact`. -/
def recordFromArtifact (artifact : DocumentArtifact) : DocumentArtifactRecord where
  id := artifact.id
  organizationId := artifact.organizationId
  documentId := artifact.documentId
  documentVersionId := artifact.documentVersionId
  artifactType := artifact.artifactType
  mediaType := artifact.mediaType
  byteSize := artifact.byteSize
  contentHash := artifact.contentHash.map ContentHash.value
  storageObjectKey := artifact.storageObjectKey.value
  metadata := artifact.metadata
  createdAt := artifact.createdAt
  createdByUserId := artifact.createdByUserId

/-- `ContentHash(value) if value is not None else None`. -/
def parseOptionalHash (u : Unicode) : Option Text → Except Exn (Option ContentHash)
  | none => .ok none
  | some value => do return some (← ContentHash.parse u value)

/-- `_artifact_from_record`. -/
def artifactFromRecord (u : Unicode) (record : DocumentArtifactRecord)
    : Except Exn DocumentArtifact := do
  let contentHash ← parseOptionalHash u record.contentHash
  let storageObjectKey ← StorageObjectKey.parse record.storageObjectKey
  DocumentArtifact.create u {
    id := record.id
    organizationId := record.organizationId
    documentId := record.documentId
    documentVersionId := record.documentVersionId
    artifactType := record.artifactType
    mediaType := record.mediaType
    byteSize := record.byteSize
    contentHash, storageObjectKey
    metadata := record.metadata
    createdAt := record.createdAt
    createdByUserId := record.createdByUserId
  }

/-- The rows that a SELECT by primary key and organization finds. -/
def documentRecord (db : Database) (organizationId documentId : UUID) : Option Document :=
  (db.find? .documents documentId).filter (fun row => row.organizationId == organizationId)

/-- `_version_record`. -/
def versionRecord (db : Database) (organizationId documentId versionId : UUID)
    : Option DocumentVersionRecord :=
  (db.find? .documentVersions versionId).filter (fun row =>
    row.organizationId == organizationId && row.documentId == documentId)

/-- The join of documents with their current versions on tenant and content hash. -/
def documentsByContentHash (db : Database) (organizationId : UUID) (contentHash : ContentHash)
    : List Document :=
  (db .documents).filter (fun row =>
    row.organizationId == organizationId
    && (db .documentVersions).any (fun version =>
        version.id == row.currentVersionId && version.organizationId == organizationId
        && version.contentHash == contentHash.value))

/-- The versions of a document ordered by version number. -/
def versionsOf (db : Database) (organizationId documentId : UUID)
    : List DocumentVersionRecord :=
  ((db .documentVersions).filter (fun row =>
    row.organizationId == organizationId && row.documentId == documentId)).mergeSort
      (fun first second => first.versionNumber ≤ second.versionNumber)

/-- The row that `get_artifact` selects. -/
def artifactRecord (db : Database) (organizationId documentId artifactId : UUID)
    : Option DocumentArtifactRecord :=
  (db.find? .documentArtifacts artifactId).filter (fun row =>
    row.organizationId == organizationId && row.documentId == documentId)

/-- The artifacts of a document, newest first. -/
def artifactsOf (db : Database) (organizationId documentId : UUID)
    : List DocumentArtifactRecord :=
  newestFirst DocumentArtifactRecord.createdAt DocumentArtifactRecord.id
    ((db .documentArtifacts).filter (fun row =>
      row.organizationId == organizationId && row.documentId == documentId))

structure DocumentListFilter where
  limit : Int := 25
  offset : Int := 0
  status : Option DocumentStatus := none
  archived : Option Bool := none
  sourceType : Option DocumentSourceType := none
  mediaType : Option Text := none
  createdFrom : Option Timestamp := none
  createdTo : Option Timestamp := none
  filename : Option Text := none

structure DocumentProjection where
  id : UUID
  organizationId : UUID
  displayFilename : Text
  sourceType : DocumentSourceType
  status : DocumentStatus
  currentVersionId : UUID
  mediaType : Text
  byteSize : Int
  storageState : DocumentStorageState
  createdAt : Timestamp
  updatedAt : Timestamp
  lockVersion : Nat
  deriving DecidableEq

/-- `_projection_from_record`. -/
def projectionFromRecord (record : Document) (version : DocumentVersionRecord)
    : DocumentProjection where
  id := record.id
  organizationId := record.organizationId
  displayFilename := record.displayFilename
  sourceType := record.sourceType
  status := record.status
  currentVersionId := record.currentVersionId
  mediaType := version.mediaType
  byteSize := version.byteSize
  storageState := version.storageState
  createdAt := record.createdAt
  updatedAt := record.updatedAt
  lockVersion := record.lockVersion

/-- The conditions of `list_documents` besides the tenant and the join. -/
def DocumentListFilter.accepts (u : Unicode) (query : DocumentListFilter) (record : Document)
    (version : DocumentVersionRecord)
    : Bool :=
  statusMatches .archived query.status query.archived record.status
  && query.sourceType.all (· == record.sourceType)
  && query.mediaType.all (· == version.mediaType)
  && query.createdFrom.all (· ≤ record.createdAt)
  && query.createdTo.all (record.createdAt ≤ ·)
  && query.filename.all (containsIlike u record.displayFilename)

/-- The listed documents with their current versions, newest first. -/
def listedDocuments (u : Unicode) (db : Database) (organizationId : UUID)
    (query : DocumentListFilter)
    : List (Document × DocumentVersionRecord) :=
  newestFirst (fun entry => entry.1.createdAt) (fun entry => entry.1.id)
    (((db .documents).filter (fun row => row.organizationId == organizationId)).flatMap
      (fun row =>
        (((db .documentVersions).filter (fun version =>
            version.organizationId == organizationId)).filter (fun version =>
          row.currentVersionId == version.id && query.accepts u row version)).map
          (fun version => (row, version))))

/-- `flush` inside `try … except IntegrityError`, as adding content does it. -/
def orDuplicateContent (flush : App Unit) : App Unit :=
  tryCatch flush (fun failure =>
    match failure with
    | .integrityError => do
        sessionRollback
        throw (.duplicateDocumentContent
          "Document content is already registered for this tenant.")
    | other => throw other)

namespace DocumentRepository

variable (u : Unicode)

def addDocument (document : Document) (version : DocumentVersion) : App Document := do
  enter .addDocument
  orDuplicateContent (do
    insert .documents document
    insert .documentVersions (recordFromVersion version))
  liftExcept (documentFromRecord u document)

/-- The row of a lookup as a domain value. -/
def loaded : Option Document → App (Option Document)
  | none => return none
  | some record => return some (← liftExcept (documentFromRecord u record))

def getDocument (organizationId documentId : UUID) : App (Option Document) := do
  enter .getDocument
  let db ← select (.document organizationId documentId)
  loaded u (documentRecord db organizationId documentId)

def getDocumentForUpdate (organizationId documentId : UUID) : App (Option Document) := do
  enter .getDocumentForUpdate
  let db ←
    selectForUpdate .documents documentId (fun row => row.organizationId == organizationId)
  loaded u (documentRecord db organizationId documentId)

def findDocumentByTenantContentHash (organizationId : UUID) (contentHash : ContentHash)
    : App (Option Document) := do
  enter .findDocumentByTenantContentHash
  let db ← select (.documentByContentHash organizationId contentHash)
  loaded u (← scalarOneOrNone (documentsByContentHash db organizationId contentHash))

/-- `_persist_document_state`: compare-and-swap on the lock version. The row count of the
UPDATE is not looked at. -/
def persistDocumentState (document : Document) : App Unit := do
  let _ ← update .documents document.id (fun row =>
    if row.organizationId = document.organizationId
        ∧ row.lockVersion + 1 = document.lockVersion then
      some {
        row with
        displayFilename := document.displayFilename
        sourceType := document.sourceType
        sourceReference := document.sourceReference
        status := document.status
        currentVersionId := document.currentVersionId
        archivedAt := document.archivedAt
        archivedByUserId := document.archivedByUserId
        updatedAt := document.updatedAt
        updatedByUserId := document.updatedByUserId
        lockVersion := document.lockVersion
      }
    else none)

def archiveDocument (document : Document) : App Document := do
  enter .archiveDocument
  persistDocumentState document
  return document

def addVersion (version : DocumentVersion) : App DocumentVersion := do
  enter .addVersion
  orDuplicateContent (insert .documentVersions (recordFromVersion version))
  liftExcept (versionFromRecord u (recordFromVersion version))

def getVersion (organizationId documentId versionId : UUID) : App (Option DocumentVersion) := do
  enter .getVersion
  let db ← select (.documentVersion organizationId documentId versionId)
  match versionRecord db organizationId documentId versionId with
  | none => return none
  | some record => return some (← liftExcept (versionFromRecord u record))

def listVersions (organizationId documentId : UUID) : App (List DocumentVersion) := do
  enter .listVersions
  let db ← select (.documentVersions organizationId documentId)
  liftExcept ((versionsOf db organizationId documentId).mapM (versionFromRecord u))

def listArtifacts (organizationId documentId : UUID) : App (List DocumentArtifact) := do
  enter .listArtifacts
  let db ← select (.documentArtifacts organizationId documentId)
  liftExcept ((artifactsOf db organizationId documentId).mapM (artifactFromRecord u))

/-- The total is counted by a SELECT of its own. -/
def listDocuments (organizationId : UUID) (query : DocumentListFilter)
    : App (ListPage DocumentProjection) := do
  enter .listDocuments
  let counted ← select (.documents organizationId)
  let total := (listedDocuments u counted organizationId query).length
  let db ← select (.documents organizationId)
  let rows ←
    liftExcept (page query.limit query.offset (listedDocuments u db organizationId query))
  return {
    items := rows.map (fun entry => projectionFromRecord entry.1 entry.2)
    total
    limit := query.limit
    offset := query.offset
  }

def addArtifact (artifact : DocumentArtifact) : App DocumentArtifact := do
  enter .addArtifact
  insert .documentArtifacts (recordFromArtifact artifact)
  liftExcept (artifactFromRecord u (recordFromArtifact artifact))

def getArtifact (organizationId documentId artifactId : UUID)
    : App (Option DocumentArtifact) := do
  enter .getArtifact
  let db ← select (.documentArtifact organizationId documentId artifactId)
  match artifactRecord db organizationId documentId artifactId with
  | none => return none
  | some record => return some (← liftExcept (artifactFromRecord u record))

def setCurrentVersion (document : Document) (version : DocumentVersion) : App Document := do
  enter .setCurrentVersion
  if version.organizationId ≠ document.organizationId ∨ version.documentId ≠ document.id then
    throw (.valueError "Current version must match document tenant and ID.")
  persistDocumentState document
  return document

/-- `_mark_version_storage_state`. -/
def markVersionStorageState (organizationId documentId versionId : UUID)
    (storageState : DocumentStorageState)
    : App DocumentVersion := do
  let db ← select (.documentVersion organizationId documentId versionId)
  match versionRecord db organizationId documentId versionId with
  | none => throw (.valueError "Document version does not exist.")
  | some record =>
      let _ ← update .documentVersions record.id (fun row => some { row with storageState })
      liftExcept (versionFromRecord u { record with storageState })

def markVersionStored (organizationId documentId versionId : UUID) : App DocumentVersion := do
  enter .markVersionStored
  markVersionStorageState u organizationId documentId versionId .stored

def markVersionFailed (organizationId documentId versionId : UUID) : App DocumentVersion := do
  enter .markVersionFailed
  markVersionStorageState u organizationId documentId versionId .failed

end DocumentRepository

/-- The record that a SELECT by tenant and key finds; the pair is unique. -/
def idempotencyRecords (db : Database) (organizationId : UUID) (idempotencyKey : Text)
    : List UploadIdempotencyRecord :=
  (db .uploadIdempotency).filter (fun row =>
    row.organizationId == organizationId && row.idempotencyKey == idempotencyKey)

namespace UploadIdempotencyRepository

/-- `_record`. -/
def record (organizationId : UUID) (idempotencyKey : Text)
    : App (Option UploadIdempotencyRecord) := do
  let db ← select (.uploadIdempotency organizationId idempotencyKey)
  scalarOneOrNone (idempotencyRecords db organizationId idempotencyKey)

/-- `_required_record`. -/
def requiredRecord (organizationId : UUID) (idempotencyKey : Text)
    : App UploadIdempotencyRecord := do
  match ← record organizationId idempotencyKey with
  | none => throw (.valueError "Upload idempotency record does not exist.")
  | some row => return row

def get (organizationId : UUID) (idempotencyKey : Text)
    : App (Option UploadIdempotencyRecord) := do
  enter .idempotencyGet
  record organizationId idempotencyKey

/-- The record that `reserve` inserts. -/
def reservation (id organizationId : UUID) (idempotencyKey : Text)
    (now expiresAt : Timestamp)
    : UploadIdempotencyRecord where
  id := id
  organizationId := organizationId
  idempotencyKey := idempotencyKey
  requestFingerprint := none
  status := .inProgress
  documentId := none
  documentVersionId := none
  responseStatus := none
  outcome := none
  errorCode := none
  retryable := false
  createdAt := now
  updatedAt := now
  expiresAt := expiresAt

/-- `reserve`: insert a record, or return the one that is already there. -/
def reserve (organizationId : UUID) (idempotencyKey : Text) (now expiresAt : Timestamp)
    : App UploadIdempotencyRecord := do
  enter .idempotencyReserve
  let id ← newUuid
  let row := reservation id organizationId idempotencyKey now expiresAt
  tryCatch (do
    insert .uploadIdempotency row
    return row)
    (fun failure =>
      match failure with
      | .integrityError => do
          sessionRollback
          match ← record organizationId idempotencyKey with
          | none => throw .integrityError
          | some existing => return existing
      | other => throw other)

/-- Assign columns of a loaded record and flush. -/
def assign (loaded : UploadIdempotencyRecord)
    (columns : UploadIdempotencyRecord → UploadIdempotencyRecord)
    : App UploadIdempotencyRecord := do
  let _ ← update .uploadIdempotency loaded.id (fun row => some (columns row))
  return columns loaded

def markInProgress (organizationId : UUID) (idempotencyKey : Text)
    (now expiresAt : Timestamp)
    : App UploadIdempotencyRecord := do
  enter .idempotencyMarkInProgress
  let loaded ← requiredRecord organizationId idempotencyKey
  if loaded.status ≠ .failed ∨ !loaded.retryable then
    throw (.valueError "Only retryable failed upload idempotency records can be retried.")
  assign loaded (fun row => {
    row with
    status := .inProgress
    responseStatus := none
    outcome := none
    errorCode := none
    retryable := false
    updatedAt := now
    expiresAt
  })

def finalizeFingerprint (organizationId : UUID) (idempotencyKey requestFingerprint : Text)
    (now : Timestamp)
    : App UploadIdempotencyRecord := do
  enter .idempotencyFinalizeFingerprint
  let loaded ← requiredRecord organizationId idempotencyKey
  assign loaded (fun row => {
    row with
    requestFingerprint := some requestFingerprint
    updatedAt := now
  })

def complete (organizationId : UUID) (idempotencyKey requestFingerprint : Text)
    (documentId documentVersionId : UUID) (responseStatus : Nat)
    (outcome : UploadDocumentOutcome) (now : Timestamp)
    : App UploadIdempotencyRecord := do
  enter .idempotencyComplete
  let loaded ← requiredRecord organizationId idempotencyKey
  assign loaded (fun row => {
    row with
    requestFingerprint := some requestFingerprint
    status := .completed
    documentId := some documentId
    documentVersionId := some documentVersionId
    responseStatus := some responseStatus
    outcome := some outcome
    errorCode := none
    retryable := false
    updatedAt := now
  })

def fail (organizationId : UUID) (idempotencyKey : Text) (requestFingerprint : Option Text)
    (errorCode : String) (responseStatus : Nat) (retryable : Bool) (now : Timestamp)
    : App UploadIdempotencyRecord := do
  enter .idempotencyFail
  let loaded ← requiredRecord organizationId idempotencyKey
  assign loaded (fun row => {
    row with
    requestFingerprint
    status := .failed
    responseStatus := some responseStatus
    errorCode := some errorCode
    outcome := none
    retryable
    updatedAt := now
  })

end UploadIdempotencyRepository

namespace AuditRepository

/-- `record`: append one event without committing; database errors are wrapped. -/
def record (event : AuditEvent) : App Unit := do
  enter (.auditRecord event.eventType)
  tryCatch (insert .securityAuditEvents event) (fun _ =>
    throw (.auditPersistence "Audit event could not be persisted."))

end AuditRepository

end WorkflowForge
