import WorkflowForge.Application.UploadValidation
import WorkflowForge.Infrastructure.DocumentRepository
import WorkflowForge.Infrastructure.ObjectStorage

/-! Use cases for tenant-owned document metadata. -/

namespace WorkflowForge

open Python

/-- What the services are composed with. -/
structure Services where
  platform : Platform
  maxBytes : Nat
  idempotencyTtl : Int
  audited : Bool

/-- Record an audit event when a recorder is configured. -/
def recordEvent (services : Services) (eventType : AuditEventType) (outcome : AuditOutcome)
    (tenant : TenantContext) (requestContext : Option AuditRequestContext) (now : Timestamp)
    (metadata : List (String × AuditValue))
    : App Unit := do
  if services.audited then
    let id ← newUuid
    AuditRepository.record {
      id, eventType, outcome
      occurredAt := now
      actorUserId := tenant.userId
      organizationId := tenant.organizationId
      requestContext := requestContext.getD {}
      metadata
    }

structure DocumentRegistrationCommand where
  displayFilename : Text
  mediaType : Text
  byteSize : Int
  contentHash : Text
  sourceType : DocumentSourceType := .upload
  sourceReference : Option Text := none
  auditContext : Option AuditRequestContext := none

structure DocumentVersionCreationCommand where
  documentId : UUID
  originalFilename : Text
  mediaType : Text
  byteSize : Int
  contentHash : Text
  storageState : DocumentStorageState := .pending
  auditContext : Option AuditRequestContext := none

structure DocumentArchiveCommand where
  documentId : UUID
  expectedLockVersion : Nat
  auditContext : Option AuditRequestContext := none

structure DocumentArtifactRegistrationCommand where
  documentId : UUID
  documentVersionId : Option UUID
  artifactType : DocumentArtifactType
  mediaType : Text
  byteSize : Int
  storageObjectKey : StorageObjectKey
  contentHash : Option Text := none
  metadata : List (Text × MetadataValue) := []
  auditContext : Option AuditRequestContext := none

structure DocumentDownloadCommand where
  documentId : UUID
  versionId : Option UUID := none
  artifactId : Option UUID := none
  expiresInSeconds : Int := 60
  auditContext : Option AuditRequestContext := none

structure DocumentDownloadResult where
  url : Text
  expiresAt : Timestamp
  filename : Text
  mediaType : Text
  byteSize : Int
  deriving DecidableEq

/-- `_safe_download_filename`: no line breaks, and single for double quotes. -/
def safeDownloadFilename (filename : Text) : Text :=
  Text.replaceChar (filename.filter (fun c => c != '\r' && c != '\n')) '\x22' '\x27'

/-- `except Exception: await _rollback(...); raise`. -/
def orRollback {α : Type} (block : App α) : App α :=
  tryCatch block (fun failure => do
    rollback
    throw failure)

namespace DocumentService

variable (services : Services)

/-- `_record_document_event`. -/
def recordDocumentEvent (eventType : AuditEventType) (tenant : TenantContext)
    (targetId : UUID) (requestContext : Option AuditRequestContext) (now : Timestamp)
    (metadata : List (String × AuditValue))
    : App Unit :=
  recordEvent services eventType .success tenant requestContext now
    (("target_type", .text "document") :: ("target_id", .uuid targetId) :: metadata)

/-- The pair of rows that registering new content creates. -/
def newRegistration (command : DocumentRegistrationCommand) (tenant : TenantContext)
    (contentHash : ContentHash) (timestamp : Timestamp)
    : App (Document × DocumentVersion) := do
  let documentId ← newUuid
  let versionId ← newUuid
  let version ← liftExcept
    (DocumentVersion.create services.platform.unicode versionId tenant.organizationId
      documentId 1 command.displayFilename command.mediaType command.byteSize contentHash
      .pending timestamp tenant.userId)
  let document ← liftExcept
    (Document.register services.platform.unicode documentId tenant.organizationId
      command.displayFilename command.sourceType command.sourceReference version tenant.userId
      timestamp)
  return (document, version)

def registerDocument (command : DocumentRegistrationCommand) (tenant : TenantContext)
    (now : Option Datetime)
    : App Document := do
  liftExcept (require tenant .documentWrite)
  let timestamp ← nowOr now
  let contentHash ← liftExcept (ContentHash.parse services.platform.unicode command.contentHash)
  match ← DocumentRepository.findDocumentByTenantContentHash services.platform.unicode
      tenant.organizationId contentHash with
  | some existing => return existing
  | none =>
      let (document, version) ← newRegistration services command tenant contentHash timestamp
      tryCatch (do
        let saved ← DocumentRepository.addDocument services.platform.unicode document version
        recordDocumentEvent services .documentRegistered tenant saved.id command.auditContext
          timestamp [("source_type", .text saved.sourceType.value)]
        commit
        return saved)
        (fun failure =>
          match failure with
          | .duplicateDocumentContent message => do
              rollback
              match ← DocumentRepository.findDocumentByTenantContentHash
                  services.platform.unicode tenant.organizationId contentHash with
              | some duplicate => return duplicate
              | none => throw (.duplicateDocumentContent message)
          | other => do
              rollback
              throw other)

def getDocument (documentId : UUID) (tenant : TenantContext) : App Document := do
  liftExcept (require tenant .documentRead)
  match ← DocumentRepository.getDocument services.platform.unicode tenant.organizationId
      documentId with
  | none => throw (.documentNotFound "Document was not found.")
  | some document => return document

def createVersion (command : DocumentVersionCreationCommand) (tenant : TenantContext)
    (now : Option Datetime)
    : App DocumentVersion := do
  liftExcept (require tenant .documentVersionCreate)
  let timestamp ← nowOr now
  match ← DocumentRepository.getDocumentForUpdate services.platform.unicode
      tenant.organizationId command.documentId with
  | none => throw (.documentNotFound "Document was not found.")
  | some document =>
      let versions ← DocumentRepository.listVersions services.platform.unicode
        tenant.organizationId command.documentId
      let versionId ← newUuid
      let contentHash ←
        liftExcept (ContentHash.parse services.platform.unicode command.contentHash)
      let version ← liftExcept
        (DocumentVersion.create services.platform.unicode versionId tenant.organizationId
          command.documentId (versions.length + 1) command.originalFilename command.mediaType
          command.byteSize contentHash command.storageState timestamp tenant.userId)
      let updated ← liftExcept
        (document.setCurrentVersion services.platform.unicode version tenant.userId timestamp)
      orRollback (do
        let saved ← DocumentRepository.addVersion services.platform.unicode version
        let _ ← DocumentRepository.setCurrentVersion updated saved
        recordDocumentEvent services .documentVersionCreated tenant document.id
          command.auditContext timestamp
          [("version_id", .uuid saved.id), ("version_number", .int saved.versionNumber)]
        commit
        return saved)

def archiveDocumentWithLock (command : DocumentArchiveCommand) (tenant : TenantContext)
    (now : Option Datetime)
    : App Document := do
  liftExcept (require tenant .documentArchive)
  let timestamp ← nowOr now
  match ← DocumentRepository.getDocumentForUpdate services.platform.unicode
      tenant.organizationId command.documentId with
  | none => throw (.documentNotFound "Document was not found.")
  | some document =>
      if document.lockVersion ≠ command.expectedLockVersion then
        throw (.concurrencyConflict "Document was changed by another request.")
      let archived ←
        liftExcept (document.archive services.platform.unicode tenant.userId timestamp)
      orRollback (do
        let saved ← DocumentRepository.archiveDocument archived
        recordDocumentEvent services .documentArchived tenant saved.id command.auditContext
          timestamp []
        commit
        return saved)

def archiveDocument (documentId : UUID) (tenant : TenantContext) (now : Option Datetime)
    (auditContext : Option AuditRequestContext)
    : App Document := do
  let document ← getDocument services documentId tenant
  archiveDocumentWithLock services
    { documentId, expectedLockVersion := document.lockVersion, auditContext } tenant now

def listDocuments (tenant : TenantContext) (query : Option DocumentListFilter)
    : App (ListPage DocumentProjection) := do
  liftExcept (require tenant .documentRead)
  DocumentRepository.listDocuments services.platform.unicode tenant.organizationId
    (query.getD {})

def getVersion (tenant : TenantContext) (documentId versionId : UUID)
    : App DocumentVersion := do
  liftExcept (require tenant .documentVersionRead)
  match ← DocumentRepository.getVersion services.platform.unicode tenant.organizationId
      documentId versionId with
  | none => throw (.documentNotFound "Document version was not found.")
  | some version => return version

def listVersions (documentId : UUID) (tenant : TenantContext)
    : App (List DocumentVersion) := do
  liftExcept (require tenant .documentVersionRead)
  let document ← getDocument services documentId tenant
  DocumentRepository.listVersions services.platform.unicode tenant.organizationId document.id

def listArtifacts (documentId : UUID) (tenant : TenantContext)
    : App (List DocumentArtifact) := do
  liftExcept (require tenant .artifactRead)
  let document ← getDocument services documentId tenant
  DocumentRepository.listArtifacts services.platform.unicode tenant.organizationId document.id

/-- The lookup of an artifact through its document, as reading and downloading do it. -/
def requireArtifact (document : Document) (tenant : TenantContext) (artifactId : UUID)
    : App DocumentArtifact := do
  match ← DocumentRepository.getArtifact services.platform.unicode tenant.organizationId
      document.id artifactId with
  | none => throw (.documentNotFound "Document artifact was not found.")
  | some artifact => return artifact

def getArtifact (tenant : TenantContext) (documentId artifactId : UUID)
    : App DocumentArtifact := do
  liftExcept (require tenant .artifactRead)
  let document ← getDocument services documentId tenant
  requireArtifact services document tenant artifactId

/-- The branch of `create_download_url` for an artifact. -/
def createArtifactUrl (command : DocumentDownloadCommand) (artifactId : UUID)
    (tenant : TenantContext) (timestamp : Timestamp)
    : App DocumentDownloadResult := do
  liftExcept (require tenant .artifactDownload)
  let document ← getDocument services command.documentId tenant
  let artifact ← requireArtifact services document tenant artifactId
  let url ←
    ObjectStorage.createDownloadUrl artifact.storageObjectKey command.expiresInSeconds timestamp
  recordDocumentEvent services .documentArtifactDownloaded tenant document.id
    command.auditContext timestamp [("artifact_id", .uuid artifact.id)]
  return {
    url := url.url
    expiresAt := url.expiresAt
    filename := safeDownloadFilename document.displayFilename
    mediaType := artifact.mediaType
    byteSize := artifact.byteSize
  }

/-- The branch of `create_download_url` for a version, by default the current one. -/
def createVersionUrl (command : DocumentDownloadCommand) (tenant : TenantContext)
    (timestamp : Timestamp)
    : App DocumentDownloadResult := do
  liftExcept (require tenant .documentDownload)
  let document ← getDocument services command.documentId tenant
  match ← DocumentRepository.getVersion services.platform.unicode tenant.organizationId
      document.id (command.versionId.getD document.currentVersionId) with
  | none => throw (.documentNotFound "Document version was not found.")
  | some version =>
      let url ← ObjectStorage.createDownloadUrl version.storageObjectKey
        command.expiresInSeconds timestamp
      recordDocumentEvent services
        (if command.versionId.isSome then .documentVersionDownloaded else .documentDownloaded)
        tenant document.id command.auditContext timestamp [("version_id", .uuid version.id)]
      return {
        url := url.url
        expiresAt := url.expiresAt
        filename := safeDownloadFilename version.originalFilename
        mediaType := version.mediaType
        byteSize := version.byteSize
      }

def createDownloadUrl (command : DocumentDownloadCommand) (tenant : TenantContext)
    (now : Option Datetime)
    : App DocumentDownloadResult := do
  let timestamp ← nowOr now
  match command.artifactId with
  | some artifactId => createArtifactUrl services command artifactId tenant timestamp
  | none => createVersionUrl services command tenant timestamp

/-- The version that `register_artifact` looks up when its command names one. -/
def artifactVersion (command : DocumentArtifactRegistrationCommand) (tenant : TenantContext)
    : App (Option DocumentVersion) :=
  match command.documentVersionId with
  | none => return none
  | some versionId => do
      return some (← getVersion services tenant command.documentId versionId)

def registerArtifact (command : DocumentArtifactRegistrationCommand) (tenant : TenantContext)
    (now : Option Datetime)
    : App DocumentArtifact := do
  liftExcept (require tenant .artifactRead)
  let timestamp ← nowOr now
  let document ← getDocument services command.documentId tenant
  let version ← artifactVersion services command tenant
  let artifactId ← newUuid
  let contentHash ←
    liftExcept (parseOptionalHash services.platform.unicode command.contentHash)
  let artifact ← liftExcept (DocumentArtifact.create services.platform.unicode {
    id := artifactId
    organizationId := tenant.organizationId
    documentId := command.documentId
    documentVersionId := command.documentVersionId
    artifactType := command.artifactType
    mediaType := command.mediaType
    byteSize := command.byteSize
    contentHash
    storageObjectKey := command.storageObjectKey
    metadata := command.metadata
    createdAt := timestamp
    createdByUserId := tenant.userId
  })
  liftExcept (assertArtifactConsistent document artifact version)
  orRollback (do
    let saved ← DocumentRepository.addArtifact services.platform.unicode artifact
    recordDocumentEvent services .documentArtifactRegistered tenant document.id
      command.auditContext timestamp
      [("artifact_id", .uuid saved.id), ("artifact_type", .text saved.artifactType.value)]
    commit
    return saved)

end DocumentService

end WorkflowForge
