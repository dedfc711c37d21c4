import WorkflowForge.Application.DocumentService
import WorkflowForge.Infrastructure.ObjectStorage

/-! The upload use case: reservation of an idempotency key, validation, temporary storage,
deduplication by content hash and promotion to the final key.
-/

namespace WorkflowForge

open Python

structure UploadDocumentCommand where
  filename : Option Text
  declaredMediaType : Option Text
  stream : UploadStream
  idempotencyKey : Text
  auditContext : Option AuditRequestContext := none

structure UploadDocumentResult where
  document : Document
  currentVersion : DocumentVersion
  outcome : UploadDocumentOutcome
  duplicate : Bool
  idempotentReplay : Bool
  responseStatus : Nat
  deriving DecidableEq

/-- What `_prepare_upload` computes from a command. -/
structure PreparedUpload where
  metadata : NormalizedUploadMetadata
  streamed : StreamedUpload
  fingerprint : Text

namespace UploadDocument

variable (services : Services)

/-- The part of `_prepare_upload` after the stream has been read. -/
def prepared (metadata : NormalizedUploadMetadata) (streamed : StreamedUpload)
    : Except Exn PreparedUpload := do
  let fingerprint :=
    requestFingerprint services.platform streamed.contentHash metadata.filename
      metadata.mediaType streamed.byteSize
  validateStreamedContent services.platform metadata streamed
  return { metadata, streamed, fingerprint }

/-- `_prepare_upload`, with what it leaves of the command's stream. -/
def prepareUpload (command : UploadDocumentCommand)
    : Except Exn PreparedUpload × UploadStream :=
  match normalizeUploadMetadata services.platform.unicode command.filename
      command.declaredMediaType with
  | .error failure => (.error failure, command.stream)
  | .ok metadata =>
      match streamUpload services.platform services.maxBytes command.stream with
      | (.error failure, rest) => (.error failure, rest)
      | (.ok streamed, rest) => (prepared services metadata streamed, rest)

/-- `_assert_replay_fingerprint`. -/
def assertReplayFingerprint (command : UploadDocumentCommand)
    (record : UploadIdempotencyRecord)
    : Except Exn Unit :=
  let conflict : Exn :=
    .idempotencyConflict "Idempotency-Key was already used with a different upload."
  match (prepareUpload services command).1 with
  | .error (.uploadValidation _ _) => .error conflict
  | .error other => .error other
  | .ok upload =>
      if record.requestFingerprint ≠ some upload.fingerprint then .error conflict else .ok ()

/-- `_record_upload_event`. -/
def recordUploadEvent (eventType : AuditEventType) (command : UploadDocumentCommand)
    (tenant : TenantContext) (now : Timestamp) (metadata : List (String × AuditValue))
    : App Unit :=
  recordEvent services eventType .success tenant command.auditContext now metadata

/-- `_record_failed_upload`. -/
def recordFailedUpload (command : UploadDocumentCommand) (tenant : TenantContext)
    (errorCode : String) (documentId : Option UUID)
    : App Unit := do
  let now ← nowOr none
  recordEvent services .documentUploadFailed .failure tenant command.auditContext now
    (("error_code", .text errorCode)
      :: documentId.toList.map (fun id => ("document_id", .uuid id)))

/-- `_delete_temp_best_effort`. -/
def deleteTempBestEffort (key : StorageObjectKey) : App Unit :=
  tryCatch (ObjectStorage.deleteObject key) (fun _ => return ())

/-- `_require_current_version`. -/
def requireCurrentVersion (document : Document) : App DocumentVersion := do
  match ← DocumentRepository.getVersion services.platform.unicode document.organizationId
      document.id document.currentVersionId with
  | none => throw (.documentNotFound "Document current version was not found.")
  | some version => return version

/-- `_new_document_pair`. -/
def newDocumentPair (tenant : TenantContext) (metadata : NormalizedUploadMetadata)
    (contentHash : ContentHash) (byteSize : Nat) (now : Timestamp)
    : App (Document × DocumentVersion) := do
  let documentId ← newUuid
  let versionId ← newUuid
  let version ← liftExcept
    (DocumentVersion.create services.platform.unicode versionId tenant.organizationId
      documentId 1 metadata.filename metadata.mediaType byteSize contentHash .pending now
      tenant.userId)
  let document ← liftExcept
    (Document.register services.platform.unicode documentId tenant.organizationId
      metadata.filename .upload none version tenant.userId now)
  return (document, version)

/-- The two `except` branches around the preparation of a reserved upload. -/
def abandonUpload (command : UploadDocumentCommand) (tenant : TenantContext) (key : Text)
    (tempKey : StorageObjectKey) (fingerprint : Option Text) (failure : Exn)
    : App UploadDocumentResult :=
  match failure with
  | .uploadValidation code message => do
      let now ← nowOr none
      let _ ← UploadIdempotencyRepository.fail tenant.organizationId key fingerprint code 422
        false now
      commit
      recordFailedUpload services command tenant code none
      throw (.uploadValidation code message)
  | _ => do
      deleteTempBestEffort tempKey
      let now ← nowOr none
      let _ ← UploadIdempotencyRepository.fail tenant.organizationId key fingerprint
        "object_storage_unavailable" 503 true now
      commit
      recordFailedUpload services command tenant "object_storage_unavailable" none
      throw (.objectStorageUnavailable "Object storage is unavailable.")

/-- `_complete_duplicate`. -/
def completeDuplicate (command : UploadDocumentCommand) (tenant : TenantContext) (key : Text)
    (fingerprint : Text) (tempKey : StorageObjectKey) (duplicate : Document) (byteSize : Nat)
    : App UploadDocumentResult := do
  deleteTempBestEffort tempKey
  let version ← requireCurrentVersion services duplicate
  let now ← nowOr none
  let _ ← UploadIdempotencyRepository.complete tenant.organizationId key fingerprint
    duplicate.id version.id 200 .duplicate now
  commit
  let later ← nowOr none
  recordUploadEvent services .documentDuplicateDetected command tenant later
    [("document_id", .uuid duplicate.id), ("byte_size", .int byteSize)]
  return {
    document := duplicate
    currentVersion := version
    outcome := .duplicate
    duplicate := true
    idempotentReplay := false
    responseStatus := 200
  }

/-- The part of `_promote_new_document` that brings the bytes to the final key. -/
def placeObject (tempKey finalKey : StorageObjectKey) (mediaType : Text) (byteSize : Nat)
    : App Unit := do
  match ← ObjectStorage.headObject finalKey with
  | none =>
      let _ ← ObjectStorage.promoteTempObject
        { sourceKey := tempKey, destinationKey := finalKey, mediaType := some mediaType }
  | some existing =>
      if existing.byteSize ≠ byteSize then
        throw (.objectStorageUnavailable "Final object metadata is inconsistent.")
      deleteTempBestEffort tempKey

/-- `_promote_new_document`. -/
def promoteNewDocument (tenant : TenantContext) (document : Document)
    (version : DocumentVersion) (tempKey : StorageObjectKey) (mediaType : Text)
    (byteSize : Nat) (contentHash : ContentHash)
    : App (Document × DocumentVersion) := do
  let finalKey ←
    liftExcept (StorageObjectKey.forDocumentContent tenant.organizationId contentHash)
  placeObject tempKey finalKey mediaType byteSize
  let storedVersion ← DocumentRepository.markVersionStored services.platform.unicode
    tenant.organizationId document.id version.id
  let now ← nowOr none
  let storedDocument ←
    liftExcept (document.markStored services.platform.unicode tenant.userId now)
  let _ ← DocumentRepository.archiveDocument storedDocument
  return (storedDocument, storedVersion)

/-- `_mark_upload_storage_failed`. -/
def markUploadStorageFailed (command : UploadDocumentCommand) (tenant : TenantContext)
    (key fingerprint : Text) (document : Document) (version : DocumentVersion)
    : App Unit := do
  let _ ← DocumentRepository.markVersionFailed services.platform.unicode
    tenant.organizationId document.id version.id
  let now ← nowOr none
  let failedDocument ←
    liftExcept (document.markFailed services.platform.unicode tenant.userId now)
  let _ ← DocumentRepository.archiveDocument failedDocument
  let later ← nowOr none
  let _ ← UploadIdempotencyRepository.fail tenant.organizationId key (some fingerprint)
    "object_storage_unavailable" 503 true later
  commit
  recordFailedUpload services command tenant "object_storage_unavailable" (some document.id)

/-- The last `try` of `_process_reserved_upload`: promotion and completion. -/
def storeNewDocument (command : UploadDocumentCommand) (tenant : TenantContext) (key : Text)
    (tempKey : StorageObjectKey) (upload : PreparedUpload) (document : Document)
    (version : DocumentVersion)
    : App UploadDocumentResult :=
  tryCatch (do
    let (storedDocument, storedVersion) ←
      promoteNewDocument services tenant document version tempKey upload.metadata.mediaType
        upload.streamed.byteSize upload.streamed.contentHash
    let now ← nowOr none
    let _ ← UploadIdempotencyRepository.complete tenant.organizationId key upload.fingerprint
      storedDocument.id storedVersion.id 201 .created now
    commit
    let later ← nowOr none
    recordUploadEvent services .documentStorageSucceeded command tenant later
      [("document_id", .uuid storedDocument.id), ("byte_size", .int upload.streamed.byteSize)]
    return {
      document := storedDocument
      currentVersion := storedVersion
      outcome := .created
      duplicate := false
      idempotentReplay := false
      responseStatus := 201
    })
    (fun _ => do
      markUploadStorageFailed services command tenant key upload.fingerprint document version
      throw (.objectStorageUnavailable "Object storage is unavailable."))

/-- `_process_reserved_upload` after its rows were refused as duplicate content. -/
def resolveRefusedContent (command : UploadDocumentCommand) (tenant : TenantContext)
    (key : Text) (tempKey : StorageObjectKey) (upload : PreparedUpload) (refusal : Exn)
    : App UploadDocumentResult := do
  rollback
  match ← DocumentRepository.findDocumentByTenantContentHash services.platform.unicode
      tenant.organizationId upload.streamed.contentHash with
  | none => throw refusal
  | some duplicate =>
      completeDuplicate services command tenant key upload.fingerprint tempKey duplicate
        upload.streamed.byteSize

/-- `_process_reserved_upload` once the temporary object is stored. -/
def processStoredUpload (command : UploadDocumentCommand) (tenant : TenantContext)
    (key : Text) (tempKey : StorageObjectKey) (upload : PreparedUpload)
    : App UploadDocumentResult := do
  match ← DocumentRepository.findDocumentByTenantContentHash services.platform.unicode
      tenant.organizationId upload.streamed.contentHash with
  | some existing =>
      completeDuplicate services command tenant key upload.fingerprint tempKey existing
        upload.streamed.byteSize
  | none =>
      let now ← nowOr none
      let (document, version) ←
        newDocumentPair services tenant upload.metadata upload.streamed.contentHash
          upload.streamed.byteSize now
      let added : Except Exn Document ←
        tryCatch (do
          let document ←
            DocumentRepository.addDocument services.platform.unicode document version
          commit
          return .ok document)
          (fun failure =>
            match failure with
            | .duplicateDocumentContent message =>
                return .error (.duplicateDocumentContent message)
            | other => throw other)
      match added with
      | .ok document =>
          storeNewDocument services command tenant key tempKey upload document version
      | .error refusal =>
          resolveRefusedContent services command tenant key tempKey upload refusal

/-- `_process_reserved_upload`. -/
def processReservedUpload (command : UploadDocumentCommand) (tenant : TenantContext)
    (key : Text)
    : App UploadDocumentResult := do
  let uploadId ← newUuid
  let tempKey ←
    liftExcept (StorageObjectKey.forTemporaryUpload tenant.organizationId uploadId)
  match (prepareUpload services command).1 with
  | .error failure => abandonUpload services command tenant key tempKey none failure
  | .ok upload =>
      let stored : Except Exn Unit ←
        tryCatch (do
          let now ← nowOr none
          let _ ← UploadIdempotencyRepository.finalizeFingerprint tenant.organizationId key
            upload.fingerprint now
          let _ ← ObjectStorage.putTempStream {
            key := tempKey
            body := upload.streamed.body
            mediaType := upload.metadata.mediaType
          }
          commit
          return .ok ())
          (fun failure => return .error failure)
      match stored with
      | .ok () => processStoredUpload services command tenant key tempKey upload
      | .error failure =>
          abandonUpload services command tenant key tempKey (some upload.fingerprint) failure

/-- `_replay_completed`. -/
def replayCompleted (record : UploadIdempotencyRecord) (tenant : TenantContext)
    : App UploadDocumentResult := do
  match record.documentId, record.documentVersionId with
  | some documentId, some versionId =>
      match ← DocumentRepository.getDocument services.platform.unicode tenant.organizationId
          documentId with
      | none => throw (.idempotencyConflict "Stored idempotency result is unavailable.")
      | some document =>
          match ← DocumentRepository.getVersion services.platform.unicode
              tenant.organizationId document.id versionId with
          | none => throw (.idempotencyConflict "Stored idempotency result is unavailable.")
          | some version =>
              return {
                document
                currentVersion := version
                outcome := .idempotentReplay
                duplicate := record.outcome == some .duplicate
                idempotentReplay := true
                responseStatus :=
                  match record.responseStatus with
                  | some status => if status = 0 then 200 else status
                  | none => 200
              }
  | _, _ => throw (.idempotencyConflict "Stored idempotency result is incomplete.")

/-- The retry of a failed upload. Its stream was read when fingerprints were compared. -/
def retryUpload (command : UploadDocumentCommand) (tenant : TenantContext)
    (record : UploadIdempotencyRecord)
    : App UploadDocumentResult := do
  let stream ←
    match record.requestFingerprint with
    | none => pure command.stream
    | some _ => do
        liftExcept (assertReplayFingerprint services command record)
        pure (prepareUpload services command).2
  let timestamp ← nowOr none
  let _ ← UploadIdempotencyRepository.markInProgress tenant.organizationId
    record.idempotencyKey timestamp (timestamp + services.idempotencyTtl)
  commit
  recordUploadEvent services .documentUploadStarted command tenant timestamp
    [("idempotency_replay", .bool true)]
  processReservedUpload services { command with stream } tenant record.idempotencyKey

/-- `_handle_existing_record`. -/
def handleExistingRecord (command : UploadDocumentCommand) (tenant : TenantContext)
    (record : UploadIdempotencyRecord)
    : App UploadDocumentResult :=
  match record.status with
  | .inProgress => throw (.idempotencyInProgress "Upload is already in progress.")
  | .completed => do
      liftExcept (assertReplayFingerprint services command record)
      replayCompleted services record tenant
  | .failed =>
      if record.retryable then retryUpload services command tenant record
      else do
        if record.requestFingerprint.isSome then
          liftExcept (assertReplayFingerprint services command record)
        throw (.uploadValidation
          (match record.errorCode with
            | some code => if code = "" then "validation_error" else code
            | none => "validation_error")
          "The previous upload attempt failed validation.")

/-- `UploadDocument.__call__`. -/
def upload (command : UploadDocumentCommand) (tenant : TenantContext)
    (now : Option Datetime)
    : App UploadDocumentResult := do
  liftExcept (require tenant .documentWrite)
  let timestamp ← nowOr now
  let key ←
    liftExcept (validateIdempotencyKey services.platform.unicode command.idempotencyKey)
  match ← UploadIdempotencyRepository.get tenant.organizationId key with
  | some existing => handleExistingRecord services command tenant existing
  | none =>
      let _ ← UploadIdempotencyRepository.reserve tenant.organizationId key timestamp
        (timestamp + services.idempotencyTtl)
      commit
      recordUploadEvent services .documentUploadStarted command tenant timestamp
        [("idempotency_replay", .bool false)]
      processReservedUpload services command tenant key

end UploadDocument

/-- The document calls that run concurrently. -/
inductive DocumentCall where
  | registerDocument (command : DocumentRegistrationCommand) (tenant : TenantContext)
    (now : Option Datetime)
  | uploadDocument (command : UploadDocumentCommand) (tenant : TenantContext)
    (now : Option Datetime)
  | createVersion (command : DocumentVersionCreationCommand) (tenant : TenantContext)
    (now : Option Datetime)
  | archiveDocument (documentId : UUID) (tenant : TenantContext) (now : Option Datetime)
    (auditContext : Option AuditRequestContext)
  | archiveDocumentWithLock (command : DocumentArchiveCommand) (tenant : TenantContext)
    (now : Option Datetime)

/-- What a document call returns. -/
inductive DocumentReply where
  | document (value : Document)
  | version (value : DocumentVersion)
  | upload (value : UploadDocumentResult)
  deriving DecidableEq

/-- The use case behind a call. -/
def DocumentCall.useCase (services : Services) : DocumentCall → App DocumentReply
  | registerDocument command tenant now => do
      return .document (← DocumentService.registerDocument services command tenant now)
  | uploadDocument command tenant now => do
      return .upload (← UploadDocument.upload services command tenant now)
  | createVersion command tenant now => do
      return .version (← DocumentService.createVersion services command tenant now)
  | archiveDocument documentId tenant now auditContext => do
      return .document
        (← DocumentService.archiveDocument services documentId tenant now auditContext)
  | archiveDocumentWithLock command tenant now => do
      return .document (← DocumentService.archiveDocumentWithLock services command tenant now)

/-- A call as one request with its own session. -/
def DocumentCall.body (services : Services) (call : DocumentCall) : App DocumentReply :=
  request (call.useCase services)

end WorkflowForge
