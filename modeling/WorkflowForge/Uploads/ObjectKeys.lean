import WorkflowForge.Documents.DuplicateContent

/-! Which objects the document calls write.
Everything but an upload leaves the object storage alone. An upload writes its temporary
object and final keys of documents, whatever it is answered.
-/

namespace WorkflowForge

open Python Transactions Concurrency

variable {α β : Type} {u : Unicode} {services : Services} {tenant : TenantContext}

-----------------------------------------------------------------------------------------
-- Repository methods commit nothing
-----------------------------------------------------------------------------------------

namespace Commitless

theorem tryCatch {program : App α} {handler : Exn → App α} (body : Commitless program)
    (handled : ∀ failure, Commitless (handler failure))
    : Commitless (MonadExcept.tryCatch program handler) :=
  Keeps.tryCatch body handled

theorem sessionRollback : Commitless sessionRollback := Keeps.perform trivial

theorem selectForUpdate (t : TableName) (id : UUID) (chosen : TableRow t → Bool)
    : Commitless (selectForUpdate t id chosen) :=
  Keeps.perform trivial

theorem update (t : TableName) (id : UUID) (change : TableRow t → Option (TableRow t))
    : Commitless (update t id change) := by
  refine andThen (Keeps.perform trivial) (fun answer => ?_)
  cases answer with
  | ok matched => exact pure matched
  | error violation => cases violation <;> exact throw _

theorem scalarOneOrNone (rows : List α) : Commitless (scalarOneOrNone rows) := by
  rcases rows with _ | ⟨row, _ | ⟨other, rest⟩⟩
  · exact pure _
  · exact pure _
  · exact throw _

theorem recordEvent (eventType : AuditEventType) (outcome : AuditOutcome)
    (requestContext : Option AuditRequestContext) (now : Timestamp)
    (metadata : List (String × AuditValue))
    : Commitless (recordEvent services eventType outcome tenant requestContext now metadata) := by
  unfold WorkflowForge.recordEvent
  split
  · exact andThen newUuid (fun id => auditRecord _)
  · exact pure ()

end Commitless

namespace DocumentRepository

theorem loaded_commitless (row : Option Document) : Commitless (loaded u row) := by
  cases row with
  | none => exact Commitless.pure _
  | some record => exact Commitless.andThen (Commitless.liftExcept _) (fun _ => Commitless.pure _)

theorem getDocumentForUpdate_commitless (organizationId documentId : UUID)
    : Commitless (getDocumentForUpdate u organizationId documentId) :=
  Commitless.andThen (Commitless.enter _) (fun _ =>
    Commitless.andThen (Commitless.selectForUpdate _ _ _) (fun _ => loaded_commitless _))

theorem findDocumentByTenantContentHash_commitless (organizationId : UUID)
    (contentHash : ContentHash)
    : Commitless (findDocumentByTenantContentHash u organizationId contentHash) := by
  refine Commitless.andThen (Commitless.enter _) (fun _ => ?_)
  refine Commitless.andThen (Commitless.select _) (fun db => ?_)
  exact Commitless.andThen (Commitless.scalarOneOrNone _) (fun _ => loaded_commitless _)

theorem persistDocumentState_commitless (document : Document)
    : Commitless (persistDocumentState document) :=
  Commitless.andThen (Commitless.update _ _ _) (fun _ => Commitless.pure _)

theorem archiveDocument_commitless (document : Document)
    : Commitless (archiveDocument document) := by
  refine Commitless.andThen (Commitless.enter _) (fun _ => ?_)
  exact Commitless.andThen (persistDocumentState_commitless _) (fun _ => Commitless.pure _)

theorem setCurrentVersion_commitless (document : Document) (version : DocumentVersion)
    : Commitless (setCurrentVersion document version) := by
  refine Commitless.andThen (Commitless.enter _) (fun _ => ?_)
  dsimp only
  split
  · exact Commitless.throw _
  · exact Commitless.andThen (persistDocumentState_commitless _) (fun _ => Commitless.pure _)

theorem orDuplicateContent_commitless {flush : App Unit} (commitless : Commitless flush)
    : Commitless (orDuplicateContent flush) := by
  refine Commitless.tryCatch commitless (fun failure => ?_)
  split
  · exact Commitless.andThen Commitless.sessionRollback (fun _ => Commitless.throw _)
  · exact Commitless.throw _

theorem addVersion_commitless (version : DocumentVersion)
    : Commitless (addVersion u version) := by
  refine Commitless.andThen (Commitless.enter _) (fun _ => ?_)
  exact Commitless.andThen (orDuplicateContent_commitless (Commitless.insert _ _)) (fun _ =>
    Commitless.liftExcept _)

theorem markVersionStorageState_commitless (organizationId documentId versionId : UUID)
    (storageState : DocumentStorageState)
    : Commitless
        (markVersionStorageState u organizationId documentId versionId storageState) := by
  refine Commitless.andThen (Commitless.select _) (fun db => ?_)
  split
  · exact Commitless.throw _
  · exact Commitless.andThen (Commitless.update _ _ _) (fun _ => Commitless.liftExcept _)

theorem markVersionStored_commitless (organizationId documentId versionId : UUID)
    : Commitless (markVersionStored u organizationId documentId versionId) :=
  Commitless.andThen (Commitless.enter _) (fun _ => markVersionStorageState_commitless _ _ _ _)

theorem markVersionFailed_commitless (organizationId documentId versionId : UUID)
    : Commitless (markVersionFailed u organizationId documentId versionId) :=
  Commitless.andThen (Commitless.enter _) (fun _ => markVersionStorageState_commitless _ _ _ _)

end DocumentRepository

namespace UploadIdempotencyRepository

theorem record_commitless (organizationId : UUID) (idempotencyKey : Text)
    : Commitless (record organizationId idempotencyKey) :=
  Commitless.andThen (Commitless.select _) (fun _ => Commitless.scalarOneOrNone _)

theorem requiredRecord_commitless (organizationId : UUID) (idempotencyKey : Text)
    : Commitless (requiredRecord organizationId idempotencyKey) := by
  refine Commitless.andThen (record_commitless _ _) (fun row => ?_)
  cases row with
  | none => exact Commitless.throw _
  | some row => exact Commitless.pure _

theorem get_commitless (organizationId : UUID) (idempotencyKey : Text)
    : Commitless (get organizationId idempotencyKey) :=
  Commitless.andThen (Commitless.enter _) (fun _ => record_commitless _ _)

theorem reserve_commitless (organizationId : UUID) (idempotencyKey : Text)
    (now expiresAt : Timestamp)
    : Commitless (reserve organizationId idempotencyKey now expiresAt) := by
  refine Commitless.andThen (Commitless.enter _) (fun _ => ?_)
  refine Commitless.andThen Commitless.newUuid (fun id => ?_)
  refine Commitless.tryCatch
    (Commitless.andThen (Commitless.insert _ _) (fun _ => Commitless.pure _)) (fun failure => ?_)
  split
  · refine Commitless.andThen Commitless.sessionRollback (fun _ => ?_)
    refine Commitless.andThen (record_commitless _ _) (fun row => ?_)
    cases row with
    | none => exact Commitless.throw _
    | some existing => exact Commitless.pure _
  · exact Commitless.throw _

theorem assign_commitless (loaded : UploadIdempotencyRecord)
    (columns : UploadIdempotencyRecord → UploadIdempotencyRecord)
    : Commitless (assign loaded columns) :=
  Commitless.andThen (Commitless.update _ _ _) (fun _ => Commitless.pure _)

theorem markInProgress_commitless (organizationId : UUID) (idempotencyKey : Text)
    (now expiresAt : Timestamp)
    : Commitless (markInProgress organizationId idempotencyKey now expiresAt) := by
  refine Commitless.andThen (Commitless.enter _) (fun _ => ?_)
  refine Commitless.andThen (requiredRecord_commitless _ _) (fun loaded => ?_)
  dsimp only
  split
  · exact Commitless.throw _
  · exact assign_commitless _ _

/-- The methods that load the record of a key and assign some of its columns. -/
theorem assigning_commitless (port : Port) (organizationId : UUID) (idempotencyKey : Text)
    (columns : UploadIdempotencyRecord → UploadIdempotencyRecord)
    : Commitless (do
        enter port
        let loaded ← requiredRecord organizationId idempotencyKey
        assign loaded columns) :=
  Commitless.andThen (Commitless.enter _) (fun _ =>
    Commitless.andThen (requiredRecord_commitless _ _) (fun _ => assign_commitless _ _))

end UploadIdempotencyRepository

theorem ObjectStorage.lookup_commitless (key : StorageObjectKey)
    : Commitless (ObjectStorage.lookup key) := by
  refine Commitless.andThen (Keeps.perform trivial) (fun answer => ?_)
  cases answer with
  | found byteSize mediaType => exact Commitless.pure _
  | missing => exact Commitless.pure _
  | failed => exact Commitless.throw _

theorem ObjectStorage.headObject_commitless (key : StorageObjectKey)
    : Commitless (ObjectStorage.headObject key) :=
  Commitless.andThen (Commitless.enter _) (fun _ => ObjectStorage.lookup_commitless _)

-----------------------------------------------------------------------------------------
-- Programs that leave the object storage alone
-----------------------------------------------------------------------------------------

def untouching : Contract Op Op.Answer where
  may op := ∀ key, ¬ op.Touches key
  learns _ _ := True

/-- No operation of the program writes or deletes an object. -/
abbrev Untouching {α : Type} (program : App α) : Prop := Keeps untouching (fun _ => True) program

namespace Untouching

theorem of_commitless {program : App α} (commitless : Commitless program)
    : Untouching program := by
  refine Keeps.weaken commitless ?_ (fun _ _ _ => trivial)
  intro op allowed key touches
  cases op <;> first | exact allowed | exact touches

theorem andThen {program : App α} {next : α → App β} (first : Untouching program)
    (second : ∀ value, Untouching (next value))
    : Untouching (program >>= next) :=
  Keeps.bind first (fun value _ => second value)

theorem tryCatch {program : App α} {handler : Exn → App α} (body : Untouching program)
    (handled : ∀ failure, Untouching (handler failure))
    : Untouching (MonadExcept.tryCatch program handler) :=
  Keeps.tryCatch body handled

theorem commit : Untouching commit :=
  andThen (of_commitless (Commitless.enter _)) (fun _ => Keeps.perform (fun _ => id))

theorem orRollback {program : App α} (untouching : Untouching program)
    : Untouching (orRollback program) :=
  tryCatch untouching (fun _ =>
    of_commitless (Commitless.andThen Commitless.rollback (fun _ => Commitless.throw _)))

/-- Saving a document or a version: record the change and commit. -/
theorem saved {event : App Unit} (commitless : Commitless event) (value : α)
    : Untouching (do
        event
        WorkflowForge.commit
        return value) :=
  andThen (of_commitless commitless) (fun _ =>
    andThen commit (fun _ => of_commitless (Commitless.pure _)))

end Untouching

namespace DocumentService

theorem newRegistration_commitless (command : DocumentRegistrationCommand)
    (hash : ContentHash) (timestamp : Timestamp)
    : Commitless (newRegistration services command tenant hash timestamp) := by
  refine Commitless.andThen Commitless.newUuid (fun _ => ?_)
  refine Commitless.andThen Commitless.newUuid (fun _ => ?_)
  refine Commitless.andThen (Commitless.liftExcept _) (fun _ => ?_)
  exact Commitless.andThen (Commitless.liftExcept _) (fun _ => Commitless.pure _)

theorem registerDocument_untouching (command : DocumentRegistrationCommand)
    (now : Option Datetime)
    : Untouching (registerDocument services command tenant now) := by
  refine Untouching.andThen (.of_commitless (Commitless.liftExcept _)) (fun _ => ?_)
  refine Untouching.andThen (.of_commitless (Commitless.nowOr _)) (fun timestamp => ?_)
  refine Untouching.andThen (.of_commitless (Commitless.liftExcept _)) (fun hash => ?_)
  refine Untouching.andThen (.of_commitless
    (DocumentRepository.findDocumentByTenantContentHash_commitless _ _)) (fun found => ?_)
  cases found with
  | some existing => exact .of_commitless (Commitless.pure _)
  | none =>
      refine Untouching.andThen (.of_commitless (newRegistration_commitless _ _ _)) (fun rows => ?_)
      refine Untouching.tryCatch ?_ (fun failure => ?_)
      · refine Untouching.andThen (.of_commitless (addDocument_commitless _ _)) (fun saved => ?_)
        exact Untouching.saved (Commitless.recordEvent _ _ _ _ _) saved
      · split
        · refine .of_commitless (Commitless.andThen Commitless.rollback (fun _ => ?_))
          refine Commitless.andThen
            (DocumentRepository.findDocumentByTenantContentHash_commitless _ _) (fun found => ?_)
          cases found with
          | some duplicate => exact Commitless.pure _
          | none => exact Commitless.throw _
        · exact .of_commitless
            (Commitless.andThen Commitless.rollback (fun _ => Commitless.throw _))

theorem createVersion_untouching (command : DocumentVersionCreationCommand)
    (now : Option Datetime)
    : Untouching (createVersion services command tenant now) := by
  refine Untouching.andThen (.of_commitless (Commitless.liftExcept _)) (fun _ => ?_)
  refine Untouching.andThen (.of_commitless (Commitless.nowOr _)) (fun timestamp => ?_)
  refine Untouching.andThen
    (.of_commitless (DocumentRepository.getDocumentForUpdate_commitless _ _)) (fun found => ?_)
  cases found with
  | none => exact .of_commitless (Commitless.throw _)
  | some document =>
      refine Untouching.andThen (.of_commitless
        (DocumentRepository.listVersions_commitless _ _)) (fun versions => ?_)
      refine Untouching.andThen (.of_commitless Commitless.newUuid) (fun _ => ?_)
      refine Untouching.andThen (.of_commitless (Commitless.liftExcept _)) (fun _ => ?_)
      refine Untouching.andThen (.of_commitless (Commitless.liftExcept _)) (fun version => ?_)
      refine Untouching.andThen (.of_commitless (Commitless.liftExcept _)) (fun updated => ?_)
      refine Untouching.orRollback ?_
      refine Untouching.andThen (.of_commitless
        (DocumentRepository.addVersion_commitless _)) (fun saved => ?_)
      refine Untouching.andThen (.of_commitless
        (DocumentRepository.setCurrentVersion_commitless _ _)) (fun _ => ?_)
      exact Untouching.saved (Commitless.recordEvent _ _ _ _ _) saved

theorem archiveDocumentWithLock_untouching (command : DocumentArchiveCommand)
    (now : Option Datetime)
    : Untouching (archiveDocumentWithLock services command tenant now) := by
  refine Untouching.andThen (.of_commitless (Commitless.liftExcept _)) (fun _ => ?_)
  refine Untouching.andThen (.of_commitless (Commitless.nowOr _)) (fun timestamp => ?_)
  refine Untouching.andThen
    (.of_commitless (DocumentRepository.getDocumentForUpdate_commitless _ _)) (fun found => ?_)
  cases found with
  | none => exact .of_commitless (Commitless.throw _)
  | some document =>
      dsimp only
      split
      · exact .of_commitless (Commitless.throw _)
      · refine Untouching.andThen (.of_commitless (Commitless.liftExcept _)) (fun archived => ?_)
        refine Untouching.orRollback ?_
        refine Untouching.andThen (.of_commitless
          (DocumentRepository.archiveDocument_commitless _)) (fun saved => ?_)
        exact Untouching.saved (Commitless.recordEvent _ _ _ _ _) saved

theorem archiveDocument_untouching (documentId : UUID) (now : Option Datetime)
    (auditContext : Option AuditRequestContext)
    : Untouching (archiveDocument services documentId tenant now auditContext) := by
  refine Untouching.andThen (.of_commitless ?_) (fun document =>
    archiveDocumentWithLock_untouching _ now)
  refine Commitless.andThen (Commitless.liftExcept _) (fun _ => ?_)
  refine Commitless.andThen (DocumentRepository.getDocument_commitless _ _) (fun found => ?_)
  cases found with
  | none => exact Commitless.throw _
  | some document => exact Commitless.pure _

end DocumentService

-----------------------------------------------------------------------------------------
-- The objects of an upload
-----------------------------------------------------------------------------------------

/-- The keys that an upload writes: its temporary key and final keys of documents. -/
def UploadKey (uploadId : UUID) (key : Text) : Prop :=
  (∃ organizationId, key = (temporaryUploadKey organizationId uploadId).value)
  ∨ ∃ owner digest, key = documentContentKeyText owner digest

def uploading (uploadId : UUID) : Contract Op Op.Answer where
  may op := ∀ key, op.Touches key → UploadKey uploadId key
  learns _ _ := True

/-- The program writes and deletes objects of the upload only. -/
abbrev Uploading (uploadId : UUID) {α : Type} (program : App α) : Prop :=
  Keeps (uploading uploadId) (fun _ => True) program

variable {organizationId uploadId : UUID} {command : UploadDocumentCommand} {key : Text}

namespace Uploading

theorem of_untouching {program : App α} (untouching : Untouching program)
    : Uploading uploadId program :=
  Keeps.weaken untouching (fun _ away key touches => absurd touches (away key))
    (fun _ _ _ => trivial)

theorem of_commitless {program : App α} (commitless : Commitless program)
    : Uploading uploadId program :=
  of_untouching (.of_commitless commitless)

theorem andThen {program : App α} {next : α → App β} (first : Uploading uploadId program)
    (second : ∀ value, Uploading uploadId (next value))
    : Uploading uploadId (program >>= next) :=
  Keeps.bind first (fun value _ => second value)

theorem tryCatch {program : App α} {handler : Exn → App α} (body : Uploading uploadId program)
    (handled : ∀ failure, Uploading uploadId (handler failure))
    : Uploading uploadId (MonadExcept.tryCatch program handler) :=
  Keeps.tryCatch body handled

theorem commit : Uploading uploadId commit := of_untouching .commit

theorem deleteTemp
    : Uploading uploadId
        (perform (.deleteObject (temporaryUploadKey organizationId uploadId).value)) :=
  Keeps.perform (fun _ touches => .inl ⟨organizationId, touches.symm⟩)

end Uploading

namespace UploadDocument

open Uploading

theorem deleteTempBestEffort_uploading
    : Uploading uploadId (deleteTempBestEffort (temporaryUploadKey organizationId uploadId)) := by
  refine Uploading.tryCatch ?_ (fun _ => of_commitless (Commitless.pure _))
  refine andThen (of_commitless (Commitless.enter _)) (fun _ => ?_)
  refine andThen deleteTemp (fun deleted => ?_)
  cases deleted
  · exact of_commitless (Commitless.throw _)
  · exact of_commitless (Commitless.pure _)

theorem putTempStream_uploading {body : Bytes} {mediaType : Text}
    : Uploading uploadId (ObjectStorage.putTempStream
        { key := temporaryUploadKey organizationId uploadId, body, mediaType }) := by
  refine andThen (of_commitless (Commitless.enter _)) (fun _ => ?_)
  refine andThen (of_commitless (Commitless.liftExcept _)) (fun _ => ?_)
  refine andThen (Keeps.perform (fun _ touches => .inl ⟨organizationId, touches.symm⟩))
    (fun written => ?_)
  cases written
  · exact of_commitless (Commitless.throw _)
  · refine of_commitless (Commitless.andThen (ObjectStorage.lookup_commitless _) (fun found => ?_))
    cases found with
    | some metadata => exact Commitless.pure _
    | none => exact Commitless.pure _

theorem promoteTempObject_uploading {finalKey : StorageObjectKey} {mediaType : Option Text}
    (final : UploadKey uploadId finalKey.value)
    : Uploading uploadId (ObjectStorage.promoteTempObject {
        sourceKey := temporaryUploadKey organizationId uploadId
        destinationKey := finalKey
        mediaType }) := by
  refine andThen (of_commitless (Commitless.enter _)) (fun _ => ?_)
  refine andThen (of_commitless (Commitless.liftExcept _)) (fun _ => ?_)
  refine andThen (of_commitless (Commitless.liftExcept _)) (fun _ => ?_)
  refine andThen (Keeps.perform (fun _ touches => touches ▸ final)) (fun copied => ?_)
  cases copied
  · exact of_commitless (Commitless.throw _)
  · refine andThen deleteTemp (fun deleted => ?_)
    cases deleted
    · exact of_commitless (Commitless.throw _)
    · refine of_commitless
        (Commitless.andThen (ObjectStorage.lookup_commitless _) (fun found => ?_))
      cases found with
      | some metadata => exact Commitless.pure _
      | none => exact Commitless.throw _

theorem placeObject_uploading {finalKey : StorageObjectKey} {mediaType : Text} {byteSize : Nat}
    (final : UploadKey uploadId finalKey.value)
    : Uploading uploadId (placeObject (temporaryUploadKey organizationId uploadId) finalKey
        mediaType byteSize) := by
  refine andThen (of_commitless (ObjectStorage.headObject_commitless _)) (fun existing => ?_)
  cases existing with
  | none =>
      exact andThen (promoteTempObject_uploading final) (fun _ => of_commitless (Commitless.pure _))
  | some existing =>
      dsimp only
      split
      · exact of_commitless (Commitless.throw _)
      · exact deleteTempBestEffort_uploading

theorem recordFailedUpload_commitless (errorCode : String) (documentId : Option UUID)
    : Commitless (recordFailedUpload services command tenant errorCode documentId) :=
  Commitless.andThen (Commitless.nowOr _) (fun _ => Commitless.recordEvent _ _ _ _ _)

theorem requireCurrentVersion_commitless (document : Document)
    : Commitless (requireCurrentVersion services document) := by
  refine Commitless.andThen (DocumentRepository.getVersion_commitless _ _ _) (fun version => ?_)
  cases version with
  | none => exact Commitless.throw _
  | some version => exact Commitless.pure _

theorem newDocumentPair_commitless (metadata : NormalizedUploadMetadata) (hash : ContentHash)
    (byteSize : Nat) (now : Timestamp)
    : Commitless (newDocumentPair services tenant metadata hash byteSize now) := by
  refine Commitless.andThen Commitless.newUuid (fun _ => ?_)
  refine Commitless.andThen Commitless.newUuid (fun _ => ?_)
  refine Commitless.andThen (Commitless.liftExcept _) (fun _ => ?_)
  exact Commitless.andThen (Commitless.liftExcept _) (fun _ => Commitless.pure _)

/-- Failing the idempotency record, which ends both ways to abandon an upload. -/
theorem failUpload_untouching {fingerprint : Option Text} {code : String} {status : Nat}
    {retryable : Bool} {failure : Exn} {documentId : Option UUID}
    : Untouching (do
        let now ← nowOr none
        let _ ← UploadIdempotencyRepository.fail tenant.organizationId key fingerprint code
          status retryable now
        commit
        recordFailedUpload services command tenant code documentId
        throw failure : App UploadDocumentResult) := by
  refine Untouching.andThen (.of_commitless (Commitless.nowOr _)) (fun now => ?_)
  refine Untouching.andThen (.of_commitless
    (UploadIdempotencyRepository.assigning_commitless _ _ _ _)) (fun _ => ?_)
  refine Untouching.andThen .commit (fun _ => .of_commitless ?_)
  exact Commitless.andThen (recordFailedUpload_commitless _ _) (fun _ => Commitless.throw _)

theorem abandonUpload_uploading {fingerprint : Option Text} {failure : Exn}
    : Uploading uploadId (abandonUpload services command tenant key
        (temporaryUploadKey organizationId uploadId) fingerprint failure) := by
  unfold abandonUpload
  split
  · exact of_untouching failUpload_untouching
  · exact andThen deleteTempBestEffort_uploading (fun _ => of_untouching failUpload_untouching)

/-- Completing the idempotency record, and what is left of the upload afterwards. -/
theorem completeUpload_untouching {fingerprint : Text} {documentId versionId : UUID}
    {status : Nat} {outcome : UploadDocumentOutcome} {eventType : AuditEventType}
    {metadata : List (String × AuditValue)} {result : UploadDocumentResult}
    : Untouching (do
        let now ← nowOr none
        let _ ← UploadIdempotencyRepository.complete tenant.organizationId key fingerprint
          documentId versionId status outcome now
        commit
        let later ← nowOr none
        recordUploadEvent services eventType command tenant later metadata
        return result) := by
  refine Untouching.andThen (.of_commitless (Commitless.nowOr _)) (fun now => ?_)
  refine Untouching.andThen (.of_commitless
    (UploadIdempotencyRepository.assigning_commitless _ _ _ _)) (fun _ => ?_)
  refine Untouching.andThen .commit (fun _ => .of_commitless ?_)
  refine Commitless.andThen (Commitless.nowOr _) (fun later => ?_)
  exact Commitless.andThen (Commitless.recordEvent _ _ _ _ _) (fun _ => Commitless.pure _)

/-- What follows the deletion of a duplicate's temporary object. -/
theorem duplicateCompletion_untouching {fingerprint : Text} {duplicate : Document}
    {byteSize : Nat}
    : Untouching (do
        let version ← requireCurrentVersion services duplicate
        let now ← nowOr none
        let _ ← UploadIdempotencyRepository.complete tenant.organizationId key fingerprint
          duplicate.id version.id 200 .duplicate now
        commit
        let later ← nowOr none
        recordUploadEvent services .documentDuplicateDetected command tenant later
          [("document_id", .uuid duplicate.id), ("byte_size", .int byteSize)]
        return ({
          document := duplicate
          currentVersion := version
          outcome := .duplicate
          duplicate := true
          idempotentReplay := false
          responseStatus := 200
        } : UploadDocumentResult)) :=
  Untouching.andThen (.of_commitless (requireCurrentVersion_commitless _)) (fun _ =>
    completeUpload_untouching)

theorem completeDuplicate_uploading {fingerprint : Text} {duplicate : Document} {byteSize : Nat}
    : Uploading uploadId (completeDuplicate services command tenant key fingerprint
        (temporaryUploadKey organizationId uploadId) duplicate byteSize) :=
  andThen deleteTempBestEffort_uploading (fun _ => of_untouching duplicateCompletion_untouching)

/-- What follows once the bytes are under the final key. -/
theorem markStored_untouching {document : Document} {version : DocumentVersion}
    : Untouching (do
        let storedVersion ← DocumentRepository.markVersionStored services.platform.unicode
          tenant.organizationId document.id version.id
        let now ← nowOr none
        let storedDocument ←
          liftExcept (document.markStored services.platform.unicode tenant.userId now)
        let _ ← DocumentRepository.archiveDocument storedDocument
        return (storedDocument, storedVersion)) := by
  refine .of_commitless ?_
  refine Commitless.andThen (DocumentRepository.markVersionStored_commitless _ _ _) (fun _ => ?_)
  refine Commitless.andThen (Commitless.nowOr _) (fun now => ?_)
  refine Commitless.andThen (Commitless.liftExcept _) (fun stored => ?_)
  exact Commitless.andThen (DocumentRepository.archiveDocument_commitless _) (fun _ =>
    Commitless.pure _)

theorem promoteNewDocument_uploading {document : Document} {version : DocumentVersion}
    {mediaType : Text} {byteSize : Nat} {hash : ContentHash}
    : Uploading uploadId (promoteNewDocument services tenant document version
        (temporaryUploadKey organizationId uploadId) mediaType byteSize hash) := by
  have final
      : Keeps (uploading uploadId) (fun finalKey => UploadKey uploadId finalKey.value)
          (liftExcept (StorageObjectKey.forDocumentContent tenant.organizationId hash)) := by
    refine Keeps.ofExcept (fun finalKey built => ?_)
    obtain ⟨⟨⟩, -, parsed⟩ := exists_of_bind_ok built
    exact .inr ⟨_, _, StorageObjectKey.value_of_parse parsed⟩
  refine Keeps.bind final (fun finalKey inside => ?_)
  exact andThen (placeObject_uploading inside) (fun _ => of_untouching markStored_untouching)

theorem markUploadStorageFailed_untouching {fingerprint : Text} {document : Document}
    {version : DocumentVersion}
    : Untouching (markUploadStorageFailed services command tenant key fingerprint document
        version) := by
  refine Untouching.andThen (.of_commitless
    (DocumentRepository.markVersionFailed_commitless _ _ _)) (fun _ => ?_)
  refine Untouching.andThen (.of_commitless (Commitless.nowOr _)) (fun now => ?_)
  refine Untouching.andThen (.of_commitless (Commitless.liftExcept _)) (fun failed => ?_)
  refine Untouching.andThen (.of_commitless
    (DocumentRepository.archiveDocument_commitless _)) (fun _ => ?_)
  refine Untouching.andThen (.of_commitless (Commitless.nowOr _)) (fun later => ?_)
  refine Untouching.andThen (.of_commitless
    (UploadIdempotencyRepository.assigning_commitless _ _ _ _)) (fun _ => ?_)
  exact Untouching.andThen .commit (fun _ => .of_commitless (recordFailedUpload_commitless _ _))

/-- The handler of a failed promotion. -/
theorem storageFailure_untouching {fingerprint : Text} {document : Document}
    {version : DocumentVersion}
    : Untouching (do
        markUploadStorageFailed services command tenant key fingerprint document version
        throw (.objectStorageUnavailable "Object storage is unavailable.")
        : App UploadDocumentResult) :=
  Untouching.andThen markUploadStorageFailed_untouching (fun _ =>
    .of_commitless (Commitless.throw _))

theorem storeNewDocument_uploading {upload : PreparedUpload} {document : Document}
    {version : DocumentVersion}
    : Uploading uploadId (storeNewDocument services command tenant key
        (temporaryUploadKey organizationId uploadId) upload document version) := by
  refine Uploading.tryCatch ?_ (fun _ => of_untouching storageFailure_untouching)
  exact andThen promoteNewDocument_uploading (fun _ => of_untouching completeUpload_untouching)

theorem resolveRefusedContent_uploading {upload : PreparedUpload} {refusal : Exn}
    : Uploading uploadId (resolveRefusedContent services command tenant key
        (temporaryUploadKey organizationId uploadId) upload refusal) := by
  refine andThen (of_commitless Commitless.rollback) (fun _ => ?_)
  refine andThen (of_commitless
    (DocumentRepository.findDocumentByTenantContentHash_commitless _ _)) (fun found => ?_)
  cases found with
  | none => exact of_commitless (Commitless.throw _)
  | some duplicate => exact completeDuplicate_uploading

theorem addNewDocument_untouching {document : Document} {version : DocumentVersion}
    : Untouching (tryCatch (do
        let document ←
          DocumentRepository.addDocument services.platform.unicode document version
        commit
        return .ok document)
        (fun failure =>
          match failure with
          | .duplicateDocumentContent message =>
              return .error (.duplicateDocumentContent message)
          | other => throw other) : App (Except Exn Document)) := by
  refine Untouching.tryCatch ?_ (fun failure => ?_)
  · refine Untouching.andThen (.of_commitless (addDocument_commitless _ _)) (fun _ => ?_)
    exact Untouching.andThen .commit (fun _ => .of_commitless (Commitless.pure _))
  · split
    · exact .of_commitless (Commitless.pure _)
    · exact .of_commitless (Commitless.throw _)

theorem processStoredUpload_uploading {upload : PreparedUpload}
    : Uploading uploadId (processStoredUpload services command tenant key
        (temporaryUploadKey organizationId uploadId) upload) := by
  refine andThen (of_commitless
    (DocumentRepository.findDocumentByTenantContentHash_commitless _ _)) (fun found => ?_)
  cases found with
  | some existing => exact completeDuplicate_uploading
  | none =>
      refine andThen (of_commitless (Commitless.nowOr _)) (fun now => ?_)
      refine andThen (of_commitless (newDocumentPair_commitless _ _ _ _)) (fun rows => ?_)
      refine andThen (of_untouching addNewDocument_untouching) (fun added => ?_)
      cases added with
      | ok document => exact storeNewDocument_uploading
      | error refusal => exact resolveRefusedContent_uploading

/-- The `try` around the temporary object. -/
theorem storeTemp_uploading {upload : PreparedUpload}
    : Uploading uploadId (tryCatch (do
        let now ← nowOr none
        let _ ← UploadIdempotencyRepository.finalizeFingerprint tenant.organizationId key
          upload.fingerprint now
        let _ ← ObjectStorage.putTempStream {
          key := temporaryUploadKey organizationId uploadId
          body := upload.streamed.body
          mediaType := upload.metadata.mediaType
        }
        commit
        return .ok ())
        (fun failure => return .error failure) : App (Except Exn Unit)) := by
  refine Uploading.tryCatch ?_ (fun _ => of_commitless (Commitless.pure _))
  refine andThen (of_commitless (Commitless.nowOr _)) (fun now => ?_)
  refine andThen (of_commitless
    (UploadIdempotencyRepository.assigning_commitless _ _ _ _)) (fun _ => ?_)
  refine andThen putTempStream_uploading (fun _ => ?_)
  exact andThen Uploading.commit (fun _ => of_commitless (Commitless.pure _))

theorem replayCompleted_commitless (record : UploadIdempotencyRecord)
    : Commitless (replayCompleted services record tenant) := by
  unfold replayCompleted
  split
  · refine Commitless.andThen (DocumentRepository.getDocument_commitless _ _) (fun found => ?_)
    cases found with
    | none => exact Commitless.throw _
    | some document =>
        refine Commitless.andThen
          (DocumentRepository.getVersion_commitless _ _ _) (fun version => ?_)
        cases version with
        | none => exact Commitless.throw _
        | some version => exact Commitless.pure _
  · exact Commitless.throw _

/-- Only the retry of a failed upload does more with a record than answering from it. -/
theorem handleExistingRecord_commitless {record : UploadIdempotencyRecord}
    (answered : ¬ (record.status = .failed ∧ record.retryable = true))
    : Commitless (handleExistingRecord services command tenant record) := by
  unfold handleExistingRecord
  split
  · exact Commitless.throw _
  · exact Commitless.andThen (Commitless.liftExcept _) (fun _ => replayCompleted_commitless _)
  · rename_i failed
    rw [if_neg (fun retryable => answered ⟨failed, retryable⟩)]
    dsimp only
    split
    · exact Commitless.andThen (Commitless.liftExcept _) (fun _ => Commitless.throw _)
    · exact Commitless.throw _

end UploadDocument

end WorkflowForge
