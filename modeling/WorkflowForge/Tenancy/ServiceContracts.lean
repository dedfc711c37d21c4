import WorkflowForge.Tenancy.RepositoryContracts

/-! The services keep the contract of the tenant they are called in. -/

namespace WorkflowForge

open Python Transactions Concurrency

variable {member : UUID → UUID → Prop} {services : Services} {tenant : TenantContext}

/-- The final key of content lies in the tenant's area. -/
theorem underTenant_documentContent {organizationId : UUID} {hash : ContentHash}
    {key : StorageObjectKey}
    (built : StorageObjectKey.forDocumentContent organizationId hash = .ok key)
    : UnderTenant organizationId key.value := by
  obtain ⟨⟨⟩, -, parsed⟩ := exists_of_bind_ok built
  rw [StorageObjectKey.value_of_parse parsed]
  refine .inr (.inl ?_)
  unfold documentContentKeyText
  generalize documentContentPrefix organizationId = area
  exact ⟨hash.value.take 2 ++ '/' :: (hash.value.drop 2).take 2 ++ '/' :: hash.value,
    by simp only [List.append_assoc, List.cons_append]⟩

/-- The key of a temporary object lies in the tenant's area. -/
theorem underTenant_temporaryUpload {organizationId uploadId : UUID} {key : StorageObjectKey}
    (built : StorageObjectKey.forTemporaryUpload organizationId uploadId = .ok key)
    : UnderTenant organizationId key.value := by
  obtain ⟨⟨⟩, -, rest⟩ := exists_of_bind_ok built
  obtain ⟨⟨⟩, -, parsed⟩ := exists_of_bind_ok rest
  rw [StorageObjectKey.value_of_parse parsed]
  refine .inl ?_
  unfold temporaryPrefix
  generalize "tmp/".toList = area
  exact ⟨uuidText uploadId, by simp only [List.append_assoc, List.cons_append, List.nil_append]⟩

/-- A freshly created version belongs to its creator's organization. -/
theorem DocumentVersion.belongsTo_of_create {u : Unicode} {id documentId : UUID}
    {versionNumber : Nat} {originalFilename mediaType : Text} {byteSize : Int}
    {contentHash : ContentHash} {storageState : DocumentStorageState} {createdAt : Timestamp}
    {version : DocumentVersion} (trusted : member tenant.userId tenant.organizationId)
    (created
      : DocumentVersion.create u id tenant.organizationId documentId versionNumber
          originalFilename mediaType byteSize contentHash storageState createdAt tenant.userId
        = .ok version)
    : version.BelongsTo member tenant.organizationId := by
  obtain ⟨key, -, rest⟩ := exists_of_bind_ok created
  obtain ⟨name, media, accepted, rfl⟩ := DocumentVersion.postInit_eq_ok.mp rest
  refine { row := ⟨rfl, ?_⟩, key := prefix_of_ensureKeyIsTenantSafe accepted.key }
  intro user named
  rw [List.mem_singleton.mp named]
  exact trusted

/-- A freshly registered document belongs to its creator's organization. -/
theorem Belongs.register {u : Unicode} {id : UUID} {displayFilename : Text}
    {sourceType : DocumentSourceType} {sourceReference : Option Text}
    {version : DocumentVersion} {timestamp : Timestamp} {document : Document}
    (trusted : member tenant.userId tenant.organizationId)
    (registered
      : Document.register u id tenant.organizationId displayFilename sourceType
          sourceReference version tenant.userId timestamp = .ok document)
    : Belongs member tenant.organizationId .documents document := by
  obtain ⟨name, reference, -, rfl, -⟩ := Document.register_eq_ok registered
  refine ⟨rfl, ?_⟩
  intro user named
  simp only [rowUsers, Option.toList_none, List.mem_cons, List.not_mem_nil, or_false] at named
  rcases named with rfl | rfl <;> exact trusted

/-- A mutation by the tenant's user keeps a document in its organization. -/
theorem Belongs.mutated {u : Unicode} {document result : Document} {timestamp : Timestamp}
    {changes : Document → Document} (trusted : member tenant.userId tenant.organizationId)
    (belongs : Belongs member tenant.organizationId .documents document)
    (kept
      : (changes document).organizationId = document.organizationId
        ∧ (changes document).createdByUserId = document.createdByUserId
        ∧ (changes document).archivedByUserId = document.archivedByUserId)
    (mutated : document.mutated u tenant.userId timestamp changes = .ok result)
    : Belongs member tenant.organizationId .documents result := by
  obtain ⟨name, reference, -, rfl⟩ :=
    Document.postInit_eq_ok.mp (Document.postInit_of_mutated mutated)
  have users := belongs.users
  refine ⟨(congrArg some kept.1).trans belongs.owner, ?_⟩
  simp only [rowUsers, List.forall_mem_cons] at users ⊢
  rw [kept.2.1, kept.2.2]
  exact ⟨users.1, trusted, users.2.2⟩

theorem Belongs.transitionTo {u : Unicode} {document result : Document}
    {status : DocumentStatus} {timestamp : Timestamp}
    (trusted : member tenant.userId tenant.organizationId)
    (belongs : Belongs member tenant.organizationId .documents document)
    (moved : document.transitionTo u status tenant.userId timestamp = .ok result)
    : Belongs member tenant.organizationId .documents result := by
  obtain ⟨⟨⟩, -, rest⟩ := exists_of_bind_ok moved
  split at rest
  · cases rest
  · exact belongs.mutated trusted ⟨rfl, rfl, rfl⟩ rest

theorem Belongs.setCurrentVersion {u : Unicode} {document result : Document}
    {version : DocumentVersion} {timestamp : Timestamp}
    (trusted : member tenant.userId tenant.organizationId)
    (belongs : Belongs member tenant.organizationId .documents document)
    (moved : document.setCurrentVersion u version tenant.userId timestamp = .ok result)
    : Belongs member tenant.organizationId .documents result := by
  obtain ⟨⟨⟩, -, rest⟩ := exists_of_bind_ok moved
  dsimp only at rest
  by_cases document' : version.documentId ≠ document.id
  · rw [if_pos document'] at rest
    cases rest
  rw [if_neg document'] at rest
  by_cases owner : version.organizationId ≠ document.organizationId
  · rw [if_pos owner] at rest
    cases rest
  rw [if_neg owner] at rest
  exact belongs.mutated trusted ⟨rfl, rfl, rfl⟩ rest

theorem Belongs.archiveDocument {u : Unicode} {document result : Document}
    {timestamp : Timestamp} (trusted : member tenant.userId tenant.organizationId)
    (belongs : Belongs member tenant.organizationId .documents document)
    (archived : document.archive u tenant.userId timestamp = .ok result)
    : Belongs member tenant.organizationId .documents result := by
  obtain ⟨⟨⟩, -, rest⟩ := exists_of_bind_ok archived
  obtain ⟨⟨⟩, -, rest⟩ := exists_of_bind_ok rest
  split at rest
  · cases rest
  obtain ⟨name, reference, -, rfl⟩ := Document.postInit_eq_ok.mp rest
  have users := belongs.users
  refine ⟨belongs.owner, ?_⟩
  simp only [rowUsers, Option.toList_some, List.forall_mem_cons] at users ⊢
  exact ⟨users.1, trusted, trusted, by simp⟩

section

variable (trusted : member tenant.userId tenant.organizationId)

include trusted

theorem recordEvent_honours (eventType : AuditEventType) (outcome : AuditOutcome)
    (requestContext : Option AuditRequestContext) (now : Timestamp)
    (metadata : List (String × AuditValue))
    : Honours member tenant.organizationId
        (recordEvent services eventType outcome tenant requestContext now metadata)
        (fun _ => True) := by
  unfold recordEvent
  split
  · exact Keeps.bind newUuid_honours (fun _ _ => AuditRepository.record_honours trusted)
  · exact Keeps.pure trivial

-----------------------------------------------------------------------------------------
-- The document service
-----------------------------------------------------------------------------------------

namespace DocumentService

theorem newRegistration_honours (command : DocumentRegistrationCommand)
    (contentHash : ContentHash) (timestamp : Timestamp)
    : Honours member tenant.organizationId
        (newRegistration services command tenant contentHash timestamp)
        (fun pair => Belongs member tenant.organizationId .documents pair.1
          ∧ pair.2.BelongsTo member tenant.organizationId) := by
  refine Keeps.bind newUuid_honours (fun documentId _ => ?_)
  refine Keeps.bind newUuid_honours (fun versionId _ => ?_)
  refine Keeps.bind (liftExcept_honours (fun _ created =>
    DocumentVersion.belongsTo_of_create trusted created)) (fun version content => ?_)
  refine Keeps.bind (liftExcept_honours (fun _ registered =>
    Belongs.register trusted registered)) (fun document row => ?_)
  exact Keeps.pure ⟨row, content⟩

theorem registerDocument_honours (command : DocumentRegistrationCommand)
    (now : Option Datetime)
    : Honours member tenant.organizationId (registerDocument services command tenant now)
        (fun _ => True) := by
  refine Keeps.bind (check_honours _) (fun _ _ => ?_)
  refine Keeps.bind (nowOr_honours _) (fun timestamp _ => ?_)
  refine Keeps.bind (check_honours _) (fun contentHash _ => ?_)
  refine Keeps.bind (DocumentRepository.findDocumentByTenantContentHash_honours _)
    (fun existing _ => ?_)
  cases existing with
  | some document => exact Keeps.pure trivial
  | none =>
      refine Keeps.bind (newRegistration_honours trusted command contentHash timestamp) ?_
      rintro ⟨document, version⟩ ⟨row, content⟩
      refine Keeps.tryCatch ?_ (fun failure => ?_)
      · refine Keeps.bind (DocumentRepository.addDocument_honours row content) (fun _ _ => ?_)
        refine Keeps.bind (recordEvent_honours trusted _ _ _ _ _) (fun _ _ => ?_)
        exact Keeps.bind commit_honours (fun _ _ => Keeps.pure trivial)
      · cases failure
        case duplicateDocumentContent message =>
          refine Keeps.bind rollback_honours (fun _ _ => ?_)
          refine Keeps.bind (DocumentRepository.findDocumentByTenantContentHash_honours _)
            (fun found _ => ?_)
          cases found
          · exact Keeps.throw _
          · exact Keeps.pure trivial
        all_goals exact Keeps.bind rollback_honours (fun _ _ => Keeps.throw _)

omit trusted in
theorem getDocument_honours (documentId : UUID)
    : Honours member tenant.organizationId (getDocument services documentId tenant)
        (Belongs member tenant.organizationId .documents) := by
  refine Keeps.bind (check_honours _) (fun _ _ => ?_)
  refine Keeps.bind (DocumentRepository.getDocument_honours _) (fun found good => ?_)
  cases found with
  | none => exact Keeps.throw _
  | some document => exact Keeps.pure (good document rfl)

theorem createVersion_honours (command : DocumentVersionCreationCommand)
    (now : Option Datetime)
    : Honours member tenant.organizationId (createVersion services command tenant now)
        (fun _ => True) := by
  refine Keeps.bind (check_honours _) (fun _ _ => ?_)
  refine Keeps.bind (nowOr_honours _) (fun timestamp _ => ?_)
  refine Keeps.bind (DocumentRepository.getDocumentForUpdate_honours _) (fun found good => ?_)
  cases found with
  | none => exact Keeps.throw _
  | some document =>
      refine Keeps.bind (DocumentRepository.listVersions_honours _) (fun versions _ => ?_)
      refine Keeps.bind newUuid_honours (fun versionId _ => ?_)
      refine Keeps.bind (check_honours _) (fun contentHash _ => ?_)
      refine Keeps.bind (liftExcept_honours (fun _ created =>
        DocumentVersion.belongsTo_of_create trusted created)) (fun version content => ?_)
      refine Keeps.bind (liftExcept_honours (fun _ moved =>
        (good document rfl).setCurrentVersion trusted moved)) (fun updated row => ?_)
      refine orRollback_honours ?_
      refine Keeps.bind (DocumentRepository.addVersion_honours content) (fun saved _ => ?_)
      refine Keeps.bind (DocumentRepository.setCurrentVersion_honours row) (fun _ _ => ?_)
      refine Keeps.bind (recordEvent_honours trusted _ _ _ _ _) (fun _ _ => ?_)
      exact Keeps.bind commit_honours (fun _ _ => Keeps.pure trivial)

theorem archiveDocumentWithLock_honours (command : DocumentArchiveCommand)
    (now : Option Datetime)
    : Honours member tenant.organizationId
        (archiveDocumentWithLock services command tenant now) (fun _ => True) := by
  refine Keeps.bind (check_honours _) (fun _ _ => ?_)
  refine Keeps.bind (nowOr_honours _) (fun timestamp _ => ?_)
  refine Keeps.bind (DocumentRepository.getDocumentForUpdate_honours _) (fun found good => ?_)
  cases found with
  | none => exact Keeps.throw _
  | some document =>
      dsimp only
      split
      · exact Keeps.throw _
      refine Keeps.bind (liftExcept_honours (fun _ archived =>
        (good document rfl).archiveDocument trusted archived)) (fun archived row => ?_)
      refine orRollback_honours ?_
      refine Keeps.bind (DocumentRepository.archiveDocument_honours row) (fun saved _ => ?_)
      refine Keeps.bind (recordEvent_honours trusted _ _ _ _ _) (fun _ _ => ?_)
      exact Keeps.bind commit_honours (fun _ _ => Keeps.pure trivial)

theorem archiveDocument_honours (documentId : UUID) (now : Option Datetime)
    (auditContext : Option AuditRequestContext)
    : Honours member tenant.organizationId
        (archiveDocument services documentId tenant now auditContext) (fun _ => True) :=
  Keeps.bind (getDocument_honours documentId)
    (fun _ _ => archiveDocumentWithLock_honours trusted _ now)

omit trusted in
theorem getVersion_honours (documentId versionId : UUID)
    : Honours member tenant.organizationId (getVersion services tenant documentId versionId)
        (DocumentVersion.BelongsTo member tenant.organizationId) := by
  refine Keeps.bind (check_honours _) (fun _ _ => ?_)
  refine Keeps.bind (DocumentRepository.getVersion_honours _ _) (fun found good => ?_)
  cases found with
  | none => exact Keeps.throw _
  | some version => exact Keeps.pure (good version rfl)

omit trusted in
theorem requireArtifact_honours (document : Document) (artifactId : UUID)
    : Honours member tenant.organizationId
        (requireArtifact services document tenant artifactId)
        (DocumentArtifact.BelongsTo member tenant.organizationId) := by
  refine Keeps.bind (DocumentRepository.getArtifact_honours _ _) (fun found good => ?_)
  cases found with
  | none => exact Keeps.throw _
  | some artifact => exact Keeps.pure (good artifact rfl)

theorem createArtifactUrl_honours (command : DocumentDownloadCommand) (artifactId : UUID)
    (timestamp : Timestamp)
    : Honours member tenant.organizationId
        (createArtifactUrl services command artifactId tenant timestamp) (fun _ => True) := by
  refine Keeps.bind (check_honours _) (fun _ _ => ?_)
  refine Keeps.bind (getDocument_honours _) (fun document _ => ?_)
  refine Keeps.bind (requireArtifact_honours _ _) (fun artifact belongs => ?_)
  refine Keeps.bind (ObjectStorage.createDownloadUrl_honours (.inr (.inr belongs.key)))
    (fun url _ => ?_)
  exact Keeps.bind (recordEvent_honours trusted _ _ _ _ _) (fun _ _ => Keeps.pure trivial)

theorem createVersionUrl_honours (command : DocumentDownloadCommand) (timestamp : Timestamp)
    : Honours member tenant.organizationId
        (createVersionUrl services command tenant timestamp) (fun _ => True) := by
  refine Keeps.bind (check_honours _) (fun _ _ => ?_)
  refine Keeps.bind (getDocument_honours _) (fun document _ => ?_)
  refine Keeps.bind (DocumentRepository.getVersion_honours _ _) (fun found good => ?_)
  cases found with
  | none => exact Keeps.throw _
  | some version =>
      refine Keeps.bind
        (ObjectStorage.createDownloadUrl_honours (.inr (.inl (good version rfl).key)))
        (fun url _ => ?_)
      exact Keeps.bind (recordEvent_honours trusted _ _ _ _ _) (fun _ _ => Keeps.pure trivial)

theorem createDownloadUrl_honours (command : DocumentDownloadCommand) (now : Option Datetime)
    : Honours member tenant.organizationId (createDownloadUrl services command tenant now)
        (fun _ => True) := by
  refine Keeps.bind (nowOr_honours _) (fun timestamp _ => ?_)
  cases command.artifactId with
  | some artifactId => exact createArtifactUrl_honours trusted command artifactId timestamp
  | none => exact createVersionUrl_honours trusted command timestamp

theorem registerArtifact_honours (command : DocumentArtifactRegistrationCommand)
    (now : Option Datetime)
    : Honours member tenant.organizationId (registerArtifact services command tenant now)
        (fun _ => True) := by
  refine Keeps.bind (check_honours _) (fun _ _ => ?_)
  refine Keeps.bind (nowOr_honours _) (fun timestamp _ => ?_)
  refine Keeps.bind (getDocument_honours _) (fun document _ => ?_)
  have versionHonours
      : Honours member tenant.organizationId (artifactVersion services command tenant)
          (fun _ => True) := by
    unfold artifactVersion
    split
    · exact Keeps.pure trivial
    · exact Keeps.bind (getVersion_honours _ _) (fun _ _ => Keeps.pure trivial)
  refine Keeps.bind versionHonours (fun version _ => ?_)
  refine Keeps.bind newUuid_honours (fun artifactId _ => ?_)
  refine Keeps.bind (check_honours _) (fun contentHash _ => ?_)
  have belongs
      : ∀ {draft artifact : DocumentArtifact},
          draft.organizationId = tenant.organizationId
          → draft.createdByUserId = tenant.userId
          → DocumentArtifact.create services.platform.unicode draft = .ok artifact
          → artifact.BelongsTo member tenant.organizationId := by
    intro draft artifact owner creator created
    obtain ⟨mediaType, metadata, -, -, -, safe, rfl⟩ := DocumentArtifact.create_eq_ok created
    refine { row := ⟨congrArg some owner, ?_⟩, key := ?_ }
    · intro user named
      rw [List.mem_singleton.mp named]
      exact creator ▸ trusted
    · have starts := prefix_of_ensureKeyIsTenantSafe safe
      rw [owner] at starts
      exact (artifactPrefix_documents tenant.organizationId draft.documentId).trans starts
  refine Keeps.bind (liftExcept_honours (fun _ created => belongs rfl rfl created))
    (fun artifact row => ?_)
  refine Keeps.bind (check_honours _) (fun _ _ => ?_)
  refine orRollback_honours ?_
  refine Keeps.bind (DocumentRepository.addArtifact_honours row) (fun saved _ => ?_)
  refine Keeps.bind (recordEvent_honours trusted _ _ _ _ _) (fun _ _ => ?_)
  exact Keeps.bind commit_honours (fun _ _ => Keeps.pure trivial)

end DocumentService

-----------------------------------------------------------------------------------------
-- Uploads
-----------------------------------------------------------------------------------------

namespace UploadDocument

theorem recordFailedUpload_honours (command : UploadDocumentCommand) (errorCode : String)
    (documentId : Option UUID)
    : Honours member tenant.organizationId
        (recordFailedUpload services command tenant errorCode documentId) (fun _ => True) :=
  Keeps.bind (nowOr_honours _) (fun _ _ => recordEvent_honours trusted _ _ _ _ _)

omit trusted in
theorem deleteTempBestEffort_honours {key : StorageObjectKey}
    (inside : UnderTenant tenant.organizationId key.value)
    : Honours member tenant.organizationId (deleteTempBestEffort key) (fun _ => True) :=
  Keeps.tryCatch (ObjectStorage.deleteObject_honours inside) (fun _ => Keeps.pure trivial)

omit trusted in
theorem requireCurrentVersion_honours {document : Document}
    (belongs : Belongs member tenant.organizationId .documents document)
    : Honours member tenant.organizationId (requireCurrentVersion services document)
        (DocumentVersion.BelongsTo member tenant.organizationId) := by
  have owner : document.organizationId = tenant.organizationId := Option.some.inj belongs.owner
  unfold requireCurrentVersion
  rw [owner]
  refine Keeps.bind (DocumentRepository.getVersion_honours _ _) (fun found good => ?_)
  cases found with
  | none => exact Keeps.throw _
  | some version => exact Keeps.pure (good version rfl)

theorem newDocumentPair_honours (metadata : NormalizedUploadMetadata)
    (contentHash : ContentHash) (byteSize : Nat) (now : Timestamp)
    : Honours member tenant.organizationId
        (newDocumentPair services tenant metadata contentHash byteSize now)
        (fun pair => Belongs member tenant.organizationId .documents pair.1
          ∧ pair.2.BelongsTo member tenant.organizationId) := by
  refine Keeps.bind newUuid_honours (fun documentId _ => ?_)
  refine Keeps.bind newUuid_honours (fun versionId _ => ?_)
  refine Keeps.bind (liftExcept_honours (fun _ created =>
    DocumentVersion.belongsTo_of_create trusted created)) (fun version content => ?_)
  refine Keeps.bind (liftExcept_honours (fun _ registered =>
    Belongs.register trusted registered)) (fun document row => ?_)
  exact Keeps.pure ⟨row, content⟩

theorem abandonUpload_honours (command : UploadDocumentCommand) (key : Text)
    {tempKey : StorageObjectKey} (fingerprint : Option Text) (failure : Exn)
    (inside : UnderTenant tenant.organizationId tempKey.value)
    : Honours member tenant.organizationId
        (abandonUpload services command tenant key tempKey fingerprint failure)
        (fun _ => True) := by
  have unavailable
      : Honours member tenant.organizationId
          (do
            deleteTempBestEffort tempKey
            let now ← nowOr none
            let _ ← UploadIdempotencyRepository.fail tenant.organizationId key fingerprint
              "object_storage_unavailable" 503 true now
            commit
            recordFailedUpload services command tenant "object_storage_unavailable" none
            throw (.objectStorageUnavailable "Object storage is unavailable."))
          (fun _ : UploadDocumentResult => True) := by
    refine Keeps.bind (deleteTempBestEffort_honours inside) (fun _ _ => ?_)
    refine Keeps.bind (nowOr_honours _) (fun _ _ => ?_)
    refine Keeps.bind (UploadIdempotencyRepository.fail_honours _ _ _ _ _ _) (fun _ _ => ?_)
    refine Keeps.bind commit_honours (fun _ _ => ?_)
    exact Keeps.bind (recordFailedUpload_honours trusted _ _ _) (fun _ _ => Keeps.throw _)
  cases failure
  case uploadValidation code message =>
    refine Keeps.bind (nowOr_honours _) (fun _ _ => ?_)
    refine Keeps.bind (UploadIdempotencyRepository.fail_honours _ _ _ _ _ _) (fun _ _ => ?_)
    refine Keeps.bind commit_honours (fun _ _ => ?_)
    exact Keeps.bind (recordFailedUpload_honours trusted _ _ _) (fun _ _ => Keeps.throw _)
  all_goals exact unavailable

theorem completeDuplicate_honours (command : UploadDocumentCommand) (key fingerprint : Text)
    {tempKey : StorageObjectKey} {duplicate : Document} (byteSize : Nat)
    (inside : UnderTenant tenant.organizationId tempKey.value)
    (belongs : Belongs member tenant.organizationId .documents duplicate)
    : Honours member tenant.organizationId
        (completeDuplicate services command tenant key fingerprint tempKey duplicate byteSize)
        (fun _ => True) := by
  refine Keeps.bind (deleteTempBestEffort_honours inside) (fun _ _ => ?_)
  refine Keeps.bind (requireCurrentVersion_honours belongs) (fun version _ => ?_)
  refine Keeps.bind (nowOr_honours _) (fun _ _ => ?_)
  refine Keeps.bind (UploadIdempotencyRepository.complete_honours _ _ _ _ _ _ _) (fun _ _ => ?_)
  refine Keeps.bind commit_honours (fun _ _ => ?_)
  refine Keeps.bind (nowOr_honours _) (fun _ _ => ?_)
  exact Keeps.bind (recordEvent_honours trusted _ _ _ _ _) (fun _ _ => Keeps.pure trivial)

omit trusted in
theorem placeObject_honours {tempKey finalKey : StorageObjectKey} (mediaType : Text)
    (byteSize : Nat) (temporary : UnderTenant tenant.organizationId tempKey.value)
    (final : UnderTenant tenant.organizationId finalKey.value)
    : Honours member tenant.organizationId (placeObject tempKey finalKey mediaType byteSize)
        (fun _ => True) := by
  refine Keeps.bind (ObjectStorage.headObject_honours final) (fun found _ => ?_)
  cases found with
  | none =>
      exact Keeps.bind (ObjectStorage.promoteTempObject_honours temporary final)
        (fun _ _ => Keeps.pure trivial)
  | some existing =>
      dsimp only
      split
      · exact Keeps.throw _
      · exact deleteTempBestEffort_honours temporary

theorem promoteNewDocument_honours {document : Document} {version : DocumentVersion}
    {tempKey : StorageObjectKey} (mediaType : Text) (byteSize : Nat)
    (contentHash : ContentHash) (inside : UnderTenant tenant.organizationId tempKey.value)
    (belongs : Belongs member tenant.organizationId .documents document)
    : Honours member tenant.organizationId
        (promoteNewDocument services tenant document version tempKey mediaType byteSize
          contentHash)
        (fun _ => True) := by
  refine Keeps.bind (liftExcept_honours (fun _ built => underTenant_documentContent built))
    (fun finalKey final => ?_)
  refine Keeps.bind (placeObject_honours _ _ inside final) (fun _ _ => ?_)
  refine Keeps.bind (DocumentRepository.markVersionStored_honours _ _) (fun _ _ => ?_)
  refine Keeps.bind (nowOr_honours _) (fun _ _ => ?_)
  refine Keeps.bind (liftExcept_honours (fun _ moved => belongs.transitionTo trusted moved))
    (fun stored row => ?_)
  exact Keeps.bind (DocumentRepository.archiveDocument_honours row)
    (fun _ _ => Keeps.pure trivial)

theorem markUploadStorageFailed_honours (command : UploadDocumentCommand)
    (key fingerprint : Text) {document : Document} (version : DocumentVersion)
    (belongs : Belongs member tenant.organizationId .documents document)
    : Honours member tenant.organizationId
        (markUploadStorageFailed services command tenant key fingerprint document version)
        (fun _ => True) := by
  refine Keeps.bind (DocumentRepository.markVersionFailed_honours _ _) (fun _ _ => ?_)
  refine Keeps.bind (nowOr_honours _) (fun _ _ => ?_)
  refine Keeps.bind (liftExcept_honours (fun _ moved => belongs.transitionTo trusted moved))
    (fun failed row => ?_)
  refine Keeps.bind (DocumentRepository.archiveDocument_honours row) (fun _ _ => ?_)
  refine Keeps.bind (nowOr_honours _) (fun _ _ => ?_)
  refine Keeps.bind (UploadIdempotencyRepository.fail_honours _ _ _ _ _ _) (fun _ _ => ?_)
  refine Keeps.bind commit_honours (fun _ _ => ?_)
  exact recordFailedUpload_honours trusted _ _ _

theorem storeNewDocument_honours (command : UploadDocumentCommand) (key : Text)
    {tempKey : StorageObjectKey} (upload : PreparedUpload) {document : Document}
    (version : DocumentVersion) (inside : UnderTenant tenant.organizationId tempKey.value)
    (belongs : Belongs member tenant.organizationId .documents document)
    : Honours member tenant.organizationId
        (storeNewDocument services command tenant key tempKey upload document version)
        (fun _ => True) := by
  refine Keeps.tryCatch ?_ (fun _ => ?_)
  · refine Keeps.bind (promoteNewDocument_honours trusted _ _ _ inside belongs) ?_
    rintro ⟨storedDocument, storedVersion⟩ -
    refine Keeps.bind (nowOr_honours _) (fun _ _ => ?_)
    refine Keeps.bind (UploadIdempotencyRepository.complete_honours _ _ _ _ _ _ _)
      (fun _ _ => ?_)
    refine Keeps.bind commit_honours (fun _ _ => ?_)
    refine Keeps.bind (nowOr_honours _) (fun _ _ => ?_)
    exact Keeps.bind (recordEvent_honours trusted _ _ _ _ _) (fun _ _ => Keeps.pure trivial)
  · exact Keeps.bind (markUploadStorageFailed_honours trusted _ _ _ _ belongs)
      (fun _ _ => Keeps.throw _)

theorem resolveRefusedContent_honours (command : UploadDocumentCommand) (key : Text)
    {tempKey : StorageObjectKey} (upload : PreparedUpload) (refusal : Exn)
    (inside : UnderTenant tenant.organizationId tempKey.value)
    : Honours member tenant.organizationId
        (resolveRefusedContent services command tenant key tempKey upload refusal)
        (fun _ => True) := by
  refine Keeps.bind rollback_honours (fun _ _ => ?_)
  refine Keeps.bind (DocumentRepository.findDocumentByTenantContentHash_honours _)
    (fun found good => ?_)
  cases found with
  | none => exact Keeps.throw _
  | some duplicate =>
      exact completeDuplicate_honours trusted _ _ _ _ inside (good duplicate rfl)

theorem processStoredUpload_honours (command : UploadDocumentCommand) (key : Text)
    {tempKey : StorageObjectKey} (upload : PreparedUpload)
    (inside : UnderTenant tenant.organizationId tempKey.value)
    : Honours member tenant.organizationId
        (processStoredUpload services command tenant key tempKey upload)
        (fun _ => True) := by
  refine Keeps.bind (DocumentRepository.findDocumentByTenantContentHash_honours _)
    (fun found good => ?_)
  cases found with
  | some existing =>
      exact completeDuplicate_honours trusted _ _ _ _ inside (good existing rfl)
  | none =>
      refine Keeps.bind (nowOr_honours _) (fun _ _ => ?_)
      refine Keeps.bind (newDocumentPair_honours trusted _ _ _ _) ?_
      rintro ⟨document, version⟩ ⟨row, content⟩
      refine Keeps.bind (Keeps.tryCatch ?added (fun failure => ?refused))
        (fun added (good : ∀ document, added = .ok document
          → Belongs member tenant.organizationId .documents document) => ?_)
      case added =>
        refine Keeps.bind (DocumentRepository.addDocument_honours row content)
          (fun saved good => ?_)
        refine Keeps.bind commit_honours (fun _ _ => Keeps.pure ?_)
        intro document same
        cases same
        exact good
      case refused =>
        cases failure
        case duplicateDocumentContent message => exact Keeps.pure (by simp)
        all_goals exact Keeps.throw _
      cases added with
      | ok document =>
          exact storeNewDocument_honours trusted _ _ _ _ inside (good document rfl)
      | error refusal => exact resolveRefusedContent_honours trusted _ _ _ _ inside

theorem processReservedUpload_honours (command : UploadDocumentCommand) (key : Text)
    : Honours member tenant.organizationId
        (processReservedUpload services command tenant key) (fun _ => True) := by
  refine Keeps.bind newUuid_honours (fun uploadId _ => ?_)
  refine Keeps.bind (liftExcept_honours (fun _ built => underTenant_temporaryUpload built))
    (fun tempKey inside => ?_)
  split
  · exact abandonUpload_honours trusted _ _ _ _ inside
  · rename_i upload prepared
    have stored
        : Honours member tenant.organizationId
            (tryCatch (do
              let now ← nowOr none
              let _ ← UploadIdempotencyRepository.finalizeFingerprint tenant.organizationId key
                upload.fingerprint now
              let _ ← ObjectStorage.putTempStream {
                key := tempKey
                body := upload.streamed.body
                mediaType := upload.metadata.mediaType
              }
              commit
              return .ok ())
              (fun failure => return .error failure))
            (fun _ : Except Exn Unit => True) := by
      refine Keeps.tryCatch ?_ (fun _ => Keeps.pure trivial)
      refine Keeps.bind (nowOr_honours _) (fun _ _ => ?_)
      refine Keeps.bind (UploadIdempotencyRepository.finalizeFingerprint_honours _ _ _)
        (fun _ _ => ?_)
      refine Keeps.bind (ObjectStorage.putTempStream_honours inside) (fun _ _ => ?_)
      exact Keeps.bind commit_honours (fun _ _ => Keeps.pure trivial)
    refine Keeps.bind stored (fun stored _ => ?_)
    cases stored with
    | ok value => exact processStoredUpload_honours trusted _ _ _ inside
    | error failure => exact abandonUpload_honours trusted _ _ _ _ inside

omit trusted in
theorem replayCompleted_honours (record : UploadIdempotencyRecord)
    : Honours member tenant.organizationId (replayCompleted services record tenant)
        (fun _ => True) := by
  unfold replayCompleted
  split
  · refine Keeps.bind (DocumentRepository.getDocument_honours _) (fun found _ => ?_)
    cases found with
    | none => exact Keeps.throw _
    | some document =>
        refine Keeps.bind (DocumentRepository.getVersion_honours _ _) (fun found _ => ?_)
        cases found with
        | none => exact Keeps.throw _
        | some version => exact Keeps.pure trivial
  · exact Keeps.throw _

theorem retryUpload_honours (command : UploadDocumentCommand)
    (record : UploadIdempotencyRecord)
    : Honours member tenant.organizationId (retryUpload services command tenant record)
        (fun _ => True) := by
  have resumed
      : ∀ stream,
          Honours member tenant.organizationId
            (do
              let timestamp ← nowOr none
              let _ ← UploadIdempotencyRepository.markInProgress tenant.organizationId
                record.idempotencyKey timestamp (timestamp + services.idempotencyTtl)
              commit
              recordUploadEvent services .documentUploadStarted command tenant timestamp
                [("idempotency_replay", .bool true)]
              processReservedUpload services { command with stream } tenant
                record.idempotencyKey)
            (fun _ => True) := by
    intro stream
    refine Keeps.bind (nowOr_honours _) (fun _ _ => ?_)
    refine Keeps.bind (UploadIdempotencyRepository.markInProgress_honours _ _ _)
      (fun _ _ => ?_)
    refine Keeps.bind commit_honours (fun _ _ => ?_)
    refine Keeps.bind (recordEvent_honours trusted _ _ _ _ _) (fun _ _ => ?_)
    exact processReservedUpload_honours trusted _ _
  unfold retryUpload
  dsimp only
  split
  · exact resumed _
  · exact Keeps.bind (check_honours _) (fun _ _ => resumed _)

theorem handleExistingRecord_honours (command : UploadDocumentCommand)
    (record : UploadIdempotencyRecord)
    : Honours member tenant.organizationId
        (handleExistingRecord services command tenant record) (fun _ => True) := by
  unfold handleExistingRecord
  split
  · exact Keeps.throw _
  · exact Keeps.bind (check_honours _) (fun _ _ => replayCompleted_honours record)
  · split
    · exact retryUpload_honours trusted command record
    · dsimp only
      by_cases given : record.requestFingerprint.isSome = true
      · rw [if_pos given]
        exact Keeps.bind (check_honours _) (fun _ _ => Keeps.throw _)
      · rw [if_neg given]
        exact Keeps.throw _

theorem upload_honours (command : UploadDocumentCommand) (now : Option Datetime)
    : Honours member tenant.organizationId (upload services command tenant now)
        (fun _ => True) := by
  refine Keeps.bind (check_honours _) (fun _ _ => ?_)
  refine Keeps.bind (nowOr_honours _) (fun timestamp _ => ?_)
  refine Keeps.bind (check_honours _) (fun key _ => ?_)
  refine Keeps.bind (UploadIdempotencyRepository.get_honours _) (fun found _ => ?_)
  cases found with
  | some existing => exact handleExistingRecord_honours trusted command existing
  | none =>
      refine Keeps.bind (UploadIdempotencyRepository.reserve_honours _ _ _) (fun _ _ => ?_)
      refine Keeps.bind commit_honours (fun _ _ => ?_)
      refine Keeps.bind (recordEvent_honours trusted _ _ _ _ _) (fun _ _ => ?_)
      exact processReservedUpload_honours trusted _ _

end UploadDocument

-----------------------------------------------------------------------------------------
-- Batches
-----------------------------------------------------------------------------------------

namespace BatchService

omit trusted in
theorem get_honours (batchId : UUID)
    : Honours member tenant.organizationId (get services batchId tenant)
        (Belongs member tenant.organizationId .batches) := by
  refine Keeps.bind (check_honours _) (fun _ _ => ?_)
  refine Keeps.bind (BatchRepository.get_honours _) (fun found good => ?_)
  cases found with
  | none => exact Keeps.throw _
  | some batch => exact Keeps.pure (good batch rfl)

omit trusted in
theorem lockedBatch_honours (batchId : UUID) (lockVersion : Nat)
    : Honours member tenant.organizationId (lockedBatch services batchId tenant lockVersion)
        (Belongs member tenant.organizationId .batches) := by
  refine Keeps.bind (BatchRepository.getForUpdate_honours _) (fun found good => ?_)
  cases found with
  | none => exact Keeps.throw _
  | some batch =>
      dsimp only
      split
      · exact Keeps.throw _
      · exact Keeps.pure (good batch rfl)

theorem create_honours (command : CreateBatchCommand)
    : Honours member tenant.organizationId (create services command tenant)
        (fun _ => True) := by
  refine Keeps.bind (check_honours _) (fun _ _ => ?_)
  refine Keeps.bind (nowOr_honours _) (fun timestamp _ => ?_)
  refine Keeps.bind newUuid_honours (fun id _ => ?_)
  have belongs
      : ∀ batch, Batch.create services.platform.unicode id tenant.organizationId command.name
            command.description command.externalReference tenant.userId timestamp = .ok batch
          → Belongs member tenant.organizationId .batches batch := by
    intro batch created
    obtain ⟨name, description, reference, -, -, -, -, -, rfl⟩ := Batch.postInit_eq_ok created
    refine ⟨rfl, ?_⟩
    simpa [rowUsers] using trusted
  refine Keeps.bind (liftExcept_honours belongs) (fun batch row => ?_)
  refine orRollback_honours ?_
  refine Keeps.bind (BatchRepository.add_honours row) (fun saved _ => ?_)
  refine Keeps.bind (recordEvent_honours trusted _ _ _ _ _) (fun _ _ => ?_)
  exact Keeps.bind commit_honours (fun _ _ => Keeps.pure trivial)

theorem update_honours (command : UpdateBatchCommand)
    : Honours member tenant.organizationId (update services command tenant)
        (fun _ => True) := by
  refine Keeps.bind (check_honours _) (fun _ _ => ?_)
  refine Keeps.bind (lockedBatch_honours _ _) (fun batch row => ?_)
  refine Keeps.bind (nowOr_honours _) (fun timestamp _ => ?_)
  have belongs
      : ∀ updated, batch.update services.platform.unicode command.name command.description
            command.externalReference tenant.userId timestamp = .ok updated
          → Belongs member tenant.organizationId .batches updated := by
    intro updated changed
    obtain ⟨name, description, reference, -, -, -, -, -, rfl⟩ :=
      Batch.postInit_eq_ok (Batch.postInit_of_update changed).2
    have users := row.users
    refine ⟨row.owner, ?_⟩
    simp only [rowUsers, List.forall_mem_cons] at users ⊢
    exact ⟨users.1, trusted, users.2.2⟩
  refine Keeps.bind (liftExcept_honours belongs) (fun updated saved => ?_)
  refine orRollback_honours ?_
  refine Keeps.bind (BatchRepository.update_honours saved) (fun _ _ => ?_)
  refine Keeps.bind (recordEvent_honours trusted _ _ _ _ _) (fun _ _ => ?_)
  exact Keeps.bind commit_honours (fun _ _ => Keeps.pure trivial)

theorem archive_honours (command : ArchiveBatchCommand)
    : Honours member tenant.organizationId (archive services command tenant)
        (fun _ => True) := by
  refine Keeps.bind (check_honours _) (fun _ _ => ?_)
  refine Keeps.bind (lockedBatch_honours _ _) (fun batch row => ?_)
  refine Keeps.bind (nowOr_honours _) (fun timestamp _ => ?_)
  have belongs
      : ∀ archived, batch.archive services.platform.unicode tenant.userId timestamp
            = .ok archived
          → Belongs member tenant.organizationId .batches archived := by
    intro archived changed
    obtain ⟨name, description, reference, -, -, -, -, -, rfl⟩ :=
      Batch.postInit_eq_ok (Batch.postInit_of_archive changed).2
    have users := row.users
    refine ⟨row.owner, ?_⟩
    simp only [rowUsers, Option.toList_some, List.forall_mem_cons] at users ⊢
    exact ⟨users.1, trusted, trusted, by simp⟩
  refine Keeps.bind (liftExcept_honours belongs) (fun archived saved => ?_)
  refine Keeps.bind (BatchRepository.update_honours saved) (fun _ _ => ?_)
  refine Keeps.bind (recordEvent_honours trusted _ _ _ _ _) (fun _ _ => ?_)
  exact Keeps.bind commit_honours (fun _ _ => Keeps.pure trivial)

theorem addDocument_honours (command : BatchDocumentCommand)
    : Honours member tenant.organizationId (addDocument services command tenant)
        (fun _ => True) := by
  refine Keeps.bind (check_honours _) (fun _ _ => ?_)
  refine Keeps.bind (get_honours _) (fun _ _ => ?_)
  refine Keeps.bind newUuid_honours (fun id _ => ?_)
  refine Keeps.bind (nowOr_honours _) (fun addedAt _ => ?_)
  have belongs
      : ∀ {draft membership : BatchDocument},
          draft.organizationId = tenant.organizationId
          → draft.addedByUserId = tenant.userId
          → BatchDocument.postInit draft = .ok membership
          → Belongs member tenant.organizationId .batchDocuments membership := by
    intro draft membership owner adder built
    obtain rfl := BatchDocument.postInit_eq_ok built
    refine ⟨congrArg some owner, ?_⟩
    intro user named
    rw [List.mem_singleton.mp named]
    exact adder ▸ trusted
  refine Keeps.bind (liftExcept_honours (fun _ built => belongs rfl rfl built))
    (fun membership row => ?_)
  refine Keeps.tryCatch ?_ (fun failure => ?_)
  · refine Keeps.bind (BatchRepository.addDocument_honours row) (fun saved _ => ?_)
    refine Keeps.bind (recordEvent_honours trusted _ _ _ _ _) (fun _ _ => ?_)
    exact Keeps.bind commit_honours (fun _ _ => Keeps.pure trivial)
  · cases failure
    case documentNotFound message =>
      exact Keeps.bind rollback_honours (fun _ _ => Keeps.throw _)
    all_goals exact Keeps.throw _

theorem removeDocument_honours (command : BatchDocumentCommand)
    : Honours member tenant.organizationId (removeDocument services command tenant)
        (fun _ => True) := by
  refine Keeps.bind (check_honours _) (fun _ _ => ?_)
  refine Keeps.bind (get_honours _) (fun _ _ => ?_)
  refine Keeps.bind (BatchRepository.removeDocument_honours _ _) (fun _ _ => ?_)
  refine Keeps.bind (nowOr_honours _) (fun _ _ => ?_)
  refine Keeps.bind (recordEvent_honours trusted _ _ _ _ _) (fun _ _ => ?_)
  exact Keeps.bind commit_honours (fun _ _ => Keeps.pure trivial)

end BatchService

-----------------------------------------------------------------------------------------
-- Cases
-----------------------------------------------------------------------------------------

namespace CaseService

omit trusted in
theorem get_honours (caseId : UUID)
    : Honours member tenant.organizationId (get services caseId tenant)
        (Belongs member tenant.organizationId .cases) := by
  refine Keeps.bind (check_honours _) (fun _ _ => ?_)
  refine Keeps.bind (CaseRepository.get_honours _) (fun found good => ?_)
  cases found with
  | none => exact Keeps.throw _
  | some case => exact Keeps.pure (good case rfl)

omit trusted in
theorem lockedCase_honours (caseId : UUID) (lockVersion : Nat)
    : Honours member tenant.organizationId (lockedCase services caseId tenant lockVersion)
        (Belongs member tenant.organizationId .cases) := by
  refine Keeps.bind (CaseRepository.getForUpdate_honours _) (fun found good => ?_)
  cases found with
  | none => exact Keeps.throw _
  | some case =>
      dsimp only
      split
      · exact Keeps.throw _
      · exact Keeps.pure (good case rfl)

omit trusted in
theorem lockedTask_honours (caseId taskId : UUID) (lockVersion : Nat)
    : Honours member tenant.organizationId
        (lockedTask services caseId taskId tenant lockVersion)
        (Belongs member tenant.organizationId .caseTasks) := by
  refine Keeps.bind (get_honours _) (fun _ _ => ?_)
  refine Keeps.bind (CaseRepository.getTaskForUpdate_honours _ _) (fun found good => ?_)
  cases found with
  | none => exact Keeps.throw _
  | some task =>
      dsimp only
      split
      · exact Keeps.throw _
      · exact Keeps.pure (good task rfl)

theorem create_honours (command : CreateCaseCommand)
    : Honours member tenant.organizationId (create services command tenant)
        (fun _ => True) := by
  refine Keeps.bind (check_honours _) (fun _ _ => ?_)
  refine Keeps.bind (nowOr_honours _) (fun timestamp _ => ?_)
  refine Keeps.bind newUuid_honours (fun id _ => ?_)
  have belongs
      : ∀ case, Case.create services.platform.unicode id tenant.organizationId command.title
            command.summary command.priority command.externalReference tenant.userId timestamp
          = .ok case
          → Belongs member tenant.organizationId .cases case := by
    intro case created
    obtain ⟨title, summary, reference, -, -, -, -, rfl⟩ := Case.postInit_eq_ok created
    refine ⟨rfl, ?_⟩
    simpa [rowUsers] using trusted
  refine Keeps.bind (liftExcept_honours belongs) (fun case row => ?_)
  refine Keeps.bind (CaseRepository.add_honours row) (fun saved _ => ?_)
  refine Keeps.bind (recordEvent_honours trusted _ _ _ _ _) (fun _ _ => ?_)
  exact Keeps.bind commit_honours (fun _ _ => Keeps.pure trivial)

/-- Saving a case keeps the contract when every possible result belongs to the tenant. -/
theorem saveCase_honours {changed : Except Exn Case} (eventType : AuditEventType)
    (auditContext : Option AuditRequestContext)
    (belongs
      : ∀ case, changed = .ok case → Belongs member tenant.organizationId .cases case)
    : Honours member tenant.organizationId
        (saveCase services changed eventType tenant auditContext) (fun _ => True) := by
  refine Keeps.bind (liftExcept_honours belongs) (fun case row => ?_)
  refine Keeps.bind (CaseRepository.update_honours row) (fun _ _ => ?_)
  refine Keeps.bind (recordEvent_honours trusted _ _ _ _ _) (fun _ _ => ?_)
  exact Keeps.bind commit_honours (fun _ _ => Keeps.pure trivial)

omit trusted in
/-- The constructor keeps the organization and the users of a case. -/
theorem belongs_of_postInit {u : Unicode} {draft case : Case}
    (built : Case.postInit u draft = .ok case)
    (belongs : Belongs member tenant.organizationId .cases draft)
    : Belongs member tenant.organizationId .cases case :=
  belongs.caseFromRecord built

theorem update_honours (command : UpdateCaseCommand)
    : Honours member tenant.organizationId (update services command tenant)
        (fun _ => True) := by
  refine Keeps.bind (check_honours _) (fun _ _ => ?_)
  refine Keeps.bind (lockedCase_honours _ _) (fun case row => ?_)
  refine Keeps.bind (nowOr_honours _) (fun timestamp _ => ?_)
  refine saveCase_honours trusted _ _ (fun updated changed => ?_)
  refine belongs_of_postInit (Case.postInit_of_update changed).2 ⟨row.owner, ?_⟩
  have users := row.users
  simp only [rowUsers, List.cons_append, List.forall_mem_cons] at users ⊢
  exact ⟨users.1, trusted, users.2.2⟩

theorem close_honours (command : CaseStateCommand)
    : Honours member tenant.organizationId (close services command tenant)
        (fun _ => True) := by
  refine Keeps.bind (check_honours _) (fun _ _ => ?_)
  refine Keeps.bind (lockedCase_honours _ _) (fun case row => ?_)
  refine Keeps.bind (nowOr_honours _) (fun timestamp _ => ?_)
  refine saveCase_honours trusted _ _ (fun closed changed => ?_)
  refine belongs_of_postInit (Case.postInit_of_close changed).2 ⟨row.owner, ?_⟩
  have users := row.users
  simp only [rowUsers, List.cons_append, List.forall_mem_cons, List.forall_mem_append,
    Option.toList_some] at users ⊢
  exact ⟨users.1, trusted, trusted, by simpa using users.2.2.2⟩

theorem reopen_honours (command : CaseStateCommand)
    : Honours member tenant.organizationId (reopen services command tenant)
        (fun _ => True) := by
  refine Keeps.bind (check_honours _) (fun _ _ => ?_)
  refine Keeps.bind (lockedCase_honours _ _) (fun case row => ?_)
  refine Keeps.bind (nowOr_honours _) (fun timestamp _ => ?_)
  refine saveCase_honours trusted _ _ (fun reopened changed => ?_)
  refine belongs_of_postInit (Case.postInit_of_reopen changed).2 ⟨row.owner, ?_⟩
  have users := row.users
  simp only [rowUsers, List.cons_append, List.forall_mem_cons, List.forall_mem_append,
    Option.toList_none] at users ⊢
  exact ⟨users.1, trusted, by simpa using users.2.2.2⟩

theorem archive_honours (command : CaseStateCommand)
    : Honours member tenant.organizationId (archive services command tenant)
        (fun _ => True) := by
  refine Keeps.bind (check_honours _) (fun _ _ => ?_)
  refine Keeps.bind (lockedCase_honours _ _) (fun case row => ?_)
  refine Keeps.bind (nowOr_honours _) (fun timestamp _ => ?_)
  refine saveCase_honours trusted _ _ (fun archived changed => ?_)
  refine belongs_of_postInit changed ⟨row.owner, ?_⟩
  have users := row.users
  simp only [rowUsers, List.cons_append, List.forall_mem_cons, List.forall_mem_append,
    Option.toList_some] at users ⊢
  exact ⟨users.1, trusted, users.2.2.1, trusted, by simp⟩

theorem addDocument_honours (command : CaseDocumentCommand)
    : Honours member tenant.organizationId (addDocument services command tenant)
        (fun _ => True) := by
  refine Keeps.bind (check_honours _) (fun _ _ => ?_)
  refine Keeps.bind (get_honours _) (fun _ _ => ?_)
  refine Keeps.bind newUuid_honours (fun id _ => ?_)
  refine Keeps.bind (nowOr_honours _) (fun addedAt _ => ?_)
  refine Keeps.bind (CaseRepository.addDocument_honours ⟨rfl, ?_⟩) (fun saved _ => ?_)
  · simpa [rowUsers] using trusted
  refine Keeps.bind (recordEvent_honours trusted _ _ _ _ _) (fun _ _ => ?_)
  exact Keeps.bind commit_honours (fun _ _ => Keeps.pure trivial)

theorem removeDocument_honours (command : CaseDocumentCommand)
    : Honours member tenant.organizationId (removeDocument services command tenant)
        (fun _ => True) := by
  refine Keeps.bind (check_honours _) (fun _ _ => ?_)
  refine Keeps.bind (get_honours _) (fun _ _ => ?_)
  refine Keeps.bind (CaseRepository.removeDocument_honours _ _) (fun _ _ => ?_)
  refine Keeps.bind (nowOr_honours _) (fun _ _ => ?_)
  refine Keeps.bind (recordEvent_honours trusted _ _ _ _ _) (fun _ _ => ?_)
  exact Keeps.bind commit_honours (fun _ _ => Keeps.pure trivial)

theorem createComment_honours (command : CreateCaseCommentCommand)
    : Honours member tenant.organizationId (createComment services command tenant)
        (fun _ => True) := by
  refine Keeps.bind (check_honours _) (fun _ _ => ?_)
  refine Keeps.bind (get_honours _) (fun _ _ => ?_)
  refine Keeps.bind newUuid_honours (fun id _ => ?_)
  refine Keeps.bind (nowOr_honours _) (fun createdAt _ => ?_)
  refine Keeps.bind (CaseRepository.addComment_honours ⟨rfl, ?_⟩) (fun saved _ => ?_)
  · simpa [rowUsers] using trusted
  refine Keeps.bind (recordEvent_honours trusted _ _ _ _ _) (fun _ _ => ?_)
  exact Keeps.bind commit_honours (fun _ _ => Keeps.pure trivial)

/-- A new task may name any member as its assignee. -/
theorem createTask_honours (command : CreateCaseTaskCommand)
    (assignee : ∀ user ∈ command.assignedToUserId, member user tenant.organizationId)
    : Honours member tenant.organizationId (createTask services command tenant)
        (fun _ => True) := by
  refine Keeps.bind (check_honours _) (fun _ _ => ?_)
  refine Keeps.bind (get_honours _) (fun _ _ => ?_)
  refine Keeps.bind (nowOr_honours _) (fun timestamp _ => ?_)
  refine Keeps.bind newUuid_honours (fun id _ => ?_)
  refine Keeps.bind (CaseRepository.addTask_honours ⟨rfl, ?_⟩) (fun saved _ => ?_)
  · simp only [rowUsers, Option.toList_none, List.append_nil, List.forall_mem_cons]
    exact ⟨trusted, trusted, fun user named => assignee user (Option.mem_toList.mp named)⟩
  refine Keeps.bind (recordEvent_honours trusted _ _ _ _ _) (fun _ _ => ?_)
  exact Keeps.bind commit_honours (fun _ _ => Keeps.pure trivial)

theorem saveTask_honours {task : CaseTask} (eventType : AuditEventType) (caseId : UUID)
    (auditContext : Option AuditRequestContext)
    (belongs : Belongs member tenant.organizationId .caseTasks task)
    : Honours member tenant.organizationId
        (saveTask services task eventType caseId tenant auditContext) (fun _ => True) := by
  refine Keeps.bind (CaseRepository.updateTask_honours belongs) (fun _ _ => ?_)
  refine Keeps.bind (recordEvent_honours trusted _ _ _ _ _) (fun _ _ => ?_)
  exact Keeps.bind commit_honours (fun _ _ => Keeps.pure trivial)

theorem updateTask_honours (command : UpdateCaseTaskCommand)
    (assignee : ∀ user ∈ command.assignedToUserId, member user tenant.organizationId)
    : Honours member tenant.organizationId (updateTask services command tenant)
        (fun _ => True) := by
  refine Keeps.bind (check_honours _) (fun _ _ => ?_)
  refine Keeps.bind (lockedTask_honours _ _ _) (fun task row => ?_)
  refine Keeps.bind (nowOr_honours _) (fun timestamp _ => ?_)
  refine saveTask_honours trusted _ _ _ ⟨row.owner, ?_⟩
  have users := row.users
  simp only [rowUsers, CaseTask.update, List.cons_append, List.forall_mem_cons,
    List.forall_mem_append] at users ⊢
  exact ⟨users.1, trusted, fun user named => assignee user (Option.mem_toList.mp named),
    users.2.2.2⟩

theorem completeTask_honours (command : CompleteCaseTaskCommand)
    : Honours member tenant.organizationId (completeTask services command tenant)
        (fun _ => True) := by
  refine Keeps.bind (check_honours _) (fun _ _ => ?_)
  refine Keeps.bind (lockedTask_honours _ _ _) (fun task row => ?_)
  refine Keeps.bind (nowOr_honours _) (fun timestamp _ => ?_)
  refine saveTask_honours trusted _ _ _ ⟨row.owner, ?_⟩
  have users := row.users
  simp only [rowUsers, CaseTask.complete, List.cons_append, List.forall_mem_cons,
    List.forall_mem_append, Option.toList_some] at users ⊢
  exact ⟨users.1, trusted, users.2.2.1, trusted, by simp⟩

theorem createDecision_honours (command : CreateCaseDecisionCommand)
    : Honours member tenant.organizationId (createDecision services command tenant)
        (fun _ => True) := by
  refine Keeps.bind (check_honours _) (fun _ _ => ?_)
  refine Keeps.bind (get_honours _) (fun _ _ => ?_)
  refine Keeps.bind newUuid_honours (fun id _ => ?_)
  refine Keeps.bind (nowOr_honours _) (fun createdAt _ => ?_)
  refine Keeps.bind (CaseRepository.addDecision_honours ⟨rfl, ?_⟩) (fun saved _ => ?_)
  · simpa [rowUsers] using trusted
  refine Keeps.bind (recordEvent_honours trusted _ _ _ _ _) (fun _ _ => ?_)
  exact Keeps.bind commit_honours (fun _ _ => Keeps.pure trivial)

omit trusted in
theorem details_honours (caseId : UUID)
    : Honours member tenant.organizationId (details services caseId tenant)
        (fun _ => True) := by
  refine Keeps.bind (get_honours _) (fun _ _ => ?_)
  refine Keeps.bind (CaseRepository.query_honours _ _) (fun _ _ => ?_)
  refine Keeps.bind (CaseRepository.query_honours _ _) (fun _ _ => ?_)
  refine Keeps.bind (CaseRepository.query_honours _ _) (fun _ _ => ?_)
  exact Keeps.bind (CaseRepository.query_honours _ _) (fun _ _ => Keeps.pure trivial)

end CaseService

-----------------------------------------------------------------------------------------
-- All calls
-----------------------------------------------------------------------------------------

theorem DocumentServiceCall.useCase_honours (call : DocumentServiceCall)
    : Honours member tenant.organizationId (call.useCase services tenant) (fun _ => True) := by
  cases call with
  | registerDocument command now =>
      exact Keeps.bind (DocumentService.registerDocument_honours trusted command now)
        (fun _ _ => Keeps.pure trivial)
  | getDocument documentId =>
      exact Keeps.bind (DocumentService.getDocument_honours documentId)
        (fun _ _ => Keeps.pure trivial)
  | listDocuments query =>
      refine Keeps.bind (Keeps.bind (check_honours _)
        (fun _ _ => DocumentRepository.listDocuments_honours _)) (fun _ _ => Keeps.pure trivial)
  | createVersion command now =>
      exact Keeps.bind (DocumentService.createVersion_honours trusted command now)
        (fun _ _ => Keeps.pure trivial)
  | getVersion documentId versionId =>
      exact Keeps.bind (DocumentService.getVersion_honours documentId versionId)
        (fun _ _ => Keeps.pure trivial)
  | archiveDocument documentId now auditContext =>
      exact Keeps.bind
        (DocumentService.archiveDocument_honours trusted documentId now auditContext)
        (fun _ _ => Keeps.pure trivial)
  | archiveDocumentWithLock command now =>
      exact Keeps.bind (DocumentService.archiveDocumentWithLock_honours trusted command now)
        (fun _ _ => Keeps.pure trivial)
  | listVersions documentId =>
      exact Keeps.bind
        (Keeps.bind (check_honours _) (fun _ _ =>
          Keeps.bind (DocumentService.getDocument_honours documentId)
            (fun _ _ => DocumentRepository.listVersions_honours _)))
        (fun _ _ => Keeps.pure trivial)
  | listArtifacts documentId =>
      exact Keeps.bind
        (Keeps.bind (check_honours _) (fun _ _ =>
          Keeps.bind (DocumentService.getDocument_honours documentId)
            (fun _ _ => DocumentRepository.listArtifacts_honours _)))
        (fun _ _ => Keeps.pure trivial)
  | getArtifact documentId artifactId =>
      exact Keeps.bind
        (Keeps.bind (check_honours _) (fun _ _ =>
          Keeps.bind (DocumentService.getDocument_honours documentId)
            (fun _ _ => DocumentService.requireArtifact_honours _ artifactId)))
        (fun _ _ => Keeps.pure trivial)
  | createDownloadUrl command now =>
      exact Keeps.bind (DocumentService.createDownloadUrl_honours trusted command now)
        (fun _ _ => Keeps.pure trivial)
  | registerArtifact command now =>
      exact Keeps.bind (DocumentService.registerArtifact_honours trusted command now)
        (fun _ _ => Keeps.pure trivial)
  | upload command now =>
      exact Keeps.bind (UploadDocument.upload_honours trusted command now)
        (fun _ _ => Keeps.pure trivial)

theorem BatchCall.useCase_honours (call : BatchCall)
    : Honours member tenant.organizationId (call.useCase services tenant) (fun _ => True) := by
  cases call with
  | create command =>
      exact Keeps.bind (BatchService.create_honours trusted command)
        (fun _ _ => Keeps.pure trivial)
  | get batchId =>
      exact Keeps.bind (BatchService.get_honours batchId) (fun _ _ => Keeps.pure trivial)
  | listBatches query =>
      exact Keeps.bind (Keeps.bind (check_honours _)
        (fun _ _ => BatchRepository.listBatches_honours query)) (fun _ _ => Keeps.pure trivial)
  | update command =>
      exact Keeps.bind (BatchService.update_honours trusted command)
        (fun _ _ => Keeps.pure trivial)
  | addDocument command =>
      exact Keeps.bind (BatchService.addDocument_honours trusted command)
        (fun _ _ => Keeps.pure trivial)
  | removeDocument command =>
      exact Keeps.bind (BatchService.removeDocument_honours trusted command)
        (fun _ _ => Keeps.pure trivial)
  | archive command =>
      exact Keeps.bind (BatchService.archive_honours trusted command)
        (fun _ _ => Keeps.pure trivial)
  | listDocuments batchId =>
      exact Keeps.bind (Keeps.bind (BatchService.get_honours batchId)
        (fun _ _ => BatchRepository.listDocuments_honours batchId))
        (fun _ _ => Keeps.pure trivial)

/-- The users that a call names as task assignees. -/
def CaseCall.assignees : CaseCall → List UUID
  | createTask command => command.assignedToUserId.toList
  | updateTask command => command.assignedToUserId.toList
  | _ => []

theorem CaseCall.useCase_honours (call : CaseCall)
    (assigned : ∀ user ∈ call.assignees, member user tenant.organizationId)
    : Honours member tenant.organizationId (call.useCase services tenant) (fun _ => True) := by
  cases call with
  | create command =>
      exact Keeps.bind (CaseService.create_honours trusted command)
        (fun _ _ => Keeps.pure trivial)
  | get caseId =>
      exact Keeps.bind (CaseService.get_honours caseId) (fun _ _ => Keeps.pure trivial)
  | listCases query =>
      exact Keeps.bind (Keeps.bind (check_honours _)
        (fun _ _ => CaseRepository.listCases_honours query)) (fun _ _ => Keeps.pure trivial)
  | update command =>
      exact Keeps.bind (CaseService.update_honours trusted command)
        (fun _ _ => Keeps.pure trivial)
  | addDocument command =>
      exact Keeps.bind (CaseService.addDocument_honours trusted command)
        (fun _ _ => Keeps.pure trivial)
  | removeDocument command =>
      exact Keeps.bind (CaseService.removeDocument_honours trusted command)
        (fun _ _ => Keeps.pure trivial)
  | createComment command =>
      exact Keeps.bind (CaseService.createComment_honours trusted command)
        (fun _ _ => Keeps.pure trivial)
  | createTask command =>
      refine Keeps.bind (CaseService.createTask_honours trusted command ?_)
        (fun _ _ => Keeps.pure trivial)
      exact fun user named => assigned user (Option.mem_toList.mpr named)
  | updateTask command =>
      refine Keeps.bind (CaseService.updateTask_honours trusted command ?_)
        (fun _ _ => Keeps.pure trivial)
      exact fun user named => assigned user (Option.mem_toList.mpr named)
  | completeTask command =>
      exact Keeps.bind (CaseService.completeTask_honours trusted command)
        (fun _ _ => Keeps.pure trivial)
  | createDecision command =>
      exact Keeps.bind (CaseService.createDecision_honours trusted command)
        (fun _ _ => Keeps.pure trivial)
  | close command =>
      exact Keeps.bind (CaseService.close_honours trusted command)
        (fun _ _ => Keeps.pure trivial)
  | reopen command =>
      exact Keeps.bind (CaseService.reopen_honours trusted command)
        (fun _ _ => Keeps.pure trivial)
  | archive command =>
      exact Keeps.bind (CaseService.archive_honours trusted command)
        (fun _ _ => Keeps.pure trivial)
  | details caseId =>
      exact Keeps.bind (CaseService.details_honours caseId) (fun _ _ => Keeps.pure trivial)

end

/-- The users that a call of any service names as task assignees. -/
def ServiceCall.assignees : ServiceCall → List UUID
  | documents _ => []
  | batches _ => []
  | cases call => call.assignees

/-- A use case keeps the contract of its tenant if its user and its assignees are members. -/
theorem ServiceCall.useCase_honours {tenant : TenantContext} {call : ServiceCall}
    (trusted : member tenant.userId tenant.organizationId)
    (assigned : ∀ user ∈ call.assignees, member user tenant.organizationId)
    : Honours member tenant.organizationId (call.useCase services tenant) (fun _ => True) := by
  cases call with
  | documents call =>
      exact Keeps.bind (call.useCase_honours trusted) (fun _ _ => Keeps.pure trivial)
  | batches call =>
      exact Keeps.bind (call.useCase_honours trusted) (fun _ _ => Keeps.pure trivial)
  | cases call =>
      exact Keeps.bind (call.useCase_honours trusted assigned) (fun _ _ => Keeps.pure trivial)

theorem TenantCall.body_honours {origin : TenantCall}
    (trusted : member origin.tenant.userId origin.tenant.organizationId)
    (assigned
      : ∀ user ∈ origin.call.assignees, member user origin.tenant.organizationId)
    : Honours member origin.tenant.organizationId (origin.body services) (fun _ => True) :=
  request_honours (ServiceCall.useCase_honours trusted assigned)

end WorkflowForge
