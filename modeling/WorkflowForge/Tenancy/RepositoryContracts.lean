import WorkflowForge.Tenancy.Ownership

/-! The repository methods keep the contract of the organization they are called for. -/

namespace WorkflowForge

open Python Transactions Concurrency

variable {member : UUID → UUID → Prop} {organizationId : UUID} {u : Unicode} {α β : Type}

/-- The program keeps the contract of the organization and returns good values. -/
abbrev Honours (member : UUID → UUID → Prop) (organizationId : UUID) {α : Type}
    (program : App α) (good : α → Prop)
    : Prop :=
  Keeps (tenantContract member organizationId) good program

section Primitives

theorem enter_honours (port : Port)
    : Honours member organizationId (enter port) (fun _ => True) := by
  refine Keeps.bind (Keeps.perform ⟨by simp [Op.keys], trivial⟩) ?_
  intro raised _
  cases raised
  · exact Keeps.pure trivial
  · exact Keeps.throw _

theorem select_honours (query : Query)
    : Honours member organizationId (select query) (Peopled member) :=
  Keeps.perform ⟨by simp [Op.keys], trivial⟩

theorem selectForUpdate_honours (t : TableName) (id : UUID) (chosen : TableRow t → Bool)
    : Honours member organizationId (selectForUpdate t id chosen) (Peopled member) :=
  Keeps.perform ⟨by simp [Op.keys], trivial⟩

theorem insert_honours {t : TableName} {row : TableRow t} (members : RowMembers member t row)
    : Honours member organizationId (insert t row) (fun _ => True) := by
  refine Keeps.bind (Keeps.perform ⟨by simp [Op.keys], members⟩) ?_
  intro answer _
  cases answer with
  | ok value => exact Keeps.pure trivial
  | error violation => cases violation <;> exact Keeps.throw _

theorem update_honours {t : TableName} {id : UUID} {change : TableRow t → Option (TableRow t)}
    (kept
      : ∀ row changed, RowMembers member t row → change row = some changed
          → RowMembers member t changed)
    : Honours member organizationId (update t id change) (fun _ => True) := by
  refine Keeps.bind (Keeps.perform ⟨by simp [Op.keys], kept⟩) ?_
  intro answer _
  cases answer with
  | ok value => exact Keeps.pure trivial
  | error violation => cases violation <;> exact Keeps.throw _

theorem delete_honours (t : TableName) (chosen : TableRow t → Bool)
    : Honours member organizationId (delete t chosen) (fun _ => True) :=
  Keeps.perform ⟨by simp [Op.keys], trivial⟩

theorem sessionRollback_honours
    : Honours member organizationId sessionRollback (fun _ => True) :=
  Keeps.perform ⟨by simp [Op.keys], trivial⟩

theorem commit_honours : Honours member organizationId commit (fun _ => True) :=
  Keeps.bind (enter_honours _) (fun _ _ => Keeps.perform ⟨by simp [Op.keys], trivial⟩)

theorem rollback_honours : Honours member organizationId rollback (fun _ => True) :=
  Keeps.bind (enter_honours _) (fun _ _ => Keeps.perform ⟨by simp [Op.keys], trivial⟩)

theorem newUuid_honours : Honours member organizationId newUuid (fun _ => True) :=
  Keeps.perform ⟨by simp [Op.keys], trivial⟩

theorem nowOr_honours (now : Option Datetime)
    : Honours member organizationId (nowOr now) (fun _ => True) := by
  cases now with
  | none => exact Keeps.perform ⟨by simp [Op.keys], trivial⟩
  | some time =>
      cases time with
      | aware instant => exact Keeps.pure trivial
      | naive wall => exact Keeps.throw _

theorem liftExcept_honours {result : Except Exn α} {good : α → Prop}
    (holds : ∀ value, result = .ok value → good value)
    : Honours member organizationId (liftExcept result) good :=
  Keeps.ofExcept holds

/-- A check whose result is not used. -/
theorem check_honours (result : Except Exn α)
    : Honours member organizationId (liftExcept result) (fun _ => True) :=
  Keeps.ofExcept (fun _ _ => trivial)

theorem request_honours {program : App α} {good : α → Prop}
    (honours : Honours member organizationId program good)
    : Honours member organizationId (request program) (fun _ => True) := by
  have ended
      : Honours member organizationId
          (tryCatch (do return Except.ok (← program)) (fun failure => return .error failure))
          (fun _ => True) :=
    Keeps.tryCatch (Keeps.bind honours (fun _ _ => Keeps.pure trivial))
      (fun _ => Keeps.pure trivial)
  refine Keeps.bind ended (fun result _ => ?_)
  exact Keeps.bind sessionRollback_honours (fun _ _ => check_honours result)

theorem orRollback_honours {program : App α} {good : α → Prop}
    (honours : Honours member organizationId program good)
    : Honours member organizationId (orRollback program) good :=
  Keeps.tryCatch honours
    (fun _ => Keeps.bind rollback_honours (fun _ _ => Keeps.throw _))

/-- At most one row of a query. -/
theorem scalarOneOrNone_honours {rows : List α} {good : α → Prop}
    (all : ∀ row ∈ rows, good row)
    : Honours member organizationId (scalarOneOrNone rows) (fun row => ∀ x ∈ row, good x) := by
  match rows with
  | [] => exact Keeps.pure (by simp)
  | [row] => exact Keeps.pure (by simpa using all)
  | _ :: _ :: _ => exact Keeps.throw _

/-- Nothing is asked of the rows. -/
theorem scalarOneOrNone_honours_any {rows : List α}
    : Honours member organizationId (scalarOneOrNone rows) (fun _ => True) :=
  Keeps.mono (scalarOneOrNone_honours (fun _ _ => (trivial : (fun _ : α => True) _)))
    (fun _ _ => trivial)

end Primitives

-----------------------------------------------------------------------------------------
-- Documents
-----------------------------------------------------------------------------------------

namespace DocumentRepository

theorem orDuplicateContent_honours {flush : App Unit}
    (honours : Honours member organizationId flush (fun _ => True))
    : Honours member organizationId (orDuplicateContent flush) (fun _ => True) := by
  refine Keeps.tryCatch honours (fun failure => ?_)
  cases failure
  case integrityError => exact Keeps.bind sessionRollback_honours (fun _ _ => Keeps.throw _)
  all_goals exact Keeps.throw _

theorem addDocument_honours {document : Document} {version : DocumentVersion}
    (row : Belongs member organizationId .documents document)
    (content : version.BelongsTo member organizationId)
    : Honours member organizationId (addDocument u document version)
        (Belongs member organizationId .documents) := by
  refine Keeps.bind (enter_honours _) (fun _ _ => ?_)
  refine Keeps.bind (orDuplicateContent_honours ?_) (fun _ _ => ?_)
  · exact Keeps.bind (insert_honours row.members)
      (fun _ _ => insert_honours content.row.members)
  · exact liftExcept_honours (fun _ loaded => row.documentFromRecord loaded)

theorem loaded_honours {record : Option Document}
    (belongs : ∀ row ∈ record, Belongs member organizationId .documents row)
    : Honours member organizationId (loaded u record)
        (fun found => ∀ row ∈ found, Belongs member organizationId .documents row) := by
  cases record with
  | none => exact Keeps.pure (by simp)
  | some row =>
      refine Keeps.bind (liftExcept_honours (fun _ same =>
        (belongs row rfl).documentFromRecord same)) (fun _ good => Keeps.pure ?_)
      simpa using good

theorem documentRecord_belongs {db : Database} (peopled : Peopled member db)
    (documentId : UUID)
    : ∀ row ∈ documentRecord db organizationId documentId,
        Belongs member organizationId .documents row := by
  intro row found
  obtain ⟨visible, owned⟩ := Option.filter_eq_some_iff.mp found
  exact peopled.belongs (Db.mem_of_find? visible)
    (congrArg some (beq_iff_eq.mp owned) : rowOrganization .documents row = _)

theorem getDocument_honours (documentId : UUID)
    : Honours member organizationId (getDocument u organizationId documentId)
        (fun found => ∀ row ∈ found, Belongs member organizationId .documents row) := by
  refine Keeps.bind (enter_honours _) (fun _ _ => ?_)
  exact Keeps.bind (select_honours _)
    (fun _ peopled => loaded_honours (documentRecord_belongs peopled documentId))

theorem getDocumentForUpdate_honours (documentId : UUID)
    : Honours member organizationId (getDocumentForUpdate u organizationId documentId)
        (fun found => ∀ row ∈ found, Belongs member organizationId .documents row) := by
  refine Keeps.bind (enter_honours _) (fun _ _ => ?_)
  exact Keeps.bind (selectForUpdate_honours _ _ _)
    (fun _ peopled => loaded_honours (documentRecord_belongs peopled documentId))

theorem findDocumentByTenantContentHash_honours (contentHash : ContentHash)
    : Honours member organizationId
        (findDocumentByTenantContentHash u organizationId contentHash)
        (fun found => ∀ row ∈ found, Belongs member organizationId .documents row) := by
  refine Keeps.bind (enter_honours _) (fun _ _ => ?_)
  refine Keeps.bind (select_honours _) (fun db peopled => ?_)
  refine Keeps.bind (scalarOneOrNone_honours ?_) (fun _ good => loaded_honours good)
  intro row member
  obtain ⟨visible, owned⟩ := List.mem_filter.mp member
  simp only [Bool.and_eq_true, beq_iff_eq] at owned
  exact peopled.belongs visible (congrArg some owned.1 : rowOrganization .documents row = _)

/-- The compare-and-swap writes only users of the document it saves. -/
theorem persistDocumentState_honours {document : Document}
    (belongs : Belongs member organizationId .documents document)
    : Honours member organizationId (persistDocumentState document) (fun _ => True) := by
  refine Keeps.bind (update_honours ?_) (fun _ _ => Keeps.pure trivial)
  intro row changed members change
  split at change
  · rename_i same
    cases change
    have owner : document.organizationId = organizationId := Option.some.inj belongs.owner
    have creator : member row.createdByUserId organizationId :=
      members organizationId (congrArg some (same.1.trans owner)) _ (by simp [rowUsers])
    intro other owned
    obtain rfl : row.organizationId = other := Option.some.inj owned
    have users := belongs.users
    simp only [rowUsers, List.forall_mem_cons] at users ⊢
    rw [same.1, owner]
    exact ⟨creator, users.2.1, users.2.2⟩
  · contradiction

theorem archiveDocument_honours {document : Document}
    (belongs : Belongs member organizationId .documents document)
    : Honours member organizationId (archiveDocument document)
        (Belongs member organizationId .documents) := by
  refine Keeps.bind (enter_honours _) (fun _ _ => ?_)
  exact Keeps.bind (persistDocumentState_honours belongs) (fun _ _ => Keeps.pure belongs)

theorem addVersion_honours {version : DocumentVersion}
    (belongs : version.BelongsTo member organizationId)
    : Honours member organizationId (addVersion u version)
        (DocumentVersion.BelongsTo member organizationId) := by
  refine Keeps.bind (enter_honours _) (fun _ _ => ?_)
  refine Keeps.bind (orDuplicateContent_honours (insert_honours belongs.row.members))
    (fun _ _ => ?_)
  exact liftExcept_honours (fun _ loaded => belongs.row.versionFromRecord loaded)

theorem versionRecord_belongs {db : Database} (peopled : Peopled member db)
    {documentId versionId : UUID} {record : DocumentVersionRecord}
    (found : versionRecord db organizationId documentId versionId = some record)
    : Belongs member organizationId .documentVersions record := by
  obtain ⟨visible, owned⟩ := Option.filter_eq_some_iff.mp found
  simp only [Bool.and_eq_true, beq_iff_eq] at owned
  exact peopled.belongs (Db.mem_of_find? visible)
    (congrArg some owned.1 : rowOrganization .documentVersions record = _)

theorem getVersion_honours (documentId versionId : UUID)
    : Honours member organizationId (getVersion u organizationId documentId versionId)
        (fun found => ∀ version ∈ found, version.BelongsTo member organizationId) := by
  refine Keeps.bind (enter_honours _) (fun _ _ => ?_)
  refine Keeps.bind (select_honours _) (fun db peopled => ?_)
  cases found : versionRecord db organizationId documentId versionId with
  | none => exact Keeps.pure (by simp)
  | some record =>
      refine Keeps.bind (liftExcept_honours (fun _ loaded =>
        (versionRecord_belongs peopled found).versionFromRecord loaded))
        (fun _ good => Keeps.pure ?_)
      simpa using good

theorem listVersions_honours (documentId : UUID)
    : Honours member organizationId (listVersions u organizationId documentId)
        (fun _ => True) := by
  refine Keeps.bind (enter_honours _) (fun _ _ => ?_)
  exact Keeps.bind (select_honours _) (fun _ _ => check_honours _)

theorem listArtifacts_honours (documentId : UUID)
    : Honours member organizationId (listArtifacts u organizationId documentId)
        (fun _ => True) := by
  refine Keeps.bind (enter_honours _) (fun _ _ => ?_)
  exact Keeps.bind (select_honours _) (fun _ _ => check_honours _)

theorem listDocuments_honours (query : DocumentListFilter)
    : Honours member organizationId (listDocuments u organizationId query)
        (fun _ => True) := by
  refine Keeps.bind (enter_honours _) (fun _ _ => ?_)
  refine Keeps.bind (select_honours _) (fun _ _ => ?_)
  refine Keeps.bind (select_honours _) (fun _ _ => ?_)
  exact Keeps.bind (check_honours _) (fun _ _ => Keeps.pure trivial)

theorem addArtifact_honours {artifact : DocumentArtifact}
    (belongs : artifact.BelongsTo member organizationId)
    : Honours member organizationId (addArtifact u artifact)
        (DocumentArtifact.BelongsTo member organizationId) := by
  refine Keeps.bind (enter_honours _) (fun _ _ => ?_)
  refine Keeps.bind (insert_honours belongs.row.members) (fun _ _ => ?_)
  exact liftExcept_honours (fun _ loaded => belongs.row.artifactFromRecord loaded)

theorem getArtifact_honours (documentId artifactId : UUID)
    : Honours member organizationId (getArtifact u organizationId documentId artifactId)
        (fun found => ∀ artifact ∈ found, artifact.BelongsTo member organizationId) := by
  refine Keeps.bind (enter_honours _) (fun _ _ => ?_)
  refine Keeps.bind (select_honours _) (fun db peopled => ?_)
  cases found : artifactRecord db organizationId documentId artifactId with
  | none => exact Keeps.pure (by simp)
  | some record =>
      obtain ⟨visible, owned⟩ := Option.filter_eq_some_iff.mp found
      simp only [Bool.and_eq_true, beq_iff_eq] at owned
      have belongs : Belongs member organizationId .documentArtifacts record :=
        peopled.belongs (Db.mem_of_find? visible)
          (congrArg some owned.1 : rowOrganization .documentArtifacts record = _)
      refine Keeps.bind (liftExcept_honours (fun _ loaded => belongs.artifactFromRecord loaded))
        (fun _ good => Keeps.pure ?_)
      simpa using good

theorem setCurrentVersion_honours {document : Document} {version : DocumentVersion}
    (belongs : Belongs member organizationId .documents document)
    : Honours member organizationId (setCurrentVersion document version)
        (fun _ => True) := by
  refine Keeps.bind (enter_honours _) (fun _ _ => ?_)
  split
  · exact Keeps.throw _
  · exact Keeps.bind (persistDocumentState_honours belongs) (fun _ _ => Keeps.pure trivial)

theorem markVersionStorageState_honours (documentId versionId : UUID)
    (storageState : DocumentStorageState)
    : Honours member organizationId
        (markVersionStorageState u organizationId documentId versionId storageState)
        (DocumentVersion.BelongsTo member organizationId) := by
  refine Keeps.bind (select_honours _) (fun db peopled => ?_)
  cases found : versionRecord db organizationId documentId versionId with
  | none => exact Keeps.throw _
  | some record =>
      have belongs := versionRecord_belongs peopled found
      refine Keeps.bind (update_honours ?_) (fun _ _ => ?_)
      · intro row changed members change
        cases change
        exact members
      · have saved
            : Belongs member organizationId .documentVersions { record with storageState } :=
          ⟨belongs.owner, belongs.users⟩
        exact liftExcept_honours (fun _ loaded => saved.versionFromRecord loaded)

theorem markVersionStored_honours (documentId versionId : UUID)
    : Honours member organizationId (markVersionStored u organizationId documentId versionId)
        (DocumentVersion.BelongsTo member organizationId) :=
  Keeps.bind (enter_honours _)
    (fun _ _ => markVersionStorageState_honours documentId versionId .stored)

theorem markVersionFailed_honours (documentId versionId : UUID)
    : Honours member organizationId (markVersionFailed u organizationId documentId versionId)
        (DocumentVersion.BelongsTo member organizationId) :=
  Keeps.bind (enter_honours _)
    (fun _ _ => markVersionStorageState_honours documentId versionId .failed)

end DocumentRepository

-----------------------------------------------------------------------------------------
-- Upload idempotency, audit events and objects
-----------------------------------------------------------------------------------------

/-- Records of uploads and their idempotency keys name no users. -/
theorem rowMembers_uploadIdempotency (row : UploadIdempotencyRecord)
    : RowMembers member .uploadIdempotency row := by
  intro owner _ user named
  cases named

namespace UploadIdempotencyRepository

theorem record_honours (idempotencyKey : Text)
    : Honours member organizationId (record organizationId idempotencyKey) (fun _ => True) := by
  refine Keeps.bind (select_honours _) (fun _ _ => ?_)
  exact scalarOneOrNone_honours_any

theorem requiredRecord_honours (idempotencyKey : Text)
    : Honours member organizationId (requiredRecord organizationId idempotencyKey)
        (fun _ => True) := by
  refine Keeps.bind (record_honours _) (fun found _ => ?_)
  cases found
  · exact Keeps.throw _
  · exact Keeps.pure trivial

theorem get_honours (idempotencyKey : Text)
    : Honours member organizationId (get organizationId idempotencyKey) (fun _ => True) :=
  Keeps.bind (enter_honours _) (fun _ _ => record_honours idempotencyKey)

theorem reserve_honours (idempotencyKey : Text) (now expiresAt : Timestamp)
    : Honours member organizationId (reserve organizationId idempotencyKey now expiresAt)
        (fun _ => True) := by
  refine Keeps.bind (enter_honours _) (fun _ _ => ?_)
  refine Keeps.bind newUuid_honours (fun _ _ => ?_)
  refine Keeps.tryCatch ?_ (fun failure => ?_)
  · exact Keeps.bind (insert_honours (rowMembers_uploadIdempotency _))
      (fun _ _ => Keeps.pure trivial)
  · cases failure
    case integrityError =>
      refine Keeps.bind sessionRollback_honours (fun _ _ => ?_)
      refine Keeps.bind (record_honours _) (fun found _ => ?_)
      cases found
      · exact Keeps.throw _
      · exact Keeps.pure trivial
    all_goals exact Keeps.throw _

theorem assign_honours (loaded : UploadIdempotencyRecord)
    (columns : UploadIdempotencyRecord → UploadIdempotencyRecord)
    : Honours member organizationId (assign loaded columns) (fun _ => True) :=
  Keeps.bind
    (update_honours (fun _ changed _ _ => rowMembers_uploadIdempotency changed))
    (fun _ _ => Keeps.pure trivial)

theorem markInProgress_honours (idempotencyKey : Text) (now expiresAt : Timestamp)
    : Honours member organizationId
        (markInProgress organizationId idempotencyKey now expiresAt) (fun _ => True) := by
  refine Keeps.bind (enter_honours _) (fun _ _ => ?_)
  refine Keeps.bind (requiredRecord_honours _) (fun loaded _ => ?_)
  split
  · exact Keeps.throw _
  · exact assign_honours _ _

theorem finalizeFingerprint_honours (idempotencyKey requestFingerprint : Text)
    (now : Timestamp)
    : Honours member organizationId
        (finalizeFingerprint organizationId idempotencyKey requestFingerprint now)
        (fun _ => True) := by
  refine Keeps.bind (enter_honours _) (fun _ _ => ?_)
  exact Keeps.bind (requiredRecord_honours _) (fun _ _ => assign_honours _ _)

theorem complete_honours (idempotencyKey requestFingerprint : Text)
    (documentId documentVersionId : UUID) (responseStatus : Nat)
    (outcome : UploadDocumentOutcome) (now : Timestamp)
    : Honours member organizationId
        (complete organizationId idempotencyKey requestFingerprint documentId
          documentVersionId responseStatus outcome now)
        (fun _ => True) := by
  refine Keeps.bind (enter_honours _) (fun _ _ => ?_)
  exact Keeps.bind (requiredRecord_honours _) (fun _ _ => assign_honours _ _)

theorem fail_honours (idempotencyKey : Text) (requestFingerprint : Option Text)
    (errorCode : String) (responseStatus : Nat) (retryable : Bool) (now : Timestamp)
    : Honours member organizationId
        (fail organizationId idempotencyKey requestFingerprint errorCode responseStatus
          retryable now)
        (fun _ => True) := by
  refine Keeps.bind (enter_honours _) (fun _ _ => ?_)
  exact Keeps.bind (requiredRecord_honours _) (fun _ _ => assign_honours _ _)

end UploadIdempotencyRepository

namespace ObjectStorage

theorem lookup_honours {key : StorageObjectKey} (inside : UnderTenant organizationId key.value)
    : Honours member organizationId (lookup key) (fun _ => True) := by
  refine Keeps.bind (Keeps.perform ⟨by simpa [Op.keys] using inside, trivial⟩) ?_
  intro answer _
  cases answer
  · exact Keeps.pure trivial
  · exact Keeps.pure trivial
  · exact Keeps.throw _

theorem headObject_honours {key : StorageObjectKey}
    (inside : UnderTenant organizationId key.value)
    : Honours member organizationId (headObject key) (fun _ => True) :=
  Keeps.bind (enter_honours _) (fun _ _ => lookup_honours inside)


theorem deleteObject_honours {key : StorageObjectKey}
    (inside : UnderTenant organizationId key.value)
    : Honours member organizationId (deleteObject key) (fun _ => True) := by
  refine Keeps.bind (enter_honours _) (fun _ _ => ?_)
  refine Keeps.bind (Keeps.perform ⟨by simpa [Op.keys] using inside, trivial⟩) (fun done _ => ?_)
  split
  · exact Keeps.throw _
  · exact Keeps.pure trivial

theorem createDownloadUrl_honours {key : StorageObjectKey} {expiresInSeconds : Int}
    {now : Timestamp} (inside : UnderTenant organizationId key.value)
    : Honours member organizationId (createDownloadUrl key expiresInSeconds now)
        (fun _ => True) := by
  refine Keeps.bind (enter_honours _) (fun _ _ => ?_)
  split
  · exact Keeps.throw _
  refine Keeps.bind (Keeps.perform ⟨by simpa [Op.keys] using inside, trivial⟩) ?_
  intro signed _
  cases signed
  · exact Keeps.throw _
  · exact Keeps.pure trivial

theorem putTempStream_honours {request : PutTempObjectRequest}
    (inside : UnderTenant organizationId request.key.value)
    : Honours member organizationId (putTempStream request) (fun _ => True) := by
  refine Keeps.bind (enter_honours _) (fun _ _ => ?_)
  refine Keeps.bind (check_honours _) (fun _ _ => ?_)
  refine Keeps.bind (Keeps.perform ⟨by simpa [Op.keys] using inside, trivial⟩) (fun done _ => ?_)
  split
  · exact Keeps.throw _
  refine Keeps.bind (lookup_honours inside) (fun found _ => ?_)
  cases found <;> exact Keeps.pure trivial

theorem promoteTempObject_honours {request : PromoteObjectRequest}
    (source : UnderTenant organizationId request.sourceKey.value)
    (destination : UnderTenant organizationId request.destinationKey.value)
    : Honours member organizationId (promoteTempObject request) (fun _ => True) := by
  refine Keeps.bind (enter_honours _) (fun _ _ => ?_)
  refine Keeps.bind (check_honours _) (fun _ _ => ?_)
  refine Keeps.bind (check_honours _) (fun _ _ => ?_)
  refine Keeps.bind
    (Keeps.perform ⟨by simpa [Op.keys] using ⟨source, destination⟩, trivial⟩) (fun copied _ => ?_)
  split
  · exact Keeps.throw _
  refine Keeps.bind (Keeps.perform ⟨by simpa [Op.keys] using source, trivial⟩) (fun deleted _ => ?_)
  split
  · exact Keeps.throw _
  refine Keeps.bind (lookup_honours destination) (fun found _ => ?_)
  cases found
  · exact Keeps.throw _
  · exact Keeps.pure trivial

end ObjectStorage

theorem AuditRepository.record_honours {event : AuditEvent}
    (actor : member event.actorUserId event.organizationId)
    : Honours member organizationId (AuditRepository.record event) (fun _ => True) := by
  refine Keeps.bind (enter_honours _) (fun _ _ => ?_)
  refine Keeps.tryCatch (insert_honours ?_) (fun _ => Keeps.throw _)
  intro owner owned user named
  obtain rfl : event.organizationId = owner := Option.some.inj owned
  simp only [rowUsers, List.mem_singleton] at named
  exact named ▸ actor

-----------------------------------------------------------------------------------------
-- Batches and cases
-----------------------------------------------------------------------------------------

theorem Belongs.batchFromRecord {record batch : Batch}
    (belongs : Belongs member organizationId .batches record)
    (loaded : batchFromRecord u record = .ok batch)
    : Belongs member organizationId .batches batch := by
  obtain ⟨name, description, reference, -, -, -, -, -, rfl⟩ := Batch.postInit_eq_ok loaded
  exact ⟨belongs.owner, belongs.users⟩

theorem Belongs.caseFromRecord {record case : Case}
    (belongs : Belongs member organizationId .cases record)
    (loaded : caseFromRecord u record = .ok case)
    : Belongs member organizationId .cases case := by
  obtain ⟨title, summary, reference, -, -, -, -, rfl⟩ := Case.postInit_eq_ok loaded
  exact ⟨belongs.owner, belongs.users⟩

namespace BatchRepository

theorem add_honours {batch : Batch} (belongs : Belongs member organizationId .batches batch)
    : Honours member organizationId (add u batch)
        (Belongs member organizationId .batches) := by
  refine Keeps.bind (enter_honours _) (fun _ _ => ?_)
  refine Keeps.bind (insert_honours belongs.members) (fun _ _ => ?_)
  exact liftExcept_honours (fun _ loaded => belongs.batchFromRecord loaded)

theorem loaded_honours {record : Option Batch}
    (belongs : ∀ row ∈ record, Belongs member organizationId .batches row)
    : Honours member organizationId (loaded u record)
        (fun found => ∀ row ∈ found, Belongs member organizationId .batches row) := by
  cases record with
  | none => exact Keeps.pure (by simp)
  | some row =>
      refine Keeps.bind (liftExcept_honours (fun _ same =>
        (belongs row rfl).batchFromRecord same)) (fun _ good => Keeps.pure ?_)
      simpa using good

theorem batchRecord_belongs {db : Database} (peopled : Peopled member db) (batchId : UUID)
    : ∀ row ∈ batchRecord db organizationId batchId,
        Belongs member organizationId .batches row := by
  intro row found
  obtain ⟨visible, owned⟩ := Option.filter_eq_some_iff.mp found
  exact peopled.belongs (Db.mem_of_find? visible)
    (congrArg some (beq_iff_eq.mp owned) : rowOrganization .batches row = _)

theorem get_honours (batchId : UUID)
    : Honours member organizationId (get u organizationId batchId)
        (fun found => ∀ row ∈ found, Belongs member organizationId .batches row) := by
  refine Keeps.bind (enter_honours _) (fun _ _ => ?_)
  exact Keeps.bind (select_honours _)
    (fun _ peopled => loaded_honours (batchRecord_belongs peopled batchId))

theorem getForUpdate_honours (batchId : UUID)
    : Honours member organizationId (getForUpdate u organizationId batchId)
        (fun found => ∀ row ∈ found, Belongs member organizationId .batches row) := by
  refine Keeps.bind (enter_honours _) (fun _ _ => ?_)
  exact Keeps.bind (selectForUpdate_honours _ _ _)
    (fun _ peopled => loaded_honours (batchRecord_belongs peopled batchId))

theorem listBatches_honours (query : BatchListFilter)
    : Honours member organizationId (listBatches u organizationId query)
        (fun _ => True) := by
  refine Keeps.bind (enter_honours _) (fun _ _ => ?_)
  refine Keeps.bind (select_honours _) (fun _ _ => ?_)
  refine Keeps.bind (select_honours _) (fun _ _ => ?_)
  refine Keeps.bind (check_honours _) (fun _ _ => ?_)
  exact Keeps.bind (check_honours _) (fun _ _ => Keeps.pure trivial)

/-- The compare-and-swap writes only users of the batch it saves. -/
theorem update_honours {batch : Batch} (belongs : Belongs member organizationId .batches batch)
    : Honours member organizationId (update batch)
        (Belongs member organizationId .batches) := by
  refine Keeps.bind (enter_honours _) (fun _ _ => ?_)
  refine Keeps.bind (WorkflowForge.update_honours ?_) (fun _ _ => Keeps.pure belongs)
  intro row changed members change
  split at change
  · rename_i same
    cases change
    have owner : batch.organizationId = organizationId := Option.some.inj belongs.owner
    have creator : member row.createdByUserId organizationId :=
      members organizationId (congrArg some (same.1.trans owner)) _ (by simp [rowUsers])
    intro other owned
    obtain rfl : row.organizationId = other := Option.some.inj owned
    have users := belongs.users
    simp only [rowUsers, List.forall_mem_cons] at users ⊢
    rw [same.1, owner]
    exact ⟨creator, users.2.1, users.2.2⟩
  · contradiction

theorem addDocument_honours {membership : BatchDocument}
    (belongs : Belongs member organizationId .batchDocuments membership)
    : Honours member organizationId (addDocument membership) (fun _ => True) := by
  refine Keeps.bind (enter_honours _) (fun _ _ => ?_)
  refine Keeps.bind (Keeps.tryCatch
    (Keeps.bind (insert_honours belongs.members) (fun _ _ => Keeps.pure trivial))
    (fun failure => ?refusal)) (fun refused (_ : True) => ?_)
  case refusal =>
    cases failure
    case integrityError => exact Keeps.pure trivial
    all_goals exact Keeps.throw _
  split
  · refine Keeps.bind sessionRollback_honours (fun _ _ => ?_)
    have looked
        : Honours member membership.organizationId
            (membershipRecord membership.organizationId membership.batchId
              membership.documentId)
            (fun _ => True) :=
      Keeps.bind (select_honours _) (fun _ _ =>
        scalarOneOrNone_honours_any)
    have owner : membership.organizationId = organizationId := Option.some.inj belongs.owner
    rw [owner] at looked
    rw [owner]
    refine Keeps.bind looked (fun found _ => ?_)
    cases found
    · exact Keeps.throw _
    · exact check_honours _
  · exact check_honours _

theorem removeDocument_honours (batchId documentId : UUID)
    : Honours member organizationId (removeDocument organizationId batchId documentId)
        (fun _ => True) :=
  Keeps.bind (enter_honours _)
    (fun _ _ => Keeps.bind (delete_honours _ _) (fun _ _ => Keeps.pure trivial))

theorem listDocuments_honours (batchId : UUID)
    : Honours member organizationId (listDocuments organizationId batchId)
        (fun _ => True) := by
  refine Keeps.bind (enter_honours _) (fun _ _ => ?_)
  exact Keeps.bind (select_honours _) (fun _ _ => check_honours _)

end BatchRepository

namespace CaseRepository

theorem add_honours {case : Case} (belongs : Belongs member organizationId .cases case)
    : Honours member organizationId (add u case) (Belongs member organizationId .cases) := by
  refine Keeps.bind (enter_honours _) (fun _ _ => ?_)
  refine Keeps.bind (insert_honours belongs.members) (fun _ _ => ?_)
  exact liftExcept_honours (fun _ loaded => belongs.caseFromRecord loaded)

theorem loaded_honours {record : Option Case}
    (belongs : ∀ row ∈ record, Belongs member organizationId .cases row)
    : Honours member organizationId (loaded u record)
        (fun found => ∀ row ∈ found, Belongs member organizationId .cases row) := by
  cases record with
  | none => exact Keeps.pure (by simp)
  | some row =>
      refine Keeps.bind (liftExcept_honours (fun _ same =>
        (belongs row rfl).caseFromRecord same)) (fun _ good => Keeps.pure ?_)
      simpa using good

theorem caseRecord_belongs {db : Database} (peopled : Peopled member db) (caseId : UUID)
    : ∀ row ∈ caseRecord db organizationId caseId,
        Belongs member organizationId .cases row := by
  intro row found
  obtain ⟨visible, owned⟩ := Option.filter_eq_some_iff.mp found
  exact peopled.belongs (Db.mem_of_find? visible)
    (congrArg some (beq_iff_eq.mp owned) : rowOrganization .cases row = _)

theorem get_honours (caseId : UUID)
    : Honours member organizationId (get u organizationId caseId)
        (fun found => ∀ row ∈ found, Belongs member organizationId .cases row) := by
  refine Keeps.bind (enter_honours _) (fun _ _ => ?_)
  exact Keeps.bind (select_honours _)
    (fun _ peopled => loaded_honours (caseRecord_belongs peopled caseId))

theorem getForUpdate_honours (caseId : UUID)
    : Honours member organizationId (getForUpdate u organizationId caseId)
        (fun found => ∀ row ∈ found, Belongs member organizationId .cases row) := by
  refine Keeps.bind (enter_honours _) (fun _ _ => ?_)
  exact Keeps.bind (selectForUpdate_honours _ _ _)
    (fun _ peopled => loaded_honours (caseRecord_belongs peopled caseId))

theorem listCases_honours (query : CaseListFilter)
    : Honours member organizationId (listCases u organizationId query) (fun _ => True) := by
  refine Keeps.bind (enter_honours _) (fun _ _ => ?_)
  refine Keeps.bind (select_honours _) (fun _ _ => ?_)
  refine Keeps.bind (select_honours _) (fun _ _ => ?_)
  refine Keeps.bind (check_honours _) (fun _ _ => ?_)
  exact Keeps.bind (check_honours _) (fun _ _ => Keeps.pure trivial)

/-- The compare-and-swap writes only users of the case it saves. -/
theorem update_honours {case : Case} (belongs : Belongs member organizationId .cases case)
    : Honours member organizationId (update case) (Belongs member organizationId .cases) := by
  refine Keeps.bind (enter_honours _) (fun _ _ => ?_)
  refine Keeps.bind (WorkflowForge.update_honours ?_) (fun _ _ => Keeps.pure belongs)
  intro row changed members change
  split at change
  · rename_i same
    cases change
    have owner : case.organizationId = organizationId := Option.some.inj belongs.owner
    have creator : member row.createdByUserId organizationId :=
      members organizationId (congrArg some (same.1.trans owner)) _ (by simp [rowUsers])
    intro other owned
    obtain rfl : row.organizationId = other := Option.some.inj owned
    have users := belongs.users
    simp only [rowUsers, List.cons_append, List.forall_mem_cons] at users ⊢
    rw [same.1, owner]
    exact ⟨creator, users.2.1, users.2.2⟩
  · contradiction

theorem addDocument_honours {membership : CaseDocument}
    (belongs : Belongs member organizationId .caseDocuments membership)
    : Honours member organizationId (addDocument membership) (fun _ => True) := by
  refine Keeps.bind (enter_honours _) (fun _ _ => ?_)
  refine Keeps.bind (Keeps.tryCatch
    (Keeps.bind (insert_honours belongs.members) (fun _ _ => Keeps.pure trivial))
    (fun failure => ?refusal)) (fun refused (_ : True) => ?_)
  case refusal =>
    cases failure
    case integrityError => exact Keeps.pure trivial
    all_goals exact Keeps.throw _
  split
  · refine Keeps.bind sessionRollback_honours (fun _ _ => ?_)
    have looked
        : Honours member membership.organizationId
            (membershipRecord membership.organizationId membership.caseId
              membership.documentId)
            (fun _ => True) :=
      Keeps.bind (select_honours _) (fun _ _ =>
        scalarOneOrNone_honours_any)
    have owner : membership.organizationId = organizationId := Option.some.inj belongs.owner
    rw [owner] at looked
    rw [owner]
    refine Keeps.bind looked (fun found _ => ?_)
    cases found
    · exact Keeps.throw _
    · exact Keeps.pure trivial
  · exact Keeps.pure trivial

theorem removeDocument_honours (caseId documentId : UUID)
    : Honours member organizationId (removeDocument organizationId caseId documentId)
        (fun _ => True) :=
  Keeps.bind (enter_honours _)
    (fun _ _ => Keeps.bind (delete_honours _ _) (fun _ _ => Keeps.pure trivial))

/-- The lists of child records are plain queries. -/
theorem query_honours (query : Query) (rows : Database → List α)
    : Honours member organizationId
        (do
          enter .caseRepository
          let db ← select query
          return rows db)
        (fun _ => True) :=
  Keeps.bind (enter_honours _)
    (fun _ _ => Keeps.bind (select_honours _) (fun _ _ => Keeps.pure trivial))

theorem addComment_honours {comment : CaseComment}
    (belongs : Belongs member organizationId .caseComments comment)
    : Honours member organizationId (addComment comment) (fun _ => True) :=
  Keeps.bind (enter_honours _)
    (fun _ _ => Keeps.bind (insert_honours belongs.members) (fun _ _ => Keeps.pure trivial))

theorem addTask_honours {task : CaseTask}
    (belongs : Belongs member organizationId .caseTasks task)
    : Honours member organizationId (addTask task) (fun _ => True) :=
  Keeps.bind (enter_honours _)
    (fun _ _ => Keeps.bind (insert_honours belongs.members) (fun _ _ => Keeps.pure trivial))

theorem addDecision_honours {decision : CaseDecision}
    (belongs : Belongs member organizationId .caseDecisions decision)
    : Honours member organizationId (addDecision decision) (fun _ => True) :=
  Keeps.bind (enter_honours _)
    (fun _ _ => Keeps.bind (insert_honours belongs.members) (fun _ _ => Keeps.pure trivial))

theorem getTaskForUpdate_honours (caseId taskId : UUID)
    : Honours member organizationId (getTaskForUpdate organizationId caseId taskId)
        (fun found => ∀ row ∈ found, Belongs member organizationId .caseTasks row) := by
  refine Keeps.bind (enter_honours _) (fun _ _ => ?_)
  refine Keeps.bind (selectForUpdate_honours _ _ _) (fun db peopled => Keeps.pure ?_)
  intro row found
  obtain ⟨visible, owned⟩ := Option.filter_eq_some_iff.mp found
  simp only [Bool.and_eq_true, beq_iff_eq] at owned
  exact peopled.belongs (Db.mem_of_find? visible)
    (congrArg some owned.1 : rowOrganization .caseTasks row = _)

/-- The compare-and-swap writes only users of the task it saves. -/
theorem updateTask_honours {task : CaseTask}
    (belongs : Belongs member organizationId .caseTasks task)
    : Honours member organizationId (updateTask task)
        (Belongs member organizationId .caseTasks) := by
  refine Keeps.bind (enter_honours _) (fun _ _ => ?_)
  refine Keeps.bind (WorkflowForge.update_honours ?_) (fun _ _ => Keeps.pure belongs)
  intro row changed members change
  split at change
  · rename_i same
    cases change
    have owner : task.organizationId = organizationId := Option.some.inj belongs.owner
    have creator : member row.createdByUserId organizationId :=
      members organizationId (congrArg some (same.1.trans owner)) _ (by simp [rowUsers])
    intro other owned
    obtain rfl : row.organizationId = other := Option.some.inj owned
    have users := belongs.users
    simp only [rowUsers, List.cons_append, List.forall_mem_cons] at users ⊢
    rw [same.1, owner]
    exact ⟨creator, users.2.1, users.2.2⟩
  · contradiction

end CaseRepository

end WorkflowForge
