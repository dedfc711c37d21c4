import WorkflowForge.Domain.StorageKeys

/-! What the constructors and transitions of documents and versions accept and return. -/

namespace WorkflowForge

open Python

variable {u : Unicode}

theorem validateUuid_eq_ok {value : UUID} {fieldName : String}
    : validateUuid value fieldName = .ok () ↔ value ≠ 0 := by
  by_cases nil : value = 0 <;> simp [validateUuid, nil]

/-- The values that the document constructor accepts, with their normalized texts. -/
structure Document.Accepted (u : Unicode) (draft : Document) (name : Text)
    (reference : Option Text)
    : Prop where
  organization : draft.organizationId ≠ 0
  creator : draft.createdByUserId ≠ 0
  updater : draft.updatedByUserId ≠ 0
  filename : normalizeOriginalFilename u draft.displayFilename = .ok name
  source : normalizeSourceReference u draft.sourceReference = .ok reference
  times : draft.createdAt ≤ draft.updatedAt
  lock : 0 < draft.lockVersion
  archive : draft.validateArchive = .ok ()

/-- The document constructor only normalizes its two texts. -/
theorem Document.postInit_eq_ok {draft document : Document}
    : Document.postInit u draft = .ok document
      ↔ ∃ name reference,
          Document.Accepted u draft name reference
          ∧ document = { draft with displayFilename := name, sourceReference := reference } := by
  constructor
  · intro built
    simp only [Document.postInit, bind, Except.bind] at built
    split at built
    · contradiction
    rename_i organization
    split at built
    · contradiction
    rename_i creator
    split at built
    · contradiction
    rename_i updater
    split at built
    · contradiction
    rename_i name filename
    split at built
    · contradiction
    rename_i reference source
    split at built
    · contradiction
    rename_i times
    split at built
    · contradiction
    rename_i lock
    split at built
    · contradiction
    rename_i archive
    simp only [pure, Except.pure, Except.ok.injEq] at built
    refine ⟨name, reference, ?_, built.symm⟩
    exact {
      organization := validateUuid_eq_ok.mp organization
      creator := validateUuid_eq_ok.mp creator
      updater := validateUuid_eq_ok.mp updater
      filename := filename
      source := source
      times := Int.not_lt.mp times
      lock := Nat.not_le.mp lock
      archive := archive
    }
  · rintro ⟨name, reference, accepted, rfl⟩
    simp only [Document.postInit, bind, Except.bind, validateUuid, if_neg accepted.organization,
      if_neg accepted.creator, if_neg accepted.updater, accepted.filename, accepted.source,
      if_neg (Int.not_lt.mpr accepted.times), if_neg (Nat.not_le.mpr accepted.lock),
      accepted.archive, pure, Except.pure]

/-- A document that the constructor returns unchanged. -/
def Document.Settled (u : Unicode) (document : Document) : Prop :=
  Document.postInit u document = .ok document

/-- The constructor's result settles as soon as its name does. -/
theorem Document.settled_of_postInit {draft document : Document}
    (built : Document.postInit u draft = .ok document)
    (name : SettledName u document.displayFilename)
    : document.Settled u := by
  obtain ⟨normalized, reference, accepted, rfl⟩ := Document.postInit_eq_ok.mp built
  refine Document.postInit_eq_ok.mpr ⟨normalized, reference, ?_, rfl⟩
  exact {
    organization := accepted.organization
    creator := accepted.creator
    updater := accepted.updater
    filename := name
    source := normalizeSourceReference_idem accepted.source
    times := accepted.times
    lock := accepted.lock
    archive := accepted.archive
  }

theorem Document.Settled.accepted {document : Document} (settled : document.Settled u)
    : Document.Accepted u document document.displayFilename document.sourceReference := by
  obtain ⟨name, reference, accepted, same⟩ := Document.postInit_eq_ok.mp settled
  have filename : document.displayFilename = name := congrArg Document.displayFilename same
  have source : document.sourceReference = reference := congrArg Document.sourceReference same
  rw [filename, source]
  exact accepted

/-- A mutation of a settled document changes what `changes` says and bumps the lock.
Witness: the constructor runs on the changed document, whose texts are settled again.
-/
theorem Document.mutated_eq_ok {document result : Document} {actorUserId : UUID}
    {timestamp : Timestamp} {changes : Document → Document} (settled : document.Settled u)
    (source : (changes document).sourceReference = document.sourceReference)
    (mutated : document.mutated u actorUserId timestamp changes = .ok result)
    : ∃ name,
        normalizeOriginalFilename u (changes document).displayFilename = .ok name
        ∧ document.createdAt ≤ timestamp
        ∧ result = {
            changes document with
            displayFilename := name
            updatedAt := timestamp
            updatedByUserId := actorUserId
            lockVersion := document.lockVersion + 1
          } := by
  simp only [Document.mutated, bind, Except.bind] at mutated
  split at mutated
  · contradiction
  split at mutated
  · contradiction
  rename_i times
  obtain ⟨name, reference, accepted, rfl⟩ := Document.postInit_eq_ok.mp mutated
  have kept := settled.accepted.source
  have again := accepted.source
  simp only [source, kept, Except.ok.injEq] at again
  refine ⟨name, accepted.filename, Int.not_lt.mp times, ?_⟩
  rw [← again, ← source]

/-- The result of a mutation settles as soon as its name does. -/
theorem Document.mutated_settled {document result : Document} {actorUserId : UUID}
    {timestamp : Timestamp} {changes : Document → Document}
    (mutated : document.mutated u actorUserId timestamp changes = .ok result)
    (name : SettledName u result.displayFilename)
    : result.Settled u := by
  simp only [Document.mutated, bind, Except.bind] at mutated
  split at mutated
  · contradiction
  split at mutated
  · contradiction
  exact Document.settled_of_postInit mutated name

/-- `mark_stored` and `mark_failed` of a settled document. -/
theorem Document.transitionTo_eq_ok {document result : Document} {status : DocumentStatus}
    {actorUserId : UUID} {timestamp : Timestamp} (settled : document.Settled u)
    (moved : document.transitionTo u status actorUserId timestamp = .ok result)
    : (document.status = .registered ∨ document.status = .failed)
      ∧ result = {
          document with
          status
          updatedAt := timestamp
          updatedByUserId := actorUserId
          lockVersion := document.lockVersion + 1
        }
      ∧ result.Settled u := by
  simp only [Document.transitionTo, bind, Except.bind] at moved
  split at moved
  · contradiction
  split at moved
  · contradiction
  rename_i allowed
  obtain ⟨name, filename, -, shape⟩ := Document.mutated_eq_ok settled rfl moved
  have same := settled.accepted.filename
  simp only [filename, Except.ok.injEq] at same
  refine ⟨?_, by rw [shape, same], ?_⟩
  · by_contra neither
    exact allowed (by simpa [not_or] using neither)
  · apply Document.mutated_settled moved
    rw [shape, same]
    exact settled.accepted.filename

/-- `archive` of a settled document. -/
theorem Document.archive_eq_ok {document result : Document} {actorUserId : UUID}
    {timestamp : Timestamp} (settled : document.Settled u)
    (archived : document.archive u actorUserId timestamp = .ok result)
    : document.status ≠ .archived
      ∧ result = {
          document with
          status := .archived
          archivedAt := some timestamp
          archivedByUserId := some actorUserId
          updatedAt := timestamp
          updatedByUserId := actorUserId
          lockVersion := document.lockVersion + 1
        }
      ∧ result.Settled u := by
  simp only [Document.archive, bind, Except.bind] at archived
  split at archived
  · contradiction
  rename_i mutable
  split at archived
  · contradiction
  split at archived
  · contradiction
  obtain ⟨name, reference, accepted, same⟩ := Document.postInit_eq_ok.mp archived
  have filename := settled.accepted.filename
  have source := settled.accepted.source
  have filename' := accepted.filename
  have source' := accepted.source
  simp only [filename, Except.ok.injEq] at filename'
  simp only [source, Except.ok.injEq] at source'
  refine ⟨?_, ?_, ?_⟩
  · intro already
    simp [Document.ensureMutable, already] at mutable
  · rw [same, ← filename', ← source']
  · apply Document.settled_of_postInit archived
    rw [same, ← filename']
    exact filename

/-- `set_current_version` of a settled document. -/
theorem Document.setCurrentVersion_eq_ok {document result : Document}
    {version : DocumentVersion} {actorUserId : UUID} {timestamp : Timestamp}
    (settled : document.Settled u)
    (moved : document.setCurrentVersion u version actorUserId timestamp = .ok result)
    : document.status ≠ .archived
      ∧ ∃ name,
          normalizeOriginalFilename u version.originalFilename = .ok name
          ∧ result = {
              document with
              currentVersionId := version.id
              displayFilename := name
              status := if version.storageState = .stored then .stored else .registered
              updatedAt := timestamp
              updatedByUserId := actorUserId
              lockVersion := document.lockVersion + 1
            }
          ∧ (SettledName u name → result.Settled u) := by
  simp only [Document.setCurrentVersion, bind, Except.bind] at moved
  split at moved
  · contradiction
  rename_i mutable
  split at moved
  · contradiction
  split at moved
  · contradiction
  obtain ⟨name, filename, -, shape⟩ := Document.mutated_eq_ok settled rfl moved
  refine ⟨?_, name, filename, shape, ?_⟩
  · intro already
    simp [Document.ensureMutable, already] at mutable
  · intro fixed
    apply Document.mutated_settled moved
    rw [shape]
    exact fixed

/-- `register` builds a registered document with lock version one. -/
theorem Document.register_eq_ok {id organizationId : UUID} {displayFilename : Text}
    {sourceType : DocumentSourceType} {sourceReference : Option Text}
    {currentVersion : DocumentVersion} {createdByUserId : UUID} {timestamp : Timestamp}
    {document : Document}
    (registered
      : Document.register u id organizationId displayFilename sourceType sourceReference
          currentVersion createdByUserId timestamp = .ok document)
    : ∃ name reference,
        normalizeOriginalFilename u displayFilename = .ok name
        ∧ document = {
            id, organizationId
            displayFilename := name
            sourceType
            sourceReference := reference
            status := .registered
            currentVersionId := currentVersion.id
            archivedAt := none
            archivedByUserId := none
            createdAt := timestamp
            createdByUserId
            updatedAt := timestamp
            updatedByUserId := createdByUserId
            lockVersion := 1
          } := by
  simp only [Document.register, bind, Except.bind] at registered
  split at registered
  · contradiction
  split at registered
  · contradiction
  obtain ⟨name, reference, accepted, rfl⟩ := Document.postInit_eq_ok.mp registered
  exact ⟨name, reference, accepted.filename, rfl⟩

-----------------------------------------------------------------------------------------
-- Versions
-----------------------------------------------------------------------------------------

/-- The values that the version constructor accepts, with their normalized texts. -/
structure DocumentVersion.Accepted (u : Unicode) (draft : DocumentVersion) (name mediaType : Text)
    : Prop where
  organization : draft.organizationId ≠ 0
  creator : draft.createdByUserId ≠ 0
  number : 0 < draft.versionNumber
  filename : normalizeOriginalFilename u draft.originalFilename = .ok name
  media : normalizeMediaType u draft.mediaType = .ok mediaType
  size : 0 ≤ draft.byteSize
  key
    : ensureKeyIsTenantSafe draft.storageObjectKey draft.organizationId
        (documentContentPrefix draft.organizationId) = .ok ()

/-- The version constructor only normalizes its two texts. -/
theorem DocumentVersion.postInit_eq_ok {draft version : DocumentVersion}
    : DocumentVersion.postInit u draft = .ok version
      ↔ ∃ name mediaType,
          DocumentVersion.Accepted u draft name mediaType
          ∧ version = { draft with originalFilename := name, mediaType } := by
  constructor
  · intro built
    simp only [DocumentVersion.postInit, bind, Except.bind] at built
    split at built
    · contradiction
    rename_i organization
    split at built
    · contradiction
    rename_i creator
    split at built
    · contradiction
    rename_i number
    split at built
    · contradiction
    rename_i name filename
    split at built
    · contradiction
    rename_i mediaType media
    split at built
    · contradiction
    rename_i byteSize size
    split at built
    · contradiction
    rename_i key
    simp only [pure, Except.pure, Except.ok.injEq] at built
    simp only [validateByteSize] at size
    split at size
    · contradiction
    rename_i natural
    simp only [Except.ok.injEq] at size
    subst size
    refine ⟨name, mediaType, ?_, built.symm⟩
    exact {
      organization := validateUuid_eq_ok.mp organization
      creator := validateUuid_eq_ok.mp creator
      number := Nat.not_le.mp number
      filename := filename
      media := media
      size := Int.not_lt.mp natural
      key := key
    }
  · rintro ⟨name, mediaType, accepted, rfl⟩
    simp only [DocumentVersion.postInit, bind, Except.bind, validateUuid,
      if_neg accepted.organization, if_neg accepted.creator,
      if_neg (Nat.not_le.mpr accepted.number), accepted.filename, accepted.media,
      validateByteSize, if_neg (Int.not_lt.mpr accepted.size), accepted.key, pure, Except.pure]

/-- `DocumentVersion.create` with the deterministic final key. -/
theorem DocumentVersion.create_eq_ok {id organizationId documentId : UUID}
    {versionNumber : Nat} {originalFilename mediaType : Text} {byteSize : Int}
    {contentHash : ContentHash} {storageState : DocumentStorageState} {createdAt : Timestamp}
    {createdByUserId : UUID} {version : DocumentVersion}
    : DocumentVersion.create u id organizationId documentId versionNumber originalFilename
          mediaType byteSize contentHash storageState createdAt createdByUserId = .ok version
      ↔ ∃ name media,
          organizationId ≠ 0 ∧ createdByUserId ≠ 0 ∧ 0 < versionNumber
          ∧ normalizeOriginalFilename u originalFilename = .ok name
          ∧ normalizeMediaType u mediaType = .ok media
          ∧ 0 ≤ byteSize
          ∧ version = {
              id, organizationId, documentId, versionNumber
              originalFilename := name
              mediaType := media
              byteSize, contentHash
              storageObjectKey := documentContentKey organizationId contentHash
              storageState, createdAt, createdByUserId
            } := by
  by_cases nil : organizationId = 0
  · simp [DocumentVersion.create, StorageObjectKey.forDocumentContent, validateUuid, nil, bind,
      Except.bind]
  simp only [DocumentVersion.create, StorageObjectKey.forDocumentContent_eq nil, bind,
    Except.bind]
  rw [DocumentVersion.postInit_eq_ok]
  constructor
  · rintro ⟨name, media, accepted, rfl⟩
    exact ⟨name, media, nil, accepted.creator, accepted.number, accepted.filename,
      accepted.media, accepted.size, rfl⟩
  · rintro ⟨name, media, -, creator, number, filename, media_ok, size, rfl⟩
    refine ⟨name, media, ?_, rfl⟩
    exact {
      organization := nil
      creator := creator
      number := number
      filename := filename
      media := media_ok
      size := size
      key := ensureKeyIsTenantSafe_documentContent organizationId contentHash
    }

end WorkflowForge
