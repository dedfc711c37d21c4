import WorkflowForge.Application.Streaming
import WorkflowForge.Documents.Additions
import WorkflowForge.Uploads.Filenames

/-! The rows of a new document.
What upload validation accepts, the domain builds and the columns hold. The one text that is
normalized again is the filename, which has to be accepted once more. -/

namespace WorkflowForge

open Python

variable {u : Unicode} {services : Services}

/-- The metadata of an accepted upload. -/
structure AcceptedMetadata (u : Unicode) (filename : Option Text)
    (metadata : NormalizedUploadMetadata)
    : Prop where
  name : ∃ raw, filename = some raw ∧ normalizeUploadFilename u (some raw) = .ok metadata.filename
  media : normalizeMediaType u metadata.mediaType = .ok metadata.mediaType
  short : metadata.mediaType.length ≤ 255

theorem policies_short {policy : UploadTypePolicy} (listed : policy ∈ policies)
    : policy.mediaType.length ≤ 255 := by
  have all : ∀ policy ∈ policies, policy.mediaType.length ≤ 255 := by decide
  exact all policy listed

theorem normalizeUploadMetadata_ok {filename declaredMediaType : Option Text}
    {metadata : NormalizedUploadMetadata}
    (accepted : normalizeUploadMetadata u filename declaredMediaType = .ok metadata)
    : AcceptedMetadata u filename metadata := by
  obtain ⟨name, named, rest⟩ := exists_of_bind_ok accepted
  obtain ⟨extension, -, rest⟩ := exists_of_bind_ok rest
  obtain ⟨policy, chosen, rest⟩ := exists_of_bind_ok rest
  have listed : policy ∈ policies := by
    simp only [policyForExtension] at chosen
    split at chosen
    · rename_i found
      cases chosen
      exact List.mem_of_find?_eq_some found
    · cases chosen
  dsimp only at rest
  split at rest
  · rename_i media parsed
    obtain ⟨same, rest⟩ : media = policy.mediaType ∧ _ := by
      change (if media ≠ policy.mediaType then _ else _) = _ at rest
      split at rest
      · cases rest
      · rename_i same
        exact ⟨not_not.mp same, rest⟩
    cases rest
    refine ⟨?_, normalizeMediaType_idem parsed, ?_⟩
    · cases filename with
      | none => cases named
      | some raw => exact ⟨raw, rfl, named⟩
    · exact same ▸ policies_short listed
  · cases rest

theorem prepareUpload_accepted {command : UploadDocumentCommand} {upload : PreparedUpload}
    (prepared : (UploadDocument.prepareUpload services command).1 = .ok upload)
    : AcceptedMetadata services.platform.unicode command.filename upload.metadata := by
  simp only [UploadDocument.prepareUpload] at prepared
  split at prepared
  · cases prepared
  rename_i metadata normalized
  split at prepared
  · cases prepared
  simp only [UploadDocument.prepared, bind, Except.bind] at prepared
  split at prepared
  · cases prepared
  cases prepared
  exact normalizeUploadMetadata_ok normalized

/-- The filename is accepted by both normalizers, one after the other. -/
def Renames (u : Unicode) (filename : Option Text) : Prop :=
  ∀ name, normalizeUploadFilename u filename = .ok name
    → ∃ again, normalizeOriginalFilename u name = .ok again

/-- The limit of uploads, or else what this one delivers, is in the range of BIGINT. -/
def Countable (services : Services) (command : UploadDocumentCommand) : Prop :=
  services.maxBytes < 2 ^ 63 ∨ streamSize command.stream < 2 ^ 63

theorem prepareUpload_size (services : Services) (command : UploadDocumentCommand)
    : streamSize (UploadDocument.prepareUpload services command).2 ≤ streamSize command.stream
      ∧ ∀ upload,
          (UploadDocument.prepareUpload services command).1 = .ok upload
          → upload.streamed.byteSize ≤ services.maxBytes
            ∧ upload.streamed.byteSize ≤ streamSize command.stream := by
  simp only [UploadDocument.prepareUpload]
  split
  · exact ⟨Nat.le_refl _, by simp⟩
  have read := streamUpload_size services.platform services.maxBytes command.stream
  split
  · rename_i failure rest ended
    rw [ended] at read
    exact ⟨read.1, by simp⟩
  · rename_i streamed rest ended
    rw [ended] at read
    refine ⟨read.1, fun upload prepared => ?_⟩
    simp only [UploadDocument.prepared, bind, Except.bind] at prepared
    split at prepared
    · cases prepared
    cases prepared
    exact read.2 _ rfl

theorem Countable.byteSize {command : UploadDocumentCommand} {upload : PreparedUpload}
    (countable : Countable services command)
    (prepared : (UploadDocument.prepareUpload services command).1 = .ok upload)
    : upload.streamed.byteSize < 2 ^ 63 := by
  have size := (prepareUpload_size services command).2 upload prepared
  rcases countable with limited | delivered <;> omega

/-- What reading an upload leaves of its stream counts as well. -/
theorem Countable.rest {command : UploadDocumentCommand}
    (countable : Countable services command)
    : Countable services
        { command with stream := (UploadDocument.prepareUpload services command).2 } := by
  have left := (prepareUpload_size services command).1
  exact countable.imp id (fun delivered => Nat.lt_of_le_of_lt left delivered)

theorem documentContentKey_length {organizationId : UUID} (small : organizationId < 2 ^ 128)
    (hash : ContentHash)
    : (documentContentKeyText organizationId hash.value).length ≤ 255 := by
  have digest := hash.hex.1
  unfold documentContentKeyText documentContentPrefix
  simp only [List.length_append, List.length_cons, List.length_take, List.length_drop, digest,
    uuidText_length small]
  decide

/-- A new document's rows fit their columns, and the document's row loads. -/
structure DraftRows (u : Unicode) (document : Document) (version : DocumentVersion) : Prop where
  loads : ∃ loaded, documentFromRecord u document = .ok loaded
  document_fits : rowFits .documents document = true
  version_fits : rowFits .documentVersions (recordFromVersion version) = true

/-- A registered document starts with empty optional columns and one timestamp. -/
theorem Document.register_of_name {id organizationId creator : UUID}
    {filename name : Text} {sourceType : DocumentSourceType} {version : DocumentVersion}
    {timestamp : Timestamp} (owner : version.documentId = id)
    (tenant : version.organizationId = organizationId) (organization : organizationId ≠ 0)
    (user : creator ≠ 0) (normalized : normalizeOriginalFilename u filename = .ok name)
    : ∃ document,
        Document.register u id organizationId filename sourceType none version creator timestamp
          = .ok document
        ∧ document.displayFilename = name
        ∧ document.sourceReference = none
        ∧ document.lockVersion = 1
        ∧ (SettledName u name → documentFromRecord u document = .ok document) := by
  obtain ⟨draft, shape⟩
      : ∃ draft : Document, draft = {
          id, organizationId
          displayFilename := filename
          sourceType
          sourceReference := none
          status := .registered
          currentVersionId := version.id
          archivedAt := none
          archivedByUserId := none
          createdAt := timestamp
          createdByUserId := creator
          updatedAt := timestamp
          updatedByUserId := creator
          lockVersion := 1
        } :=
    ⟨_, rfl⟩
  have accepted : Document.Accepted u draft name none := by
    subst shape
    exact {
      organization := organization
      creator := user
      updater := user
      filename := normalized
      source := rfl
      times := Int.le_refl _
      lock := Nat.one_pos
      archive := rfl
    }
  have built
      : Document.postInit u draft
        = .ok { draft with displayFilename := name, sourceReference := none } :=
    Document.postInit_eq_ok.mpr ⟨name, none, accepted, rfl⟩
  refine ⟨{ draft with displayFilename := name, sourceReference := none }, ?_, rfl, rfl,
    by rw [shape], ?_⟩
  · unfold Document.register
    rw [if_neg (not_not.mpr owner), if_neg (not_not.mpr tenant), ← shape]
    exact built
  · intro settled
    exact Document.settled_of_postInit built settled

/-- The pair that `_new_document_pair` builds of an accepted upload. -/
theorem newDocument_built {filename : Option Text} {metadata : NormalizedUploadMetadata}
    (accepted : AcceptedMetadata u filename metadata) (renames : Renames u filename)
    (tenant : TenantContext) (documentId versionId : UUID) (hash : ContentHash)
    {byteSize : Nat} (small : byteSize < 2 ^ 63) (now : Timestamp)
    : ∃ version document,
        DocumentVersion.create u versionId tenant.organizationId documentId 1 metadata.filename
            metadata.mediaType byteSize hash .pending now tenant.userId = .ok version
        ∧ Document.register u documentId tenant.organizationId metadata.filename .upload none
            version tenant.userId now = .ok document
        ∧ DraftRows u document version := by
  obtain ⟨raw, rfl, named⟩ := accepted.name
  obtain ⟨again, renamed⟩ := renames _ named
  obtain ⟨clean, special, short⟩ := normalized_eq (.inl named)
  have first : normalizeOriginalFilename u raw = .ok metadata.filename := by
    have within : ¬ metadata.filename.length > displayFilenameMaxLength := Nat.not_lt.mpr short
    unfold normalizeOriginalFilename
    simp only [← clean, special, Bool.false_eq_true, if_false, if_neg within]
  have settled : SettledName u again := settledName_of_twice first renamed
  have narrow : again.length ≤ 255 := (normalizeOriginalFilename_ok renamed).2.2
  obtain ⟨version, created, owner, tenancy, fits⟩
      : ∃ version,
          DocumentVersion.create u versionId tenant.organizationId documentId 1 metadata.filename
              metadata.mediaType byteSize hash .pending now tenant.userId = .ok version
          ∧ version.documentId = documentId
          ∧ version.organizationId = tenant.organizationId
          ∧ rowFits .documentVersions (recordFromVersion version) = true := by
    refine ⟨_, DocumentVersion.create_eq_ok.mpr ⟨again, metadata.mediaType,
      tenant.organization_ne_nil, tenant.user_ne_nil, Nat.one_pos, renamed, accepted.media,
      Int.natCast_nonneg byteSize, rfl⟩, rfl, rfl, ?_⟩
    have key := documentContentKey_length tenant.organization_lt hash
    have range : bigint byteSize = true := by
      simp only [bigint, Bool.and_eq_true, decide_eq_true_eq]
      omega
    simp [rowFits, within, integer, recordFromVersion, narrow, accepted.short,
      hash.hex.1, documentContentKey, key, range]
  obtain ⟨document, registered, display, reference, lock, loads⟩ :=
    Document.register_of_name owner tenancy tenant.organization_ne_nil tenant.user_ne_nil renamed
  refine ⟨version, document, created, registered, ⟨document, loads settled⟩, ?_, fits⟩
  simp [rowFits, within, integer, display, reference, lock, narrow]

end WorkflowForge
