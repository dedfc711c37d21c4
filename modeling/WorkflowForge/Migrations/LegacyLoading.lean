import WorkflowForge.Domain.Aggregates
import WorkflowForge.Domain.StorageKeys
import WorkflowForge.Infrastructure.DocumentRepository
import WorkflowForge.Migrations.RoundTrip
import WorkflowForge.Python.Ascii

/-! Which migrated rows the repository can load. -/

namespace WorkflowForge.Migrations

open Python Ddl

-----------------------------------------------------------------------------------------
-- Loading the rows of the upgraded schema
-----------------------------------------------------------------------------------------

/-- `DocumentStatus(value)`. -/
def documentStatus (value : String) : Except Exn DocumentStatus :=
  match [DocumentStatus.registered, .stored, .failed, .archived].find?
      (fun status => status.value == value) with
  | some status => .ok status
  | none => .error (.valueError "is not a valid DocumentStatus")

/-- `DocumentSourceType(value)`. -/
def documentSourceType (value : String) : Except Exn DocumentSourceType :=
  match [DocumentSourceType.upload, .import, .system].find?
      (fun source => source.value == value) with
  | some source => .ok source
  | none => .error (.valueError "is not a valid DocumentSourceType")

/-- `DocumentStorageState(value)`. -/
def documentStorageState (value : String) : Except Exn DocumentStorageState :=
  if value = "pending" then .ok .pending
  else if value = "stored" then .ok .stored
  else if value = "failed" then .ok .failed
  else .error (.valueError "is not a valid DocumentStorageState")

/-- `_document_from_record` on a row of the upgraded table, whose required columns are not
null. -/
def loadDocument (u : Unicode) (row : DocumentsRow) : Except Exn Document := do
  let sourceType ← documentSourceType (row.sourceType.getD "")
  let status ← documentStatus row.status
  documentFromRecord u {
    id := row.id
    organizationId := row.organizationId.getD 0
    displayFilename := row.displayFilename.getD []
    sourceType
    sourceReference := row.sourceReference
    status
    currentVersionId := row.currentVersionId.getD 0
    archivedAt := row.archivedAt
    archivedByUserId := row.archivedByUserId
    createdAt := row.createdAt
    createdByUserId := row.createdByUserId.getD 0
    updatedAt := row.updatedAt
    updatedByUserId := row.updatedByUserId.getD 0
    lockVersion := (row.lockVersion.getD 0).toNat
  }

/-- `_version_from_record` on a row of the new table. -/
def loadVersion (u : Unicode) (row : VersionsRow) : Except Exn DocumentVersion := do
  let storageState ← documentStorageState row.storageState
  versionFromRecord u {
    id := row.id
    organizationId := row.organizationId
    documentId := row.documentId
    versionNumber := row.versionNumber.toNat
    originalFilename := row.originalFilename
    mediaType := row.mediaType
    byteSize := row.byteSize
    contentHash := row.contentHash
    storageObjectKey := row.storageObjectKey
    storageState
    createdAt := row.createdAt
    createdByUserId := row.createdByUserId
  }

-----------------------------------------------------------------------------------------
-- Legacy rows
-----------------------------------------------------------------------------------------

/-- The storage key that the old domain derived from the content hash. -/
def legacyKey (digest : Text) : Text :=
  "documents/sha256/".toList
    ++ (digest.take 2 ++ '/' :: ((digest.drop 2).take 2 ++ '/' :: digest))

/-- A row of the old domain: its key has the legacy format, and its other fields are
normalized already. -/
structure LegacyDocument.OfOldDomain (u : Unicode) (document : LegacyDocument) : Prop where
  id : document.id ≠ 0
  filename : normalizeOriginalFilename u document.originalFilename = .ok document.originalFilename
  mediaType : normalizeMediaType u document.mediaType = .ok document.mediaType
  contentHash : isSha256Hex document.contentHash = true
  key : document.storageObjectKey = legacyKey document.contentHash
  updated : document.createdAt ≤ document.updatedAt

/-- Every migrated row loads, and carries what the legacy row had. -/
structure LoadsAsBefore (u : Unicode) (database : LegacyDatabase) (upgraded : Tables)
    : Prop where
  documents
    : ∀ row ∈ upgraded.documents,
        ∃ document legacy,
          loadDocument u row = .ok document
          ∧ legacy ∈ database.documents ∧ legacy.id = document.id
          ∧ document.displayFilename = legacy.originalFilename
          ∧ document.status.value = legacy.status
  versions
    : ∀ row ∈ upgraded.versions,
        ∃ version legacy,
          loadVersion u row = .ok version
          ∧ legacy ∈ database.documents ∧ legacy.id = version.documentId
          ∧ version.originalFilename = legacy.originalFilename
          ∧ version.mediaType = legacy.mediaType
          ∧ version.byteSize = legacy.byteSize
          ∧ version.contentHash.value = legacy.contentHash

/-- A version that loads has a key under its tenant's prefix. -/
theorem prefix_of_loadVersion {u : Unicode} {row : VersionsRow} {version : DocumentVersion}
    (loads : loadVersion u row = .ok version)
    : documentContentPrefix row.organizationId <+: row.storageObjectKey := by
  obtain ⟨storageState, -, loads⟩ := exists_of_bind_ok loads
  obtain ⟨contentHash, -, loads⟩ := exists_of_bind_ok loads
  obtain ⟨key, parsed, loads⟩ := exists_of_bind_ok loads
  have same : key.value = row.storageObjectKey := by
    unfold StorageObjectKey.parse at parsed
    split at parsed
    · exact congrArg StorageObjectKey.value (Except.ok.inj parsed).symm
    · split at parsed
      · cases parsed
      · split at parsed <;> cases parsed
  obtain ⟨⟨⟩, -, loads⟩ := exists_of_bind_ok loads
  obtain ⟨⟨⟩, -, loads⟩ := exists_of_bind_ok loads
  split at loads
  · cases loads
  obtain ⟨filename, -, loads⟩ := exists_of_bind_ok loads
  obtain ⟨mediaType, -, loads⟩ := exists_of_bind_ok loads
  obtain ⟨byteSize, -, loads⟩ := exists_of_bind_ok loads
  obtain ⟨⟨⟩, safe, -⟩ := exists_of_bind_ok loads
  exact same ▸ prefix_of_ensureKeyIsTenantSafe safe

/-- Where the tenant would stand, there is no other text that starts with an `s`. -/
theorem not_tenant_prefix {front whole rest tail tail' : Text} (organizationId : UUID)
    (literal : whole = front ++ 's' :: rest)
    : ¬ front ++ uuidText organizationId ++ tail <+: whole ++ tail' := by
  rintro ⟨after, same⟩
  rw [literal, List.append_assoc, List.append_assoc, List.append_assoc,
    List.append_cancel_left_eq] at same
  cases text : uuidText organizationId with
  | nil => exact (KeySegment.uuid organizationId).ne_nil text
  | cons first others =>
      rw [text] at same
      have isS : first = 's' := List.head_eq_of_cons_eq same
      have member : first ∈ uuidText organizationId := text ▸ List.mem_cons_self
      rcases mem_uuidText member with hex | dash
      · have lower := uuidDigits_hex organizationId hex
        rw [isS] at lower
        exact absurd lower (by decide)
      · exact absurd (isS.symm.trans dash) (by decide)

/-- No legacy key lies under a tenant's prefix. -/
theorem legacyKey_foreign (organizationId : UUID) (digest : Text)
    : ¬ documentContentPrefix organizationId <+: legacyKey digest := by
  have literal
      : "documents/sha256/".toList = "documents/".toList ++ 's' :: "ha256/".toList := by
    decide
  exact not_tenant_prefix organizationId literal

-----------------------------------------------------------------------------------------
-- What loads after the upgrade
-----------------------------------------------------------------------------------------

section

variable {u : Unicode} {organizationId actorUserId : UUID}

/-- The first version of a legacy row never loads. -/
theorem versionRow_not_loads {entry : Assigned} (legacy : entry.1.OfOldDomain u)
    (version : DocumentVersion)
    : loadVersion u (versionRow organizationId actorUserId entry) ≠ .ok version := by
  intro loads
  have isPrefix := prefix_of_loadVersion loads
  change documentContentPrefix organizationId <+: entry.1.storageObjectKey at isPrefix
  rw [legacy.key] at isPrefix
  exact legacyKey_foreign organizationId _ isPrefix

end

/-- After the upgrade everything loads as before exactly if there was nothing to migrate.
Witness: the first version of any legacy row, whose key has no tenant. -/
theorem loads_as_before_iff {u : Unicode} {database : LegacyDatabase} {uuid4 : Nat → UUID}
    {upgraded : Catalog Tables Constraint}
    (fresh : Function.Injective uuid4)
    (unambiguous : database.documents ≠ [] → database.OwnerUnambiguous)
    (legacy : ∀ document ∈ database.documents, document.OfOldDomain u)
    (run : Ends (upgrade uuid4) database.catalog () upgraded)
    : LoadsAsBefore u database upgraded.tables ↔ database.documents = [] := by
  obtain ⟨organizationId, actorUserId, -, up⟩ := upgrade_ends fresh unambiguous
  obtain rfl := (Prod.mk.inj (Except.ok.inj (up.symm.trans run))).2
  have sources := map_fst_assign uuid4 0 database.documents
  constructor
  · intro loads
    by_contra some
    obtain ⟨entry, listed⟩ : ∃ entry, entry ∈ assign uuid4 0 database.documents := by
      refine List.exists_mem_of_ne_nil _ fun none => some ?_
      rw [← sources, none, List.map_nil]
    obtain ⟨version, -, loaded, -⟩ := loads.versions _ (List.mem_map_of_mem listed)
    have member : entry.1 ∈ database.documents := sources ▸ List.mem_map_of_mem listed
    exact versionRow_not_loads (legacy entry.1 member) version loaded
  · intro none
    refine ⟨fun row member => ?_, fun row member => ?_⟩
    all_goals
      simp only [upgradedTables, none, assign, List.map_nil, List.not_mem_nil] at member

theorem sample_filename
    : normalizeOriginalFilename asciiUnicode "legacy.pdf".toList = .ok "legacy.pdf".toList := by
  decide

theorem sample_mediaType
    : normalizeMediaType asciiUnicode "application/pdf".toList
      = .ok "application/pdf".toList := by
  decide

theorem sampleDocument_ofOldDomain {id : UUID} {digit : Char} (some : id ≠ 0)
    (hash : isSha256Hex (List.replicate 64 digit) = true)
    : (sampleDocument id digit).OfOldDomain asciiUnicode where
  id := some
  filename := sample_filename
  mediaType := sample_mediaType
  contentHash := hash
  key := rfl
  updated := by
    change (5 : Int) ≤ 6
    decide

theorem sampleDatabase_ofOldDomain
    : ∀ document ∈ sampleDatabase.documents, document.OfOldDomain asciiUnicode := by
  intro document member
  rcases List.mem_cons.mp member with rfl | member
  · exact sampleDocument_ofOldDomain (by decide) (by decide)
  · obtain rfl := List.mem_singleton.mp member
    exact sampleDocument_ofOldDomain (by decide) (by decide)

theorem sample_fresh : Function.Injective (fun drawn : Nat => 100 + drawn) :=
  fun _ _ same => Nat.add_left_cancel same

/-- Two legacy rows whose migrated versions do not load. -/
theorem sample_not_loaded
    : sampleDatabase.OwnerUnambiguous
      ∧ (∀ document ∈ sampleDatabase.documents, document.OfOldDomain asciiUnicode)
      ∧ ∃ upgraded,
          Ends (upgrade (fun drawn => 100 + drawn)) sampleDatabase.catalog () upgraded
          ∧ ¬ LoadsAsBefore asciiUnicode sampleDatabase upgraded.tables := by
  refine ⟨sample_unambiguous, sampleDatabase_ofOldDomain, ?_⟩
  obtain ⟨organizationId, actorUserId, -, up⟩ :=
    upgrade_ends sample_fresh (fun _ => sample_unambiguous)
  refine ⟨_, up, fun loads => ?_⟩
  obtain ⟨version, -, loaded, -⟩ := loads.versions _ (List.mem_map_of_mem List.mem_cons_self)
  exact versionRow_not_loads (sampleDocument_ofOldDomain (by decide) (by decide)) version loaded

theorem sample_loads_as_before_iff
    : ∃ upgraded,
        Ends (upgrade (fun drawn => 100 + drawn)) sampleDatabase.catalog () upgraded
        ∧ (LoadsAsBefore asciiUnicode sampleDatabase upgraded.tables
            ↔ sampleDatabase.documents = []) := by
  obtain ⟨organizationId, actorUserId, -, up⟩ :=
    upgrade_ends sample_fresh (fun _ => sample_unambiguous)
  exact ⟨_, up,
    loads_as_before_iff sample_fresh (fun _ => sample_unambiguous) sampleDatabase_ofOldDomain up⟩

end WorkflowForge.Migrations
