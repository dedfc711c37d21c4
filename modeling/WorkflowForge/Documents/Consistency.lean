import WorkflowForge.Domain.Transitions
import WorkflowForge.Infrastructure.DocumentRepository
import WorkflowForge.Transactions.Isolation

/-! Consistency of the document tables, and how they may change from commit to commit. -/

namespace WorkflowForge

open Python Transactions

/-- The version numbers of a document, in table order. -/
def versionNumbers (db : Database) (documentId : UUID) : List Nat :=
  ((db .documentVersions).filter (fun row => row.documentId == documentId)).map
    (fun row => row.versionNumber)

/-- A row whose name was normalized and that can be loaded. -/
def Document.Loads (u : Unicode) (row : Document) : Prop :=
  (∃ filename, normalizeOriginalFilename u filename = .ok row.displayFilename)
  ∧ ∃ document, documentFromRecord u row = .ok document

def DocumentVersionRecord.Loads (u : Unicode) (row : DocumentVersionRecord) : Prop :=
  ∃ version, versionFromRecord u row = .ok version

/-- A completed record points to a document of its tenant and one of its versions. -/
def UploadIdempotencyRecord.Resolves (db : Database) (record : UploadIdempotencyRecord) : Prop :=
  (record.responseStatus = some 200 ∨ record.responseStatus = some 201)
  ∧ ∃ (document : Document) (version : DocumentVersionRecord),
      db.find? .documents document.id = some document
      ∧ db.find? .documentVersions version.id = some version
      ∧ record.documentId = some document.id
      ∧ record.documentVersionId = some version.id
      ∧ document.organizationId = record.organizationId
      ∧ version.organizationId = record.organizationId
      ∧ version.documentId = document.id

/-- The invariant of the committed document tables. -/
structure Consistent (u : Unicode) (db : Database) : Prop where
  numbered
    : ∀ document ∈ db .documents,
        (versionNumbers db document.id).Perm
          (List.range' 1 (versionNumbers db document.id).length)
  current
    : ∀ document ∈ db .documents,
        ∃ version ∈ db .documentVersions,
          version.id = document.currentVersionId
          ∧ version.documentId = document.id
          ∧ version.versionNumber = (versionNumbers db document.id).length
  owned
    : ∀ version ∈ db .documentVersions,
        ∃ document ∈ db .documents,
          document.id = version.documentId ∧ document.organizationId = version.organizationId
  keys
    : ∀ version ∈ db .documentVersions,
        version.storageObjectKey
          = documentContentKeyText version.organizationId version.contentHash
  locks
    : ∀ document ∈ db .documents,
        0 < document.lockVersion ∧ (document.status = .archived → 2 ≤ document.lockVersion)
  documents : ∀ document ∈ db .documents, document.Loads u
  versions : ∀ version ∈ db .documentVersions, version.Loads u
  resolved
    : ∀ record ∈ db .uploadIdempotency, record.status = .completed → record.Resolves db

/-- A document row is unchanged, or it moved on from a state that was not archived. -/
def Document.Becomes (before after : Document) : Prop :=
  after = before
  ∨ (before.lockVersion < after.lockVersion
      ∧ before.status ≠ .archived
      ∧ after.id = before.id
      ∧ after.organizationId = before.organizationId)

/-- A version row up to its storage state. -/
def DocumentVersionRecord.core (row : DocumentVersionRecord) : DocumentVersionRecord :=
  { row with storageState := .pending }

/-- Equal cores: the rows differ at most in their storage state. -/
theorem DocumentVersionRecord.core_eq_iff {row other : DocumentVersionRecord}
    : row.core = other.core ↔ row = { other with storageState := row.storageState } := by
  cases row
  cases other
  simp [DocumentVersionRecord.core]

theorem DocumentVersionRecord.core_fields {row other : DocumentVersionRecord}
    (same : row.core = other.core)
    : row.id = other.id ∧ row.documentId = other.documentId
      ∧ row.organizationId = other.organizationId ∧ row.versionNumber = other.versionNumber
      ∧ row.contentHash = other.contentHash
      ∧ row.storageObjectKey = other.storageObjectKey := by
  rw [DocumentVersionRecord.core_eq_iff.mp same]
  exact ⟨rfl, rfl, rfl, rfl, rfl, rfl⟩

/-- How the committed document tables may change. Documents and versions stay, versions
only change their storage state, and a version is only added together with a new state of
its document. -/
structure Evolves (before after : Database) : Prop where
  documents
    : ∀ id row,
        before.find? .documents id = some row
        → ∃ row', after.find? .documents id = some row' ∧ row.Becomes row'
  versions
    : ∀ id row,
        before.find? .documentVersions id = some row
        → ∃ row', after.find? .documentVersions id = some row' ∧ row'.core = row.core
  additions
    : ∀ id row,
        before.find? .documents id = some row
        → after.find? .documents id = some row
        → ∀ version row',
            after.find? .documentVersions version = some row'
            → row'.documentId = id
            → (before.find? .documentVersions version).isSome

theorem Document.Becomes.refl (row : Document) : row.Becomes row := .inl rfl

theorem Document.Becomes.trans {first second third : Document} (early : first.Becomes second)
    (late : second.Becomes third)
    : first.Becomes third := by
  rcases early with rfl | ⟨lock, active, id, organization⟩
  · exact late
  · rcases late with rfl | ⟨lock', _, id', organization'⟩
    · exact .inr ⟨lock, active, id, organization⟩
    · exact .inr ⟨lock.trans lock', active, id'.trans id, organization'.trans organization⟩

theorem Document.Becomes.lock_le {before after : Document} (becomes : before.Becomes after)
    : before.lockVersion ≤ after.lockVersion := by
  rcases becomes with rfl | ⟨lock, -⟩
  · exact Nat.le_refl _
  · exact Nat.le_of_lt lock

/-- A row that becomes itself again never changed in between. -/
theorem Document.Becomes.antisymm {first second : Document} (there : first.Becomes second)
    (back : second.Becomes first)
    : second = first := by
  rcases there with same | ⟨lock, -⟩
  · exact same
  · exact absurd (Nat.lt_of_lt_of_le lock back.lock_le) (Nat.lt_irrefl _)

theorem Evolves.refl (db : Database) : Evolves db db where
  documents _ row found := ⟨row, found, .refl row⟩
  versions _ row found := ⟨row, found, rfl⟩
  additions _ _ _ _ _ _ found _ := by simp [found]

/-- Evolution composes: an unchanged document was unchanged in between. -/
theorem Evolves.trans {first second third : Database} (early : Evolves first second)
    (late : Evolves second third)
    : Evolves first third where
  documents id row found := by
    obtain ⟨row', found', becomes⟩ := early.documents id row found
    obtain ⟨row'', found'', becomes'⟩ := late.documents id row' found'
    exact ⟨row'', found'', becomes.trans becomes'⟩
  versions id row found := by
    obtain ⟨row', found', same⟩ := early.versions id row found
    obtain ⟨row'', found'', same'⟩ := late.versions id row' found'
    exact ⟨row'', found'', same'.trans same⟩
  additions id row found found'' version row' added belongs := by
    obtain ⟨middle, found', becomes⟩ := early.documents id row found
    obtain ⟨last, found_last, becomes'⟩ := late.documents id middle found'
    have same : last = row := by simpa [found''] using found_last.symm
    subst same
    have unchanged : middle = last := becomes.antisymm becomes'
    subst unchanged
    have known := late.additions id middle found' found'' version row' added belongs
    obtain ⟨old, old_found⟩ := Option.isSome_iff_exists.mp known
    obtain ⟨later, later_found, core⟩ := late.versions version old old_found
    have belongs_old : old.documentId = id := by
      have rows : later = row' := by simpa [later_found] using added
      have documents := (DocumentVersionRecord.core_fields core).2.1
      rw [rows] at documents
      exact documents.symm.trans belongs
    exact early.additions id middle found found' version old old_found belongs_old

/-- Resolution survives evolution. -/
theorem UploadIdempotencyRecord.Resolves.evolve {before after : Database}
    {record : UploadIdempotencyRecord} (resolves : record.Resolves before)
    (evolves : Evolves before after)
    : record.Resolves after := by
  obtain ⟨status, document, version, found, found', isDocument, isVersion,
    organization, organization', belongs⟩ := resolves
  obtain ⟨row, row_found, becomes⟩ := evolves.documents document.id document found
  obtain ⟨row', row_found', core⟩ := evolves.versions version.id version found'
  obtain ⟨sameVersion, sameOwner, sameOrganization, -⟩ := DocumentVersionRecord.core_fields core
  have sameDocument : row.id = document.id := Db.find?_key row_found
  have tenant : row.organizationId = document.organizationId := by
    rcases becomes with rfl | ⟨-, -, -, same⟩
    · rfl
    · exact same
  refine ⟨status, row, row', ?_, ?_, ?_, ?_, ?_, ?_, ?_⟩
  · rw [sameDocument]
    exact row_found
  · rw [sameVersion]
    exact row_found'
  · rw [isDocument, sameDocument]
  · rw [isVersion, sameVersion]
  · exact tenant.trans organization
  · exact sameOrganization.trans organization'
  · rw [sameOwner, sameDocument]
    exact belongs

end WorkflowForge
