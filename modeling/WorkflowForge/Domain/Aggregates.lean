import WorkflowForge.Domain.Cases
import WorkflowForge.Domain.Transitions

/-! What the constructors and transitions of batches, cases and artifacts return. -/

namespace WorkflowForge

open Python

variable {u : Unicode}

/-- A mutation of a document ends in the constructor. -/
theorem Document.postInit_of_mutated {document result : Document} {actorUserId : UUID}
    {timestamp : Timestamp} {changes : Document → Document}
    (mutated : document.mutated u actorUserId timestamp changes = .ok result)
    : Document.postInit u {
        changes document with
        updatedAt := timestamp
        updatedByUserId := actorUserId
        lockVersion := document.lockVersion + 1
      } = .ok result := by
  obtain ⟨-, -, rest⟩ := exists_of_bind_ok mutated
  split at rest
  · cases rest
  · exact rest

/-- The batch constructor only normalizes its texts. -/
theorem Batch.postInit_eq_ok {draft batch : Batch} (built : Batch.postInit u draft = .ok batch)
    : ∃ name description externalReference,
        requiredText u .batchError draft.name "Batch name" 255 = .ok name
        ∧ boundedText u .batchError draft.description "Batch description" 2000 true
          = .ok description
        ∧ boundedText u .batchError draft.externalReference "Batch external reference" 255 true
          = .ok externalReference
        ∧ 0 < draft.lockVersion
        ∧ draft.validateArchive = .ok ()
        ∧ batch = { draft with name, description, externalReference } := by
  obtain ⟨-, -, rest⟩ := exists_of_bind_ok built
  obtain ⟨-, -, rest⟩ := exists_of_bind_ok rest
  obtain ⟨-, -, rest⟩ := exists_of_bind_ok rest
  obtain ⟨name, hasName, rest⟩ := exists_of_bind_ok rest
  obtain ⟨description, hasDescription, rest⟩ := exists_of_bind_ok rest
  obtain ⟨externalReference, hasReference, rest⟩ := exists_of_bind_ok rest
  split at rest
  · cases rest
  rename_i positive
  obtain ⟨⟨⟩, archive, rest⟩ := exists_of_bind_ok rest
  refine ⟨name, description, externalReference, hasName, hasDescription, hasReference,
    Nat.not_le.mp positive, archive, ?_⟩
  simpa [pure, Except.pure, eq_comm] using rest

/-- The case constructor only normalizes its texts. -/
theorem Case.postInit_eq_ok {draft case : Case} (built : Case.postInit u draft = .ok case)
    : ∃ title summary externalReference,
        requiredText u .caseError draft.title "Case title" 255 = .ok title
        ∧ boundedText u .caseError draft.summary "Case summary" 4000 true = .ok summary
        ∧ boundedText u .caseError draft.externalReference "Case external reference" 255 true
          = .ok externalReference
        ∧ 0 < draft.lockVersion
        ∧ case = { draft with title, summary, externalReference } := by
  obtain ⟨-, -, rest⟩ := exists_of_bind_ok built
  obtain ⟨title, hasTitle, rest⟩ := exists_of_bind_ok rest
  obtain ⟨summary, hasSummary, rest⟩ := exists_of_bind_ok rest
  obtain ⟨externalReference, hasReference, rest⟩ := exists_of_bind_ok rest
  split at rest
  · cases rest
  rename_i positive
  refine ⟨title, summary, externalReference, hasTitle, hasSummary, hasReference,
    Nat.not_le.mp positive, ?_⟩
  simpa [pure, Except.pure, eq_comm] using rest

/-- A batch update ends in the constructor. -/
theorem Batch.postInit_of_update {batch result : Batch}
    {name description externalReference : Option Text} {actorUserId : UUID}
    {timestamp : Timestamp}
    (updated
      : batch.update u name description externalReference actorUserId timestamp = .ok result)
    : batch.status ≠ .archived
      ∧ Batch.postInit u {
          batch with
          name := name.getD batch.name
          description
          externalReference
          updatedAt := timestamp
          updatedByUserId := actorUserId
          lockVersion := batch.lockVersion + 1
        } = .ok result := by
  obtain ⟨⟨⟩, mutable, rest⟩ := exists_of_bind_ok updated
  obtain ⟨-, -, rest⟩ := exists_of_bind_ok rest
  simp only [Batch.ensureMutable] at mutable
  split at mutable
  · cases mutable
  · rename_i active
    exact ⟨active, rest⟩

/-- Archiving a batch ends in the constructor. -/
theorem Batch.postInit_of_archive {batch result : Batch} {actorUserId : UUID}
    {timestamp : Timestamp} (archived : batch.archive u actorUserId timestamp = .ok result)
    : batch.status ≠ .archived
      ∧ Batch.postInit u {
          batch with
          status := .archived
          archivedAt := some timestamp
          archivedByUserId := some actorUserId
          updatedAt := timestamp
          updatedByUserId := actorUserId
          lockVersion := batch.lockVersion + 1
        } = .ok result := by
  obtain ⟨⟨⟩, mutable, rest⟩ := exists_of_bind_ok archived
  simp only [Batch.ensureMutable] at mutable
  split at mutable
  · cases mutable
  · rename_i active
    exact ⟨active, rest⟩

/-- A case that lets itself be changed is not archived. -/
theorem Case.not_archived_of_mutable {case : Case} (mutable : case.ensureMutable = .ok ())
    : case.status ≠ .archived := by
  simp only [Case.ensureMutable] at mutable
  split at mutable
  · cases mutable
  · assumption

theorem Case.postInit_of_update {case result : Case} {title summary : Option Text}
    {priority : Option CasePriority} {externalReference : Option Text} {actorUserId : UUID}
    {timestamp : Timestamp}
    (updated
      : case.update u title summary priority externalReference actorUserId timestamp
        = .ok result)
    : case.status ≠ .archived
      ∧ Case.postInit u {
          case with
          title := title.getD case.title
          summary
          priority := priority.getD case.priority
          externalReference
          updatedAt := timestamp
          updatedByUserId := actorUserId
          lockVersion := case.lockVersion + 1
        } = .ok result := by
  obtain ⟨⟨⟩, mutable, rest⟩ := exists_of_bind_ok updated
  exact ⟨not_archived_of_mutable mutable, rest⟩

theorem Case.postInit_of_close {case result : Case} {actorUserId : UUID}
    {timestamp : Timestamp} (closed : case.close u actorUserId timestamp = .ok result)
    : case.status ≠ .archived
      ∧ Case.postInit u {
          case with
          status := .closed
          closedAt := some timestamp
          closedByUserId := some actorUserId
          updatedAt := timestamp
          updatedByUserId := actorUserId
          lockVersion := case.lockVersion + 1
        } = .ok result := by
  obtain ⟨⟨⟩, mutable, rest⟩ := exists_of_bind_ok closed
  exact ⟨not_archived_of_mutable mutable, rest⟩

theorem Case.postInit_of_reopen {case result : Case} {actorUserId : UUID}
    {timestamp : Timestamp} (reopened : case.reopen u actorUserId timestamp = .ok result)
    : case.status ≠ .archived
      ∧ Case.postInit u {
          case with
          status := .open
          closedAt := none
          closedByUserId := none
          updatedAt := timestamp
          updatedByUserId := actorUserId
          lockVersion := case.lockVersion + 1
        } = .ok result := by
  simp only [Case.reopen] at reopened
  split at reopened
  · cases reopened
  · rename_i active
    exact ⟨active, reopened⟩

/-- The artifact constructor normalizes and keeps the key in the tenant's area. -/
theorem DocumentArtifact.create_eq_ok {draft artifact : DocumentArtifact}
    (built : DocumentArtifact.create u draft = .ok artifact)
    : ∃ mediaType metadata,
        normalizeMediaType u draft.mediaType = .ok mediaType
        ∧ safeArtifactMetadata draft.metadata = .ok metadata
        ∧ 0 ≤ draft.byteSize
        ∧ ensureKeyIsTenantSafe draft.storageObjectKey draft.organizationId
            ("artifacts/".toList ++ uuidText draft.organizationId
              ++ '/' :: uuidText draft.documentId ++ ['/'])
          = .ok ()
        ∧ artifact = { draft with mediaType, metadata } := by
  obtain ⟨-, -, rest⟩ := exists_of_bind_ok built
  obtain ⟨-, -, rest⟩ := exists_of_bind_ok rest
  obtain ⟨mediaType, hasType, rest⟩ := exists_of_bind_ok rest
  obtain ⟨byteSize, size, rest⟩ := exists_of_bind_ok rest
  obtain ⟨metadata, hasMetadata, rest⟩ := exists_of_bind_ok rest
  obtain ⟨⟨⟩, safe, rest⟩ := exists_of_bind_ok rest
  simp only [validateByteSize] at size
  split at size
  · cases size
  rename_i positive
  cases size
  refine ⟨mediaType, metadata, hasType, hasMetadata, Int.not_lt.mp positive, safe, ?_⟩
  simpa [pure, Except.pure, eq_comm] using rest

/-- A key that passes the tenant check starts with the expected prefix. -/
theorem prefix_of_ensureKeyIsTenantSafe {key : StorageObjectKey} {organizationId : UUID}
    {expectedPrefix : Text}
    (safe : ensureKeyIsTenantSafe key organizationId expectedPrefix = .ok ())
    : expectedPrefix <+: key.value := by
  simp only [ensureKeyIsTenantSafe] at safe
  split at safe
  · cases safe
  · rename_i starts
    simp only [Bool.or_eq_true, Bool.not_eq_true', not_or, Bool.not_eq_false] at starts
    exact List.isPrefixOf_iff_prefix.mp starts.2

-----------------------------------------------------------------------------------------
-- Constructing a constructed value
-----------------------------------------------------------------------------------------

/-- A bounded text fits, and normalizing it again changes nothing. -/
theorem boundedText_bounded {raise : String → Exn} {value text : Option Text}
    {fieldName : String} {maxLength : Nat} {optional : Bool}
    (bounded : boundedText u raise value fieldName maxLength optional = .ok text)
    : boundedText u raise text fieldName maxLength optional = .ok text
      ∧ ∀ content, text = some content → content.length ≤ maxLength := by
  cases value with
  | none =>
      cases optional with
      | false => cases bounded
      | true =>
          cases bounded
          exact ⟨rfl, fun _ found => nomatch found⟩
  | some content =>
      simp only [boundedText] at bounded
      split at bounded
      · cases optional with
        | false => cases bounded
        | true =>
            cases bounded
            exact ⟨rfl, fun _ found => nomatch found⟩
      rename_i visible
      split at bounded
      · cases bounded
      rename_i short
      cases bounded
      refine ⟨?_, fun content found => ?_⟩
      · simp only [boundedText, Unicode.strip_collapse, Unicode.collapse_collapse, if_neg visible,
          if_neg short]
      · cases found
        exact Nat.not_lt.mp short

theorem requiredText_bounded {raise : String → Exn} {value text : Text} {fieldName : String}
    {maxLength : Nat} (required : requiredText u raise value fieldName maxLength = .ok text)
    : requiredText u raise text fieldName maxLength = .ok text ∧ text.length ≤ maxLength := by
  obtain ⟨found, bounded, rest⟩ := exists_of_bind_ok required
  cases found with
  | none => cases rest
  | some content =>
      cases rest
      obtain ⟨again, short⟩ := boundedText_bounded bounded
      refine ⟨?_, short text rfl⟩
      unfold requiredText
      rw [again]
      rfl

/-- A batch that was constructed is constructed again from its own fields. -/
theorem Batch.postInit_again {draft batch : Batch} (built : Batch.postInit u draft = .ok batch)
    : Batch.postInit u batch = .ok batch := by
  obtain ⟨⟨⟩, organization, rest⟩ := exists_of_bind_ok built
  obtain ⟨⟨⟩, creator, rest⟩ := exists_of_bind_ok rest
  obtain ⟨⟨⟩, updater, -⟩ := exists_of_bind_ok rest
  obtain ⟨name, description, externalReference, hasName, hasDescription, hasReference, positive,
    archive, rfl⟩ := Batch.postInit_eq_ok built
  have archived : ({ draft with name, description, externalReference } : Batch).validateArchive
      = .ok () := archive
  simp only [Batch.postInit, organization, creator, updater, (requiredText_bounded hasName).1,
    (boundedText_bounded hasDescription).1, (boundedText_bounded hasReference).1, archived, bind,
    Except.bind]
  rw [if_neg (Nat.not_le.mpr positive)]
  rfl

theorem Case.postInit_again {draft case : Case} (built : Case.postInit u draft = .ok case)
    : Case.postInit u case = .ok case := by
  obtain ⟨⟨⟩, organization, -⟩ := exists_of_bind_ok built
  obtain ⟨title, summary, externalReference, hasTitle, hasSummary, hasReference, positive, rfl⟩ :=
    Case.postInit_eq_ok built
  simp only [Case.postInit, organization, (requiredText_bounded hasTitle).1,
    (boundedText_bounded hasSummary).1, (boundedText_bounded hasReference).1, bind, Except.bind]
  rw [if_neg (Nat.not_le.mpr positive)]
  rfl

/-- The constructor of a membership only checks. -/
theorem BatchDocument.postInit_eq_ok {draft membership : BatchDocument}
    (built : BatchDocument.postInit draft = .ok membership)
    : draft = membership := by
  obtain ⟨⟨⟩, -, rest⟩ := exists_of_bind_ok built
  obtain ⟨⟨⟩, -, rest⟩ := exists_of_bind_ok rest
  exact Except.ok.inj rest

end WorkflowForge
