import WorkflowForge.Infrastructure.Schema
import WorkflowForge.Transactions.Isolation

/-! Database states that the declared constraints allow. -/

namespace WorkflowForge

open Python Transactions

/-- Keys, unique columns, foreign keys, CHECK constraints and widths hold of every row; a
document's current version is a version of its tenant. -/
structure Constrained (db : Database) : Prop where
  keyed : db.Keyed
  unique : db.Unique
  sound : ∀ t, ∀ row ∈ db t, rowSound db t row = true
  fits : ∀ t, ∀ row ∈ db t, rowFits t row = true
  current
    : ∀ row ∈ db .documents, hasVersion db row.organizationId row.currentVersionId = true

theorem schema_symmetric : Schema.Symmetric schema := by
  intro t first second
  cases t <;> simp only [uniqueClash] <;> grind

/-- The version that a document points to. -/
theorem Constrained.currentVersion {db : Database} (constrained : Constrained db)
    {row : Document} (member : row ∈ db .documents)
    : ∃ version ∈ db .documentVersions,
        version.organizationId = row.organizationId ∧ version.id = row.currentVersionId := by
  simpa [hasVersion] using constrained.current row member

theorem Constrained.version_unique {db : Database} (constrained : Constrained db)
    {first second : DocumentVersionRecord} (left : first ∈ db .documentVersions)
    (right : second ∈ db .documentVersions) (same : first.id = second.id)
    : first = second :=
  Db.eq_of_key constrained.keyed (t := .documentVersions) left right same

/-- A document with its version, a batch and a case of one name. -/
def filed (name : Text) : Database
  | .users => [7]
  | .organizations => [5]
  | .documents => [{
      id := 1
      organizationId := 5
      displayFilename := name
      sourceType := .upload
      sourceReference := none
      status := .registered
      currentVersionId := 2
      archivedAt := none
      archivedByUserId := none
      createdAt := 0
      createdByUserId := 7
      updatedAt := 0
      updatedByUserId := 7
      lockVersion := 1
    }]
  | .documentVersions => [{
      id := 2
      organizationId := 5
      documentId := 1
      versionNumber := 1
      originalFilename := []
      mediaType := "application/pdf".toList
      byteSize := 8
      contentHash := []
      storageObjectKey := []
      storageState := .stored
      createdAt := 0
      createdByUserId := 7
    }]
  | .batches => [{
      id := 3
      organizationId := 5
      name := name
      description := none
      status := .open
      externalReference := none
      createdAt := 0
      createdByUserId := 7
      updatedAt := 0
      updatedByUserId := 7
      archivedAt := none
      archivedByUserId := none
      lockVersion := 1
    }]
  | .cases => [{
      id := 4
      organizationId := 5
      title := name
      summary := none
      status := .open
      priority := .normal
      externalReference := none
      createdAt := 0
      createdByUserId := 7
      updatedAt := 0
      updatedByUserId := 7
      closedAt := none
      closedByUserId := none
      archivedAt := none
      archivedByUserId := none
      lockVersion := 1
    }]
  | _ => []

theorem filed_constrained {name : Text} (short : name.length ≤ 255) : Constrained (filed name) where
  keyed t := by cases t <;> simp [filed]
  unique t first second left right different := by
    cases t <;> simp only [filed, List.mem_singleton, List.not_mem_nil] at left right
      <;> subst left <;> subst right <;> exact absurd rfl different
  sound t row member := by
    cases t <;> simp only [filed, List.mem_singleton, List.not_mem_nil] at member
      <;> subst member <;> rfl
  fits t row member := by
    cases t <;> simp only [filed, List.mem_singleton, List.not_mem_nil] at member
      <;> subst member <;> simp [rowFits, within, integer, bigint, short]
  current row member := by
    simp only [filed, List.mem_singleton] at member
    subst member
    rfl

end WorkflowForge
