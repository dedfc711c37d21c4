import WorkflowForge.Application.TenantCalls
import WorkflowForge.Concurrency.Contracts
import WorkflowForge.Documents.Sessions
import WorkflowForge.Domain.Aggregates
import WorkflowForge.Transactions.Lookups

/-! Whose rows and objects the services touch: the contract of a call made in a tenant.
Rows name their organization and users, storage keys name their organization. The contract
is about the operations of one call, whatever they are answered.
-/

namespace WorkflowForge

open Python Transactions Concurrency

/-- The organization that owns a row. -/
def rowOrganization : (t : TableName) → TableRow t → Option UUID
  | .users, _ => none
  | .organizations, _ => none
  | .documents, row => some row.organizationId
  | .documentVersions, row => some row.organizationId
  | .documentArtifacts, row => some row.organizationId
  | .uploadIdempotency, row => some row.organizationId
  | .batches, row => some row.organizationId
  | .batchDocuments, row => some row.organizationId
  | .cases, row => some row.organizationId
  | .caseDocuments, row => some row.organizationId
  | .caseComments, row => some row.organizationId
  | .caseTasks, row => some row.organizationId
  | .caseDecisions, row => some row.organizationId
  | .securityAuditEvents, row => some row.organizationId

/-- The users that an owned row names, column by column. -/
def rowUsers : (t : TableName) → TableRow t → List UUID
  | .users, _ => []
  | .organizations, _ => []
  | .documents, row =>
      row.createdByUserId :: row.updatedByUserId :: row.archivedByUserId.toList
  | .documentVersions, row => [row.createdByUserId]
  | .documentArtifacts, row => [row.createdByUserId]
  | .uploadIdempotency, _ => []
  | .batches, row => row.createdByUserId :: row.updatedByUserId :: row.archivedByUserId.toList
  | .batchDocuments, row => [row.addedByUserId]
  | .cases, row =>
      row.createdByUserId :: row.updatedByUserId :: row.closedByUserId.toList
        ++ row.archivedByUserId.toList
  | .caseDocuments, row => [row.addedByUserId]
  | .caseComments, row => row.createdByUserId :: row.updatedByUserId.toList
  | .caseTasks, row =>
      row.createdByUserId :: row.updatedByUserId :: row.assignedToUserId.toList
        ++ row.completedByUserId.toList
  | .caseDecisions, row => [row.createdByUserId]
  | .securityAuditEvents, row => [row.actorUserId]

/-- The users that a row names are members of its owner. -/
def RowMembers (member : UUID → UUID → Prop) (t : TableName) (row : TableRow t) : Prop :=
  ∀ organizationId,
    rowOrganization t row = some organizationId
    → ∀ user ∈ rowUsers t row, member user organizationId

/-- All rows of a database name members of their owners. -/
def Peopled (member : UUID → UUID → Prop) (db : Database) : Prop :=
  ∀ t, ∀ row ∈ db t, RowMembers member t row

-----------------------------------------------------------------------------------------
-- Storage keys
-----------------------------------------------------------------------------------------

def temporaryPrefix (organizationId : UUID) : Text :=
  "tmp/".toList ++ uuidText organizationId ++ ['/']

def artifactPrefix (organizationId : UUID) : Text :=
  "artifacts/".toList ++ uuidText organizationId ++ ['/']

/-- The area of a document's artifacts lies in that of its organization. -/
theorem artifactPrefix_documents (organizationId documentId : UUID)
    : artifactPrefix organizationId
      <+: "artifacts/".toList ++ uuidText organizationId ++ '/' :: uuidText documentId
          ++ ['/'] := by
  unfold artifactPrefix
  generalize "artifacts/".toList = area
  refine ⟨uuidText documentId ++ ['/'], ?_⟩
  simp only [List.append_assoc, List.cons_append, List.nil_append]

/-- The key lies in one of the three areas of the organization. -/
def UnderTenant (organizationId : UUID) (key : Text) : Prop :=
  temporaryPrefix organizationId <+: key
  ∨ documentContentPrefix organizationId <+: key
  ∨ artifactPrefix organizationId <+: key

/-- The keys that an operation hands to the storage client. -/
def Op.keys : Op → List Text
  | .sql _ => []
  | .enter _ => []
  | .now => []
  | .newUuid => []
  | .putObject key _ _ => [key]
  | .copyObject source destination _ => [source, destination]
  | .deleteObject key => [key]
  | .headObject key => [key]
  | .presignUrl key _ => [key]

-----------------------------------------------------------------------------------------
-- The contract
-----------------------------------------------------------------------------------------

/-- A statement writes only rows that name members of their owners. -/
def Op.WritesMembers (member : UUID → UUID → Prop) : Op → Prop
  | .sql (.insert t row) => RowMembers member t row
  | .sql (.update t _ change) =>
      ∀ row changed, RowMembers member t row → change row = some changed
        → RowMembers member t changed
  | _ => True

/-- What an answer tells: a snapshot names members of the owners of its rows. -/
def Op.Shows (member : UUID → UUID → Prop) : (op : Op) → op.Answer → Prop
  | .sql (.select _), db => Peopled member db
  | .sql (.selectForUpdate _ _ _), db => Peopled member db
  | _, _ => True

/-- The contract of a call that is made in an organization. -/
def tenantContract (member : UUID → UUID → Prop) (organizationId : UUID)
    : Contract Op Op.Answer where
  may op := (∀ key ∈ op.keys, UnderTenant organizationId key) ∧ op.WritesMembers member
  learns := Op.Shows member

/-- Committed and uncommitted rows name members of their owners. -/
structure StorePeopled (member : UUID → UUID → Prop) (store : Store schema) : Prop where
  committed : Peopled member store.committed
  pending
    : ∀ i t row, (i, Write.put t row) ∈ store.pending → RowMembers member t row

theorem StorePeopled.view {member : UUID → UUID → Prop} {store : Store schema}
    (peopled : StorePeopled member store) (i : Nat)
    : Peopled member (store.view i) := by
  intro t row visible
  rcases Write.mem_applyAll visible with old | put
  · exact peopled.committed t row old
  · exact peopled.pending i t row (Store.mem_own.mp put)

/-- A statement whose written rows name members keeps the store so. -/
theorem StorePeopled.step {member : UUID → UUID → Prop} {store after : Store schema} {i : Nat}
    {statement : Statement schema} {answer : statement.Answer}
    (peopled : StorePeopled member store) (writes : (Op.sql statement).WritesMembers member)
    (ran : Store.exec i statement store = some (answer, after))
    : StorePeopled member after where
  committed := by
    rcases Store.exec_committed_cases ran with same | published
    · rw [same]
      exact peopled.committed
    · rw [published]
      exact peopled.view i
  pending j t row staged := by
    rcases Store.exec_put ran staged with old | rfl | ⟨k, change, old, rfl, found, changed⟩
    · exact peopled.pending j t row old
    · exact writes
    · exact writes old row (peopled.view i t old (Db.mem_of_find? found)) changed

/-- The environment respects the contract: what it shows are rows that were checked. -/
theorem tenantContract_respected (member : UUID → UUID → Prop) (organizationId : UUID)
    : (tenantContract member organizationId).Respected exec
        (fun world => StorePeopled member world.store) := by
  intro i op world answer after peopled allowed ran
  by_cases database : ∃ statement, op = .sql statement
  · obtain ⟨statement, rfl⟩ := database
    obtain ⟨moved, -⟩ := exec_sql ran
    refine ⟨peopled.step allowed.2 moved, ?_⟩
    cases statement with
    | select query =>
        simp only [Store.exec, Option.some.injEq, Prod.mk.injEq] at moved
        change Peopled member answer
        rw [← moved.1]
        exact peopled.view i
    | selectForUpdate t k chosen =>
        change Peopled member answer
        rw [(Store.exec_selectForUpdate moved).1]
        exact peopled.view i
    | _ => trivial
  · have others : ∀ statement, op ≠ .sql statement :=
      fun statement same => database ⟨statement, same⟩
    have outside := (exec_outside ran others).1
    constructor
    · change StorePeopled member after.store
      rw [outside.store]
      exact peopled
    · cases op with
      | sql statement => exact absurd rfl (others statement)
      | _ => trivial

-----------------------------------------------------------------------------------------
-- Values that belong to a tenant
-----------------------------------------------------------------------------------------

/-- A row of the organization whose users are members of it. -/
structure Belongs (member : UUID → UUID → Prop) (organizationId : UUID) (t : TableName)
    (row : TableRow t)
    : Prop where
  owner : rowOrganization t row = some organizationId
  users : ∀ user ∈ rowUsers t row, member user organizationId

variable {member : UUID → UUID → Prop} {organizationId : UUID}

theorem Belongs.members {t : TableName} {row : TableRow t}
    (belongs : Belongs member organizationId t row)
    : RowMembers member t row := by
  intro owner owned
  rw [belongs.owner, Option.some.injEq] at owned
  rw [← owned]
  exact belongs.users

/-- A row of the organization in a snapshot that names members only. -/
theorem Peopled.belongs {db : Database} (peopled : Peopled member db) {t : TableName}
    {row : TableRow t} (visible : row ∈ db t)
    (owned : rowOrganization t row = some organizationId)
    : Belongs member organizationId t row where
  owner := owned
  users := peopled t row visible organizationId owned

/-- A version of the organization; its key lies in the organization's final area. -/
structure DocumentVersion.BelongsTo (member : UUID → UUID → Prop) (organizationId : UUID)
    (version : DocumentVersion)
    : Prop where
  row : Belongs member organizationId .documentVersions (recordFromVersion version)
  key : documentContentPrefix organizationId <+: version.storageObjectKey.value

/-- An artifact of the organization; its key lies in the organization's artifact area. -/
structure DocumentArtifact.BelongsTo (member : UUID → UUID → Prop) (organizationId : UUID)
    (artifact : DocumentArtifact)
    : Prop where
  row : Belongs member organizationId .documentArtifacts (recordFromArtifact artifact)
  key : artifactPrefix organizationId <+: artifact.storageObjectKey.value

theorem Belongs.documentFromRecord {u : Unicode} {record document : Document}
    (belongs : Belongs member organizationId .documents record)
    (loaded : documentFromRecord u record = .ok document)
    : Belongs member organizationId .documents document := by
  obtain ⟨name, reference, -, rfl⟩ := Document.postInit_eq_ok.mp loaded
  exact ⟨belongs.owner, belongs.users⟩

theorem Belongs.versionFromRecord {u : Unicode} {record : DocumentVersionRecord}
    {version : DocumentVersion}
    (belongs : Belongs member organizationId .documentVersions record)
    (loaded : versionFromRecord u record = .ok version)
    : version.BelongsTo member organizationId := by
  obtain ⟨hash, -, rest⟩ := exists_of_bind_ok loaded
  obtain ⟨key, -, rest⟩ := exists_of_bind_ok rest
  obtain ⟨name, mediaType, accepted, rfl⟩ := DocumentVersion.postInit_eq_ok.mp rest
  have owner : record.organizationId = organizationId := Option.some.inj belongs.owner
  refine { row := ⟨belongs.owner, belongs.users⟩, key := ?_ }
  have starts := prefix_of_ensureKeyIsTenantSafe accepted.key
  rw [owner] at starts
  exact starts

theorem Belongs.artifactFromRecord {u : Unicode} {record : DocumentArtifactRecord}
    {artifact : DocumentArtifact}
    (belongs : Belongs member organizationId .documentArtifacts record)
    (loaded : artifactFromRecord u record = .ok artifact)
    : artifact.BelongsTo member organizationId := by
  obtain ⟨hash, -, rest⟩ := exists_of_bind_ok loaded
  obtain ⟨key, -, rest⟩ := exists_of_bind_ok rest
  obtain ⟨mediaType, metadata, -, -, -, safe, rfl⟩ := DocumentArtifact.create_eq_ok rest
  have owner : record.organizationId = organizationId := Option.some.inj belongs.owner
  refine { row := ⟨belongs.owner, belongs.users⟩, key := ?_ }
  have starts := prefix_of_ensureKeyIsTenantSafe safe
  rw [owner] at starts
  exact (artifactPrefix_documents organizationId record.documentId).trans starts

end WorkflowForge
