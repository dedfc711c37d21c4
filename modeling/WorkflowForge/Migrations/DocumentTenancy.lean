import WorkflowForge.Domain.Documents
import WorkflowForge.Domain.Memberships
import WorkflowForge.Migrations.Ddl

/-! Migration 0008: documents become tenant-owned aggregates with versions.
A row of `documents` has the columns of both schemas; a column that a schema does not have is
null. The artifacts table is created and dropped empty and is left out.
-/

namespace WorkflowForge.Migrations

open Python Ddl

-----------------------------------------------------------------------------------------
-- Rows and tables
-----------------------------------------------------------------------------------------

structure DocumentsRow where
  id : UUID
  originalFilename : Option Text
  mediaType : Option Text
  byteSize : Option Int
  contentHash : Option Text
  storageObjectKey : Option Text
  status : String
  createdAt : Timestamp
  updatedAt : Timestamp
  organizationId : Option UUID
  displayFilename : Option Text
  sourceType : Option String
  sourceReference : Option Text
  currentVersionId : Option UUID
  archivedAt : Option Timestamp
  archivedByUserId : Option UUID
  createdByUserId : Option UUID
  updatedByUserId : Option UUID
  lockVersion : Option Int
  deriving DecidableEq

structure VersionsRow where
  id : UUID
  organizationId : UUID
  documentId : UUID
  versionNumber : Int
  originalFilename : Text
  mediaType : Text
  byteSize : Int
  contentHash : Text
  storageObjectKey : Text
  storageState : String
  createdAt : Timestamp
  createdByUserId : UUID
  deriving DecidableEq

structure Tables where
  organizations : List UUID
  users : List UUID
  memberships : List Membership
  documents : List DocumentsRow
  versions : List VersionsRow
  deriving DecidableEq

/-- The nullable columns of `documents`. -/
inductive DocumentsColumn where
  | originalFilename
  | mediaType
  | byteSize
  | contentHash
  | storageObjectKey
  | organizationId
  | displayFilename
  | sourceType
  | sourceReference
  | currentVersionId
  | archivedAt
  | archivedByUserId
  | createdByUserId
  | updatedByUserId
  | lockVersion
  deriving DecidableEq

def DocumentsColumn.isSet : DocumentsColumn → DocumentsRow → Bool
  | originalFilename, row => row.originalFilename.isSome
  | mediaType, row => row.mediaType.isSome
  | byteSize, row => row.byteSize.isSome
  | contentHash, row => row.contentHash.isSome
  | storageObjectKey, row => row.storageObjectKey.isSome
  | organizationId, row => row.organizationId.isSome
  | displayFilename, row => row.displayFilename.isSome
  | sourceType, row => row.sourceType.isSome
  | sourceReference, row => row.sourceReference.isSome
  | currentVersionId, row => row.currentVersionId.isSome
  | archivedAt, row => row.archivedAt.isSome
  | archivedByUserId, row => row.archivedByUserId.isSome
  | createdByUserId, row => row.createdByUserId.isSome
  | updatedByUserId, row => row.updatedByUserId.isSome
  | lockVersion, row => row.lockVersion.isSome

def DocumentsColumn.clear : DocumentsColumn → DocumentsRow → DocumentsRow
  | originalFilename, row => { row with originalFilename := none }
  | mediaType, row => { row with mediaType := none }
  | byteSize, row => { row with byteSize := none }
  | contentHash, row => { row with contentHash := none }
  | storageObjectKey, row => { row with storageObjectKey := none }
  | organizationId, row => { row with organizationId := none }
  | displayFilename, row => { row with displayFilename := none }
  | sourceType, row => { row with sourceType := none }
  | sourceReference, row => { row with sourceReference := none }
  | currentVersionId, row => { row with currentVersionId := none }
  | archivedAt, row => { row with archivedAt := none }
  | archivedByUserId, row => { row with archivedByUserId := none }
  | createdByUserId, row => { row with createdByUserId := none }
  | updatedByUserId, row => { row with updatedByUserId := none }
  | lockVersion, row => { row with lockVersion := none }

-----------------------------------------------------------------------------------------
-- Constraints
-----------------------------------------------------------------------------------------

/-- The constraints of both schemas. -/
inductive Constraint where
  /-- The lengths and integer ranges of the column types. -/
  | documentsColumnTypes
  | versionsColumnTypes
  | notNull (column : DocumentsColumn)
  | pkDocuments
  | uqDocumentsContentHash
  | uqDocumentsStorageObjectKey
  | ckDocumentsByteSizeNonNegative
  /-- `ck_documents_status_valid` before the migration. -/
  | ckLegacyDocumentsStatusValid
  | ckDocumentsStatusValid
  | ckDocumentsSourceTypeValid
  | ckDocumentsLockVersionPositive
  | ckDocumentsArchiveStateConsistent
  | fkDocumentsOrganizationIdOrganizations
  | fkDocumentsArchivedByUserIdUsers
  | fkDocumentsCreatedByUserIdUsers
  | fkDocumentsUpdatedByUserIdUsers
  | uqDocumentsOrganizationIdId
  | fkDocumentsOrganizationCurrentVersionDocumentVersions
  | ckDocumentVersionsVersionNumberPositive
  | ckDocumentVersionsByteSizeNonNegative
  | ckDocumentVersionsStorageStateValid
  | fkDocumentVersionsOrganizationIdOrganizations
  | fkDocumentVersionsCreatedByUserIdUsers
  | pkDocumentVersions
  | uqDocumentVersionsOrganizationIdId
  | uqDocumentVersionsDocumentVersion
  | uqDocumentVersionsOrganizationContentHash
  | uqDocumentVersionsOrganizationStorageKey
  | fkDocumentVersionsOrganizationDocumentDocuments
  deriving DecidableEq

/-- `VARCHAR(limit)`, with nulls. -/
def fitsVarchar (limit : Nat) (value : Option Text) : Prop :=
  ∀ text ∈ value, text.length ≤ limit

instance (limit : Nat) (value : Option Text) : Decidable (fitsVarchar limit value) :=
  inferInstanceAs (Decidable (∀ text ∈ value, text.length ≤ limit))

/-- Signed integers of the given width, with nulls. -/
def fitsInteger (width : Nat) (value : Option Int) : Prop :=
  ∀ number ∈ value, -(2 : Int) ^ (width - 1) ≤ number ∧ number < (2 : Int) ^ (width - 1)

instance (width : Nat) (value : Option Int) : Decidable (fitsInteger width value) :=
  inferInstanceAs (Decidable (∀ number ∈ value,
    -(2 : Int) ^ (width - 1) ≤ number ∧ number < (2 : Int) ^ (width - 1)))

def DocumentsRow.Fits (row : DocumentsRow) : Prop :=
  fitsVarchar 255 row.originalFilename ∧ fitsVarchar 255 row.mediaType
  ∧ fitsInteger 64 row.byteSize ∧ fitsVarchar 64 row.contentHash
  ∧ fitsVarchar 255 row.storageObjectKey ∧ row.status.length ≤ 32
  ∧ fitsVarchar 255 row.displayFilename ∧ fitsVarchar 32 (row.sourceType.map String.toList)
  ∧ fitsVarchar 512 row.sourceReference ∧ fitsInteger 32 row.lockVersion

instance (row : DocumentsRow) : Decidable row.Fits :=
  inferInstanceAs (Decidable (_ ∧ _))

def VersionsRow.Fits (row : VersionsRow) : Prop :=
  fitsInteger 32 (some row.versionNumber) ∧ fitsVarchar 255 (some row.originalFilename)
  ∧ fitsVarchar 255 (some row.mediaType) ∧ fitsInteger 64 (some row.byteSize)
  ∧ fitsVarchar 64 (some row.contentHash) ∧ fitsVarchar 255 (some row.storageObjectKey)
  ∧ row.storageState.length ≤ 32

instance (row : VersionsRow) : Decidable row.Fits :=
  inferInstanceAs (Decidable (_ ∧ _))

/-- A reference with nulls is satisfied where it is null. -/
def referenced {α : Type} (value : Option α) (targets : List α) : Prop :=
  ∀ key ∈ value, key ∈ targets

instance {α : Type} [DecidableEq α] (value : Option α) (targets : List α)
    : Decidable (referenced value targets) :=
  inferInstanceAs (Decidable (∀ key ∈ value, key ∈ targets))

/-- A reference with two columns, null when one of them is. -/
def pair {α β : Type} (first : Option α) (second : Option β) : Option (α × β) :=
  first.bind (fun x => second.map (fun y => (x, y)))

/-- The archive state of `ck_documents_archive_state_consistent`. -/
def DocumentsRow.ArchiveConsistent (row : DocumentsRow) : Prop :=
  (row.status = "archived" ∧ row.archivedAt.isSome ∧ row.archivedByUserId.isSome)
  ∨ (row.status ≠ "archived" ∧ row.archivedAt.isNone ∧ row.archivedByUserId.isNone)

instance (row : DocumentsRow) : Decidable row.ArchiveConsistent :=
  inferInstanceAs (Decidable (_ ∨ _))

/-- What a constraint says about the tables. Checks pass on nulls, and nulls never clash. -/
def Constraint.Holds : Constraint → Tables → Prop
  | documentsColumnTypes, tables => ∀ row ∈ tables.documents, row.Fits
  | versionsColumnTypes, tables => ∀ row ∈ tables.versions, row.Fits
  | notNull column, tables => ∀ row ∈ tables.documents, column.isSet row = true
  | pkDocuments, tables => (tables.documents.map DocumentsRow.id).Nodup
  | uqDocumentsContentHash, tables =>
      (tables.documents.filterMap DocumentsRow.contentHash).Nodup
  | uqDocumentsStorageObjectKey, tables =>
      (tables.documents.filterMap DocumentsRow.storageObjectKey).Nodup
  | ckDocumentsByteSizeNonNegative, tables =>
      ∀ row ∈ tables.documents, ∀ size ∈ row.byteSize, 0 ≤ size
  | ckLegacyDocumentsStatusValid, tables =>
      ∀ row ∈ tables.documents, row.status ∈ ["registered", "stored", "failed"]
  | ckDocumentsStatusValid, tables =>
      ∀ row ∈ tables.documents, row.status ∈ ["registered", "stored", "failed", "archived"]
  | ckDocumentsSourceTypeValid, tables =>
      ∀ row ∈ tables.documents, ∀ source ∈ row.sourceType,
        source ∈ ["upload", "import", "system"]
  | ckDocumentsLockVersionPositive, tables =>
      ∀ row ∈ tables.documents, ∀ lock ∈ row.lockVersion, 0 < lock
  | ckDocumentsArchiveStateConsistent, tables =>
      ∀ row ∈ tables.documents, row.ArchiveConsistent
  | fkDocumentsOrganizationIdOrganizations, tables =>
      ∀ row ∈ tables.documents, referenced row.organizationId tables.organizations
  | fkDocumentsArchivedByUserIdUsers, tables =>
      ∀ row ∈ tables.documents, referenced row.archivedByUserId tables.users
  | fkDocumentsCreatedByUserIdUsers, tables =>
      ∀ row ∈ tables.documents, referenced row.createdByUserId tables.users
  | fkDocumentsUpdatedByUserIdUsers, tables =>
      ∀ row ∈ tables.documents, referenced row.updatedByUserId tables.users
  | uqDocumentsOrganizationIdId, tables =>
      (tables.documents.filterMap (fun row => pair row.organizationId (some row.id))).Nodup
  | fkDocumentsOrganizationCurrentVersionDocumentVersions, tables =>
      ∀ row ∈ tables.documents,
        referenced (pair row.organizationId row.currentVersionId)
          (tables.versions.map (fun version => (version.organizationId, version.id)))
  | ckDocumentVersionsVersionNumberPositive, tables =>
      ∀ row ∈ tables.versions, 0 < row.versionNumber
  | ckDocumentVersionsByteSizeNonNegative, tables => ∀ row ∈ tables.versions, 0 ≤ row.byteSize
  | ckDocumentVersionsStorageStateValid, tables =>
      ∀ row ∈ tables.versions, row.storageState ∈ ["pending", "stored", "failed"]
  | fkDocumentVersionsOrganizationIdOrganizations, tables =>
      ∀ row ∈ tables.versions, row.organizationId ∈ tables.organizations
  | fkDocumentVersionsCreatedByUserIdUsers, tables =>
      ∀ row ∈ tables.versions, row.createdByUserId ∈ tables.users
  | pkDocumentVersions, tables => (tables.versions.map VersionsRow.id).Nodup
  | uqDocumentVersionsOrganizationIdId, tables =>
      (tables.versions.map (fun row => (row.organizationId, row.id))).Nodup
  | uqDocumentVersionsDocumentVersion, tables =>
      (tables.versions.map (fun row => (row.documentId, row.versionNumber))).Nodup
  | uqDocumentVersionsOrganizationContentHash, tables =>
      (tables.versions.map (fun row => (row.organizationId, row.contentHash))).Nodup
  | uqDocumentVersionsOrganizationStorageKey, tables =>
      (tables.versions.map (fun row => (row.organizationId, row.storageObjectKey))).Nodup
  | fkDocumentVersionsOrganizationDocumentDocuments, tables =>
      ∀ row ∈ tables.versions,
        (row.organizationId, row.documentId)
        ∈ tables.documents.filterMap (fun document =>
            pair document.organizationId (some document.id))

instance Constraint.decidableHolds
    : (constraint : Constraint) → (tables : Tables) → Decidable (constraint.Holds tables)
  | documentsColumnTypes, _ => List.decidableBAll _ _
  | versionsColumnTypes, _ => List.decidableBAll _ _
  | notNull _, _ => List.decidableBAll _ _
  | pkDocuments, _ => List.nodupDecidable _
  | uqDocumentsContentHash, _ => List.nodupDecidable _
  | uqDocumentsStorageObjectKey, _ => List.nodupDecidable _
  | ckDocumentsByteSizeNonNegative, _ => List.decidableBAll _ _
  | ckLegacyDocumentsStatusValid, _ => List.decidableBAll _ _
  | ckDocumentsStatusValid, _ => List.decidableBAll _ _
  | ckDocumentsSourceTypeValid, _ => List.decidableBAll _ _
  | ckDocumentsLockVersionPositive, _ => List.decidableBAll _ _
  | ckDocumentsArchiveStateConsistent, _ => List.decidableBAll _ _
  | fkDocumentsOrganizationIdOrganizations, _ => List.decidableBAll _ _
  | fkDocumentsArchivedByUserIdUsers, _ => List.decidableBAll _ _
  | fkDocumentsCreatedByUserIdUsers, _ => List.decidableBAll _ _
  | fkDocumentsUpdatedByUserIdUsers, _ => List.decidableBAll _ _
  | uqDocumentsOrganizationIdId, _ => List.nodupDecidable _
  | fkDocumentsOrganizationCurrentVersionDocumentVersions, _ => List.decidableBAll _ _
  | ckDocumentVersionsVersionNumberPositive, _ => List.decidableBAll _ _
  | ckDocumentVersionsByteSizeNonNegative, _ => List.decidableBAll _ _
  | ckDocumentVersionsStorageStateValid, _ => List.decidableBAll _ _
  | fkDocumentVersionsOrganizationIdOrganizations, _ => List.decidableBAll _ _
  | fkDocumentVersionsCreatedByUserIdUsers, _ => List.decidableBAll _ _
  | pkDocumentVersions, _ => List.nodupDecidable _
  | uqDocumentVersionsOrganizationIdId, _ => List.nodupDecidable _
  | uqDocumentVersionsDocumentVersion, _ => List.nodupDecidable _
  | uqDocumentVersionsOrganizationContentHash, _ => List.nodupDecidable _
  | uqDocumentVersionsOrganizationStorageKey, _ => List.nodupDecidable _
  | fkDocumentVersionsOrganizationDocumentDocuments, _ => List.decidableBAll _ _

/-- The two foreign keys between documents and versions are deferred. -/
instance : ConstraintSystem Tables Constraint where
  holds := Constraint.Holds
  decidable := Constraint.decidableHolds
  deferred
    | .fkDocumentVersionsOrganizationDocumentDocuments => true
    | .fkDocumentsOrganizationCurrentVersionDocumentVersions => true
    | _ => false

/-- Dropping a column drops its not-null constraint. -/
def Constraint.concernsColumn (column : DocumentsColumn) : Constraint → Bool
  | notNull other => other == column
  | _ => false

/-- The constraints on `document_versions`. -/
def Constraint.concernsVersions : Constraint → Bool
  | versionsColumnTypes => true
  | ckDocumentVersionsVersionNumberPositive => true
  | ckDocumentVersionsByteSizeNonNegative => true
  | ckDocumentVersionsStorageStateValid => true
  | fkDocumentVersionsOrganizationIdOrganizations => true
  | fkDocumentVersionsCreatedByUserIdUsers => true
  | pkDocumentVersions => true
  | uqDocumentVersionsOrganizationIdId => true
  | uqDocumentVersionsDocumentVersion => true
  | uqDocumentVersionsOrganizationContentHash => true
  | uqDocumentVersionsOrganizationStorageKey => true
  | fkDocumentVersionsOrganizationDocumentDocuments => true
  | _ => false

-----------------------------------------------------------------------------------------
-- The migration
-----------------------------------------------------------------------------------------

abbrev DocumentMigration := Migration Tables Constraint

def onDocuments (change : DocumentsRow → DocumentsRow) (tables : Tables) : Tables :=
  { tables with documents := tables.documents.map change }

def addColumn (column : DocumentsColumn) : DocumentMigration Unit :=
  add (onDocuments column.clear)

def dropColumn (column : DocumentsColumn) : DocumentMigration Unit :=
  drop (onDocuments column.clear) (Constraint.concernsColumn column)

/-- `_legacy_storage_state`. -/
def legacyStorageState (status : String) : String :=
  if status = "stored" then "stored"
  else if status = "failed" then "failed"
  else "pending"

/-- `_resolve_legacy_owner`. -/
def resolveLegacyOwner : DocumentMigration (UUID × UUID) := do
  let organizations ← query Tables.organizations
  match organizations with
  | [organizationId] =>
      let ownerUsers ← query (fun tables =>
        (tables.memberships.filter (fun membership =>
          membership.organizationId == organizationId && membership.isActiveOwner)).map
          Membership.userId)
      match ownerUsers with
      | [ownerUser] => return (organizationId, ownerUser)
      | _ =>
          let users ← query Tables.users
          match users with
          | [user] => return (organizationId, user)
          | _ =>
              fail ("Legacy documents exist but actor metadata is ambiguous. "
                ++ "Ensure exactly one active owner or exactly one user exists before 0008.")
  | _ =>
      fail ("Legacy documents exist but ownership is ambiguous. "
        ++ "Ensure exactly one organization exists or migrate legacy documents "
        ++ "manually before 0008.")

/-- The first version of a legacy row. A null never occurs in a column that is not null. -/
def firstVersion (organizationId actorUserId versionId : UUID) (row : DocumentsRow)
    : VersionsRow where
  id := versionId
  organizationId := organizationId
  documentId := row.id
  versionNumber := 1
  originalFilename := row.originalFilename.getD []
  mediaType := row.mediaType.getD []
  byteSize := row.byteSize.getD 0
  contentHash := row.contentHash.getD []
  storageObjectKey := row.storageObjectKey.getD []
  storageState := legacyStorageState row.status
  createdAt := row.createdAt
  createdByUserId := actorUserId

/-- The tenant columns of a legacy row. -/
def assignOwner (organizationId actorUserId versionId : UUID) (displayFilename : Option Text)
    (row : DocumentsRow)
    : DocumentsRow :=
  { row with
    organizationId := some organizationId
    displayFilename
    sourceType := some "upload"
    currentVersionId := some versionId
    createdByUserId := some actorUserId
    updatedByUserId := some actorUserId
    lockVersion := some 1 }

/-- The loop over the legacy rows: `uuid4` gives each its version identifier. -/
def backfill (uuid4 : Nat → UUID) (organizationId actorUserId : UUID)
    : Nat → List DocumentsRow → DocumentMigration Unit
  | _, [] => return ()
  | drawn, row :: rows => do
      let versionId := uuid4 drawn
      execute (fun tables => { tables with
        versions :=
          tables.versions ++ [firstVersion organizationId actorUserId versionId row] })
      execute (onDocuments (fun document =>
        if document.id = row.id then
          assignOwner organizationId actorUserId versionId row.originalFilename document
        else document))
      backfill uuid4 organizationId actorUserId (drawn + 1) rows

/-- The constraints that the new table starts with. -/
def versionConstraints : List Constraint :=
  [.versionsColumnTypes, .ckDocumentVersionsVersionNumberPositive,
    .ckDocumentVersionsByteSizeNonNegative, .ckDocumentVersionsStorageStateValid,
    .fkDocumentVersionsOrganizationIdOrganizations, .fkDocumentVersionsCreatedByUserIdUsers,
    .pkDocumentVersions, .uqDocumentVersionsOrganizationIdId,
    .uqDocumentVersionsDocumentVersion, .uqDocumentVersionsOrganizationContentHash,
    .uqDocumentVersionsOrganizationStorageKey]

def createDocumentVersions : DocumentMigration Unit := do
  add (fun tables => { tables with versions := [] })
  versionConstraints.forM createConstraint

/-- What the upgrade does with the legacy rows, if there are any. -/
def backfillLegacy (uuid4 : Nat → UUID) (legacyCount : Nat) : DocumentMigration Unit :=
  if legacyCount ≠ 0 then do
    let (organizationId, actorUserId) ← resolveLegacyOwner
    let rows ← query Tables.documents
    backfill uuid4 organizationId actorUserId 0 rows
  else
    execute (onDocuments (fun row =>
      if row.lockVersion = none then { row with lockVersion := some 1 } else row))

/-- The constraints that the upgrade adds after its loop. -/
def tenantConstraints : List Constraint :=
  [.notNull .organizationId, .notNull .displayFilename, .notNull .sourceType,
    .notNull .currentVersionId, .notNull .createdByUserId, .notNull .updatedByUserId,
    .notNull .lockVersion, .ckDocumentsStatusValid, .ckDocumentsSourceTypeValid,
    .ckDocumentsLockVersionPositive, .ckDocumentsArchiveStateConsistent,
    .fkDocumentsOrganizationIdOrganizations, .fkDocumentsArchivedByUserIdUsers,
    .fkDocumentsCreatedByUserIdUsers, .fkDocumentsUpdatedByUserIdUsers,
    .uqDocumentsOrganizationIdId, .fkDocumentVersionsOrganizationDocumentDocuments,
    .fkDocumentsOrganizationCurrentVersionDocumentVersions]

/-- The columns that move to `document_versions`. -/
def legacyColumns : List DocumentsColumn :=
  [.originalFilename, .mediaType, .byteSize, .contentHash, .storageObjectKey]

/-- `upgrade`. -/
def upgrade (uuid4 : Nat → UUID) : DocumentMigration Unit := do
  let legacyCount ← query (fun tables => tables.documents.length)
  [DocumentsColumn.organizationId, .displayFilename, .sourceType, .sourceReference,
    .currentVersionId, .archivedAt, .archivedByUserId, .createdByUserId,
    .updatedByUserId].forM addColumn
  add (onDocuments (fun row => { row with lockVersion := some 1 }))
  createDocumentVersions
  backfillLegacy uuid4 legacyCount
  [Constraint.uqDocumentsContentHash, .uqDocumentsStorageObjectKey,
    .ckDocumentsByteSizeNonNegative, .ckLegacyDocumentsStatusValid].forM dropConstraint
  tenantConstraints.forM createConstraint
  legacyColumns.forM dropColumn
  commit

/-- The columns that a document takes back from its current version. -/
def takeBack (versions : List VersionsRow) (row : DocumentsRow) : DocumentsRow :=
  match versions.find? (fun version => row.currentVersionId == some version.id) with
  | none => row
  | some version => { row with
      originalFilename := some version.originalFilename
      mediaType := some version.mediaType
      byteSize := some version.byteSize
      contentHash := some version.contentHash
      storageObjectKey := some version.storageObjectKey }

/-- `downgrade`. -/
def downgrade : DocumentMigration Unit := do
  [DocumentsColumn.storageObjectKey, .contentHash, .byteSize, .mediaType,
    .originalFilename].forM addColumn
  execute (fun tables => onDocuments (takeBack tables.versions) tables)
  [Constraint.notNull .originalFilename, .notNull .mediaType, .notNull .byteSize,
    .notNull .contentHash, .notNull .storageObjectKey].forM createConstraint
  [Constraint.fkDocumentsOrganizationCurrentVersionDocumentVersions,
    .fkDocumentVersionsOrganizationDocumentDocuments, .uqDocumentsOrganizationIdId,
    .fkDocumentsUpdatedByUserIdUsers, .fkDocumentsCreatedByUserIdUsers,
    .fkDocumentsArchivedByUserIdUsers, .fkDocumentsOrganizationIdOrganizations,
    .ckDocumentsArchiveStateConsistent, .ckDocumentsLockVersionPositive,
    .ckDocumentsSourceTypeValid, .ckDocumentsStatusValid].forM dropConstraint
  [Constraint.ckDocumentsByteSizeNonNegative, .ckLegacyDocumentsStatusValid,
    .uqDocumentsContentHash, .uqDocumentsStorageObjectKey].forM createConstraint
  [DocumentsColumn.lockVersion, .updatedByUserId, .createdByUserId, .archivedByUserId,
    .archivedAt, .currentVersionId, .sourceReference, .sourceType, .displayFilename,
    .organizationId].forM dropColumn
  drop (fun tables => { tables with versions := [] }) Constraint.concernsVersions
  commit

-----------------------------------------------------------------------------------------
-- Databases before the migration
-----------------------------------------------------------------------------------------

/-- A row of `documents` before the migration. -/
structure LegacyDocument where
  id : UUID
  originalFilename : Text
  mediaType : Text
  byteSize : Int
  contentHash : Text
  storageObjectKey : Text
  status : String
  createdAt : Timestamp
  updatedAt : Timestamp
  deriving DecidableEq

/-- The row with the columns of both schemas. -/
def LegacyDocument.row (document : LegacyDocument) : DocumentsRow where
  id := document.id
  originalFilename := some document.originalFilename
  mediaType := some document.mediaType
  byteSize := some document.byteSize
  contentHash := some document.contentHash
  storageObjectKey := some document.storageObjectKey
  status := document.status
  createdAt := document.createdAt
  updatedAt := document.updatedAt
  organizationId := none
  displayFilename := none
  sourceType := none
  sourceReference := none
  currentVersionId := none
  archivedAt := none
  archivedByUserId := none
  createdByUserId := none
  updatedByUserId := none
  lockVersion := none

/-- The constraints on `documents` before the migration. -/
def legacyConstraints : List Constraint :=
  [.documentsColumnTypes, .pkDocuments, .notNull .originalFilename, .notNull .mediaType,
    .notNull .byteSize, .notNull .contentHash, .notNull .storageObjectKey,
    .ckDocumentsByteSizeNonNegative, .ckLegacyDocumentsStatusValid, .uqDocumentsContentHash,
    .uqDocumentsStorageObjectKey]

/-- A database that satisfies the schema before the migration. -/
structure LegacyDatabase where
  organizations : List UUID
  users : List UUID
  memberships : List Membership
  documents : List LegacyDocument
  memberUsers : ∀ membership ∈ memberships, membership.userId ∈ users
  valid
    : ∀ constraint ∈ legacyConstraints,
        constraint.Holds {
          organizations, users, memberships
          documents := documents.map LegacyDocument.row
          versions := []
        }

def LegacyDatabase.tables (database : LegacyDatabase) : Tables where
  organizations := database.organizations
  users := database.users
  memberships := database.memberships
  documents := database.documents.map LegacyDocument.row
  versions := []

def LegacyDatabase.catalog (database : LegacyDatabase) : Catalog Tables Constraint where
  tables := database.tables
  constraints := legacyConstraints

/-- There is one organization, and it has one active owner or there is one user. -/
def LegacyDatabase.OwnerUnambiguous (database : LegacyDatabase) : Prop :=
  ∃ organizationId,
    database.organizations = [organizationId]
    ∧ ((database.memberships.filter (fun membership =>
            membership.organizationId == organizationId && membership.isActiveOwner)).length = 1
      ∨ database.users.length = 1)

end WorkflowForge.Migrations
