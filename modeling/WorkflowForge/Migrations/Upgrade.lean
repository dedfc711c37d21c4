import WorkflowForge.Migrations.Backfill

/-! The upgrade of migration 0008 ends in the upgraded schema. -/

namespace WorkflowForge.Migrations

open Python Ddl

-----------------------------------------------------------------------------------------
-- Columns
-----------------------------------------------------------------------------------------

/-- A row without the given columns. -/
def clearColumns (columns : List DocumentsColumn) (row : DocumentsRow) : DocumentsRow :=
  columns.foldl (fun row column => column.clear row) row

/-- Adding columns that are null in every row changes nothing. -/
theorem addColumns_ends {columns : List DocumentsColumn} {tables : Tables}
    {constraints : List Constraint}
    (null : ∀ row ∈ tables.documents, ∀ column ∈ columns, column.clear row = row)
    : Ends (columns.forM addColumn) ⟨tables, constraints⟩ () ⟨tables, constraints⟩ := by
  induction columns with
  | nil => rfl
  | cons column columns ih =>
      have same : onDocuments column.clear tables = tables := by
        have rows : tables.documents.map column.clear = tables.documents :=
          (List.map_congr_left fun row member =>
            null row member column List.mem_cons_self).trans (List.map_id _)
        simp only [onDocuments, rows]
      have head
          : Ends (addColumn column) ⟨tables, constraints⟩ () ⟨tables, constraints⟩ := by
        have added
            : Ends (add (onDocuments column.clear)) ⟨tables, constraints⟩ ()
                ⟨onDocuments column.clear tables, constraints⟩ :=
          Ends.add
        rw [same] at added
        exact added
      exact Ends.bind head (ih fun row member other listed =>
        null row member other (List.mem_cons_of_mem _ listed))

/-- Dropping columns clears them and drops their not-null constraints. -/
theorem dropColumns_ends {columns : List DocumentsColumn} {tables : Tables}
    {constraints : List Constraint}
    : Ends (columns.forM dropColumn) ⟨tables, constraints⟩ ()
        ⟨onDocuments (clearColumns columns) tables,
          constraints.filter (fun constraint =>
            columns.all (fun column => !Constraint.concernsColumn column constraint))⟩ := by
  induction columns generalizing tables constraints with
  | nil =>
      have same : onDocuments (clearColumns []) tables = tables := by
        have rows : tables.documents.map (clearColumns []) = tables.documents :=
          List.map_id _
        simp only [onDocuments, rows]
      have unchanged
          : constraints.filter (fun constraint =>
              ([] : List DocumentsColumn).all (fun column =>
                !Constraint.concernsColumn column constraint))
            = constraints :=
        List.filter_eq_self.mpr (fun _ _ => rfl)
      rw [same, unchanged]
      rfl
  | cons column columns ih =>
      have rest := @ih (onDocuments column.clear tables)
        (constraints.filter (fun constraint => !Constraint.concernsColumn column constraint))
      have rows
          : onDocuments (clearColumns columns) (onDocuments column.clear tables)
            = onDocuments (clearColumns (column :: columns)) tables := by
        simp [onDocuments, clearColumns, Function.comp_def]
      rw [rows, List.filter_filter] at rest
      simp only [List.all_cons, Bool.and_comm] at rest ⊢
      exact Ends.bind Ends.drop rest

-----------------------------------------------------------------------------------------
-- The owner of the legacy rows
-----------------------------------------------------------------------------------------

/-- An unambiguous owner is found, and exists. -/
theorem resolveLegacyOwner_ends {database : LegacyDatabase} {tables : Tables}
    {constraints : List Constraint}
    (organizations : tables.organizations = database.organizations)
    (users : tables.users = database.users)
    (memberships : tables.memberships = database.memberships)
    (unambiguous : database.OwnerUnambiguous)
    : ∃ organizationId actorUserId,
        organizationId ∈ database.organizations ∧ actorUserId ∈ database.users
        ∧ Ends resolveLegacyOwner ⟨tables, constraints⟩ (organizationId, actorUserId)
            ⟨tables, constraints⟩ := by
  obtain ⟨organizationId, single, owner⟩ := unambiguous
  have organization : organizationId ∈ database.organizations := by simp [single]
  cases found : database.memberships.filter (fun membership =>
      membership.organizationId == organizationId && membership.isActiveOwner) with
  | nil =>
      rw [found] at owner
      obtain ⟨user, only⟩ := List.length_eq_one_iff.mp (owner.resolve_left nofun)
      refine ⟨organizationId, user, organization, by simp [only], ?_⟩
      simp only [resolveLegacyOwner, Ends, query, bind, StateT.bind, Except.bind,
        organizations, users, single, only, memberships, found, List.map_nil]
      rfl
  | cons first others =>
      cases others with
      | nil =>
          have kept : first ∈ database.memberships.filter (fun membership =>
              membership.organizationId == organizationId && membership.isActiveOwner) :=
            found ▸ List.mem_cons_self
          refine ⟨organizationId, first.userId, organization,
            database.memberUsers first (List.mem_filter.mp kept).1, ?_⟩
          simp only [resolveLegacyOwner, Ends, query, bind, StateT.bind, Except.bind,
            organizations, single, memberships, found, List.map_cons, List.map_nil]
          rfl
      | cons second others =>
          rw [found] at owner
          obtain ⟨user, only⟩ := List.length_eq_one_iff.mp (owner.resolve_left (by simp))
          refine ⟨organizationId, user, organization, by simp [only], ?_⟩
          simp only [resolveLegacyOwner, Ends, query, bind, StateT.bind, Except.bind,
            organizations, users, single, only, memberships, found, List.map_cons]
          rfl

-----------------------------------------------------------------------------------------
-- The upgraded schema
-----------------------------------------------------------------------------------------

def upgradedConstraints : List Constraint :=
  [.documentsColumnTypes, .pkDocuments] ++ versionConstraints ++ tenantConstraints

/-- All rows have their tenant columns and their first versions; the legacy columns are
there or not. -/
structure Upgraded (database : LegacyDatabase) (organizationId actorUserId : UUID)
    (row : Assigned → DocumentsRow) (tables : Tables) (assigned : List Assigned)
    : Prop where
  organizations : tables.organizations = database.organizations
  users : tables.users = database.users
  memberships : tables.memberships = database.memberships
  documents : tables.documents = assigned.map row
  versions : tables.versions = assigned.map (versionRow organizationId actorUserId)
  legacy : assigned.map Prod.fst = database.documents
  fresh : (assigned.map Prod.snd).Nodup
  tenant
    : ∀ each, clearColumns legacyColumns (row each) = tenantRow organizationId actorUserId each
  fits : ∀ each ∈ assigned, (row each).Fits

/-- The constraints of the versions do not look at the documents. -/
theorem holds_of_same_versions {constraint : Constraint} {first second : Tables}
    (member : constraint ∈ versionConstraints)
    (organizations : first.organizations = second.organizations)
    (users : first.users = second.users) (versions : first.versions = second.versions)
    (holds : constraint.Holds first)
    : constraint.Holds second := by
  simp only [versionConstraints, List.mem_cons, List.not_mem_nil, or_false] at member
  rcases member with rfl | rfl | rfl | rfl | rfl | rfl | rfl | rfl | rfl | rfl | rfl
  all_goals
    simp only [Constraint.Holds, organizations, users, versions] at holds ⊢
    exact holds

namespace Upgraded

variable {database : LegacyDatabase} {organizationId actorUserId : UUID}
  {row : Assigned → DocumentsRow} {tables : Tables} {assigned : List Assigned}

/-- After the loop every row is owned. -/
theorem of_backfilling
    (state : Backfilling database organizationId actorUserId tables assigned [] assigned)
    : Upgraded database organizationId actorUserId (ownedRow organizationId actorUserId)
        tables assigned where
  organizations := state.organizations
  users := state.users
  memberships := state.memberships
  documents := by simpa using state.documents
  versions := state.versions
  legacy := by simpa using state.legacy
  fresh := state.fresh
  tenant _ := rfl
  fits each member :=
    Backfilling.fits_ownedRow each.2 (database.fits each.1 (state.done_mem member))

/-- With the legacy columns, all rows had their turn in the loop. -/
theorem backfilling
    (state
      : Upgraded database organizationId actorUserId (ownedRow organizationId actorUserId)
          tables assigned)
    : Backfilling database organizationId actorUserId tables assigned [] assigned where
  organizations := state.organizations
  users := state.users
  memberships := state.memberships
  documents := by simpa using state.documents
  versions := state.versions
  legacy := by simpa using state.legacy
  sources := state.legacy ▸ List.Sublist.refl _
  fresh := state.fresh

/-- The same rows with other legacy columns. -/
theorem withRows {row' : Assigned → DocumentsRow}
    (state : Upgraded database organizationId actorUserId row tables assigned)
    (tenant
      : ∀ each, clearColumns legacyColumns (row' each) = tenantRow organizationId actorUserId each)
    (fits : ∀ each ∈ assigned, (row' each).Fits)
    : Upgraded database organizationId actorUserId row'
        { tables with documents := assigned.map row' } assigned :=
  { state with documents := rfl, tenant, fits }

theorem document_mem {each : Assigned}
    (state : Upgraded database organizationId actorUserId row tables assigned)
    (member : each ∈ assigned)
    : each.1 ∈ database.documents :=
  state.legacy ▸ List.mem_map_of_mem member

/-- What the tenant columns of a row are. -/
structure TenantColumns (organizationId actorUserId : UUID) (entry : Assigned)
    (row : DocumentsRow)
    : Prop where
  id : row.id = entry.1.id
  status : row.status = entry.1.status
  organizationId : row.organizationId = some organizationId
  displayFilename : row.displayFilename = some entry.1.originalFilename
  sourceType : row.sourceType = some "upload"
  currentVersionId : row.currentVersionId = some entry.2
  archivedAt : row.archivedAt = none
  archivedByUserId : row.archivedByUserId = none
  createdByUserId : row.createdByUserId = some actorUserId
  updatedByUserId : row.updatedByUserId = some actorUserId
  lockVersion : row.lockVersion = some 1

theorem tenantColumns {entry : Assigned}
    (same : clearColumns legacyColumns (row entry) = tenantRow organizationId actorUserId entry)
    : TenantColumns organizationId actorUserId entry (row entry) where
  id := congrArg DocumentsRow.id same
  status := congrArg DocumentsRow.status same
  organizationId := congrArg DocumentsRow.organizationId same
  displayFilename := congrArg DocumentsRow.displayFilename same
  sourceType := congrArg DocumentsRow.sourceType same
  currentVersionId := congrArg DocumentsRow.currentVersionId same
  archivedAt := congrArg DocumentsRow.archivedAt same
  archivedByUserId := congrArg DocumentsRow.archivedByUserId same
  createdByUserId := congrArg DocumentsRow.createdByUserId same
  updatedByUserId := congrArg DocumentsRow.updatedByUserId same
  lockVersion := congrArg DocumentsRow.lockVersion same

/-- A property of the tenant columns of each legacy document holds of all rows. -/
theorem forall_documents {property : DocumentsRow → Prop}
    (state : Upgraded database organizationId actorUserId row tables assigned)
    (each
      : ∀ entry ∈ assigned,
          TenantColumns organizationId actorUserId entry (row entry) → property (row entry))
    : ∀ row ∈ tables.documents, property row := by
  intro stored member
  rw [state.documents] at member
  obtain ⟨entry, listed, rfl⟩ := List.mem_map.mp member
  exact each entry listed (tenantColumns (state.tenant entry))

theorem status_legacy
    (state : Upgraded database organizationId actorUserId row tables assigned)
    {entry : Assigned} (listed : entry ∈ assigned)
    : entry.1.status ∈ ["registered", "stored", "failed"] :=
  database.status_valid _ (state.document_mem listed)

theorem ids_nodup (state : Upgraded database organizationId actorUserId row tables assigned)
    : (assigned.map (fun entry => entry.1.id)).Nodup := by
  have distinct := database.ids_nodup
  rw [← state.legacy] at distinct
  simpa [Function.comp_def] using distinct

theorem documentKeys
    (state : Upgraded database organizationId actorUserId row tables assigned)
    : tables.documents.filterMap (fun row => pair row.organizationId (some row.id))
      = assigned.map (fun entry => (organizationId, entry.1.id)) := by
  rw [state.documents, List.filterMap_map, ← List.filterMap_eq_map]
  refine List.filterMap_congr fun entry _ => ?_
  have columns := tenantColumns (state.tenant entry)
  simp [pair, columns.id, columns.organizationId]

theorem versionKeys
    (state : Upgraded database organizationId actorUserId row tables assigned)
    : tables.versions.map (fun version => (version.organizationId, version.id))
      = assigned.map (fun entry => (organizationId, entry.2)) := by
  rw [state.versions, List.map_map]
  rfl

/-- The rows satisfy what the upgrade demands of the tenant columns. -/
theorem holds_tenant
    (state : Upgraded database organizationId actorUserId row tables assigned)
    (organization : organizationId ∈ database.organizations)
    (actor : actorUserId ∈ database.users)
    : ∀ constraint ∈ tenantConstraints, constraint.Holds tables := by
  intro constraint member
  simp only [tenantConstraints, List.mem_cons, List.not_mem_nil, or_false] at member
  rcases member with rfl | rfl | rfl | rfl | rfl | rfl | rfl | rfl | rfl | rfl | rfl | rfl
    | rfl | rfl | rfl | rfl | rfl | rfl
  · exact state.forall_documents fun _ _ columns =>
      congrArg Option.isSome columns.organizationId
  · exact state.forall_documents fun _ _ columns =>
      congrArg Option.isSome columns.displayFilename
  · exact state.forall_documents fun _ _ columns =>
      congrArg Option.isSome columns.sourceType
  · exact state.forall_documents fun _ _ columns =>
      congrArg Option.isSome columns.currentVersionId
  · exact state.forall_documents fun _ _ columns =>
      congrArg Option.isSome columns.createdByUserId
  · exact state.forall_documents fun _ _ columns =>
      congrArg Option.isSome columns.updatedByUserId
  · exact state.forall_documents fun _ _ columns =>
      congrArg Option.isSome columns.lockVersion
  · refine state.forall_documents fun entry listed columns => ?_
    rw [columns.status]
    exact List.mem_append_left ["archived"] (state.status_legacy listed)
  · refine state.forall_documents fun entry _ columns => ?_
    rw [columns.sourceType]
    decide
  · refine state.forall_documents fun entry _ columns => ?_
    rw [columns.lockVersion]
    decide
  · refine state.forall_documents fun entry listed columns => .inr ⟨?_, ?_, ?_⟩
    · rw [columns.status]
      intro archived
      have legacy := state.status_legacy listed
      rw [archived] at legacy
      exact absurd legacy (by decide)
    · simp [columns.archivedAt]
    · simp [columns.archivedByUserId]
  · refine state.forall_documents fun entry _ columns => ?_
    rw [columns.organizationId, state.organizations]
    exact fun _ given => Option.mem_some.mp given ▸ organization
  · refine state.forall_documents fun entry _ columns => ?_
    rw [columns.archivedByUserId]
    exact nofun
  · refine state.forall_documents fun entry _ columns => ?_
    rw [columns.createdByUserId, state.users]
    exact fun _ given => Option.mem_some.mp given ▸ actor
  · refine state.forall_documents fun entry _ columns => ?_
    rw [columns.updatedByUserId, state.users]
    exact fun _ given => Option.mem_some.mp given ▸ actor
  · change (tables.documents.filterMap _).Nodup
    rw [state.documentKeys]
    exact (List.pairwise_map.mp state.ids_nodup).map _
      (fun _ _ different same => different (Prod.mk.inj same).2)
  · intro version stored
    rw [state.versions] at stored
    obtain ⟨entry, listed, rfl⟩ := List.mem_map.mp stored
    rw [state.documentKeys]
    exact List.mem_map.mpr ⟨entry, listed, rfl⟩
  · refine state.forall_documents fun entry listed columns => ?_
    rw [columns.organizationId, columns.currentVersionId, state.versionKeys]
    intro key given
    obtain rfl := Option.mem_some.mp given
    exact List.mem_map.mpr ⟨entry, listed, rfl⟩

/-- All constraints of the upgraded schema hold, with the legacy columns or without. -/
theorem holds (state : Upgraded database organizationId actorUserId row tables assigned)
    (organization : organizationId ∈ database.organizations)
    (actor : actorUserId ∈ database.users)
    : ∀ constraint ∈ upgradedConstraints, constraint.Holds tables := by
  intro constraint member
  rcases List.mem_append.mp member with front | tenant
  · rcases List.mem_append.mp front with documents | version
    · simp only [List.mem_cons, List.not_mem_nil, or_false] at documents
      rcases documents with rfl | rfl
      · intro stored listed
        rw [state.documents] at listed
        obtain ⟨entry, here, rfl⟩ := List.mem_map.mp listed
        exact state.fits entry here
      · have same : tables.documents.map DocumentsRow.id
            = assigned.map (fun entry => entry.1.id) := by
          rw [state.documents, List.map_map]
          exact List.map_congr_left fun entry _ => (tenantColumns (state.tenant entry)).id
        change (tables.documents.map DocumentsRow.id).Nodup
        rw [same]
        exact state.ids_nodup
    · -- The versions are those of the same rows with their legacy columns.
      have rows := state.withRows (fun _ => rfl) (fun entry listed =>
        Backfilling.fits_ownedRow entry.2 (database.fits _ (state.document_mem listed)))
      have owned := rows.backfilling
      have holds := owned.holds_versions organization actor constraint version
      refine holds_of_same_versions version ?_ ?_ ?_ holds
      all_goals rfl
  · exact state.holds_tenant organization actor constraint tenant

end Upgraded

-----------------------------------------------------------------------------------------
-- The upgrade
-----------------------------------------------------------------------------------------

/-- With no rows nothing is violated. -/
theorem holds_of_no_rows {constraint : Constraint} {tables : Tables}
    (documents : tables.documents = []) (versions : tables.versions = [])
    : constraint.Holds tables := by
  cases constraint <;> simp [Constraint.Holds, documents, versions]

/-- The tables of the upgraded schema. -/
def upgradedTables (database : LegacyDatabase) (organizationId actorUserId : UUID)
    (assigned : List Assigned)
    : Tables where
  organizations := database.organizations
  users := database.users
  memberships := database.memberships
  documents := assigned.map (tenantRow organizationId actorUserId)
  versions := assigned.map (versionRow organizationId actorUserId)

/-- The tables when the loop is over. -/
def ownedTables (database : LegacyDatabase) (organizationId actorUserId : UUID)
    (assigned : List Assigned)
    : Tables :=
  { upgradedTables database organizationId actorUserId assigned with
    documents := assigned.map (ownedRow organizationId actorUserId) }

theorem Upgraded.tables_eq {database : LegacyDatabase} {organizationId actorUserId : UUID}
    {tables : Tables} {assigned : List Assigned}
    (state
      : Upgraded database organizationId actorUserId (ownedRow organizationId actorUserId)
          tables assigned)
    : tables = ownedTables database organizationId actorUserId assigned := by
  obtain ⟨organizations, users, memberships, documents, versions, -, -, -, -⟩ := state
  cases tables
  simp only at organizations users memberships documents versions
  simp [ownedTables, upgradedTables, organizations, users, memberships, documents, versions]

/-- Up to the loop the tables get null columns, the lock version and an empty table. -/
def lockedTables (database : LegacyDatabase) : Tables :=
  { database.tables with documents := database.documents.map lockedRow }

/-- The loop, or what stands in its place for an empty table. -/
theorem backfilled_ends {database : LegacyDatabase} {uuid4 : Nat → UUID}
    (fresh : Function.Injective uuid4)
    (unambiguous : database.documents ≠ [] → database.OwnerUnambiguous)
    : ∃ organizationId actorUserId,
        (database.documents ≠ []
          → organizationId ∈ database.organizations ∧ actorUserId ∈ database.users)
        ∧ Ends (backfillLegacy uuid4 database.documents.length)
            ⟨lockedTables database, legacyConstraints ++ versionConstraints⟩ ()
            ⟨ownedTables database organizationId actorUserId
                (assign uuid4 0 database.documents),
              legacyConstraints ++ versionConstraints⟩ := by
  by_cases empty : database.documents = []
  · refine ⟨0, 0, fun some => absurd empty some, ?_⟩
    have same : ownedTables database 0 0 (assign uuid4 0 database.documents)
        = onDocuments (fun row =>
            if row.lockVersion = none then { row with lockVersion := some 1 } else row)
            (lockedTables database) := by
      simp [ownedTables, upgradedTables, onDocuments, lockedTables, LegacyDatabase.tables,
        assign, empty]
    rw [same, backfillLegacy, if_neg (by simp [empty])]
    exact Ends.execute fun constraint _ _ =>
      holds_of_no_rows (by simp [onDocuments, lockedTables, empty]) rfl
  · obtain ⟨organizationId, actorUserId, organization, actor, owner⟩ :=
      @resolveLegacyOwner_ends database (lockedTables database) _ rfl rfl rfl
        (unambiguous empty)
    have start
        : Backfilling database organizationId actorUserId (lockedTables database) []
            database.documents [] := by
      refine { organizations := rfl, users := rfl, memberships := rfl, documents := rfl,
               versions := rfl, legacy := rfl, sources := ?_, fresh := List.nodup_nil }
      exact List.nil_sublist _
    obtain ⟨after, loop, final⟩ :=
      backfill_ends organization actor start (nodup_snd_assign fresh 0 _)
    refine ⟨organizationId, actorUserId, fun _ => ⟨organization, actor⟩, ?_⟩
    rw [backfillLegacy, if_pos (by simpa using empty)]
    rw [(Upgraded.of_backfilling final).tables_eq] at loop
    exact Ends.bind owner (Ends.bind Ends.query loop)

section

variable {database : LegacyDatabase} {organizationId actorUserId : UUID}

/-- The rows of the loop's end, with their facts. -/
theorem upgraded_ownedTables {assigned : List Assigned}
    (legacy : assigned.map Prod.fst = database.documents)
    (fresh : (assigned.map Prod.snd).Nodup)
    : Upgraded database organizationId actorUserId (ownedRow organizationId actorUserId)
        (ownedTables database organizationId actorUserId assigned) assigned := by
  refine { organizations := rfl, users := rfl, memberships := rfl, documents := rfl,
           versions := rfl, legacy, fresh, tenant := fun _ => rfl, fits := ?_ }
  intro entry listed
  exact Backfilling.fits_ownedRow entry.2
    (database.fits _ (legacy ▸ List.mem_map_of_mem listed))

theorem fits_tenantRow {entry : Assigned}
    (fits : (ownedRow organizationId actorUserId entry).Fits)
    : (tenantRow organizationId actorUserId entry).Fits := by
  obtain ⟨-, -, -, -, -, status, display, source, reference, lock⟩ := fits
  exact ⟨nofun, nofun, nofun, nofun, nofun, status, display, source, reference, lock⟩

theorem upgraded_upgradedTables {assigned : List Assigned}
    (legacy : assigned.map Prod.fst = database.documents)
    (fresh : (assigned.map Prod.snd).Nodup)
    : Upgraded database organizationId actorUserId (tenantRow organizationId actorUserId)
        (upgradedTables database organizationId actorUserId assigned) assigned :=
  (upgraded_ownedTables legacy fresh).withRows (fun _ => rfl)
    (fun entry listed => fits_tenantRow ((upgraded_ownedTables legacy fresh).fits entry listed))

/-- The constraints of the upgraded schema hold of the rows, and trivially without rows. -/
theorem holds_of_upgraded {row : Assigned → DocumentsRow} {tables : Tables}
    {assigned : List Assigned}
    (state : Upgraded database organizationId actorUserId row tables assigned)
    (owner
      : database.documents ≠ []
        → organizationId ∈ database.organizations ∧ actorUserId ∈ database.users)
    : ∀ constraint ∈ upgradedConstraints, constraint.Holds tables := by
  by_cases empty : database.documents = []
  · have none : assigned = [] := List.map_eq_nil_iff.mp (state.legacy.trans empty)
    exact fun constraint _ =>
      holds_of_no_rows (by simp [state.documents, none]) (by simp [state.versions, none])
  · exact state.holds (owner empty).1 (owner empty).2

end

/-- The upgrade ends in the upgraded schema, with all of its constraints satisfied. -/
theorem upgrade_ends {database : LegacyDatabase} {uuid4 : Nat → UUID}
    (fresh : Function.Injective uuid4)
    (unambiguous : database.documents ≠ [] → database.OwnerUnambiguous)
    : ∃ organizationId actorUserId,
        (database.documents ≠ []
          → organizationId ∈ database.organizations ∧ actorUserId ∈ database.users)
        ∧ Ends (upgrade uuid4) database.catalog ()
            ⟨upgradedTables database organizationId actorUserId
                (assign uuid4 0 database.documents), upgradedConstraints⟩ := by
  obtain ⟨organizationId, actorUserId, owner, loop⟩ := backfilled_ends fresh unambiguous
  refine ⟨organizationId, actorUserId, owner, ?_⟩
  have legacy := map_fst_assign uuid4 0 database.documents
  have distinct := nodup_snd_assign fresh 0 database.documents
  have count : database.documents.length = database.tables.documents.length := by
    simp [LegacyDatabase.tables]
  generalize assign uuid4 0 database.documents = assigned at loop legacy distinct ⊢
  rw [count] at loop
  have owned := @upgraded_ownedTables database organizationId actorUserId _ legacy distinct
  have tenant := @upgraded_upgradedTables database organizationId actorUserId _ legacy distinct
  have locked
      : Ends (add (onDocuments (fun row => { row with lockVersion := some 1 })))
          database.catalog () ⟨lockedTables database, legacyConstraints⟩ := by
    have rows
        : onDocuments (fun row => { row with lockVersion := some 1 }) database.tables
          = lockedTables database := by
      simp [onDocuments, lockedTables, LegacyDatabase.tables, lockedRow]
    exact rows ▸ Ends.add
  have created
      : Ends createDocumentVersions ⟨lockedTables database, legacyConstraints⟩ ()
          ⟨lockedTables database, legacyConstraints ++ versionConstraints⟩ := by
    refine Ends.bind Ends.add (Ends.createConstraints fun constraint member => ?_)
    have empty : constraint.Holds { lockedTables database with documents := [] } :=
      holds_of_no_rows rfl rfl
    refine holds_of_same_versions member ?_ ?_ ?_ empty
    all_goals rfl
  have dropped
      : Ends
          ([Constraint.uqDocumentsContentHash, .uqDocumentsStorageObjectKey,
            .ckDocumentsByteSizeNonNegative, .ckLegacyDocumentsStatusValid].forM dropConstraint)
          ⟨ownedTables database organizationId actorUserId assigned,
            legacyConstraints ++ versionConstraints⟩ ()
          ⟨ownedTables database organizationId actorUserId assigned,
            [.documentsColumnTypes, .pkDocuments] ++ legacyColumns.map Constraint.notNull
              ++ versionConstraints⟩ :=
    Ends.dropConstraints (by decide) (by decide)
  have cleared
      : Ends (legacyColumns.forM dropColumn)
          ⟨ownedTables database organizationId actorUserId assigned,
            [.documentsColumnTypes, .pkDocuments] ++ legacyColumns.map Constraint.notNull
              ++ versionConstraints ++ tenantConstraints⟩ ()
          ⟨upgradedTables database organizationId actorUserId assigned,
            upgradedConstraints⟩ := by
    have rows
        : onDocuments (clearColumns legacyColumns)
            (ownedTables database organizationId actorUserId assigned)
          = upgradedTables database organizationId actorUserId assigned := by
      simp only [onDocuments, ownedTables, upgradedTables, List.map_map]
      rfl
    exact rows ▸ dropColumns_ends
  refine Ends.bind Ends.query (Ends.bind (addColumns_ends ?_) (Ends.bind locked
    (Ends.bind created (Ends.bind loop (Ends.bind dropped
    (Ends.bind (Ends.createConstraints ?_) (Ends.bind cleared (Ends.commit ?_))))))))
  · intro row member column listed
    obtain ⟨document, -, rfl⟩ := List.mem_map.mp member
    simp only [List.mem_cons, List.not_mem_nil, or_false] at listed
    rcases listed with rfl | rfl | rfl | rfl | rfl | rfl | rfl | rfl | rfl
    all_goals rfl
  · exact fun constraint member => holds_of_upgraded owned owner constraint
      (List.mem_append_right _ member)
  · exact holds_of_upgraded tenant owner

end WorkflowForge.Migrations
