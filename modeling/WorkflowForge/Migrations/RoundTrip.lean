import WorkflowForge.Migrations.Upgrade

/-! The downgrade of migration 0008 restores the legacy rows. -/

namespace WorkflowForge.Migrations

open Python Ddl

-----------------------------------------------------------------------------------------
-- The downgrade
-----------------------------------------------------------------------------------------

/-- A document finds its own first version. -/
theorem find_version {organizationId actorUserId : UUID} {assigned : List Assigned}
    {entry : Assigned} (fresh : (assigned.map Prod.snd).Nodup) (listed : entry ∈ assigned)
    : (assigned.map (versionRow organizationId actorUserId)).find? (fun version =>
          (tenantRow organizationId actorUserId entry).currentVersionId == some version.id)
        = some (versionRow organizationId actorUserId entry) := by
  induction assigned with
  | nil => cases listed
  | cons first rest ih =>
      obtain ⟨new, fresh⟩ := List.nodup_cons.mp fresh
      rcases List.mem_cons.mp listed with rfl | later
      · exact List.find?_cons_of_pos (beq_self_eq_true _)
      · have different : entry.2 ≠ first.2 :=
          fun same => new (same ▸ List.mem_map_of_mem later)
        rw [List.map_cons, List.find?_cons_of_neg, ih fresh later]
        simpa [tenantRow, ownedRow, assignOwner, versionRow, firstVersion] using different

/-- Every document takes back the columns that it gave to its first version. -/
theorem takeBack_upgradedTables {database : LegacyDatabase} {organizationId actorUserId : UUID}
    {assigned : List Assigned} (fresh : (assigned.map Prod.snd).Nodup)
    : onDocuments
          (takeBack (upgradedTables database organizationId actorUserId assigned).versions)
          (upgradedTables database organizationId actorUserId assigned)
        = ownedTables database organizationId actorUserId assigned := by
  have rows
      : (assigned.map (tenantRow organizationId actorUserId)).map
            (takeBack (assigned.map (versionRow organizationId actorUserId)))
          = assigned.map (ownedRow organizationId actorUserId) := by
    rw [List.map_map]
    refine List.map_congr_left fun entry listed => ?_
    rw [Function.comp_apply, takeBack, find_version fresh listed]
    rfl
  simp only [onDocuments, upgradedTables, ownedTables, rows]

/-- The downgrade leads from the upgraded schema back to the legacy database. -/
theorem downgrade_ends {database : LegacyDatabase} {organizationId actorUserId : UUID}
    {assigned : List Assigned}
    (legacy : assigned.map Prod.fst = database.documents)
    (fresh : (assigned.map Prod.snd).Nodup)
    (owner
      : database.documents ≠ []
        → organizationId ∈ database.organizations ∧ actorUserId ∈ database.users)
    : Ends downgrade
        ⟨upgradedTables database organizationId actorUserId assigned, upgradedConstraints⟩ ()
        database.catalog := by
  have owned := @upgraded_ownedTables database organizationId actorUserId _ legacy fresh
  have back
      : Ends (execute (fun tables => onDocuments (takeBack tables.versions) tables))
          ⟨upgradedTables database organizationId actorUserId assigned, upgradedConstraints⟩ ()
          ⟨ownedTables database organizationId actorUserId assigned, upgradedConstraints⟩ := by
    have restored := @takeBack_upgradedTables database organizationId actorUserId _ fresh
    rw [← restored]
    refine Ends.execute fun constraint member _ => ?_
    rw [restored]
    exact holds_of_upgraded owned owner constraint member
  have dropped
      : Ends
          ([Constraint.fkDocumentsOrganizationCurrentVersionDocumentVersions,
            .fkDocumentVersionsOrganizationDocumentDocuments, .uqDocumentsOrganizationIdId,
            .fkDocumentsUpdatedByUserIdUsers, .fkDocumentsCreatedByUserIdUsers,
            .fkDocumentsArchivedByUserIdUsers, .fkDocumentsOrganizationIdOrganizations,
            .ckDocumentsArchiveStateConsistent, .ckDocumentsLockVersionPositive,
            .ckDocumentsSourceTypeValid, .ckDocumentsStatusValid].forM dropConstraint)
          ⟨ownedTables database organizationId actorUserId assigned,
            upgradedConstraints ++ legacyColumns.map Constraint.notNull⟩ ()
          ⟨ownedTables database organizationId actorUserId assigned,
            [.documentsColumnTypes, .pkDocuments] ++ versionConstraints
              ++ [.notNull .organizationId, .notNull .displayFilename, .notNull .sourceType,
                .notNull .currentVersionId, .notNull .createdByUserId,
                .notNull .updatedByUserId, .notNull .lockVersion]
              ++ legacyColumns.map Constraint.notNull⟩ :=
    Ends.dropConstraints (by decide) (by decide)
  have cleared
      : Ends
          ([DocumentsColumn.lockVersion, .updatedByUserId, .createdByUserId, .archivedByUserId,
            .archivedAt, .currentVersionId, .sourceReference, .sourceType, .displayFilename,
            .organizationId].forM dropColumn)
          ⟨ownedTables database organizationId actorUserId assigned,
            [.documentsColumnTypes, .pkDocuments] ++ versionConstraints
              ++ [.notNull .organizationId, .notNull .displayFilename, .notNull .sourceType,
                .notNull .currentVersionId, .notNull .createdByUserId,
                .notNull .updatedByUserId, .notNull .lockVersion]
              ++ legacyColumns.map Constraint.notNull
              ++ [.ckDocumentsByteSizeNonNegative, .ckLegacyDocumentsStatusValid,
                .uqDocumentsContentHash, .uqDocumentsStorageObjectKey]⟩ ()
          ⟨{ database.tables with
              versions := assigned.map (versionRow organizationId actorUserId) },
            [.documentsColumnTypes, .pkDocuments] ++ versionConstraints
              ++ legacyColumns.map Constraint.notNull
              ++ [.ckDocumentsByteSizeNonNegative, .ckLegacyDocumentsStatusValid,
                .uqDocumentsContentHash, .uqDocumentsStorageObjectKey]⟩ := by
    have rows
        : onDocuments
              (clearColumns [.lockVersion, .updatedByUserId, .createdByUserId,
                .archivedByUserId, .archivedAt, .currentVersionId, .sourceReference,
                .sourceType, .displayFilename, .organizationId])
              (ownedTables database organizationId actorUserId assigned)
            = { database.tables with
                versions := assigned.map (versionRow organizationId actorUserId) } := by
      have documents
          : assigned.map (LegacyDocument.row ∘ Prod.fst)
            = database.documents.map LegacyDocument.row := by
        rw [← List.map_map, legacy]
      simp only [onDocuments, ownedTables, upgradedTables, LegacyDatabase.tables,
        List.map_map, ← documents]
      rfl
    exact rows ▸ dropColumns_ends
  have holds := owned.backfilling.holds_legacy
  refine Ends.bind (addColumns_ends ?_) (Ends.bind back (Ends.bind
    (Ends.createConstraints ?_) (Ends.bind dropped (Ends.bind (Ends.createConstraints ?_)
    (Ends.bind cleared (Ends.bind Ends.drop (Ends.commit ?_)))))))
  · intro row member column listed
    obtain ⟨entry, -, rfl⟩ := List.mem_map.mp member
    simp only [List.mem_cons, List.not_mem_nil, or_false] at listed
    rcases listed with rfl | rfl | rfl | rfl | rfl
    all_goals rfl
  · exact fun constraint member => holds constraint
      (List.mem_append_right [.documentsColumnTypes, .pkDocuments]
        (List.mem_append_left _ member))
  · intro constraint member
    refine holds constraint ?_
    revert constraint
    decide
  · exact database.valid

/-- The upgrade of a legacy database with an unambiguous owner violates no constraint, and
the downgrade of its result restores the database, row by row.
Witness: the loop's invariant up to the upgraded schema, and the join on the current version
back. -/
theorem upgrade_then_downgrade {database : LegacyDatabase} {uuid4 : Nat → UUID}
    (fresh : Function.Injective uuid4)
    (unambiguous : database.documents ≠ [] → database.OwnerUnambiguous)
    : ∃ upgraded,
        Ends (upgrade uuid4) database.catalog () upgraded
        ∧ (∀ constraint ∈ upgraded.constraints, constraint.Holds upgraded.tables)
        ∧ Ends downgrade upgraded () database.catalog := by
  obtain ⟨organizationId, actorUserId, owner, up⟩ := upgrade_ends fresh unambiguous
  have legacy := map_fst_assign uuid4 0 database.documents
  have distinct := nodup_snd_assign fresh 0 database.documents
  exact ⟨_, up, holds_of_upgraded (upgraded_upgradedTables legacy distinct) owner,
    downgrade_ends legacy distinct owner⟩

-----------------------------------------------------------------------------------------
-- A sample database
-----------------------------------------------------------------------------------------

/-- A legacy row whose hash repeats one digit. -/
def sampleDocument (id : UUID) (digit : Char) : LegacyDocument where
  id := id
  originalFilename := "legacy.pdf".toList
  mediaType := "application/pdf".toList
  byteSize := 123
  contentHash := List.replicate 64 digit
  storageObjectKey :=
    "documents/sha256/".toList ++ digit :: digit :: '/' :: digit :: digit :: '/'
      :: List.replicate 64 digit
  status := "stored"
  createdAt := 5
  updatedAt := 6

/-- One organization with one active owner, and two documents. -/
def sampleDatabase : LegacyDatabase where
  organizations := [3]
  users := [20, 21]
  memberships := [{
    id := 10
    userId := 20
    organizationId := 3
    role := .owner
    status := .active
    createdAt := 0
    updatedAt := 0
    joinedAt := some 0
  }]
  documents := [sampleDocument 1 'a', sampleDocument 2 'b']
  memberUsers := by decide
  valid := by decide

theorem sample_unambiguous : sampleDatabase.OwnerUnambiguous := ⟨3, rfl, .inl rfl⟩

theorem sample_upgrade_then_downgrade
    : ∃ upgraded,
        Ends (upgrade (fun drawn => 100 + drawn)) sampleDatabase.catalog () upgraded
        ∧ (∀ constraint ∈ upgraded.constraints, constraint.Holds upgraded.tables)
        ∧ Ends downgrade upgraded () sampleDatabase.catalog :=
  upgrade_then_downgrade (fun _ _ same => Nat.add_left_cancel same)
    (fun _ => sample_unambiguous)

end WorkflowForge.Migrations
