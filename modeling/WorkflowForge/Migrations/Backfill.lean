import WorkflowForge.Migrations.DocumentTenancy

/-! The loop of migration 0008 over the legacy rows, and the constraints in force meanwhile. -/

namespace WorkflowForge.Migrations

open Python Ddl

-----------------------------------------------------------------------------------------
-- The rows on the way
-----------------------------------------------------------------------------------------

/-- A legacy row with the identifier of its first version. -/
abbrev Assigned := LegacyDocument × UUID

/-- The identifiers that the loop draws for the rows. -/
def assign (uuid4 : Nat → UUID) : Nat → List LegacyDocument → List Assigned
  | _, [] => []
  | drawn, document :: documents =>
      (document, uuid4 drawn) :: assign uuid4 (drawn + 1) documents

theorem map_fst_assign (uuid4 : Nat → UUID) (drawn : Nat) (documents : List LegacyDocument)
    : (assign uuid4 drawn documents).map Prod.fst = documents := by
  induction documents generalizing drawn with
  | nil => rfl
  | cons document documents ih => simp [assign, ih]

theorem snd_of_mem_assign {uuid4 : Nat → UUID} {drawn : Nat} {documents : List LegacyDocument}
    {assigned : Assigned} (member : assigned ∈ assign uuid4 drawn documents)
    : ∃ draw, drawn ≤ draw ∧ assigned.2 = uuid4 draw := by
  induction documents generalizing drawn with
  | nil => cases member
  | cons document documents ih =>
      rcases List.mem_cons.mp member with rfl | rest
      · exact ⟨drawn, le_refl _, rfl⟩
      · obtain ⟨draw, bound, same⟩ := ih rest
        exact ⟨draw, by omega, same⟩

/-- Distinct draws give distinct version identifiers. -/
theorem nodup_snd_assign {uuid4 : Nat → UUID} (fresh : Function.Injective uuid4) (drawn : Nat)
    (documents : List LegacyDocument)
    : ((assign uuid4 drawn documents).map Prod.snd).Nodup := by
  induction documents generalizing drawn with
  | nil => exact List.nodup_nil
  | cons document documents ih =>
      refine List.nodup_cons.mpr ⟨fun again => ?_, ih (drawn + 1)⟩
      obtain ⟨assigned, member, same⟩ := List.mem_map.mp again
      obtain ⟨draw, bound, drawn'⟩ := snd_of_mem_assign member
      have equal : draw = drawn := fresh (drawn'.symm.trans same)
      omega

/-- The row between the added columns and the loop. -/
def lockedRow (document : LegacyDocument) : DocumentsRow :=
  { document.row with lockVersion := some 1 }

section

variable (organizationId actorUserId : UUID)

/-- The row after its turn in the loop, still with the legacy columns. -/
def ownedRow (assigned : Assigned) : DocumentsRow :=
  assignOwner organizationId actorUserId assigned.2 (some assigned.1.originalFilename)
    assigned.1.row

/-- The row of the upgraded schema. -/
def tenantRow (assigned : Assigned) : DocumentsRow :=
  { ownedRow organizationId actorUserId assigned with
    originalFilename := none
    mediaType := none
    byteSize := none
    contentHash := none
    storageObjectKey := none }

def versionRow (assigned : Assigned) : VersionsRow :=
  firstVersion organizationId actorUserId assigned.2 assigned.1.row

end

-----------------------------------------------------------------------------------------
-- What the legacy schema promises
-----------------------------------------------------------------------------------------

namespace LegacyDatabase

variable (database : LegacyDatabase)

theorem fits : ∀ document ∈ database.documents, document.row.Fits := by
  have valid := database.valid .documentsColumnTypes (by decide)
  exact fun document member => valid _ (List.mem_map_of_mem member)

theorem byteSize_nonneg : ∀ document ∈ database.documents, 0 ≤ document.byteSize := by
  have valid := database.valid .ckDocumentsByteSizeNonNegative (by decide)
  exact fun document member => valid _ (List.mem_map_of_mem member) _ rfl

theorem status_valid
    : ∀ document ∈ database.documents, document.status ∈ ["registered", "stored", "failed"] := by
  have valid := database.valid .ckLegacyDocumentsStatusValid (by decide)
  exact fun document member => valid _ (List.mem_map_of_mem member)

theorem ids_nodup : (database.documents.map LegacyDocument.id).Nodup := by
  have valid := database.valid .pkDocuments (by decide)
  simpa [Constraint.Holds, Function.comp_def, LegacyDocument.row] using valid

theorem hashes_nodup : (database.documents.map LegacyDocument.contentHash).Nodup := by
  have valid := database.valid .uqDocumentsContentHash (by decide)
  simpa [Constraint.Holds, List.filterMap_map, Function.comp_def, LegacyDocument.row]
    using valid

theorem keys_nodup : (database.documents.map LegacyDocument.storageObjectKey).Nodup := by
  have valid := database.valid .uqDocumentsStorageObjectKey (by decide)
  simpa [Constraint.Holds, List.filterMap_map, Function.comp_def, LegacyDocument.row]
    using valid

end LegacyDatabase

-----------------------------------------------------------------------------------------
-- The constraints in force during the loop
-----------------------------------------------------------------------------------------

/-- Some rows had their turn, the others are as they were; there are first versions of some
of the rows. -/
structure Backfilling (database : LegacyDatabase) (organizationId actorUserId : UUID)
    (tables : Tables) (done : List Assigned) (waiting : List LegacyDocument)
    (versioned : List Assigned)
    : Prop where
  organizations : tables.organizations = database.organizations
  users : tables.users = database.users
  memberships : tables.memberships = database.memberships
  documents
    : tables.documents
      = done.map (ownedRow organizationId actorUserId) ++ waiting.map lockedRow
  versions : tables.versions = versioned.map (versionRow organizationId actorUserId)
  legacy : done.map Prod.fst ++ waiting = database.documents
  sources : (versioned.map Prod.fst).Sublist database.documents
  fresh : (versioned.map Prod.snd).Nodup

namespace Backfilling

variable {database : LegacyDatabase} {organizationId actorUserId : UUID} {tables : Tables}
  {done versioned : List Assigned} {waiting : List LegacyDocument}

theorem done_mem {assigned : Assigned}
    (state : Backfilling database organizationId actorUserId tables done waiting versioned)
    (member : assigned ∈ done)
    : assigned.1 ∈ database.documents := by
  rw [← state.legacy]
  exact List.mem_append_left _ (List.mem_map_of_mem member)

theorem waiting_mem {document : LegacyDocument}
    (state : Backfilling database organizationId actorUserId tables done waiting versioned)
    (member : document ∈ waiting)
    : document ∈ database.documents := by
  rw [← state.legacy]
  exact List.mem_append_right _ member

theorem versioned_mem {assigned : Assigned}
    (state : Backfilling database organizationId actorUserId tables done waiting versioned)
    (member : assigned ∈ versioned)
    : assigned.1 ∈ database.documents :=
  state.sources.subset (List.mem_map_of_mem member)

/-- What holds of both kinds of rows of each legacy document holds of all rows. -/
theorem forall_documents {property : DocumentsRow → Prop}
    (state : Backfilling database organizationId actorUserId tables done waiting versioned)
    (each
      : ∀ document ∈ database.documents,
          (∀ versionId, property (ownedRow organizationId actorUserId (document, versionId)))
          ∧ property (lockedRow document))
    : ∀ row ∈ tables.documents, property row := by
  intro row member
  rw [state.documents] at member
  rcases List.mem_append.mp member with owned | locked
  · obtain ⟨assigned, listed, rfl⟩ := List.mem_map.mp owned
    exact (each assigned.1 (state.done_mem listed)).1 assigned.2
  · obtain ⟨document, listed, rfl⟩ := List.mem_map.mp locked
    exact (each document (state.waiting_mem listed)).2

theorem forall_versions {property : VersionsRow → Prop}
    (state : Backfilling database organizationId actorUserId tables done waiting versioned)
    (each
      : ∀ document ∈ database.documents, ∀ versionId,
          property (versionRow organizationId actorUserId (document, versionId)))
    : ∀ row ∈ tables.versions, property row := by
  intro row member
  rw [state.versions] at member
  obtain ⟨assigned, listed, rfl⟩ := List.mem_map.mp member
  exact each assigned.1 (state.versioned_mem listed) assigned.2

/-- The rows keep the legacy documents' keys, so unique keys stay unique. -/
theorem nodup_documents {α : Type} {key : LegacyDocument → α} {column : DocumentsRow → Option α}
    (state : Backfilling database organizationId actorUserId tables done waiting versioned)
    (owned
      : ∀ assigned,
          column (ownedRow organizationId actorUserId assigned) = some (key assigned.1))
    (locked : ∀ document, column (lockedRow document) = some (key document))
    (distinct : (database.documents.map key).Nodup)
    : (tables.documents.filterMap column).Nodup := by
  have same : tables.documents.filterMap column = database.documents.map key := by
    rw [state.documents, ← state.legacy]
    simp [List.filterMap_map, Function.comp_def, owned, locked]
  exact same ▸ distinct

/-- First versions of distinct documents are distinct in each key of the documents. -/
theorem nodup_versions {α β : Type} {key : LegacyDocument → α} {column : VersionsRow → β}
    (state : Backfilling database organizationId actorUserId tables done waiting versioned)
    (reads
      : ∀ first second,
          column (versionRow organizationId actorUserId first)
              = column (versionRow organizationId actorUserId second)
          → key first.1 = key second.1)
    (distinct : (database.documents.map key).Nodup)
    : (tables.versions.map column).Nodup := by
  have keys : (versioned.map (fun assigned => key assigned.1)).Nodup := by
    have sub := (state.sources.map key).nodup distinct
    simpa [Function.comp_def] using sub
  rw [state.versions, List.map_map]
  exact (List.pairwise_map.mp keys).map _
    (fun first second different same => different (reads first second same))

theorem fitsInteger_one : fitsInteger 32 (some 1) := by decide

/-- The tenant columns fit their types when the legacy columns do. -/
theorem fits_ownedRow {document : LegacyDocument} (versionId : UUID)
    (fits : document.row.Fits)
    : (ownedRow organizationId actorUserId (document, versionId)).Fits := by
  obtain ⟨filename, mediaType, byteSize, hash, key, status, -, -, -, -⟩ := fits
  have upload : fitsVarchar 32 (some "upload".toList) := by decide
  exact ⟨filename, mediaType, byteSize, hash, key, status, filename, upload, nofun,
    fitsInteger_one⟩

theorem fits_lockedRow {document : LegacyDocument} (fits : document.row.Fits)
    : (lockedRow document).Fits := by
  obtain ⟨filename, mediaType, byteSize, hash, key, status, display, source, reference, -⟩ :=
    fits
  exact ⟨filename, mediaType, byteSize, hash, key, status, display, source, reference,
    fitsInteger_one⟩

theorem fits_versionRow {document : LegacyDocument} (versionId : UUID)
    (fits : document.row.Fits)
    : (versionRow organizationId actorUserId (document, versionId)).Fits := by
  obtain ⟨filename, mediaType, byteSize, hash, key, -, -, -, -, -⟩ := fits
  refine ⟨fitsInteger_one, filename, mediaType, byteSize, hash, key, ?_⟩
  change (legacyStorageState document.status).length ≤ 32
  unfold legacyStorageState
  repeat' split
  all_goals decide

/-- The legacy constraints do not look at the tenant columns. -/
theorem holds_legacy
    (state : Backfilling database organizationId actorUserId tables done waiting versioned)
    : ∀ constraint ∈ legacyConstraints, constraint.Holds tables := by
  intro constraint member
  simp only [legacyConstraints, List.mem_cons, List.not_mem_nil, or_false] at member
  rcases member with rfl | rfl | rfl | rfl | rfl | rfl | rfl | rfl | rfl | rfl | rfl
  · exact state.forall_documents fun document listed =>
      ⟨fun versionId => fits_ownedRow versionId (database.fits document listed),
        fits_lockedRow (database.fits document listed)⟩
  · have distinct : (tables.documents.filterMap (fun row => some row.id)).Nodup :=
      state.nodup_documents (fun _ => rfl) (fun _ => rfl) database.ids_nodup
    simpa [Constraint.Holds] using distinct
  iterate 5 exact state.forall_documents fun _ _ => ⟨fun _ => rfl, rfl⟩
  · refine state.forall_documents fun document listed => ⟨fun versionId => ?_, ?_⟩
    all_goals
      intro size given
      obtain rfl := Option.mem_some.mp given
      exact database.byteSize_nonneg document listed
  · exact state.forall_documents fun document listed =>
      ⟨fun _ => database.status_valid document listed, database.status_valid document listed⟩
  · exact state.nodup_documents (fun _ => rfl) (fun _ => rfl) database.hashes_nodup
  · exact state.nodup_documents (fun _ => rfl) (fun _ => rfl) database.keys_nodup

/-- The first versions satisfy the constraints of their table. -/
theorem holds_versions
    (state : Backfilling database organizationId actorUserId tables done waiting versioned)
    (organization : organizationId ∈ database.organizations)
    (actor : actorUserId ∈ database.users)
    : ∀ constraint ∈ versionConstraints, constraint.Holds tables := by
  intro constraint member
  simp only [versionConstraints, List.mem_cons, List.not_mem_nil, or_false] at member
  rcases member with rfl | rfl | rfl | rfl | rfl | rfl | rfl | rfl | rfl | rfl | rfl
  · exact state.forall_versions fun document listed versionId =>
      fits_versionRow versionId (database.fits document listed)
  · exact state.forall_versions fun _ _ _ => Int.one_pos
  · exact state.forall_versions fun document listed _ =>
      database.byteSize_nonneg document listed
  · refine state.forall_versions fun document _ _ => ?_
    change legacyStorageState document.status ∈ ["pending", "stored", "failed"]
    unfold legacyStorageState
    repeat' split
    all_goals decide
  · refine state.forall_versions fun _ _ _ => ?_
    rw [state.organizations]
    exact organization
  · refine state.forall_versions fun _ _ _ => ?_
    rw [state.users]
    exact actor
  · have distinct := state.fresh
    simpa [Constraint.Holds, state.versions, Function.comp_def, versionRow, firstVersion]
      using distinct
  · have distinct := state.fresh
    simp only [Constraint.Holds, state.versions, List.map_map]
    exact (List.pairwise_map.mp distinct).map _
      (fun _ _ different same => different (Prod.mk.inj same).2)
  · exact state.nodup_versions (fun _ _ same => (Prod.mk.inj same).1) database.ids_nodup
  · exact state.nodup_versions (fun _ _ same => (Prod.mk.inj same).2) database.hashes_nodup
  · exact state.nodup_versions (fun _ _ same => (Prod.mk.inj same).2) database.keys_nodup

theorem immediate
    (state : Backfilling database organizationId actorUserId tables done waiting versioned)
    (organization : organizationId ∈ database.organizations)
    (actor : actorUserId ∈ database.users)
    : ∀ constraint ∈ legacyConstraints ++ versionConstraints, constraint.Holds tables := by
  intro constraint member
  rcases List.mem_append.mp member with legacy | version
  · exact state.holds_legacy constraint legacy
  · exact state.holds_versions organization actor constraint version

/-- The INSERT of a row's first version. -/
theorem insert {document : LegacyDocument} {versionId : UUID}
    (state
      : Backfilling database organizationId actorUserId tables done (document :: waiting) done)
    (new : versionId ∉ done.map Prod.snd)
    : Backfilling database organizationId actorUserId
        { tables with
          versions :=
            tables.versions
              ++ [firstVersion organizationId actorUserId versionId (lockedRow document)] }
        done (document :: waiting) (done ++ [(document, versionId)]) := by
  refine { state with versions := ?_, sources := ?_, fresh := ?_ }
  · rw [state.versions, List.map_append]
    rfl
  · have front : (done.map Prod.fst ++ [document]).Sublist database.documents := by
      rw [← state.legacy, List.append_cons _ document waiting]
      exact List.sublist_append_left _ _
    simpa using front
  · rw [List.map_append, List.map_singleton]
    exact List.nodup_append.mpr
      ⟨state.fresh, List.nodup_singleton _, fun first member second only same => new (by
        obtain rfl := List.mem_singleton.mp only
        exact same ▸ member)⟩

/-- The UPDATE of a row touches that row alone. -/
theorem update {document : LegacyDocument} (versionId : UUID)
    (state
      : Backfilling database organizationId actorUserId tables done (document :: waiting)
          versioned)
    : Backfilling database organizationId actorUserId
        (onDocuments (fun row =>
          if row.id = (lockedRow document).id then
            assignOwner organizationId actorUserId versionId
              (lockedRow document).originalFilename row
          else row) tables)
        (done ++ [(document, versionId)]) waiting versioned := by
  have distinct := database.ids_nodup
  rw [← state.legacy, List.map_append, List.map_cons] at distinct
  obtain ⟨-, distinctRest, apart⟩ := List.nodup_append.mp distinct
  have waits := (List.nodup_cons.mp distinctRest).1
  refine { state with documents := ?_, legacy := ?_ }
  · have front
        : ∀ assigned ∈ done, (ownedRow organizationId actorUserId assigned).id
            ≠ (lockedRow document).id := by
      intro assigned member
      exact apart _ (List.mem_map_of_mem (List.mem_map_of_mem member)) _ List.mem_cons_self
    have back : ∀ other ∈ waiting, (lockedRow other).id ≠ (lockedRow document).id := by
      intro other member same
      exact waits (List.mem_map.mpr ⟨other, member, same⟩)
    simp only [onDocuments, state.documents, List.map_append, List.map_cons, List.map_map,
      List.map_nil, List.append_assoc]
    congr 1
    · exact List.map_congr_left fun assigned member => if_neg (front assigned member)
    · refine congrArg₂ List.cons (if_pos trivial) ?_
      exact List.map_congr_left fun other member => if_neg (back other member)
  · rw [List.map_append, List.append_assoc]
    exact state.legacy

end Backfilling

/-- The loop gives each waiting row its first version and its tenant columns. -/
theorem backfill_ends {database : LegacyDatabase} {uuid4 : Nat → UUID}
    {organizationId actorUserId : UUID}
    (organization : organizationId ∈ database.organizations)
    (actor : actorUserId ∈ database.users)
    {waiting : List LegacyDocument} {done : List Assigned} {tables : Tables} {drawn : Nat}
    (state : Backfilling database organizationId actorUserId tables done waiting done)
    (fresh : ((done ++ assign uuid4 drawn waiting).map Prod.snd).Nodup)
    : ∃ after,
        Ends (backfill uuid4 organizationId actorUserId drawn (waiting.map lockedRow))
          ⟨tables, legacyConstraints ++ versionConstraints⟩ ()
          ⟨after, legacyConstraints ++ versionConstraints⟩
        ∧ Backfilling database organizationId actorUserId after
            (done ++ assign uuid4 drawn waiting) [] (done ++ assign uuid4 drawn waiting) := by
  induction waiting generalizing done tables drawn with
  | nil => exact ⟨tables, Ends.pure, by simpa [assign] using state⟩
  | cons document waiting ih =>
      have new : uuid4 drawn ∉ done.map Prod.snd := by
        intro member
        rw [List.map_append] at fresh
        exact (List.nodup_append.mp fresh).2.2 _ member _ List.mem_cons_self rfl
      have inserted := state.insert new
      have updated := inserted.update (uuid4 drawn)
      rw [assign, List.append_cons] at fresh ⊢
      obtain ⟨after, rest, final⟩ := ih updated fresh
      refine ⟨after, Ends.bind (Ends.execute fun constraint member _ => ?_)
        (Ends.bind (Ends.execute fun constraint member _ => ?_) rest), final⟩
      · exact inserted.immediate organization actor constraint member
      · exact updated.immediate organization actor constraint member

end WorkflowForge.Migrations
