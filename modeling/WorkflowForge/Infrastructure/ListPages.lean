import WorkflowForge.Infrastructure.BatchRepository
import WorkflowForge.Infrastructure.CaseRepository
import WorkflowForge.Infrastructure.Constraints
import WorkflowForge.Infrastructure.RecordRoundTrips
import WorkflowForge.Infrastructure.Returns
import WorkflowForge.Ordering.Pages
import WorkflowForge.Python.Ascii

/-! The pages of the list queries, read one after another from one database state. -/

namespace WorkflowForge

open Python Transactions Concurrency Pages

-----------------------------------------------------------------------------------------
-- The order of a list
-----------------------------------------------------------------------------------------

section Newest

variable {α : Type} (createdAt : α → Timestamp) (id : α → UUID)

/-- `first` is listed before `second`. -/
def Newer (first second : α) : Prop :=
  createdAt second < createdAt first
  ∨ createdAt first = createdAt second ∧ id second < id first

theorem newestFirst_perm (rows : List α) : (newestFirst createdAt id rows).Perm rows :=
  List.mergeSort_perm rows _

theorem mem_newestFirst {rows : List α} {row : α}
    : row ∈ newestFirst createdAt id rows ↔ row ∈ rows :=
  (newestFirst_perm createdAt id rows).mem_iff

/-- The comparison of the ORDER BY clause, on numbers. -/
def before (time time' : Int) (key key' : Nat) : Bool :=
  decide (time' < time) || (time == time' && decide (key' ≤ key))

theorem before_iff {time time' : Int} {key key' : Nat}
    : before time time' key key' = true ↔ time' < time ∨ time = time' ∧ key' ≤ key := by
  simp [before]

theorem before_trans {time time' time'' : Int} {key key' key'' : Nat}
    (early : before time time' key key' = true) (late : before time' time'' key' key'' = true)
    : before time time'' key key'' = true := by
  rw [before_iff] at early late ⊢
  omega

theorem before_total (time time' : Int) (key key' : Nat)
    : (before time time' key key' || before time' time key' key) = true := by
  rw [Bool.or_eq_true, before_iff, before_iff]
  omega

theorem before_strict {time time' : Int} {key key' : Nat}
    (ordered : before time time' key key' = true) (different : key ≠ key')
    : time' < time ∨ time = time' ∧ key' < key := by
  rw [before_iff] at ordered
  omega

/-- Rows with different ids are listed in a strict order, also when their times tie. -/
theorem newestFirst_ordered {rows : List α} (distinct : (rows.map id).Nodup)
    : (newestFirst createdAt id rows).Pairwise (Newer createdAt id) := by
  have sorted : (newestFirst createdAt id rows).Pairwise (fun first second =>
      before (createdAt first) (createdAt second) (id first) (id second) = true) :=
    @List.pairwise_mergeSort α
      (fun first second =>
        before (createdAt first) (createdAt second) (id first) (id second))
      (fun _ _ _ => before_trans) (fun _ _ => before_total ..) rows
  have apart
      : (newestFirst createdAt id rows).Pairwise (fun first second => id first ≠ id second) :=
    List.pairwise_map.mp
      (((newestFirst_perm createdAt id rows).map id).nodup_iff.mpr distinct)
  exact (sorted.and apart).imp (fun both => before_strict both.1 both.2)

end Newest

-----------------------------------------------------------------------------------------
-- Joins by a key
-----------------------------------------------------------------------------------------

/-- Rows of one key are at most one where keys are distinct. -/
theorem length_le_one {β κ : Type} {key : β → κ} {k : κ} {chosen rows : List β}
    (part : chosen.Sublist rows) (distinct : (rows.map key).Nodup)
    (same : ∀ row ∈ chosen, key row = k)
    : chosen.length ≤ 1 := by
  have keys : chosen.map key = List.replicate chosen.length k :=
    List.eq_replicate_iff.mpr ⟨List.length_map key, by simpa using same⟩
  have apart := (part.map key).nodup distinct
  rw [keys, List.nodup_replicate] at apart
  exact apart

/-- Joining each row with one other at most repeats no row, by induction on the rows. -/
theorem join_sublist {α β κ : Type} (key : α → κ) (rows : List α) (others : α → List β)
    (single : ∀ row, (others row).length ≤ 1)
    : ((rows.flatMap (fun row => (others row).map (fun other => (row, other)))).map
        (fun entry => key entry.1)).Sublist (rows.map key) := by
  induction rows with
  | nil => exact .slnil
  | cons row rest ih =>
      have joined : ((others row).map (fun other => (row, other))).map (fun entry => key entry.1)
          = List.replicate (others row).length (key row) := by
        simp [List.map_const', Function.comp_def]
      have few := single row
      rw [List.flatMap_cons, List.map_append, joined]
      match (others row).length, few with
      | 0, _ => exact ih.cons (key row)
      | 1, _ => exact ih.cons_cons (key row)

-----------------------------------------------------------------------------------------
-- Reading page after page
-----------------------------------------------------------------------------------------

/-- Calls at the offsets `0`, `limit`, `2 * limit`, … return the pages of `items`. Each call
runs in some world in which the session sees `db`. -/
structure PagedFrom {β : Type} (i : Nat) (db : Database) (port : Port) (limit : Nat)
    (call : Int → App (ListPage β)) (createdAt : β → Timestamp) (id : β → UUID)
    (items : List β)
    : Prop where
  pages
    : ∃ pages : Nat → ListPage β,
        (∀ number world, world.store.view i = db → world.refuses port = false
          → ∃ after, Yields i (call ↑(number * limit)) world (pages number) after
            ∧ after.store.view i = db)
        ∧ (∀ number, (pages number).total = items.length)
        ∧ ∀ count, items.length / limit < count
            → (List.range count).flatMap (fun number => (pages number).items) = items
  once : (items.map id).Nodup
  ordered : items.Pairwise (Newer createdAt id)

theorem page_eq {α : Type} (rows : List α) (limit number : Nat)
    : page ↑limit ↑(number * limit) rows = .ok (pageAt rows limit number) := by
  have valid : ¬ ((limit : Int) < 0 ∨ ((number * limit : Nat) : Int) < 0) := by omega
  rw [page, if_neg valid]
  rfl

section Listed

variable {α β : Type} {i : Nat} {port : Port} {query : Query}

/-- The body shared by the list methods: a SELECT for the total, one for the page. -/
def listed (port : Port) (query : Query) (rows : Database → List α)
    (load : List α → Except Exn (List β)) (limit offset : Int)
    : App (ListPage β) := do
  enter port
  let counted ← select query
  let total := (rows counted).length
  let db ← select query
  let chosen ← liftExcept (page limit offset (rows db))
  let items ← liftExcept (load chosen)
  return { items, total, limit, offset }

theorem listed_yields {world : World} {rows : Database → List α} {limit number : Nat}
    {load : List α → Except Exn (List β)} {items : List β} (quiet : world.refuses port = false)
    (loads : load (pageAt (rows (world.store.view i)) limit number) = .ok items)
    : ∃ after,
        Yields i (listed port query rows load ↑limit ↑(number * limit)) world
          {
            items
            total := (rows (world.store.view i)).length
            limit := limit
            offset := ↑(number * limit)
          } after
        ∧ after.store.view i = world.store.view i := by
  refine ⟨((world.entering port).selecting i).selecting i, ?_, rfl⟩
  unfold listed
  rw [Yields.selected_iff]
  refine ⟨quiet, Returns.bind_iff.mpr ⟨_, _, Yields.select_iff.mpr ⟨rfl, rfl⟩, ?_⟩⟩
  refine Returns.bind_iff.mpr ⟨_, _, Yields.liftExcept_iff.mpr ⟨page_eq _ limit number, rfl⟩, ?_⟩
  exact Returns.bind_iff.mpr ⟨_, _, Yields.liftExcept_iff.mpr ⟨loads, rfl⟩,
    Returns.pure_iff.mpr ⟨rfl, rfl⟩⟩

/-- A list method whose rows load, one item for each, returns their pages. -/
theorem listed_paged {db : Database} {limit : Nat} {call : Int → App (ListPage β)}
    (positive : 0 < limit) {createdAt : β → Timestamp} {id : β → UUID} (query : Query)
    (rows : Database → List α)
    (load : List α → Except Exn (List β)) (item : α → β)
    (calls : ∀ offset, call offset = listed port query rows load ↑limit offset)
    (loads : ∀ chosen, (∀ row ∈ chosen, row ∈ rows db) → load chosen = .ok (chosen.map item))
    (once : ((rows db).map (fun row => id (item row))).Nodup)
    (ordered
      : (rows db).Pairwise (Newer (fun row => createdAt (item row)) (fun row => id (item row))))
    : PagedFrom i db port limit call createdAt id ((rows db).map item) where
  pages := by
    refine ⟨fun number => {
      items := pageAt ((rows db).map item) limit number
      total := ((rows db).map item).length
      limit := limit
      offset := ↑(number * limit)
    }, fun number world seen quiet => ?_, fun _ => rfl, fun count enough => ?_⟩
    · subst seen
      have chosen := loads (pageAt (rows (world.store.view i)) limit number) (fun _ => mem_pageAt)
      rw [← pageAt_map] at chosen
      obtain ⟨after, returned, kept⟩ := listed_yields quiet chosen
      refine ⟨after, ?_, kept⟩
      rw [calls]
      simpa only [List.length_map] using returned
    · have bound := (Nat.div_lt_iff_lt_mul positive).mp enough
      exact flatMap_pageAt_complete (Nat.le_of_lt bound)
  once := by rwa [List.map_map]
  ordered := List.pairwise_map.mpr ordered

end Listed

/-- Loading rows that load as they are, by induction on them. -/
theorem mapM_self {α : Type} {load : α → Except Exn α} {rows : List α}
    (loads : ∀ row ∈ rows, load row = .ok row)
    : rows.mapM load = .ok (rows.map id) := by
  induction rows with
  | nil => rfl
  | cons row rest ih =>
      have others := ih (fun row member => loads row (List.mem_cons_of_mem _ member))
      rw [List.mapM_cons, loads row (List.mem_cons_self ..), others]
      rfl

-----------------------------------------------------------------------------------------
-- The three lists
-----------------------------------------------------------------------------------------

section Tables

variable {u : Unicode} {i : Nat} {db : Database} {organizationId : UUID} {limit : Nat}

theorem mem_listedBatches {query : BatchListFilter} {row : Batch}
    : row ∈ listedBatches u db organizationId query
      ↔ row ∈ db .batches ∧ row.organizationId = organizationId ∧ query.accepts u row := by
  simp only [listedBatches, mem_newestFirst, List.mem_filter, beq_iff_eq, and_assoc]

theorem mem_listedCases {query : CaseListFilter} {row : Case}
    : row ∈ listedCases u db organizationId query
      ↔ row ∈ db .cases ∧ row.organizationId = organizationId ∧ query.accepts u row := by
  simp only [listedCases, mem_newestFirst, List.mem_filter, beq_iff_eq, and_assoc]

theorem mem_listedDocuments {query : DocumentListFilter}
    {entry : Document × DocumentVersionRecord}
    : entry ∈ listedDocuments u db organizationId query
      ↔ entry.1 ∈ db .documents ∧ entry.2 ∈ db .documentVersions
        ∧ entry.1.organizationId = organizationId ∧ entry.2.organizationId = organizationId
        ∧ entry.1.currentVersionId = entry.2.id ∧ query.accepts u entry.1 entry.2 := by
  obtain ⟨row, version⟩ := entry
  simp only [listedDocuments, mem_newestFirst, List.mem_flatMap, List.mem_map, List.mem_filter,
    Prod.mk.injEq, Bool.and_eq_true, beq_iff_eq]
  constructor
  · rintro ⟨row', ⟨member, owner⟩, version', ⟨⟨found, owned⟩, current, accepted⟩, rfl, rfl⟩
    exact ⟨member, found, owner, owned, current, accepted⟩
  · rintro ⟨member, found, owner, owned, current, accepted⟩
    exact ⟨row, ⟨member, owner⟩, version, ⟨⟨found, owned⟩, current, accepted⟩, rfl, rfl⟩

theorem batches_paged (keyed : db.Keyed) (positive : 0 < limit)
    (loads
      : ∀ row ∈ db .batches, row.organizationId = organizationId
        → batchFromRecord u row = .ok row)
    (query : BatchListFilter)
    : PagedFrom i db .batchRepository limit
        (fun offset =>
          BatchRepository.listBatches u organizationId { query with limit := limit, offset })
        Batch.createdAt Batch.id (listedBatches u db organizationId query) := by
  have distinct : ((((db .batches).filter (fun row => row.organizationId == organizationId)).filter
      (query.accepts u)).map Batch.id).Nodup :=
    ((List.filter_sublist.trans List.filter_sublist).map Batch.id).nodup (keyed .batches)
  rw [← List.map_id (listedBatches u db organizationId query)]
  refine listed_paged positive (.batches organizationId)
    (fun db => listedBatches u db organizationId query)
    (fun rows => rows.mapM (batchFromRecord u)) id (fun _ => rfl) (fun chosen members => ?_)
    (((newestFirst_perm ..).map Batch.id).nodup_iff.mpr distinct)
    (newestFirst_ordered Batch.createdAt Batch.id distinct)
  refine mapM_self (fun row member => ?_)
  obtain ⟨stored, owner, _⟩ := mem_listedBatches.mp (members row member)
  exact loads row stored owner

theorem cases_paged (keyed : db.Keyed) (positive : 0 < limit)
    (loads
      : ∀ row ∈ db .cases, row.organizationId = organizationId → caseFromRecord u row = .ok row)
    (query : CaseListFilter)
    : PagedFrom i db .caseRepository limit
        (fun offset =>
          CaseRepository.listCases u organizationId { query with limit := limit, offset })
        Case.createdAt Case.id (listedCases u db organizationId query) := by
  have distinct : ((((db .cases).filter (fun row => row.organizationId == organizationId)).filter
      (query.accepts u)).map Case.id).Nodup :=
    ((List.filter_sublist.trans List.filter_sublist).map Case.id).nodup (keyed .cases)
  rw [← List.map_id (listedCases u db organizationId query)]
  refine listed_paged positive (.cases organizationId)
    (fun db => listedCases u db organizationId query)
    (fun rows => rows.mapM (caseFromRecord u)) id (fun _ => rfl) (fun chosen members => ?_)
    (((newestFirst_perm ..).map Case.id).nodup_iff.mpr distinct)
    (newestFirst_ordered Case.createdAt Case.id distinct)
  refine mapM_self (fun row member => ?_)
  obtain ⟨stored, owner, _⟩ := mem_listedCases.mp (members row member)
  exact loads row stored owner

/-- The join gives a document one row at most: versions are found by their keys. -/
theorem joined_distinct (keyed : db.Keyed) (query : DocumentListFilter)
    : ((((db .documents).filter (fun row => row.organizationId == organizationId)).flatMap
        (fun row =>
          (((db .documentVersions).filter (fun version =>
              version.organizationId == organizationId)).filter (fun version =>
            row.currentVersionId == version.id && query.accepts u row version)).map
            (fun version => (row, version)))).map (fun entry => entry.1.id)).Nodup := by
  apply (join_sublist Document.id _ _ (fun row => ?_)).nodup
  · exact (List.filter_sublist.map Document.id).nodup (keyed .documents)
  · refine length_le_one (List.filter_sublist.trans List.filter_sublist)
      (show ((db .documentVersions).map DocumentVersionRecord.id).Nodup from
        keyed .documentVersions)
      (fun version member => show version.id = row.currentVersionId from ?_)
    have current := (List.mem_filter.mp member).2
    simp only [Bool.and_eq_true, beq_iff_eq] at current
    exact current.1.symm

theorem documents_paged (keyed : db.Keyed) (positive : 0 < limit) (query : DocumentListFilter)
    : PagedFrom i db .listDocuments limit
        (fun offset =>
          DocumentRepository.listDocuments u organizationId { query with limit := limit, offset })
        DocumentProjection.createdAt DocumentProjection.id
        ((listedDocuments u db organizationId query).map (fun entry =>
          projectionFromRecord entry.1 entry.2)) := by
  have distinct := @joined_distinct u db organizationId keyed query
  exact listed_paged positive (.documents organizationId)
    (fun db => listedDocuments u db organizationId query)
    (fun rows => .ok (rows.map (fun entry => projectionFromRecord entry.1 entry.2)))
    (fun entry => projectionFromRecord entry.1 entry.2) (fun _ => rfl) (fun _ _ => rfl)
    (((newestFirst_perm ..).map (fun entry : Document × DocumentVersionRecord =>
      entry.1.id)).nodup_iff.mpr distinct)
    (newestFirst_ordered (fun entry : Document × DocumentVersionRecord => entry.1.createdAt)
      (fun entry => entry.1.id) distinct)

end Tables

-----------------------------------------------------------------------------------------
-- Complete pages
-----------------------------------------------------------------------------------------

/-- The tenant's batches and cases are records of domain values: they load as they are. -/
structure RowsLoad (u : Unicode) (db : Database) (organizationId : UUID) : Prop where
  batches
    : ∀ row ∈ db .batches, row.organizationId = organizationId
      → batchFromRecord u row = .ok row
  cases : ∀ row ∈ db .cases, row.organizationId = organizationId → caseFromRecord u row = .ok row

/-- Rows that the domain produced load as they are. -/
theorem rowsLoad_of_produced {u : Unicode} {db : Database} (organizationId : UUID)
    (batches : ∀ row ∈ db .batches, Batch.Produced u row)
    (cases : ∀ row ∈ db .cases, Case.Produced u row)
    : RowsLoad u db organizationId where
  batches row member _ := (batches row member).sound.2
  cases row member _ := (cases row member).sound

/-- The pages of each list give every matching row of the tenant once, newest first, and each
page has the number of matching rows. A document is listed with its current version. -/
theorem lists_paged {u : Unicode} {db : Database} (constrained : Constrained db)
    {organizationId : UUID} (loads : RowsLoad u db organizationId) {limit : Nat}
    (positive : 0 < limit) (i : Nat)
    : (∀ query : DocumentListFilter, ∃ items,
        PagedFrom i db .listDocuments limit
          (fun offset => DocumentRepository.listDocuments u organizationId
            { query with limit := limit, offset })
          DocumentProjection.createdAt DocumentProjection.id items
        ∧ (∀ row ∈ db .documents, row.organizationId = organizationId
            → ∃ version ∈ db .documentVersions,
                version.organizationId = organizationId ∧ version.id = row.currentVersionId
                ∧ (projectionFromRecord row version ∈ items ↔ query.accepts u row version))
        ∧ ∀ item ∈ items, ∃ row ∈ db .documents, ∃ version ∈ db .documentVersions,
            row.organizationId = organizationId ∧ version.id = row.currentVersionId
            ∧ item = projectionFromRecord row version)
      ∧ (∀ query : BatchListFilter, ∃ items,
          PagedFrom i db .batchRepository limit
            (fun offset => BatchRepository.listBatches u organizationId
              { query with limit := limit, offset })
            Batch.createdAt Batch.id items
          ∧ ∀ row, row ∈ items
            ↔ row ∈ db .batches ∧ row.organizationId = organizationId ∧ query.accepts u row)
      ∧ (∀ query : CaseListFilter, ∃ items,
          PagedFrom i db .caseRepository limit
            (fun offset => CaseRepository.listCases u organizationId
              { query with limit := limit, offset })
            Case.createdAt Case.id items
          ∧ ∀ row, row ∈ items
            ↔ row ∈ db .cases ∧ row.organizationId = organizationId ∧ query.accepts u row) := by
  refine ⟨fun query => ⟨_, documents_paged constrained.keyed positive query, ?_, ?_⟩,
    fun query => ⟨_, batches_paged constrained.keyed positive loads.batches query,
      fun row => mem_listedBatches⟩,
    fun query => ⟨_, cases_paged constrained.keyed positive loads.cases query,
      fun row => mem_listedCases⟩⟩
  · intro row member owner
    obtain ⟨version, found, owned, current⟩ := constrained.currentVersion member
    refine ⟨version, found, owned.trans owner, current, fun listed => ?_, fun accepted => ?_⟩
    · obtain ⟨entry, isListed, same⟩ := List.mem_map.mp listed
      obtain ⟨stored, joined, _, _, pointed, accepted⟩ := mem_listedDocuments.mp isListed
      have sameRow : entry.1 = row :=
        Db.eq_of_key constrained.keyed (t := .documents) stored member
          (congrArg DocumentProjection.id same)
      have sameVersion : entry.2 = version :=
        constrained.version_unique joined found
          (pointed.symm.trans ((congrArg Document.currentVersionId sameRow).trans current.symm))
      rwa [sameRow, sameVersion] at accepted
    · exact List.mem_map.mpr ⟨(row, version),
        mem_listedDocuments.mpr
          ⟨member, found, owner, owned.trans owner, current.symm, accepted⟩, rfl⟩
  · intro item listed
    obtain ⟨entry, isListed, same⟩ := List.mem_map.mp listed
    obtain ⟨stored, joined, owner, _, pointed, _⟩ := mem_listedDocuments.mp isListed
    exact ⟨entry.1, stored, entry.2, joined, owner, pointed.symm, same.symm⟩

theorem filed_loads : RowsLoad asciiUnicode (filed "Invoices".toList) 5 where
  batches row member _ := by
    simp only [filed, List.mem_singleton] at member
    subst member
    rfl
  cases row member _ := by
    simp only [filed, List.mem_singleton] at member
    subst member
    rfl

theorem lists_paged_sample
    : ∃ items,
        PagedFrom 0 (filed "Invoices".toList) .batchRepository 1
          (fun offset => BatchRepository.listBatches asciiUnicode 5
            { ({ archived := some false } : BatchListFilter) with limit := 1, offset })
          Batch.createdAt Batch.id items
        ∧ ∀ row, row ∈ items
          ↔ row ∈ filed "Invoices".toList .batches ∧ row.organizationId = 5
            ∧ ({ archived := some false } : BatchListFilter).accepts asciiUnicode row :=
  (lists_paged (filed_constrained (by decide)) filed_loads (by decide : 0 < 1) 0).2.1
    { archived := some false }

end WorkflowForge
