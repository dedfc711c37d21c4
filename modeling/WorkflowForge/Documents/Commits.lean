import WorkflowForge.Documents.Consistency

/-! What the commits of the document use cases do to the document tables.
A commit adds a document with its first version, adds a version and moves its document to
it, or only makes mild writes: storage states, states of existing documents, idempotency
records and audit events.
-/

namespace WorkflowForge

open Python Transactions

variable {u : Unicode} {db : Database}

/-- A new state of a document with the same current version. -/
structure Document.Steps (u : Unicode) (old row : Document) : Prop where
  id : row.id = old.id
  organization : row.organizationId = old.organizationId
  version : row.currentVersionId = old.currentVersionId
  lock : old.lockVersion < row.lockVersion
  active : old.status ≠ .archived
  loads : row.Loads u

/-- The writes that leave the set of documents and versions alone. -/
def Mild (u : Unicode) (db : Database) : Write schema → Prop
  | .put .documents row => ∃ old, db.find? .documents row.id = some old ∧ old.Steps u row
  | .put .documentVersions row =>
      ∃ old, db.find? .documentVersions row.id = some old ∧ row.core = old.core
  | .put .uploadIdempotency row => row.status = .completed → row.Resolves db
  | .put .securityAuditEvents _ => True
  | _ => False

/-- The tables after some mild writes. -/
structure Similar (u : Unicode) (db now : Database) : Prop where
  keyed : now.Keyed
  versions
    : (now .documentVersions).map DocumentVersionRecord.core
      = (db .documentVersions).map DocumentVersionRecord.core
  ids : (now .documents).map Document.id = (db .documents).map Document.id
  states
    : ∀ id row,
        db.find? .documents id = some row
        → ∃ row', now.find? .documents id = some row' ∧ (row' = row ∨ row.Steps u row')
  records
    : ∀ record ∈ now .uploadIdempotency,
        record ∈ db .uploadIdempotency ∨ (record.status = .completed → record.Resolves db)

theorem Similar.refl (keyed : db.Keyed) : Similar u db db where
  keyed := keyed
  versions := rfl
  ids := rfl
  states _ row found := ⟨row, found, .inl rfl⟩
  records _ member := .inl member

/-- A version of the original tables has a counterpart with the same core. -/
theorem Similar.version_now {now : Database} (similar : Similar u db now)
    {row : DocumentVersionRecord} (member : row ∈ db .documentVersions)
    : ∃ row' ∈ now .documentVersions, row'.core = row.core := by
  have mapped : row.core ∈ (now .documentVersions).map DocumentVersionRecord.core := by
    rw [similar.versions]
    exact List.mem_map_of_mem member
  exact List.mem_map.mp mapped

theorem Similar.version_then {now : Database} (similar : Similar u db now)
    {row : DocumentVersionRecord} (member : row ∈ now .documentVersions)
    : ∃ old ∈ db .documentVersions, old.core = row.core := by
  have mapped : row.core ∈ (db .documentVersions).map DocumentVersionRecord.core := by
    rw [← similar.versions]
    exact List.mem_map_of_mem member
  exact List.mem_map.mp mapped

/-- A document of the new tables stems from one of the original tables. -/
theorem Similar.document_then {now : Database} (similar : Similar u db now)
    (keyed : db.Keyed) {row : Document} (member : row ∈ now .documents)
    : ∃ old ∈ db .documents, old.id = row.id ∧ (row = old ∨ old.Steps u row) := by
  have mapped : row.id ∈ (db .documents).map Document.id := by
    rw [← similar.ids]
    exact List.mem_map_of_mem member
  obtain ⟨old, inOld, same⟩ := List.mem_map.mp mapped
  have found : db.find? .documents old.id = some old := Db.find?_of_mem keyed inOld
  obtain ⟨row', found', relation⟩ := similar.states old.id old found
  have found_row : now.find? .documents row.id = some row := Db.find?_of_mem similar.keyed member
  rw [← same, found'] at found_row
  simp only [Option.some.injEq] at found_row
  subst found_row
  exact ⟨old, inOld, same, relation⟩

/-- Version numbers only depend on the cores of the versions. -/
theorem versionNumbers_congr {first second : Database}
    (same
      : (first .documentVersions).map DocumentVersionRecord.core
        = (second .documentVersions).map DocumentVersionRecord.core)
    (id : UUID)
    : versionNumbers first id = versionNumbers second id := by
  have through
      : ∀ db : Database,
          versionNumbers db id
            = (((db .documentVersions).map DocumentVersionRecord.core).filter
                (fun row => row.documentId == id)).map (fun row => row.versionNumber) := by
    intro db
    simp only [versionNumbers, List.filter_map, List.map_map]
    rfl
  rw [through first, through second, same]

/-- One mild write keeps the tables similar, by cases on the table it is about. -/
theorem Similar.apply {now : Database} (similar : Similar u db now) {write : Write schema}
    (mild : Mild u db write)
    : Similar u db (write.apply now) := by
  have keyed' := Write.apply_keyed similar.keyed write
  cases write with
  | remove t k => cases mild
  | put t row =>
      cases t with
      | documents =>
          obtain ⟨old, found, steps⟩ := mild
          obtain ⟨seen, seen_found, -⟩ := similar.states _ old found
          refine {
            keyed := keyed'
            versions := by
              rw [Write.apply, Db.put_table_other now row (by decide)]
              exact similar.versions
            ids := by
              have key : seen.id = row.id := Db.find?_key seen_found
              rw [Write.apply, Db.map_put_of_found similar.keyed seen_found key.symm]
              exact similar.ids
            states := ?_
            records := by
              rw [Write.apply, Db.put_table_other now row (by decide)]
              exact similar.records
          }
          intro id start start_found
          by_cases same : id = row.id
          · subst same
            rw [found] at start_found
            simp only [Option.some.injEq] at start_found
            subst start_found
            exact ⟨row, Db.find?_put_self now .documents row, .inr steps⟩
          · obtain ⟨row', found', relation⟩ := similar.states id start start_found
            exact ⟨row', (Db.find?_put_other now (.inr same)).trans found', relation⟩
      | documentVersions =>
          obtain ⟨old, found, core⟩ := mild
          refine {
            keyed := keyed'
            versions := ?_
            ids := by
              rw [Write.apply, Db.put_table_other now row (by decide)]
              exact similar.ids
            states := by
              intro id start start_found
              obtain ⟨row', found', relation⟩ := similar.states id start start_found
              exact ⟨row', (Db.find?_put_other now (.inl (by decide))).trans found', relation⟩
            records := by
              rw [Write.apply, Db.put_table_other now row (by decide)]
              exact similar.records
          }
          obtain ⟨seen, inNow, seen_core⟩ := similar.version_now (Db.mem_of_find? found)
          have key : seen.id = row.id :=
            (DocumentVersionRecord.core_fields (seen_core.trans core.symm)).1
          have seen_found : now.find? .documentVersions row.id = some seen := by
            rw [← key]
            exact Db.find?_of_mem similar.keyed inNow
          rw [Write.apply,
            Db.map_put_of_found similar.keyed seen_found (core.trans seen_core.symm)]
          exact similar.versions
      | uploadIdempotency =>
          refine {
            keyed := keyed'
            versions := by
              rw [Write.apply, Db.put_table_other now row (by decide)]
              exact similar.versions
            ids := by
              rw [Write.apply, Db.put_table_other now row (by decide)]
              exact similar.ids
            states := by
              intro id start start_found
              obtain ⟨row', found', relation⟩ := similar.states id start start_found
              exact ⟨row', (Db.find?_put_other now (.inl (by decide))).trans found', relation⟩
            records := ?_
          }
          intro record member
          rcases (Db.mem_put similar.keyed).mp member with rfl | ⟨old, -⟩
          · exact .inr mild
          · exact similar.records record old
      | securityAuditEvents =>
          exact {
            keyed := keyed'
            versions := by
              rw [Write.apply, Db.put_table_other now row (by decide)]
              exact similar.versions
            ids := by
              rw [Write.apply, Db.put_table_other now row (by decide)]
              exact similar.ids
            states := by
              intro id start start_found
              obtain ⟨row', found', relation⟩ := similar.states id start start_found
              exact ⟨row', (Db.find?_put_other now (.inl (by decide))).trans found', relation⟩
            records := by
              rw [Write.apply, Db.put_table_other now row (by decide)]
              exact similar.records
          }
      | _ => exact absurd mild id

theorem Similar.applyAll {now : Database} (similar : Similar u db now)
    {writes : List (Write schema)} (mild : ∀ write ∈ writes, Mild u db write)
    : Similar u db (Write.applyAll writes now) := by
  induction writes generalizing now with
  | nil => exact similar
  | cons write rest ih =>
      exact ih (similar.apply (mild write (by simp)))
        (fun later member => mild later (by simp [member]))

/-- Similar tables are an evolution of the original ones. -/
theorem Similar.evolves {now : Database} (similar : Similar u db now) (keyed : db.Keyed)
    : Evolves db now where
  documents id row found := by
    obtain ⟨row', found', relation⟩ := similar.states id row found
    refine ⟨row', found', ?_⟩
    rcases relation with rfl | steps
    · exact .refl row'
    · exact .inr ⟨steps.lock, steps.active, steps.id, steps.organization⟩
  versions id row found := by
    obtain ⟨row', member, core⟩ := similar.version_now (Db.mem_of_find? found)
    have key : row'.id = id :=
      (DocumentVersionRecord.core_fields core).1.trans (Db.find?_key found)
    refine ⟨row', ?_, core⟩
    rw [← key]
    exact Db.find?_of_mem similar.keyed member
  additions id row _ _ version row' found _ := by
    obtain ⟨old, member, core⟩ := similar.version_then (Db.mem_of_find? found)
    have key : old.id = version :=
      (DocumentVersionRecord.core_fields core).1.trans (Db.find?_key found)
    have present : db.find? .documentVersions version = some old := by
      rw [← key]
      exact Db.find?_of_mem keyed member
    simp [present]

/-- Loading a version does not look at its storage state. -/
theorem DocumentVersionRecord.Loads.of_core {row old : DocumentVersionRecord}
    (loads : old.Loads u) (core : row.core = old.core)
    : row.Loads u := by
  obtain ⟨version, loaded⟩ := loads
  rw [DocumentVersionRecord.core_eq_iff.mp core]
  simp only [DocumentVersionRecord.Loads, versionFromRecord, bind, Except.bind] at loaded ⊢
  split at loaded
  · contradiction
  split at loaded
  · contradiction
  obtain ⟨name, mediaType, accepted, rfl⟩ := DocumentVersion.postInit_eq_ok.mp loaded
  refine ⟨_, DocumentVersion.postInit_eq_ok.mpr ⟨name, mediaType, ?_, rfl⟩⟩
  exact {
    organization := accepted.organization
    creator := accepted.creator
    number := accepted.number
    filename := accepted.filename
    media := accepted.media
    size := accepted.size
    key := accepted.key
  }

/-- Similar tables are consistent when the original ones are. -/
theorem Similar.consistent {now : Database} (similar : Similar u db now) (keyed : db.Keyed)
    (consistent : Consistent u db)
    : Consistent u now := by
  have numbers := versionNumbers_congr similar.versions
  refine {
    numbered := ?_
    current := ?_
    owned := ?_
    keys := ?_
    locks := ?_
    documents := ?_
    versions := ?_
    resolved := ?_
  }
  · intro document member
    obtain ⟨old, inOld, same, -⟩ := similar.document_then keyed member
    rw [numbers, ← same]
    exact consistent.numbered old inOld
  · intro document member
    obtain ⟨old, inOld, same, relation⟩ := similar.document_then keyed member
    obtain ⟨version, inVersions, id, owner, number⟩ := consistent.current old inOld
    obtain ⟨version', inNow, core⟩ := similar.version_now inVersions
    obtain ⟨id', owner', -, number', -⟩ := DocumentVersionRecord.core_fields core
    refine ⟨version', inNow, ?_, ?_, ?_⟩
    · rcases relation with rfl | steps
      · exact id'.trans id
      · exact (id'.trans id).trans steps.version.symm
    · exact (owner'.trans owner).trans same
    · rw [number', number, numbers, same]
  · intro version member
    obtain ⟨old, inOld, core⟩ := similar.version_then member
    obtain ⟨-, owner', organization', -⟩ := DocumentVersionRecord.core_fields core
    obtain ⟨document, inDocuments, owner, organization⟩ := consistent.owned old inOld
    have found : db.find? .documents document.id = some document :=
      Db.find?_of_mem keyed inDocuments
    obtain ⟨row, row_found, relation⟩ := similar.states document.id document found
    have key : row.id = document.id := Db.find?_key row_found
    refine ⟨row, Db.mem_of_find? row_found, ?_, ?_⟩
    · rw [key, owner, owner']
    · rcases relation with rfl | steps
      · exact organization.trans organization'
      · exact (steps.organization.trans organization).trans organization'
  · intro version member
    obtain ⟨old, inOld, core⟩ := similar.version_then member
    obtain ⟨-, -, organization, -, hash, key⟩ := DocumentVersionRecord.core_fields core
    rw [← key, ← organization, ← hash]
    exact consistent.keys old inOld
  · intro document member
    obtain ⟨old, inOld, -, relation⟩ := similar.document_then keyed member
    obtain ⟨positive, archived⟩ := consistent.locks old inOld
    rcases relation with rfl | steps
    · exact ⟨positive, archived⟩
    · have grew := steps.lock
      exact ⟨by omega, fun _ => by omega⟩
  · intro document member
    obtain ⟨old, inOld, -, relation⟩ := similar.document_then keyed member
    rcases relation with rfl | steps
    · exact consistent.documents document inOld
    · exact steps.loads
  · intro version member
    obtain ⟨old, inOld, core⟩ := similar.version_then member
    exact (consistent.versions old inOld).of_core core.symm
  · intro record member completed
    rcases similar.records record member with old | resolves
    · exact (consistent.resolved record old completed).evolve (similar.evolves keyed)
    · exact (resolves completed).evolve (similar.evolves keyed)

/-- A commit of mild writes. -/
theorem Consistent.mild (consistent : Consistent u db) (keyed : db.Keyed)
    {writes : List (Write schema)} (mild : ∀ write ∈ writes, Mild u db write)
    : Consistent u (Write.applyAll writes db) ∧ Evolves db (Write.applyAll writes db) := by
  have similar := (Similar.refl keyed).applyAll mild
  exact ⟨similar.consistent keyed consistent, similar.evolves keyed⟩

-----------------------------------------------------------------------------------------
-- New documents
-----------------------------------------------------------------------------------------

/-- The two rows of new content. -/
structure NewDocument (u : Unicode) (db : Database) (document : Document)
    (version : DocumentVersionRecord)
    : Prop where
  document_absent : db.find? .documents document.id = none
  version_absent : db.find? .documentVersions version.id = none
  current : document.currentVersionId = version.id
  owner : version.documentId = document.id
  organization : version.organizationId = document.organizationId
  number : version.versionNumber = 1
  key
    : version.storageObjectKey
      = documentContentKeyText version.organizationId version.contentHash
  lock : document.lockVersion = 1
  active : document.status ≠ .archived
  document_loads : document.Loads u
  version_loads : version.Loads u

/-- The tables after the two inserts. -/
def addRows (db : Database) (document : Document) (version : DocumentVersionRecord)
    : Database :=
  Write.applyAll [.put .documents document, .put .documentVersions version] db

section NewDocument

variable {document : Document} {version : DocumentVersionRecord}

private theorem put_other (db : Database) {t t' : TableName} (row : TableRow t)
    (other : t' ≠ t)
    : (Write.put t row : Write schema).apply db t' = db t' :=
  Db.put_table_other (S := schema) db row other

theorem addRows_documents (absent : db.find? .documents document.id = none)
    : (addRows db document version) .documents = db .documents ++ [document] := by
  have appended := Db.put_of_absent (S := schema) (t := .documents) absent
  simp only [addRows, Write.applyAll, List.foldl_cons, List.foldl_nil]
  rw [put_other (t := .documentVersions) _ version (by decide)]
  exact appended

theorem addRows_versions (absent : db.find? .documentVersions version.id = none)
    : (addRows db document version) .documentVersions = db .documentVersions ++ [version] := by
  have elsewhere
      : (Write.put .documents document : Write schema).apply db .documentVersions
        = db .documentVersions :=
    put_other (t := .documents) db document (by decide)
  have absent'
      : ((Write.put .documents document : Write schema).apply db).find? .documentVersions
          version.id = none := by
    rw [Write.find?_apply_other _ _ (by simp [Write.target])]
    exact absent
  have appended := Db.put_of_absent (S := schema) (t := .documentVersions) absent'
  rw [elsewhere] at appended
  exact appended

theorem addRows_records
    : (addRows db document version) .uploadIdempotency = db .uploadIdempotency := by
  simp only [addRows, Write.applyAll, List.foldl_cons, List.foldl_nil]
  rw [put_other (t := .documentVersions) _ version (by decide),
    put_other (t := .documents) _ document (by decide)]

theorem addRows_find_document {id : UUID} (other : id ≠ document.id)
    : (addRows db document version).find? .documents id = db.find? .documents id := by
  apply Write.find?_applyAll_other
  intro write member
  simp only [List.mem_cons, List.not_mem_nil, or_false] at member
  rcases member with rfl | rfl
  · simpa [Write.target, primaryKey] using other.symm
  · simp [Write.target]

theorem addRows_find_version {id : UUID} (other : id ≠ version.id)
    : (addRows db document version).find? .documentVersions id
      = db.find? .documentVersions id := by
  apply Write.find?_applyAll_other
  intro write member
  simp only [List.mem_cons, List.not_mem_nil, or_false] at member
  rcases member with rfl | rfl
  · simp [Write.target]
  · simpa [Write.target, primaryKey] using other.symm

theorem addRows_find_new
    : (addRows db document version).find? .documentVersions version.id = some version :=
  Db.find?_put_self (S := schema) _ .documentVersions version

theorem addRows_find_added
    : (addRows db document version).find? .documents document.id = some document := by
  rw [show addRows db document version
    = (Write.put .documentVersions version : Write schema).apply
        ((Write.put .documents document : Write schema).apply db) from rfl,
    Write.find?_apply_other _ _ (by simp [Write.target])]
  exact Db.find?_put_self (S := schema) _ .documents document

/-- Earlier versions stay as they are. -/
theorem NewDocument.evolves_find (fresh : NewDocument u db document version)
    (row : DocumentVersionRecord) (found : db.find? .documentVersions row.id = some row)
    : (addRows db document version).find? .documentVersions row.id = some row := by
  rw [addRows_find_version]
  · exact found
  · intro same
    rw [same, fresh.version_absent] at found
    cases found

theorem NewDocument.evolves (fresh : NewDocument u db document version)
    : Evolves db (addRows db document version) where
  documents id row found := by
    refine ⟨row, ?_, .refl row⟩
    have other : id ≠ document.id := by
      rintro rfl
      simp [fresh.document_absent] at found
    rw [addRows_find_document other]
    exact found
  versions id row found := by
    refine ⟨row, ?_, rfl⟩
    have other : id ≠ version.id := by
      rintro rfl
      simp [fresh.version_absent] at found
    rw [addRows_find_version other]
    exact found
  additions id row found _ added row' found' belongs := by
    by_cases same : added = version.id
    · subst same
      rw [addRows_find_new] at found'
      simp only [Option.some.injEq] at found'
      subst found'
      rw [← belongs, fresh.owner, fresh.document_absent] at found
      cases found
    · rw [addRows_find_version same] at found'
      simp [found']

/-- A document that is not in the tables has no versions there. -/
theorem Consistent.no_versions (consistent : Consistent u db) (keyed : db.Keyed) {id : UUID}
    (absent : db.find? .documents id = none) {row : DocumentVersionRecord}
    (member : row ∈ db .documentVersions)
    : row.documentId ≠ id := by
  rintro rfl
  obtain ⟨document, inDocuments, owner, -⟩ := consistent.owned row member
  have found : db.find? .documents document.id = some document :=
    Db.find?_of_mem keyed inDocuments
  rw [owner, absent] at found
  cases found

theorem versionNumbers_append {next : Database}
    (appended : next .documentVersions = db .documentVersions ++ [version]) (id : UUID)
    : versionNumbers next id
      = if version.documentId = id then versionNumbers db id ++ [version.versionNumber]
        else versionNumbers db id := by
  unfold versionNumbers
  rw [appended, List.filter_append]
  by_cases same : version.documentId = id <;> simp [same]

/-- Adding new content keeps the tables consistent. -/
theorem NewDocument.consistent (fresh : NewDocument u db document version)
    (keyed : db.Keyed) (consistent : Consistent u db)
    : Consistent u (addRows db document version) := by
  have documents : (addRows db document version) .documents = db .documents ++ [document] :=
    addRows_documents fresh.document_absent
  have versions
      : (addRows db document version) .documentVersions = db .documentVersions ++ [version] :=
    addRows_versions fresh.version_absent
  have numbers := versionNumbers_append versions
  have none : versionNumbers db document.id = [] := by
    simp only [versionNumbers, List.map_eq_nil_iff, List.filter_eq_nil_iff, beq_iff_eq]
    intro row member
    exact consistent.no_versions keyed fresh.document_absent member
  have others : ∀ old ∈ db .documents, old.id ≠ document.id := by
    intro old member same
    have found : db.find? .documents old.id = some old := Db.find?_of_mem keyed member
    rw [same, fresh.document_absent] at found
    cases found
  have old_numbers
      : ∀ old ∈ db .documents,
          versionNumbers (addRows db document version) old.id = versionNumbers db old.id := by
    intro old member
    rw [numbers, if_neg]
    rw [fresh.owner]
    exact (others old member).symm
  refine {
    numbered := ?_
    current := ?_
    owned := ?_
    keys := ?_
    locks := ?_
    documents := ?_
    versions := ?_
    resolved := ?_
  }
  · intro row member
    rw [documents] at member
    rcases List.mem_append.mp member with old | new
    · rw [old_numbers row old]
      exact consistent.numbered row old
    · rw [List.mem_singleton.mp new, numbers, if_pos fresh.owner, none, fresh.number]
      exact List.Perm.refl _
  · intro row member
    rw [documents] at member
    rw [versions]
    rcases List.mem_append.mp member with old | new
    · obtain ⟨current, inVersions, facts⟩ := consistent.current row old
      rw [old_numbers row old]
      exact ⟨current, List.mem_append_left _ inVersions, facts⟩
    · rw [List.mem_singleton.mp new, numbers, if_pos fresh.owner, none]
      exact ⟨version, by simp, fresh.current.symm, fresh.owner, fresh.number⟩
  · intro row member
    rw [versions] at member
    rw [documents]
    rcases List.mem_append.mp member with old | new
    · obtain ⟨owner, inDocuments, facts⟩ := consistent.owned row old
      exact ⟨owner, List.mem_append_left _ inDocuments, facts⟩
    · rw [List.mem_singleton.mp new]
      exact ⟨document, by simp, fresh.owner.symm, fresh.organization.symm⟩
  · intro row member
    rw [versions] at member
    rcases List.mem_append.mp member with old | new
    · exact consistent.keys row old
    · rw [List.mem_singleton.mp new]
      exact fresh.key
  · intro row member
    rw [documents] at member
    rcases List.mem_append.mp member with old | new
    · exact consistent.locks row old
    · rw [List.mem_singleton.mp new, fresh.lock]
      exact ⟨Nat.one_pos, fun archived => absurd archived fresh.active⟩
  · intro row member
    rw [documents] at member
    rcases List.mem_append.mp member with old | new
    · exact consistent.documents row old
    · rw [List.mem_singleton.mp new]
      exact fresh.document_loads
  · intro row member
    rw [versions] at member
    rcases List.mem_append.mp member with old | new
    · exact consistent.versions row old
    · rw [List.mem_singleton.mp new]
      exact fresh.version_loads
  · intro record member completed
    rw [addRows_records] at member
    exact (consistent.resolved record member completed).evolve fresh.evolves

end NewDocument

-----------------------------------------------------------------------------------------
-- New versions
-----------------------------------------------------------------------------------------

/-- A further version and the state of its document that makes it current. -/
structure NewVersion (u : Unicode) (db : Database) (old document : Document)
    (version : DocumentVersionRecord)
    : Prop where
  found : db.find? .documents document.id = some old
  version_absent : db.find? .documentVersions version.id = none
  current : document.currentVersionId = version.id
  owner : version.documentId = document.id
  organization : version.organizationId = document.organizationId
  tenant : document.organizationId = old.organizationId
  number : version.versionNumber = (versionNumbers db document.id).length + 1
  key
    : version.storageObjectKey
      = documentContentKeyText version.organizationId version.contentHash
  lock : document.lockVersion = old.lockVersion + 1
  active : old.status ≠ .archived
  document_loads : document.Loads u
  version_loads : version.Loads u

/-- The tables after the insert and the update. -/
def addVersionRows (db : Database) (document : Document) (version : DocumentVersionRecord)
    : Database :=
  Write.applyAll [.put .documentVersions version, .put .documents document] db

section NewVersion

variable {old document : Document} {version : DocumentVersionRecord}

theorem addVersionRows_versions (absent : db.find? .documentVersions version.id = none)
    : (addVersionRows db document version) .documentVersions
      = db .documentVersions ++ [version] := by
  have appended := Db.put_of_absent (S := schema) (t := .documentVersions) absent
  simp only [addVersionRows, Write.applyAll, List.foldl_cons, List.foldl_nil]
  rw [put_other (t := .documents) _ document (by decide)]
  exact appended

theorem addVersionRows_records
    : (addVersionRows db document version) .uploadIdempotency = db .uploadIdempotency := by
  simp only [addVersionRows, Write.applyAll, List.foldl_cons, List.foldl_nil]
  rw [put_other (t := .documents) _ document (by decide),
    put_other (t := .documentVersions) _ version (by decide)]

theorem addVersionRows_find_document {id : UUID} (other : id ≠ document.id)
    : (addVersionRows db document version).find? .documents id = db.find? .documents id := by
  apply Write.find?_applyAll_other
  intro write member
  simp only [List.mem_cons, List.not_mem_nil, or_false] at member
  rcases member with rfl | rfl
  · simp [Write.target]
  · simpa [Write.target, primaryKey] using other.symm

theorem addVersionRows_find_version {id : UUID} (other : id ≠ version.id)
    : (addVersionRows db document version).find? .documentVersions id
      = db.find? .documentVersions id := by
  apply Write.find?_applyAll_other
  intro write member
  simp only [List.mem_cons, List.not_mem_nil, or_false] at member
  rcases member with rfl | rfl
  · simpa [Write.target, primaryKey] using other.symm
  · simp [Write.target]

theorem addVersionRows_find_self
    : (addVersionRows db document version).find? .documents document.id = some document :=
  Db.find?_put_self (S := schema) _ .documents document

/-- The documents after the update: the old ones, with the changed row in its place. -/
theorem mem_addVersionRows_documents (keyed : db.Keyed) {row : Document}
    : row ∈ (addVersionRows db document version) .documents
      ↔ row = document ∨ (row ∈ db .documents ∧ row.id ≠ document.id) := by
  have first : ((Write.put .documentVersions version : Write schema).apply db).Keyed :=
    Write.apply_keyed keyed _
  have second
      : row ∈ (Db.put ((Write.put .documentVersions version : Write schema).apply db)
            .documents document) .documents
        ↔ row = document
          ∨ (row ∈ ((Write.put .documentVersions version : Write schema).apply db) .documents
              ∧ row.id ≠ document.id) :=
    Db.mem_put first
  rw [show ((Write.put .documentVersions version : Write schema).apply db) .documents
    = db .documents from put_other (t := .documentVersions) db version (by decide)] at second
  exact second

theorem NewVersion.evolves (fresh : NewVersion u db old document version)
    : Evolves db (addVersionRows db document version) where
  documents id row found := by
    by_cases same : id = document.id
    · subst same
      rw [fresh.found] at found
      simp only [Option.some.injEq] at found
      subst found
      refine ⟨document, addVersionRows_find_self, .inr ⟨?_, fresh.active, ?_, fresh.tenant⟩⟩
      · rw [fresh.lock]
        exact Nat.lt_succ_self _
      · exact (Db.find?_key fresh.found).symm
    · refine ⟨row, ?_, .refl row⟩
      rw [addVersionRows_find_document same]
      exact found
  versions id row found := by
    refine ⟨row, ?_, rfl⟩
    have other : id ≠ version.id := by
      rintro rfl
      simp [fresh.version_absent] at found
    rw [addVersionRows_find_version other]
    exact found
  additions id row found kept added row' found' belongs := by
    by_cases same : added = version.id
    · subst same
      have here
          : (addVersionRows db document version).find? .documentVersions version.id
            = some version := by
        rw [show addVersionRows db document version
          = (Write.put .documents document : Write schema).apply
              ((Write.put .documentVersions version : Write schema).apply db) from rfl,
          Write.find?_apply_other _ _ (by simp [Write.target])]
        exact Db.find?_put_self (S := schema) _ .documentVersions version
      rw [here] at found'
      simp only [Option.some.injEq] at found'
      subst found'
      rw [← belongs, fresh.owner, addVersionRows_find_self] at kept
      rw [← belongs, fresh.owner, fresh.found] at found
      simp only [Option.some.injEq] at kept found
      have grew := fresh.lock
      rw [kept, ← found] at grew
      omega
    · rw [addVersionRows_find_version same] at found'
      simp [found']

/-- Adding a version keeps the tables consistent. -/
theorem NewVersion.consistent (fresh : NewVersion u db old document version)
    (keyed : db.Keyed) (consistent : Consistent u db)
    : Consistent u (addVersionRows db document version) := by
  have versions
      : (addVersionRows db document version) .documentVersions
        = db .documentVersions ++ [version] :=
    addVersionRows_versions fresh.version_absent
  have documents
      : ∀ row,
          row ∈ (addVersionRows db document version) .documents
          ↔ row = document ∨ (row ∈ db .documents ∧ row.id ≠ document.id) :=
    fun row => mem_addVersionRows_documents keyed
  have numbers := versionNumbers_append versions
  have old_numbers
      : ∀ row : Document,
          row.id ≠ document.id
          → versionNumbers (addVersionRows db document version) row.id
            = versionNumbers db row.id := by
    intro row other
    rw [numbers, if_neg]
    rw [fresh.owner]
    exact other.symm
  have old_member : old ∈ db .documents := Db.mem_of_find? fresh.found
  have old_id : old.id = document.id := Db.find?_key fresh.found
  refine {
    numbered := ?_
    current := ?_
    owned := ?_
    keys := ?_
    locks := ?_
    documents := ?_
    versions := ?_
    resolved := ?_
  }
  · intro row member
    rcases (documents row).mp member with rfl | ⟨inOld, other⟩
    · have earlier := consistent.numbered old old_member
      rw [old_id] at earlier
      rw [numbers, if_pos fresh.owner, fresh.number, List.length_append, List.length_singleton,
        List.range'_concat]
      apply List.Perm.append earlier
      rw [Nat.one_mul, Nat.add_comm]
    · rw [old_numbers row other]
      exact consistent.numbered row inOld
  · intro row member
    rw [versions]
    rcases (documents row).mp member with rfl | ⟨inOld, other⟩
    · refine ⟨version, by simp, fresh.current.symm, fresh.owner, ?_⟩
      rw [numbers, if_pos fresh.owner, fresh.number, List.length_append, List.length_singleton]
    · obtain ⟨current, inVersions, facts⟩ := consistent.current row inOld
      rw [old_numbers row other]
      exact ⟨current, List.mem_append_left _ inVersions, facts⟩
  · intro row member
    rw [versions] at member
    rcases List.mem_append.mp member with earlier | new
    · obtain ⟨owner, inDocuments, id, organization⟩ := consistent.owned row earlier
      by_cases same : owner.id = document.id
      · have owner_eq : owner = old := by
          have found : db.find? .documents owner.id = some owner :=
            Db.find?_of_mem keyed inDocuments
          rw [same, fresh.found] at found
          simpa using found.symm
        refine ⟨document, (documents document).mpr (.inl rfl), same.symm.trans id, ?_⟩
        rw [fresh.tenant, ← owner_eq]
        exact organization
      · exact ⟨owner, (documents owner).mpr (.inr ⟨inDocuments, same⟩), id, organization⟩
    · rw [List.mem_singleton.mp new]
      exact ⟨document, (documents document).mpr (.inl rfl), fresh.owner.symm,
        fresh.organization.symm⟩
  · intro row member
    rw [versions] at member
    rcases List.mem_append.mp member with earlier | new
    · exact consistent.keys row earlier
    · rw [List.mem_singleton.mp new]
      exact fresh.key
  · intro row member
    rcases (documents row).mp member with rfl | ⟨inOld, -⟩
    · have positive := (consistent.locks old old_member).1
      have grew := fresh.lock
      exact ⟨by omega, fun _ => by omega⟩
    · exact consistent.locks row inOld
  · intro row member
    rcases (documents row).mp member with rfl | ⟨inOld, -⟩
    · exact fresh.document_loads
    · exact consistent.documents row inOld
  · intro row member
    rw [versions] at member
    rcases List.mem_append.mp member with earlier | new
    · exact consistent.versions row earlier
    · rw [List.mem_singleton.mp new]
      exact fresh.version_loads
  · intro record member completed
    rw [addVersionRows_records] at member
    exact (consistent.resolved record member completed).evolve fresh.evolves

end NewVersion

end WorkflowForge
