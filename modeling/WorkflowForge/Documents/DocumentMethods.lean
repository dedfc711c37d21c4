import WorkflowForge.Documents.Repositories

/-! Specifications of the document repository and of the object storage. -/

namespace WorkflowForge

open Python Transactions Concurrency

variable {u : Unicode} {regime : Regime} {i : Nat} {needs frame failed : World → Prop}
  {pending : List (Write schema) → Prop}

/-- A choice that the shape has made may be used. -/
theorem Spec.exists {α β : Type} {method : App α} {facts left : α → World → Prop}
    {shape : β → World → Prop}
    (each : ∀ choice, Spec u regime i needs (shape choice) method facts left failed)
    : Spec u regime i needs (fun world => ∃ choice, shape choice world) method facts left
        failed := by
  intro known durable enough state invariant ⟨held, choice, shaped⟩
  exact each choice known durable enough state invariant ⟨held, shaped⟩

theorem Steady.exists {β : Type} {shape : β → World → Prop}
    (each : ∀ choice, Steady u regime i (shape choice))
    : Steady u regime i (fun world => ∃ choice, shape choice world) :=
  fun before after sane sane' rested ⟨choice, holds⟩ =>
    ⟨choice, each choice before after sane sane' rested holds⟩

-----------------------------------------------------------------------------------------
-- Loading rows
-----------------------------------------------------------------------------------------

/-- A loaded document has the columns of its row, up to its normalized texts. -/
theorem documentFromRecord_fields {row document : Document}
    (loaded : documentFromRecord u row = .ok document)
    : document
        = {
          row with
          displayFilename := document.displayFilename
          sourceReference := document.sourceReference
        } := by
  obtain ⟨name, reference, -, rfl⟩ := Document.postInit_eq_ok.mp loaded
  rfl

/-- Loading a row whose name was normalized gives a settled document. -/
theorem Document.Loads.settled {row document : Document} (loads : row.Loads u)
    (loaded : documentFromRecord u row = .ok document)
    : document.Settled u := by
  obtain ⟨⟨filename, normalized⟩, -⟩ := loads
  apply Document.settled_of_postInit loaded
  obtain ⟨name, reference, accepted, rfl⟩ := Document.postInit_eq_ok.mp loaded
  exact settledName_of_twice normalized accepted.filename

theorem Document.Settled.loads {document : Document} (settled : document.Settled u)
    : document.Loads u :=
  ⟨⟨_, settled.accepted.filename⟩, _, settled⟩

/-- A loaded version keeps the columns of its row, up to its normalized texts. -/
theorem versionFromRecord_fields {row : DocumentVersionRecord} {version : DocumentVersion}
    (loaded : versionFromRecord u row = .ok version)
    : version.id = row.id ∧ version.organizationId = row.organizationId
      ∧ version.documentId = row.documentId ∧ version.versionNumber = row.versionNumber
      ∧ version.storageState = row.storageState ∧ version.byteSize = row.byteSize := by
  simp only [versionFromRecord, bind, Except.bind] at loaded
  split at loaded
  · contradiction
  split at loaded
  · contradiction
  obtain ⟨name, mediaType, -, rfl⟩ := DocumentVersion.postInit_eq_ok.mp loaded
  exact ⟨rfl, rfl, rfl, rfl, rfl, rfl⟩

-----------------------------------------------------------------------------------------
-- What sessions know about documents and versions
-----------------------------------------------------------------------------------------

/-- What a document found by its content hash is known to be. -/
def Found (regime : Regime) (organizationId : UUID) (document : Document) (world : World)
    : Prop :=
  document.organizationId = organizationId
  ∧ HasVersion document.id document.currentVersionId world
  ∧ (regime.strict → Kept document.currentVersionId world)

theorem Found.durable (organizationId : UUID) (document : Document)
    : Durable regime i (Found regime organizationId document) :=
  (Durable.const regime i _).and
    ((Durable.hasVersion document.id document.currentVersionId).and
      (Durable.strictly_kept document.currentVersionId))

/-- The session holds the row lock of this document row. -/
def Locked (i : Nat) (base : Document) (world : World) : Prop :=
  (i, TableName.documents, base.id) ∈ world.store.locks
  ∧ world.store.committed.find? .documents base.id = some base

theorem Locked.framed (base : Document) : Framed u regime i (Locked i base) := by
  intro before after _ _ calm _ ⟨lock, found⟩
  exact ⟨calm.locks _ lock, (calm.rows _ _ lock).trans found⟩

/-- The row behind a document that was read under lock. -/
def LockedAs (u : Unicode) (i : Nat) (organizationId : UUID) (document base : Document)
    (world : World)
    : Prop :=
  (documentFromRecord u base = .ok document
    ∧ base.organizationId = organizationId
    ∧ document.Settled u)
  ∧ Locked i base world

/-- A document built from the row `base` that bumps its lock version. -/
structure Follows (u : Unicode) (base document : Document) : Prop where
  id : document.id = base.id
  organization : document.organizationId = base.organizationId
  createdAt : document.createdAt = base.createdAt
  creator : document.createdByUserId = base.createdByUserId
  lock : document.lockVersion = base.lockVersion + 1
  active : base.status ≠ .archived
  settled : document.Settled u

/-- The compare-and-swap of a document on the row it was built from. -/
theorem Follows.swap {base document : Document} (follows : Follows u base document)
    : (if base.organizationId = document.organizationId
            ∧ base.lockVersion + 1 = document.lockVersion then
          some {
            base with
            displayFilename := document.displayFilename
            sourceType := document.sourceType
            sourceReference := document.sourceReference
            status := document.status
            currentVersionId := document.currentVersionId
            archivedAt := document.archivedAt
            archivedByUserId := document.archivedByUserId
            updatedAt := document.updatedAt
            updatedByUserId := document.updatedByUserId
            lockVersion := document.lockVersion
          }
        else none) = some document := by
  rw [if_pos ⟨follows.organization.symm, follows.lock.symm⟩]
  have same := follows
  cases document
  simp only [Option.some.injEq, Document.mk.injEq, true_and, and_true]
  exact ⟨same.id.symm, same.organization.symm, same.createdAt.symm, same.creator.symm⟩

/-- The compare-and-swap only matches the row the document was built from. -/
theorem Follows.swapped {base document old row : Document} {world : World}
    (follows : Follows u base document) (descends : Descends base world)
    (mildly : Mildly u regime i pending world)
    (found : (world.store.view i).find? .documents document.id = some old)
    (swap
      : (if old.organizationId = document.organizationId
            ∧ old.lockVersion + 1 = document.lockVersion then
          some {
            old with
            displayFilename := document.displayFilename
            sourceType := document.sourceType
            sourceReference := document.sourceReference
            status := document.status
            currentVersionId := document.currentVersionId
            archivedAt := document.archivedAt
            archivedByUserId := document.archivedByUserId
            updatedAt := document.updatedAt
            updatedByUserId := document.updatedByUserId
            lockVersion := document.lockVersion
          }
        else none) = some row)
    : row = document ∧ world.store.committed.find? .documents document.id = some base := by
  have locks : old.lockVersion + 1 = document.lockVersion := by
    by_contra different
    rw [if_neg (fun matched => different matched.2)] at swap
    cases swap
  obtain ⟨current, current_found, becomes⟩ := descends
  rw [← follows.id] at current_found
  have bump := follows.lock
  have grown := becomes.lock_le
  have isBase : old = base ∧ current = base := by
    rcases world.store.find?_view_cases i (t := TableName.documents) (k := document.id)
      with ⟨same, -⟩ | ⟨-, puts⟩
    · rw [same, current_found] at found
      cases found
      rcases becomes with rfl | ⟨grew, -⟩
      · exact ⟨rfl, rfl⟩
      · omega
    · obtain ⟨committed, committed_found, steps⟩ := mildly.mild _ (puts old found)
      have key : old.id = document.id := Db.find?_key found
      rw [key, current_found] at committed_found
      cases committed_found
      have stepped := steps.lock
      omega
  obtain ⟨rfl, rfl⟩ := isBase
  rw [follows.swap] at swap
  cases swap
  exact ⟨rfl, current_found⟩

/-- The version row is as the session created it. -/
def Fresh (i : Nat) (row : DocumentVersionRecord) (world : World) : Prop :=
  world.DrawnBy i row.id
  ∧ world.store.committed.find? .documentVersions row.id = some row

theorem Fresh.calm {strict : Prop} {row : DocumentVersionRecord} {before after : World}
    (fresh : Fresh i row before) (calm : Calm strict i before after)
    : Fresh i row after :=
  ⟨fresh.1.mono calm.ids calm.drawn, (calm.versions row.id fresh.1).trans fresh.2⟩

theorem Fresh.owns {row : DocumentVersionRecord} {world : World} (fresh : Fresh i row world)
    : world.Owns i row.storageObjectKey :=
  ⟨row, fresh.2, fresh.1, rfl⟩

theorem Fresh.framed (row : DocumentVersionRecord) : Framed u regime i (Fresh i row) :=
  fun _ _ _ _ calm _ fresh => fresh.calm calm

/-- The bytes of the version are at its final key. -/
def Sized (row : DocumentVersionRecord) (world : World) : Prop :=
  ∃ object,
    world.object? row.storageObjectKey = some object
    ∧ (object.body.length : Int) = row.byteSize

theorem Fresh.sized {strict : Prop} {row : DocumentVersionRecord} {before after : World}
    (fresh : Fresh i row before) (calm : Calm strict i before after) (sized : Sized row before)
    : Fresh i row after ∧ Sized row after := by
  obtain ⟨object, found, size⟩ := sized
  exact ⟨fresh.calm calm, object, (calm.finals _ fresh.owns).trans found, size⟩

theorem Sized.framed (row : DocumentVersionRecord)
    : Framed u regime i (fun world => Fresh i row world ∧ Sized row world) :=
  fun _ _ _ _ calm _ holds => holds.1.sized calm holds.2

-----------------------------------------------------------------------------------------
-- Reading
-----------------------------------------------------------------------------------------

namespace DocumentRepository

theorem loaded_silent {row : Option Document}
    : Silent u regime i needs (loaded u row)
        (fun document _ => ∀ value, document = some value
          → ∃ record, row = some record ∧ documentFromRecord u record = .ok value) := by
  cases row with
  | none => exact Silent.pure (fun _ _ _ same => by cases same)
  | some record =>
      refine Silent.bind (fun _ => Durable.const regime i _)
        (Silent.lift (fun document loaded _ _ => loaded)) ?_
      intro document
      refine Silent.pure (fun _ known value same => ?_)
      cases same
      exact ⟨record, rfl, known.2⟩

theorem getDocument_silent {organizationId documentId : UUID}
    : Silent u regime i needs (getDocument u organizationId documentId) (fun _ _ => True) := by
  refine Silent.bind (fun _ => Durable.const regime i True) enter_silent ?_
  intro _
  refine Silent.bind (fun _ => Durable.const regime i True) select_silent ?_
  intro db
  exact loaded_silent.mono (fun _ known => known) (fun _ _ _ _ _ => trivial)

/-- A version that was read exists. -/
theorem getVersion_silent {organizationId documentId versionId : UUID}
    : Silent u regime i needs (getVersion u organizationId documentId versionId)
        (fun _ _ => True) := by
  refine Silent.bind (fun _ => Durable.const regime i True) enter_silent ?_
  intro _
  refine Silent.bind (fun _ => Durable.const regime i True) select_silent ?_
  intro db
  cases versionRecord db organizationId documentId versionId with
  | none => exact Silent.pure (fun _ _ => trivial)
  | some record =>
      refine Silent.bind (fun _ => Durable.const regime i True)
        (Silent.lift (fun _ _ _ _ => trivial)) ?_
      exact fun _ => Silent.pure (fun _ _ => trivial)

theorem getVersion_spec {organizationId documentId versionId : UUID}
    (framed : Framed u regime i frame)
    : Spec u regime i needs (fun world => Mildly u regime i pending world ∧ frame world)
        (getVersion u organizationId documentId versionId)
        (fun result world => ∀ version, result = some version
          → version.id = versionId ∧ HasVersion documentId versionId world)
        (fun _ world => Mildly u regime i pending world ∧ frame world)
        (fun world => Mildly u regime i pending world ∧ frame world) := by
  refine Silent.before (Mildly.steady framed) enter_silent ?_ (fun _ holds => holds)
  intro _
  have selected
      : Spec u regime i needs (fun world => Mildly u regime i pending world ∧ frame world)
          (select (.documentVersion organizationId documentId versionId))
          (fun db world => ∀ record,
            versionRecord db organizationId documentId versionId = some record
            → record.id = versionId ∧ HasVersion documentId versionId world)
          (fun _ world => Mildly u regime i pending world ∧ frame world)
          (fun world => Mildly u regime i pending world ∧ frame world) := by
    refine select_spec (Mildly.steady framed) ?_ ?_
    · intro db
      exact Durable.forall fun record => Durable.implies
        ((Durable.const regime i _).and (Durable.hasVersion documentId versionId))
    · intro now _ _ holds _ record found
      obtain ⟨found, matched⟩ := Option.filter_eq_some_iff.mp found
      obtain ⟨old, old_found, core⟩ := holds.1.view_version found
      simp only [Bool.and_eq_true, beq_iff_eq] at matched
      refine ⟨Db.find?_key found, old, old_found, ?_⟩
      exact (DocumentVersionRecord.core_fields core).2.1.symm.trans matched.2
  refine Spec.bind ?_ selected ?_
  · intro db
    exact Durable.forall fun record => Durable.implies
      ((Durable.const regime i _).and (Durable.hasVersion documentId versionId))
  · intro db
    cases row : versionRecord db organizationId documentId versionId with
    | none => exact Spec.pure (Mildly.steady framed) (fun _ _ _ same => by cases same)
    | some record =>
        refine Spec.bind (fun _ => Durable.const regime i _)
          (Spec.lift (Mildly.steady framed) (fun version loaded _ _ => loaded)) ?_
        intro version
        refine Spec.pure (Mildly.steady framed) ?_
        intro world known value same
        cases same
        obtain ⟨id, present⟩ := known.1.2 record rfl
        exact ⟨(versionFromRecord_fields known.2).1.trans id, present⟩

/-- A document found by content hash has its current version, and in a strict regime the
version's bytes are stored. -/
theorem findDocumentByTenantContentHash_spec {organizationId : UUID}
    {contentHash : ContentHash} {shape : World → Prop} (steady : Steady u regime i shape)
    (quiet : ∀ world, shape world → Clean i world)
    : Spec u regime i needs shape
        (findDocumentByTenantContentHash u organizationId contentHash)
        (fun result world => ∀ document, result = some document
          → Found regime organizationId document world)
        (fun _ => shape) shape := by
  have lasting
      : ∀ rows : List Document,
          Durable regime i (fun world => ∀ row ∈ rows, Found regime organizationId row world) :=
    fun rows => Durable.forall fun row => Durable.implies (Found.durable organizationId row)
  refine Silent.before steady enter_silent ?_ (fun _ holds => holds)
  intro _
  have selected
      : Spec u regime i needs shape
          (select (.documentByContentHash organizationId contentHash))
          (fun db world => ∀ row ∈ documentsByContentHash db organizationId contentHash,
            Found regime organizationId row world)
          (fun _ => shape) shape := by
    refine select_spec steady (fun db => lasting _) ?_
    intro now sane _ holds admitted row member
    have clean := quiet now holds
    rw [Store.view_of_own_nil clean] at member
    obtain ⟨inDocuments, matched⟩ := List.mem_filter.mp member
    simp only [Bool.and_eq_true, beq_iff_eq] at matched
    obtain ⟨version, inVersions, id, owner, -⟩ := sane.consistent.current row inDocuments
    have found
        : now.store.committed.find? .documentVersions row.currentVersionId = some version := by
      rw [← id]
      exact Db.find?_of_mem sane.coherent.keyed inVersions
    refine ⟨matched.1, ⟨version, found, owner⟩, ?_⟩
    intro strict
    have lookup := regime.lookups strict i organizationId contentHash now admitted
    rw [Store.view_of_own_nil clean] at lookup
    have stored := lookup row member version found
    refine ⟨version, id, ?_, sane.stored strict version inVersions stored⟩
    rw [id]
    exact found
  refine Spec.bind (fun db => lasting _) selected ?_
  intro db
  refine Spec.bind (fun _ => Durable.const regime i _)
    (scalarOneOrNone_silent shape steady) ?_
  intro row
  refine Spec.mono (loaded_silent shape steady) (fun _ known => known)
    (fun _ _ _ holds => holds) ?_ (fun _ _ holds => holds)
  intro result world _ known loads holds
  refine ⟨?_, holds⟩
  intro document same
  obtain ⟨record, rfl, loaded⟩ := loads document same
  have only := known.2 record rfl
  have found := known.1.2 record (by rw [only]; exact List.mem_singleton_self _)
  rw [documentFromRecord_fields loaded]
  exact found

theorem getDocumentForUpdate_spec {organizationId documentId : UUID}
    (framed : Framed u regime i frame)
    : Spec u regime i needs (fun world => Clean i world ∧ frame world)
        (getDocumentForUpdate u organizationId documentId)
        (fun result _ => ∀ document, result = some document → document.id = documentId)
        (fun result world => (Clean i world ∧ frame world) ∧ ∀ document, result = some document
          → ∃ base, LockedAs u i organizationId document base world)
        (fun world => Clean i world ∧ frame world) := by
  have start : Steady u regime i (fun world => Clean i world ∧ frame world) :=
    Clean.firm.steady.and framed.steady
  refine Silent.before start enter_silent ?_ (fun _ holds => holds)
  intro _
  have steady
      : ∀ row : Option Document,
          Steady u regime i (fun world => (Clean i world ∧ frame world) ∧ ∀ base, row = some base
            → (base.id = documentId ∧ base.organizationId = organizationId ∧ base.Loads u)
              ∧ Locked i base world) := by
    intro row
    refine start.and ?_
    intro before after sane sane' rested holds base same
    exact ⟨(holds base same).1,
      (Locked.framed base).steady before after sane sane' rested (holds base same).2⟩
  have selected
      : Spec u regime i needs (fun world => Clean i world ∧ frame world)
          (selectForUpdate .documents documentId
            (fun row => row.organizationId == organizationId))
          (fun _ _ => True)
          (fun db world => (Clean i world ∧ frame world) ∧ ∀ base,
            documentRecord db organizationId documentId = some base
            → (base.id = documentId ∧ base.organizationId = organizationId ∧ base.Loads u)
              ∧ Locked i base world)
          (fun world => Clean i world ∧ frame world) := by
    refine Spec.perform start (fun _ => Durable.const regime i True)
      (fun db => steady _)
      (fun _ _ _ _ => .nothing (by simp) (by simp [Op.Touches]) (by simp)) ?_
    rintro now db after sane sane' advances - ⟨clean, holds⟩ - ran
    obtain ⟨executed, shape⟩ := exec_sql ran
    obtain ⟨rfl, cases⟩ := Store.exec_selectForUpdate executed
    have still : Still i now after := by
      refine Still.of_sql ran ?_ ?_ ?_ ?_
      all_goals
        rcases cases with ⟨-, store⟩ | ⟨-, -, store⟩
        · rw [store]
          simp [Store.opening, Store.own]
        · rw [store]
          simp +contextual [Store.opening, Store.lock, Store.own]
    have rested := still.rested advances
    have kept := start now after sane sane' rested ⟨clean, holds⟩
    rw [Store.view_of_own_nil clean] at cases ⊢
    refine ⟨by rw [rested.log], trivial, kept, ?_⟩
    intro base found
    rcases cases with ⟨nothing, store⟩ | ⟨matched, free, store⟩
    · change Option.filter _ _ = some base at found
      rw [nothing] at found
      cases found
    · obtain ⟨found, tenant⟩ := Option.filter_eq_some_iff.mp found
      have key : base.id = documentId := Db.find?_key found
      refine ⟨⟨key, by simpa using tenant,
        sane.consistent.documents base (Db.mem_of_find? found)⟩, ?_, ?_⟩
      · rw [store, key]
        exact List.mem_append_right _ (List.mem_singleton_self _)
      · rw [store, key]
        exact found
  refine Spec.bind (fun _ => Durable.const regime i True) selected ?_
  intro db
  refine Spec.mono (loaded_silent _ (steady _)) (fun _ known => known)
    (fun _ _ _ holds => holds) ?_ (fun _ _ holds => holds.1)
  rintro result world - - loads ⟨clean, locked⟩
  refine ⟨?_, clean, ?_⟩
  · intro document same
    obtain ⟨base, found, loaded⟩ := loads document same
    rw [documentFromRecord_fields loaded]
    exact (locked base found).1.1
  · intro document same
    obtain ⟨base, found, loaded⟩ := loads document same
    obtain ⟨⟨-, tenant, baseLoads⟩, lock⟩ := locked base found
    exact ⟨base, ⟨loaded, tenant, baseLoads.settled loaded⟩, lock⟩

-----------------------------------------------------------------------------------------
-- Writing documents and versions
-----------------------------------------------------------------------------------------

/-- `_persist_document_state` in a mild session. -/
theorem persistDocumentState_spec {base document : Document} (framed : Framed u regime i frame)
    (follows : Follows u base document)
    (version : document.currentVersionId = base.currentVersionId)
    (descends : ∀ world, needs world → Descends base world)
    (keeps
      : ∀ writes, pending writes → pending (writes ++ [.put .documents document]))
    : Spec u regime i needs (fun world => Mildly u regime i pending world ∧ frame world)
        (persistDocumentState document) (fun _ _ => True)
        (fun _ world =>
          Mildly u regime i
            (fun writes => pending writes ∧ (regime.matched i → Leaves writes .documents document))
            world
          ∧ frame world)
        (fun world => Mildly u regime i pending world ∧ frame world) := by
  refine Spec.bind (fun _ => Durable.const regime i _)
    (update_spec (regime.matched i)
      (fun writes => pending writes ∧ (regime.matched i → Leaves writes .documents document))
      framed ?_ ?_) ?_
  · exact fun matched now _ _ _ _ admitted => regime.matching i matched _ _ now admitted
  · intro now old row sane known mildly _ found changed _ _
    obtain ⟨rfl, committed⟩ := follows.swapped (descends now known) mildly found changed
    refine mildly.stage_light (by decide) ?_ ?_ ?_ ?_
    · refine ⟨base, committed, ?_⟩
      exact {
        id := follows.id
        organization := follows.organization
        version := version
        lock := by rw [follows.lock]; exact Nat.lt_succ_self _
        active := follows.active
        loads := follows.settled.loads
      }
    · intro missing
      have there : now.store.committed.find? .documents row.id = none := missing
      rw [committed] at there
      cases there
    · intro _ record same
      cases same
    · exact fun here => ⟨keeps _ here, fun _ => Leaves.last _ .documents row⟩
  · intro matched
    refine Spec.mono (Spec.pure (Mildly.steady framed) (fun _ _ => trivial))
      (fun _ known => known) ?_ (fun _ _ _ _ fact holds => ⟨fact, holds⟩) (fun _ _ holds => holds)
    intro world _ known holds
    refine ⟨holds.1.weaken ?_, holds.2⟩
    cases matched with
    | true => exact fun here => here
    | false =>
        exact fun here => ⟨here, fun hitting => absurd (known.2 hitting) Bool.false_ne_true⟩

theorem archiveDocument_spec {base document : Document} (framed : Framed u regime i frame)
    (follows : Follows u base document)
    (version : document.currentVersionId = base.currentVersionId)
    (descends : ∀ world, needs world → Descends base world)
    (keeps
      : ∀ writes, pending writes → pending (writes ++ [.put .documents document]))
    : Spec u regime i needs (fun world => Mildly u regime i pending world ∧ frame world)
        (archiveDocument document) (fun saved _ => saved = document)
        (fun _ world =>
          Mildly u regime i
            (fun writes => pending writes ∧ (regime.matched i → Leaves writes .documents document))
            world
          ∧ frame world)
        (fun world => Mildly u regime i pending world ∧ frame world) := by
  refine Silent.before (Mildly.steady framed) enter_silent ?_ (fun _ holds => holds)
  intro _
  refine Spec.bind (fun _ => Durable.const regime i True)
    (persistDocumentState_spec framed follows version descends keeps) ?_
  exact fun _ => Spec.pure (Mildly.steady framed) (fun _ _ => rfl)

/-- Setting the storage state of a version that the session created. -/
theorem markVersionStorageState_spec {row : DocumentVersionRecord}
    {organizationId documentId : UUID} {storageState : DocumentStorageState}
    (framed : Framed u regime i frame)
    (fresh : ∀ world, frame world → Fresh i row world)
    (unstored : regime.strict → row.storageState ≠ .stored)
    (sized : ∀ world, frame world → storageState = .stored → Sized row world)
    (uncompleted : ∀ writes, pending writes → regime.strict → Uncompleted writes)
    (keeps
      : ∀ writes version,
          pending writes → pending (writes ++ [.put .documentVersions version]))
    : Spec u regime i needs (fun world => Mildly u regime i pending world ∧ frame world)
        (markVersionStorageState u organizationId documentId row.id storageState)
        (fun version _ => version.id = row.id)
        (fun _ world =>
          Mildly u regime i
            (fun writes => pending writes
              ∧ Leaves writes .documentVersions { row with storageState })
            world
          ∧ frame world)
        (fun world => Mildly u regime i pending world ∧ frame world) := by
  refine Silent.before (Mildly.steady framed) select_silent ?_ (fun _ holds => holds)
  intro db
  cases found : versionRecord db organizationId documentId row.id with
  | none => exact Spec.throw (Mildly.steady framed)
  | some record =>
      have key : record.id = row.id := by
        obtain ⟨found, -⟩ := Option.filter_eq_some_iff.mp found
        exact Db.find?_key found
      have updated
          : Spec u regime i needs (fun world => Mildly u regime i pending world ∧ frame world)
              (update .documentVersions record.id (fun old => some { old with storageState }))
              (fun found _ => True → found = true)
              (Updated u regime i pending
                (fun writes => pending writes
                  ∧ Leaves writes .documentVersions { row with storageState })
                frame)
              (fun world => Mildly u regime i pending world ∧ frame world) := by
        refine update_spec True _ framed ?_ ?_
        · intro _ now sane _ mildly held _ missed
          rw [key] at missed
          obtain ⟨present, here, -⟩ :=
            (mildly.publishes sane).evolves.versions row.id row (fresh now held).2
          rw [here] at missed
          cases missed
        · intro now old changed sane _ mildly held here same _ _
          cases same
          rw [key] at here
          obtain ⟨committed, committed_found, core⟩ := mildly.view_version here
          have isRow : committed = row := by
            rw [(fresh now held).2] at committed_found
            exact (Option.some.inj committed_found).symm
          subst isRow
          have shape : { old with storageState } = { committed with storageState } := by
            rw [DocumentVersionRecord.core_eq_iff.mp core]
          rw [shape]
          refine mildly.stage_version ?_ (fresh now held).1 ?_ ?_ ?_ ?_
          · exact ⟨committed, (fresh now held).2, rfl⟩
          · intro strict other other_found
            have same : other = committed := by
              rw [(fresh now held).2] at other_found
              exact (Option.some.inj other_found).symm
            rw [same]
            exact unstored strict
          · exact fun _ stored => ⟨stored, sized now held stored⟩
          · exact fun strict => uncompleted _ mildly.pending strict
          · exact fun here => ⟨keeps _ _ here, Leaves.last _ .documentVersions _⟩
      refine Spec.bind (fun _ => Durable.const regime i _) updated ?_
      intro matched
      have steady
          : Steady u regime i (fun world =>
              Mildly u regime i
                (fun writes => pending writes
                  ∧ Leaves writes .documentVersions { row with storageState })
                world
              ∧ frame world) :=
        Mildly.steady framed
      refine Spec.mono (Spec.lift steady (fun version loaded _ _ => loaded))
        (fun _ known => known) ?_ ?_ ?_
      · intro world _ known holds
        have hit := known.2 trivial
        subst hit
        exact holds
      · intro version world _ _ loaded holds
        exact ⟨(versionFromRecord_fields loaded).1.trans key, holds⟩
      · exact fun _ _ holds => ⟨holds.1.weaken (fun here => here.1), holds.2⟩

end DocumentRepository

end WorkflowForge
