import WorkflowForge.Documents.Additions

/-! Adding a version to a document under its row lock. -/

namespace WorkflowForge

open Python Transactions Concurrency

variable {u : Unicode} {regime : Regime} {i : Nat} {needs frame : World → Prop}

/-- The locked document has this many versions. -/
def Counted (i : Nat) (base : Document) (count : Nat) (world : World) : Prop :=
  Locked i base world
  ∧ (versionNumbers world.store.committed base.id).length = count

/-- While the document row stays, so does the number of its versions.
Witness: its current version carries that number.
-/
theorem Counted.framed (base : Document) (count : Nat)
    : Framed u regime i (Counted i base count) := by
  intro before after sane sane' calm temps ⟨locked, counted⟩
  have locked' := Locked.framed base before after sane sane' calm temps locked
  refine ⟨locked', ?_⟩
  obtain ⟨version, inVersions, id, -, number⟩ :=
    sane.consistent.current base (Db.mem_of_find? locked.2)
  obtain ⟨version', inVersions', id', -, number'⟩ :=
    sane'.consistent.current base (Db.mem_of_find? locked'.2)
  have found : before.store.committed.find? .documentVersions version.id = some version :=
    Db.find?_of_mem sane.coherent.keyed inVersions
  have found' : after.store.committed.find? .documentVersions version'.id = some version' :=
    Db.find?_of_mem sane'.coherent.keyed inVersions'
  obtain ⟨later, later_found, core⟩ := calm.evolves.versions version.id version found
  rw [id, ← id', found'] at later_found
  cases later_found
  rw [← number', (DocumentVersionRecord.core_fields core).2.2.2.1, number]
  exact counted

/-- The rows that `list_versions` loads are all versions of the document. -/
theorem versionsOf_length {world : World} (sane : Sane u regime world) {base : Document}
    (found : world.store.committed.find? .documents base.id = some base)
    : (versionsOf world.store.committed base.organizationId base.id).length
      = (versionNumbers world.store.committed base.id).length := by
  have same
      : (world.store.committed .documentVersions).filter (fun row =>
          row.organizationId == base.organizationId && row.documentId == base.id)
        = (world.store.committed .documentVersions).filter (fun row =>
            row.documentId == base.id) := by
    apply List.filter_congr
    intro row member
    by_cases belongs : row.documentId = base.id
    · obtain ⟨owner, inDocuments, ownerId, tenant⟩ := sane.consistent.owned row member
      have owner_found : world.store.committed.find? .documents owner.id = some owner :=
        Db.find?_of_mem sane.coherent.keyed inDocuments
      rw [ownerId, belongs, found] at owner_found
      cases owner_found
      simp [belongs, tenant]
    · simp [belongs]
  simp only [versionsOf, versionNumbers, List.length_mergeSort, List.length_map]
  exact congrArg List.length same

theorem mapM_length {α β : Type} {f : α → Except Exn β} {rows : List α} {values : List β}
    (mapped : rows.mapM f = .ok values)
    : values.length = rows.length := by
  induction rows generalizing values with
  | nil =>
      cases mapped
      rfl
  | cons row rest ih =>
      simp only [List.mapM_cons, bind, Except.bind] at mapped
      split at mapped
      · contradiction
      split at mapped
      · contradiction
      rename_i more rest_mapped
      cases mapped
      simp [ih rest_mapped]

theorem DocumentRepository.listVersions_silent {organizationId documentId : UUID}
    : Silent u regime i needs (listVersions u organizationId documentId) (fun _ _ => True) := by
  refine Silent.bind (fun _ => Durable.const regime i True) enter_silent ?_
  intro _
  refine Silent.bind (fun _ => Durable.const regime i True) select_silent ?_
  exact fun _ => Silent.lift (fun _ _ _ _ => trivial)

theorem DocumentRepository.listVersions_spec {base : Document}
    : Spec u regime i needs (fun world => Clean i world ∧ Locked i base world)
        (listVersions u base.organizationId base.id) (fun _ _ => True)
        (fun versions world => Clean i world ∧ Counted i base versions.length world)
        (fun _ => True) := by
  have start : Steady u regime i (fun world => Clean i world ∧ Locked i base world) :=
    Clean.firm.steady.and (Locked.framed base).steady
  refine Silent.before start enter_silent ?_ (fun _ _ => trivial)
  intro _
  have counted
      : ∀ count, Steady u regime i (fun world => Clean i world ∧ Counted i base count world) :=
    fun count => Clean.firm.steady.and (Counted.framed base count).steady
  have selected
      : Spec u regime i needs (fun world => Clean i world ∧ Locked i base world)
          (select (.documentVersions base.organizationId base.id)) (fun _ _ => True)
          (fun db world => Clean i world
            ∧ Counted i base (versionsOf db base.organizationId base.id).length world)
          (fun _ => True) := by
    refine Spec.perform start (fun _ => Durable.const regime i True) (fun db => counted _)
      (fun _ _ _ _ => .nothing (by simp) (by simp [Op.Touches]) (by simp)) ?_
    rintro now db after sane sane' advances - ⟨clean, locked⟩ - ran
    obtain ⟨rfl, still⟩ := exec_select_still ran
    have rested := still.rested advances
    refine ⟨by rw [rested.log], trivial, ?_⟩
    refine counted _ now after sane sane' rested ⟨clean, locked, ?_⟩
    rw [Store.view_of_own_nil clean, versionsOf_length sane locked.2]
  refine Spec.bind (fun _ => Durable.const regime i True) selected ?_
  intro db
  refine Spec.mono (Spec.lift (counted _) (fun versions mapped _ _ => mapped))
    (fun _ known => known) (fun _ _ _ holds => holds) ?_ (fun _ _ _ => trivial)
  rintro versions world - - mapped ⟨clean, locked, count⟩
  exact ⟨trivial, clean, locked, count.trans (mapM_length mapped).symm⟩

-----------------------------------------------------------------------------------------
-- The rows of a new version
-----------------------------------------------------------------------------------------

/-- UPDATE of a row that is known to match, from known uncommitted writes. -/
theorem update_exact {t : TableName} {id : UUID} {change : TableRow t → Option (TableRow t)}
    {writes : List (Write schema)} {row : TableRow t} (framed : Framed u regime i frame)
    (hit
      : ∀ now,
          Sane u regime now
          → needs now
          → now.store.own i = writes
          → frame now
          → ((now.store.view i).find? t id).bind change = some row)
    : Spec u regime i needs (fun world => world.store.own i = writes ∧ frame world)
        (update t id change) (fun _ _ => True)
        (fun _ world => world.store.own i = writes ++ [.put t row] ∧ frame world)
        (fun _ => True) := by
  have exactly
      : ∀ list : List (Write schema),
          Steady u regime i (fun world => world.store.own i = list ∧ frame world) :=
    fun list => (Firm.own (fun own => own = list)).steady.and framed.steady
  have answered
      : Spec u regime i needs (fun world => world.store.own i = writes ∧ frame world)
          (perform (.sql (.update t id change))) (fun _ _ => True)
          (fun (answer : Except Violation Bool) world => answer.isOk = true
            → world.store.own i = writes ++ [.put t row] ∧ frame world)
          (fun _ => True) := by
    refine Spec.perform (exactly writes) (fun _ => Durable.const regime i True) ?_ ?_ ?_
    · intro answer before after sane sane' rested holds done
      exact exactly _ before after sane sane' rested (holds done)
    · exact fun _ _ _ _ => .nothing (by simp) (by simp [Op.Touches]) (by simp)
    · rintro now answer after sane sane' advances known ⟨own, holds⟩ - ran
      obtain ⟨executed, shape⟩ := exec_sql ran
      have matched := hit now sane known own holds
      rcases Store.exec_update executed with
        ⟨-, missed, -⟩ | ⟨⟨violation, rfl⟩, store⟩
        | ⟨old, written, rfl, found, changed, -, -, store, -⟩
      · rw [matched] at missed
        cases missed
      · rw [store]
        exact ⟨List.prefix_rfl, trivial, by simp [Except.isOk, Except.toBool]⟩
      · rw [found, Option.bind_some, changed] at matched
        cases matched
        have staged : after = now.staged i (.put t row) := by
          rw [shape, store]
          rfl
        subst staged
        have calm := World.staged_calm advances
        refine ⟨by rw [calm.log], trivial, fun _ => ⟨?_, ?_⟩⟩
        · rw [← own]
          exact Store.stage_own_self _ _ _
        · exact framed _ _ sane sane' calm (fun _ _ => rfl) holds
  refine Spec.bind (fun _ => Durable.const regime i True) answered ?_
  intro answer
  cases answer with
  | ok found =>
      exact Spec.mono (Spec.pure (exactly _) (fun _ _ => trivial))
        (fun _ known => known) (fun _ _ _ holds => holds rfl)
        (fun _ _ _ _ fact holds => ⟨fact, holds⟩) (fun _ _ holds => holds)
  | error violation =>
      cases violation with
      | integrity => exact Spec.abandon
      | data => exact Spec.abandon

/-- A version with the next number and the document that makes it current, as the domain
builds them from the locked row. -/
structure Extends (u : Unicode) (base document : Document) (version : DocumentVersion)
    (count : Nat)
    : Prop where
  current : document.currentVersionId = version.id
  owner : version.documentId = document.id
  organization : version.organizationId = document.organizationId
  number : version.versionNumber = count + 1
  key
    : version.storageObjectKey.value
      = documentContentKeyText version.organizationId version.contentHash.value
  follows : Follows u base document

/-- `create_version` builds the next version of the document it locked.
Witness: the name was normalized by the version and again by the document.
-/
theorem extends_of_setCurrentVersion {base document updated : Document}
    {version : DocumentVersion} {organizationId versionId actorUserId creator : UUID}
    {count : Nat} {filename mediaType : Text} {byteSize : Int} {contentHash : ContentHash}
    {storageState : DocumentStorageState} {timestamp : Timestamp}
    (loaded : documentFromRecord u base = .ok document)
    (tenant : base.organizationId = organizationId) (settled : document.Settled u)
    (created
      : DocumentVersion.create u versionId organizationId base.id (count + 1) filename
          mediaType byteSize contentHash storageState timestamp creator = .ok version)
    (moved : document.setCurrentVersion u version actorUserId timestamp = .ok updated)
    : Extends u base updated version count ∧ version.id = versionId := by
  obtain ⟨name, media, -, -, -, normalized, -, -, rfl⟩ := DocumentVersion.create_eq_ok.mp created
  obtain ⟨active, again, twice, rfl, settles⟩ := Document.setCurrentVersion_eq_ok settled moved
  have fields := documentFromRecord_fields loaded
  have id : document.id = base.id := by rw [fields]
  have organization : document.organizationId = base.organizationId := by rw [fields]
  refine ⟨?_, rfl⟩
  refine {
    current := rfl
    owner := id.symm
    organization := (organization.trans tenant).symm
    number := rfl
    key := rfl
    follows := ?_
  }
  refine {
    id := id
    organization := organization
    createdAt := by rw [fields]
    creator := by rw [fields]
    lock := by rw [fields]
    active := ?_
    settled := settles ?_
  }
  · have status : document.status = base.status := by rw [fields]
    rw [← status]
    exact active
  · exact settledName_of_twice normalized twice

/-- The two writes of a new version. -/
def versionRows (document : Document) (version : DocumentVersion) : List (Write schema) :=
  [.put .documentVersions (recordFromVersion version), .put .documents document]

/-- The id of the new version is still free. -/
def Room (i : Nat) (version : DocumentVersion) (world : World) : Prop :=
  world.DrawnBy i version.id
  ∧ world.store.committed.find? .documentVersions version.id = none

theorem Room.framed (version : DocumentVersion) : Framed u regime i (Room i version) :=
  Framed.missing .documentVersions version.id rfl

theorem addVersion_spec {version : DocumentVersion} (framed : Framed u regime i frame)
    (drawn : ∀ world, needs world → world.DrawnBy i version.id)
    : Spec u regime i needs (fun world => Clean i world ∧ frame world)
        (DocumentRepository.addVersion u version)
        (fun saved _ => versionFromRecord u (recordFromVersion version) = .ok saved)
        (fun _ world =>
          world.store.own i = [.put .documentVersions (recordFromVersion version)]
          ∧ frame world ∧ Room i version world)
        (fun _ => True) := by
  have start : Steady u regime i (fun world => Clean i world ∧ frame world) :=
    Clean.firm.steady.and framed.steady
  refine Silent.before start enter_silent ?_ (fun _ _ => trivial)
  intro _
  have flushed
      : Spec u regime i needs (fun world => world.store.own i = [] ∧ frame world)
          (insert .documentVersions (recordFromVersion version)) (fun _ _ => True)
          (fun _ world =>
            world.store.own i = [] ++ [.put .documentVersions (recordFromVersion version)]
            ∧ frame world ∧ Room i version world)
          (fun _ => True) := by
    refine insert_exact framed (fun world known => ⟨i, drawn world known⟩)
      (Durable.const regime i True) (Room.framed version) ?_
    intro now _ known clean _ absent _
    rw [Store.view_of_own_nil clean] at absent
    exact ⟨trivial, drawn now known, absent⟩
  refine Spec.bind (fun _ => Durable.const regime i True) (orDuplicateContent_spec flushed) ?_
  intro _
  have added
      : Steady u regime i (fun world =>
          world.store.own i = [.put .documentVersions (recordFromVersion version)]
          ∧ frame world ∧ Room i version world) :=
    (Firm.own (fun own => own = [.put .documentVersions (recordFromVersion version)])).steady.and
      (framed.and (Room.framed version)).steady
  refine Spec.mono (Spec.lift added (fun saved loaded _ _ => loaded))
    (fun _ known => known.1) (fun _ _ _ holds => holds) ?_ (fun _ _ _ => trivial)
  exact fun _ _ _ _ loaded holds => ⟨loaded, holds⟩

/-- The swap always matches: the row is locked since it was read. -/
theorem setCurrentVersion_spec {base document : Document} {version saved : DocumentVersion}
    {count : Nat} (framed : Framed u regime i frame)
    (new : Extends u base document version count)
    : Spec u regime i needs
        (fun world =>
          world.store.own i = [.put .documentVersions (recordFromVersion version)]
          ∧ frame world ∧ Counted i base count world)
        (DocumentRepository.setCurrentVersion document saved) (fun _ _ => True)
        (fun _ world => world.store.own i = versionRows document version
          ∧ frame world ∧ Counted i base count world)
        (fun _ => True) := by
  have framed' := framed.and (Counted.framed base count)
  have exactly
      : ∀ list : List (Write schema),
          Steady u regime i (fun world =>
            world.store.own i = list ∧ frame world ∧ Counted i base count world) :=
    fun list => (Firm.own (fun own => own = list)).steady.and framed'.steady
  refine Silent.before (exactly _) enter_silent ?_ (fun _ _ => trivial)
  intro _
  split
  · exact Spec.abandon
  refine Spec.bind (fun _ => Durable.const regime i True) ?_
    (fun _ => Spec.pure (exactly _) (fun _ _ => trivial))
  refine Spec.bind (fun _ => Durable.const regime i True)
    (update_exact framed' ?_) (fun _ => Spec.pure (exactly _) (fun _ _ => trivial))
  intro now _ _ own ⟨_, locked, _⟩
  have found : (now.store.view i).find? .documents document.id = some base := by
    rw [Store.view, own, Write.find?_applyAll_other _ _ (by simp [Write.target]), new.follows.id]
    exact locked.2
  rw [found, Option.bind_some]
  exact new.follows.swap

theorem Counted.newVersion {base document : Document} {version saved : DocumentVersion}
    {count : Nat} {world : World} (counted : Counted i base count world)
    (room : Room i version world) (new : Extends u base document version count)
    (loads : versionFromRecord u (recordFromVersion version) = .ok saved)
    : NewVersion u world.store.committed base document (recordFromVersion version) where
  found := by rw [new.follows.id]; exact counted.1.2
  version_absent := room.2
  current := new.current
  owner := new.owner
  organization := new.organization
  tenant := new.follows.organization
  number := by
    rw [new.follows.id, counted.2]
    exact new.number
  key := new.key
  lock := new.follows.lock
  active := new.follows.active
  document_loads := new.follows.settled.loads
  version_loads := ⟨saved, loads⟩

/-- The writes make the returned version current. -/
def MakesCurrent (saved : DocumentVersion) (writes : List (Write schema)) : Prop :=
  ∃ document : Document,
    Leaves writes .documents document
    ∧ document.id = saved.documentId
    ∧ document.currentVersionId = saved.id

theorem commit_version {base document : Document} {version saved : DocumentVersion}
    {count : Nat} (lax : ¬ regime.strict) (new : Extends u base document version count)
    (loads : versionFromRecord u (recordFromVersion version) = .ok saved)
    : Spec u regime i needs
        (fun world => Trailing i (versionRows document version) world
          ∧ Room i version world ∧ Counted i base count world)
        commit (fun _ => Logged i (MakesCurrent saved)) (fun _ => Clean i)
        (fun _ => True) := by
  refine Spec.mono (commit_spec
    ((Trailing.firm _).steady.and
      ((Room.framed version).and (Counted.framed base count)).steady)
    (Durable.logged (MakesCurrent saved)) Clean.firm.steady ?_ ?_)
    (fun _ known => known) (fun _ _ _ holds => holds)
    (fun _ _ _ _ fact holds => ⟨fact, holds⟩) (fun _ _ _ => trivial)
  · intro now sane _ ⟨trailing, room, counted⟩
    have rows := counted.newVersion room new loads
    refine trailing.publishes sane ?_ (rows.consistent sane.coherent.keyed sane.consistent)
      rows.evolves ?_ ?_ (fun strict => absurd strict lax) (fun strict => absurd strict lax)
    · intro write member
      simp only [versionRows, List.mem_cons, List.not_mem_nil, or_false] at member
      rcases member with rfl | rfl
      · exact .inr rfl
      · exact .inl rfl
    · intro write member isVersion
      simp only [versionRows, List.mem_cons, List.not_mem_nil, or_false] at member
      rcases member with rfl | rfl
      · exact room.1
      · cases isVersion
    · intro t row member absent
      simp only [versionRows, List.mem_cons, List.not_mem_nil, or_false] at member
      rcases member with same | same
      · cases same
        exact room.1
      · cases same
        change now.store.committed.find? .documents document.id = none at absent
        rw [rows.found] at absent
        cases absent
  · intro now after _ _ _ _ ⟨⟨audits, own, events⟩, _, _⟩ commits
    refine ⟨commits.logged ⟨document, ?_, ?_, ?_⟩, commits.own⟩
    · intro db
      rw [own, Write.applyAll_append, Write.find?_applyAll_other]
      · exact Leaves.last [.put .documentVersions (recordFromVersion version)] .documents
          document db
      · intro write member same
        obtain ⟨event, rfl, -⟩ := events write member
        cases congrArg Prod.fst same
    · rw [(versionFromRecord_fields loads).2.2.1]
      exact new.owner.symm
    · rw [(versionFromRecord_fields loads).1]
      exact new.current

end WorkflowForge
