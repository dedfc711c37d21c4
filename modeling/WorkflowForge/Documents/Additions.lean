import WorkflowForge.Application.UploadDocument
import WorkflowForge.Documents.ObjectMethods

/-! Adding documents and versions: the transactions that are not mild. -/

namespace WorkflowForge

open Python Transactions Concurrency

variable {u : Unicode} {regime : Regime} {i : Nat} {needs frame : World → Prop}

/-- INSERT from known uncommitted writes. -/
theorem insert_exact {t : TableName} {row : TableRow t} {writes : List (Write schema)}
    {facts extra : World → Prop} (framed : Framed u regime i frame)
    (issued : ∀ world, needs world → world.Issued (primaryKey t row))
    (lasting : Durable regime i facts) (remains : Framed u regime i extra)
    (learns
      : ∀ now,
          Sane u regime now
          → needs now
          → now.store.own i = writes
          → frame now
          → (now.store.view i).find? t (primaryKey t row) = none
          → rowSound (now.store.view i) t row = true
          → facts now ∧ extra now)
    : Spec u regime i needs (fun world => world.store.own i = writes ∧ frame world)
        (insert t row) (fun _ => facts)
        (fun _ world => world.store.own i = writes ++ [.put t row]
          ∧ frame world ∧ extra world)
        (fun _ => True) := by
  have exactly
      : ∀ (list : List (Write schema)) {shape : World → Prop},
          Framed u regime i shape
          → Steady u regime i (fun world => world.store.own i = list ∧ shape world) :=
    fun list _ framed => (Firm.own (fun own => own = list)).steady.and framed.steady
  have answered
      : Spec u regime i needs (fun world => world.store.own i = writes ∧ frame world)
          (perform (.sql (.insert t row)))
          (fun (answer : Except Violation Unit) world => answer = .ok () → facts world)
          (fun (answer : Except Violation Unit) world => answer = .ok ()
            → world.store.own i = writes ++ [.put t row] ∧ frame world ∧ extra world)
          (fun _ => True) := by
    refine Spec.perform (exactly writes framed) (fun _ => lasting.implies) ?_ ?_ ?_
    · intro answer before after sane sane' rested holds done
      exact exactly _ (framed.and remains) before after sane sane' rested (holds done)
    · intro now _ known _
      refine ⟨?_, by simp [Op.Touches], by simp⟩
      intro t' row' same _
      cases same
      exact issued now known
    · rintro now answer after sane sane' advances known ⟨own, holds⟩ - ran
      obtain ⟨executed, shape⟩ := exec_sql ran
      rcases Store.exec_insert sane.coherent executed with
        ⟨⟨violation, rfl⟩, store⟩ | ⟨rfl, store, absent, sound, -⟩
      · rw [store]
        exact ⟨List.prefix_rfl, by simp, by simp⟩
      · have staged : after = now.staged i (.put t row) := by
          rw [shape, store]
          rfl
        subst staged
        have calm := World.staged_calm advances
        obtain ⟨fact, more⟩ := learns now sane known own holds absent sound
        refine ⟨by rw [calm.log], fun _ => lasting _ _ (.of_calm calm) fact, fun _ => ⟨?_, ?_, ?_⟩⟩
        · rw [← own]
          exact Store.stage_own_self _ _ _
        · exact framed _ _ sane sane' calm (fun _ _ => rfl) holds
        · exact remains _ _ sane sane' calm (fun _ _ => rfl) more
  refine Spec.bind (fun _ => lasting.implies) answered ?_
  intro answer
  cases answer with
  | ok done =>
      refine Spec.mono (Spec.pure (exactly _ (framed.and remains)) (fun _ known => known.2 rfl))
        (fun _ known => known) (fun _ _ _ holds => holds rfl)
        (fun _ _ _ _ fact holds => ⟨fact, holds⟩) (fun _ _ holds => holds)
  | error violation =>
      cases violation with
      | integrity => exact Spec.abandon
      | data => exact Spec.abandon

/-- Flushing new content: a refusal rolls back and raises. -/
theorem orDuplicateContent_spec {flush : App Unit} {shape : World → Prop}
    {facts left : Unit → World → Prop}
    (flushed : Spec u regime i needs shape flush facts left (fun _ => True))
    : Spec u regime i needs shape (orDuplicateContent flush) facts left (fun _ => True) := by
  refine Spec.tryCatch (fun _ => True) flushed ?_
  intro failure
  cases failure with
  | integrityError =>
      exact Spec.bind (fun _ => Durable.const regime i True) sessionRollback_spec
        (fun _ => Spec.abandon)
  | _ => exact Spec.abandon

-----------------------------------------------------------------------------------------
-- New documents
-----------------------------------------------------------------------------------------

/-- A document with its first version, as the domain builds them for a tenant. -/
structure Drafted (u : Unicode) (tenant : TenantContext) (document : Document)
    (version : DocumentVersion)
    : Prop where
  current : document.currentVersionId = version.id
  owner : version.documentId = document.id
  tenancy : document.organizationId = tenant.organizationId
  organization : version.organizationId = document.organizationId
  number : version.versionNumber = 1
  key
    : version.storageObjectKey.value
      = documentContentKeyText version.organizationId version.contentHash.value
  pending : version.storageState = .pending
  lock : document.lockVersion = 1
  registered : document.status = .registered
  name : version.originalFilename = document.displayFilename
  normalized : ∃ filename, normalizeOriginalFilename u filename = .ok document.displayFilename
  creator : document.createdByUserId = tenant.userId
  version_creator : version.createdByUserId = tenant.userId
  media : normalizeMediaType u version.mediaType = .ok version.mediaType
  size : 0 ≤ version.byteSize

theorem drafted {tenant : TenantContext} {documentId versionId : UUID}
    {filename mediaType : Text} {byteSize : Int} {contentHash : ContentHash}
    {sourceType : DocumentSourceType} {sourceReference : Option Text} {now : Timestamp}
    {version : DocumentVersion} {document : Document}
    (created
      : DocumentVersion.create u versionId tenant.organizationId documentId 1 filename
          mediaType byteSize contentHash .pending now tenant.userId = .ok version)
    (registered
      : Document.register u documentId tenant.organizationId filename sourceType
          sourceReference version tenant.userId now = .ok document)
    : Drafted u tenant document version
      ∧ document.id = documentId ∧ version.id = versionId
      ∧ version.byteSize = byteSize ∧ version.contentHash = contentHash := by
  obtain ⟨name, media, -, -, -, normalized, media_ok, size, rfl⟩ :=
    DocumentVersion.create_eq_ok.mp created
  obtain ⟨name', reference, normalized', rfl⟩ := Document.register_eq_ok registered
  have names : name = name' := by
    rw [normalized] at normalized'
    exact Except.ok.inj normalized'
  subst names
  refine ⟨?_, rfl, rfl, rfl, rfl⟩
  exact {
    current := rfl
    owner := rfl
    tenancy := rfl
    organization := rfl
    number := rfl
    key := rfl
    pending := rfl
    lock := rfl
    registered := rfl
    name := rfl
    normalized := ⟨filename, normalized⟩
    creator := rfl
    version_creator := rfl
    media := normalizeMediaType_idem media_ok
    size := size
  }

/-- When the document row loads again, so does the row of its version. -/
theorem Drafted.loads {tenant : TenantContext} {document loaded : Document}
    {version : DocumentVersion} (drafted : Drafted u tenant document version)
    (reloaded : documentFromRecord u document = .ok loaded)
    : document.Loads u ∧ (recordFromVersion version).Loads u := by
  refine ⟨⟨drafted.normalized, loaded, reloaded⟩, ?_⟩
  obtain ⟨name, reference, accepted, -⟩ := Document.postInit_eq_ok.mp reloaded
  have safe
      : ensureKeyIsTenantSafe version.storageObjectKey version.organizationId
          (documentContentPrefix version.organizationId) = .ok () := by
    have same : version.storageObjectKey
        = documentContentKey version.organizationId version.contentHash := by
      cases hkey : version.storageObjectKey
      have value := drafted.key
      rw [hkey] at value
      simp only [documentContentKey, StorageObjectKey.mk.injEq]
      exact value
    rw [same]
    exact ensureKeyIsTenantSafe_documentContent _ _
  simp only [DocumentVersionRecord.Loads, versionFromRecord, recordFromVersion,
    ContentHash.parse_value, StorageObjectKey.parse_value, bind, Except.bind]
  refine ⟨_, DocumentVersion.postInit_eq_ok.mpr ⟨name, version.mediaType, ?_, rfl⟩⟩
  exact {
    organization := by
      change version.organizationId ≠ 0
      rw [drafted.organization]
      exact accepted.organization
    creator := by
      change version.createdByUserId ≠ 0
      rw [drafted.version_creator]
      exact tenant.user_ne_nil
    number := by
      change 0 < version.versionNumber
      rw [drafted.number]
      exact Nat.one_pos
    filename := by
      change normalizeOriginalFilename u version.originalFilename = .ok name
      rw [drafted.name]
      exact accepted.filename
    media := drafted.media
    size := drafted.size
    key := safe
  }

-----------------------------------------------------------------------------------------
-- Transactions that add content
-----------------------------------------------------------------------------------------

/-- The session has these writes, perhaps followed by audit events. -/
def Trailing (i : Nat) (base : List (Write schema)) (world : World) : Prop :=
  ∃ audits,
    world.store.own i = base ++ audits
    ∧ ∀ write ∈ audits, ∃ event : AuditEvent,
        write = .put .securityAuditEvents event ∧ world.DrawnBy i event.id

theorem Trailing.of_own {base : List (Write schema)} {world : World}
    (own : world.store.own i = base)
    : Trailing i base world :=
  ⟨[], by rw [own, List.append_nil], fun _ member => by cases member⟩

theorem Trailing.firm (base : List (Write schema)) : Firm u regime i (Trailing i base) := by
  intro before after _ _ calm same ⟨audits, own, events⟩
  refine ⟨audits, same.trans own, ?_⟩
  intro write member
  obtain ⟨event, isEvent, drawn⟩ := events write member
  exact ⟨event, isEvent, drawn.mono calm.ids calm.drawn⟩

/-- Audit events after the writes of the transaction. -/
theorem recordEvent_trailing {services : Services} {eventType : AuditEventType}
    {outcome : AuditOutcome} {tenant : TenantContext}
    {requestContext : Option AuditRequestContext} {now : Timestamp}
    {metadata : List (String × AuditValue)} {base : List (Write schema)}
    (framed : Framed u regime i frame)
    : Spec u regime i needs (fun world => Trailing i base world ∧ frame world)
        (recordEvent services eventType outcome tenant requestContext now metadata)
        (fun _ _ => True) (fun _ world => Trailing i base world ∧ frame world)
        (fun _ => True) := by
  have steady : Steady u regime i (fun world => Trailing i base world ∧ frame world) :=
    (Trailing.firm base).steady.and framed.steady
  unfold recordEvent
  cases services.audited with
  | false => exact Spec.pure steady (fun _ _ => trivial)
  | true =>
      simp only [if_true]
      refine Spec.bind (fun id => (Durable.const regime i _).and (Durable.drawnBy id))
        ((newUuid_spec steady).mono (fun _ known => known) (fun _ _ _ holds => holds)
          (fun _ _ _ _ fact holds => ⟨fact, holds.1⟩) (fun _ _ holds => holds)) ?_
      intro id
      refine Silent.before steady enter_silent ?_ (fun _ _ => trivial)
      intro _
      refine Spec.tryCatch (fun _ => True) ?_ (fun _ => Spec.abandon)
      -- The events written so far are fixed before the next one is inserted.
      have each
          : ∀ audits : List (Write schema),
              Spec u regime i (fun world => needs world ∧ id ≠ 0 ∧ world.DrawnBy i id)
                (fun world => world.store.own i = base ++ audits
                  ∧ frame world
                  ∧ ∀ write ∈ audits, ∃ event : AuditEvent,
                      write = .put .securityAuditEvents event ∧ world.DrawnBy i event.id)
                (insert .securityAuditEvents {
                  id, eventType, outcome
                  occurredAt := now
                  actorUserId := tenant.userId
                  organizationId := tenant.organizationId
                  requestContext := requestContext.getD {}
                  metadata
                })
                (fun _ _ => True) (fun _ world => Trailing i base world ∧ frame world)
                (fun _ => True) := by
        intro audits
        have events
            : Durable regime i (fun world => ∀ write ∈ audits, ∃ event : AuditEvent,
                write = .put .securityAuditEvents event ∧ world.DrawnBy i event.id) :=
          Durable.forall fun write => Durable.implies (Durable.exists fun event =>
            (Durable.const regime i _).and (Durable.drawnBy event.id))
        refine Spec.mono (insert_exact (framed.and events.framed)
          (fun _ known => ⟨i, known.2.2⟩) (Durable.const regime i True) (Framed.const True)
          (fun _ _ _ _ _ _ _ => ⟨trivial, trivial⟩))
          (fun _ known => known) (fun _ _ _ holds => holds) ?_ (fun _ _ holds => holds)
        intro _ world _ known fact ⟨own, ⟨held, earlier⟩, _⟩
        refine ⟨trivial, ⟨audits ++ [_], by rw [own, List.append_assoc], ?_⟩, held⟩
        intro write member
        rcases List.mem_append.mp member with old | last
        · exact earlier write old
        · exact ⟨_, List.mem_singleton.mp last, known.2.2⟩
      refine Spec.mono (Spec.exists each) (fun _ known => known) ?_
        (fun _ _ _ _ fact holds => ⟨fact, holds⟩) (fun _ _ holds => holds)
      exact fun _ _ _ ⟨⟨audits, own, events⟩, held⟩ => ⟨audits, own, held, events⟩

/-- What a transaction publishes that writes documents and versions and then audit events.
Witness: the events are mild writes after the content.
-/
theorem Trailing.publishes {world : World} {base : List (Write schema)}
    (sane : Sane u regime world) (trailing : Trailing i base world)
    (content
      : ∀ write ∈ base,
          write.target.1 = TableName.documents ∨ write.target.1 = TableName.documentVersions)
    (consistent : Consistent u (Write.applyAll base world.store.committed))
    (evolves
      : Evolves world.store.committed (Write.applyAll base world.store.committed))
    (owned
      : ∀ write ∈ base,
          write.target.1 = TableName.documentVersions → world.DrawnBy i write.target.2)
    (inserted
      : ∀ t row,
          .put t row ∈ base
          → world.store.committed.find? t (primaryKey t row) = none
          → world.DrawnBy i (primaryKey t row))
    (kept
      : regime.strict
        → ∀ row : DocumentVersionRecord,
            world.store.committed.find? .documentVersions row.id = some row
            → row.storageState = .stored
            → (Write.applyAll base world.store.committed).find? .documentVersions row.id
              = some row)
    (stored
      : regime.strict
        → ∀ version ∈ (Write.applyAll base world.store.committed) .documentVersions,
            version.storageState = .stored → world.Holds version)
    : Publishes u regime i world := by
  obtain ⟨audits, own, events⟩ := trailing
  have view
      : world.store.view i
        = Write.applyAll audits (Write.applyAll base world.store.committed) := by
    rw [Store.view, own, Write.applyAll_append]
  have keyed := Write.applyAll_keyed sane.coherent.keyed base
  have mild
      : ∀ write ∈ audits, Mild u (Write.applyAll base world.store.committed) write := by
    intro write member
    obtain ⟨event, rfl, -⟩ := events write member
    trivial
  obtain ⟨consistent', evolves'⟩ := consistent.mild keyed mild
  have elsewhere
      : ∀ (t : TableName), t ≠ .securityAuditEvents
        → world.store.view i t = (Write.applyAll base world.store.committed) t := by
    intro t other
    rw [view]
    apply Write.applyAll_table_other
    intro write member same
    obtain ⟨event, rfl, -⟩ := events write member
    exact other same.symm
  have untouched
      : ∀ (t : TableName), t ≠ .securityAuditEvents → t ≠ .documents → t ≠ .documentVersions
        → world.store.view i t = world.store.committed t := by
    intro t noEvent noDocument noVersion
    rw [elsewhere t noEvent]
    apply Write.applyAll_table_other
    intro write member same
    rcases content write member with isDocument | isVersion
    · exact noDocument (same.symm.trans isDocument)
    · exact noVersion (same.symm.trans isVersion)
  have find_version
      : ∀ id, (world.store.view i).find? .documentVersions id
          = (Write.applyAll base world.store.committed).find? .documentVersions id := by
    intro id
    simp only [Db.find?]
    rw [elsewhere .documentVersions (by decide)]
  have split
      : ∀ write ∈ world.store.own i,
          write ∈ base ∨ ∃ event : AuditEvent,
            write = .put .securityAuditEvents event ∧ world.DrawnBy i event.id := by
    intro write member
    rw [own] at member
    rcases List.mem_append.mp member with first | last
    · exact .inl first
    · exact .inr (events write last)
  refine {
    consistent := by rw [view]; exact consistent'
    evolves := by rw [view]; exact evolves.trans evolves'
    owned := ?_
    inserted := ?_
    users := ?_
    organizations := ?_
    kept := ?_
    stored := ?_
    backed := ?_
  }
  · intro write member isVersion
    rcases split write member with inBase | ⟨event, rfl, -⟩
    · exact owned write inBase isVersion
    · cases isVersion
  · intro t row _ member absent
    rcases split _ member with inBase | ⟨event, same, drawn⟩
    · exact inserted t row inBase absent
    · cases same
      exact drawn
  · intro user present
    simp only [hasUser] at present ⊢
    rw [untouched .users (by decide) (by decide) (by decide)]
    exact present
  · intro organizationId present
    simp only [hasOrganization] at present ⊢
    rw [untouched .organizations (by decide) (by decide) (by decide)]
    exact present
  · intro strict row found isStored
    rw [find_version]
    exact kept strict row found isStored
  · intro strict version member isStored
    rw [elsewhere .documentVersions (by decide)] at member
    exact stored strict version member isStored
  · intro strict record member completed
    rw [untouched .uploadIdempotency (by decide) (by decide) (by decide)] at member
    obtain ⟨version, found, points, isStored⟩ := sane.backed strict record member completed
    refine ⟨version, ?_, points, isStored⟩
    rw [find_version]
    exact kept strict version found isStored

/-- The two writes of new content. -/
def newRows (document : Document) (version : DocumentVersion) : List (Write schema) :=
  [.put .documents document, .put .documentVersions (recordFromVersion version)]

/-- The ids of the new rows are still free. -/
def Vacant (i : Nat) (document : Document) (version : DocumentVersion) (world : World) : Prop :=
  (world.DrawnBy i document.id ∧ world.store.committed.find? .documents document.id = none)
  ∧ (world.DrawnBy i version.id
      ∧ world.store.committed.find? .documentVersions version.id = none)

/-- The row of an id that the session drew is missing. -/
theorem Framed.missing (t : TableName) (id : UUID) (written : t.written = true)
    : Framed u regime i (fun world =>
        world.DrawnBy i id ∧ world.store.committed.find? t id = none) :=
  fun _ _ _ _ calm _ holds =>
    ⟨holds.1.mono calm.ids calm.drawn, calm.absent t id written holds.1 holds.2⟩

theorem Vacant.framed (document : Document) (version : DocumentVersion)
    : Framed u regime i (Vacant i document version) :=
  (Framed.missing .documents document.id rfl).and
    (Framed.missing .documentVersions version.id rfl)

/-- Inserting new content. -/
theorem addDocument_spec {tenant : TenantContext} {document : Document}
    {version : DocumentVersion} (framed : Framed u regime i frame)
    (drafted : Drafted u tenant document version)
    (drawn
      : ∀ world, needs world → world.DrawnBy i document.id ∧ world.DrawnBy i version.id)
    : Spec u regime i needs (fun world => Clean i world ∧ frame world)
        (DocumentRepository.addDocument u document version)
        (fun loaded world => documentFromRecord u document = .ok loaded ∧ Account tenant world)
        (fun _ world => Trailing i (newRows document version) world
          ∧ frame world ∧ Vacant i document version world)
        (fun _ => True) := by
  have start : Steady u regime i (fun world => Clean i world ∧ frame world) :=
    Clean.firm.steady.and framed.steady
  refine Silent.before start enter_silent ?_ (fun _ _ => trivial)
  intro _
  have first
      : Spec u regime i needs (fun world => world.store.own i = [] ∧ frame world)
          (insert .documents document) (fun _ => Account tenant)
          (fun _ world => world.store.own i = [] ++ [.put .documents document]
            ∧ frame world
            ∧ (world.DrawnBy i document.id
                ∧ world.store.committed.find? .documents document.id = none))
          (fun _ => True) := by
    refine insert_exact framed (fun world known => ⟨i, (drawn world known).1⟩)
      (Durable.account tenant) (Framed.missing .documents document.id rfl) ?_
    intro now sane known clean _ absent sound
    rw [Store.view_of_own_nil clean] at absent sound
    simp only [rowSound, Bool.and_eq_true] at sound
    refine ⟨⟨?_, ?_⟩, (drawn now known).1, absent⟩
    · rw [← drafted.creator]
      exact sound.1.1.1.1.2
    · rw [← drafted.tenancy]
      exact sound.1.1.1.1.1
  have second
      : Spec u regime i (fun world => needs world ∧ Account tenant world)
          (fun world => world.store.own i = [] ++ [.put .documents document]
            ∧ frame world
            ∧ (world.DrawnBy i document.id
                ∧ world.store.committed.find? .documents document.id = none))
          (insert .documentVersions (recordFromVersion version)) (fun _ => Account tenant)
          (fun _ world => Trailing i (newRows document version) world
            ∧ frame world ∧ Vacant i document version world)
          (fun _ => True) := by
    refine Spec.mono (insert_exact
      (framed.and (Framed.missing .documents document.id rfl))
      (fun world known => ⟨i, (drawn world known.1).2⟩) (Durable.account tenant)
      (Framed.missing .documentVersions version.id rfl) ?_)
      (fun _ known => known) (fun _ _ _ holds => holds) ?_ (fun _ _ holds => holds)
    · intro now sane known own _ absent _
      refine ⟨known.2, (drawn now known.1).2, ?_⟩
      change (now.store.view i).find? .documentVersions version.id = none at absent
      rw [Store.view, own, Write.find?_applyAll_other _ _ (by simp [Write.target])] at absent
      exact absent
    · rintro - world - - account ⟨own, ⟨held, vacant⟩, vacant'⟩
      exact ⟨account, .of_own own, held, vacant, vacant'⟩
  have flushed
      : Spec u regime i needs (fun world => world.store.own i = [] ∧ frame world)
          (do
            insert .documents document
            insert .documentVersions (recordFromVersion version))
          (fun _ => Account tenant)
          (fun _ world => Trailing i (newRows document version) world
            ∧ frame world ∧ Vacant i document version world)
          (fun _ => True) :=
    Spec.bind (fun _ => Durable.account tenant) first (fun _ => second)
  have added
      : Steady u regime i (fun world => Trailing i (newRows document version) world
          ∧ frame world ∧ Vacant i document version world) :=
    (Trailing.firm _).steady.and (framed.steady.and (Vacant.framed document version).steady)
  refine Spec.bind (fun _ => Durable.account tenant) (orDuplicateContent_spec flushed) ?_
  intro _
  refine Spec.mono (Spec.lift added (fun loaded reloaded _ _ => reloaded))
    (fun _ known => known) (fun _ _ _ holds => holds) ?_ (fun _ _ _ => trivial)
  exact fun _ _ _ known reloaded holds => ⟨⟨reloaded, known.2⟩, holds⟩

/-- What the new rows are, once they can be loaded. -/
theorem Vacant.newDocument {tenant : TenantContext} {document loaded : Document}
    {version : DocumentVersion} {world : World} (vacant : Vacant i document version world)
    (drafted : Drafted u tenant document version)
    (reloaded : documentFromRecord u document = .ok loaded)
    : NewDocument u world.store.committed document (recordFromVersion version) where
  document_absent := vacant.1.2
  version_absent := vacant.2.2
  current := drafted.current
  owner := drafted.owner
  organization := drafted.organization
  number := drafted.number
  key := drafted.key
  lock := drafted.lock
  active := by rw [drafted.registered]; decide
  document_loads := (drafted.loads reloaded).1
  version_loads := (drafted.loads reloaded).2

/-- Committing new content. -/
theorem commit_new {tenant : TenantContext} {document loaded : Document}
    {version : DocumentVersion} (framed : Framed u regime i frame)
    (objects : AboutObjects frame) (drafted : Drafted u tenant document version)
    (reloaded : documentFromRecord u document = .ok loaded)
    : Spec u regime i needs
        (fun world => Trailing i (newRows document version) world
          ∧ frame world ∧ Vacant i document version world)
        commit
        (fun _ world => Descends document world ∧ HasVersion document.id version.id world)
        (fun _ world => Clean i world ∧ frame world
          ∧ Fresh i (recordFromVersion version) world)
        (fun _ => True) := by
  have view
      : ∀ now : World, Trailing i (newRows document version) now
        → (∀ (t : TableName) id, t ≠ .securityAuditEvents
            → (now.store.view i).find? t id
              = (addRows now.store.committed document (recordFromVersion version)).find? t id) := by
    rintro now ⟨audits, own, events⟩ t id other
    rw [Store.view, own, Write.applyAll_append]
    apply Write.find?_applyAll_other
    intro write member same
    obtain ⟨event, rfl, -⟩ := events write member
    exact other (congrArg Prod.fst same).symm
  refine Spec.mono (commit_spec
    ((Trailing.firm _).steady.and (framed.steady.and (Vacant.framed document version).steady))
    ((Durable.descends document).and (Durable.hasVersion document.id version.id))
    (Clean.firm.steady.and (framed.and (Fresh.framed (recordFromVersion version))).steady)
    ?_ ?_) (fun _ known => known) (fun _ _ _ holds => holds)
    (fun _ _ _ _ fact holds => ⟨fact, holds⟩) (fun _ _ _ => trivial)
  · rintro now sane - ⟨trailing, -, vacant⟩
    have new := vacant.newDocument drafted reloaded
    refine trailing.publishes sane ?_ (new.consistent sane.coherent.keyed sane.consistent)
      new.evolves ?_ ?_ ?_ ?_
    · intro write member
      simp only [newRows, List.mem_cons, List.not_mem_nil, or_false] at member
      rcases member with rfl | rfl
      · exact .inl rfl
      · exact .inr rfl
    · intro write member isVersion
      simp only [newRows, List.mem_cons, List.not_mem_nil, or_false] at member
      rcases member with rfl | rfl
      · cases isVersion
      · exact vacant.2.1
    · intro t row member _
      simp only [newRows, List.mem_cons, List.not_mem_nil, or_false] at member
      rcases member with same | same
      · cases same
        exact vacant.1.1
      · cases same
        exact vacant.2.1
    · intro _ row found _
      exact new.evolves_find row found
    · intro strict row member isStored
      change row ∈ addRows now.store.committed document (recordFromVersion version)
        .documentVersions at member
      rw [addRows_versions new.version_absent] at member
      rcases List.mem_append.mp member with old | last
      · exact sane.stored strict row old isStored
      · rw [List.mem_singleton.mp last] at isStored
        have pending : (recordFromVersion version).storageState = .pending := drafted.pending
        rw [pending] at isStored
        cases isStored
  · rintro now after sane - advances - ⟨trailing, held, vacant⟩ commits
    have new := vacant.newDocument drafted reloaded
    have version_found
        : after.store.committed.find? .documentVersions version.id
          = some (recordFromVersion version) := by
      rw [commits.committed, view now trailing .documentVersions _ (by decide)]
      exact addRows_find_new
    refine ⟨⟨⟨document, ?_, .refl document⟩, _, version_found, drafted.owner⟩, commits.own, ?_, ?_⟩
    · rw [commits.committed, view now trailing .documents _ (by decide)]
      exact addRows_find_added
    · exact objects now after advances.ids advances.drawn commits.objects held
    · exact ⟨vacant.2.1.mono advances.ids advances.drawn, version_found⟩

end WorkflowForge
