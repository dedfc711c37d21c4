import WorkflowForge.Documents.Versions

/-! The use cases of the document service as sessions. -/

namespace WorkflowForge

open Python Transactions Concurrency

variable {u : Unicode} {regime : Regime} {i : Nat} {needs frame : World → Prop}

/-- Forget the shapes that a method leaves. -/
theorem Spec.loosely {α : Type} {shape failed : World → Prop} {method : App α}
    {facts left : α → World → Prop}
    (spec : Spec u regime i needs shape method facts left failed)
    : Spec u regime i needs shape method facts (fun _ _ => True) (fun _ => True) :=
  spec.mono (fun _ known => known) (fun _ _ _ holds => holds)
    (fun _ _ _ _ fact _ => ⟨fact, trivial⟩) (fun _ _ _ => trivial)

/-- The end of a use case: what it learned is kept. -/
theorem Spec.finished {α : Type} {shape : World → Prop} {value : α}
    {facts : α → World → Prop} (holds : ∀ world, needs world → facts value world)
    : Spec u regime i needs shape (Pure.pure value) facts (fun _ _ => True)
        (fun _ => True) := by
  have done
      : Spec u regime i needs (fun _ => True) (Pure.pure value) facts (fun _ _ => True)
          (fun _ => True) :=
    Spec.pure (Firm.const True).steady holds
  exact done.mono (fun _ known => known) (fun _ _ _ _ => trivial)
    (fun _ _ _ _ fact _ => ⟨fact, trivial⟩) (fun _ _ _ => trivial)

/-- A silent method at the start of a use case. -/
theorem Silent.leads {α β : Type} {shape : World → Prop} {method : App α} {next : α → App β}
    {middle : α → World → Prop} {facts left : β → World → Prop}
    (steady : Steady u regime i shape) (lasting : ∀ value, Durable regime i (middle value))
    (first : Silent u regime i needs method middle)
    (second
      : ∀ value,
          Spec u regime i (fun world => needs world ∧ middle value world) shape (next value)
            facts left (fun _ => True))
    : Spec u regime i needs shape (method >>= next) facts left (fun _ => True) := by
  refine Spec.bind lasting ?_ second
  exact (first shape steady).mono (fun _ known => known) (fun _ _ _ holds => holds)
    (fun _ _ _ _ fact holds => ⟨fact, holds⟩) (fun _ _ _ => trivial)

theorem Spec.bind_loose {α β : Type} {shape failed : World → Prop} {method : App α}
    {next : α → App β} {middle left : α → World → Prop} {facts final : β → World → Prop}
    (lasting : ∀ value, Durable regime i (middle value))
    (first : Spec u regime i needs shape method middle left failed)
    (second
      : ∀ value,
          Spec u regime i (fun world => needs world ∧ middle value world) (left value)
            (next value) facts final (fun _ => True))
    : Spec u regime i needs shape (method >>= next) facts final (fun _ => True) := by
  refine Spec.bind lasting ?_ second
  exact first.mono (fun _ known => known) (fun _ _ _ holds => holds)
    (fun _ _ _ _ fact holds => ⟨fact, holds⟩) (fun _ _ _ => trivial)

/-- `await _rollback(...); raise`. -/
theorem reraise_spec {α : Type} {failure : Exn} {facts left : α → World → Prop}
    : Spec u regime i needs (fun _ => True) (rollback >>= fun _ => throw failure) facts left
        (fun _ => True) :=
  Spec.bind (fun _ => Durable.const regime i True) rollback_spec (fun _ => Spec.abandon)

theorem orRollback_spec {α : Type} {shape : World → Prop} {block : App α}
    {facts left : α → World → Prop}
    (spec : Spec u regime i needs shape block facts left (fun _ => True))
    : Spec u regime i needs shape (orRollback block) facts left (fun _ => True) := by
  exact Spec.tryCatch (fun _ => True) spec (fun _ => reraise_spec)

/-- A session rolls back whatever its call left open. -/
theorem request_spec {α : Type} {shape : World → Prop} {call : App α}
    {facts : α → World → Prop} (lasting : ∀ value, Durable regime i (facts value))
    (spec
      : Spec u regime i needs shape call facts (fun _ _ => True) (fun _ => True))
    : Spec u regime i needs shape (request call) facts (fun _ _ => True)
        (fun _ => True) := by
  have caught
      : Spec u regime i needs shape
          (tryCatch (do return Except.ok (← call)) (fun failure => return .error failure))
          (fun (result : Except Exn α) world => ∀ value, result = .ok value
            → facts value world)
          (fun _ _ => True) (fun _ => True) := by
    refine Spec.tryCatch (fun _ => True) ?_ ?_
    · refine Spec.bind lasting spec ?_
      intro value
      refine Spec.finished (fun _ known result same => ?_)
      cases same
      exact known.2
    · exact fun failure => Spec.finished (fun _ _ value same => by cases same)
  refine Spec.bind (fun result => Durable.forall fun value => (lasting value).implies) caught ?_
  intro result
  refine Spec.bind (fun _ => Durable.const regime i True) sessionRollback_spec ?_
  intro _
  refine (Spec.lift Clean.firm.steady ?_).loosely
  exact fun value same world known => known.1.2 value same

-----------------------------------------------------------------------------------------
-- Registration
-----------------------------------------------------------------------------------------

/-- The pair of rows for new content. -/
theorem draft_silent {tenant : TenantContext} {filename mediaType : Text} {byteSize : Int}
    {contentHash : ContentHash} {sourceType : DocumentSourceType}
    {sourceReference : Option Text} {timestamp : Timestamp}
    : Silent u regime i needs
        (do
          let documentId ← newUuid
          let versionId ← newUuid
          let version ← liftExcept
            (DocumentVersion.create u versionId tenant.organizationId documentId 1 filename
              mediaType byteSize contentHash .pending timestamp tenant.userId)
          let document ← liftExcept
            (Document.register u documentId tenant.organizationId filename sourceType
              sourceReference version tenant.userId timestamp)
          return (document, version))
        (fun pair world =>
          (Drafted u tenant pair.1 pair.2
            ∧ pair.2.byteSize = byteSize
            ∧ pair.2.contentHash = contentHash)
          ∧ world.DrawnBy i pair.1.id
          ∧ world.DrawnBy i pair.2.id) := by
  have drawn : ∀ id : UUID, Durable regime i (fun world => id ≠ 0 ∧ world.DrawnBy i id) :=
    fun id => (Durable.const regime i _).and (Durable.drawnBy id)
  refine Silent.bind drawn newUuid_silent ?_
  intro documentId
  refine Silent.bind drawn newUuid_silent ?_
  intro versionId
  refine Silent.bind (fun _ => Durable.const regime i _)
    (Silent.lift (fun version created _ _ => created)) ?_
  intro version
  refine Silent.bind (fun _ => Durable.const regime i _)
    (Silent.lift (fun document registered _ _ => registered)) ?_
  intro document
  refine Silent.pure ?_
  rintro world ⟨⟨⟨⟨-, -, documentDrawn⟩, -, versionDrawn⟩, created⟩, registered⟩
  obtain ⟨draft, rfl, rfl, size, hash⟩ := drafted created registered
  exact ⟨⟨draft, size, hash⟩, documentDrawn, versionDrawn⟩

-----------------------------------------------------------------------------------------
-- Calls under the row lock
-----------------------------------------------------------------------------------------

/-- Continue with the document that was read under lock. -/
theorem underLock_spec {α : Type} {organizationId documentId : UUID} {failed : World → Prop}
    {next : Option Document → App α} {facts left : α → World → Prop}
    (framed : Framed u regime i frame) (fails : ∀ world, frame world → failed world)
    (missing
      : Spec u regime i needs (fun world => Clean i world ∧ frame world) (next none) facts
          left failed)
    (locked
      : ∀ document base,
          documentFromRecord u base = .ok document
          → base.id = documentId
          → base.organizationId = organizationId
          → document.Settled u
          → Spec u regime i needs
              (fun world => (Clean i world ∧ frame world) ∧ Locked i base world)
              (next (some document)) facts left failed)
    : Spec u regime i needs (fun world => Clean i world ∧ frame world)
        (DocumentRepository.getDocumentForUpdate u organizationId documentId >>= next) facts left
        failed := by
  refine Spec.bind (fun _ => Durable.const regime i _)
    (Spec.mono (DocumentRepository.getDocumentForUpdate_spec framed) (fun _ known => known)
      (fun _ _ _ holds => holds) (fun _ _ _ _ fact holds => ⟨fact, holds⟩)
      (fun world _ holds => fails world holds.2)) ?_
  intro result
  cases result with
  | none =>
      exact missing.mono (fun _ known => known.1) (fun _ _ _ holds => holds.1)
        (fun _ _ _ _ fact holds => ⟨fact, holds⟩) (fun _ _ holds => holds)
  | some document =>
      have chosen
          : Spec u regime i
              (fun world => needs world ∧ ∀ value, some document = some value
                → value.id = documentId)
              (fun world => ∃ base, (Clean i world ∧ frame world)
                ∧ LockedAs u i organizationId document base world)
              (next (some document)) facts left failed := by
        refine Spec.exists fun base => ?_
        refine Spec.of_state _ (fun world _ known holds => And.intro known.2 holds.2.1) ?_
        rintro ⟨id, loaded, tenant, settled⟩
        have same : base.id = documentId := by
          rw [← id document rfl, documentFromRecord_fields loaded]
        exact (locked document base loaded same tenant settled).mono (fun _ known => known.1)
          (fun _ _ _ holds => ⟨holds.1, holds.2.2⟩)
          (fun _ _ _ _ fact holds => ⟨fact, holds⟩) (fun _ _ holds => holds)
      refine chosen.mono (fun _ known => known) ?_
        (fun _ _ _ _ fact holds => ⟨fact, holds⟩) (fun _ _ holds => holds)
      intro world _ _ holds
      obtain ⟨base, locked⟩ := holds.2 document rfl
      exact ⟨base, holds.1, locked⟩

/-- The session has committed nothing. -/
def Uncommitted (i : Nat) (world : World) : Prop := (world.store.history i).log = []

theorem Uncommitted.framed : Framed u regime i (Uncommitted i) :=
  fun _ _ _ _ calm _ holds => calm.log.trans holds

/-- The committed document is archived. -/
def Archived (id : UUID) (world : World) : Prop :=
  ∃ row, world.store.committed.find? .documents id = some row ∧ row.status = .archived

theorem Durable.archived (id : UUID) : Durable regime i (Archived id) := by
  rintro before after progress ⟨row, found, archived⟩
  obtain ⟨row', found', becomes⟩ := progress.evolves.documents id row found
  rcases becomes with rfl | ⟨-, active, -⟩
  · exact ⟨_, found', archived⟩
  · exact absurd archived active

/-- A change of the loaded document is a change of its row. -/
theorem Follows.of_loaded {base document result : Document}
    (loaded : documentFromRecord u base = .ok document) (follows : Follows u document result)
    : Follows u base result := by
  have fields := documentFromRecord_fields loaded
  have status : document.status = base.status := by rw [fields]
  exact {
    id := by rw [follows.id, fields]
    organization := by rw [follows.organization, fields]
    createdAt := by rw [follows.createdAt, fields]
    creator := by rw [follows.creator, fields]
    lock := by rw [follows.lock, fields]
    active := by rw [← status]; exact follows.active
    settled := follows.settled
  }

theorem follows_of_archive {base document archived : Document} {actorUserId : UUID}
    {timestamp : Timestamp} (loaded : documentFromRecord u base = .ok document)
    (settled : document.Settled u)
    (moved : document.archive u actorUserId timestamp = .ok archived)
    : Follows u base archived ∧ archived.currentVersionId = base.currentVersionId := by
  obtain ⟨active, rfl, settled'⟩ := Document.archive_eq_ok settled moved
  refine ⟨.of_loaded loaded ⟨rfl, rfl, rfl, rfl, rfl, active, settled'⟩, ?_⟩
  rw [documentFromRecord_fields loaded]

/-- The session committed this document, if each of its swaps matches. -/
def Saves (regime : Regime) (i : Nat) (document : Document) (writes : List (Write schema))
    : Prop :=
  regime.matched i → Leaves writes .documents document

theorem Saves.lenient (document : Document) : Lenient (Saves regime i document) :=
  (Lenient.leaves_document document).implies

-----------------------------------------------------------------------------------------
-- The use cases
-----------------------------------------------------------------------------------------

namespace DocumentService

variable {services : Services}

theorem newRegistration_silent {command : DocumentRegistrationCommand}
    {tenant : TenantContext} {contentHash : ContentHash} {timestamp : Timestamp}
    : Silent services.platform.unicode regime i needs
        (newRegistration services command tenant contentHash timestamp)
        (fun pair world =>
          (Drafted services.platform.unicode tenant pair.1 pair.2
            ∧ pair.2.byteSize = command.byteSize
            ∧ pair.2.contentHash = contentHash)
          ∧ world.DrawnBy i pair.1.id
          ∧ world.DrawnBy i pair.2.id) :=
  draft_silent

/-- Adding new content and its audit event, committed together. -/
theorem registerDocument_spec {command : DocumentRegistrationCommand}
    {tenant : TenantContext} {now : Option Datetime}
    : Spec services.platform.unicode regime i needs (Clean i)
        (registerDocument services command tenant now) (fun _ _ => True) (fun _ _ => True)
        (fun _ => True) := by
  have clean : Steady services.platform.unicode regime i (Clean i) := Clean.firm.steady
  refine Silent.leads clean (fun _ => Durable.const regime i True)
    (Silent.lift (fun _ _ _ _ => trivial)) ?_
  intro _
  refine Silent.leads clean (fun _ => Durable.const regime i True) nowOr_silent ?_
  intro timestamp
  refine Silent.leads clean (fun _ => Durable.const regime i True)
    (Silent.lift (fun _ _ _ _ => trivial)) ?_
  intro contentHash
  have lasting
      : ∀ result : Option Document,
          Durable regime i (fun world => ∀ document, result = some document
            → Found regime tenant.organizationId document world) :=
    fun _ => Durable.forall fun document => (Found.durable _ document).implies
  refine Spec.bind_loose lasting
    (DocumentRepository.findDocumentByTenantContentHash_spec clean (fun _ holds => holds)) ?_
  intro existing
  cases existing with
  | some existing => exact Spec.finished (fun _ _ => trivial)
  | none =>
      refine Silent.leads clean
        (fun pair => (Durable.const regime i _).and
          ((Durable.drawnBy pair.1.id).and (Durable.drawnBy pair.2.id)))
        newRegistration_silent ?_
      rintro ⟨document, version⟩
      refine Spec.tryCatch (fun _ => True) ?_ ?_
      · refine Spec.of_state _ (fun world _ known _ => known.2.1.1) ?_
        intro draft
        refine Spec.bind
          (fun loaded => (Durable.const regime i _).and (Durable.account tenant))
          (Spec.mono (addDocument_spec (Framed.const True) draft (fun _ known => known.2.2))
            (fun _ known => known) (fun _ _ _ holds => ⟨holds, trivial⟩)
            (fun _ _ _ _ fact holds => ⟨fact, holds⟩) (fun _ _ holds => holds)) ?_
        intro saved
        refine Spec.of_state _ (fun world _ known _ => known.2.1) ?_
        intro reloaded
        refine Spec.bind (fun _ => Durable.const regime i True)
          (recordEvent_trailing ((Framed.const True).and (Vacant.framed document version))) ?_
        intro _
        refine Spec.bind
          (fun _ => (Durable.descends document).and (Durable.hasVersion document.id version.id))
          (commit_new (Framed.const True) (fun _ _ _ _ _ holds => holds) draft reloaded) ?_
        exact fun _ => Spec.finished (fun _ _ => trivial)
      · intro failure
        cases failure with
        | duplicateDocumentContent message =>
            refine Spec.bind (fun _ => Durable.const regime i True) rollback_spec ?_
            intro _
            refine Spec.bind_loose lasting
              (DocumentRepository.findDocumentByTenantContentHash_spec clean
                (fun _ holds => holds)) ?_
            intro duplicate
            cases duplicate with
            | some duplicate => exact Spec.finished (fun _ _ => trivial)
            | none => exact Spec.abandon
        | _ => exact reraise_spec

theorem createVersion_spec {command : DocumentVersionCreationCommand}
    {tenant : TenantContext} {now : Option Datetime} (lax : ¬ regime.strict)
    : Spec services.platform.unicode regime i needs (Clean i)
        (createVersion services command tenant now)
        (fun saved => Logged i (MakesCurrent saved)) (fun _ _ => True) (fun _ => True) := by
  have clean : Steady services.platform.unicode regime i (Clean i) := Clean.firm.steady
  refine Silent.leads clean (fun _ => Durable.const regime i True)
    (Silent.lift (fun _ _ _ _ => trivial)) ?_
  intro _
  refine Silent.leads clean (fun _ => Durable.const regime i True) nowOr_silent ?_
  intro timestamp
  refine Spec.mono (underLock_spec (Framed.const True) (fun _ _ => trivial) Spec.abandon ?_)
    (fun _ known => known) (fun _ _ _ holds => ⟨holds, trivial⟩)
    (fun _ _ _ _ fact holds => ⟨fact, holds⟩) (fun _ _ holds => holds)
  intro document base loaded same tenancy settled
  rw [← same, ← tenancy]
  refine Spec.mono (Spec.bind (fun _ => Durable.const regime i True)
    DocumentRepository.listVersions_spec ?_)
    (fun _ known => known) (fun _ _ _ holds => ⟨holds.1.1, holds.2⟩)
    (fun _ _ _ _ fact holds => ⟨fact, holds⟩) (fun _ _ holds => holds)
  intro versions
  have counted
      : Steady services.platform.unicode regime i (fun world =>
          Clean i world ∧ Counted i base versions.length world) :=
    Clean.firm.steady.and (Counted.framed base versions.length).steady
  refine Silent.leads counted
    (fun id => (Durable.const regime i _).and (Durable.drawnBy id)) newUuid_silent ?_
  intro versionId
  refine Silent.leads counted (fun _ => Durable.const regime i True)
    (Silent.lift (fun _ _ _ _ => trivial)) ?_
  intro contentHash
  refine Silent.leads counted (fun _ => Durable.const regime i _)
    (Silent.lift (fun version created _ _ => created)) ?_
  intro version
  refine Silent.leads counted (fun _ => Durable.const regime i _)
    (Silent.lift (fun updated moved _ _ => moved)) ?_
  intro updated
  refine Spec.of_state _ (fun world _ known _ => And.intro known.1.2 known.2) ?_
  rintro ⟨created, moved⟩
  obtain ⟨new, rfl⟩ := extends_of_setCurrentVersion loaded rfl settled created moved
  refine orRollback_spec ?_
  refine Spec.bind (fun _ => Durable.const regime i _)
    (addVersion_spec (Counted.framed base versions.length)
      (fun _ known => known.1.1.1.2.2)) ?_
  intro saved
  refine Spec.of_state _ (fun world _ known _ => known.2) ?_
  intro loads
  refine Spec.bind (fun _ => Durable.const regime i True)
    (Spec.mono (setCurrentVersion_spec (Room.framed version) new)
      (fun _ known => known) (fun _ _ _ holds => ⟨holds.1, holds.2.2, holds.2.1⟩)
      (fun _ _ _ _ fact holds => ⟨fact, holds⟩) (fun _ _ holds => holds)) ?_
  intro _
  refine Spec.bind (fun _ => Durable.const regime i True)
    (Spec.mono (recordEvent_trailing
      ((Room.framed version).and (Counted.framed base versions.length)))
      (fun _ known => known) (fun _ _ _ holds => ⟨.of_own holds.1, holds.2⟩)
      (fun _ _ _ _ fact holds => ⟨fact, holds⟩) (fun _ _ holds => holds)) ?_
  intro _
  refine Spec.bind (fun _ => Durable.logged (MakesCurrent saved))
    (commit_version lax new loads) ?_
  exact fun _ => Spec.finished (fun _ known => known.2)

/-- Creating a version of an archived document raises before it writes anything. -/
theorem createVersion_archived {command : DocumentVersionCreationCommand}
    {tenant : TenantContext} {now : Option Datetime}
    (archived : ∀ world, needs world → Archived command.documentId world)
    : Spec services.platform.unicode regime i needs
        (fun world => Clean i world ∧ Uncommitted i world)
        (createVersion services command tenant now) (fun _ _ => False) (fun _ _ => True)
        (Uncommitted i) := by
  have start
      : Steady services.platform.unicode regime i (fun world =>
          Clean i world ∧ Uncommitted i world) :=
    Clean.firm.steady.and Uncommitted.framed.steady
  refine Silent.before start (Silent.lift (fun _ _ _ _ => trivial)) ?_ (fun _ holds => holds.2)
  intro _
  refine Silent.before start nowOr_silent ?_ (fun _ holds => holds.2)
  intro timestamp
  refine underLock_spec Uncommitted.framed (fun _ holds => holds)
    (Spec.mono (Spec.throw start) (fun _ known => known) (fun _ _ _ holds => holds)
      (fun _ _ _ _ fact holds => ⟨fact, holds⟩) (fun _ _ holds => holds.2)) ?_
  intro document base loaded same tenancy settled
  have locked
      : Steady services.platform.unicode regime i (fun world =>
          (Clean i world ∧ Uncommitted i world) ∧ Locked i base world) :=
    start.and (Locked.framed base).steady
  refine Silent.before locked DocumentRepository.listVersions_silent ?_ (fun _ holds => holds.1.2)
  intro versions
  refine Silent.before locked newUuid_silent ?_ (fun _ holds => holds.1.2)
  intro versionId
  refine Silent.before locked (Silent.lift (fun _ _ _ _ => trivial)) ?_
    (fun _ holds => holds.1.2)
  intro contentHash
  refine Silent.before locked (Silent.lift (fun _ _ _ _ => trivial)) ?_
    (fun _ holds => holds.1.2)
  intro version
  refine Spec.of_state (document.status = .archived) ?_ ?_
  · intro world _ known ⟨_, lock⟩
    obtain ⟨row, found, status⟩ := archived world known
    rw [← same, lock.2] at found
    cases found
    rw [documentFromRecord_fields loaded]
    exact status
  · intro status
    have refused
        : ∃ failure,
            document.setCurrentVersion services.platform.unicode version tenant.userId timestamp
              = .error failure := by
      cases moved
          : document.setCurrentVersion services.platform.unicode version tenant.userId
              timestamp with
      | error failure => exact ⟨failure, rfl⟩
      | ok updated =>
          exact absurd status (Document.setCurrentVersion_eq_ok settled moved).1
    obtain ⟨failure, refused⟩ := refused
    rw [refused]
    exact Spec.mono (Spec.throw locked) (fun _ known => known) (fun _ _ _ holds => holds)
      (fun _ _ _ _ fact holds => ⟨fact, holds⟩) (fun _ _ holds => holds.1.2)

theorem archiveDocumentWithLock_spec {command : DocumentArchiveCommand}
    {tenant : TenantContext} {now : Option Datetime}
    : Spec services.platform.unicode regime i needs (Clean i)
        (archiveDocumentWithLock services command tenant now)
        (fun saved => Logged i (Saves regime i saved)) (fun _ _ => True) (fun _ => True) := by
  have clean : Steady services.platform.unicode regime i (Clean i) := Clean.firm.steady
  refine Silent.leads clean (fun _ => Durable.const regime i True)
    (Silent.lift (fun _ _ _ _ => trivial)) ?_
  intro _
  refine Silent.leads clean (fun _ => Durable.const regime i True) nowOr_silent ?_
  intro timestamp
  refine Spec.mono (underLock_spec (Framed.const True) (fun _ _ => trivial) Spec.abandon ?_)
    (fun _ known => known) (fun _ _ _ holds => ⟨holds, trivial⟩)
    (fun _ _ _ _ fact holds => ⟨fact, holds⟩) (fun _ _ holds => holds)
  intro document base loaded same tenancy settled
  dsimp only
  split
  · exact Spec.abandon
  refine Spec.learn (Durable.descends base)
    (fun _ _ _ holds => ⟨base, holds.2.2, .refl base⟩) ?_
  refine Spec.mono ?_ (fun _ known => known) (fun _ _ _ holds => holds.1.1)
    (fun _ _ _ _ fact holds => ⟨fact, holds⟩) (fun _ _ holds => holds)
  refine Silent.leads clean (fun _ => Durable.const regime i _)
    (Silent.lift (fun archived moved _ _ => moved)) ?_
  intro archived
  refine Spec.of_state _ (fun world _ known _ => known.2) ?_
  intro moved
  obtain ⟨follows, version⟩ := follows_of_archive loaded settled moved
  refine orRollback_spec ?_
  have saved
      : Spec services.platform.unicode regime i (Descends base)
          (fun world => Mildly services.platform.unicode regime i (fun _ => True) world ∧ True)
          (DocumentRepository.archiveDocument archived) (fun saved _ => saved = archived)
          (fun _ world =>
            Mildly services.platform.unicode regime i
              (fun writes => True ∧ Saves regime i archived writes) world
            ∧ True)
          (fun world => Mildly services.platform.unicode regime i (fun _ => True) world ∧ True) :=
    DocumentRepository.archiveDocument_spec (Framed.const True) follows version
      (fun _ known => known) (fun _ _ => trivial)
  refine Spec.bind_loose (fun _ => Durable.const regime i _)
    (Spec.mono saved (fun _ known => known.1.2) (fun _ _ _ holds => ⟨holds.mildly trivial, trivial⟩)
      (fun _ _ _ _ fact holds => ⟨fact, holds⟩) (fun _ _ holds => holds)) ?_
  intro saved
  refine Spec.of_state _ (fun world _ known _ => known.2) ?_
  rintro rfl
  refine Spec.bind_loose (fun _ => Durable.const regime i True)
    (recordEvent_spec (Framed.const True) (Lenient.true.and (Saves.lenient _))) ?_
  intro _
  refine Spec.bind_loose (fun _ => Durable.logged _)
    (commit_mild (Framed.const True) (fun _ _ _ _ _ holds => holds)) ?_
  intro _
  refine Spec.finished (fun _ known => ?_)
  obtain ⟨entry, member, ⟨_, saves⟩, rows⟩ := known.2
  exact ⟨entry, member, saves, rows⟩

theorem archiveDocument_spec {documentId : UUID} {tenant : TenantContext}
    {now : Option Datetime} {auditContext : Option AuditRequestContext}
    : Spec services.platform.unicode regime i needs (Clean i)
        (archiveDocument services documentId tenant now auditContext)
        (fun saved => Logged i (Saves regime i saved)) (fun _ _ => True) (fun _ => True) := by
  have clean : Steady services.platform.unicode regime i (Clean i) := Clean.firm.steady
  have read
      : Silent services.platform.unicode regime i needs
          (getDocument services documentId tenant) (fun _ _ => True) := by
    refine Silent.bind (fun _ => Durable.const regime i True)
      (Silent.lift (fun _ _ _ _ => trivial)) ?_
    intro _
    refine Silent.bind (fun _ => Durable.const regime i True)
      DocumentRepository.getDocument_silent ?_
    intro result
    cases result with
    | none => exact Silent.throw
    | some document => exact Silent.pure (fun _ _ => trivial)
  refine Silent.leads clean (fun _ => Durable.const regime i True) read ?_
  exact fun _ => archiveDocumentWithLock_spec

end DocumentService

end WorkflowForge
