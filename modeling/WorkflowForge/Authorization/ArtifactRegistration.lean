import WorkflowForge.Authorization.AuditorCalls
import WorkflowForge.Infrastructure.Returns

/-! `register_artifact` writes under a reading permission: when exactly it goes through. -/

namespace WorkflowForge

open Python Transactions Concurrency

variable {i : Nat} {world after : World} {services : Services} {tenant : TenantContext}

namespace Yields

variable {α : Type}

/-- `except Exception: rollback; raise` returns what its block returns. -/
theorem orRollback_iff {program : App α} {value : α}
    : Yields i (orRollback program) world value after ↔ Yields i program world value after := by
  refine Returns.tryCatch_iff (fun failure middle value after returned => ?_)
  obtain ⟨_, _, -, thrown⟩ := Returns.bind_iff.mp returned
  exact Returns.throw_iff.mp thrown

end Yields

-----------------------------------------------------------------------------------------
-- The steps of the use case
-----------------------------------------------------------------------------------------

/-- The tenant's document as the database shows it to session `i`. -/
def VisibleDocument (services : Services) (tenant : TenantContext) (i : Nat) (world : World)
    (documentId : UUID) (document : Document)
    : Prop :=
  ∃ record,
    documentRecord (world.store.view i) tenant.organizationId documentId = some record
    ∧ documentFromRecord services.platform.unicode record = .ok document

def VisibleVersion (services : Services) (tenant : TenantContext) (i : Nat) (world : World)
    (documentId versionId : UUID) (version : DocumentVersion)
    : Prop :=
  ∃ record,
    versionRecord (world.store.view i) tenant.organizationId documentId versionId = some record
    ∧ versionFromRecord services.platform.unicode record = .ok version

namespace DocumentService

theorem getDocument_yields {documentId : UUID} {document : Document}
    (allowed : require tenant .documentRead = .ok ())
    : Yields i (getDocument services documentId tenant) world document after
      ↔ world.refuses .getDocument = false
        ∧ VisibleDocument services tenant i world documentId document
        ∧ (world.entering .getDocument).selecting i = after := by
  unfold getDocument
  rw [allowed]
  refine (Yields.orNotFound_iff rfl fun _ => rfl).trans (Yields.selected_iff.trans ?_)
  refine and_congr_right fun _ => ?_
  unfold VisibleDocument
  cases documentRecord (world.store.view i) tenant.organizationId documentId with
  | none => simp [DocumentRepository.loaded, Yields, Returns, Program.run]
  | some record => simpa [DocumentRepository.loaded] using Yields.wrapped_iff

theorem getVersion_yields {documentId versionId : UUID} {version : DocumentVersion}
    (allowed : require tenant .documentVersionRead = .ok ())
    : Yields i (getVersion services tenant documentId versionId) world version after
      ↔ world.refuses .getVersion = false
        ∧ VisibleVersion services tenant i world documentId versionId version
        ∧ (world.entering .getVersion).selecting i = after := by
  unfold getVersion
  rw [allowed]
  refine (Yields.orNotFound_iff rfl fun _ => rfl).trans (Yields.selected_iff.trans ?_)
  refine and_congr_right fun _ => ?_
  unfold VisibleVersion
  cases versionRecord (world.store.view i) tenant.organizationId documentId versionId with
  | none => simp [Yields, Returns, Program.run]
  | some record => simpa using Yields.wrapped_iff

end DocumentService

-----------------------------------------------------------------------------------------
-- A registration that goes through
-----------------------------------------------------------------------------------------

/-- The artifact as `register_artifact` first builds it. -/
def draftArtifact (command : DocumentArtifactRegistrationCommand) (tenant : TenantContext)
    (id : UUID) (contentHash : Option ContentHash) (createdAt : Timestamp)
    : DocumentArtifact where
  id
  organizationId := tenant.organizationId
  documentId := command.documentId
  documentVersionId := command.documentVersionId
  artifactType := command.artifactType
  mediaType := command.mediaType
  byteSize := command.byteSize
  contentHash
  storageObjectKey := command.storageObjectKey
  metadata := command.metadata
  createdAt
  createdByUserId := tenant.userId

/-- The audit event of a registration. -/
def registrationEvent (command : DocumentArtifactRegistrationCommand) (tenant : TenantContext)
    (id : UUID) (occurredAt : Timestamp) (document : Document) (saved : DocumentArtifact)
    : AuditEvent where
  id
  eventType := .documentArtifactRegistered
  outcome := .success
  occurredAt
  actorUserId := tenant.userId
  organizationId := tenant.organizationId
  requestContext := command.auditContext.getD {}
  metadata := [("target_type", .text "document"), ("target_id", .uuid document.id),
    ("artifact_id", .uuid saved.id), ("artifact_type", .text saved.artifactType.value)]

/-- The version that the command names, if any. -/
def NamedVersion (services : Services) (tenant : TenantContext) (i : Nat) (world : World)
    (command : DocumentArtifactRegistrationCommand)
    : Option DocumentVersion → Prop
  | none => command.documentVersionId = none
  | some version =>
      ∃ versionId,
        command.documentVersionId = some versionId
        ∧ world.refuses .getVersion = false
        ∧ VisibleVersion services tenant i world command.documentId versionId version

/-- The state before `register_artifact` lets it store an artifact. -/
structure ArtifactRegistration (services : Services) (tenant : TenantContext)
    (command : DocumentArtifactRegistrationCommand) (now : Option Datetime) (i : Nat)
    (world : World) where
  timestamp : Timestamp
  document : Document
  version : Option DocumentVersion
  contentHash : Option ContentHash
  artifact : DocumentArtifact
  saved : DocumentArtifact
  timed : world.timeFor now = some timestamp
  found
    : world.refuses .getDocument = false
      ∧ VisibleDocument services tenant i world command.documentId document
  named : NamedVersion services tenant i world command version
  hashed : parseOptionalHash services.platform.unicode command.contentHash = .ok contentHash
  built
    : DocumentArtifact.create services.platform.unicode
        (draftArtifact command tenant world.nextUuid contentHash timestamp) = .ok artifact
  consistent : assertArtifactConsistent document artifact version = .ok ()
  accepted
    : world.refuses .addArtifact = false
      ∧ world.store.Accepts i .documentArtifacts (recordFromArtifact artifact)
  loaded : artifactFromRecord services.platform.unicode (recordFromArtifact artifact) = .ok saved
  audited
    : services.audited = true
      → world.refuses (.auditRecord .documentArtifactRegistered) = false
        ∧ (world.store.stage i (.put .documentArtifacts (recordFromArtifact artifact))).Accepts i
            .securityAuditEvents
            (registrationEvent command tenant (world.ids.get (world.drawn.length + 1)) timestamp
              document saved)
  committed : world.refuses .commit = false

namespace World

/-- After looking up the version that the command names. -/
def naming (world : World) (i : Nat) (command : DocumentArtifactRegistrationCommand) : World :=
  if command.documentVersionId.isSome then (world.entering .getVersion).selecting i else world

/-- After recording an event. -/
def recording (world : World) (services : Services) (i : Nat) (event : AuditEvent) : World :=
  if services.audited then
    ((world.drawing i).entering (.auditRecord event.eventType)).inserting i
      .securityAuditEvents event
  else world

end World

theorem artifactVersion_yields {command : DocumentArtifactRegistrationCommand}
    {version : Option DocumentVersion} (allowed : require tenant .documentVersionRead = .ok ())
    : Yields i (DocumentService.artifactVersion services command tenant) world version after
      ↔ NamedVersion services tenant i world command version
        ∧ world.naming i command = after := by
  unfold DocumentService.artifactVersion World.naming
  cases named : command.documentVersionId with
  | none =>
      cases version with
      | none => simp [NamedVersion, named, Yields, Returns, Program.run]
      | some version => simp [NamedVersion, named, Yields, Returns, Program.run]
  | some versionId =>
      refine Returns.bind_iff.trans ?_
      constructor
      · rintro ⟨found, _, looked, wrapped⟩
        obtain ⟨quiet, visible, rfl⟩ := (DocumentService.getVersion_yields allowed).mp looked
        obtain ⟨rfl, rfl⟩ := Returns.pure_iff.mp wrapped
        exact ⟨⟨versionId, named, quiet, visible⟩, rfl⟩
      · rintro ⟨holds, rfl⟩
        cases version with
        | none => exact absurd (named.symm.trans holds) (by simp)
        | some version =>
            obtain ⟨versionId', same, quiet, visible⟩ := holds
            obtain rfl := Option.some.inj (named.symm.trans same)
            exact ⟨version, _,
              (DocumentService.getVersion_yields allowed).mpr ⟨quiet, visible, rfl⟩,
              Returns.pure_iff.mpr ⟨rfl, rfl⟩⟩

theorem addArtifact_yields {u : Unicode} {artifact saved : DocumentArtifact}
    : Yields i (DocumentRepository.addArtifact u artifact) world saved after
      ↔ (world.refuses .addArtifact = false
          ∧ world.store.Accepts i .documentArtifacts (recordFromArtifact artifact))
        ∧ artifactFromRecord u (recordFromArtifact artifact) = .ok saved
        ∧ (world.entering .addArtifact).inserting i .documentArtifacts
            (recordFromArtifact artifact) = after := by
  constructor
  · intro returned
    obtain ⟨_, _, entered, rest⟩ := Returns.bind_iff.mp returned
    obtain ⟨quiet, rfl⟩ := Yields.enter_iff.mp entered
    obtain ⟨_, _, inserted, rest⟩ := Returns.bind_iff.mp rest
    obtain ⟨accepts, rfl⟩ := Yields.insert_iff.mp inserted
    obtain ⟨loaded, rfl⟩ := Yields.liftExcept_iff.mp rest
    exact ⟨⟨quiet, accepts⟩, loaded, rfl⟩
  · rintro ⟨⟨quiet, accepts⟩, loaded, rfl⟩
    exact Returns.bind_iff.mpr ⟨(), _, Yields.enter_iff.mpr ⟨quiet, rfl⟩,
      Returns.bind_iff.mpr ⟨(), _, Yields.insert_iff.mpr ⟨accepts, rfl⟩,
        Yields.liftExcept_iff.mpr ⟨loaded, rfl⟩⟩⟩

theorem auditRecord_yields {event : AuditEvent} {value : Unit}
    : Yields i (AuditRepository.record event) world value after
      ↔ (world.refuses (.auditRecord event.eventType) = false
          ∧ world.store.Accepts i .securityAuditEvents event)
        ∧ (world.entering (.auditRecord event.eventType)).inserting i .securityAuditEvents event
          = after := by
  have guarded {middle : World}
      : Yields i (tryCatch (insert .securityAuditEvents event) fun _ =>
            throw (.auditPersistence "Audit event could not be persisted.")) middle value after
          ↔ Yields i (insert .securityAuditEvents event) middle value after :=
    Returns.tryCatch_iff fun _ _ _ _ returned => Returns.throw_iff.mp returned
  constructor
  · intro returned
    obtain ⟨_, _, entered, rest⟩ := Returns.bind_iff.mp returned
    obtain ⟨quiet, rfl⟩ := Yields.enter_iff.mp entered
    obtain ⟨accepts, rfl⟩ := Yields.insert_iff.mp (guarded.mp rest)
    exact ⟨⟨quiet, accepts⟩, rfl⟩
  · rintro ⟨⟨quiet, accepts⟩, rfl⟩
    exact Returns.bind_iff.mpr ⟨(), _, Yields.enter_iff.mpr ⟨quiet, rfl⟩,
      guarded.mpr (Yields.insert_iff.mpr ⟨accepts, rfl⟩)⟩

theorem recordDocumentEvent_yields {eventType : AuditEventType} {targetId : UUID}
    {requestContext : Option AuditRequestContext} {now : Timestamp}
    {metadata : List (String × AuditValue)} {event : AuditEvent} {value : Unit}
    (described : event = {
        id := world.nextUuid, eventType, outcome := .success, occurredAt := now
        actorUserId := tenant.userId, organizationId := tenant.organizationId
        requestContext := requestContext.getD {}
        metadata := ("target_type", .text "document") :: ("target_id", .uuid targetId)
          :: metadata })
    : Yields i (DocumentService.recordDocumentEvent services eventType tenant targetId
          requestContext now metadata) world value after
      ↔ (services.audited = true
          → world.refuses (.auditRecord eventType) = false
            ∧ world.store.Accepts i .securityAuditEvents event)
        ∧ world.recording services i event = after := by
  subst described
  unfold DocumentService.recordDocumentEvent recordEvent World.recording
  by_cases audited : services.audited = true
  · rw [if_pos audited, if_pos audited]
    refine Returns.bind_iff.trans ?_
    constructor
    · rintro ⟨id, _, drawn, recorded⟩
      obtain ⟨rfl, rfl⟩ := Yields.newUuid_iff.mp drawn
      obtain ⟨accepted, rfl⟩ := auditRecord_yields.mp recorded
      exact ⟨fun _ => accepted, rfl⟩
    · rintro ⟨accepted, rfl⟩
      exact ⟨_, _, Yields.newUuid_iff.mpr ⟨rfl, rfl⟩,
        auditRecord_yields.mpr ⟨accepted audited, rfl⟩⟩
  · rw [if_neg audited, if_neg audited]
    refine Returns.pure_iff.trans ?_
    simp [audited]

-----------------------------------------------------------------------------------------
-- The whole registration
-----------------------------------------------------------------------------------------

namespace World

variable {command : DocumentArtifactRegistrationCommand} {now : Option Datetime}

/-- After everything was looked up. -/
def lookedUp (world : World) (now : Option Datetime) (i : Nat)
    (command : DocumentArtifactRegistrationCommand)
    : World :=
  (((world.timing now).entering .getDocument).selecting i).naming i command

theorem lookedUp_refuses (world : World) {port : Port} (document : port ≠ .getDocument)
    (version : port ≠ .getVersion)
    : (world.lookedUp now i command).refuses port = world.refuses port := by
  unfold lookedUp naming
  split
  · rw [selecting_refuses, entering_refuses _ version, selecting_refuses,
      entering_refuses _ document, timing_refuses]
  · rw [selecting_refuses, entering_refuses _ document, timing_refuses]

theorem lookedUp_rows (world : World) (now : Option Datetime) (i : Nat)
    (command : DocumentArtifactRegistrationCommand)
    : ∃ history,
        (world.lookedUp now i command).store = { world.store with history := history } := by
  unfold lookedUp naming
  cases now <;> split <;> exact ⟨_, rfl⟩

theorem lookedUp_uuids (world : World)
    : (world.lookedUp now i command).ids = world.ids
      ∧ (world.lookedUp now i command).drawn = world.drawn := by
  unfold lookedUp naming
  cases now <;> split <;> exact ⟨rfl, rfl⟩

end World

namespace ArtifactRegistration

variable {command : DocumentArtifactRegistrationCommand} {now : Option Datetime}

/-- The state with the artifact staged. -/
def added (registration : ArtifactRegistration services tenant command now i world) : World :=
  (((world.lookedUp now i command).drawing i).entering .addArtifact).inserting i
    .documentArtifacts (recordFromArtifact registration.artifact)

def event (registration : ArtifactRegistration services tenant command now i world)
    : AuditEvent :=
  registrationEvent command tenant (world.ids.get (world.drawn.length + 1))
    registration.timestamp registration.document registration.saved

/-- The state in which `register_artifact` returns. -/
def ending (registration : ArtifactRegistration services tenant command now i world) : World :=
  ((registration.added.recording services i registration.event).entering .commit).committing i

end ArtifactRegistration

theorem TenantContext.IsAuditor.allowed (auditor : tenant.IsAuditor) {permission : Permission}
    (granted : permission ∈ permissionsForRole .auditor)
    : require tenant permission = .ok () := by
  have allows : allows tenant permission = true := by
    rw [WorkflowForge.allows, auditor.2]
    simpa using granted
  rw [require, if_pos allows]

section

variable {command : DocumentArtifactRegistrationCommand} {now : Option Datetime}
  {artifact saved : DocumentArtifact} {document : Document} {timestamp : Timestamp}

/-- Staging the artifact after the lookups. -/
theorem addArtifact_looked {u : Unicode}
    : Yields i (DocumentRepository.addArtifact u artifact)
          ((world.lookedUp now i command).drawing i) saved after
      ↔ (world.refuses .addArtifact = false
          ∧ world.store.Accepts i .documentArtifacts (recordFromArtifact artifact))
        ∧ artifactFromRecord u (recordFromArtifact artifact) = .ok saved
        ∧ (((world.lookedUp now i command).drawing i).entering .addArtifact).inserting i
            .documentArtifacts (recordFromArtifact artifact) = after := by
  refine addArtifact_yields.trans (and_congr_left fun _ => and_congr ?_ ?_)
  · rw [World.drawing_refuses, World.lookedUp_refuses world (by decide) (by decide)]
  · exact Store.accepts_congr (world.lookedUp_rows now i command)

/-- Recording the registration after that. -/
theorem recordRegistration_added
    : Yields i (DocumentService.recordDocumentEvent services .documentArtifactRegistered tenant
            document.id command.auditContext timestamp
            [("artifact_id", .uuid saved.id), ("artifact_type", .text saved.artifactType.value)])
          ((((world.lookedUp now i command).drawing i).entering .addArtifact).inserting i
            .documentArtifacts (recordFromArtifact artifact)) () after
      ↔ (services.audited = true
          → world.refuses (.auditRecord .documentArtifactRegistered) = false
            ∧ (world.store.stage i (.put .documentArtifacts
                  (recordFromArtifact artifact))).Accepts i .securityAuditEvents
                (registrationEvent command tenant (world.ids.get (world.drawn.length + 1))
                  timestamp document saved))
        ∧ ((((world.lookedUp now i command).drawing i).entering .addArtifact).inserting i
            .documentArtifacts (recordFromArtifact artifact)).recording services i
              (registrationEvent command tenant (world.ids.get (world.drawn.length + 1))
                timestamp document saved) = after := by
  refine (recordDocumentEvent_yields ?_).trans (and_congr_left fun _ => forall_congr' fun _ =>
    and_congr ?_ ?_)
  · simp [registrationEvent, World.nextUuid, World.inserting, World.entering, World.drawing,
      world.lookedUp_uuids]
  · rw [World.inserting_refuses, World.entering_refuses _ (by decide), World.drawing_refuses,
      World.lookedUp_refuses world (by decide) (by decide)]
  · obtain ⟨history, same⟩ := world.lookedUp_rows now i command
    exact Store.accepts_congr ⟨history, congrArg (Store.stage (S := schema) · i
      (.put .documentArtifacts (recordFromArtifact artifact))) same⟩

theorem NamedVersion.congr {other : World} {version : Option DocumentVersion}
    (view : other.store.view i = world.store.view i)
    (refuses : other.refuses .getVersion = world.refuses .getVersion)
    : NamedVersion services tenant i other command version
      ↔ NamedVersion services tenant i world command version := by
  cases version with
  | none => rfl
  | some version => simp only [NamedVersion, VisibleVersion, view, refuses]

theorem recording_refuses {port : Port} {event : AuditEvent}
    (other : port ≠ .auditRecord event.eventType)
    : (world.recording services i event).refuses port = world.refuses port := by
  unfold World.recording
  split
  · rw [World.inserting_refuses, World.entering_refuses _ other, World.drawing_refuses]
  · rfl

/-- `register_artifact` returns an artifact exactly when the state before lets it. -/
theorem registerArtifact_yields (auditor : tenant.IsAuditor)
    : Yields i (DocumentService.registerArtifact services command tenant now) world saved after
      ↔ ∃ registration : ArtifactRegistration services tenant command now i world,
          registration.saved = saved ∧ registration.ending = after := by
  have reading : require tenant .artifactRead = .ok () := auditor.allowed (by decide)
  have document : require tenant .documentRead = .ok () := auditor.allowed (by decide)
  have version : require tenant .documentVersionRead = .ok () := auditor.allowed (by decide)
  unfold DocumentService.registerArtifact
  rw [reading]
  constructor
  · intro returned
    obtain ⟨_, _, checked, returned⟩ := Returns.bind_iff.mp returned
    obtain ⟨-, rfl⟩ := Yields.liftExcept_iff.mp checked
    obtain ⟨timestamp, _, ran, returned⟩ := Returns.bind_iff.mp returned
    obtain ⟨timed, rfl⟩ := Yields.nowOr_iff.mp ran
    obtain ⟨found, _, found', returned⟩ := Returns.bind_iff.mp returned
    obtain ⟨quiet, visible, rfl⟩ := (DocumentService.getDocument_yields document).mp found'
    obtain ⟨named, _, looked, returned⟩ := Returns.bind_iff.mp returned
    obtain ⟨named', rfl⟩ := (artifactVersion_yields version).mp looked
    obtain ⟨_, _, drawn, returned⟩ := Returns.bind_iff.mp returned
    obtain ⟨rfl, rfl⟩ := Yields.newUuid_iff.mp drawn
    obtain ⟨contentHash, _, ran, returned⟩ := Returns.bind_iff.mp returned
    obtain ⟨hashed, rfl⟩ := Yields.liftExcept_iff.mp ran
    obtain ⟨artifact, _, ran, returned⟩ := Returns.bind_iff.mp returned
    obtain ⟨built, rfl⟩ := Yields.liftExcept_iff.mp ran
    obtain ⟨_, _, ran, returned⟩ := Returns.bind_iff.mp returned
    obtain ⟨consistent, rfl⟩ := Yields.liftExcept_iff.mp ran
    obtain ⟨saved', _, added, returned⟩ := Returns.bind_iff.mp (Yields.orRollback_iff.mp returned)
    obtain ⟨accepted, loaded, rfl⟩ := addArtifact_looked.mp added
    obtain ⟨_, _, recorded, returned⟩ := Returns.bind_iff.mp returned
    obtain ⟨audited, rfl⟩ := recordRegistration_added.mp recorded
    obtain ⟨_, _, committed, returned⟩ := Returns.bind_iff.mp returned
    obtain ⟨unrefused, rfl⟩ := Yields.commit_iff.mp committed
    obtain ⟨rfl, rfl⟩ := Returns.pure_iff.mp returned
    refine ⟨{
      timestamp, document := found, version := named, contentHash, artifact, saved := saved'
      timed, hashed, consistent, accepted, loaded, audited
      found := ⟨by simpa using quiet, by simpa [VisibleDocument] using visible⟩
      named := (NamedVersion.congr ?_ ?_).mp named'
      built := ?_
      committed := ?_ }, rfl, rfl⟩
    · rw [World.selecting_view, World.entering_store, World.timing_store]
    · rw [World.selecting_refuses, World.entering_refuses _ (by decide), World.timing_refuses]
    · have id : (world.lookedUp now i command).nextUuid = world.nextUuid := by
        simp [World.nextUuid, world.lookedUp_uuids]
      rw [← id]
      exact built
    · rw [recording_refuses (by simp [registrationEvent]), World.inserting_refuses,
        World.entering_refuses _ (by decide), World.drawing_refuses,
        World.lookedUp_refuses world (by decide) (by decide)] at unrefused
      exact unrefused
  · rintro ⟨registration, rfl, rfl⟩
    obtain ⟨timestamp, found, named, contentHash, artifact, saved, timed, visible, named',
      hashed, built, consistent, accepted, loaded, audited, committed⟩ := registration
    have built'
        : DocumentArtifact.create services.platform.unicode
            (draftArtifact command tenant (world.lookedUp now i command).nextUuid contentHash
              timestamp) = .ok artifact := by
      simpa [World.nextUuid, world.lookedUp_uuids] using built
    refine Returns.bind_iff.mpr ⟨(), _, Yields.liftExcept_iff.mpr ⟨rfl, rfl⟩, ?_⟩
    refine Returns.bind_iff.mpr ⟨timestamp, _, Yields.nowOr_iff.mpr ⟨timed, rfl⟩, ?_⟩
    refine Returns.bind_iff.mpr ⟨found, _, (DocumentService.getDocument_yields document).mpr
      ⟨by simpa using visible.1, by simpa [VisibleDocument] using visible.2, rfl⟩, ?_⟩
    refine Returns.bind_iff.mpr ⟨named, _, (artifactVersion_yields version).mpr
      ⟨(NamedVersion.congr ?_ ?_).mpr named', rfl⟩, ?_⟩
    · rw [World.selecting_view, World.entering_store, World.timing_store]
    · rw [World.selecting_refuses, World.entering_refuses _ (by decide), World.timing_refuses]
    refine Returns.bind_iff.mpr ⟨_, _, Yields.newUuid_iff.mpr ⟨rfl, rfl⟩, ?_⟩
    refine Returns.bind_iff.mpr ⟨contentHash, _, Yields.liftExcept_iff.mpr ⟨hashed, rfl⟩, ?_⟩
    refine Returns.bind_iff.mpr ⟨artifact, _, Yields.liftExcept_iff.mpr ⟨built', rfl⟩, ?_⟩
    refine Returns.bind_iff.mpr ⟨(), _, Yields.liftExcept_iff.mpr ⟨consistent, rfl⟩, ?_⟩
    refine Yields.orRollback_iff.mpr ?_
    refine Returns.bind_iff.mpr
      ⟨saved, _, addArtifact_looked.mpr ⟨accepted, loaded, rfl⟩, ?_⟩
    refine Returns.bind_iff.mpr ⟨(), _, recordRegistration_added.mpr ⟨audited, rfl⟩, ?_⟩
    refine Returns.bind_iff.mpr ⟨(), _, Yields.commit_iff.mpr ⟨?_, rfl⟩,
      Returns.pure_iff.mpr ⟨rfl, rfl⟩⟩
    rw [recording_refuses (by simp [registrationEvent]), World.inserting_refuses,
      World.entering_refuses _ (by decide), World.drawing_refuses,
      World.lookedUp_refuses world (by decide) (by decide)]
    exact committed

end

end WorkflowForge
