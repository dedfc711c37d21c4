import WorkflowForge.Authorization.ArtifactRegistration
import WorkflowForge.Documents.Runs

/-! What an auditor's calls change: the artifacts, when `register_artifact` goes through. -/

namespace WorkflowForge

open Python Transactions Concurrency

-----------------------------------------------------------------------------------------
-- Programs that commit as their last step
-----------------------------------------------------------------------------------------

/-- If the program raises, alone as session `i`, then everything is as it was `before`. -/
abbrev RaisesUnchanged {α : Type} (i : Nat) (before : World) (program : App α) (world : World)
    : Prop :=
  Ends (exec i) True (fun result after => ∀ failure, result = .error failure
    → Unchanged before after) program world

namespace RaisesUnchanged

variable {α β : Type} {i : Nat} {before world : World}

/-- Without a COMMIT everything stays, however the program ends. -/
theorem ends {program : App α} (commitless : Commitless program)
    (unchanged : Unchanged before world)
    : Ends (exec i) True (fun _ after => Unchanged before after) program world := by
  unfold Ends
  split
  · trivial
  · rename_i result after ran
    exact commitless.unchanged unchanged ran

theorem andThen {program : App α} {next : α → App β} (first : Commitless program)
    (unchanged : Unchanged before world)
    (rest : ∀ value after, Unchanged before after → RaisesUnchanged i before (next value) after)
    : RaisesUnchanged i before (program >>= next) world :=
  (ends first unchanged).bind rest (fun _ _ unchanged _ _ => unchanged)

/-- The rollback of a handler changes nothing more. -/
theorem orRollback {program : App α} (block : RaisesUnchanged i before program world)
    : RaisesUnchanged i before (orRollback program) world := by
  refine block.tryCatch (fun _ _ kept => kept) (fun failure after kept => ?_)
  have unchanged : Unchanged before after := kept failure rfl
  have rolled : Commitless (do rollback; throw failure : App α) :=
    Commitless.andThen Commitless.rollback (fun _ => Commitless.throw _)
  have ended := ends (i := i) rolled unchanged
  exact ended.mono fun _ _ unchanged _ _ => unchanged

/-- COMMIT, and then only a result. -/
theorem commit (value : α) (unchanged : Unchanged before world)
    : RaisesUnchanged i before (do WorkflowForge.commit; return value) world := by
  refine Ends.call (fun _ => trivial) (fun raised entered answered => ?_)
  have kept := Op.Commitless.kept (by exact trivial) answered
  cases raised with
  | true => exact Ends.done fun _ _ => unchanged.of_committed kept.1 kept.2
  | false =>
      refine Ends.call (fun _ => trivial) (fun _ after _ => ?_)
      exact Ends.done fun failure raised => by cases raised

end RaisesUnchanged

section

variable {i : Nat} {before world after : World} {services : Services} {tenant : TenantContext}
  {command : DocumentArtifactRegistrationCommand} {now : Option Datetime}

-----------------------------------------------------------------------------------------
-- A registration that raises
-----------------------------------------------------------------------------------------

theorem artifactVersion_commitless (tenant : TenantContext)
    : Commitless (DocumentService.artifactVersion services command tenant) := by
  unfold DocumentService.artifactVersion
  split
  · exact Commitless.pure _
  · exact Commitless.andThen (DocumentService.getVersion_commitless tenant _ _)
      (fun _ => Commitless.pure _)

theorem addArtifact_commitless {u : Unicode} (artifact : DocumentArtifact)
    : Commitless (DocumentRepository.addArtifact u artifact) := by
  refine Commitless.andThen (Commitless.enter _) (fun _ => ?_)
  refine Commitless.andThen (Commitless.insert _ _) (fun _ => Commitless.liftExcept _)

/-- `register_artifact` commits as its last step, so before that it changes nothing. -/
theorem registerArtifact_raises (unchanged : Unchanged before world)
    : RaisesUnchanged i before (DocumentService.registerArtifact services command tenant now)
        world := by
  refine RaisesUnchanged.andThen (Commitless.liftExcept _) unchanged (fun _ _ unchanged => ?_)
  refine RaisesUnchanged.andThen (Commitless.nowOr _) unchanged (fun _ _ unchanged => ?_)
  refine RaisesUnchanged.andThen (DocumentService.getDocument_commitless _ _) unchanged
    (fun _ _ unchanged => ?_)
  refine RaisesUnchanged.andThen (artifactVersion_commitless _) unchanged
    (fun _ _ unchanged => ?_)
  refine RaisesUnchanged.andThen Commitless.newUuid unchanged (fun _ _ unchanged => ?_)
  refine RaisesUnchanged.andThen (Commitless.liftExcept _) unchanged (fun _ _ unchanged => ?_)
  refine RaisesUnchanged.andThen (Commitless.liftExcept _) unchanged (fun _ _ unchanged => ?_)
  refine RaisesUnchanged.andThen (Commitless.liftExcept _) unchanged (fun _ _ unchanged => ?_)
  refine RaisesUnchanged.orRollback ?_
  refine RaisesUnchanged.andThen (addArtifact_commitless _) unchanged (fun _ _ unchanged => ?_)
  refine RaisesUnchanged.andThen (Commitless.recordDocumentEvent _ _ _ _ _ _) unchanged
    (fun _ _ unchanged => ?_)
  exact RaisesUnchanged.commit _ unchanged

-----------------------------------------------------------------------------------------
-- A registration that returns
-----------------------------------------------------------------------------------------

namespace ArtifactRegistration

variable (registration : ArtifactRegistration services tenant command now i world)

/-- What the registration commits. -/
theorem ending_committed
    : registration.ending.store.committed
      = (registration.added.recording services i registration.event).store.view i :=
  rfl

/-- The pending writes when it commits. -/
theorem recorded_own (fresh : world.store.own i = [])
    : Write.put (S := schema) .documentArtifacts (recordFromArtifact registration.artifact)
          ∈ (registration.added.recording services i registration.event).store.own i
      ∧ Write.remove (S := schema) .documentArtifacts registration.artifact.id
          ∉ (registration.added.recording services i registration.event).store.own i := by
  have own : registration.added.store.own i
      = [.put .documentArtifacts (recordFromArtifact registration.artifact)] := by
    have looked : (world.lookedUp now i command).store.own i = [] := by
      obtain ⟨history, same⟩ := world.lookedUp_rows now i command
      rw [same]
      exact fresh
    rw [ArtifactRegistration.added, World.inserting, Store.stage_own_self]
    exact congrArg (· ++ _) looked
  unfold World.recording
  split
  · rw [World.inserting, Store.stage_own_self]
    rw [show ((registration.added.drawing i).entering
      (.auditRecord registration.event.eventType)).store.own i = _ from own]
    simp
  · rw [own]
    simp

/-- The new artifact is in the table, and was not there before. -/
theorem changes (fresh : world.store.own i = []) : ¬ Unchanged world registration.ending := by
  intro unchanged
  obtain ⟨put, kept⟩ := registration.recorded_own fresh
  have stored
      : (registration.ending.store.committed.find? .documentArtifacts
          registration.artifact.id).isSome := by
    rw [ending_committed]
    exact Write.find?_applyAll_isSome ⟨_, put, rfl⟩ kept
  have absent := registration.accepted.2.new
  rw [Store.view_of_own_nil fresh] at absent
  rw [Db.find?, unchanged.tables .documentArtifacts (by decide)] at stored
  exact absurd (stored.symm.trans (congrArg Option.isSome absent)) (by simp)

end ArtifactRegistration

-----------------------------------------------------------------------------------------
-- The calls of an auditor
-----------------------------------------------------------------------------------------

/-- The state before lets the call store an artifact. -/
def ServiceCall.StoresArtifact (services : Services) (tenant : TenantContext) (i : Nat)
    (world : World)
    : ServiceCall → Prop
  | documents (.registerArtifact command now) =>
      Nonempty (ArtifactRegistration services tenant command now i world)
  | _ => False

theorem ServiceCall.StoresArtifact.registers {call : ServiceCall}
    (stores : call.StoresArtifact services tenant i world)
    : call.RegistersArtifact := by
  cases call with
  | documents call =>
      cases call with
      | registerArtifact command now => trivial
      | _ => exact stores
  | batches call => exact stores
  | cases call => exact stores

/-- The request around `register_artifact`. -/
theorem registration_run
    : App.run i (TenantCall.body services ⟨tenant, .documents (.registerArtifact command now)⟩)
          world
      = (App.run i (DocumentService.registerArtifact services command tenant now) world).map
          (fun ended =>
            ((ended.1.map DocumentServiceReply.artifact).map ServiceReply.documents,
              { ended.2 with store := ended.2.store.release i })) := by
  unfold TenantCall.body ServiceCall.useCase DocumentServiceCall.useCase
  rw [run_request]
  unfold App.run
  rw [Program.run_map, Program.run_map, Option.map_map, Option.map_map]
  rfl

theorem Unchanged.released
    : Unchanged before { after with store := after.store.release i } ↔ Unchanged before after :=
  ⟨fun kept => ⟨kept.tables, kept.objects⟩, fun kept => ⟨kept.tables, kept.objects⟩⟩

/-- An auditor's call leaves everything but the audit log as it was, unless it is a
`register_artifact` that goes through. -/
theorem auditor_unchanged_iff {origin : TenantCall} {result : Except Exn ServiceReply}
    (auditor : origin.tenant.IsAuditor) (fresh : world.store.own i = [])
    (ran : App.run i (origin.body services) world = some (result, after))
    : Unchanged world after ↔ ¬ origin.call.StoresArtifact services origin.tenant i world := by
  obtain ⟨tenant, call⟩ := origin
  by_cases registers : call.RegistersArtifact
  · obtain ⟨command, now, rfl⟩
        : ∃ command now, call = .documents (.registerArtifact command now) := by
      unfold ServiceCall.RegistersArtifact at registers
      split at registers
      · exact ⟨_, _, rfl⟩
      · exact absurd registers id
    rw [registration_run, Option.map_eq_some_iff] at ran
    obtain ⟨⟨registered, middle⟩, ran, same⟩ := ran
    obtain rfl := (Prod.mk.inj same).2
    rw [Unchanged.released]
    cases registered with
    | ok saved =>
        obtain ⟨registration, -, rfl⟩ := (registerArtifact_yields auditor).mp ran
        exact iff_of_false (registration.changes fresh) (not_not_intro ⟨registration⟩)
    | error failure =>
        have raised
            : RaisesUnchanged i world
                (DocumentService.registerArtifact services command tenant now) world :=
          registerArtifact_raises (.refl world)
        refine iff_of_true (raised.post_of_run ran failure rfl) ?_
        rintro ⟨registration⟩
        have returned := (registerArtifact_yields auditor).mpr ⟨registration, rfl, rfl⟩
        cases (returned.symm.trans ran)
  · refine iff_of_true ?_ ?_
    · exact (TenantCall.commitless_of_auditor auditor registers).unchanged (.refl world) ran
    · exact fun stores => registers stores.registers

end

-----------------------------------------------------------------------------------------
-- An auditor registers an artifact
-----------------------------------------------------------------------------------------

namespace Sample

def auditor : TenantContext where
  userId := 7
  organizationId := 5
  membershipId := 9
  role := .auditor
  permissions := permissionsForRole .auditor
  user_ne_nil := tenant.user_ne_nil
  organization_ne_nil := tenant.organization_ne_nil
  membership_ne_nil := tenant.membership_ne_nil
  organization_lt := tenant.organization_lt

/-- A registered document. -/
def document : Document where
  id := 50
  organizationId := 5
  displayFilename := "a.pdf".toList
  sourceType := .upload
  sourceReference := none
  status := .registered
  currentVersionId := 51
  archivedAt := none
  archivedByUserId := none
  createdAt := 0
  createdByUserId := 7
  updatedAt := 0
  updatedByUserId := 7
  lockVersion := 1

/-- Its version. -/
def version : DocumentVersionRecord where
  id := 51
  organizationId := 5
  documentId := 50
  versionNumber := 1
  originalFilename := "a.pdf".toList
  mediaType := "application/pdf".toList
  byteSize := 8
  contentHash := (sha256 pdf).value
  storageObjectKey := documentContentKeyText 5 (sha256 pdf).value
  storageState := .stored
  createdAt := 0
  createdByUserId := 7

def documentWorld : World :=
  { Sample.world (fun _ => .ok) with
    store := {
      committed := fun
        | .users => [(7 : UUID)]
        | .organizations => [(5 : UUID)]
        | .documents => [document]
        | .documentVersions => [version]
        | _ => []
    } }

def preview : DocumentArtifactRegistrationCommand where
  documentId := 50
  documentVersionId := none
  artifactType := .preview
  mediaType := "image/png".toList
  byteSize := 8
  storageObjectKey := {
    value := ("artifacts/00000000-0000-0000-0000-000000000005/"
      ++ "00000000-0000-0000-0000-000000000032/preview").toList
    valid := by decide +kernel
  }

def previewArtifact : DocumentArtifact := draftArtifact preview auditor 100 none 0

theorem preview_built
    : DocumentArtifact.create services.platform.unicode previewArtifact
      = .ok previewArtifact := by
  decide +kernel

theorem document_loads
    : documentFromRecord services.platform.unicode document = .ok document := by
  decide +kernel

/-- Everything that registering the preview needs. -/
def registration : ArtifactRegistration services auditor preview none 0 documentWorld where
  timestamp := 0
  document := document
  version := none
  contentHash := none
  artifact := previewArtifact
  saved := previewArtifact
  timed := rfl
  found := ⟨rfl, document, by decide +kernel, document_loads⟩
  named := rfl
  hashed := rfl
  built := preview_built
  consistent := by decide +kernel
  accepted := ⟨rfl, {
    settled := by decide +kernel
    new := by decide +kernel
    single := by decide +kernel
    sound := by decide +kernel
    fits := by decide +kernel
    uncontested := by decide +kernel
    unbarred := by decide +kernel }⟩
  loaded := by decide +kernel
  audited _ := ⟨rfl, {
    settled := by decide +kernel
    new := by decide +kernel
    single := by decide +kernel
    sound := by decide +kernel
    fits := by decide +kernel
    uncontested := by decide +kernel
    unbarred := by decide +kernel }⟩
  committed := rfl

def registerPreview : TenantCall := ⟨auditor, .documents (.registerArtifact preview none)⟩

theorem auditor_isAuditor : auditor.IsAuditor := ⟨rfl, rfl⟩

/-- The call returns the artifact. -/
theorem registerPreview_run
    : App.run 0 (registerPreview.body services) documentWorld
      = some (.ok (.documents (.artifact previewArtifact)),
          { registration.ending with store := registration.ending.store.release 0 }) := by
  have returned
      : App.run 0 (DocumentService.registerArtifact services preview auditor none) documentWorld
        = some (.ok previewArtifact, registration.ending) :=
    (registerArtifact_yields auditor_isAuditor).mpr ⟨registration, rfl, rfl⟩
  rw [registerPreview, registration_run, returned]
  rfl

end Sample

/-- The auditor of the sample installation stores a preview. -/
theorem auditor_stores_preview
    : Sample.auditor.IsAuditor
      ∧ ∃ after,
          App.run 0 (Sample.registerPreview.body Sample.services) Sample.documentWorld
            = some (.ok (.documents (.artifact Sample.previewArtifact)), after)
          ∧ ¬ Unchanged Sample.documentWorld after := by
  refine ⟨Sample.auditor_isAuditor, _, Sample.registerPreview_run, ?_⟩
  rw [Unchanged.released]
  exact Sample.registration.changes rfl

theorem registerPreview_unchanged_iff
    : ∃ after,
        App.run 0 (Sample.registerPreview.body Sample.services) Sample.documentWorld
          = some (.ok (.documents (.artifact Sample.previewArtifact)), after)
        ∧ (Unchanged Sample.documentWorld after
          ↔ ¬ Sample.registerPreview.call.StoresArtifact Sample.services Sample.auditor 0
              Sample.documentWorld) :=
  ⟨_, Sample.registerPreview_run,
    auditor_unchanged_iff Sample.auditor_isAuditor rfl Sample.registerPreview_run⟩

end WorkflowForge
