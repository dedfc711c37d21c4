import WorkflowForge.Application.TenantCalls
import WorkflowForge.Domain.Permissions
import WorkflowForge.Infrastructure.Commitless

/-! An auditor's calls: reading use cases, and the calls that a permission check refuses. -/

namespace WorkflowForge

open Python Transactions Concurrency

/-- All tables but the audit log and all stored objects are as before. -/
structure Unchanged (before after : World) : Prop where
  tables
    : ∀ t, t ≠ TableName.securityAuditEvents → after.store.committed t = before.store.committed t
  objects : after.objects = before.objects

theorem Unchanged.refl (world : World) : Unchanged world world where
  tables _ _ := rfl
  objects := rfl

theorem Unchanged.of_committed {before world after : World} (unchanged : Unchanged before world)
    (committed : after.store.committed = world.store.committed)
    (objects : after.objects = world.objects)
    : Unchanged before after where
  tables t other := by rw [committed]; exact unchanged.tables t other
  objects := objects.trans unchanged.objects

/-- A program that commits nothing, run alone. -/
theorem Commitless.unchanged {α : Type} {program : App α} {i : Nat} {before world after : World}
    {result : Except Exn α} (commitless : Commitless program) (unchanged : Unchanged before world)
    (ran : App.run i program world = some (result, after))
    : Unchanged before after :=
  unchanged.of_committed (commitless.kept ran).1 (commitless.kept ran).2

variable {α β : Type} {services : Services}

theorem Commitless.recordDocumentEvent (eventType : AuditEventType) (tenant : TenantContext)
    (targetId : UUID) (requestContext : Option AuditRequestContext) (now : Timestamp)
    (metadata : List (String × AuditValue))
    : Commitless (DocumentService.recordDocumentEvent services eventType tenant targetId
        requestContext now metadata) := by
  unfold DocumentService.recordDocumentEvent recordEvent
  split
  · exact andThen newUuid (fun _ => auditRecord _)
  · exact pure ()

-----------------------------------------------------------------------------------------
-- Reading use cases
-----------------------------------------------------------------------------------------

section

variable (tenant : TenantContext)

namespace DocumentService

theorem getDocument_commitless (documentId : UUID)
    : Commitless (getDocument services documentId tenant) := by
  refine Commitless.andThen (Commitless.liftExcept _) (fun _ => ?_)
  refine Commitless.andThen (DocumentRepository.getDocument_commitless _ _) (fun found => ?_)
  cases found with
  | none => exact Commitless.throw _
  | some document => exact Commitless.pure _

theorem getVersion_commitless (documentId versionId : UUID)
    : Commitless (getVersion services tenant documentId versionId) := by
  refine Commitless.andThen (Commitless.liftExcept _) (fun _ => ?_)
  refine Commitless.andThen (DocumentRepository.getVersion_commitless _ _ _) (fun found => ?_)
  cases found with
  | none => exact Commitless.throw _
  | some version => exact Commitless.pure _

theorem requireArtifact_commitless (document : Document) (artifactId : UUID)
    : Commitless (requireArtifact services document tenant artifactId) := by
  refine Commitless.andThen (DocumentRepository.getArtifact_commitless _ _ _) (fun found => ?_)
  cases found with
  | none => exact Commitless.throw _
  | some artifact => exact Commitless.pure _

theorem createDownloadUrl_commitless (command : DocumentDownloadCommand) (now : Option Datetime)
    : Commitless (createDownloadUrl services command tenant now) := by
  refine Commitless.andThen (Commitless.nowOr _) (fun timestamp => ?_)
  split
  · refine Commitless.andThen (Commitless.liftExcept _) (fun _ => ?_)
    refine Commitless.andThen (getDocument_commitless tenant _) (fun document => ?_)
    refine Commitless.andThen (requireArtifact_commitless tenant _ _) (fun artifact => ?_)
    refine Commitless.andThen (WorkflowForge.createDownloadUrl_commitless _ _ _) (fun url => ?_)
    exact Commitless.andThen (Commitless.recordDocumentEvent _ _ _ _ _ _)
      (fun _ => Commitless.pure _)
  · refine Commitless.andThen (Commitless.liftExcept _) (fun _ => ?_)
    refine Commitless.andThen (getDocument_commitless tenant _) (fun document => ?_)
    refine Commitless.andThen (DocumentRepository.getVersion_commitless _ _ _) (fun found => ?_)
    cases found with
    | none => exact Commitless.throw _
    | some version =>
        refine Commitless.andThen (WorkflowForge.createDownloadUrl_commitless _ _ _) (fun url => ?_)
        exact Commitless.andThen (Commitless.recordDocumentEvent _ _ _ _ _ _)
          (fun _ => Commitless.pure _)

end DocumentService

namespace BatchService

theorem get_commitless (batchId : UUID) : Commitless (get services batchId tenant) := by
  refine Commitless.andThen (Commitless.liftExcept _) (fun _ => ?_)
  refine Commitless.andThen (BatchRepository.get_commitless _ _) (fun found => ?_)
  cases found with
  | none => exact Commitless.throw _
  | some batch => exact Commitless.pure _

end BatchService

namespace CaseService

theorem get_commitless (caseId : UUID) : Commitless (get services caseId tenant) := by
  refine Commitless.andThen (Commitless.liftExcept _) (fun _ => ?_)
  refine Commitless.andThen (CaseRepository.get_commitless _ _) (fun found => ?_)
  cases found with
  | none => exact Commitless.throw _
  | some case => exact Commitless.pure _

theorem details_commitless (caseId : UUID) : Commitless (details services caseId tenant) := by
  refine Commitless.andThen (get_commitless tenant caseId) (fun _ => ?_)
  refine Commitless.andThen children_read (fun _ => ?_)
  refine Commitless.andThen children_read (fun _ => ?_)
  refine Commitless.andThen children_read (fun _ => ?_)
  exact Commitless.andThen children_read (fun _ => Commitless.pure _)

end CaseService

end

-----------------------------------------------------------------------------------------
-- The calls of an auditor
-----------------------------------------------------------------------------------------

/-- The context has the permissions of the auditor role. -/
def TenantContext.IsAuditor (tenant : TenantContext) : Prop :=
  tenant.role = .auditor ∧ tenant.permissions = permissionsForRole .auditor

theorem TenantContext.IsAuditor.denied {tenant : TenantContext} (auditor : tenant.IsAuditor)
    {permission : Permission} (missing : permission ∉ permissionsForRole .auditor)
    : allows tenant permission = false := by
  rw [allows, auditor.2]
  simpa using missing

/-- Is the call `register_artifact`? -/
def ServiceCall.RegistersArtifact : ServiceCall → Prop
  | documents (.registerArtifact _ _) => True
  | _ => False

section

variable {tenant : TenantContext}

theorem DocumentServiceCall.commitless_of_auditor (auditor : tenant.IsAuditor)
    (call : DocumentServiceCall)
    (other : ¬ (ServiceCall.documents call).RegistersArtifact)
    : Commitless (call.useCase services tenant) := by
  cases call with
  | registerDocument command now =>
      exact Commitless.andThen (Commitless.refused (auditor.denied (by decide)))
        (fun _ => Commitless.pure _)
  | getDocument documentId =>
      exact Commitless.andThen (DocumentService.getDocument_commitless tenant _)
        (fun _ => Commitless.pure _)
  | listDocuments query =>
      exact Commitless.andThen (Commitless.andThen (Commitless.liftExcept _)
        (fun _ => DocumentRepository.listDocuments_commitless _ _)) (fun _ => Commitless.pure _)
  | createVersion command now =>
      exact Commitless.andThen (Commitless.refused (auditor.denied (by decide)))
        (fun _ => Commitless.pure _)
  | getVersion documentId versionId =>
      exact Commitless.andThen (DocumentService.getVersion_commitless tenant _ _)
        (fun _ => Commitless.pure _)
  | archiveDocument documentId now auditContext =>
      exact Commitless.andThen (Commitless.andThen (DocumentService.getDocument_commitless tenant _)
        (fun _ => Commitless.refused (auditor.denied (by decide)))) (fun _ => Commitless.pure _)
  | archiveDocumentWithLock command now =>
      exact Commitless.andThen (Commitless.refused (auditor.denied (by decide)))
        (fun _ => Commitless.pure _)
  | listVersions documentId =>
      refine Commitless.andThen (Commitless.andThen (Commitless.liftExcept _) fun _ => ?_)
        (fun _ => Commitless.pure _)
      exact Commitless.andThen (DocumentService.getDocument_commitless tenant _)
        (fun _ => DocumentRepository.listVersions_commitless _ _)
  | listArtifacts documentId =>
      refine Commitless.andThen (Commitless.andThen (Commitless.liftExcept _) fun _ => ?_)
        (fun _ => Commitless.pure _)
      exact Commitless.andThen (DocumentService.getDocument_commitless tenant _)
        (fun _ => DocumentRepository.listArtifacts_commitless _ _)
  | getArtifact documentId artifactId =>
      refine Commitless.andThen (Commitless.andThen (Commitless.liftExcept _) fun _ => ?_)
        (fun _ => Commitless.pure _)
      exact Commitless.andThen (DocumentService.getDocument_commitless tenant _)
        (fun _ => DocumentService.requireArtifact_commitless tenant _ _)
  | createDownloadUrl command now =>
      exact Commitless.andThen (DocumentService.createDownloadUrl_commitless tenant _ _)
        (fun _ => Commitless.pure _)
  | registerArtifact command now => exact absurd trivial other
  | upload command now =>
      exact Commitless.andThen (Commitless.refused (auditor.denied (by decide)))
        (fun _ => Commitless.pure _)

theorem BatchCall.commitless_of_auditor (auditor : tenant.IsAuditor) (call : BatchCall)
    : Commitless (call.useCase services tenant) := by
  cases call with
  | get batchId =>
      exact Commitless.andThen (BatchService.get_commitless tenant _) (fun _ => Commitless.pure _)
  | listBatches query =>
      exact Commitless.andThen (Commitless.andThen (Commitless.liftExcept _)
        (fun _ => BatchRepository.listBatches_commitless _ _)) (fun _ => Commitless.pure _)
  | listDocuments batchId =>
      exact Commitless.andThen (Commitless.andThen (BatchService.get_commitless tenant _)
        (fun _ => BatchRepository.listDocuments_commitless _ _)) (fun _ => Commitless.pure _)
  | _ =>
      exact Commitless.andThen (Commitless.refused (auditor.denied (by decide)))
        (fun _ => Commitless.pure _)

theorem CaseCall.commitless_of_auditor (auditor : tenant.IsAuditor) (call : CaseCall)
    : Commitless (call.useCase services tenant) := by
  cases call with
  | get caseId =>
      exact Commitless.andThen (CaseService.get_commitless tenant _) (fun _ => Commitless.pure _)
  | listCases query =>
      exact Commitless.andThen (Commitless.andThen (Commitless.liftExcept _)
        (fun _ => CaseRepository.listCases_commitless _ _)) (fun _ => Commitless.pure _)
  | details caseId =>
      exact Commitless.andThen (CaseService.details_commitless tenant _)
        (fun _ => Commitless.pure _)
  | _ =>
      exact Commitless.andThen (Commitless.refused (auditor.denied (by decide)))
        (fun _ => Commitless.pure _)

/-- Whatever else an auditor calls commits nothing. -/
theorem TenantCall.commitless_of_auditor {origin : TenantCall} (auditor : origin.tenant.IsAuditor)
    (other : ¬ origin.call.RegistersArtifact)
    : Commitless (origin.body services) := by
  obtain ⟨tenant, call⟩ := origin
  cases call with
  | documents call =>
      exact Commitless.request (Commitless.andThen (call.commitless_of_auditor auditor other)
        (fun _ => Commitless.pure _))
  | batches call =>
      exact Commitless.request (Commitless.andThen (call.commitless_of_auditor auditor)
        (fun _ => Commitless.pure _))
  | cases call =>
      exact Commitless.request (Commitless.andThen (call.commitless_of_auditor auditor)
        (fun _ => Commitless.pure _))

end

end WorkflowForge
