import WorkflowForge.Application.BatchService
import WorkflowForge.Application.CaseService
import WorkflowForge.Application.UploadDocument

/-! All calls of the document, upload, batch and case services, as tenants make them. -/

namespace WorkflowForge

open Python

/-- The calls of the document service and of the upload use case. -/
inductive DocumentServiceCall where
  | registerDocument (command : DocumentRegistrationCommand) (now : Option Datetime)
  | getDocument (documentId : UUID)
  | listDocuments (query : Option DocumentListFilter)
  | createVersion (command : DocumentVersionCreationCommand) (now : Option Datetime)
  | getVersion (documentId versionId : UUID)
  | archiveDocument (documentId : UUID) (now : Option Datetime)
    (auditContext : Option AuditRequestContext)
  | archiveDocumentWithLock (command : DocumentArchiveCommand) (now : Option Datetime)
  | listVersions (documentId : UUID)
  | listArtifacts (documentId : UUID)
  | getArtifact (documentId artifactId : UUID)
  | createDownloadUrl (command : DocumentDownloadCommand) (now : Option Datetime)
  | registerArtifact (command : DocumentArtifactRegistrationCommand) (now : Option Datetime)
  | upload (command : UploadDocumentCommand) (now : Option Datetime)

/-- What a document call returns. -/
inductive DocumentServiceReply where
  | document (value : Document)
  | documents (value : ListPage DocumentProjection)
  | version (value : DocumentVersion)
  | versions (value : List DocumentVersion)
  | artifact (value : DocumentArtifact)
  | artifacts (value : List DocumentArtifact)
  | download (value : DocumentDownloadResult)
  | upload (value : UploadDocumentResult)
  deriving DecidableEq

/-- The use case behind a call. -/
def DocumentServiceCall.useCase (services : Services) (tenant : TenantContext)
    : DocumentServiceCall → App DocumentServiceReply
  | registerDocument command now => do
      return .document (← DocumentService.registerDocument services command tenant now)
  | getDocument documentId => do
      return .document (← DocumentService.getDocument services documentId tenant)
  | listDocuments query => do
      return .documents (← DocumentService.listDocuments services tenant query)
  | createVersion command now => do
      return .version (← DocumentService.createVersion services command tenant now)
  | getVersion documentId versionId => do
      return .version (← DocumentService.getVersion services tenant documentId versionId)
  | archiveDocument documentId now auditContext => do
      return .document
        (← DocumentService.archiveDocument services documentId tenant now auditContext)
  | archiveDocumentWithLock command now => do
      return .document (← DocumentService.archiveDocumentWithLock services command tenant now)
  | listVersions documentId => do
      return .versions (← DocumentService.listVersions services documentId tenant)
  | listArtifacts documentId => do
      return .artifacts (← DocumentService.listArtifacts services documentId tenant)
  | getArtifact documentId artifactId => do
      return .artifact (← DocumentService.getArtifact services tenant documentId artifactId)
  | createDownloadUrl command now => do
      return .download (← DocumentService.createDownloadUrl services command tenant now)
  | registerArtifact command now => do
      return .artifact (← DocumentService.registerArtifact services command tenant now)
  | upload command now => do
      return .upload (← UploadDocument.upload services command tenant now)

/-- A call of one of the services. -/
inductive ServiceCall where
  | documents (call : DocumentServiceCall)
  | batches (call : BatchCall)
  | cases (call : CaseCall)

inductive ServiceReply where
  | documents (value : DocumentServiceReply)
  | batches (value : BatchReply)
  | cases (value : CaseReply)
  deriving DecidableEq

def ServiceCall.useCase (services : Services) (tenant : TenantContext)
    : ServiceCall → App ServiceReply
  | documents call => do return .documents (← call.useCase services tenant)
  | batches call => do return .batches (← call.useCase services tenant)
  | cases call => do return .cases (← call.useCase services tenant)

/-- A call together with the tenant context it is made in. -/
structure TenantCall where
  tenant : TenantContext
  call : ServiceCall

/-- A tenant's call as one request with its own session. -/
def TenantCall.body (services : Services) (origin : TenantCall) : App ServiceReply :=
  request (origin.call.useCase services origin.tenant)

end WorkflowForge
