import WorkflowForge.Domain.Identity

/-! The code-defined permissions of each role. -/

namespace WorkflowForge

/-- `frozenset(Permission)`. -/
def allPermissions : List Permission :=
  [.organizationRead, .organizationUpdate, .membershipRead, .membershipInvite,
    .membershipUpdate, .membershipRemove, .auditRead, .securityManage, .apiKeysManage,
    .providerCredentialsManage, .documentRead, .documentWrite, .documentArchive,
    .documentDownload, .documentVersionRead, .documentVersionCreate, .artifactRead,
    .artifactDownload, .batchRead, .batchWrite, .batchArchive, .batchManageDocuments,
    .caseRead, .caseWrite, .caseArchive, .caseManageDocuments, .caseComment, .caseTask,
    .caseDecision]

/-- `permissions_for_role`. -/
def permissionsForRole : Role → List Permission
  | .owner => allPermissions
  | .admin =>
      [.organizationRead, .organizationUpdate, .membershipRead, .membershipInvite,
        .membershipUpdate, .membershipRemove, .auditRead, .apiKeysManage,
        .providerCredentialsManage, .documentRead, .documentWrite, .documentArchive,
        .documentDownload, .documentVersionRead, .documentVersionCreate, .artifactRead,
        .artifactDownload, .batchRead, .batchWrite, .batchArchive, .batchManageDocuments,
        .caseRead, .caseWrite, .caseArchive, .caseManageDocuments, .caseComment, .caseTask,
        .caseDecision]
  | .operator =>
      [.organizationRead, .documentRead, .documentWrite, .documentDownload,
        .documentVersionRead, .documentVersionCreate, .artifactRead, .artifactDownload,
        .batchRead, .batchWrite, .batchManageDocuments, .caseRead, .caseWrite,
        .caseManageDocuments, .caseComment, .caseTask, .caseDecision]
  | .reviewer =>
      [.organizationRead, .documentRead, .documentDownload, .documentVersionRead,
        .artifactRead, .artifactDownload, .batchRead, .caseRead, .caseComment, .caseTask,
        .caseDecision]
  | .auditor =>
      [.organizationRead, .membershipRead, .auditRead, .documentRead, .documentDownload,
        .documentVersionRead, .artifactRead, .artifactDownload, .batchRead, .caseRead]

end WorkflowForge
