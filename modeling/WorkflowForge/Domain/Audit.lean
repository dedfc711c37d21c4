import WorkflowForge.Domain.Identity

/-! Audit events as far as the document, batch and case services write them. -/

namespace WorkflowForge

open Python

inductive AuditEventType where
  | documentRegistered
  | documentVersionCreated
  | documentArchived
  | documentArtifactRegistered
  | documentUploadStarted
  | documentStorageSucceeded
  | documentUploadFailed
  | documentDuplicateDetected
  | documentDownloaded
  | documentVersionDownloaded
  | documentArtifactDownloaded
  | batchCreated
  | batchUpdated
  | batchDocumentAdded
  | batchDocumentRemoved
  | batchArchived
  | caseCreated
  | caseUpdated
  | caseDocumentAdded
  | caseDocumentRemoved
  | caseCommentCreated
  | caseTaskCreated
  | caseTaskUpdated
  | caseTaskCompleted
  | caseDecisionCreated
  | caseClosed
  | caseReopened
  | caseArchived
  deriving DecidableEq, Repr

inductive AuditOutcome where
  | success
  | failure
  deriving DecidableEq, Repr

/-- Request metadata attached to audit events. -/
structure AuditRequestContext where
  requestId : Option Text := none
  sourceIp : Option Text := none
  userAgent : Option Text := none
  deriving DecidableEq

/-- The flat metadata values that the services attach. -/
inductive AuditValue where
  | uuid (value : UUID)
  | text (value : String)
  | int (value : Int)
  | bool (value : Bool)
  deriving DecidableEq

structure AuditEvent where
  id : UUID
  eventType : AuditEventType
  outcome : AuditOutcome
  occurredAt : Timestamp
  actorUserId : UUID
  organizationId : UUID
  requestContext : AuditRequestContext
  metadata : List (String × AuditValue)
  deriving DecidableEq

end WorkflowForge
