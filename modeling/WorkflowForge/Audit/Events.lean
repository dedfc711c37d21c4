import WorkflowForge.Audit.SafeMetadata
import WorkflowForge.Infrastructure.IdentityRecords
import WorkflowForge.Python.Ascii

/-! Audit events with all their fields, and the rows they are kept in. -/

namespace WorkflowForge.Audit

open Python Records

-----------------------------------------------------------------------------------------
-- The taxonomy
-----------------------------------------------------------------------------------------

inductive AuditEventType where
  | authenticationLoginSucceeded
  | authenticationLoginFailed
  | authenticationAccessTokenRejected
  | sessionCreated
  | sessionRefreshed
  | sessionRefreshFailed
  | sessionRefreshReplayDetected
  | sessionRevoked
  | sessionRevokedAll
  | tenancyAccessDenied
  | tenancyInactiveMembership
  | tenancyInactiveOrganization
  | authorizationPermissionDenied
  | credentialPasswordSet
  | credentialPasswordReplaced
  | bootstrapOwnerCreated
  | bootstrapRefused
  | authenticationLoginRateLimited
  | sessionRefreshRateLimited
  | securityRateLimitBackendUnavailable
  | documentRegistered
  | documentVersionCreated
  | documentArchived
  | documentArtifactRegistered
  | documentUploadStarted
  | documentStorageSucceeded
  | documentUploadFailed
  | documentDuplicateDetected
  | documentDownloaded
  | documentVersionDownloaded
  | documentArtifactDownloaded
  | batchCreated
  | batchUpdated
  | batchDocumentAdded
  | batchDocumentRemoved
  | batchArchived
  | caseCreated
  | caseUpdated
  | caseDocumentAdded
  | caseDocumentRemoved
  | caseCommentCreated
  | caseTaskCreated
  | caseTaskUpdated
  | caseTaskCompleted
  | caseDecisionCreated
  | caseClosed
  | caseReopened
  | caseArchived
  deriving DecidableEq

def AuditEventType.value : AuditEventType → String
  | .authenticationLoginSucceeded => "authentication.login_succeeded"
  | .authenticationLoginFailed => "authentication.login_failed"
  | .authenticationAccessTokenRejected => "authentication.access_token_rejected"
  | .sessionCreated => "session.created"
  | .sessionRefreshed => "session.refreshed"
  | .sessionRefreshFailed => "session.refresh_failed"
  | .sessionRefreshReplayDetected => "session.refresh_replay_detected"
  | .sessionRevoked => "session.revoked"
  | .sessionRevokedAll => "session.revoked_all"
  | .tenancyAccessDenied => "tenancy.access_denied"
  | .tenancyInactiveMembership => "tenancy.inactive_membership"
  | .tenancyInactiveOrganization => "tenancy.inactive_organization"
  | .authorizationPermissionDenied => "authorization.permission_denied"
  | .credentialPasswordSet => "credential.password_set"
  | .credentialPasswordReplaced => "credential.password_replaced"
  | .bootstrapOwnerCreated => "bootstrap.owner_created"
  | .bootstrapRefused => "bootstrap.refused"
  | .authenticationLoginRateLimited => "authentication.login_rate_limited"
  | .sessionRefreshRateLimited => "session.refresh_rate_limited"
  | .securityRateLimitBackendUnavailable => "security.rate_limit_backend_unavailable"
  | .documentRegistered => "document.registered"
  | .documentVersionCreated => "document.version_created"
  | .documentArchived => "document.archived"
  | .documentArtifactRegistered => "document.artifact_registered"
  | .documentUploadStarted => "document.upload_started"
  | .documentStorageSucceeded => "document.storage_succeeded"
  | .documentUploadFailed => "document.upload_failed"
  | .documentDuplicateDetected => "document.duplicate_detected"
  | .documentDownloaded => "document.downloaded"
  | .documentVersionDownloaded => "document.version_downloaded"
  | .documentArtifactDownloaded => "document.artifact_downloaded"
  | .batchCreated => "batch.created"
  | .batchUpdated => "batch.updated"
  | .batchDocumentAdded => "batch.document_added"
  | .batchDocumentRemoved => "batch.document_removed"
  | .batchArchived => "batch.archived"
  | .caseCreated => "case.created"
  | .caseUpdated => "case.updated"
  | .caseDocumentAdded => "case.document_added"
  | .caseDocumentRemoved => "case.document_removed"
  | .caseCommentCreated => "case.comment_created"
  | .caseTaskCreated => "case.task_created"
  | .caseTaskUpdated => "case.task_updated"
  | .caseTaskCompleted => "case.task_completed"
  | .caseDecisionCreated => "case.decision_created"
  | .caseClosed => "case.closed"
  | .caseReopened => "case.reopened"
  | .caseArchived => "case.archived"

def AuditEventType.members : List AuditEventType := [
  .authenticationLoginSucceeded, .authenticationLoginFailed, .authenticationAccessTokenRejected,
  .sessionCreated, .sessionRefreshed, .sessionRefreshFailed, .sessionRefreshReplayDetected,
  .sessionRevoked, .sessionRevokedAll, .tenancyAccessDenied, .tenancyInactiveMembership,
  .tenancyInactiveOrganization, .authorizationPermissionDenied, .credentialPasswordSet,
  .credentialPasswordReplaced, .bootstrapOwnerCreated, .bootstrapRefused,
  .authenticationLoginRateLimited, .sessionRefreshRateLimited,
  .securityRateLimitBackendUnavailable, .documentRegistered, .documentVersionCreated,
  .documentArchived, .documentArtifactRegistered, .documentUploadStarted,
  .documentStorageSucceeded, .documentUploadFailed, .documentDuplicateDetected,
  .documentDownloaded, .documentVersionDownloaded, .documentArtifactDownloaded, .batchCreated,
  .batchUpdated, .batchDocumentAdded, .batchDocumentRemoved, .batchArchived, .caseCreated,
  .caseUpdated, .caseDocumentAdded, .caseDocumentRemoved, .caseCommentCreated, .caseTaskCreated,
  .caseTaskUpdated, .caseTaskCompleted, .caseDecisionCreated, .caseClosed, .caseReopened,
  .caseArchived
]

inductive AuditOutcome where
  | success
  | failure
  | denied
  | replayDetected
  deriving DecidableEq

def AuditOutcome.value : AuditOutcome → String
  | .success => "success"
  | .failure => "failure"
  | .denied => "denied"
  | .replayDetected => "replay_detected"

/-- `AuditEventType(text)`. -/
def parseAuditEventType : String → Except AuditExn AuditEventType :=
  parseEnum .valueError "AuditEventType" AuditEventType.value AuditEventType.members

/-- `AuditOutcome(text)`. -/
def parseAuditOutcome : String → Except AuditExn AuditOutcome :=
  parseEnum .valueError "AuditOutcome" AuditOutcome.value
    [.success, .failure, .denied, .replayDetected]

theorem parseAuditEventType_value (eventType : AuditEventType)
    : parseAuditEventType eventType.value = .ok eventType := by
  cases eventType <;> rfl

theorem parseAuditOutcome_value (outcome : AuditOutcome)
    : parseAuditOutcome outcome.value = .ok outcome := by
  cases outcome <;> rfl

-----------------------------------------------------------------------------------------
-- Events
-----------------------------------------------------------------------------------------

/-- The arguments of the constructor. -/
structure AuditEventDraft where
  id : UUID
  eventType : AuditEventType
  outcome : AuditOutcome
  occurredAt : Datetime
  actorUserId : Option UUID := none
  organizationId : Option UUID := none
  sessionId : Option UUID := none
  requestId : Option Text := none
  sourceIp : Option Text := none
  userAgent : Option Text := none
  metadata : List (Text × MetadataValue) := []
  createdAt : Option Datetime := none

/-- A constructed event: its times are in UTC, its metadata is safe. -/
structure AuditEvent where
  id : UUID
  eventType : AuditEventType
  outcome : AuditOutcome
  occurredAt : Timestamp
  actorUserId : Option UUID
  organizationId : Option UUID
  sessionId : Option UUID
  requestId : Option Text
  sourceIp : Option Text
  userAgent : Option Text
  metadata : List (Text × MetadataValue)
  createdAt : Option Timestamp

def requestIdMaxLength : Nat := 128
def sourceIpMaxLength : Nat := 45
def userAgentMaxLength : Nat := 512

def validateOptionalString (value : Option Text) (maxLength : Nat) (fieldName : String)
    : Except AuditExn Unit :=
  match value with
  | none => .ok ()
  | some text =>
      if text = [] ∨ maxLength < text.length then
        .error (.invalidAuditEvent
          (fieldName ++ " must be between 1 and " ++ toString maxLength ++ " characters."))
      else .ok ()

/-- `_require_timezone_aware` and `astimezone(UTC)`. -/
def requireTimezoneAware (value : Datetime) (fieldName : String) : Except AuditExn Timestamp :=
  match value with
  | .aware instant => .ok instant
  | .naive _ => .error (.invalidAuditEvent (fieldName ++ " must be timezone-aware."))

/-- `AuditRequestContext`, which is only validated. -/
def validateRequestContext (requestId sourceIp userAgent : Option Text)
    : Except AuditExn Unit := do
  validateOptionalString requestId requestIdMaxLength "request_id"
  validateOptionalString sourceIp sourceIpMaxLength "source_ip"
  validateOptionalString userAgent userAgentMaxLength "user_agent"

/-- The constructor with `__post_init__`. -/
def AuditEvent.postInit (u : Unicode) (draft : AuditEventDraft) : Except AuditExn AuditEvent := do
  let occurredAt ← requireTimezoneAware draft.occurredAt "occurred_at"
  let createdAt ← draft.createdAt.mapM (requireTimezoneAware · "created_at")
  validateRequestContext draft.requestId draft.sourceIp draft.userAgent
  let metadata ← safeMetadata u draft.metadata
  return {
    id := draft.id
    eventType := draft.eventType
    outcome := draft.outcome
    occurredAt
    actorUserId := draft.actorUserId
    organizationId := draft.organizationId
    sessionId := draft.sessionId
    requestId := draft.requestId
    sourceIp := draft.sourceIp
    userAgent := draft.userAgent
    metadata, createdAt
  }

-----------------------------------------------------------------------------------------
-- Rows
-----------------------------------------------------------------------------------------

structure SecurityAuditEventRecord where
  id : UUID
  eventType : String
  outcome : String
  occurredAt : ZonedDatetime
  actorUserId : Option UUID
  organizationId : Option UUID
  sessionId : Option UUID
  requestId : Option Text
  sourceIp : Option Text
  userAgent : Option Text
  metadataJson : List (Text × MetadataValue)
  createdAt : ZonedDatetime

/-- `_record_from_event`; `now` is the clock's value, used without a creation time. -/
def recordFromEvent (now : Timestamp) (event : AuditEvent) : SecurityAuditEventRecord where
  id := event.id
  eventType := event.eventType.value
  outcome := event.outcome.value
  occurredAt := .utc event.occurredAt
  actorUserId := event.actorUserId
  organizationId := event.organizationId
  sessionId := event.sessionId
  requestId := event.requestId
  sourceIp := event.sourceIp
  userAgent := event.userAgent
  metadataJson := event.metadata
  createdAt := .utc (event.createdAt.getD now)

/-- `_event_from_record`. -/
def eventFromRecord (u : Unicode) (record : SecurityAuditEventRecord)
    : Except AuditExn AuditEvent := do
  let eventType ← parseAuditEventType record.eventType
  let outcome ← parseAuditOutcome record.outcome
  AuditEvent.postInit u {
    id := record.id
    eventType, outcome
    occurredAt := .aware record.occurredAt.astimezoneUtc
    actorUserId := record.actorUserId
    organizationId := record.organizationId
    sessionId := record.sessionId
    requestId := record.requestId
    sourceIp := record.sourceIp
    userAgent := record.userAgent
    metadata := record.metadataJson
    createdAt := some (.aware record.createdAt.astimezoneUtc)
  }

/-- What the database returns for a stored row; the JSON value comes back as it was written. -/
def SecurityAuditEventRecord.returned (zone : Timestamp → Int) (record : SecurityAuditEventRecord)
    : SecurityAuditEventRecord :=
  { record with
    occurredAt := record.occurredAt.returned zone
    createdAt := record.createdAt.returned zone }

/-- The widths of the columns. -/
def SecurityAuditEventRecord.accepted (record : SecurityAuditEventRecord) : Bool :=
  within record.eventType.toList 128 && within record.outcome.toList 32
  && record.requestId.all (within · requestIdMaxLength)
  && record.sourceIp.all (within · sourceIpMaxLength)
  && record.userAgent.all (within · userAgentMaxLength)

-----------------------------------------------------------------------------------------
-- Constructed events
-----------------------------------------------------------------------------------------

/-- What the constructor ensures: the context's fields have their lengths, the metadata is
safe. -/
structure AuditEvent.Valid (u : Unicode) (event : AuditEvent) : Prop where
  context : validateRequestContext event.requestId event.sourceIp event.userAgent = .ok ()
  metadata : Safe u (maxDepth + 1) (.mapping event.metadata)

theorem AuditEvent.valid_of_postInit {u : Unicode} {draft : AuditEventDraft} {event : AuditEvent}
    (accepted : AuditEvent.postInit u draft = .ok event)
    : event.Valid u := by
  unfold AuditEvent.postInit at accepted
  cases occurred : requireTimezoneAware draft.occurredAt "occurred_at" with
  | error failure => simp [occurred, bind, Except.bind] at accepted
  | ok occurredAt =>
  cases created : draft.createdAt.mapM (requireTimezoneAware · "created_at") with
  | error failure => simp [occurred, created, bind, Except.bind] at accepted
  | ok createdAt =>
  cases context : validateRequestContext draft.requestId draft.sourceIp draft.userAgent with
  | error failure => simp [occurred, created, context, bind, Except.bind] at accepted
  | ok checked =>
  cases stored : safeMetadata u draft.metadata with
  | error failure => simp [occurred, created, context, stored, bind, Except.bind] at accepted
  | ok metadata =>
      simp only [occurred, created, context, stored, bind, Except.bind, pure, Except.pure,
        Except.ok.injEq] at accepted
      subst accepted
      exact ⟨context, safe_safeMetadata stored⟩

/-- A valid event is written and read back as it is, with its creation time. -/
theorem AuditEvent.Valid.eventFromRecord {u : Unicode} {event : AuditEvent}
    (valid : event.Valid u) (now : Timestamp) (zone : Timestamp → Int)
    : eventFromRecord u ((recordFromEvent now event).returned zone)
      = .ok { event with createdAt := some (event.createdAt.getD now) } := by
  simp [Audit.eventFromRecord, SecurityAuditEventRecord.returned, recordFromEvent,
    parseAuditEventType_value, parseAuditOutcome_value, AuditEvent.postInit, requireTimezoneAware,
    ZonedDatetime.returned, ZonedDatetime.astimezoneUtc, ZonedDatetime.utc, valid.context,
    safeMetadata_of_safe valid.metadata, bind, Except.bind, pure, Except.pure]

theorem within_of_validateOptionalString {value : Option Text} {maxLength : Nat}
    {fieldName : String} (checked : validateOptionalString value maxLength fieldName = .ok ())
    : value.all (within · maxLength) = true := by
  cases value with
  | none => rfl
  | some text =>
      simp only [validateOptionalString] at checked
      split at checked
      case isTrue => cases checked
      case isFalse good =>
        simp only [Option.all_some, within, decide_eq_true_eq]
        omega

theorem within_eventType (eventType : AuditEventType)
    : within eventType.value.toList 128 = true := by
  cases eventType <;> rfl

theorem within_outcome (outcome : AuditOutcome) : within outcome.value.toList 32 = true := by
  cases outcome <;> rfl

theorem AuditEvent.Valid.accepted {u : Unicode} {event : AuditEvent} (valid : event.Valid u)
    (now : Timestamp)
    : (recordFromEvent now event).accepted = true := by
  have context := valid.context
  unfold validateRequestContext at context
  cases requestId : validateOptionalString event.requestId requestIdMaxLength "request_id" with
  | error failure => simp [requestId, bind, Except.bind] at context
  | ok _ =>
  cases sourceIp : validateOptionalString event.sourceIp sourceIpMaxLength "source_ip" with
  | error failure => simp [requestId, sourceIp, bind, Except.bind] at context
  | ok _ =>
      have userAgent
          : validateOptionalString event.userAgent userAgentMaxLength "user_agent" = .ok () := by
        simpa [requestId, sourceIp, bind, Except.bind] using context
      simp [SecurityAuditEventRecord.accepted, recordFromEvent, within_eventType, within_outcome,
        within_of_validateOptionalString requestId, within_of_validateOptionalString sourceIp,
        within_of_validateOptionalString userAgent]

-----------------------------------------------------------------------------------------
-- Accepted metadata
-----------------------------------------------------------------------------------------

/-- Metadata of an accepted event keeps the bounds at every position, is a fixed point of the
sanitizer, and comes back from its row as it is. -/
theorem accepted_metadata_safe {u : Unicode} {draft : AuditEventDraft} {event : AuditEvent}
    (accepted : AuditEvent.postInit u draft = .ok event)
    : (∀ distance items, Within distance (.mapping event.metadata) (.mapping items)
        → distance ≤ 4 ∧ items.length ≤ 32 ∧ (items.map Prod.fst).Nodup
          ∧ ∀ item ∈ items, 1 ≤ item.1.length ∧ item.1.length ≤ 64
            ∧ ∀ part ∈ secretKeyParts, ¬ part.toList <:+: u.casefold item.1)
      ∧ (∀ distance items, Within distance (.mapping event.metadata) (.list items)
          → distance ≤ 4 ∧ items.length ≤ 32)
      ∧ (∀ distance content, Within distance (.mapping event.metadata) (.text content)
          → content.length ≤ 512)
      ∧ (∀ distance value, Within distance (.mapping event.metadata) value
          → value.isJson = true)
      ∧ safeMetadata u event.metadata = .ok event.metadata
      ∧ ∀ now zone,
          (recordFromEvent now event).accepted = true
          ∧ eventFromRecord u ((recordFromEvent now event).returned zone)
            = .ok { event with createdAt := some (event.createdAt.getD now) } := by
  have valid := AuditEvent.valid_of_postInit accepted
  refine ⟨fun distance items position => ?_, fun distance items position => ?_,
    fun distance content position => ?_, fun distance value position => ?_,
    safeMetadata_of_safe valid.metadata,
    fun now zone => ⟨valid.accepted now, valid.eventFromRecord now zone⟩⟩
  · obtain ⟨bound, below⟩ := valid.metadata.within position
    generalize left : maxDepth + 1 - distance = levels at below
    cases below with
    | mapping few distinct keys values =>
        simp only [maxDepth] at left
        refine ⟨by omega, few, distinct, fun item member => ?_⟩
        obtain ⟨some, short, visible⟩ := keys item member
        exact ⟨List.length_pos_iff.mpr some, short, not_isSecretLike_iff.mp visible⟩
  · obtain ⟨bound, below⟩ := valid.metadata.within position
    generalize left : maxDepth + 1 - distance = levels at below
    cases below with
    | list few values =>
        simp only [maxDepth] at left
        exact ⟨by omega, few⟩
  · obtain ⟨bound, below⟩ := valid.metadata.within position
    generalize maxDepth + 1 - distance = levels at below
    cases below with
    | text short => exact short
  · obtain ⟨bound, below⟩ := valid.metadata.within position
    generalize maxDepth + 1 - distance = levels at below
    cases below <;> rfl

/-- A login event with a mapping inside a list. -/
def draftSample : AuditEventDraft where
  id := 7
  eventType := .documentRegistered
  outcome := .success
  occurredAt := .aware 951782400000001
  sourceIp := some "10.0.0.7".toList
  metadata := [
    ("document_id".toList, .uuid 9),
    ("steps".toList, .list [.mapping [("at".toList, .datetime (.aware 0))], .null])
  ]

/-- The same event as the constructor leaves it. -/
def eventSample : AuditEvent where
  id := 7
  eventType := .documentRegistered
  outcome := .success
  occurredAt := 951782400000001
  actorUserId := none
  organizationId := none
  sessionId := none
  requestId := none
  sourceIp := some "10.0.0.7".toList
  userAgent := none
  metadata := [
    ("document_id".toList, .text "00000000-0000-0000-0000-000000000009".toList),
    ("steps".toList, .list [
      .mapping [("at".toList, .text "1970-01-01T00:00:00+00:00".toList)], .null
    ])
  ]
  createdAt := none

theorem accepted_metadata_safe_sample
    : AuditEvent.postInit asciiUnicode draftSample = .ok eventSample
      ∧ safeMetadata asciiUnicode eventSample.metadata = .ok eventSample.metadata :=
  ⟨rfl, (@accepted_metadata_safe asciiUnicode draftSample eventSample rfl).2.2.2.2.1⟩

end WorkflowForge.Audit
