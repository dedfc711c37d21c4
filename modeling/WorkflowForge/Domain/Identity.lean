import Mathlib.Algebra.Group.Int.Defs
import Mathlib.Algebra.Group.Nat.Defs
import WorkflowForge.Python.Text

/-! Identifiers, roles, permissions and the tenant context. -/

namespace WorkflowForge

/-- A UUID as its integer; `0` is the nil UUID. Fresh ones are drawn without a bound. -/
abbrev UUID := Nat

/-- An instant in UTC, in microseconds. -/
abbrev Timestamp := Int

/-- A Python `datetime`: with a time zone it denotes an instant. -/
inductive Datetime where
  | aware (instant : Timestamp)
  | naive (wall : Int)
  deriving DecidableEq, Repr

inductive Role where
  | owner
  | admin
  | operator
  | reviewer
  | auditor
  deriving DecidableEq, Repr

inductive Permission where
  | organizationRead
  | organizationUpdate
  | membershipRead
  | membershipInvite
  | membershipUpdate
  | membershipRemove
  | auditRead
  | securityManage
  | apiKeysManage
  | providerCredentialsManage
  | documentRead
  | documentWrite
  | documentArchive
  | documentDownload
  | documentVersionRead
  | documentVersionCreate
  | artifactRead
  | artifactDownload
  | batchRead
  | batchWrite
  | batchArchive
  | batchManageDocuments
  | caseRead
  | caseWrite
  | caseArchive
  | caseManageDocuments
  | caseComment
  | caseTask
  | caseDecision
  deriving DecidableEq, Repr

/-- The tenant context resolved by trusted composition; its constructor rejects nil ids,
and the organization's id has 128 bits.
Permissions are explicit, as `trusted_with_permissions` allows any set of them.
-/
structure TenantContext where
  userId : UUID
  organizationId : UUID
  membershipId : UUID
  role : Role
  permissions : List Permission
  user_ne_nil : userId ≠ 0
  organization_ne_nil : organizationId ≠ 0
  membership_ne_nil : membershipId ≠ 0
  organization_lt : organizationId < 2 ^ 128
  deriving DecidableEq

/-- Everything the modelled code raises. -/
inductive Exn where
  | documentError (message : String)
  | invalidDocumentTransition (message : String)
  | archivedDocumentMutation (message : String)
  | batchError (message : String)
  | archivedBatchMutation (message : String)
  | caseError (message : String)
  | permissionDenied (userId organizationId : UUID) (permission : Permission)
  | documentNotFound (message : String)
  | duplicateDocumentContent (message : String)
  | concurrencyConflict (message : String)
  | uploadValidation (code message : String)
  | invalidIdempotencyKey (message : String)
  | idempotencyConflict (message : String)
  | idempotencyInProgress (message : String)
  | objectStorageUnavailable (message : String)
  | objectStorageError (message : String)
  | objectPromotionError (message : String)
  | auditPersistence (message : String)
  | multipleResultsFound
  | batchNotFound (message : String)
  | caseNotFound (message : String)
  | caseTaskNotFound (message : String)
  | integrityError
  | dataError
  | valueError (message : String)
  | runtimeError (message : String)
  | zeroDivisionError
  /-- An exception of the zip reader other than `BadZipFile`. -/
  | zipReaderError
  /-- A port call that raised for an infrastructure reason. -/
  | portFailure
  deriving DecidableEq, Repr

/-- The two halves of a successful pure computation. -/
theorem exists_of_bind_ok {ε α β : Type} {first : Except ε α} {next : α → Except ε β}
    {value : β} (succeeded : (first >>= next) = .ok value)
    : ∃ middle, first = .ok middle ∧ next middle = .ok value := by
  cases first with
  | error failure => cases succeeded
  | ok middle => exact ⟨middle, rfl, succeeded⟩

/-- `AuthorizationPolicy.allows`. -/
def allows (context : TenantContext) (permission : Permission) : Bool :=
  context.permissions.contains permission

/-- `AuthorizationPolicy.require`. -/
def require (context : TenantContext) (permission : Permission) : Except Exn Unit :=
  if allows context permission then .ok ()
  else .error (.permissionDenied context.userId context.organizationId permission)

end WorkflowForge
