import WorkflowForge.Domain.Memberships
import WorkflowForge.Python.Text

/-! What the browser keeps about the session: server data, failures and local storage. -/

namespace WorkflowForge.Web

open Python

-----------------------------------------------------------------------------------------
-- Server data
-----------------------------------------------------------------------------------------

structure TokenResponse where
  accessToken : Text
  accessTokenExpiresAt : Text
  deriving DecidableEq

structure MeResponse where
  userId : Text
  sessionId : Text
  issuedAt : Text
  expiresAt : Text
  deriving DecidableEq

structure UserOrganization where
  id : Text
  name : Text
  slug : Text
  membershipId : Text
  membershipRole : Role
  membershipStatus : MembershipStatus
  deriving DecidableEq

structure TenantContext where
  userId : Text
  organizationId : Text
  membershipId : Text
  role : Role
  permissions : List Permission
  deriving DecidableEq

-----------------------------------------------------------------------------------------
-- Failures
-----------------------------------------------------------------------------------------

/-- `ApiError`. -/
structure ApiError where
  status : Option Nat
  code : String
  timeout : Bool := false
  retryAfterSeconds : Option Nat := none
  deriving DecidableEq

/-- A caught value: an `ApiError` or any other `Error`. -/
inductive Failure where
  | api (error : ApiError)
  | other (message : String)
  deriving DecidableEq

structure AuthUiError where
  title : String
  message : String
  status : Option Nat
  code : String
  retryAfterSeconds : Option Nat
  deriving DecidableEq

def isAuthenticationFailure : Failure → Bool
  | .api error => error.status == some 401
  | .other _ => false

def isRefreshAuthenticationFailure (failure : Failure) : Bool :=
  isAuthenticationFailure failure
  || (match failure with
      | .api error => error.status == some 403 && error.code == "csrf_failed"
      | .other _ => false)

def messageForApiError (error : ApiError) : String :=
  if error.status = some 401 then "Your session has expired. Sign in again to continue."
  else if error.status = some 403 then
    "You do not have access to that organization or action."
  else if error.status = some 422 then "The request contained invalid data."
  else if error.status = some 429 then
    let suffix :=
      match error.retryAfterSeconds with
      | none => ""
      | some seconds => " Try again in " ++ toString seconds ++ " seconds."
    "Too many attempts." ++ suffix
  else if error.timeout || error.code == "NETWORK_ERROR" then
    "WorkflowForge is unreachable. Check the API connection and try again."
  else "WorkflowForge could not complete the request."

def toUiError (failure : Failure) (title : String) : AuthUiError :=
  match failure with
  | .api error => {
      title
      message := messageForApiError error
      status := error.status
      code := error.code
      retryAfterSeconds := error.retryAfterSeconds
    }
  | .other _ => {
      title
      message := "The request could not be completed."
      status := none
      code := "UNKNOWN_ERROR"
      retryAfterSeconds := none
    }

-----------------------------------------------------------------------------------------
-- Local storage
-----------------------------------------------------------------------------------------

def isHexDigit (c : Char) : Bool :=
  isAsciiDigit c || ('a' ≤ c && c ≤ 'f') || ('A' ≤ c && c ≤ 'F')

def isHexRun (length : Nat) (text : Text) : Bool :=
  text.length == length && text.all isHexDigit

/-- `UUID_PATTERN.test(value)`: versions 1 to 5 of the usual variant, in either case. -/
def matchesUuidPattern (value : Text) : Bool :=
  match Text.splitOn '-' value with
  | [first, second, third, fourth, fifth] =>
      isHexRun 8 first && isHexRun 4 second && isHexRun 4 third && isHexRun 4 fourth
      && isHexRun 12 fifth
      && third.head?.any (fun c => '1' ≤ c && c ≤ '5')
      && fourth.head?.any (fun c => "89abAB".toList.contains c)
  | _ => false

/-- The entry `workflowforge.selectedOrganizationId`; where the storage is not available,
every access throws. -/
structure Storage where
  available : Bool
  selected : Option Text
  deriving DecidableEq

/-- `safeRemoveSelectedOrganization`. -/
def Storage.remove (storage : Storage) : Storage :=
  if storage.available then { storage with selected := none } else storage

/-- `safeGetSelectedOrganization`. -/
def Storage.get (storage : Storage) : Option Text × Storage :=
  if storage.available then
    match storage.selected with
    | none => (none, storage)
    | some value =>
        if matchesUuidPattern value then (some value, storage) else (none, storage.remove)
  else (none, storage)

/-- `safeSetSelectedOrganization`. -/
def Storage.set (storage : Storage) (organizationId : Text) : Storage :=
  if !matchesUuidPattern organizationId then storage.remove
  else if storage.available then { storage with selected := some organizationId }
  else storage

-----------------------------------------------------------------------------------------
-- React state
-----------------------------------------------------------------------------------------

inductive AuthStatus where
  | initializing
  | anonymous
  | authenticated
  | authenticating
  | error
  deriving DecidableEq, Repr

structure AuthState where
  status : AuthStatus
  user : Option MeResponse
  organizations : List UserOrganization
  selectedOrganizationId : Option Text
  tenantContext : Option TenantContext
  accessTokenExpiresAt : Option Text
  error : Option AuthUiError
  deriving DecidableEq

def anonymousState : AuthState where
  status := .anonymous
  user := none
  organizations := []
  selectedOrganizationId := none
  tenantContext := none
  accessTokenExpiresAt := none
  error := none

/-- `hasPermission`. -/
def AuthState.hasPermission (state : AuthState) (permission : Permission) : Bool :=
  match state.tenantContext with
  | none => false
  | some context => context.permissions.contains permission

example : matchesUuidPattern "22222222-2222-4222-8222-22222222222a".toList = true := by decide

end WorkflowForge.Web
