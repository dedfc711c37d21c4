import Mathlib.Data.List.Dedup
import WorkflowForge.Domain.Identity

/-! Memberships, their life cycle and the policy that protects the last active owner. -/

namespace WorkflowForge

inductive MembershipStatus where
  | invited
  | active
  | suspended
  | removed
  deriving DecidableEq, Repr

def MembershipStatus.value : MembershipStatus → String
  | invited => "invited"
  | active => "active"
  | suspended => "suspended"
  | removed => "removed"

/-- What the identity domain and the authorization policies raise. -/
inductive IdentityExn where
  | invalidTimestamp (message : String)
  | invalidIdentifier (message : String)
  | invalidMembershipTransition (message : String)
  | membershipAlreadyRemoved (message : String)
  | lastActiveOwnerViolation (message : String)
  | tenantBoundaryViolation (message : String) (organizationId expectedOrganizationId : UUID)
  | membershipAdministrationDenied
    (actorMembershipId targetMembershipId organizationId : UUID) (reason : String)
  | tenantAccessDenied (userId organizationId : UUID) (reason : String)
  | tenantMembershipInactive (userId organizationId membershipId : UUID)
    (status : MembershipStatus)
  deriving DecidableEq, Repr

/-- `validate_uuid` of the identity module. -/
def validateIdentityUuid (value : UUID) (fieldName : String) : Except IdentityExn Unit :=
  if value = 0 then .error (.invalidIdentifier (fieldName ++ " must not be the nil UUID."))
  else .ok ()

/-- `normalize_timestamp` of the identity module. -/
def normalizeIdentityTimestamp (value : Datetime) (fieldName : String)
    : Except IdentityExn Timestamp :=
  match value with
  | .aware instant => .ok instant
  | .naive _ => .error (.invalidTimestamp (fieldName ++ " timestamp must be timezone-aware."))

structure Membership where
  id : UUID
  userId : UUID
  organizationId : UUID
  role : Role
  status : MembershipStatus
  createdAt : Timestamp
  updatedAt : Timestamp
  invitedAt : Option Timestamp := none
  joinedAt : Option Timestamp := none
  suspendedAt : Option Timestamp := none
  removedAt : Option Timestamp := none
  deriving DecidableEq

namespace Membership

/-- `_validate_lifecycle_state`. -/
def validateLifecycleState (self : Membership) : Except IdentityExn Unit :=
  match self.status with
  | .invited =>
      if self.invitedAt.isNone then
        .error (.invalidTimestamp "Invited membership must have an invited timestamp.")
      else if self.joinedAt.isSome || self.suspendedAt.isSome then
        .error (.invalidTimestamp
          "Invited membership cannot have joined or suspended timestamps.")
      else if self.removedAt.isSome then
        .error (.invalidTimestamp "Invited membership cannot have a removed timestamp.")
      else .ok ()
  | .active =>
      if self.joinedAt.isNone then
        .error (.invalidTimestamp "Active membership must have a joined timestamp.")
      else if self.suspendedAt.isSome || self.removedAt.isSome then
        .error (.invalidTimestamp
          "Active membership cannot have suspended or removed timestamps.")
      else .ok ()
  | .suspended =>
      if self.joinedAt.isNone || self.suspendedAt.isNone then
        .error (.invalidTimestamp
          "Suspended membership must have joined and suspended timestamps.")
      else if self.removedAt.isSome then
        .error (.invalidTimestamp "Suspended membership cannot have a removed timestamp.")
      else .ok ()
  | .removed =>
      if self.removedAt.isNone then
        .error (.invalidTimestamp "Removed membership must have a removed timestamp.")
      else .ok ()

def postInit (self : Membership) : Except IdentityExn Membership := do
  validateIdentityUuid self.id "Membership identifier"
  validateIdentityUuid self.userId "Membership user identifier"
  validateIdentityUuid self.organizationId "Membership organization identifier"
  if self.updatedAt < self.createdAt then
    throw (.invalidTimestamp
      "Membership updated timestamp must not be earlier than creation timestamp.")
  self.validateLifecycleState
  return self

/-- `Membership.invite`. -/
def invite (id userId organizationId : UUID) (role : Role) (now : Datetime)
    : Except IdentityExn Membership := do
  let timestamp ← normalizeIdentityTimestamp now "now"
  postInit {
    id, userId, organizationId, role
    status := .invited
    createdAt := timestamp
    updatedAt := timestamp
    invitedAt := some timestamp
  }

/-- `Membership.activate_directly`, for owner and bootstrap flows. -/
def activateDirectly (id userId organizationId : UUID) (role : Role) (now : Datetime)
    : Except IdentityExn Membership := do
  let timestamp ← normalizeIdentityTimestamp now "now"
  postInit {
    id, userId, organizationId, role
    status := .active
    createdAt := timestamp
    updatedAt := timestamp
    joinedAt := some timestamp
  }

/-- `_mutation_timestamp`. -/
def mutationTimestamp (self : Membership) (value : Datetime)
    : Except IdentityExn Timestamp := do
  let timestamp ← normalizeIdentityTimestamp value "now"
  if timestamp < self.createdAt then
    throw (.invalidTimestamp
      "Membership mutation timestamp must not be earlier than creation timestamp.")
  return timestamp

/-- `_raise_invalid_transition`. -/
def invalidTransition {α : Type} (self : Membership) (operation : String)
    : Except IdentityExn α :=
  if self.status = .removed then
    .error (.membershipAlreadyRemoved
      ("Cannot " ++ operation ++ " a removed membership."))
  else
    .error (.invalidMembershipTransition
      ("Cannot " ++ operation ++ " membership in " ++ self.status.value ++ " status."))

def activate (self : Membership) (now : Datetime) : Except IdentityExn Membership :=
  if self.status = .active then .ok self
  else if self.status ≠ .invited then self.invalidTransition "activate"
  else do
    let timestamp ← self.mutationTimestamp now
    postInit {
      self with
      status := .active
      updatedAt := timestamp
      joinedAt := some timestamp
      suspendedAt := none
      removedAt := none
    }

def suspend (self : Membership) (now : Datetime) : Except IdentityExn Membership :=
  if self.status ≠ .active then self.invalidTransition "suspend"
  else do
    let timestamp ← self.mutationTimestamp now
    postInit {
      self with
      status := .suspended
      updatedAt := timestamp
      suspendedAt := some timestamp
      removedAt := none
    }

/-- `reactivate` leaves `joined_at` as it is. -/
def reactivate (self : Membership) (now : Datetime) : Except IdentityExn Membership :=
  if self.status = .active then .ok self
  else if self.status ≠ .suspended then self.invalidTransition "reactivate"
  else do
    let timestamp ← self.mutationTimestamp now
    postInit {
      self with
      status := .active
      updatedAt := timestamp
      suspendedAt := none
      removedAt := none
    }

/-- `remove`; repeated removal is idempotent. -/
def remove (self : Membership) (now : Datetime) : Except IdentityExn Membership :=
  if self.status = .removed then .ok self
  else do
    let timestamp ← self.mutationTimestamp now
    postInit {
      self with
      status := .removed
      updatedAt := timestamp
      removedAt := some timestamp
    }

def changeRole (self : Membership) (role : Role) (now : Datetime)
    : Except IdentityExn Membership :=
  if self.status = .removed then
    .error (.membershipAlreadyRemoved "Cannot change role a removed membership.")
  else if self.status = .suspended then self.invalidTransition "change role while suspended"
  else if role = self.role then .ok self
  else do
    let timestamp ← self.mutationTimestamp now
    postInit { self with role, updatedAt := timestamp }

/-- An active membership with the owner role. -/
def isActiveOwner (self : Membership) : Bool :=
  self.role == .owner && self.status == .active

end Membership

/-- The mutations covered by the last-active-owner invariant. -/
inductive MembershipMutation where
  | demoteOwner
  | suspendOwner
  | removeOwner
  deriving DecidableEq, Repr

/-- `ensure_not_last_active_owner`. The identifiers form a set, so duplicates count once; the
three mutations are all that exist, so the mutation is not looked at any further. -/
def ensureNotLastActiveOwner (target : Membership) (memberships : List Membership)
    (_ : MembershipMutation)
    : Except IdentityExn Unit :=
  if target.role ≠ .owner ∨ target.status ≠ .active then .ok ()
  else
    let activeOwnerIds :=
      (target.id
        :: (memberships.filter (fun membership =>
              membership.organizationId == target.organizationId
              && membership.isActiveOwner)).map Membership.id).dedup
    if activeOwnerIds.length ≤ 1 ∧ target.id ∈ activeOwnerIds then
      .error (.lastActiveOwnerViolation "Cannot mutate the final active owner membership.")
    else .ok ()

end WorkflowForge
