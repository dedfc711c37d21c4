import WorkflowForge.Domain.Memberships

/-! The target restrictions of membership administration. -/

namespace WorkflowForge

/-- The administration operations with target restrictions. -/
inductive MembershipAdministrationMutation where
  | update
  | suspend
  | remove
  | changeRole
  | invite
  deriving DecidableEq, Repr

namespace MembershipAdministrationPolicy

/-- `_raise_membership_administration_denied`. -/
def denied (actorMembership targetMembership : Membership) (reason : String)
    : Except IdentityExn Unit :=
  .error (.membershipAdministrationDenied actorMembership.id targetMembership.id
    actorMembership.organizationId reason)

def ensureSameOrganization (actorMembership targetMembership : Membership)
    : Except IdentityExn Unit :=
  if actorMembership.organizationId ≠ targetMembership.organizationId then
    .error (.tenantBoundaryViolation "Actor membership does not match target membership"
      targetMembership.organizationId actorMembership.organizationId)
  else .ok ()

/-- The domain mutation behind an administration operation, if it concerns owners. -/
def domainMutation : MembershipAdministrationMutation → Option MembershipMutation
  | .suspend => some .suspendOwner
  | .remove => some .removeOwner
  | .changeRole => some .demoteOwner
  | .update => none
  | .invite => none

/-- `_ensure_owner_last_owner_rule`. -/
def ensureOwnerLastOwnerRule (targetMembership : Membership)
    (mutation : MembershipAdministrationMutation) (memberships : List Membership)
    : Except IdentityExn Unit :=
  if targetMembership.role ≠ .owner then .ok ()
  else if targetMembership.status ≠ .active then .ok ()
  else
    match domainMutation mutation with
    | some mutation => ensureNotLastActiveOwner targetMembership memberships mutation
    | none => .ok ()

def ensureTargetManageable (actorMembership targetMembership : Membership)
    (mutation : MembershipAdministrationMutation) (memberships : List Membership)
    : Except IdentityExn Unit := do
  ensureSameOrganization actorMembership targetMembership
  if actorMembership.role = .owner then
    ensureOwnerLastOwnerRule targetMembership mutation memberships
  else if actorMembership.role = .admin then
    if targetMembership.role = .owner then
      denied actorMembership targetMembership "admins cannot manage owner memberships"
  else
    denied actorMembership targetMembership
      "membership target policy requires owner or admin role"

/-- `ensure_self_role_change_allowed`. -/
def ensureSelfRoleChangeAllowed (actorMembership targetMembership : Membership)
    (newRole : Role)
    : Except IdentityExn Unit :=
  if actorMembership.id ≠ targetMembership.id then .ok ()
  else if newRole = targetMembership.role then .ok ()
  else if actorMembership.role = .owner then .ok ()
  else
    denied actorMembership targetMembership
      "non-owner memberships cannot change their own role"

def ensureRoleAssignmentAllowed (actorMembership targetMembership : Membership)
    (newRole : Role) (memberships : List Membership)
    : Except IdentityExn Unit := do
  ensureSameOrganization actorMembership targetMembership
  ensureSelfRoleChangeAllowed actorMembership targetMembership newRole
  if targetMembership.role = newRole then return ()
  else if actorMembership.role = .owner then
    if targetMembership.role = .owner ∧ newRole ≠ .owner then
      ensureNotLastActiveOwner targetMembership memberships .demoteOwner
  else if actorMembership.role = .admin then
    if newRole = .owner then
      denied actorMembership targetMembership "admins cannot assign owner role"
    else if targetMembership.role = .owner then
      denied actorMembership targetMembership "admins cannot update owner memberships"
  else
    denied actorMembership targetMembership "role assignment requires owner or admin role"

end MembershipAdministrationPolicy

/-- The mutations of an existing membership. -/
inductive MembershipChange where
  | activate
  | reactivate
  | suspend
  | remove
  | changeRole (role : Role)
  deriving DecidableEq, Repr

namespace MembershipChange

/-- What the domain makes of the target. -/
def apply (now : Datetime) : MembershipChange → Membership → Except IdentityExn Membership
  | activate, target => target.activate now
  | reactivate, target => target.reactivate now
  | suspend, target => target.suspend now
  | remove, target => target.remove now
  | changeRole role, target => target.changeRole role now

/-- The policy check that belongs to the mutation. -/
def check (actor target : Membership) (memberships : List Membership)
    : MembershipChange → Except IdentityExn Unit
  | activate =>
      MembershipAdministrationPolicy.ensureTargetManageable actor target .update memberships
  | reactivate =>
      MembershipAdministrationPolicy.ensureTargetManageable actor target .update memberships
  | suspend =>
      MembershipAdministrationPolicy.ensureTargetManageable actor target .suspend memberships
  | remove =>
      MembershipAdministrationPolicy.ensureTargetManageable actor target .remove memberships
  | changeRole role =>
      MembershipAdministrationPolicy.ensureRoleAssignmentAllowed actor target role memberships

end MembershipChange

end WorkflowForge
