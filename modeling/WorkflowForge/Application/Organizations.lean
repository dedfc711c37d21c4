import WorkflowForge.Application.BootstrapOwner
import WorkflowForge.Domain.Permissions

/-! The organizations of a user, and the tenant context of one of them.
Both use cases read organizations and memberships only; neither writes.
-/

namespace WorkflowForge.Organizations

open Python Bootstrap

/-- What the two use cases raise. -/
inductive OrganizationExn where
  | account (failure : AccountExn)
  | multipleResultsFound
  | valueError (message : String)
  deriving DecidableEq, Repr

def ofAccount {α : Type} : Except AccountExn α → Except OrganizationExn α
  | .ok value => .ok value
  | .error failure => .error (.account failure)

def ofIdentityExn {α : Type} (result : Except IdentityExn α) : Except OrganizationExn α :=
  ofAccount (ofIdentity result)

/-- The organization and membership tables. Their keys are unique, and their rows load: the
repository method that wrote a row has loaded it before its transaction could commit. -/
structure IdentityStore (u : Unicode) where
  organizations : List OrganizationRecord
  memberships : List Membership
  organization_key : (organizations.map (·.id)).Nodup
  membership_pair : (memberships.map (fun row => (row.userId, row.organizationId))).Nodup
  organizations_load
    : ∀ row ∈ organizations, ∃ organization, organizationFromRecord u row = .ok organization
  memberships_load : ∀ row ∈ memberships, row.postInit = .ok row
  organization_lt : ∀ row ∈ organizations, row.id < 2 ^ 128

variable {u : Unicode}

-----------------------------------------------------------------------------------------
-- Repositories
-----------------------------------------------------------------------------------------

/-- `scalar_one_or_none`. -/
def scalarOneOrNone {α : Type} : List α → Except OrganizationExn (Option α)
  | [] => .ok none
  | [row] => .ok (some row)
  | _ :: _ :: _ => .error .multipleResultsFound

/-- `ORDER BY created_at, id`. -/
def oldestFirst {α : Type} (createdAt : α → Timestamp) (id : α → UUID) (rows : List α)
    : List α :=
  rows.mergeSort (fun first second =>
    createdAt first < createdAt second
    || (createdAt first == createdAt second && id first ≤ id second))

namespace OrganizationRepository

def getById (store : IdentityStore u) (organizationId : UUID)
    : Except OrganizationExn (Option Organization) :=
  match store.organizations.find? (fun row => row.id == organizationId) with
  | none => .ok none
  | some record => do return some (← ofAccount (organizationFromRecord u record))

/-- The rows of the join, one for each membership of the user in an organization. -/
def joined (store : IdentityStore u) (userId : UUID) : List OrganizationRecord :=
  store.organizations.flatMap (fun row =>
    (store.memberships.filter (fun membership =>
      membership.organizationId == row.id && membership.userId == userId)).map
        (fun _ => row))

def listForUser (store : IdentityStore u) (userId : UUID)
    : Except OrganizationExn (List Organization) :=
  ofAccount
    ((oldestFirst (·.createdAt) (·.id) (joined store userId)).mapM (organizationFromRecord u))

end OrganizationRepository

namespace MembershipRepository

def getByUserAndOrganization (store : IdentityStore u) (userId organizationId : UUID)
    : Except OrganizationExn (Option Membership) := do
  let rows := store.memberships.filter (fun row =>
    row.userId == userId && row.organizationId == organizationId)
  match ← scalarOneOrNone rows with
  | none => return none
  | some record => return some (← ofAccount (Bootstrap.membershipFromRecord record))

def listForUser (store : IdentityStore u) (userId : UUID)
    : Except OrganizationExn (List Membership) :=
  ofAccount
    ((oldestFirst (·.createdAt) (·.id)
      (store.memberships.filter (fun row => row.userId == userId))).mapM
        Bootstrap.membershipFromRecord)

end MembershipRepository

-----------------------------------------------------------------------------------------
-- ListUserOrganizations
-----------------------------------------------------------------------------------------

structure UserOrganizationSummary where
  id : UUID
  name : Text
  slug : OrganizationSlug
  membershipId : UUID
  membershipRole : Role
  membershipStatus : MembershipStatus
  deriving DecidableEq

/-- `organizations.get(id)` on the dict of the active organizations; later rows win. -/
def activeOrganization (organizations : List Organization) (id : UUID) : Option Organization :=
  (organizations.filter (·.isActive)).reverse.find? (fun organization => organization.id == id)

/-- One turn of the loop over the memberships. -/
def summaryOf (organizations : List Organization) (membership : Membership)
    : Option UserOrganizationSummary :=
  if membership.status ≠ .active then none
  else
    match activeOrganization organizations membership.organizationId with
    | none => none
    | some organization =>
        some {
          id := organization.id
          name := organization.name
          slug := organization.slug
          membershipId := membership.id
          membershipRole := membership.role
          membershipStatus := membership.status
        }

/-- The sort key: strings compare by code points, tuples item by item. -/
def sortKey (u : Unicode) (item : UserOrganizationSummary) : List Text :=
  [u.casefold item.name, item.slug.value, uuidText item.id]

def sortSummaries (u : Unicode) (summaries : List UserOrganizationSummary)
    : List UserOrganizationSummary :=
  summaries.mergeSort (fun first second => !decide (sortKey u second < sortKey u first))

/-- `ListUserOrganizations(max_results)(user_id)`. -/
def listUserOrganizations (maxResults : Int) (store : IdentityStore u) (userId : UUID)
    : Except OrganizationExn (List UserOrganizationSummary) := do
  if maxResults < 1 then
    throw (.valueError "Organization list max_results must be positive.")
  let memberships ← MembershipRepository.listForUser store userId
  let organizations ← OrganizationRepository.listForUser store userId
  let summaries := memberships.filterMap (summaryOf organizations)
  return (sortSummaries u summaries).take maxResults.toNat

-----------------------------------------------------------------------------------------
-- ResolveTenantContext
-----------------------------------------------------------------------------------------

/-- `TenantContext.create`. The organization's id comes from a `uuid` column. -/
def createTenantContext (userId organizationId membershipId : UUID) (role : Role)
    : Except OrganizationExn TenantContext := do
  ofIdentityExn (validateIdentityUuid userId "Tenant context user identifier")
  ofIdentityExn (validateIdentityUuid organizationId "Tenant context organization identifier")
  ofIdentityExn (validateIdentityUuid membershipId "Tenant context membership identifier")
  if valid : userId ≠ 0 ∧ organizationId ≠ 0 ∧ membershipId ≠ 0 ∧ organizationId < 2 ^ 128 then
    return {
      userId, organizationId, membershipId, role
      permissions := permissionsForRole role
      user_ne_nil := valid.1
      organization_ne_nil := valid.2.1
      membership_ne_nil := valid.2.2.1
      organization_lt := valid.2.2.2
    }
  else throw (.valueError "badly formed hexadecimal UUID string")

/-- `ResolveTenantContext(command)`. -/
def resolveTenantContext (store : IdentityStore u) (userId organizationId : UUID)
    : Except OrganizationExn TenantContext := do
  let denied := fun (reason : String) =>
    OrganizationExn.account (.identity (.tenantAccessDenied userId organizationId reason))
  match ← OrganizationRepository.getById store organizationId with
  | none => throw (denied "organization not found")
  | some organization =>
      if !organization.isActive then throw (denied "organization inactive")
      match ← MembershipRepository.getByUserAndOrganization store userId organizationId with
      | none => throw (denied "membership not found")
      | some membership =>
          if membership.status ≠ .active then
            throw (.account (.identity (.tenantMembershipInactive userId organizationId
              membership.id membership.status)))
          createTenantContext userId organizationId membership.id membership.role

end WorkflowForge.Organizations
