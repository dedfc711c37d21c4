import WorkflowForge.Domain.Audit
import WorkflowForge.Domain.Memberships

/-! Users, organizations and password credentials. -/

namespace WorkflowForge

open Python

/-- What creating the first owner raises. -/
inductive AccountExn where
  | invalidEmailAddress (message : String)
  | invalidOrganizationSlug (message : String)
  | invalidDisplayName (message : String)
  | invalidOrganizationName (message : String)
  | invalidPassword (message : String)
  | identity (failure : IdentityExn)
  | duplicateNormalizedEmail (message : String)
  | duplicateOrganizationSlug (message : String)
  | duplicateOrganizationMembership (message : String)
  | missingIdentityReference (message : String)
  | passwordHashing
  | auditPersistence (message : String)
  | bootstrapRefused (message : String)
  | dataError
  | portFailure
  deriving DecidableEq, Repr

def ofIdentity {α : Type} : Except IdentityExn α → Except AccountExn α
  | .ok value => .ok value
  | .error failure => .error (.identity failure)

-----------------------------------------------------------------------------------------
-- Value objects
-----------------------------------------------------------------------------------------

/-- An email address; its identity is the normalized form. -/
structure EmailAddress where
  display : Text
  normalized : Text
  deriving DecidableEq

/-- `EmailAddress(value)`. The domain part is what follows the only `@`. -/
def EmailAddress.parse (u : Unicode) (value : Text) : Except AccountExn EmailAddress := do
  let display := u.strip value
  let normalized := u.casefold display
  if normalized = [] then
    throw (.invalidEmailAddress "Email address must not be empty.")
  if normalized.length < 3 then
    throw (.invalidEmailAddress "Email address must be at least 3 characters.")
  if 254 < normalized.length then
    throw (.invalidEmailAddress "Email address must be at most 254 characters.")
  if normalized.any u.isSpace then
    throw (.invalidEmailAddress "Email address must not contain whitespace.")
  if normalized.count '@' ≠ 1 then
    throw (.invalidEmailAddress "Email address must contain exactly one @ separator.")
  let localPart := normalized.takeWhile (· != '@')
  let domainPart := Text.afterLast normalized '@'
  if localPart = [] then
    throw (.invalidEmailAddress "Email address local part must not be empty.")
  if domainPart = [] then
    throw (.invalidEmailAddress "Email address domain part must not be empty.")
  if '.' ∉ domainPart then
    throw (.invalidEmailAddress "Email address domain part must contain a dot.")
  if domainPart.head? = some '.' ∨ domainPart.getLast? = some '.'
      ∨ Text.contains domainPart "..".toList then
    throw (.invalidEmailAddress "Email address domain part is invalid.")
  return { display, normalized }

/-- `[a-z0-9]+(?:-[a-z0-9]+)*`, matched in full. -/
def isOrganizationSlug (text : Text) : Bool :=
  (Text.splitOn '-' text).all (fun part =>
    part != [] && part.all (fun c => isAsciiLower c || isAsciiDigit c))

structure OrganizationSlug where
  value : Text
  valid : isOrganizationSlug value = true
  deriving DecidableEq

/-- `OrganizationSlug(value)`. -/
def OrganizationSlug.parse (u : Unicode) (value : Text) : Except AccountExn OrganizationSlug :=
  let normalized := u.lower (u.strip value)
  if normalized.length < 3 then
    .error (.invalidOrganizationSlug "Organization slug must be at least 3 characters.")
  else if 63 < normalized.length then
    .error (.invalidOrganizationSlug "Organization slug must be at most 63 characters.")
  else if valid : isOrganizationSlug normalized = true then .ok ⟨normalized, valid⟩
  else
    .error (.invalidOrganizationSlug
      ("Organization slug must contain only lowercase letters, digits, "
        ++ "and single hyphens between alphanumeric characters."))

/-- The common form of `normalize_display_name` and `normalize_organization_name`. -/
def normalizeName (u : Unicode) (raise : String → AccountExn) (subject : String)
    (maxLength : Nat) (value : Text)
    : Except AccountExn Text :=
  let normalized := u.collapse value
  if normalized.length < 1 then .error (raise (subject ++ " must not be empty."))
  else if maxLength < normalized.length then
    .error (raise (subject ++ " must be at most " ++ toString maxLength ++ " characters."))
  else .ok normalized

def normalizeDisplayName (u : Unicode) : Text → Except AccountExn Text :=
  normalizeName u .invalidDisplayName "Display name" 120

def normalizeOrganizationName (u : Unicode) : Text → Except AccountExn Text :=
  normalizeName u .invalidOrganizationName "Organization name" 160

-----------------------------------------------------------------------------------------
-- Entities
-----------------------------------------------------------------------------------------

structure User where
  id : UUID
  email : EmailAddress
  displayName : Text
  isActive : Bool
  createdAt : Timestamp
  updatedAt : Timestamp
  disabledAt : Option Timestamp
  deriving DecidableEq

def User.postInit (u : Unicode) (self : User) : Except AccountExn User := do
  ofIdentity (validateIdentityUuid self.id "User identifier")
  let displayName ← normalizeDisplayName u self.displayName
  if self.updatedAt < self.createdAt then
    throw (.identity (.invalidTimestamp
      "User updated timestamp must not be earlier than creation timestamp."))
  if self.isActive && self.disabledAt.isSome then
    throw (.identity (.invalidTimestamp "Active user must not have a disabled timestamp."))
  if !self.isActive && self.disabledAt.isNone then
    throw (.identity (.invalidTimestamp "Inactive user must have a disabled timestamp."))
  return { self with displayName }

/-- `User.create`. -/
def User.create (u : Unicode) (id : UUID) (email : EmailAddress) (displayName : Text)
    (now : Timestamp)
    : Except AccountExn User :=
  User.postInit u {
    id, email, displayName
    isActive := true
    createdAt := now
    updatedAt := now
    disabledAt := none
  }

structure Organization where
  id : UUID
  name : Text
  slug : OrganizationSlug
  isActive : Bool
  createdAt : Timestamp
  updatedAt : Timestamp
  deactivatedAt : Option Timestamp
  deriving DecidableEq

def Organization.postInit (u : Unicode) (self : Organization)
    : Except AccountExn Organization := do
  ofIdentity (validateIdentityUuid self.id "Organization identifier")
  let name ← normalizeOrganizationName u self.name
  if self.updatedAt < self.createdAt then
    throw (.identity (.invalidTimestamp
      "Organization updated timestamp must not be earlier than creation timestamp."))
  if self.isActive && self.deactivatedAt.isSome then
    throw (.identity (.invalidTimestamp
      "Active organization must not have a deactivated timestamp."))
  if !self.isActive && self.deactivatedAt.isNone then
    throw (.identity (.invalidTimestamp
      "Inactive organization must have a deactivated timestamp."))
  return { self with name }

/-- `Organization.create`. -/
def Organization.create (u : Unicode) (id : UUID) (name : Text) (slug : OrganizationSlug)
    (now : Timestamp)
    : Except AccountExn Organization :=
  Organization.postInit u {
    id, name, slug
    isActive := true
    createdAt := now
    updatedAt := now
    deactivatedAt := none
  }

/-- Durable password credential state. -/
structure PasswordCredential where
  userId : UUID
  passwordHash : Text
  createdAt : Timestamp
  updatedAt : Timestamp
  deriving DecidableEq

def PasswordCredential.postInit (self : PasswordCredential)
    : Except AccountExn PasswordCredential := do
  ofIdentity (validateIdentityUuid self.userId "Password credential user identifier")
  if self.passwordHash = [] then
    throw (.identity (.invalidIdentifier "Password credential hash must not be empty."))
  if self.updatedAt < self.createdAt then
    throw (.identity (.invalidTimestamp
      "Password credential updated timestamp must not be earlier than creation timestamp."))
  return self

/-- `replace_hash`. -/
def PasswordCredential.replaceHash (self : PasswordCredential) (passwordHash : Text)
    (now : Timestamp)
    : Except AccountExn PasswordCredential := do
  if now < self.createdAt then
    throw (.identity (.invalidTimestamp
      "Password credential mutation timestamp must not be earlier than creation timestamp."))
  PasswordCredential.postInit { self with passwordHash, updatedAt := now }

/-- `_validate_password_policy`. -/
def validatePasswordPolicy (password : Text) : Except AccountExn Unit :=
  if password.length < 12 then
    .error (.invalidPassword "Password must be at least 12 characters.")
  else if 256 < password.length then
    .error (.invalidPassword "Password must be at most 256 characters.")
  else .ok ()

end WorkflowForge
