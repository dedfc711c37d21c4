import WorkflowForge.Infrastructure.BootstrapWorld

/-! The repositories of the bootstrap, and its use case. -/

namespace WorkflowForge.Bootstrap

open Python Transactions

/-- What the bootstrap is composed with. `hashPassword` may raise. -/
structure Services where
  unicode : Unicode
  hashPassword : Text → Except AccountExn Text

-----------------------------------------------------------------------------------------
-- Repositories
-----------------------------------------------------------------------------------------

/-- `_record_from_user`. -/
def recordFromUser (user : User) : UserRecord where
  id := user.id
  email := user.email.display
  normalizedEmail := user.email.normalized
  displayName := user.displayName
  isActive := user.isActive
  createdAt := user.createdAt
  updatedAt := user.updatedAt
  disabledAt := user.disabledAt

/-- `_user_from_record`. -/
def userFromRecord (u : Unicode) (record : UserRecord) : Except AccountExn User := do
  let email ← EmailAddress.parse u record.email
  User.postInit u {
    id := record.id
    email
    displayName := record.displayName
    isActive := record.isActive
    createdAt := record.createdAt
    updatedAt := record.updatedAt
    disabledAt := record.disabledAt
  }

/-- `_record_from_organization`. -/
def recordFromOrganization (organization : Organization) : OrganizationRecord where
  id := organization.id
  name := organization.name
  slug := organization.slug.value
  isActive := organization.isActive
  createdAt := organization.createdAt
  updatedAt := organization.updatedAt
  deactivatedAt := organization.deactivatedAt

/-- `_organization_from_record`. -/
def organizationFromRecord (u : Unicode) (record : OrganizationRecord)
    : Except AccountExn Organization := do
  let slug ← OrganizationSlug.parse u record.slug
  Organization.postInit u {
    id := record.id
    name := record.name
    slug
    isActive := record.isActive
    createdAt := record.createdAt
    updatedAt := record.updatedAt
    deactivatedAt := record.deactivatedAt
  }

/-- `_membership_from_record`. -/
def membershipFromRecord (record : Membership) : Except AccountExn Membership :=
  ofIdentity record.postInit

def acquireBootstrapLock : App Unit := do
  enter .acquireBootstrapLock
  perform .lock

/-- Counts of the guard tables. -/
structure BootstrapState where
  users : Nat
  organizations : Nat

def BootstrapState.initialized (state : BootstrapState) : Bool :=
  decide (0 < state.users ∨ 0 < state.organizations)

/-- The two counts are statements of their own. -/
def bootstrapState : App BootstrapState := do
  enter .bootstrapState
  let users ← select .countUsers
  let organizations ← select .countOrganizations
  return { users := (users .users).length
           organizations := (organizations .organizations).length }

def addUser (u : Unicode) (user : User) : App User := do
  enter .addUser
  insert .users (recordFromUser user)
    (throw (.duplicateNormalizedEmail "User normalized email already exists."))
  liftExcept (userFromRecord u (recordFromUser user))

def addOrganization (u : Unicode) (organization : Organization) : App Organization := do
  enter .addOrganization
  insert .organizations (recordFromOrganization organization)
    (throw (.duplicateOrganizationSlug "Organization slug already exists."))
  liftExcept (organizationFromRecord u (recordFromOrganization organization))

/-- `_raise_membership_integrity_error`. -/
def raiseMembershipIntegrityError : App Unit := do
  if ← perform .duplicateNamed then
    throw (.duplicateOrganizationMembership "Organization membership already exists.")
  throw (.missingIdentityReference "Membership references a missing user or organization.")

def addMembership (membership : Membership) : App Membership := do
  enter .addMembership
  insert .memberships membership raiseMembershipIntegrityError
  liftExcept (membershipFromRecord membership)

def getUserById (u : Unicode) (userId : UUID) : App (Option User) := do
  enter .getUserById
  let db ← select (.user userId)
  match db.find? .users userId with
  | none => return none
  | some record => return some (← liftExcept (userFromRecord u record))

def getCredentialByUserId (userId : UUID) : App (Option PasswordCredential) := do
  enter .getCredentialByUserId
  let db ← select (.passwordCredential userId)
  match db.find? .passwordCredentials userId with
  | none => return none
  | some record => return some (← liftExcept record.postInit)

/-- The UPDATE of an existing credential. -/
def updateCredential (credential : PasswordCredential) : App Unit := do
  let answer : Except Violation Bool ←
    perform (.sql (.update .passwordCredentials credential.userId (fun row => some {
      row with
      passwordHash := credential.passwordHash
      createdAt := credential.createdAt
      updatedAt := credential.updatedAt
    })))
  match answer with
  | .ok _ => return ()
  | .error .integrity => do
      sessionRollback
      throw (.missingIdentityReference "Password credential references a missing user.")
  | .error .data => throw .dataError

/-- `set_for_user`: create or replace. -/
def setCredentialForUser (credential : PasswordCredential) : App PasswordCredential := do
  enter .setCredentialForUser
  let db ← select (.passwordCredential credential.userId)
  match db.find? .passwordCredentials credential.userId with
  | none =>
      insert .passwordCredentials credential
        (throw (.missingIdentityReference "Password credential references a missing user."))
  | some _ => updateCredential credential
  liftExcept credential.postInit

/-- `record`: database errors are wrapped. -/
def auditRecord (event : BootstrapEvent) : App Unit := do
  enter .auditRecord
  let answer : Except Violation Unit ← perform (.sql (.insert .securityAuditEvents event))
  match answer with
  | .ok () => return ()
  | .error _ => throw (.auditPersistence "Audit event could not be persisted.")

-----------------------------------------------------------------------------------------
-- Use cases
-----------------------------------------------------------------------------------------

/-- `SetUserPassword` without an audit recorder and with a time, as the bootstrap calls it. -/
def setUserPassword (services : Services) (userId : UUID) (password : Text) (now : Timestamp)
    : App PasswordCredential := do
  liftExcept (validatePasswordPolicy password)
  match ← getUserById services.unicode userId with
  | none => throw (.missingIdentityReference "User does not exist.")
  | some _ =>
      enter .hashPassword
      let passwordHash ← liftExcept (services.hashPassword password)
      let existing ← getCredentialByUserId userId
      let credential ← liftExcept
        (match existing with
          | some credential => credential.replaceHash passwordHash now
          | none => PasswordCredential.postInit
              { userId, passwordHash, createdAt := now, updatedAt := now })
      setCredentialForUser credential

structure BootstrapOwnerCommand where
  email : Text
  displayName : Text
  password : Text
  organizationName : Text
  organizationSlug : Text
  auditContext : Option AuditRequestContext := none

structure BootstrapOwnerResult where
  userId : UUID
  organizationId : UUID
  membershipId : UUID
  deriving DecidableEq

/-- Refusing: the refusal is audited and committed. -/
def refuse (command : BootstrapOwnerCommand) (state : BootstrapState) (now : Timestamp)
    : App BootstrapOwnerResult := do
  let id ← newUuid
  auditRecord {
    id
    eventType := .bootstrapRefused
    outcome := .denied
    occurredAt := now
    requestContext := command.auditContext.getD {}
    metadata := [("users", .int state.users), ("organizations", .int state.organizations)]
  }
  commit
  throw (.bootstrapRefused "WorkflowForge identity is already initialized.")

/-- Creating the first owner. -/
def found (services : Services) (command : BootstrapOwnerCommand) (now : Timestamp)
    : App BootstrapOwnerResult := do
  let userId ← newUuid
  let organizationId ← newUuid
  let membershipId ← newUuid
  let email ← liftExcept (EmailAddress.parse services.unicode command.email)
  let user ← liftExcept (User.create services.unicode userId email command.displayName now)
  let slug ← liftExcept (OrganizationSlug.parse services.unicode command.organizationSlug)
  let organization ← liftExcept
    (Organization.create services.unicode organizationId command.organizationName slug now)
  let membership ← liftExcept (ofIdentity
    (Membership.activateDirectly membershipId userId organizationId .owner (.aware now)))
  let _ ← addUser services.unicode user
  let _ ← addOrganization services.unicode organization
  let _ ← addMembership membership
  let _ ← setUserPassword services userId command.password now
  let id ← newUuid
  auditRecord {
    id
    eventType := .bootstrapOwnerCreated
    outcome := .success
    occurredAt := now
    actorUserId := some userId
    organizationId := some organizationId
    requestContext := command.auditContext.getD {}
  }
  commit
  return { userId, organizationId, membershipId }

/-- `BootstrapOwner.__call__`. -/
def bootstrapOwner (services : Services) (command : BootstrapOwnerCommand)
    : App BootstrapOwnerResult :=
  tryCatch (do
    let now ← perform .now
    acquireBootstrapLock
    let state ← bootstrapState
    if state.initialized then refuse command state now
    else found services command now)
    (fun failure =>
      match failure with
      | .bootstrapRefused message => throw (.bootstrapRefused message)
      | other => do
          rollback
          throw other)

/-- One run: a session of its own, closed at the end. -/
def BootstrapOwnerCommand.run (services : Services) (command : BootstrapOwnerCommand)
    : App BootstrapOwnerResult :=
  closing (bootstrapOwner services command)

end WorkflowForge.Bootstrap
