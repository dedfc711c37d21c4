import WorkflowForge.Domain.Accounts
import WorkflowForge.Domain.Cases
import WorkflowForge.Domain.Sessions
import WorkflowForge.Infrastructure.Schema
import WorkflowForge.Python.Enums

/-! The table records of accounts, sessions, batches and cases: their columns, CHECK
constraints and widths, and the conversions from and to domain values. -/

namespace WorkflowForge.Records

open Python

/-- A timestamp with time zone: an instant, shown at an offset from UTC. -/
structure ZonedDatetime where
  instant : Timestamp
  offset : Int
  deriving DecidableEq, Repr

/-- A domain timestamp, which is in UTC. -/
def ZonedDatetime.utc (instant : Timestamp) : ZonedDatetime := ⟨instant, 0⟩

/-- `value.astimezone(UTC)`. -/
def ZonedDatetime.astimezoneUtc (value : ZonedDatetime) : Timestamp := value.instant

/-- The value that the database returns for a stored one; `zone` gives the offsets of the
time zone of its session. -/
def ZonedDatetime.returned (zone : Timestamp → Int) (value : ZonedDatetime) : ZonedDatetime :=
  ⟨value.instant, zone value.instant⟩

/-- What loading a record raises. -/
inductive RecordExn where
  | account (failure : AccountExn)
  | identity (failure : IdentityExn)
  | session (failure : Identity.Fault)
  | domain (failure : Exn)
  | valueError (message : String)
  deriving DecidableEq, Repr

/-- The exceptions of another module. -/
def raised {ε α : Type} (failure : ε → RecordExn) : Except ε α → Except RecordExn α
  | .ok value => .ok value
  | .error raised => .error (failure raised)

-----------------------------------------------------------------------------------------
-- Users and organizations
-----------------------------------------------------------------------------------------

structure UserRecord where
  id : UUID
  email : Text
  normalizedEmail : Text
  displayName : Text
  isActive : Bool
  createdAt : ZonedDatetime
  updatedAt : ZonedDatetime
  disabledAt : Option ZonedDatetime
  deriving DecidableEq

/-- `_record_from_user`. -/
def recordFromUser (user : User) : UserRecord where
  id := user.id
  email := user.email.display
  normalizedEmail := user.email.normalized
  displayName := user.displayName
  isActive := user.isActive
  createdAt := .utc user.createdAt
  updatedAt := .utc user.updatedAt
  disabledAt := user.disabledAt.map .utc

/-- `_user_from_record`. -/
def userFromRecord (u : Unicode) (record : UserRecord) : Except RecordExn User := do
  let email ← raised .account (EmailAddress.parse u record.email)
  raised .account (User.postInit u {
    id := record.id
    email
    displayName := record.displayName
    isActive := record.isActive
    createdAt := record.createdAt.astimezoneUtc
    updatedAt := record.updatedAt.astimezoneUtc
    disabledAt := record.disabledAt.map ZonedDatetime.astimezoneUtc
  })

def UserRecord.returned (zone : Timestamp → Int) (record : UserRecord) : UserRecord :=
  { record with
    createdAt := record.createdAt.returned zone
    updatedAt := record.updatedAt.returned zone
    disabledAt := record.disabledAt.map (ZonedDatetime.returned zone) }

/-- `active_disabled_timestamp_consistent`, and the widths of the columns. -/
def UserRecord.accepted (record : UserRecord) : Bool :=
  ((record.isActive && record.disabledAt.isNone) || (!record.isActive && record.disabledAt.isSome))
  && within record.email 254 && within record.normalizedEmail 254
  && within record.displayName 120

structure OrganizationRecord where
  id : UUID
  name : Text
  slug : Text
  isActive : Bool
  createdAt : ZonedDatetime
  updatedAt : ZonedDatetime
  deactivatedAt : Option ZonedDatetime
  deriving DecidableEq

/-- `_record_from_organization`. -/
def recordFromOrganization (organization : Organization) : OrganizationRecord where
  id := organization.id
  name := organization.name
  slug := organization.slug.value
  isActive := organization.isActive
  createdAt := .utc organization.createdAt
  updatedAt := .utc organization.updatedAt
  deactivatedAt := organization.deactivatedAt.map .utc

/-- `_organization_from_record`. -/
def organizationFromRecord (u : Unicode) (record : OrganizationRecord)
    : Except RecordExn Organization := do
  let slug ← raised .account (OrganizationSlug.parse u record.slug)
  raised .account (Organization.postInit u {
    id := record.id
    name := record.name
    slug
    isActive := record.isActive
    createdAt := record.createdAt.astimezoneUtc
    updatedAt := record.updatedAt.astimezoneUtc
    deactivatedAt := record.deactivatedAt.map ZonedDatetime.astimezoneUtc
  })

def OrganizationRecord.returned (zone : Timestamp → Int) (record : OrganizationRecord)
    : OrganizationRecord :=
  { record with
    createdAt := record.createdAt.returned zone
    updatedAt := record.updatedAt.returned zone
    deactivatedAt := record.deactivatedAt.map (ZonedDatetime.returned zone) }

/-- `active_deactivated_timestamp_consistent`, and the widths of the columns. -/
def OrganizationRecord.accepted (record : OrganizationRecord) : Bool :=
  ((record.isActive && record.deactivatedAt.isNone)
    || (!record.isActive && record.deactivatedAt.isSome))
  && within record.name 160 && within record.slug 63

-----------------------------------------------------------------------------------------
-- Memberships
-----------------------------------------------------------------------------------------

structure MembershipRecord where
  id : UUID
  userId : UUID
  organizationId : UUID
  role : String
  status : String
  invitedAt : Option ZonedDatetime
  joinedAt : Option ZonedDatetime
  suspendedAt : Option ZonedDatetime
  removedAt : Option ZonedDatetime
  createdAt : ZonedDatetime
  updatedAt : ZonedDatetime
  deriving DecidableEq

def roleValue : Role → String
  | .owner => "owner"
  | .admin => "admin"
  | .operator => "operator"
  | .reviewer => "reviewer"
  | .auditor => "auditor"

/-- `Role(text)`. -/
def parseRole : String → Except RecordExn Role :=
  parseEnum .valueError "Role" roleValue [.owner, .admin, .operator, .reviewer, .auditor]

/-- `MembershipStatus(text)`. -/
def parseMembershipStatus : String → Except RecordExn MembershipStatus :=
  parseEnum .valueError "MembershipStatus" MembershipStatus.value
    [.invited, .active, .suspended, .removed]

/-- `_record_from_membership`. -/
def recordFromMembership (membership : Membership) : MembershipRecord where
  id := membership.id
  userId := membership.userId
  organizationId := membership.organizationId
  role := roleValue membership.role
  status := membership.status.value
  invitedAt := membership.invitedAt.map .utc
  joinedAt := membership.joinedAt.map .utc
  suspendedAt := membership.suspendedAt.map .utc
  removedAt := membership.removedAt.map .utc
  createdAt := .utc membership.createdAt
  updatedAt := .utc membership.updatedAt

/-- `_membership_from_record`. -/
def membershipFromRecord (record : MembershipRecord) : Except RecordExn Membership := do
  let role ← parseRole record.role
  let status ← parseMembershipStatus record.status
  raised .identity (Membership.postInit {
    id := record.id
    userId := record.userId
    organizationId := record.organizationId
    role, status
    invitedAt := record.invitedAt.map ZonedDatetime.astimezoneUtc
    joinedAt := record.joinedAt.map ZonedDatetime.astimezoneUtc
    suspendedAt := record.suspendedAt.map ZonedDatetime.astimezoneUtc
    removedAt := record.removedAt.map ZonedDatetime.astimezoneUtc
    createdAt := record.createdAt.astimezoneUtc
    updatedAt := record.updatedAt.astimezoneUtc
  })

def MembershipRecord.returned (zone : Timestamp → Int) (record : MembershipRecord)
    : MembershipRecord :=
  { record with
    invitedAt := record.invitedAt.map (ZonedDatetime.returned zone)
    joinedAt := record.joinedAt.map (ZonedDatetime.returned zone)
    suspendedAt := record.suspendedAt.map (ZonedDatetime.returned zone)
    removedAt := record.removedAt.map (ZonedDatetime.returned zone)
    createdAt := record.createdAt.returned zone
    updatedAt := record.updatedAt.returned zone }

/-- `lifecycle_timestamps_consistent`. -/
def MembershipRecord.lifecycleTimestampsConsistent (record : MembershipRecord) : Bool :=
  (record.status == "invited" && record.invitedAt.isSome && record.joinedAt.isNone
    && record.suspendedAt.isNone && record.removedAt.isNone)
  || (record.status == "active" && record.joinedAt.isSome && record.suspendedAt.isNone
    && record.removedAt.isNone)
  || (record.status == "suspended" && record.joinedAt.isSome && record.suspendedAt.isSome
    && record.removedAt.isNone)
  || (record.status == "removed" && record.removedAt.isSome)

/-- `role_valid`, `status_valid`, `lifecycle_timestamps_consistent` and the widths. -/
def MembershipRecord.accepted (record : MembershipRecord) : Bool :=
  ["owner", "admin", "operator", "reviewer", "auditor"].contains record.role
  && ["invited", "active", "suspended", "removed"].contains record.status
  && record.lifecycleTimestampsConsistent
  && within record.role.toList 32 && within record.status.toList 32

-----------------------------------------------------------------------------------------
-- Sessions and refresh tokens
-----------------------------------------------------------------------------------------

structure AuthSessionRecord where
  id : UUID
  userId : UUID
  createdAt : ZonedDatetime
  updatedAt : ZonedDatetime
  expiresAt : ZonedDatetime
  revokedAt : Option ZonedDatetime
  deriving DecidableEq

/-- `_record_from_auth_session`. -/
def recordFromAuthSession (session : Identity.AuthSession) : AuthSessionRecord where
  id := session.id
  userId := session.userId
  createdAt := .utc session.createdAt
  updatedAt := .utc session.updatedAt
  expiresAt := .utc session.expiresAt
  revokedAt := session.revokedAt.map .utc

/-- `_auth_session_from_record`. -/
def authSessionFromRecord (record : AuthSessionRecord)
    : Except RecordExn Identity.AuthSession :=
  raised .session (Identity.AuthSession.postInit {
    id := record.id
    userId := record.userId
    createdAt := record.createdAt.astimezoneUtc
    updatedAt := record.updatedAt.astimezoneUtc
    expiresAt := record.expiresAt.astimezoneUtc
    revokedAt := record.revokedAt.map ZonedDatetime.astimezoneUtc
  })

def AuthSessionRecord.returned (zone : Timestamp → Int) (record : AuthSessionRecord)
    : AuthSessionRecord :=
  { record with
    createdAt := record.createdAt.returned zone
    updatedAt := record.updatedAt.returned zone
    expiresAt := record.expiresAt.returned zone
    revokedAt := record.revokedAt.map (ZonedDatetime.returned zone) }

/-- `expires_after_created`, `updated_after_created` and `revoked_after_created`. -/
def AuthSessionRecord.accepted (record : AuthSessionRecord) : Bool :=
  decide (record.createdAt.instant < record.expiresAt.instant)
  && decide (record.createdAt.instant ≤ record.updatedAt.instant)
  && record.revokedAt.all (fun revokedAt => decide (record.createdAt.instant ≤ revokedAt.instant))

structure RefreshTokenRecordModel where
  id : UUID
  sessionId : UUID
  tokenFamilyId : UUID
  tokenHash : Text
  generation : Int
  issuedAt : ZonedDatetime
  expiresAt : ZonedDatetime
  usedAt : Option ZonedDatetime
  revokedAt : Option ZonedDatetime
  replacedByTokenId : Option UUID
  deriving DecidableEq

/-- `_record_from_refresh_token`. -/
def recordFromRefreshToken (token : Identity.RefreshTokenRecord) : RefreshTokenRecordModel where
  id := token.id
  sessionId := token.sessionId
  tokenFamilyId := token.tokenFamilyId
  tokenHash := token.tokenDigest.value
  generation := token.generation
  issuedAt := .utc token.issuedAt
  expiresAt := .utc token.expiresAt
  usedAt := token.usedAt.map .utc
  revokedAt := token.revokedAt.map .utc
  replacedByTokenId := token.replacedByTokenId

/-- `RefreshTokenDigest(value)`. -/
def parseRefreshTokenDigest (u : Unicode) (value : Text)
    : Except Identity.Fault Identity.RefreshTokenDigest :=
  let normalized := u.lower (u.strip value)
  if valid : isSha256Hex normalized = true then .ok ⟨normalized, valid⟩
  else
    .error (.invalidIdentifier
      "Refresh token digest must be a 64-character SHA-256 hex digest.")

/-- `_refresh_token_from_record`. -/
def refreshTokenFromRecord (u : Unicode) (record : RefreshTokenRecordModel)
    : Except RecordExn Identity.RefreshTokenRecord := do
  raised .session (Identity.validateUuid record.id "Refresh token identifier")
  raised .session (Identity.validateUuid record.sessionId "Session identifier")
  raised .session (Identity.validateUuid record.tokenFamilyId "Refresh token family identifier")
  let tokenDigest ← raised .session (parseRefreshTokenDigest u record.tokenHash)
  raised .session (record.replacedByTokenId.forM
    (Identity.validateUuid · "Refresh token identifier"))
  if record.generation < 0 then
    throw (.session (.invalidRefreshTokenState
      "Refresh token generation must be a non-negative integer."))
  raised .session (Identity.RefreshTokenRecord.postInit {
    id := record.id
    sessionId := record.sessionId
    tokenFamilyId := record.tokenFamilyId
    tokenDigest
    generation := record.generation.toNat
    issuedAt := record.issuedAt.astimezoneUtc
    expiresAt := record.expiresAt.astimezoneUtc
    usedAt := record.usedAt.map ZonedDatetime.astimezoneUtc
    revokedAt := record.revokedAt.map ZonedDatetime.astimezoneUtc
    replacedByTokenId := record.replacedByTokenId
  })

def RefreshTokenRecordModel.returned (zone : Timestamp → Int)
    (record : RefreshTokenRecordModel)
    : RefreshTokenRecordModel :=
  { record with
    issuedAt := record.issuedAt.returned zone
    expiresAt := record.expiresAt.returned zone
    usedAt := record.usedAt.map (ZonedDatetime.returned zone)
    revokedAt := record.revokedAt.map (ZonedDatetime.returned zone) }

/-- `generation_non_negative`, `expires_after_issued`, `used_after_issued` and
`revoked_after_issued`, and the width of the digest. -/
def RefreshTokenRecordModel.accepted (record : RefreshTokenRecordModel) : Bool :=
  decide (0 ≤ record.generation)
  && decide (record.issuedAt.instant < record.expiresAt.instant)
  && record.usedAt.all (fun usedAt => decide (record.issuedAt.instant ≤ usedAt.instant))
  && record.revokedAt.all (fun revokedAt => decide (record.issuedAt.instant ≤ revokedAt.instant))
  && within record.tokenHash 64

end WorkflowForge.Records
