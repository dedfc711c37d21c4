import WorkflowForge.Domain.Accounts
import WorkflowForge.Domain.Sessions
import WorkflowForge.Python.TextLaws

/-! The transitions of users, organizations and refresh tokens. -/

namespace WorkflowForge

open Python

/-- The common form of the `_mutation_timestamp` helpers; `subject` is the entity's name. -/
def mutationTimestamp (subject : String) (createdAt : Timestamp) (value : Datetime)
    : Except AccountExn Timestamp := do
  let timestamp ← ofIdentity (normalizeIdentityTimestamp value "now")
  if timestamp < createdAt then
    throw (.identity (.invalidTimestamp
      (subject ++ " mutation timestamp must not be earlier than creation timestamp.")))
  return timestamp

namespace User

variable (u : Unicode)

def disable (self : User) (now : Datetime) : Except AccountExn User :=
  if !self.isActive then .ok self
  else do
    let timestamp ← mutationTimestamp "User" self.createdAt now
    postInit u {
      self with
      isActive := false
      updatedAt := timestamp
      disabledAt := some timestamp
    }

def reactivate (self : User) (now : Datetime) : Except AccountExn User :=
  if self.isActive then .ok self
  else do
    let timestamp ← mutationTimestamp "User" self.createdAt now
    postInit u { self with isActive := true, updatedAt := timestamp, disabledAt := none }

def rename (self : User) (displayName : Text) (now : Datetime) : Except AccountExn User := do
  let normalizedDisplayName ← normalizeDisplayName u displayName
  if normalizedDisplayName = self.displayName then return self
  let timestamp ← mutationTimestamp "User" self.createdAt now
  postInit u { self with displayName := normalizedDisplayName, updatedAt := timestamp }

/-- Addresses are compared by their normalized forms. -/
def changeEmail (self : User) (email : EmailAddress) (now : Datetime)
    : Except AccountExn User :=
  if email.normalized = self.email.normalized then .ok self
  else do
    let timestamp ← mutationTimestamp "User" self.createdAt now
    postInit u { self with email, updatedAt := timestamp }

end User

namespace Organization

variable (u : Unicode)

def rename (self : Organization) (name : Text) (now : Datetime)
    : Except AccountExn Organization := do
  let normalizedName ← normalizeOrganizationName u name
  if normalizedName = self.name then return self
  let timestamp ← mutationTimestamp "Organization" self.createdAt now
  postInit u { self with name := normalizedName, updatedAt := timestamp }

def deactivate (self : Organization) (now : Datetime) : Except AccountExn Organization :=
  if !self.isActive then .ok self
  else do
    let timestamp ← mutationTimestamp "Organization" self.createdAt now
    postInit u {
      self with
      isActive := false
      updatedAt := timestamp
      deactivatedAt := some timestamp
    }

def reactivate (self : Organization) (now : Datetime) : Except AccountExn Organization :=
  if self.isActive then .ok self
  else do
    let timestamp ← mutationTimestamp "Organization" self.createdAt now
    postInit u { self with isActive := true, updatedAt := timestamp, deactivatedAt := none }

end Organization

namespace Identity.RefreshTokenRecord

/-- `is_current`. -/
def isCurrent (self : RefreshTokenRecord) (instant : Timestamp) : Bool :=
  self.usedAt.isNone && self.revokedAt.isNone && self.replacedByTokenId.isNone
  && !self.isExpired instant

def consume (self : RefreshTokenRecord) (replacementTokenId : UUID) (now : Timestamp)
    : Except Fault RefreshTokenRecord :=
  if !self.isCurrent now then
    .error (.invalidRefreshTokenState "Refresh token is not current and cannot be rotated.")
  else
    postInit { self with usedAt := some now, replacedByTokenId := some replacementTokenId }

def revoke (self : RefreshTokenRecord) (now : Timestamp) : Except Fault RefreshTokenRecord :=
  if self.revokedAt.isSome then .ok self
  else postInit { self with revokedAt := some now }

end Identity.RefreshTokenRecord

-----------------------------------------------------------------------------------------
-- What the constructors accept
-----------------------------------------------------------------------------------------

variable {u : Unicode}

/-- A normalized name is bounded, and normalizing it again changes nothing. -/
theorem normalizeName_normalized {raise : String → AccountExn} {subject : String}
    {maxLength : Nat} {value name : Text}
    (normalized : normalizeName u raise subject maxLength value = .ok name)
    : normalizeName u raise subject maxLength name = .ok name ∧ name.length ≤ maxLength := by
  unfold normalizeName at normalized
  simp only at normalized
  split at normalized
  · cases normalized
  · rename_i some
    split at normalized
    · cases normalized
    · rename_i short
      cases normalized
      refine ⟨?_, Nat.not_lt.mp short⟩
      simp only [normalizeName, Unicode.collapse_collapse, if_neg some, if_neg short]

/-- An accepted address shows the stripped text, and parsing what it shows gives it again. -/
theorem EmailAddress.parse_parsed {value : Text} {email : EmailAddress}
    (parsed : EmailAddress.parse u value = .ok email)
    : email = ⟨u.strip value, u.casefold (u.strip value)⟩
      ∧ EmailAddress.parse u email.display = .ok email
      ∧ email.normalized.length ≤ 254 := by
  have again : EmailAddress.parse u (u.strip value) = EmailAddress.parse u value := by
    unfold EmailAddress.parse
    rw [Unicode.strip_strip]
  have shown : email = ⟨u.strip value, u.casefold (u.strip value)⟩
      ∧ email.normalized.length ≤ 254 := by
    unfold EmailAddress.parse at parsed
    simp only [bind, Except.bind, pure, Except.pure, throw, throwThe, MonadExceptOf.throw]
      at parsed
    repeat' split at parsed
    all_goals cases parsed
    have short : ¬ 254 < (u.casefold (u.strip value)).length := ‹_›
    exact ⟨rfl, Nat.not_lt.mp short⟩
  obtain ⟨rfl, short⟩ := shown
  exact ⟨rfl, again.trans parsed, short⟩

theorem mem_organizationSlug {text : Text} (valid : isOrganizationSlug text = true) {c : Char}
    (member : c ∈ text)
    : isAsciiLower c = true ∨ isAsciiDigit c = true ∨ c = '-' := by
  have pieces : c = '-' ∨ ∃ segment ∈ Text.splitOn '-' text, c ∈ segment :=
    Text.mem_splitOn_segment member
  rcases pieces with rfl | ⟨segment, found, inSegment⟩
  · exact .inr (.inr rfl)
  · have part := List.all_eq_true.mp valid segment found
    simp only [Bool.and_eq_true, List.all_eq_true, Bool.or_eq_true] at part
    exact (part.2 c inSegment).imp_right .inl

/-- A text of small letters, digits and hyphens is neither stripped nor lower-cased. -/
theorem lower_strip_of_ascii {text : Text}
    (ascii : ∀ c ∈ text, isAsciiLower c = true ∨ isAsciiDigit c = true ∨ c = '-')
    : u.lower (u.strip text) = text := by
  have visible : ∀ c ∈ text, u.isSpace c = false := by
    intro c member
    refine u.ascii_space c ?_
    rcases ascii c member with lower | digit | rfl
    · exact .inl lower
    · exact .inr (.inl digit)
    · exact .inr (.inr (by decide))
  rw [Unicode.strip_of_visible visible]
  apply u.lower_ascii
  intro c member
  have a : 'a'.val.toNat = 97 := rfl
  have z : 'z'.val.toNat = 122 := rfl
  have zero : '0'.val.toNat = 48 := rfl
  have nine : '9'.val.toNat = 57 := rfl
  have upperA : 'A'.val.toNat = 65 := rfl
  have upperZ : 'Z'.val.toNat = 90 := rfl
  rcases ascii c member with lower | digit | rfl
  · simp only [isAsciiLower, isAsciiUpper, Bool.and_eq_true, Bool.and_eq_false_iff,
      decide_eq_true_eq, decide_eq_false_iff_not, Char.le_def, UInt32.le_iff_toNat_le,
      UInt32.lt_iff_toNat_lt] at lower ⊢
    have limit : (128 : UInt32).toNat = 128 := rfl
    omega
  · simp only [isAsciiDigit, isAsciiUpper, Bool.and_eq_true, Bool.and_eq_false_iff,
      decide_eq_true_eq, decide_eq_false_iff_not, Char.le_def, UInt32.le_iff_toNat_le,
      UInt32.lt_iff_toNat_lt] at digit ⊢
    have limit : (128 : UInt32).toNat = 128 := rfl
    omega
  · decide

/-- Parsing an accepted slug gives it again. -/
theorem OrganizationSlug.parse_parsed {value : Text} {slug : OrganizationSlug}
    (parsed : OrganizationSlug.parse u value = .ok slug)
    : OrganizationSlug.parse u slug.value = .ok slug ∧ slug.value.length ≤ 63 := by
  have bounds : ¬ slug.value.length < 3 ∧ ¬ 63 < slug.value.length := by
    unfold OrganizationSlug.parse at parsed
    simp only at parsed
    repeat' split at parsed
    all_goals cases parsed
    exact ⟨‹_›, ‹_›⟩
  refine ⟨?_, Nat.not_lt.mp bounds.2⟩
  have fixed := lower_strip_of_ascii (u := u) (fun c => mem_organizationSlug slug.valid)
  simp only [OrganizationSlug.parse, fixed, if_neg bounds.1, if_neg bounds.2, dif_pos slug.valid]

theorem ofIdentity_eq_ok {α : Type} {result : Except IdentityExn α} {value : α}
    : ofIdentity result = .ok value ↔ result = .ok value := by
  cases result <;> simp [ofIdentity]

theorem validateIdentityUuid_ne {value : UUID} {fieldName : String}
    (accepted : validateIdentityUuid value fieldName = .ok ())
    : value ≠ 0 := by
  rintro rfl
  cases accepted

/-- The two checks of an entity that is active or has a timestamp of its end. -/
theorem stamped_of_checks {isActive : Bool} {endedAt : Option Timestamp}
    (active : ¬ (isActive && endedAt.isSome) = true)
    (inactive : ¬ (!isActive && endedAt.isNone) = true)
    : isActive = endedAt.isNone := by
  cases isActive <;> cases endedAt <;> simp_all

theorem checks_of_stamped {isActive : Bool} {endedAt : Option Timestamp}
    (stamped : isActive = endedAt.isNone)
    : ¬ (isActive && endedAt.isSome) = true ∧ ¬ (!isActive && endedAt.isNone) = true := by
  cases endedAt <;> simp [stamped]

/-- What `User.__post_init__` ensures. -/
structure User.Valid (u : Unicode) (user : User) : Prop where
  id : user.id ≠ 0
  name : normalizeDisplayName u user.displayName = .ok user.displayName
  updated : user.createdAt ≤ user.updatedAt
  stamped : user.isActive = user.disabledAt.isNone

/-- The constructor normalizes the name and checks the rest. -/
theorem User.postInit_ok {draft user : User} (built : User.postInit u draft = .ok user)
    : ∃ displayName, user = { draft with displayName } ∧ user.Valid u := by
  unfold User.postInit at built
  simp only [bind, Except.bind, pure, Except.pure, throw, throwThe, MonadExceptOf.throw] at built
  repeat' split at built
  all_goals cases built
  rename_i nonNil _ displayName named ordered active inactive
  refine ⟨displayName, rfl, ?_⟩
  exact {
    id := validateIdentityUuid_ne (ofIdentity_eq_ok.mp nonNil)
    name := (normalizeName_normalized named).1
    updated := Int.not_lt.mp ordered
    stamped := stamped_of_checks active inactive
  }

theorem User.Valid.postInit {user : User} (valid : user.Valid u)
    : User.postInit u user = .ok user := by
  obtain ⟨active, inactive⟩ := checks_of_stamped valid.stamped
  simp only [User.postInit, ofIdentity, validateIdentityUuid, if_neg valid.id, valid.name, bind,
    Except.bind]
  rw [if_neg (Int.not_lt.mpr valid.updated), if_neg active, if_neg inactive]
  rfl

/-- What `Organization.__post_init__` ensures. -/
structure Organization.Valid (u : Unicode) (organization : Organization) : Prop where
  id : organization.id ≠ 0
  name : normalizeOrganizationName u organization.name = .ok organization.name
  updated : organization.createdAt ≤ organization.updatedAt
  stamped : organization.isActive = organization.deactivatedAt.isNone

/-- The constructor normalizes the name and checks the rest. -/
theorem Organization.postInit_ok {draft organization : Organization}
    (built : Organization.postInit u draft = .ok organization)
    : ∃ name, organization = { draft with name } ∧ organization.Valid u := by
  unfold Organization.postInit at built
  simp only [bind, Except.bind, pure, Except.pure, throw, throwThe, MonadExceptOf.throw] at built
  repeat' split at built
  all_goals cases built
  rename_i nonNil _ name named ordered active inactive
  refine ⟨name, rfl, ?_⟩
  exact {
    id := validateIdentityUuid_ne (ofIdentity_eq_ok.mp nonNil)
    name := (normalizeName_normalized named).1
    updated := Int.not_lt.mp ordered
    stamped := stamped_of_checks active inactive
  }

theorem Organization.Valid.postInit {organization : Organization} (valid : organization.Valid u)
    : Organization.postInit u organization = .ok organization := by
  obtain ⟨active, inactive⟩ := checks_of_stamped valid.stamped
  simp only [Organization.postInit, ofIdentity, validateIdentityUuid, if_neg valid.id, valid.name,
    bind, Except.bind]
  rw [if_neg (Int.not_lt.mpr valid.updated), if_neg active, if_neg inactive]
  rfl

end WorkflowForge
