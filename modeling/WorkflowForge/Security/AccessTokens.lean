import WorkflowForge.Domain.Sessions
import WorkflowForge.Domain.StorageKeys

/-! Access tokens: the JWT codec, with the signing library as a parameter. -/

namespace WorkflowForge.Identity

open Python

/-- A JSON value of a claim, as far as the codec tells them apart. -/
inductive ClaimValue where
  | string (value : Text)
  | number (value : Int)
  | other
  deriving DecidableEq, Repr

/-- A decoded payload: the claims by name. -/
abbrev Payload := List (String × ClaimValue)

/-- A claim as it is given to the encoder. -/
inductive RawClaim where
  | string (value : Text)
  | datetime (value : Timestamp)
  deriving DecidableEq, Repr

/-- The settings that the codec reads. -/
structure AuthSettings where
  jwtAlgorithm : Text
  jwtIssuer : Text
  jwtAudience : Text
  jwtSigningSecret : Text

/-- The signing half of the JWT library. `sign` raises with `none`; `unsign` returns the
payload of a token with a valid signature by one of the algorithms. -/
structure Signer (Token : Type) where
  sign : Payload → Text → Text → Option Token
  unsign : Token → Text → List Text → Option Payload

inductive JwtError where
  | invalidToken
  | expiredSignature
  deriving DecidableEq, Repr

-----------------------------------------------------------------------------------------
-- The claims half of the library
-----------------------------------------------------------------------------------------

/-- Microseconds in a second. -/
def second : Int := 1000000

/-- Datetimes are encoded as whole seconds since the epoch, rounded down. -/
def encodeClaim : RawClaim → ClaimValue
  | .string value => .string value
  | .datetime value => .number (value / second)

variable {Token : Type} (signer : Signer Token)

/-- `jwt.encode`. -/
def jwtEncode (payload : List (String × RawClaim)) (secret algorithm : Text) : Option Token :=
  signer.sign (payload.map (fun claim => (claim.1, encodeClaim claim.2))) secret algorithm

def requireClaims (payload : Payload) (required : List String) : Except JwtError Unit :=
  if required.all (fun name => (payload.lookup name).isSome) then .ok ()
  else .error .invalidToken

/-- A token is not yet valid before its issue time. -/
def validateIat (payload : Payload) (now : Timestamp) : Except JwtError Unit :=
  match payload.lookup "iat" with
  | none => .ok ()
  | some (.number iat) => if now < iat * second then .error .invalidToken else .ok ()
  | some _ => .error .invalidToken

def validateExp (payload : Payload) (now : Timestamp) : Except JwtError Unit :=
  match payload.lookup "exp" with
  | none => .ok ()
  | some (.number exp) => if exp * second ≤ now then .error .expiredSignature else .ok ()
  | some _ => .error .invalidToken

/-- The issuer and the audience are compared as texts. -/
def validateText (payload : Payload) (name : String) (expected : Text)
    : Except JwtError Unit :=
  if payload.lookup name = some (.string expected) then .ok () else .error .invalidToken

/-- `jwt.decode` at an instant. -/
def jwtDecode (token : Token) (secret : Text) (algorithms : List Text) (issuer audience : Text)
    (required : List String) (now : Timestamp)
    : Except JwtError Payload :=
  match signer.unsign token secret algorithms with
  | none => .error .invalidToken
  | some payload => do
      requireClaims payload required
      validateIat payload now
      validateExp payload now
      validateText payload "iss" issuer
      validateText payload "aud" audience
      return payload

-----------------------------------------------------------------------------------------
-- The codec
-----------------------------------------------------------------------------------------

/-- `text.replace(part, "")`. -/
def removeAll (part : Text) : Text → Text
  | [] => []
  | c :: rest =>
      if part ≠ [] ∧ part.isPrefixOf (c :: rest) then
        removeAll part (rest.drop (part.length - 1))
      else c :: removeAll part rest
  termination_by text => text.length
  decreasing_by
    all_goals simp only [List.length_drop, List.length_cons]
    all_goals omega

/-- `text.strip(characters)`, for the characters that satisfy `drops`. -/
def stripWhere (drops : Char → Bool) (text : Text) : Text :=
  ((text.dropWhile drops).reverse.dropWhile drops).reverse

def isBlank (c : Char) : Bool := c == ' ' || (9 ≤ c.toNat && c.toNat ≤ 13)

/-- A hexadecimal digit in either case. -/
def isHexDigit (c : Char) : Bool := isLowerHex c.toLower

def dropSign : Text → Text
  | '+' :: rest => rest
  | text => text

/-- The base prefix, which one underscore may follow. -/
def dropBase : Text → Text
  | '0' :: 'x' :: '_' :: rest => rest
  | '0' :: 'X' :: '_' :: rest => rest
  | '0' :: 'x' :: rest => rest
  | '0' :: 'X' :: rest => rest
  | text => text

/-- `int(text, 16)` of an ASCII text without a minus: blanks around the number, a sign, `0x` and
single underscores between digits are allowed. -/
def intHex (text : Text) : Option Nat :=
  let groups := (dropBase (dropSign (stripWhere isBlank text))).splitOn '_'
  if groups.all (fun group => !group.isEmpty && group.all isHexDigit) then
    some (hexValue (groups.flatten.map Char.toLower))
  else none

/-- `UUID(text)`: URN prefixes, braces and dashes are dropped, and 32 characters have to be
left. -/
def parseUuid (text : Text) : Option UUID :=
  let bare := removeAll "uuid:".toList (removeAll "urn:".toList text)
  let stripped := stripWhere (fun c => c == '{' || c == '}') bare
  let digits := stripped.filter (fun c => c != '-')
  if digits.length = 32 then intHex digits else none

/-- What reading the claims of a payload raises. -/
inductive ClaimError where
  | valueError
  | keyError
  | domain (failure : Fault)
  deriving DecidableEq, Repr

/-- `_require_string`. -/
def requireString (payload : Payload) (claim : String) : Except ClaimError Text :=
  match payload.lookup claim with
  | some (.string value) => .ok value
  | some _ => .error .valueError
  | none => .error .keyError

def requireUuid (payload : Payload) (claim : String) : Except ClaimError UUID := do
  match parseUuid (← requireString payload claim) with
  | some value => return value
  | none => throw .valueError

/-- `_timestamp_from_claim`. -/
def timestampFromClaim (payload : Payload) (claim : String) : Except ClaimError Timestamp :=
  match payload.lookup claim with
  | some (.number value) => .ok (value * second)
  | some _ => .error .valueError
  | none => .error .keyError

def domainError {α : Type} : Except Fault α → Except ClaimError α
  | .ok value => .ok value
  | .error failure => .error (.domain failure)

/-- The claims of a payload. -/
def claimsFromPayload (payload : Payload) : Except ClaimError AccessTokenClaims := do
  let userId ← requireUuid payload "sub"
  let sessionId ← requireUuid payload "sid"
  domainError (validateUuid sessionId "Session identifier")
  let tokenId ← requireUuid payload "jti"
  let issuedAt ← timestampFromClaim payload "iat"
  let expiresAt ← timestampFromClaim payload "exp"
  domainError (AccessTokenClaims.postInit { userId, sessionId, tokenId, issuedAt, expiresAt })

/-- `JwtAccessTokenCodec.issue_token`. -/
def issueToken (settings : AuthSettings) (claims : AccessTokenClaims) : Except Fault Token :=
  let payload := [
    ("sub", .string (uuidText claims.userId)),
    ("sid", .string (uuidText claims.sessionId)),
    ("jti", .string (uuidText claims.tokenId)),
    ("iat", .datetime claims.issuedAt),
    ("exp", .datetime claims.expiresAt),
    ("iss", .string settings.jwtIssuer),
    ("aud", .string settings.jwtAudience)
  ]
  match jwtEncode signer payload settings.jwtSigningSecret settings.jwtAlgorithm with
  | some token => .ok token
  | none => .error (.tokenIssuance "Access token could not be issued.")

/-- `JwtAccessTokenCodec.verify_token`. Domain errors pass the handlers. -/
def verifyToken (settings : AuthSettings) (token : Token) (now : Timestamp)
    : Except Fault AccessTokenClaims :=
  let decoded :=
    jwtDecode signer token settings.jwtSigningSecret [settings.jwtAlgorithm] settings.jwtIssuer
      settings.jwtAudience ["sub", "sid", "jti", "iat", "exp", "iss", "aud"] now
  match decoded with
  | .error .expiredSignature => .error (.expiredAccessToken "Access token has expired.")
  | .error .invalidToken => .error (.invalidAccessToken "Access token is invalid.")
  | .ok payload =>
      match claimsFromPayload payload with
      | .ok claims => .ok claims
      | .error (.domain failure) => .error failure
      | .error _ => .error (.invalidAccessToken "Access token is invalid.")

-----------------------------------------------------------------------------------------
-- Reading back what was issued
-----------------------------------------------------------------------------------------

/-- Signing succeeds, and a signed payload is returned under the secret and the algorithm it
was signed with. -/
def Signer.Signs (settings : AuthSettings) : Prop :=
  ∀ payload, ∃ token,
    signer.sign payload settings.jwtSigningSecret settings.jwtAlgorithm = some token
    ∧ signer.unsign token settings.jwtSigningSecret [settings.jwtAlgorithm] = some payload

/-- A part whose first character does not occur has nothing to remove. -/
theorem removeAll_of_notMem {c : Char} {part text : Text} (absent : c ∉ text)
    : removeAll (c :: part) text = text := by
  induction text with
  | nil => simp [removeAll]
  | cons d rest ih =>
      simp only [List.mem_cons, not_or] at absent
      rw [removeAll, if_neg, ih absent.2]
      simp [absent.1]

theorem mem_uuidText_cases {value : UUID} {c : Char} (member : c ∈ uuidText value)
    : isLowerHex c = true ∨ c = '-' := by
  rcases mem_uuidText member with digit | dash
  · exact .inl (uuidDigits_hex value digit)
  · exact .inr dash

theorem stripWhere_of_none {drops : Char → Bool} {text : Text}
    (none : ∀ c ∈ text, drops c = false)
    : stripWhere drops text = text := by
  have whole : ∀ part : Text, (∀ c ∈ part, drops c = false) → part.dropWhile drops = part := by
    intro part kept
    cases part with
    | nil => rfl
    | cons c rest => simp [kept c (by simp)]
  unfold stripWhere
  rw [whole text none, whole _ (fun c member => none c (List.mem_reverse.mp member)),
    List.reverse_reverse]

/-- Lower-case digits are their own lower case, and no part of a number's decoration. -/
theorem lowerHex_plain {c : Char} (hex : isLowerHex c = true)
    : c.toLower = c ∧ isBlank c = false ∧ c ≠ '+' ∧ c ≠ 'x' ∧ c ≠ 'X' := by
  have known
      : ∀ n : Fin 128,
          isLowerHex (Char.ofNat n) = true
          → (Char.ofNat n).toLower = Char.ofNat n ∧ isBlank (Char.ofNat n) = false
            ∧ Char.ofNat n ≠ '+' ∧ Char.ofNat n ≠ 'x' ∧ Char.ofNat n ≠ 'X' := by
    decide
  have small : c.toNat < 128 := by
    rcases isLowerHex_cases hex with digit | lower
    · exact UInt32.lt_iff_toNat_lt.mp (ascii_of_digit digit).1
    · exact UInt32.lt_iff_toNat_lt.mp (ascii_of_lower lower).1
  have facts := known ⟨c.toNat, small⟩
  simp only [Char.ofNat_toNat] at facts
  exact facts hex

theorem dropSign_of_digits {digits : Text} (hex : ∀ c ∈ digits, isLowerHex c = true)
    : dropSign digits = digits := by
  unfold dropSign
  split
  · exact absurd rfl (lowerHex_plain (hex '+' (by simp))).2.2.1
  · rfl

theorem dropBase_of_digits {digits : Text} (hex : ∀ c ∈ digits, isLowerHex c = true)
    : dropBase digits = digits := by
  have noBase : 'x' ∉ digits ∧ 'X' ∉ digits :=
    ⟨fun member => (lowerHex_plain (hex _ member)).2.2.2.1 rfl,
      fun member => (lowerHex_plain (hex _ member)).2.2.2.2 rfl⟩
  unfold dropBase
  split
  all_goals simp at noBase ⊢

/-- Lower-case digits alone denote what `hexValue` says. -/
theorem intHex_of_digits {digits : Text} (some : digits ≠ [])
    (hex : ∀ c ∈ digits, isLowerHex c = true)
    : intHex digits = .some (hexValue digits) := by
  have bare : stripWhere isBlank digits = digits :=
    stripWhere_of_none (fun c member => (lowerHex_plain (hex c member)).2.1)
  have lower : digits.map Char.toLower = digits := by
    conv_rhs => rw [← List.map_id digits]
    exact List.map_congr_left (fun c member => (lowerHex_plain (hex c member)).1)
  have one : digits.splitOn '_' = [digits] := by
    apply Text.splitOn_of_notMem
    intro member
    exact absurd (hex _ member) (by decide)
  have all : digits.all isHexDigit = true := by
    refine List.all_eq_true.mpr (fun c member => ?_)
    rw [isHexDigit, (lowerHex_plain (hex c member)).1, hex c member]
  have plain : dropBase (dropSign digits) = digits := by
    rw [dropSign_of_digits hex, dropBase_of_digits hex]
  unfold intHex
  rw [bare, plain, one]
  simp [some, all, lower]

theorem parseUuid_uuidText {value : UUID} (small : value < 2 ^ 128)
    : parseUuid (uuidText value) = some value := by
  have absent : ∀ c, isLowerHex c = false → c ≠ '-' → c ∉ uuidText value := by
    intro c other dash member
    rcases mem_uuidText_cases member with digit | same
    · rw [other] at digit
      contradiction
    · exact dash same
  have noBrace : ∀ c ∈ uuidText value, (c == '{' || c == '}') = false := by
    intro c member
    simp only [Bool.or_eq_false_iff, beq_eq_false_iff_ne]
    constructor
    all_goals
      rintro rfl
      exact absent _ (by decide) (by decide) member
  have urn : removeAll "urn:".toList (uuidText value) = uuidText value :=
    removeAll_of_notMem (absent 'u' (by decide) (by decide))
  have uuid : removeAll "uuid:".toList (uuidText value) = uuidText value :=
    removeAll_of_notMem (absent 'u' (by decide) (by decide))
  have long := uuidDigits_length_eq small
  have some : uuidDigits value ≠ [] := List.ne_nil_of_length_pos (by omega)
  unfold parseUuid
  rw [urn, uuid]
  simp only [stripWhere_of_none noBrace]
  rw [filter_uuidText, if_pos long, intHex_of_digits some (fun _ => uuidDigits_hex value),
    hexValue_uuidDigits]

/-- The claims with both timestamps cut to whole seconds. -/
def AccessTokenClaims.floored (claims : AccessTokenClaims) : AccessTokenClaims :=
  { claims with
    issuedAt := claims.issuedAt / second * second
    expiresAt := claims.expiresAt / second * second }

theorem floored_le (instant : Int) : instant / second * second ≤ instant :=
  Int.ediv_mul_le instant (by decide)

/-- With a lifetime of a second the expiry stays later than the issue after cutting both. -/
theorem floored_lt {issuedAt expiresAt : Int} (lifetime : issuedAt + second ≤ expiresAt)
    : issuedAt / second * second < expiresAt / second * second := by
  unfold second at *
  omega

/-- The payload of an issued token. -/
def issuedPayload (settings : AuthSettings) (claims : AccessTokenClaims) : Payload := [
  ("sub", .string (uuidText claims.userId)),
  ("sid", .string (uuidText claims.sessionId)),
  ("jti", .string (uuidText claims.tokenId)),
  ("iat", .number (claims.issuedAt / second)),
  ("exp", .number (claims.expiresAt / second)),
  ("iss", .string settings.jwtIssuer),
  ("aud", .string settings.jwtAudience)
]

/-- The claims half of the library accepts an issued payload in its time. -/
theorem jwtDecode_issued {settings : AuthSettings} {claims : AccessTokenClaims}
    {token : Token} {now : Timestamp}
    (unsigned
      : signer.unsign token settings.jwtSigningSecret [settings.jwtAlgorithm]
        = some (issuedPayload settings claims))
    (issued : claims.issuedAt ≤ now) (unexpired : now < claims.expiresAt / second * second)
    : jwtDecode signer token settings.jwtSigningSecret [settings.jwtAlgorithm]
        settings.jwtIssuer settings.jwtAudience
        ["sub", "sid", "jti", "iat", "exp", "iss", "aud"] now
      = .ok (issuedPayload settings claims) := by
  have required
      : requireClaims (issuedPayload settings claims)
          ["sub", "sid", "jti", "iat", "exp", "iss", "aud"] = .ok () :=
    rfl
  have iat : validateIat (issuedPayload settings claims) now = .ok () := by
    have started : ¬ now < claims.issuedAt / second * second :=
      Int.not_lt.mpr (Int.le_trans (floored_le claims.issuedAt) issued)
    calc
      validateIat (issuedPayload settings claims) now
          = if now < claims.issuedAt / second * second then .error .invalidToken
            else .ok () := rfl
      _ = .ok () := if_neg started
  have exp : validateExp (issuedPayload settings claims) now = .ok () := by
    calc
      validateExp (issuedPayload settings claims) now
          = if claims.expiresAt / second * second ≤ now then .error .expiredSignature
            else .ok () := rfl
      _ = .ok () := if_neg (Int.not_le.mpr unexpired)
  have issuer : validateText (issuedPayload settings claims) "iss" settings.jwtIssuer = .ok () :=
    if_pos rfl
  have audience
      : validateText (issuedPayload settings claims) "aud" settings.jwtAudience = .ok () :=
    if_pos rfl
  simp only [jwtDecode, unsigned, required, iat, exp, issuer, audience, bind, Except.bind]
  rfl

/-- The claims of an issued payload are those that were issued, cut to whole seconds. -/
theorem claimsFromPayload_issued (settings : AuthSettings) {claims : AccessTokenClaims}
    (valid : claims.postInit = .ok claims) (session : claims.sessionId ≠ 0)
    (ids
      : claims.userId < 2 ^ 128 ∧ claims.sessionId < 2 ^ 128 ∧ claims.tokenId < 2 ^ 128)
    (lifetime : claims.issuedAt + second ≤ claims.expiresAt)
    : claimsFromPayload (issuedPayload settings claims) = .ok claims.floored := by
  obtain ⟨⟨user, id, -⟩, -⟩ := AccessTokenClaims.postInit_eq_ok.mp valid
  obtain ⟨userBound, sessionBound, tokenBound⟩ := ids
  have read : ∀ claim value, value < 2 ^ 128
      → (issuedPayload settings claims).lookup claim = some (.string (uuidText value))
      → requireUuid (issuedPayload settings claims) claim = .ok value := by
    intro claim value small found
    simp only [requireUuid, requireString, found, bind, Except.bind, parseUuid_uuidText small]
    rfl
  have known : validateUuid claims.sessionId "Session identifier" = .ok () := by
    simp [validateUuid, raiseIf, session]
  have rebuilt : claims.floored.postInit = .ok claims.floored :=
    AccessTokenClaims.postInit_eq_ok.mpr ⟨⟨user, id, floored_lt lifetime⟩, rfl⟩
  have issuedAt
      : timestampFromClaim (issuedPayload settings claims) "iat"
        = .ok (claims.issuedAt / second * second) :=
    rfl
  have expiresAt
      : timestampFromClaim (issuedPayload settings claims) "exp"
        = .ok (claims.expiresAt / second * second) :=
    rfl
  simp only [claimsFromPayload, read "sub" _ userBound rfl, read "sid" _ sessionBound rfl,
    read "jti" _ tokenBound rfl, issuedAt, expiresAt, known, domainError, bind, Except.bind]
  exact congrArg domainError rebuilt

/-- An issued token is verified from its issue until the whole second of its expiry, and gives
its claims back with the timestamps cut to whole seconds. -/
theorem verifyToken_issueToken (settings : AuthSettings) (signs : signer.Signs settings)
    {claims : AccessTokenClaims} (valid : claims.postInit = .ok claims)
    (session : claims.sessionId ≠ 0)
    (ids
      : claims.userId < 2 ^ 128 ∧ claims.sessionId < 2 ^ 128 ∧ claims.tokenId < 2 ^ 128)
    (lifetime : claims.issuedAt + second ≤ claims.expiresAt) {now : Timestamp}
    (issued : claims.issuedAt ≤ now) (unexpired : now < claims.expiresAt / second * second)
    : ∃ token, issueToken signer settings claims = .ok token
        ∧ verifyToken signer settings token now = .ok claims.floored := by
  obtain ⟨token, signed, unsigned⟩ := signs (issuedPayload settings claims)
  refine ⟨token, ?_, ?_⟩
  · unfold issuedPayload at signed
    simp only [issueToken, jwtEncode, List.map_cons, List.map_nil, encodeClaim, signed]
  · simp only [verifyToken, jwtDecode_issued signer unsigned issued unexpired,
      claimsFromPayload_issued settings valid session ids lifetime]

/-- A signer whose tokens carry what they were signed with. -/
def openSigner : Signer (Payload × Text × Text) where
  sign payload secret algorithm := some (payload, secret, algorithm)
  unsign token secret algorithms :=
    if token.2.1 = secret ∧ token.2.2 ∈ algorithms then some token.1 else none

def authSample : AuthSettings where
  jwtAlgorithm := "HS256".toList
  jwtIssuer := "workflowforge".toList
  jwtAudience := "workflowforge-api".toList
  jwtSigningSecret := "secret".toList

def claimsSample : AccessTokenClaims where
  userId := 7
  sessionId := 8
  tokenId := 9
  issuedAt := 1500000
  expiresAt := 2500000

theorem verifyToken_issueToken_sample
    : ∃ token, issueToken openSigner authSample claimsSample = .ok token
        ∧ verifyToken openSigner authSample token 1999999 = .ok claimsSample.floored :=
  verifyToken_issueToken openSigner authSample
    (fun payload => ⟨(payload, _, _), rfl, by simp [openSigner]⟩) rfl (by decide)
    ⟨by decide, by decide, by decide⟩ (by decide) (by decide) (by decide)

end WorkflowForge.Identity
