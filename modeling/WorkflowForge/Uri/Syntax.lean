import Mathlib.Data.List.TakeWhile

/-! The generic syntax of URIs: splitting into components, and percent-encoding.
A text is read only if each of its components has the characters the grammar gives it.
-/

namespace Uri

/-- What comes before the first separator, and what follows it if there is one. -/
def splitFirst (separator : Char) (text : List Char) : List Char × Option (List Char) :=
  (text.takeWhile (· != separator),
    match text.dropWhile (· != separator) with
    | [] => none
    | _ :: rest => some rest)

-----------------------------------------------------------------------------------------
-- Characters
-----------------------------------------------------------------------------------------

def isHexDigit (c : Char) : Bool :=
  c.isDigit || ('a' ≤ c && c ≤ 'f') || ('A' ≤ c && c ≤ 'F')

def isUnreserved (c : Char) : Bool := c.isAlphanum || "-._~".toList.contains c

def isSubDelim (c : Char) : Bool := "!$&'()*+,;=".toList.contains c

/-- The characters of a registered name, besides percent-encoded octets. -/
def isNameChar (c : Char) : Bool := isUnreserved c || isSubDelim c

def isUserinfoChar (c : Char) : Bool := isNameChar c || c == ':'

def isPathChar (c : Char) : Bool := isUserinfoChar c || c == '@' || c == '/'

def isQueryChar (c : Char) : Bool := isPathChar c || c == '?'

/-- Allowed characters and percent-encoded octets. -/
def wellEncoded (allowed : Char → Bool) : List Char → Bool
  | [] => true
  | '%' :: high :: low :: rest =>
      isHexDigit high && isHexDigit low && wellEncoded allowed rest
  | c :: rest => c != '%' && allowed c && wellEncoded allowed rest

-----------------------------------------------------------------------------------------
-- Hosts
-----------------------------------------------------------------------------------------

/-- An octet of a dotted address, without leading zeros. -/
def isDecOctet (text : List Char) : Bool :=
  text != [] && text.all Char.isDigit && (text.length == 1 || text.head? != some '0')
  && decide (Nat.ofDigitChars 10 text 0 < 256)

def isIpv4 (text : List Char) : Bool :=
  (text.splitOn '.').length == 4 && (text.splitOn '.').all isDecOctet

/-- One to four hexadecimal digits. -/
def isPiece (text : List Char) : Bool :=
  text != [] && decide (text.length ≤ 4) && text.all isHexDigit

/-- How many 16-bit pieces a text of pieces joined by colons has. A dotted address in the
last place counts as two. -/
def pieces (dotted : Bool) (text : List Char) : Option Nat :=
  if text = [] then some 0
  else
    let parts := text.splitOn ':'
    if parts.all isPiece then some parts.length
    else if dotted && parts.dropLast.all isPiece && isIpv4 (parts.getLastD []) then
      some (parts.length + 1)
    else none

/-- The two sides of the first double colon. -/
def splitDouble : List Char → Option (List Char × List Char)
  | ':' :: ':' :: rest => some ([], rest)
  | c :: rest => (splitDouble rest).map (fun sides => (c :: sides.1, sides.2))
  | [] => none

def isIpv6 (text : List Char) : Bool :=
  match splitDouble text with
  | none => pieces true text == some 8
  | some (left, right) =>
      match pieces false left, pieces true right with
      | some before, some after => decide (before + after ≤ 7)
      | _, _ => false

def isIpvFuture : List Char → Bool
  | v :: rest =>
      (v == 'v' || v == 'V')
      && (match splitFirst '.' rest with
        | (version, some address) =>
            version != [] && version.all isHexDigit && address != []
            && address.all isUserinfoChar
        | (_, none) => false)
  | [] => false

/-- What may stand between the brackets of an IP literal. -/
def isIpLiteral (text : List Char) : Bool :=
  text.all isUserinfoChar && (isIpv6 text || isIpvFuture text)

/-- The inner text of a bracketed host. -/
def bracketed : List Char → Option (List Char)
  | '[' :: rest => if rest.getLast? = some ']' then some rest.dropLast else none
  | _ => none

/-- A registered name, which includes the dotted addresses, or an IP literal. -/
def isHost (text : List Char) : Bool :=
  wellEncoded isNameChar text || (bracketed text).any isIpLiteral

-----------------------------------------------------------------------------------------
-- Components
-----------------------------------------------------------------------------------------

structure Authority where
  userinfo : Option (List Char)
  host : List Char
  port : Option (List Char)
  deriving DecidableEq, Repr

structure Components where
  scheme : List Char
  authority : Option Authority
  path : List Char
  query : Option (List Char)
  fragment : Option (List Char)
  deriving DecidableEq, Repr

/-- A colon inside brackets belongs to the host. -/
def splitPort (text : List Char) : List Char × Option (List Char) :=
  if text.head? = some '[' then
    match splitFirst ']' text with
    | (_, none) => (text, none)
    | (literal, some rest) =>
        match splitFirst ':' rest with
        | (between, port) => (literal ++ ']' :: between, port)
  else splitFirst ':' text

def parseAuthority (text : List Char) : Option Authority :=
  let (userinfo, hostPort) :=
    match splitFirst '@' text with
    | (whole, none) => (none, whole)
    | (userinfo, some rest) => (some userinfo, rest)
  let (host, port) := splitPort hostPort
  if userinfo.all (wellEncoded isUserinfoChar) && isHost host && port.all (·.all Char.isDigit)
  then some { userinfo, host, port }
  else none

def isScheme : List Char → Bool
  | [] => false
  | c :: rest =>
      c.isAlpha && rest.all (fun c => c.isAlphanum || c == '+' || c == '-' || c == '.')

/-- Read the part between the scheme and the query. -/
def parseHierarchy : List Char → Option (Option Authority × List Char)
  | '/' :: '/' :: rest => do
      let authority ← parseAuthority (rest.takeWhile (· != '/'))
      return (some authority, rest.dropWhile (· != '/'))
  | path => some (none, path)

def parse (text : List Char) : Option Components := do
  let (scheme, afterScheme) := splitFirst ':' text
  let (beforeFragment, fragment) := splitFirst '#' (← afterScheme)
  let (hierarchy, query) := splitFirst '?' beforeFragment
  let (authority, path) ← parseHierarchy hierarchy
  if isScheme scheme && wellEncoded isPathChar path && query.all (wellEncoded isQueryChar)
    && fragment.all (wellEncoded isQueryChar)
  then some { scheme, authority, path, query, fragment }
  else none

-----------------------------------------------------------------------------------------
-- Percent-decoding
-----------------------------------------------------------------------------------------

def hexDigitValue (c : Char) : Nat :=
  if c.isDigit then c.toNat - 48 else if 'a' ≤ c then c.toNat - 87 else c.toNat - 55

def utf8 (text : List Char) : List UInt8 := text.flatMap String.utf8EncodeChar

/-- The octets of a text: percent-encoded ones as they say, other characters in UTF-8. -/
def percentDecode : List Char → List UInt8
  | '%' :: high :: low :: rest =>
      if isHexDigit high && isHexDigit low then
        UInt8.ofNat (16 * hexDigitValue high + hexDigitValue low) :: percentDecode rest
      else String.utf8EncodeChar '%' ++ percentDecode (high :: low :: rest)
  | c :: rest => String.utf8EncodeChar c ++ percentDecode rest
  | [] => []

end Uri
