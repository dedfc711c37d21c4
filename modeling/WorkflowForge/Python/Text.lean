import Mathlib.Data.List.Infix

/-! Python strings as character lists, and the Unicode facts their methods rest on.
The tables behind `unicodedata` are a parameter; `Unicode` bundles the functions that are
used with the documented behaviour that is relied on.
-/

namespace Python

abbrev Text := List Char

abbrev Bytes := List UInt8

/-- `part in text`. -/
def Text.contains (text part : Text) : Bool := text.tails.any (part.isPrefixOf ·)

/-- `text.replace(old, new)` for single characters. -/
def Text.replaceChar (text : Text) (old new : Char) : Text :=
  text.map (fun c => if c = old then new else c)

/-- `text.rsplit(separator, maxsplit=1)[-1]`: what follows the last separator. -/
def Text.afterLast (text : Text) (separator : Char) : Text :=
  (text.reverse.takeWhile (· != separator)).reverse

/-- The segments between the characters that satisfy `separates`. -/
def Text.splitWhere (separates : Char → Bool) : Text → List Text
  | [] => [[]]
  | c :: rest =>
      if separates c then [] :: splitWhere separates rest
      else
        match splitWhere separates rest with
        | [] => [[c]]
        | head :: tail => (c :: head) :: tail

/-- `text.split(separator)` for a single character. -/
def Text.splitOn (separator : Char) (text : Text) : List Text :=
  text.splitWhere (· == separator)

/-- `" ".join(parts)`. -/
def Text.joinSpaces : List Text → Text
  | [] => []
  | [part] => part
  | part :: rest => part ++ ' ' :: joinSpaces rest

def isAsciiLower (c : Char) : Bool := 'a' ≤ c && c ≤ 'z'

def isAsciiUpper (c : Char) : Bool := 'A' ≤ c && c ≤ 'Z'

def isAsciiDigit (c : Char) : Bool := '0' ≤ c && c ≤ '9'

/-- The Unicode database: canonical composition, white space, the general categories that
start with `C`, case folding and lower-casing, with the behaviour the code relies on.

NFC is closed under substrings, and composing the parts of a text first changes nothing. White
space, characters of the `C` categories and slashes are normalization boundaries: no character
composes across them. By itself such a character is composed, except for a few spaces that stand
for another space. Canonical composition makes none of them out of other characters and never
erases a text. Case folding never shortens a text; lower-casing maps ASCII letters as usual and
leaves no ASCII capital behind.
-/
structure Unicode where
  nfc : Text → Text
  isSpace : Char → Bool
  isControl : Char → Bool
  casefold : Text → Text
  lower : Text → Text
  space_isSpace : isSpace ' ' = true
  space_notControl : isControl ' ' = false
  nfc_infix : ∀ text part, part <:+: nfc text → nfc part = part
  nfc_append : ∀ left right, nfc (nfc left ++ nfc right) = nfc (left ++ right)
  nfc_border
    : ∀ c,
        (isSpace c = true ∨ isControl c = true ∨ c = '/' ∨ c = '\\')
        → ∀ left right, nfc (left ++ c :: right) = nfc left ++ nfc [c] ++ nfc right
  nfc_fixed : ∀ c, (c = ' ' ∨ isControl c = true ∨ c = '/' ∨ c = '\\') → nfc [c] = [c]
  nfc_blank
    : ∀ c,
        isSpace c = true
        → ∃ d,
            nfc [c] = [d] ∧ isSpace d = true ∧ isControl d = isControl c ∧ d ≠ '/' ∧ d ≠ '\\'
  nfc_visible
    : ∀ text,
        (∀ c ∈ text, isSpace c = false ∧ isControl c = false ∧ c ≠ '/' ∧ c ≠ '\\')
        → ∀ c ∈ nfc text, isSpace c = false ∧ isControl c = false ∧ c ≠ '/' ∧ c ≠ '\\'
  nfc_ne_nil : ∀ text, text ≠ [] → nfc text ≠ []
  casefold_length : ∀ text, text.length ≤ (casefold text).length
  lower_ascii
    : ∀ text, (∀ c ∈ text, c.val < 128 ∧ isAsciiUpper c = false) → lower text = text
  lower_noCapital : ∀ text, ∀ c ∈ lower text, isAsciiUpper c = false
  ascii_space : ∀ c, isAsciiLower c ∨ isAsciiDigit c ∨ c ∈ "!#$&^_.+-/".toList → isSpace c = false

namespace Unicode

variable (u : Unicode)

/-- `text.strip()`. -/
def strip (text : Text) : Text :=
  ((text.dropWhile u.isSpace).reverse.dropWhile u.isSpace).reverse

/-- `text.split()`: the maximal runs without white space. -/
def words (text : Text) : List Text := (text.splitWhere u.isSpace).filter (· ≠ [])

/-- `" ".join(text.split())`. -/
def collapse (text : Text) : Text := Text.joinSpaces (u.words text)

/-- Keep the characters whose general category does not start with `C`. -/
def dropControls (text : Text) : Text := text.filter (fun c => !u.isControl c)

end Unicode

end Python
