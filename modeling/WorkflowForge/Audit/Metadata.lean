import WorkflowForge.Domain.Identity
import WorkflowForge.Domain.StorageKeys
import WorkflowForge.Python.Datetimes

/-! Metadata of audit events: the values a caller may give, and how they are made safe. -/

namespace WorkflowForge.Audit

open Python

/-- A value that a caller attaches. Keys are given by their `str`, so two keys of a mapping can
have one text. Members of a `StrEnum` are texts: the branch for them is never reached. -/
inductive MetadataValue where
  | null
  | bool (value : Bool)
  | int (value : Int)
  /-- A float, by its bits. -/
  | float (bits : UInt64)
  | text (value : Text)
  /-- A UUID, of 128 bits. -/
  | uuid (value : Fin (2 ^ 128))
  | datetime (value : Datetime)
  | mapping (items : List (Text × MetadataValue))
  /-- A list or a tuple. -/
  | list (items : List MetadataValue)
  | unsupported

/-- Null, a boolean, a number, a string or a container of such: not a UUID, a datetime or an
unsupported object. -/
def MetadataValue.isJson : MetadataValue → Bool
  | .null | .bool _ | .int _ | .float _ | .text _ | .mapping _ | .list _ => true
  | .uuid _ | .datetime _ | .unsupported => false

inductive AuditExn where
  | invalidAuditEvent (message : String)
  | invalidAuditMetadata (message : String)
  | valueError (message : String)
  deriving DecidableEq, Repr

def maxKeys : Nat := 32
def keyMaxLength : Nat := 64
def stringMaxLength : Nat := 512
def listMaxItems : Nat := 32
def maxDepth : Nat := 4

def secretKeyParts : List String := [
  "authorization", "cookie", "csrf", "digest", "hash", "password", "secret", "token"
]

/-- The key contains a secret-like part after case folding. -/
def isSecretLike (u : Unicode) (key : Text) : Bool :=
  secretKeyParts.any (fun part => Text.contains (u.casefold key) part.toList)

/-- `safe[key] = value`: an existing key keeps its place. -/
def assign (safe : List (Text × MetadataValue)) (key : Text) (value : MetadataValue)
    : List (Text × MetadataValue) :=
  if safe.any (fun item => item.1 == key) then
    safe.map (fun item => if item.1 = key then (key, value) else item)
  else safe ++ [(key, value)]

/-- The loop of `_safe_metadata` over the items; `safeValue` is the call for one value. -/
def safeItems (safeValue : Text → MetadataValue → Except AuditExn MetadataValue)
    : List (Text × MetadataValue) → List (Text × MetadataValue)
      → Except AuditExn (List (Text × MetadataValue))
  | [], safe => .ok safe
  | (key, value) :: rest, safe => do
      if key = [] ∨ keyMaxLength < key.length then
        throw (.invalidAuditMetadata "Audit metadata keys must be between 1 and 64.")
      let value ← safeValue key value
      safeItems safeValue rest (assign safe key value)

/-- `_safe_metadata`, without its depth check, which the callers have made. -/
def safeMapping (safeValue : Text → MetadataValue → Except AuditExn MetadataValue)
    (metadata : List (Text × MetadataValue))
    : Except AuditExn (List (Text × MetadataValue)) :=
  if maxKeys < metadata.length then
    .error (.invalidAuditMetadata "Audit metadata must have at most 32 keys.")
  else safeItems safeValue metadata []

def nestingError : AuditExn :=
  .invalidAuditMetadata "Audit metadata nesting must be at most 4 levels."

/-- `_safe_metadata_value`. `levels` is how many levels of containers may still follow:
`AUDIT_METADATA_MAX_DEPTH - depth`. -/
def safeMetadataValue (u : Unicode)
    : Nat → Text → MetadataValue → Except AuditExn MetadataValue
  | levels, key, value =>
      if isSecretLike u key then
        .error (.invalidAuditMetadata "Audit metadata contains a prohibited secret-like key.")
      else
        match value with
        | .null => .ok value
        | .bool _ => .ok value
        | .int _ => .ok value
        | .float _ => .ok value
        | .text content =>
            if stringMaxLength < content.length then
              .error (.invalidAuditMetadata "Audit metadata string value is too long.")
            else .ok value
        | .uuid id => .ok (.text (uuidText id.val))
        | .datetime (.aware instant) => .ok (.text (isoformat instant))
        | .datetime (.naive _) =>
            .error (.invalidAuditEvent "metadata datetime value must be timezone-aware.")
        | .mapping items =>
            match levels with
            | 0 => .error nestingError
            | levels + 1 => do
                return .mapping (← safeMapping (safeMetadataValue u levels) items)
        | .list items =>
            match levels with
            | 0 => .error nestingError
            | levels + 1 =>
                if listMaxItems < items.length then
                  .error (.invalidAuditMetadata "Audit metadata list value is too long.")
                else do
                  return .list (← items.mapM (safeMetadataValue u levels key))
        | .unsupported =>
            .error (.invalidAuditMetadata "Audit metadata value type is not supported.")

/-- `_safe_metadata` at depth 0. -/
def safeMetadata (u : Unicode) (metadata : List (Text × MetadataValue))
    : Except AuditExn (List (Text × MetadataValue)) :=
  safeMapping (safeMetadataValue u maxDepth) metadata

end WorkflowForge.Audit
