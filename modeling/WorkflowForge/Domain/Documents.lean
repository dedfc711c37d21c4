import WorkflowForge.Domain.Identity

/-! The document domain model: value objects, versions and the document aggregate.
Frozen dataclasses are plain structures; `postInit` is their `__post_init__`, which every
constructor call and every `replace` runs.
-/

namespace WorkflowForge

open Python

inductive DocumentStatus where
  | registered
  | stored
  | failed
  | archived
  deriving DecidableEq, Repr

def DocumentStatus.value : DocumentStatus → String
  | registered => "registered"
  | stored => "stored"
  | failed => "failed"
  | archived => "archived"

inductive DocumentSourceType where
  | upload
  | import
  | system
  deriving DecidableEq, Repr

def DocumentSourceType.value : DocumentSourceType → String
  | upload => "upload"
  | .import => "import"
  | system => "system"

inductive DocumentStorageState where
  | pending
  | stored
  | failed
  deriving DecidableEq, Repr

/-- Classifications of stored artifacts. -/
inductive DocumentArtifactType where
  | original
  | preview
  | text
  | export
  | other
  deriving DecidableEq, Repr

def DocumentArtifactType.value : DocumentArtifactType → String
  | original => "original"
  | preview => "preview"
  | text => "text"
  | .export => "export"
  | other => "other"

/-- `_validate_uuid`. -/
def validateUuid (value : UUID) (fieldName : String) : Except Exn Unit :=
  if value = 0 then .error (.documentError (fieldName ++ " must not be the nil UUID."))
  else .ok ()

/-- `str(uuid)`: five dash-separated groups of lower-case hex digits. -/
def uuidText (value : UUID) : Text :=
  let shortest := Nat.toDigits 16 value
  let digits := List.replicate (32 - shortest.length) '0' ++ shortest
  let lead := digits.length - 24
  digits.take lead ++ '-' :: (digits.drop lead).take 4
    ++ '-' :: (digits.drop (lead + 4)).take 4
    ++ '-' :: (digits.drop (lead + 8)).take 4
    ++ '-' :: digits.drop (lead + 12)

-----------------------------------------------------------------------------------------
-- Content hashes and storage keys
-----------------------------------------------------------------------------------------

def isLowerHex (c : Char) : Bool := isAsciiDigit c || ('a' ≤ c && c ≤ 'f')

/-- `^[0-9a-f]{64}$`. -/
def isSha256Hex (text : Text) : Bool := text.length == 64 && text.all isLowerHex

/-- A lower-case SHA-256 hex digest. -/
structure ContentHash where
  value : Text
  valid : isSha256Hex value = true
  deriving DecidableEq

/-- `ContentHash(value)`. -/
def ContentHash.parse (u : Unicode) (value : Text) : Except Exn ContentHash :=
  let normalized := u.lower value
  if h : isSha256Hex normalized = true then .ok ⟨normalized, h⟩
  else .error (.documentError "Content hash must be a 64-character SHA-256 hex digest.")

def isKeyEdge (c : Char) : Bool := isAsciiLower c || isAsciiDigit c

/-- `^[a-z0-9][a-z0-9_.-]*$`. -/
def isSafeSegment : Text → Bool
  | [] => false
  | first :: rest =>
      isKeyEdge first && rest.all (fun c => isKeyEdge c || c == '_' || c == '.' || c == '-')

/-- `^[a-z0-9][a-z0-9/_\-.]*[a-z0-9]$`. -/
def isKeyText (text : Text) : Bool :=
  2 ≤ text.length && text.head?.any isKeyEdge && text.getLast?.any isKeyEdge
  && text.all (fun c => isKeyEdge c || c == '/' || c == '_' || c == '-' || c == '.')

/-- All checks of `StorageObjectKey.__post_init__`. -/
def isStorageKey (text : Text) : Bool :=
  !(text.contains "..".toList || text.contains ['\\'] || text.contains "//".toList)
  && isKeyText text && (Text.splitOn '/' text).all isSafeSegment

/-- A validated object-storage key. -/
structure StorageObjectKey where
  value : Text
  valid : isStorageKey value = true
  deriving DecidableEq

/-- `StorageObjectKey(value)`. -/
def StorageObjectKey.parse (value : Text) : Except Exn StorageObjectKey :=
  if h : isStorageKey value = true then .ok ⟨value, h⟩
  else if value.contains "..".toList || value.contains ['\\'] || value.contains "//".toList then
    .error (.documentError
      "Storage object key must not contain traversal or path separator aliases.")
  else if !isKeyText value then
    .error (.documentError "Storage object key contains unsupported characters.")
  else .error (.documentError "Storage object key contains an unsafe path segment.")

/-- The tenant's prefix of final document keys. -/
def documentContentPrefix (organizationId : UUID) : Text :=
  "documents/".toList ++ uuidText organizationId ++ "/sha256/".toList

/-- The text of the final key of document bytes. -/
def documentContentKeyText (organizationId : UUID) (digest : Text) : Text :=
  documentContentPrefix organizationId ++ digest.take 2 ++ '/' :: (digest.drop 2).take 2
    ++ '/' :: digest

/-- `StorageObjectKey.for_document_content`. -/
def StorageObjectKey.forDocumentContent (organizationId : UUID) (contentHash : ContentHash)
    : Except Exn StorageObjectKey := do
  validateUuid organizationId "Storage key organization identifier"
  StorageObjectKey.parse (documentContentKeyText organizationId contentHash.value)

/-- `StorageObjectKey.for_temporary_upload`. -/
def StorageObjectKey.forTemporaryUpload (organizationId uploadId : UUID)
    : Except Exn StorageObjectKey := do
  validateUuid organizationId "Temporary key organization identifier"
  validateUuid uploadId "Temporary key upload identifier"
  StorageObjectKey.parse
    ("tmp/".toList ++ uuidText organizationId ++ '/' :: uuidText uploadId)

/-- `for_artifact`: the reserved key of a stored artifact. -/
def StorageObjectKey.forArtifact (organizationId documentId : UUID)
    (artifactType : DocumentArtifactType) (artifactId : UUID)
    : Except Exn StorageObjectKey := do
  validateUuid organizationId "Artifact key organization identifier"
  StorageObjectKey.parse
    ("artifacts/".toList ++ uuidText organizationId ++ '/' :: uuidText documentId
      ++ '/' :: artifactType.value.toList ++ '/' :: uuidText artifactId)

-----------------------------------------------------------------------------------------
-- Normalization of user-supplied metadata
-----------------------------------------------------------------------------------------

def displayFilenameMaxLength : Nat := 255

def sourceReferenceMaxLength : Nat := 512

/-- The shared pipeline of the two filename normalizers: canonical form, last path
segment, no control characters, single spaces. -/
def cleanFilename (u : Unicode) (filename : Text) : Text :=
  u.collapse
    (u.dropControls (u.strip (((u.nfc filename).replaceChar '\\' '/').afterLast '/')))

def isSpecialName (name : Text) : Bool :=
  name == [] || name == ".".toList || name == "..".toList

/-- `normalize_original_filename`. -/
def normalizeOriginalFilename (u : Unicode) (filename : Text) : Except Exn Text :=
  let normalized := cleanFilename u filename
  if isSpecialName normalized then
    .error (.documentError "Original filename must contain a safe display name.")
  else if normalized.length > displayFilenameMaxLength then
    .error (.documentError "Original filename must be at most 255 characters.")
  else .ok normalized

/-- `normalize_source_reference`. -/
def normalizeSourceReference (u : Unicode) : Option Text → Except Exn (Option Text)
  | none => .ok none
  | some sourceReference =>
      let normalized := u.strip (u.nfc sourceReference)
      if normalized = [] then .ok none
      else if normalized.length > sourceReferenceMaxLength then
        .error (.documentError "Source reference must be at most 512 characters.")
      else if ["password".toList, "secret".toList, "token".toList, "authorization".toList].any
          (fun part => (u.casefold normalized).contains part) then
        .error (.documentError
          "Source reference must not contain secrets or authentication data.")
      else .ok (some normalized)

/-- One side of `type/subtype`: `[A-Za-z0-9][A-Za-z0-9!#$&^_.+-]*`. -/
def isMediaToken : Text → Bool
  | [] => false
  | first :: rest =>
      (isKeyEdge first || isAsciiUpper first)
      && rest.all (fun c => isKeyEdge c || isAsciiUpper c || "!#$&^_.+-".toList.contains c)

def isMediaType (text : Text) : Bool :=
  match Text.splitOn '/' text with
  | [major, minor] => isMediaToken major && isMediaToken minor
  | _ => false

/-- `normalize_media_type`. -/
def normalizeMediaType (u : Unicode) (mediaType : Text) : Except Exn Text :=
  let normalized := u.lower (u.strip mediaType)
  if isMediaType normalized then .ok normalized
  else .error (.documentError "Media type must be a valid type/subtype value.")

/-- `validate_byte_size`. -/
def validateByteSize (byteSize : Int) : Except Exn Int :=
  if byteSize < 0 then
    .error (.documentError "Document byte size must be a non-negative integer.")
  else .ok byteSize

/-- `_ensure_key_is_tenant_safe`. -/
def ensureKeyIsTenantSafe (key : StorageObjectKey) (organizationId : UUID)
    (expectedPrefix : Text)
    : Except Exn Unit :=
  if !key.value.contains (uuidText organizationId) || !expectedPrefix.isPrefixOf key.value then
    .error (.documentError
      "Storage object key must be tenant-safe for the owning organization.")
  else .ok ()

-----------------------------------------------------------------------------------------
-- Document versions
-----------------------------------------------------------------------------------------

structure DocumentVersion where
  id : UUID
  organizationId : UUID
  documentId : UUID
  versionNumber : Nat
  originalFilename : Text
  mediaType : Text
  byteSize : Int
  contentHash : ContentHash
  storageObjectKey : StorageObjectKey
  storageState : DocumentStorageState
  createdAt : Timestamp
  createdByUserId : UUID
  deriving DecidableEq

def DocumentVersion.postInit (u : Unicode) (self : DocumentVersion)
    : Except Exn DocumentVersion := do
  validateUuid self.organizationId "Document version organization identifier"
  validateUuid self.createdByUserId "Document version creator identifier"
  if self.versionNumber ≤ 0 then
    throw (.documentError "Document version number must be positive.")
  let originalFilename ← normalizeOriginalFilename u self.originalFilename
  let mediaType ← normalizeMediaType u self.mediaType
  let byteSize ← validateByteSize self.byteSize
  ensureKeyIsTenantSafe self.storageObjectKey self.organizationId
    (documentContentPrefix self.organizationId)
  return { self with originalFilename, mediaType, byteSize }

/-- `DocumentVersion.create` without an explicit storage key, as every caller uses it. -/
def DocumentVersion.create (u : Unicode) (id organizationId documentId : UUID)
    (versionNumber : Nat) (originalFilename mediaType : Text) (byteSize : Int)
    (contentHash : ContentHash) (storageState : DocumentStorageState)
    (createdAt : Timestamp) (createdByUserId : UUID)
    : Except Exn DocumentVersion := do
  let storageObjectKey ← StorageObjectKey.forDocumentContent organizationId contentHash
  DocumentVersion.postInit u {
    id, organizationId, documentId, versionNumber, originalFilename, mediaType, byteSize,
    contentHash, storageObjectKey, storageState, createdAt, createdByUserId
  }

-----------------------------------------------------------------------------------------
-- Document artifacts
-----------------------------------------------------------------------------------------

/-- A value of an artifact metadata mapping, as far as the sanitizer tells them apart. A scalar is
given by its JSON text. -/
inductive MetadataValue where
  | scalar (repr : Text)
  | text (value : Text)
  | uuid (value : UUID)
  | unsupported
  deriving DecidableEq

structure DocumentArtifact where
  id : UUID
  organizationId : UUID
  documentId : UUID
  documentVersionId : Option UUID
  artifactType : DocumentArtifactType
  mediaType : Text
  byteSize : Int
  contentHash : Option ContentHash
  storageObjectKey : StorageObjectKey
  metadata : List (Text × MetadataValue)
  createdAt : Timestamp
  createdByUserId : UUID
  deriving DecidableEq

/-- One entry of `_safe_artifact_metadata`. -/
def safeArtifactEntry (entry : Text × MetadataValue) : Except Exn (Text × MetadataValue) :=
  if entry.1 = [] ∨ entry.1.length > 64 then
    .error (.documentError "Artifact metadata keys are invalid.")
  else
    match entry.2 with
    | .scalar repr => .ok (entry.1, .scalar repr)
    | .text value =>
        if value.length > 512 then
          .error (.documentError "Artifact metadata string value is too long.")
        else .ok (entry.1, .text value)
    | .uuid value => .ok (entry.1, .text (uuidText value))
    | .unsupported =>
        .error (.documentError "Artifact metadata value type is not supported.")

/-- `_safe_artifact_metadata`. -/
def safeArtifactMetadata (metadata : List (Text × MetadataValue))
    : Except Exn (List (Text × MetadataValue)) :=
  if metadata.length > 32 then
    .error (.documentError "Artifact metadata must have at most 32 keys.")
  else metadata.mapM safeArtifactEntry

/-- The constructor of an artifact, which runs `__post_init__`. -/
def DocumentArtifact.create (u : Unicode) (self : DocumentArtifact)
    : Except Exn DocumentArtifact := do
  validateUuid self.organizationId "Document artifact organization identifier"
  validateUuid self.createdByUserId "Document artifact creator identifier"
  let mediaType ← normalizeMediaType u self.mediaType
  let byteSize ← validateByteSize self.byteSize
  let metadata ← safeArtifactMetadata self.metadata
  ensureKeyIsTenantSafe self.storageObjectKey self.organizationId
    ("artifacts/".toList ++ uuidText self.organizationId ++ '/' :: uuidText self.documentId
      ++ ['/'])
  return { self with mediaType, byteSize, metadata }

-----------------------------------------------------------------------------------------
-- The document aggregate
-----------------------------------------------------------------------------------------

structure Document where
  id : UUID
  organizationId : UUID
  displayFilename : Text
  sourceType : DocumentSourceType
  sourceReference : Option Text
  status : DocumentStatus
  currentVersionId : UUID
  archivedAt : Option Timestamp
  archivedByUserId : Option UUID
  createdAt : Timestamp
  createdByUserId : UUID
  updatedAt : Timestamp
  updatedByUserId : UUID
  lockVersion : Nat
  deriving DecidableEq

/-- The archive metadata agrees with the status. -/
def Document.validateArchive (self : Document) : Except Exn Unit :=
  if self.status = .archived then
    match self.archivedAt, self.archivedByUserId with
    | some _, some actor => validateUuid actor "Document archiver identifier"
    | _, _ =>
        .error (.documentError
          "Archived documents require archive timestamp and actor metadata.")
  else if self.archivedAt.isSome || self.archivedByUserId.isSome then
    .error (.documentError "Only archived documents may carry archive metadata.")
  else .ok ()

def Document.postInit (u : Unicode) (self : Document) : Except Exn Document := do
  validateUuid self.organizationId "Document organization identifier"
  validateUuid self.createdByUserId "Document creator identifier"
  validateUuid self.updatedByUserId "Document updater identifier"
  let displayFilename ← normalizeOriginalFilename u self.displayFilename
  let sourceReference ← normalizeSourceReference u self.sourceReference
  if self.updatedAt < self.createdAt then
    throw (.documentError
      "Document updated timestamp must not be earlier than creation timestamp.")
  if self.lockVersion ≤ 0 then
    throw (.documentError "Document lock version must be positive.")
  self.validateArchive
  return { self with displayFilename, sourceReference }

/-- `Document.register`. -/
def Document.register (u : Unicode) (id organizationId : UUID) (displayFilename : Text)
    (sourceType : DocumentSourceType) (sourceReference : Option Text)
    (currentVersion : DocumentVersion) (createdByUserId : UUID) (timestamp : Timestamp)
    : Except Exn Document := do
  if currentVersion.documentId ≠ id then
    throw (.documentError "Current version must belong to the same document.")
  if currentVersion.organizationId ≠ organizationId then
    throw (.documentError "Current version must belong to the same tenant.")
  Document.postInit u {
    id, organizationId, displayFilename, sourceType, sourceReference
    status := .registered
    currentVersionId := currentVersion.id
    archivedAt := none
    archivedByUserId := none
    createdAt := timestamp
    createdByUserId
    updatedAt := timestamp
    updatedByUserId := createdByUserId
    lockVersion := 1
  }

/-- `_ensure_mutable`. -/
def Document.ensureMutable (self : Document) : Except Exn Unit :=
  if self.status = .archived then
    .error (.archivedDocumentMutation "Archived documents reject ordinary mutation.")
  else .ok ()

/-- `_mutated`: apply `changes` and bump the lock version. -/
def Document.mutated (u : Unicode) (self : Document) (actorUserId : UUID)
    (timestamp : Timestamp) (changes : Document → Document)
    : Except Exn Document := do
  validateUuid actorUserId "Document mutation actor identifier"
  if timestamp < self.createdAt then
    throw (.documentError
      "Document mutation timestamp must not be earlier than creation timestamp.")
  Document.postInit u {
    changes self with
    updatedAt := timestamp
    updatedByUserId := actorUserId
    lockVersion := self.lockVersion + 1
  }

/-- `_transition_to`. -/
def Document.transitionTo (u : Unicode) (self : Document) (status : DocumentStatus)
    (actorUserId : UUID) (timestamp : Timestamp)
    : Except Exn Document := do
  self.ensureMutable
  if self.status ≠ .registered ∧ self.status ≠ .failed then
    throw (.invalidDocumentTransition
      ("Cannot transition document from " ++ self.status.value ++ " to " ++ status.value
        ++ "."))
  self.mutated u actorUserId timestamp (fun document => { document with status })

def Document.markStored (u : Unicode) (self : Document) (actorUserId : UUID)
    (timestamp : Timestamp)
    : Except Exn Document :=
  self.transitionTo u .stored actorUserId timestamp

def Document.markFailed (u : Unicode) (self : Document) (actorUserId : UUID)
    (timestamp : Timestamp)
    : Except Exn Document :=
  self.transitionTo u .failed actorUserId timestamp

def Document.setCurrentVersion (u : Unicode) (self : Document) (version : DocumentVersion)
    (actorUserId : UUID) (timestamp : Timestamp)
    : Except Exn Document := do
  self.ensureMutable
  if version.documentId ≠ self.id then
    throw (.documentError "Current version must belong to the same document.")
  if version.organizationId ≠ self.organizationId then
    throw (.documentError "Current version must belong to the same tenant.")
  self.mutated u actorUserId timestamp (fun document => {
    document with
    currentVersionId := version.id
    displayFilename := version.originalFilename
    status := if version.storageState = .stored then .stored else .registered
  })

def Document.archive (u : Unicode) (self : Document) (actorUserId : UUID)
    (timestamp : Timestamp)
    : Except Exn Document := do
  self.ensureMutable
  validateUuid actorUserId "Document archive actor identifier"
  if timestamp < self.createdAt then
    throw (.documentError
      "Document archive timestamp must not be earlier than creation timestamp.")
  Document.postInit u {
    self with
    status := .archived
    archivedAt := some timestamp
    archivedByUserId := some actorUserId
    updatedAt := timestamp
    updatedByUserId := actorUserId
    lockVersion := self.lockVersion + 1
  }

/-- `assert_artifact_consistent`. -/
def assertArtifactConsistent (document : Document) (artifact : DocumentArtifact)
    (version : Option DocumentVersion)
    : Except Exn Unit := do
  if artifact.organizationId ≠ document.organizationId
      ∨ artifact.documentId ≠ document.id then
    throw (.documentError "Artifact must belong to the same document and tenant.")
  match version with
  | none => return ()
  | some version =>
      if artifact.documentVersionId ≠ some version.id then
        throw (.documentError "Artifact version reference must match the supplied version.")
      if version.organizationId ≠ document.organizationId
          ∨ version.documentId ≠ document.id then
        throw (.documentError "Artifact version must belong to the same document and tenant.")

end WorkflowForge
