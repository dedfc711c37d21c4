import WorkflowForge.Domain.Documents

/-! Upload validation and hashing.
SHA-256, the zip reader and the Unicode database are parameters (`Platform`). The upload
stream is a one-shot reader, so every function that reads it also returns what is left.
-/

namespace WorkflowForge

open Python

/-- An entry of a zip archive's central directory. -/
structure ZipInfo where
  filename : Text
  fileSize : Nat
  compressSize : Nat
  flagBits : Nat
  deriving DecidableEq

/-- What opening an archive and listing it gives. -/
inductive ZipAnswer where
  | entries (infolist : List ZipInfo)
  | badZipFile
  | raises
  deriving DecidableEq

/-- The library functions that validation is built on. -/
structure Platform where
  unicode : Unicode
  sha256 : Bytes → ContentHash
  readZip : Bytes → ZipAnswer

/-- What successive `read` calls of an upload stream give. An empty chunk is its end, after
which every read is empty. -/
inductive StreamEvent where
  | chunk (data : Bytes)
  | failure
  deriving DecidableEq

abbrev UploadStream := List StreamEvent

inductive SupportedUploadType where
  | pdf
  | png
  | jpeg
  | txt
  | html
  | docx
  deriving DecidableEq, Repr

structure UploadTypePolicy where
  uploadType : SupportedUploadType
  extensions : List Text
  mediaType : Text

structure NormalizedUploadMetadata where
  filename : Text
  extension : Text
  mediaType : Text
  uploadType : SupportedUploadType
  deriving DecidableEq

structure StreamedUpload where
  body : Bytes
  contentHash : ContentHash
  byteSize : Nat
  head : Bytes
  tail : Bytes

def validationPrefixBytes : Nat := 8192

def docxMaxEntries : Nat := 256

def docxMaxUncompressedBytes : Nat := 50 * 1024 * 1024

def docxMaxCompressionRatio : Nat := 100

def policies : List UploadTypePolicy := [
  ⟨.pdf, [".pdf".toList], "application/pdf".toList⟩,
  ⟨.png, [".png".toList], "image/png".toList⟩,
  ⟨.jpeg, [".jpg".toList, ".jpeg".toList], "image/jpeg".toList⟩,
  ⟨.txt, [".txt".toList], "text/plain".toList⟩,
  ⟨.html, [".html".toList, ".htm".toList], "text/html".toList⟩,
  ⟨.docx, [".docx".toList],
    "application/vnd.openxmlformats-officedocument.wordprocessingml.document".toList⟩
]

def invalid {α : Type} (code message : String) : Except Exn α :=
  .error (.uploadValidation code message)

def isKeyCharacter (c : Char) : Bool :=
  isAsciiLower c || isAsciiUpper c || isAsciiDigit c || "._:-".toList.contains c

/-- `validate_idempotency_key`. -/
def validateIdempotencyKey (u : Unicode) (value : Text) : Except Exn Text :=
  let normalized := u.strip value
  if 1 ≤ normalized.length && normalized.length ≤ 128 && normalized.all isKeyCharacter then
    .ok normalized
  else
    .error (.invalidIdempotencyKey
      "Idempotency-Key must be non-empty and contain only safe printable characters.")

-----------------------------------------------------------------------------------------
-- Multipart metadata
-----------------------------------------------------------------------------------------

/-- `_normalize_upload_filename`. -/
def normalizeUploadFilename (u : Unicode) : Option Text → Except Exn Text
  | none => invalid "invalid_filename" "Filename is required."
  | some filename =>
      if filename.any (fun c => c == '\x00' || c == '\r' || c == '\n') then
        invalid "invalid_filename" "Filename contains unsafe characters."
      else
        let normalized := cleanFilename u filename
        if isSpecialName normalized then invalid "invalid_filename" "Filename is required."
        else if normalized.length > 255 then
          invalid "invalid_filename" "Filename is too long."
        else .ok normalized

/-- `_extension`. -/
def fileExtension (u : Unicode) (filename : Text) : Except Exn Text :=
  if !filename.contains ['.'] then
    invalid "unsupported_file_type" "File extension is not supported."
  else
    let extension := '.' :: u.casefold (filename.afterLast '.')
    if extension = ['.'] then
      invalid "unsupported_file_type" "File extension is not supported."
    else .ok extension

/-- `_policy_for_extension`. -/
def policyForExtension (extension : Text) : Except Exn UploadTypePolicy :=
  match policies.find? (fun policy => policy.extensions.contains extension) with
  | some policy => .ok policy
  | none => invalid "unsupported_file_type" "File extension is not supported."

/-- `normalize_upload_metadata`. -/
def normalizeUploadMetadata (u : Unicode) (filename declaredMediaType : Option Text)
    : Except Exn NormalizedUploadMetadata := do
  let safeFilename ← normalizeUploadFilename u filename
  let extension ← fileExtension u safeFilename
  let policy ← policyForExtension extension
  let mediaType ←
    match normalizeMediaType u (declaredMediaType.getD []) with
    | .ok mediaType => .ok mediaType
    | .error _ => invalid "unsupported_file_type" "Declared media type is not supported."
  if mediaType ≠ policy.mediaType then
    invalid "media_type_mismatch" "Declared media type does not match the filename extension."
  else
    .ok { filename := safeFilename, extension, mediaType, uploadType := policy.uploadType }

-----------------------------------------------------------------------------------------
-- Streaming
-----------------------------------------------------------------------------------------

/-- The last `n` elements. -/
def lastBytes (n : Nat) (data : Bytes) : Bytes := data.drop (data.length - n)

/-- The loop variables of `stream_upload`; `hashed` is what the digest was fed. -/
structure StreamProgress where
  hashed : Bytes := []
  byteSize : Nat := 0
  head : Bytes := []
  tail : Bytes := []
  body : Bytes := []

/-- The loop body after the size check. -/
def StreamProgress.take (progress : StreamProgress) (chunk : Bytes) : StreamProgress where
  hashed := progress.hashed ++ chunk
  byteSize := progress.byteSize + chunk.length
  head :=
    if progress.head.length < validationPrefixBytes then
      progress.head ++ chunk.take (validationPrefixBytes - progress.head.length)
    else progress.head
  tail := lastBytes 16 (progress.tail ++ chunk)
  body := progress.body ++ chunk

/-- The `while True` loop of `stream_upload`: an empty read ends it. -/
def streamLoop (maxBytes : Nat) : StreamProgress → UploadStream
    → Except Exn StreamProgress × UploadStream
  | progress, [] => (.ok progress, [])
  | _, .failure :: rest =>
      (invalid "stream_read_failed" "Uploaded file could not be read.", rest)
  | progress, .chunk data :: rest =>
      if data = [] then (.ok progress, [])
      else if progress.byteSize + data.length > maxBytes then
        (invalid "file_too_large" "Uploaded file is too large.", rest)
      else streamLoop maxBytes (progress.take data) rest

/-- `stream_upload`. -/
def streamUpload (platform : Platform) (maxBytes : Nat) (stream : UploadStream)
    : Except Exn StreamedUpload × UploadStream :=
  match streamLoop maxBytes {} stream with
  | (.error failure, rest) => (.error failure, rest)
  | (.ok progress, rest) =>
      if progress.byteSize = 0 then
        (invalid "empty_file" "Uploaded file must not be empty.", rest)
      else
        (.ok {
          body := progress.body
          contentHash := platform.sha256 progress.hashed
          byteSize := progress.byteSize
          head := progress.head
          tail := progress.tail
        }, rest)

-----------------------------------------------------------------------------------------
-- Content checks
-----------------------------------------------------------------------------------------

/-- An ASCII byte literal. -/
def ascii (text : String) : Bytes := text.toList.map (fun c => c.toNat.toUInt8)

/-- `_validate_pdf`. -/
def validatePdf (head : Bytes) : Except Exn Unit :=
  if !(ascii "%PDF-").isPrefixOf head then
    invalid "invalid_file_signature" "PDF signature is invalid."
  else if head.length < 8
      || !(["1.0", "1.1", "1.2", "1.3", "1.4", "1.5", "1.6", "1.7", "2.0"].map ascii).contains
          ((head.drop 5).take 3) then
    invalid "malformed_file" "PDF header is malformed."
  else .ok ()

/-- `_validate_png`. -/
def validatePng (head : Bytes) : Except Exn Unit :=
  if !([0x89, 0x50, 0x4E, 0x47, 0x0D, 0x0A, 0x1A, 0x0A] : Bytes).isPrefixOf head then
    invalid "invalid_file_signature" "PNG signature is invalid."
  else .ok ()

/-- `_validate_jpeg`. -/
def validateJpeg (head tail : Bytes) : Except Exn Unit :=
  if !([0xFF, 0xD8] : Bytes).isPrefixOf head then
    invalid "invalid_file_signature" "JPEG signature is invalid."
  else if !([0xFF, 0xD9] : Bytes).isSuffixOf tail then
    invalid "malformed_file" "JPEG appears truncated."
  else .ok ()

/-- `data.decode("utf-8")`. -/
def decodeUtf8 (data : Bytes) : Option Text :=
  (String.fromUTF8? ⟨data.toArray⟩).map String.toList

/-- `_validate_text`. -/
def validateText (u : Unicode) (data : Bytes) (expectHtml : Bool) : Except Exn Unit :=
  if data.contains 0 then
    invalid "malformed_file" "Text upload contains null bytes."
  else
    match decodeUtf8 data with
    | none => invalid "malformed_file" "Text upload must be valid UTF-8."
    | some text =>
        let lowered := u.casefold text
        if expectHtml && !lowered.contains "<html".toList
            && !lowered.contains "<!doctype html".toList then
          invalid "malformed_file" "HTML upload is not structurally plausible."
        else .ok ()

/-- `_validate_zip_entry`. -/
def validateZipEntry (entry : ZipInfo) : Except Exn Unit :=
  let filename := entry.filename.replaceChar '\\' '/'
  if ['/'].isPrefixOf filename || "../".toList.isPrefixOf filename
      || filename.contains "/../".toList then
    invalid "malformed_file" "DOCX entry path is unsafe."
  else if entry.flagBits % 2 = 1 then
    invalid "malformed_file" "Encrypted DOCX files are not supported."
  else .ok ()

/-- The accumulating loop over the archive's entries. -/
def sumZipEntries : List ZipInfo → Nat → Nat → Except Exn (Nat × Nat)
  | [], uncompressed, compressed => .ok (uncompressed, compressed)
  | entry :: rest, uncompressed, compressed =>
      match validateZipEntry entry with
      | .error failure => .error failure
      | .ok () =>
          sumZipEntries rest (uncompressed + entry.fileSize)
            (compressed + max entry.compressSize 1)

/-- `_validate_docx`. Sizes are at most 50 MiB when the ratio is tested, so comparing the
float quotient with 100 is the integer comparison below. -/
def validateDocx (platform : Platform) (data : Bytes) : Except Exn Unit :=
  if !([0x50, 0x4B, 0x03, 0x04] : Bytes).isPrefixOf data then
    invalid "invalid_file_signature" "DOCX ZIP signature is invalid."
  else
    match platform.readZip data with
    | .badZipFile => invalid "malformed_file" "DOCX archive is malformed."
    | .raises => .error .zipReaderError
    | .entries infolist => do
        if infolist.length > docxMaxEntries then
          invalid "malformed_file" "DOCX contains too many entries."
        let names := infolist.map ZipInfo.filename
        if !names.contains "[Content_Types].xml".toList
            || !names.contains "word/document.xml".toList then
          invalid "malformed_file" "DOCX required entries are missing."
        let (uncompressed, compressed) ← sumZipEntries infolist 0 0
        if uncompressed > docxMaxUncompressedBytes then
          invalid "malformed_file" "DOCX is too large after decompression."
        if compressed = 0 then throw .zeroDivisionError
        if uncompressed > docxMaxCompressionRatio * compressed then
          invalid "malformed_file" "DOCX compression ratio is suspicious."

/-- `validate_streamed_content`. -/
def validateStreamedContent (platform : Platform) (metadata : NormalizedUploadMetadata)
    (upload : StreamedUpload)
    : Except Exn Unit :=
  match metadata.uploadType with
  | .pdf => validatePdf upload.head
  | .png => validatePng upload.head
  | .jpeg => validateJpeg upload.head upload.tail
  | .txt => validateText platform.unicode upload.body false
  | .html => validateText platform.unicode upload.body true
  | .docx => validateDocx platform upload.body

/-- The text that is hashed into the request fingerprint. -/
def fingerprintMaterial (contentHash : ContentHash) (filename mediaType : Text)
    (byteSize : Nat)
    : Text :=
  "sha256=".toList ++ contentHash.value ++ ";name=".toList ++ filename ++ ";type=".toList
    ++ mediaType ++ ";size=".toList ++ Nat.toDigits 10 byteSize

/-- `request_fingerprint`. -/
def requestFingerprint (platform : Platform) (contentHash : ContentHash)
    (filename mediaType : Text) (byteSize : Nat)
    : Text :=
  (platform.sha256
    ((fingerprintMaterial contentHash filename mediaType byteSize).flatMap
      String.utf8EncodeChar)).value

end WorkflowForge
