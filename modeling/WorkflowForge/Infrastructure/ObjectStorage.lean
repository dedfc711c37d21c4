import WorkflowForge.Infrastructure.World

/-! The S3 adapter behind the object-storage port.
Each method makes its client calls one by one, so a failure can fall between them.
-/

namespace WorkflowForge

open Python

/-- Stored object metadata, as far as its readers use it. -/
structure StoredObjectMetadata where
  key : StorageObjectKey
  byteSize : Nat
  mediaType : Option Text
  deriving DecidableEq

structure PutTempObjectRequest where
  key : StorageObjectKey
  body : Bytes
  mediaType : Text

structure PromoteObjectRequest where
  sourceKey : StorageObjectKey
  destinationKey : StorageObjectKey
  mediaType : Option Text

structure DownloadUrl where
  url : Text
  expiresAt : Timestamp
  deriving DecidableEq

/-- `_require_prefix(key, "tmp/")`. -/
def requireTempPrefix (key : StorageObjectKey) : Except Exn Unit :=
  if "tmp/".toList.isPrefixOf key.value then .ok ()
  else .error (.objectStorageError "Object key must use the 'tmp/' prefix.")

/-- `_require_final_key`. -/
def requireFinalKey (key : StorageObjectKey) : Except Exn Unit :=
  if "documents/".toList.isPrefixOf key.value || "artifacts/".toList.isPrefixOf key.value then
    .ok ()
  else .error (.objectStorageError "Final object key must be a document or artifact key.")

namespace ObjectStorage

/-- The body of `head_object`, which other methods of the adapter also call. -/
def lookup (key : StorageObjectKey) : App (Option StoredObjectMetadata) := do
  let answer : HeadAnswer ← perform (.headObject key.value)
  match answer with
  | .found byteSize mediaType => return some { key, byteSize, mediaType }
  | .missing => return none
  | .failed => throw (.objectStorageError "Object metadata lookup failed.")

def headObject (key : StorageObjectKey) : App (Option StoredObjectMetadata) := do
  enter .headObject
  lookup key

def deleteObject (key : StorageObjectKey) : App Unit := do
  enter .deleteObject
  let deleted : Bool ← perform (.deleteObject key.value)
  if !deleted then throw (.objectStorageError "Object deletion failed.")

/-- `create_download_url`: the lifetime is bounded before the client signs anything. -/
def createDownloadUrl (key : StorageObjectKey) (expiresInSeconds : Int) (now : Timestamp)
    : App DownloadUrl := do
  enter .createDownloadUrl
  if expiresInSeconds ≤ 0 ∨ expiresInSeconds > 3600 then
    throw (.objectStorageError "Download URL expiry must be between 1 and 3600 seconds.")
  let signed : Option Text ← perform (.presignUrl key.value expiresInSeconds)
  match signed with
  | none => throw (.objectStorageError "Download URL creation failed.")
  | some url => return { url, expiresAt := now + expiresInSeconds * 1000000 }

def putTempStream (request : PutTempObjectRequest) : App StoredObjectMetadata := do
  enter .putTempStream
  liftExcept (requireTempPrefix request.key)
  let written : Bool ← perform (.putObject request.key.value request.body request.mediaType)
  if !written then throw (.objectStorageError "Temporary object write failed.")
  match ← lookup request.key with
  | some metadata => return metadata
  | none => return { key := request.key, byteSize := 0, mediaType := some request.mediaType }

/-- `promote_temp_object`: copy, delete the temporary object, look the copy up. -/
def promoteTempObject (request : PromoteObjectRequest) : App StoredObjectMetadata := do
  enter .promoteTempObject
  liftExcept (requireTempPrefix request.sourceKey)
  liftExcept (requireFinalKey request.destinationKey)
  let copied : Bool ←
    perform (.copyObject request.sourceKey.value request.destinationKey.value request.mediaType)
  if !copied then throw (.objectPromotionError "Object promotion failed.")
  let deleted : Bool ← perform (.deleteObject request.sourceKey.value)
  if !deleted then throw (.objectPromotionError "Object promotion failed.")
  match ← lookup request.destinationKey with
  | some metadata => return metadata
  | none => throw (.objectPromotionError "Promoted object was not found.")

end ObjectStorage

end WorkflowForge
