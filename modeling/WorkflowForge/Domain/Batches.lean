import WorkflowForge.Domain.Documents

/-! The batch domain model. -/

namespace WorkflowForge

open Python

inductive BatchStatus where
  | open
  | closed
  | archived
  deriving DecidableEq, Repr

/-- The common body of the two `_bounded_text` helpers; `raise` is the module's error. -/
def boundedText (u : Unicode) (raise : String → Exn) (value : Option Text)
    (fieldName : String) (maxLength : Nat) (optional : Bool)
    : Except Exn (Option Text) :=
  match value with
  | none =>
      if optional then .ok none else .error (raise (fieldName ++ " is required."))
  | some text =>
      let normalized := u.collapse (u.strip text)
      if normalized = [] then
        if optional then .ok none else .error (raise (fieldName ++ " is required."))
      else if normalized.length > maxLength then
        .error (raise (fieldName ++ " must be at most " ++ toString maxLength ++ " characters."))
      else .ok (some normalized)

/-- A required text field. -/
def requiredText (u : Unicode) (raise : String → Exn) (value : Text) (fieldName : String)
    (maxLength : Nat)
    : Except Exn Text := do
  match ← boundedText u raise (some value) fieldName maxLength false with
  | some text => return text
  | none => throw (raise (fieldName ++ " is required."))

/-- `_validate_uuid` of the batch module. -/
def validateBatchUuid (value : UUID) (fieldName : String) : Except Exn Unit :=
  if value = 0 then .error (.batchError (fieldName ++ " must not be the nil UUID."))
  else .ok ()

structure Batch where
  id : UUID
  organizationId : UUID
  name : Text
  description : Option Text
  status : BatchStatus
  externalReference : Option Text
  createdAt : Timestamp
  createdByUserId : UUID
  updatedAt : Timestamp
  updatedByUserId : UUID
  archivedAt : Option Timestamp
  archivedByUserId : Option UUID
  lockVersion : Nat
  deriving DecidableEq

/-- The archive metadata agrees with the status. -/
def Batch.validateArchive (self : Batch) : Except Exn Unit :=
  if self.status = .archived then
    if self.archivedAt.isNone || self.archivedByUserId.isNone then
      .error (.batchError "Archived batches require archive metadata.")
    else .ok ()
  else if self.archivedAt.isSome || self.archivedByUserId.isSome then
    .error (.batchError "Only archived batches may carry archive metadata.")
  else .ok ()

def Batch.postInit (u : Unicode) (self : Batch) : Except Exn Batch := do
  validateBatchUuid self.organizationId "Batch organization identifier"
  validateBatchUuid self.createdByUserId "Batch creator identifier"
  validateBatchUuid self.updatedByUserId "Batch updater identifier"
  let name ← requiredText u .batchError self.name "Batch name" 255
  let description ← boundedText u .batchError self.description "Batch description" 2000 true
  let externalReference ←
    boundedText u .batchError self.externalReference "Batch external reference" 255 true
  if self.lockVersion ≤ 0 then
    throw (.batchError "Batch lock version must be positive.")
  self.validateArchive
  return { self with name, description, externalReference }

/-- `Batch.create`. -/
def Batch.create (u : Unicode) (id organizationId : UUID) (name : Text)
    (description externalReference : Option Text) (createdByUserId : UUID)
    (timestamp : Timestamp)
    : Except Exn Batch :=
  Batch.postInit u {
    id, organizationId, name, description
    status := .open
    externalReference
    createdAt := timestamp
    createdByUserId
    updatedAt := timestamp
    updatedByUserId := createdByUserId
    archivedAt := none
    archivedByUserId := none
    lockVersion := 1
  }

/-- `_ensure_mutable`. -/
def Batch.ensureMutable (self : Batch) : Except Exn Unit :=
  if self.status = .archived then
    .error (.archivedBatchMutation "Archived batches reject ordinary mutation.")
  else .ok ()

def Batch.update (u : Unicode) (self : Batch) (name description externalReference : Option Text)
    (actorUserId : UUID) (timestamp : Timestamp)
    : Except Exn Batch := do
  self.ensureMutable
  validateBatchUuid actorUserId "Batch mutation actor identifier"
  Batch.postInit u {
    self with
    name := name.getD self.name
    description
    externalReference
    updatedAt := timestamp
    updatedByUserId := actorUserId
    lockVersion := self.lockVersion + 1
  }

def Batch.archive (u : Unicode) (self : Batch) (actorUserId : UUID) (timestamp : Timestamp)
    : Except Exn Batch := do
  self.ensureMutable
  Batch.postInit u {
    self with
    status := .archived
    archivedAt := some timestamp
    archivedByUserId := some actorUserId
    updatedAt := timestamp
    updatedByUserId := actorUserId
    lockVersion := self.lockVersion + 1
  }

/-- Document membership in a batch. -/
structure BatchDocument where
  id : UUID
  organizationId : UUID
  batchId : UUID
  documentId : UUID
  addedAt : Timestamp
  addedByUserId : UUID
  deriving DecidableEq

def BatchDocument.postInit (self : BatchDocument) : Except Exn BatchDocument := do
  validateBatchUuid self.organizationId "Batch document organization identifier"
  validateBatchUuid self.addedByUserId "Batch document actor identifier"
  return self

end WorkflowForge
