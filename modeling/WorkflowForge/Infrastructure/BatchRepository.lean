import WorkflowForge.Infrastructure.DocumentRepository

/-! The SQLAlchemy repository for batches and their document memberships. -/

namespace WorkflowForge

open Python Transactions

/-- `_batch_from_record`. -/
def batchFromRecord (u : Unicode) (record : Batch) : Except Exn Batch := Batch.postInit u record

/-- `_membership_from_record`. -/
def membershipFromRecord (record : BatchDocument) : Except Exn BatchDocument :=
  BatchDocument.postInit record

structure BatchListFilter where
  limit : Int := 25
  offset : Int := 0
  status : Option BatchStatus := none
  archived : Option Bool := none
  name : Option Text := none

/-- The conditions of `list_batches` besides the tenant. -/
def BatchListFilter.accepts (u : Unicode) (query : BatchListFilter) (record : Batch) : Bool :=
  statusMatches .archived query.status query.archived record.status
  && query.name.all (containsIlike u record.name)

/-- `_batch_record`: the row that a SELECT by tenant and id finds. -/
def batchRecord (db : Database) (organizationId batchId : UUID) : Option Batch :=
  (db.find? .batches batchId).filter (fun row => row.organizationId == organizationId)

/-- The listed batches, newest first. -/
def listedBatches (u : Unicode) (db : Database) (organizationId : UUID)
    (query : BatchListFilter)
    : List Batch :=
  newestFirst Batch.createdAt Batch.id
    (((db .batches).filter (fun row => row.organizationId == organizationId)).filter
      (query.accepts u))

/-- The memberships of a batch. -/
def batchMemberships (db : Database) (organizationId batchId : UUID) : List BatchDocument :=
  (db .batchDocuments).filter (fun row =>
    row.organizationId == organizationId && row.batchId == batchId)

namespace BatchRepository

variable (u : Unicode)

def add (batch : Batch) : App Batch := do
  enter .batchRepository
  insert .batches batch
  liftExcept (batchFromRecord u batch)

/-- The row of a lookup as a domain value. -/
def loaded : Option Batch → App (Option Batch)
  | none => return none
  | some record => return some (← liftExcept (batchFromRecord u record))

def get (organizationId batchId : UUID) : App (Option Batch) := do
  enter .batchRepository
  let db ← select (.batch organizationId batchId)
  loaded u (batchRecord db organizationId batchId)

def getForUpdate (organizationId batchId : UUID) : App (Option Batch) := do
  enter .batchRepository
  let db ←
    selectForUpdate .batches batchId (fun row => row.organizationId == organizationId)
  loaded u (batchRecord db organizationId batchId)

/-- The total is counted by a SELECT of its own. -/
def listBatches (organizationId : UUID) (query : BatchListFilter) : App (ListPage Batch) := do
  enter .batchRepository
  let counted ← select (.batches organizationId)
  let total := (listedBatches u counted organizationId query).length
  let db ← select (.batches organizationId)
  let rows ←
    liftExcept (page query.limit query.offset (listedBatches u db organizationId query))
  let items ← liftExcept (rows.mapM (batchFromRecord u))
  return { items, total, limit := query.limit, offset := query.offset }

/-- `update`: compare-and-swap on the lock version. The row count is not looked at. -/
def update (batch : Batch) : App Batch := do
  enter .batchRepository
  let _ ← WorkflowForge.update .batches batch.id (fun row =>
    if row.organizationId = batch.organizationId ∧ row.lockVersion + 1 = batch.lockVersion then
      some {
        row with
        name := batch.name
        description := batch.description
        status := batch.status
        externalReference := batch.externalReference
        updatedAt := batch.updatedAt
        updatedByUserId := batch.updatedByUserId
        archivedAt := batch.archivedAt
        archivedByUserId := batch.archivedByUserId
        lockVersion := batch.lockVersion
      }
    else none)
  return batch

/-- `_membership_record`. -/
def membershipRecord (organizationId batchId documentId : UUID)
    : App (Option BatchDocument) := do
  let db ← select (.batchDocument organizationId batchId documentId)
  scalarOneOrNone ((batchMemberships db organizationId batchId).filter (fun row =>
    row.documentId == documentId))

/-- `add_document`: insert a membership, or return the one that is already there. -/
def addDocument (membership : BatchDocument) : App BatchDocument := do
  enter .batchRepository
  let refused : Bool ←
    tryCatch (do
      insert .batchDocuments membership
      return false)
      (fun failure =>
        match failure with
        | .integrityError => return true
        | other => throw other)
  if refused then
    sessionRollback
    match ← membershipRecord membership.organizationId membership.batchId
        membership.documentId with
    | some existing => liftExcept (membershipFromRecord existing)
    | none => throw (.documentNotFound "Document was not found.")
  else liftExcept (membershipFromRecord membership)

/-- `remove_document`: whether a row was deleted. -/
def removeDocument (organizationId batchId documentId : UUID) : App Bool := do
  enter .batchRepository
  let rowcount ← delete .batchDocuments (fun row =>
    row.organizationId == organizationId && row.batchId == batchId
    && row.documentId == documentId)
  return rowcount != 0

def listDocuments (organizationId batchId : UUID) : App (List BatchDocument) := do
  enter .batchRepository
  let db ← select (.batchDocuments organizationId batchId)
  liftExcept
    ((newestFirst BatchDocument.addedAt BatchDocument.id
      (batchMemberships db organizationId batchId)).mapM membershipFromRecord)

end BatchRepository

end WorkflowForge
