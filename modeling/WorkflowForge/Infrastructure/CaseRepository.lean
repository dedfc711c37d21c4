import WorkflowForge.Infrastructure.DocumentRepository

/-! The SQLAlchemy repository for cases, their tasks and their child records. -/

namespace WorkflowForge

open Python Transactions

/-- `_case`. -/
def caseFromRecord (u : Unicode) (record : Case) : Except Exn Case := Case.postInit u record

structure CaseListFilter where
  limit : Int := 25
  offset : Int := 0
  status : Option CaseStatus := none
  priority : Option CasePriority := none
  archived : Option Bool := none
  title : Option Text := none

/-- The conditions of `list_cases` besides the tenant. -/
def CaseListFilter.accepts (u : Unicode) (query : CaseListFilter) (record : Case) : Bool :=
  statusMatches .archived query.status query.archived record.status
  && query.priority.all (· == record.priority)
  && query.title.all (containsIlike u record.title)

/-- `_record`: the row that a SELECT by tenant and id finds. -/
def caseRecord (db : Database) (organizationId caseId : UUID) : Option Case :=
  (db.find? .cases caseId).filter (fun row => row.organizationId == organizationId)

/-- The listed cases, newest first. -/
def listedCases (u : Unicode) (db : Database) (organizationId : UUID) (query : CaseListFilter)
    : List Case :=
  newestFirst Case.createdAt Case.id
    (((db .cases).filter (fun row => row.organizationId == organizationId)).filter
      (query.accepts u))

/-- The memberships of a case. -/
def caseMemberships (db : Database) (organizationId caseId : UUID) : List CaseDocument :=
  (db .caseDocuments).filter (fun row =>
    row.organizationId == organizationId && row.caseId == caseId)

/-- The task that `get_task_for_update` selects. -/
def taskRecord (db : Database) (organizationId caseId taskId : UUID) : Option CaseTask :=
  (db.find? .caseTasks taskId).filter (fun row =>
    row.organizationId == organizationId && row.caseId == caseId)

namespace CaseRepository

variable (u : Unicode)

def add (case : Case) : App Case := do
  enter .caseRepository
  insert .cases case
  liftExcept (caseFromRecord u case)

/-- The row of a lookup as a domain value. -/
def loaded : Option Case → App (Option Case)
  | none => return none
  | some record => return some (← liftExcept (caseFromRecord u record))

def get (organizationId caseId : UUID) : App (Option Case) := do
  enter .caseRepository
  let db ← select (.case organizationId caseId)
  loaded u (caseRecord db organizationId caseId)

def getForUpdate (organizationId caseId : UUID) : App (Option Case) := do
  enter .caseRepository
  let db ←
    selectForUpdate .cases caseId (fun row => row.organizationId == organizationId)
  loaded u (caseRecord db organizationId caseId)

/-- The total is counted by a SELECT of its own. -/
def listCases (organizationId : UUID) (query : CaseListFilter) : App (ListPage Case) := do
  enter .caseRepository
  let counted ← select (.cases organizationId)
  let total := (listedCases u counted organizationId query).length
  let db ← select (.cases organizationId)
  let rows ←
    liftExcept (page query.limit query.offset (listedCases u db organizationId query))
  let items ← liftExcept (rows.mapM (caseFromRecord u))
  return { items, total, limit := query.limit, offset := query.offset }

/-- `update`: compare-and-swap on the lock version. The row count is not looked at. -/
def update (case : Case) : App Case := do
  enter .caseRepository
  let _ ← WorkflowForge.update .cases case.id (fun row =>
    if row.organizationId = case.organizationId ∧ row.lockVersion + 1 = case.lockVersion then
      some {
        row with
        title := case.title
        summary := case.summary
        status := case.status
        priority := case.priority
        externalReference := case.externalReference
        updatedAt := case.updatedAt
        updatedByUserId := case.updatedByUserId
        closedAt := case.closedAt
        closedByUserId := case.closedByUserId
        archivedAt := case.archivedAt
        archivedByUserId := case.archivedByUserId
        lockVersion := case.lockVersion
      }
    else none)
  return case

/-- `_membership`. -/
def membershipRecord (organizationId caseId documentId : UUID) : App (Option CaseDocument) := do
  let db ← select (.caseDocument organizationId caseId documentId)
  scalarOneOrNone ((caseMemberships db organizationId caseId).filter (fun row =>
    row.documentId == documentId))

/-- `add_document`: insert a membership, or return the one that is already there. -/
def addDocument (membership : CaseDocument) : App CaseDocument := do
  enter .caseRepository
  let refused : Bool ←
    tryCatch (do
      insert .caseDocuments membership
      return false)
      (fun failure =>
        match failure with
        | .integrityError => return true
        | other => throw other)
  if refused then
    sessionRollback
    match ← membershipRecord membership.organizationId membership.caseId
        membership.documentId with
    | some existing => return existing
    | none => throw (.documentNotFound "Document was not found.")
  else return membership

/-- `remove_document`: whether a row was deleted. -/
def removeDocument (organizationId caseId documentId : UUID) : App Bool := do
  enter .caseRepository
  let rowcount ← delete .caseDocuments (fun row =>
    row.organizationId == organizationId && row.caseId == caseId
    && row.documentId == documentId)
  return rowcount != 0

def listDocuments (organizationId caseId : UUID) : App (List CaseDocument) := do
  enter .caseRepository
  let db ← select (.caseDocuments organizationId caseId)
  return caseMemberships db organizationId caseId

def addComment (comment : CaseComment) : App CaseComment := do
  enter .caseRepository
  insert .caseComments comment
  return comment

def listComments (organizationId caseId : UUID) : App (List CaseComment) := do
  enter .caseRepository
  let db ← select (.caseComments organizationId caseId)
  return (db .caseComments).filter (fun row =>
    row.organizationId == organizationId && row.caseId == caseId)

def addTask (task : CaseTask) : App CaseTask := do
  enter .caseRepository
  insert .caseTasks task
  return task

def getTaskForUpdate (organizationId caseId taskId : UUID) : App (Option CaseTask) := do
  enter .caseRepository
  let db ← selectForUpdate .caseTasks taskId (fun row =>
    row.organizationId == organizationId && row.caseId == caseId)
  return taskRecord db organizationId caseId taskId

/-- `update_task`: compare-and-swap like `update`, also on the case. -/
def updateTask (task : CaseTask) : App CaseTask := do
  enter .caseRepository
  let _ ← WorkflowForge.update .caseTasks task.id (fun row =>
    if row.organizationId = task.organizationId ∧ row.caseId = task.caseId
        ∧ row.lockVersion + 1 = task.lockVersion then
      some {
        row with
        title := task.title
        description := task.description
        status := task.status
        assignedToUserId := task.assignedToUserId
        dueAt := task.dueAt
        completedAt := task.completedAt
        completedByUserId := task.completedByUserId
        updatedAt := task.updatedAt
        updatedByUserId := task.updatedByUserId
        lockVersion := task.lockVersion
      }
    else none)
  return task

def listTasks (organizationId caseId : UUID) : App (List CaseTask) := do
  enter .caseRepository
  let db ← select (.caseTasks organizationId caseId)
  return (db .caseTasks).filter (fun row =>
    row.organizationId == organizationId && row.caseId == caseId)

def addDecision (decision : CaseDecision) : App CaseDecision := do
  enter .caseRepository
  insert .caseDecisions decision
  return decision

def listDecisions (organizationId caseId : UUID) : App (List CaseDecision) := do
  enter .caseRepository
  let db ← select (.caseDecisions organizationId caseId)
  return (db .caseDecisions).filter (fun row =>
    row.organizationId == organizationId && row.caseId == caseId)

end CaseRepository

end WorkflowForge
