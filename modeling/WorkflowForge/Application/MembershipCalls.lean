import WorkflowForge.Application.DocumentMemberships
import WorkflowForge.Domain.Aggregates

/-! The `add_document` and `remove_document` calls of batches and cases. -/

namespace WorkflowForge

open Python Transactions Concurrency

/-- What documents are added to. -/
inductive Aggregate where
  | batch (id : UUID)
  | case (id : UUID)
  deriving DecidableEq, Repr

/-- The calls of both services that write memberships. -/
inductive MembershipCall where
  | addToBatch (command : BatchDocumentCommand)
  | removeFromBatch (command : BatchDocumentCommand)
  | addToCase (command : CaseDocumentCommand)
  | removeFromCase (command : CaseDocumentCommand)

namespace MembershipCall

def call : MembershipCall → ServiceCall
  | addToBatch command => .batches (.addDocument command)
  | removeFromBatch command => .batches (.removeDocument command)
  | addToCase command => .cases (.addDocument command)
  | removeFromCase command => .cases (.removeDocument command)

def aggregate : MembershipCall → Aggregate
  | addToBatch command => .batch command.batchId
  | removeFromBatch command => .batch command.batchId
  | addToCase command => .case command.caseId
  | removeFromCase command => .case command.caseId

def documentId : MembershipCall → UUID
  | addToBatch command => command.documentId
  | removeFromBatch command => command.documentId
  | addToCase command => command.documentId
  | removeFromCase command => command.documentId

def adds : MembershipCall → Bool
  | addToBatch _ | addToCase _ => true
  | removeFromBatch _ | removeFromCase _ => false

end MembershipCall

/-- The organization has the aggregate. -/
def ownsAggregate (db : Database) (organizationId : UUID) : Aggregate → Bool
  | .batch id => hasBatch db organizationId id
  | .case id => hasCase db organizationId id

/-- The ids of the memberships of a document in an aggregate. -/
def membershipIds (db : Database) : Aggregate → UUID → List UUID
  | .batch id => batchMembershipTable.ids db id
  | .case id => caseMembershipTable.ids db id

/-- The documents of each aggregate. -/
def memberSets (db : Database) : Aggregate → Set UUID
  | .batch id => batchMembershipTable.members db id
  | .case id => caseMembershipTable.members db id

/-- The membership that `add_document` returned. -/
def ServiceReply.membershipId? : ServiceReply → Option UUID
  | .batches (.membership membership) => some membership.id
  | .cases (.membership membership) => some membership.id
  | _ => none

/-- What `remove_document` returned. -/
def ServiceReply.removed? : ServiceReply → Option Bool
  | .batches (.removed removed) => some removed
  | .cases (.removed removed) => some removed
  | _ => none

/-- Both membership tables are the same. -/
def SameMemberships (db db' : Database) : Prop :=
  db' .batchDocuments = db .batchDocuments ∧ db' .caseDocuments = db .caseDocuments

-----------------------------------------------------------------------------------------
-- One call
-----------------------------------------------------------------------------------------

/-- What a returning call does to the tables. -/
def MembershipCall.Effect (tenant : TenantContext)
    : MembershipCall → Database → ServiceReply → Database → Prop
  | addToBatch command, db, reply, db' =>
      ∃ saved,
        reply = .batches (.membership saved)
        ∧ batchMembershipTable.Adds db db' tenant.organizationId command.batchId
            command.documentId saved
  | removeFromBatch command, db, reply, db' =>
      ∃ removed,
        reply = .batches (.removed removed)
        ∧ batchMembershipTable.Removes db db' tenant.organizationId command.batchId
            command.documentId removed
  | addToCase command, db, reply, db' =>
      ∃ saved,
        reply = .cases (.membership saved)
        ∧ caseMembershipTable.Adds db db' tenant.organizationId command.caseId
            command.documentId saved
  | removeFromCase command, db, reply, db' =>
      ∃ removed,
        reply = .cases (.removed removed)
        ∧ caseMembershipTable.Removes db db' tenant.organizationId command.caseId
            command.documentId removed

/-- A row that is found by its id and its organization. -/
theorem owned_of_found {t : TableName} {organizationOf : TableRow t → UUID} {db : Database}
    {organizationId id : UUID} {row : TableRow t}
    (found
      : (Db.find? db t id).filter (fun row => organizationOf row == organizationId) = some row)
    : (db t).any (fun row => organizationOf row == organizationId && primaryKey t row == id)
      = true := by
  obtain ⟨present, owner⟩ := Option.filter_eq_some_iff.mp found
  refine List.any_eq_true.mpr ⟨row, Db.mem_of_find? present, ?_⟩
  rw [Bool.and_eq_true]
  exact ⟨owner, beq_iff_eq.mpr (Db.find?_key present)⟩

section Calls

variable {services : Services} {tenant : TenantContext} {i : Nat} {world after : World}

/-- A looked-up batch is one of the tenant's. -/
theorem BatchService.get_yields {batchId : UUID} {batch : Batch}
    (returned : Yields i (BatchService.get services batchId tenant) world batch after)
    : hasBatch (world.store.view i) tenant.organizationId batchId = true
      ∧ after.store = world.store.opening i := by
  obtain ⟨_, _, required, returned⟩ := Returns.bind_iff.mp returned
  obtain ⟨-, rfl⟩ := Yields.liftExcept_iff.mp required
  obtain ⟨found, _, looked, returned⟩ := Returns.bind_iff.mp returned
  obtain ⟨-, loaded⟩ := Yields.selected_iff.mp looked
  cases found with
  | none => exact (Returns.throw_iff.mp returned).elim
  | some batch' =>
      obtain ⟨-, rfl⟩ := Returns.pure_iff.mp returned
      cases record : batchRecord (world.store.view i) tenant.organizationId batchId with
      | none =>
          rw [record] at loaded
          cases (Returns.pure_iff.mp loaded).1
      | some row =>
          rw [record] at loaded
          obtain ⟨-, rfl⟩ := Yields.wrapped_iff.mp loaded
          exact ⟨owned_of_found (t := .batches) record, rfl⟩

/-- A looked-up case is one of the tenant's. -/
theorem CaseService.get_yields {caseId : UUID} {case : Case}
    (returned : Yields i (CaseService.get services caseId tenant) world case after)
    : hasCase (world.store.view i) tenant.organizationId caseId = true
      ∧ after.store = world.store.opening i := by
  obtain ⟨_, _, required, returned⟩ := Returns.bind_iff.mp returned
  obtain ⟨-, rfl⟩ := Yields.liftExcept_iff.mp required
  obtain ⟨found, _, looked, returned⟩ := Returns.bind_iff.mp returned
  obtain ⟨-, loaded⟩ := Yields.selected_iff.mp looked
  cases found with
  | none => exact (Returns.throw_iff.mp returned).elim
  | some case' =>
      obtain ⟨-, rfl⟩ := Returns.pure_iff.mp returned
      cases record : caseRecord (world.store.view i) tenant.organizationId caseId with
      | none =>
          rw [record] at loaded
          cases (Returns.pure_iff.mp loaded).1
      | some row =>
          rw [record] at loaded
          obtain ⟨-, rfl⟩ := Yields.wrapped_iff.mp loaded
          exact ⟨owned_of_found (t := .cases) record, rfl⟩

/-- The handler of `add_document` raises what it caught. -/
theorem BatchService.addDocument_rethrows (failure : Exn) (middle : World)
    (value : BatchDocument) (after : World)
    : ¬ Yields i
        (match failure with
          | .documentNotFound message => do
              rollback
              throw (.documentNotFound message)
          | other => throw other) middle value after := by
  intro caught
  cases failure with
  | documentNotFound message =>
      obtain ⟨_, _, -, thrown⟩ := Returns.bind_iff.mp caught
      exact Returns.throw_iff.mp thrown
  | _ => exact Returns.throw_iff.mp caught

theorem BatchService.addDocument_adds {command : BatchDocumentCommand} {saved : BatchDocument}
    (lawful : Store.Lawful i world.store) (fresh : world.store.own i = [])
    (returned : Yields i (BatchService.addDocument services command tenant) world saved after)
    : batchMembershipTable.Adds world.store.committed after.store.committed
        tenant.organizationId command.batchId command.documentId saved := by
  obtain ⟨_, _, required, returned⟩ := Returns.bind_iff.mp returned
  obtain ⟨-, rfl⟩ := Yields.liftExcept_iff.mp required
  obtain ⟨_, middle, looked, returned⟩ := Returns.bind_iff.mp returned
  obtain ⟨-, same⟩ := BatchService.get_yields looked
  obtain ⟨id, _, drawn, returned⟩ := Returns.bind_iff.mp returned
  obtain ⟨-, rfl⟩ := Yields.newUuid_iff.mp drawn
  obtain ⟨addedAt, _, timed, returned⟩ := Returns.bind_iff.mp returned
  obtain ⟨-, rfl⟩ := Yields.nowOr_iff.mp timed
  obtain ⟨membership, _, built, returned⟩ := Returns.bind_iff.mp returned
  obtain ⟨constructed, rfl⟩ := Yields.liftExcept_iff.mp built
  obtain rfl := BatchDocument.postInit_eq_ok constructed
  have handled := (Returns.tryCatch_iff BatchService.addDocument_rethrows).mp returned
  rw [BatchRepository.addDocument_eq] at handled
  have records : ∀ saved : BatchDocument,
      Recording i (BatchService.recordBatchEvent services .batchDocumentAdded tenant
        command.batchId command.auditContext saved.addedAt
        [("document_id", .uuid command.documentId)]) :=
    fun saved => recordEvent_recording services i _ _ _ _ _ _
  have adds := MembershipTable.saving_adds
    (fun _ _ loaded => (BatchDocument.postInit_eq_ok loaded).symm) records
    (by rw [World.timing_store, World.drawing_store, same]; exact lawful.opening)
    (by rw [World.timing_store, World.drawing_store, same]; exact fresh) handled
  rw [World.timing_store, World.drawing_store, same] at adds
  exact adds

theorem BatchService.removeDocument_removes {command : BatchDocumentCommand} {removed : Bool}
    (fresh : world.store.own i = [])
    (returned
      : Yields i (BatchService.removeDocument services command tenant) world removed after)
    : batchMembershipTable.Removes world.store.committed after.store.committed
        tenant.organizationId command.batchId command.documentId removed := by
  obtain ⟨_, _, required, returned⟩ := Returns.bind_iff.mp returned
  obtain ⟨-, rfl⟩ := Yields.liftExcept_iff.mp required
  obtain ⟨_, middle, looked, returned⟩ := Returns.bind_iff.mp returned
  obtain ⟨owned, same⟩ := BatchService.get_yields looked
  rw [Store.view_of_own_nil fresh] at owned
  rw [BatchRepository.removeDocument_eq] at returned
  have records : ∀ removed now,
      Recording i (BatchService.recordBatchEvent services .batchDocumentRemoved tenant
        command.batchId command.auditContext now
        [("document_id", .uuid command.documentId), ("removed", .bool removed)]) :=
    fun removed now => recordEvent_recording services i _ _ _ _ _ _
  have removes := MembershipTable.removing_removes records
    (by rw [same]; exact fresh) (by rw [same]; exact owned) returned
  rw [same] at removes
  exact removes

theorem CaseService.addDocument_adds {command : CaseDocumentCommand} {saved : CaseDocument}
    (lawful : Store.Lawful i world.store) (fresh : world.store.own i = [])
    (returned : Yields i (CaseService.addDocument services command tenant) world saved after)
    : caseMembershipTable.Adds world.store.committed after.store.committed
        tenant.organizationId command.caseId command.documentId saved := by
  obtain ⟨_, _, required, returned⟩ := Returns.bind_iff.mp returned
  obtain ⟨-, rfl⟩ := Yields.liftExcept_iff.mp required
  obtain ⟨_, middle, looked, returned⟩ := Returns.bind_iff.mp returned
  obtain ⟨-, same⟩ := CaseService.get_yields looked
  obtain ⟨id, _, drawn, returned⟩ := Returns.bind_iff.mp returned
  obtain ⟨-, rfl⟩ := Yields.newUuid_iff.mp drawn
  obtain ⟨addedAt, _, timed, returned⟩ := Returns.bind_iff.mp returned
  obtain ⟨-, rfl⟩ := Yields.nowOr_iff.mp timed
  rw [CaseRepository.addDocument_eq] at returned
  have records : ∀ saved : CaseDocument,
      Recording i (CaseService.recordCaseEvent services .caseDocumentAdded tenant
        command.caseId command.auditContext saved.addedAt
        [("document_id", .uuid command.documentId)]) :=
    fun saved => recordEvent_recording services i _ _ _ _ _ _
  have adds := MembershipTable.saving_adds
    (fun _ _ loaded => (Except.ok.inj loaded).symm) records
    (by rw [World.timing_store, World.drawing_store, same]; exact lawful.opening)
    (by rw [World.timing_store, World.drawing_store, same]; exact fresh) returned
  rw [World.timing_store, World.drawing_store, same] at adds
  exact adds

theorem CaseService.removeDocument_removes {command : CaseDocumentCommand} {removed : Bool}
    (fresh : world.store.own i = [])
    (returned
      : Yields i (CaseService.removeDocument services command tenant) world removed after)
    : caseMembershipTable.Removes world.store.committed after.store.committed
        tenant.organizationId command.caseId command.documentId removed := by
  obtain ⟨_, _, required, returned⟩ := Returns.bind_iff.mp returned
  obtain ⟨-, rfl⟩ := Yields.liftExcept_iff.mp required
  obtain ⟨_, middle, looked, returned⟩ := Returns.bind_iff.mp returned
  obtain ⟨owned, same⟩ := CaseService.get_yields looked
  rw [Store.view_of_own_nil fresh] at owned
  rw [CaseRepository.removeDocument_eq] at returned
  have records : ∀ removed now,
      Recording i (CaseService.recordCaseEvent services .caseDocumentRemoved tenant
        command.caseId command.auditContext now
        [("document_id", .uuid command.documentId), ("removed", .bool removed)]) :=
    fun removed now => recordEvent_recording services i _ _ _ _ _ _
  have removes := MembershipTable.removing_removes records
    (by rw [same]; exact fresh) (by rw [same]; exact owned) returned
  rw [same] at removes
  exact removes

/-- The effect of a call that returns. -/
theorem MembershipCall.effect {call : MembershipCall} {reply : ServiceReply}
    (lawful : Store.Lawful i world.store) (fresh : world.store.own i = [])
    (returned : Yields i (call.call.useCase services tenant) world reply after)
    : call.Effect tenant world.store.committed reply after.store.committed := by
  cases call with
  | addToBatch command =>
      obtain ⟨_, _, called, wrapped⟩ := Returns.bind_iff.mp returned
      obtain ⟨saved, _, added, named⟩ := Returns.bind_iff.mp called
      obtain ⟨rfl, rfl⟩ := Returns.pure_iff.mp named
      obtain ⟨rfl, rfl⟩ := Returns.pure_iff.mp wrapped
      exact ⟨saved, rfl, BatchService.addDocument_adds lawful fresh added⟩
  | removeFromBatch command =>
      obtain ⟨_, _, called, wrapped⟩ := Returns.bind_iff.mp returned
      obtain ⟨removed, _, deleted, named⟩ := Returns.bind_iff.mp called
      obtain ⟨rfl, rfl⟩ := Returns.pure_iff.mp named
      obtain ⟨rfl, rfl⟩ := Returns.pure_iff.mp wrapped
      exact ⟨removed, rfl, BatchService.removeDocument_removes fresh deleted⟩
  | addToCase command =>
      obtain ⟨_, _, called, wrapped⟩ := Returns.bind_iff.mp returned
      obtain ⟨saved, _, added, named⟩ := Returns.bind_iff.mp called
      obtain ⟨rfl, rfl⟩ := Returns.pure_iff.mp named
      obtain ⟨rfl, rfl⟩ := Returns.pure_iff.mp wrapped
      exact ⟨saved, rfl, CaseService.addDocument_adds lawful fresh added⟩
  | removeFromCase command =>
      obtain ⟨_, _, called, wrapped⟩ := Returns.bind_iff.mp returned
      obtain ⟨removed, _, deleted, named⟩ := Returns.bind_iff.mp called
      obtain ⟨rfl, rfl⟩ := Returns.pure_iff.mp named
      obtain ⟨rfl, rfl⟩ := Returns.pure_iff.mp wrapped
      exact ⟨removed, rfl, CaseService.removeDocument_removes fresh deleted⟩

theorem BatchService.get_drafts (batchId : UUID)
    : Drafts (BatchService.get services batchId tenant) := by
  refine Drafts.andThen (Drafts.liftExcept _) (fun _ => Drafts.andThen ?_ (fun found => ?_))
  · refine Drafts.andThen (Drafts.enter _) (fun _ => ?_)
    refine Drafts.andThen (Drafts.select _) (fun db => ?_)
    cases batchRecord db tenant.organizationId batchId with
    | none => exact Drafts.pure _
    | some record => exact Drafts.andThen (Drafts.liftExcept _) (fun _ => Drafts.pure _)
  · cases found with
    | none => exact Drafts.throw _
    | some batch => exact Drafts.pure _

theorem CaseService.get_drafts (caseId : UUID)
    : Drafts (CaseService.get services caseId tenant) := by
  refine Drafts.andThen (Drafts.liftExcept _) (fun _ => Drafts.andThen ?_ (fun found => ?_))
  · refine Drafts.andThen (Drafts.enter _) (fun _ => ?_)
    refine Drafts.andThen (Drafts.select _) (fun db => ?_)
    cases caseRecord db tenant.organizationId caseId with
    | none => exact Drafts.pure _
    | some record => exact Drafts.andThen (Drafts.liftExcept _) (fun _ => Drafts.pure _)
  · cases found with
    | none => exact Drafts.throw _
    | some case => exact Drafts.pure _

/-- COMMIT is the last operation of every call that returns. -/
theorem MembershipCall.commitsLast (call : MembershipCall)
    : CommitsLast (call.call.useCase services tenant) := by
  cases call with
  | addToBatch command =>
      refine .map (.map ?_ _) _
      refine .andThen (Drafts.liftExcept _) (fun _ => .andThen (BatchService.get_drafts _) (fun _ =>
        .andThen Drafts.newUuid (fun _ => .andThen Drafts.now (fun _ =>
          .andThen (Drafts.liftExcept _) (fun membership => .tryCatch ?_ (fun failure => ?_))))))
      · rw [BatchRepository.addDocument_eq]
        exact MembershipTable.saving_commitsLast
          (fun _ => recordEvent_drafts services _ _ _ _ _ _) _
      · cases failure with
        | documentNotFound message =>
            exact Drafts.andThen Drafts.rollback (fun _ => Drafts.throw _)
        | _ => exact Drafts.throw _
  | removeFromBatch command =>
      refine .map (.map ?_ _) _
      refine .andThen (Drafts.liftExcept _) (fun _ => ?_)
      refine .andThen (BatchService.get_drafts _) (fun _ => ?_)
      rw [BatchRepository.removeDocument_eq]
      exact MembershipTable.removing_commitsLast
        (fun _ _ => recordEvent_drafts services _ _ _ _ _ _) _ _ _
  | addToCase command =>
      refine .map (.map ?_ _) _
      refine .andThen (Drafts.liftExcept _) (fun _ => .andThen (CaseService.get_drafts _) (fun _ =>
        .andThen Drafts.newUuid (fun _ => .andThen Drafts.now (fun _ => ?_))))
      rw [CaseRepository.addDocument_eq]
      exact MembershipTable.saving_commitsLast
        (fun _ => recordEvent_drafts services _ _ _ _ _ _) _
  | removeFromCase command =>
      refine .map (.map ?_ _) _
      refine .andThen (Drafts.liftExcept _) (fun _ => ?_)
      refine .andThen (CaseService.get_drafts _) (fun _ => ?_)
      rw [CaseRepository.removeDocument_eq]
      exact MembershipTable.removing_commitsLast
        (fun _ _ => recordEvent_drafts services _ _ _ _ _ _) _ _ _

end Calls

-----------------------------------------------------------------------------------------
-- Calls that return
-----------------------------------------------------------------------------------------

/-- The tenant has the aggregate, and its row loads. -/
def AggregateLoads (u : Unicode) (db : Database) (organizationId : UUID) : Aggregate → Prop
  | .batch id =>
      ∃ row batch, batchRecord db organizationId id = some row ∧ batchFromRecord u row = .ok batch
  | .case id =>
      ∃ row case, caseRecord db organizationId id = some row ∧ caseFromRecord u row = .ok case

/-- The permissions that a call requires. -/
def MembershipCall.permissions : MembershipCall → List Permission
  | addToBatch _ | removeFromBatch _ => [.batchManageDocuments, .batchRead]
  | addToCase _ | removeFromCase _ => [.caseManageDocuments, .caseRead]

/-- Nothing is in the way of a call in these tables: the tenant may make it, has the aggregate
and the document, and new ids are new. -/
structure MembershipCall.Served (services : Services) (tenant : TenantContext)
    (call : MembershipCall) (world : World)
    : Prop where
  allowed : ∀ permission ∈ call.permissions, allows tenant permission = true
  quiet : ∀ port count, world.raises port count = false
  aggregate
    : AggregateLoads services.platform.unicode world.store.committed tenant.organizationId
        call.aggregate
  document
    : call.adds = true
      → hasDocument world.store.committed tenant.organizationId call.documentId = true
  user : hasUser world.store.committed tenant.userId = true
  users : hasUser world.store.committed 0 = false
  organizations : hasOrganization world.store.committed 0 = false
  unused
    : ∀ n, world.drawn.length ≤ n → ∀ t,
        Db.find? world.store.committed t (world.ids.get n) = none

section Returning

variable {services : Services} {tenant : TenantContext} {i : Nat} {world after : World}

theorem require_ok {permission : Permission} (allowed : allows tenant permission = true)
    : require tenant permission = .ok () :=
  if_pos allowed

theorem BatchService.get_returns {batchId : UUID} {row batch : Batch}
    (allowed : allows tenant .batchRead = true)
    (quiet : ∀ port count, world.raises port count = false)
    (found : batchRecord (world.store.view i) tenant.organizationId batchId = some row)
    (loads : batchFromRecord services.platform.unicode row = .ok batch)
    : Yields i (BatchService.get services batchId tenant) world batch
        ((world.entering .batchRepository).selecting i) := by
  refine Returns.bind_iff.mpr ⟨(), _, Yields.liftExcept_iff.mpr ⟨require_ok allowed, rfl⟩, ?_⟩
  refine Returns.bind_iff.mpr ⟨some batch, _, ?_, Returns.pure_iff.mpr ⟨rfl, rfl⟩⟩
  refine Yields.selected_iff.mpr ⟨quiet _ _, ?_⟩
  rw [found]
  exact Yields.wrapped_iff.mpr ⟨loads, rfl⟩

theorem CaseService.get_returns {caseId : UUID} {row case : Case}
    (allowed : allows tenant .caseRead = true)
    (quiet : ∀ port count, world.raises port count = false)
    (found : caseRecord (world.store.view i) tenant.organizationId caseId = some row)
    (loads : caseFromRecord services.platform.unicode row = .ok case)
    : Yields i (CaseService.get services caseId tenant) world case
        ((world.entering .caseRepository).selecting i) := by
  refine Returns.bind_iff.mpr ⟨(), _, Yields.liftExcept_iff.mpr ⟨require_ok allowed, rfl⟩, ?_⟩
  refine Returns.bind_iff.mpr ⟨some case, _, ?_, Returns.pure_iff.mpr ⟨rfl, rfl⟩⟩
  refine Yields.selected_iff.mpr ⟨quiet _ _, ?_⟩
  rw [found]
  exact Yields.wrapped_iff.mpr ⟨loads, rfl⟩

/-- A sound membership row loads as it is. -/
theorem membershipFromRecord_ok {row : BatchDocument} (owner : row.organizationId ≠ 0)
    (adder : row.addedByUserId ≠ 0)
    : membershipFromRecord row = .ok row := by
  simp [membershipFromRecord, BatchDocument.postInit, validateBatchUuid, owner, adder, bind,
    Except.bind, pure, Except.pure]

namespace MembershipCall.Served

variable {call : MembershipCall}

/-- The organization of an aggregate that loads. -/
theorem organization (served : call.Served services tenant world)
    (constrained : Constrained world.store.committed)
    : hasOrganization world.store.committed tenant.organizationId = true
      ∧ ownsAggregate world.store.committed tenant.organizationId call.aggregate = true := by
  have loads := served.aggregate
  cases aggregate : call.aggregate with
  | batch id =>
      rw [aggregate] at loads
      obtain ⟨row, -, found, -⟩ := loads
      obtain ⟨present, owner⟩ := Option.filter_eq_some_iff.mp found
      have sound := constrained.sound .batches row (Db.mem_of_find? present)
      simp only [rowSound, Bool.and_eq_true, beq_iff_eq] at sound owner
      rw [← owner]
      refine ⟨sound.1.1.1.1, ?_⟩
      rw [owner]
      exact owned_of_found (t := .batches) found
  | case id =>
      rw [aggregate] at loads
      obtain ⟨row, -, found, -⟩ := loads
      obtain ⟨present, owner⟩ := Option.filter_eq_some_iff.mp found
      have sound := constrained.sound .cases row (Db.mem_of_find? present)
      simp only [rowSound, Bool.and_eq_true, beq_iff_eq] at sound owner
      rw [← owner]
      refine ⟨sound.1.1.1.1.1, ?_⟩
      rw [owner]
      exact owned_of_found (t := .cases) found

/-- The lookups in front of the write leave everything in place. -/
theorem recordable (served : call.Served services tenant world)
    (lawful : Store.Lawful i world.store) (fresh : world.store.own i = []) {next : World}
    (store : next.store = world.store.opening i) (raises : next.raises = world.raises)
    (ids : next.ids = world.ids) (drawn : world.drawn.length ≤ next.drawn.length)
    : Recordable i tenant next := by
  have view : next.store.view i = world.store.committed := by
    rw [store]
    exact Store.view_of_own_nil fresh
  exact {
    quiet := by rw [raises]; exact served.quiet
    alone := by rw [store]; exact lawful.opening.alone
    user := by rw [view]; exact served.user
    organization := by rw [view]; exact (served.organization lawful.committed).1
    unused := by rw [view, World.nextUuid, ids]; exact served.unused _ drawn _
  }

end MembershipCall.Served

open MembershipCall

theorem BatchService.addDocument_returns {command : BatchDocumentCommand}
    (served : (addToBatch command).Served services tenant world)
    (lawful : Store.Lawful i world.store) (fresh : world.store.own i = [])
    : ∃ saved after,
        Yields i (BatchService.addDocument services command tenant) world saved after := by
  have view : world.store.view i = world.store.committed := Store.view_of_own_nil fresh
  have constrained : Constrained world.store.committed := lawful.committed
  obtain ⟨organization, owned⟩ := served.organization constrained
  obtain ⟨row, batch, found, loads⟩ := served.aggregate
  have got := BatchService.get_returns (served.allowed _ (.tail _ (.head _)))
    served.quiet (view ▸ found) loads
  let membership : BatchDocument := {
    id := world.nextUuid
    organizationId := tenant.organizationId
    batchId := command.batchId
    documentId := command.documentId
    addedAt := world.clock.reading world.ticks
    addedByUserId := tenant.userId
  }
  have built : BatchDocument.postInit membership = .ok membership :=
    membershipFromRecord_ok tenant.organization_ne_nil tenant.user_ne_nil
  have loadable : ∀ other,
      other = membership ∨ other ∈ world.store.committed .batchDocuments
      → membershipFromRecord other = .ok other := by
    rintro other (rfl | present)
    · exact built
    · have sound := constrained.sound .batchDocuments other present
      simp only [rowSound, Bool.and_eq_true] at sound
      refine membershipFromRecord_ok (fun nil => ?_) (fun nil => ?_)
      · rw [nil, served.organizations] at sound
        cases sound.1.1.1
      · rw [nil, served.users] at sound
        cases sound.2
  have saves
      : ∃ saved after,
          Yields i
            (batchMembershipTable.saving membershipFromRecord
              (fun saved => BatchService.recordBatchEvent services .batchDocumentAdded tenant
                command.batchId command.auditContext saved.addedAt
                [("document_id", .uuid command.documentId)])
              membership)
            ((((world.entering .batchRepository).selecting i).drawing i).timing none) saved
            after := by
    refine MembershipTable.saving_returns (served.recordable lawful fresh rfl rfl rfl ?_) fresh
      constrained (served.unused _ (Nat.le_refl _) .batchDocuments) ?_ loadable ?_
    · simp [World.timing, World.drawing, World.selecting, World.entering]
    · simp only [rowSound, Bool.and_eq_true]
      exact ⟨⟨⟨organization, owned⟩, served.document rfl⟩, served.user⟩
    · exact fun _ _ ready => recordEvent_returns services ready _ _ _ _ _
  obtain ⟨saved, after, saves⟩ := saves
  refine ⟨saved, after, Returns.bind_iff.mpr ⟨(), _,
    Yields.liftExcept_iff.mpr ⟨require_ok (served.allowed _ (.head _)), rfl⟩, ?_⟩⟩
  refine Returns.bind_iff.mpr ⟨batch, _, got, ?_⟩
  refine Returns.bind_iff.mpr ⟨_, _, Yields.newUuid_iff.mpr ⟨rfl, rfl⟩, ?_⟩
  refine Returns.bind_iff.mpr ⟨_, _, Yields.nowOr_iff.mpr ⟨rfl, rfl⟩, ?_⟩
  refine Returns.bind_iff.mpr ⟨membership, _, Yields.liftExcept_iff.mpr ⟨built, rfl⟩, ?_⟩
  refine (Returns.tryCatch_iff BatchService.addDocument_rethrows).mpr ?_
  rw [BatchRepository.addDocument_eq]
  exact saves

theorem BatchService.removeDocument_returns {command : BatchDocumentCommand}
    (served : (removeFromBatch command).Served services tenant world)
    (lawful : Store.Lawful i world.store) (fresh : world.store.own i = [])
    : ∃ removed after,
        Yields i (BatchService.removeDocument services command tenant) world removed after := by
  have view : world.store.view i = world.store.committed := Store.view_of_own_nil fresh
  obtain ⟨row, batch, found, loads⟩ := served.aggregate
  have got := BatchService.get_returns (served.allowed _ (.tail _ (.head _)))
    served.quiet (view ▸ found) loads
  have removes
      : ∃ removed after,
          Yields i
            (batchMembershipTable.removing
              (fun removed now =>
                BatchService.recordBatchEvent services .batchDocumentRemoved tenant
                command.batchId command.auditContext now
                [("document_id", .uuid command.documentId), ("removed", .bool removed)])
              tenant.organizationId command.batchId command.documentId)
            ((world.entering .batchRepository).selecting i) removed after := by
    refine MembershipTable.removing_returns (served.recordable lawful fresh rfl rfl rfl ?_)
      lawful.opening ?_
    · simp [World.selecting, World.entering]
    · exact fun _ _ _ ready => recordEvent_returns services ready _ _ _ _ _
  obtain ⟨removed, after, removes⟩ := removes
  refine ⟨removed, after, Returns.bind_iff.mpr ⟨(), _,
    Yields.liftExcept_iff.mpr ⟨require_ok (served.allowed _ (.head _)), rfl⟩, ?_⟩⟩
  refine Returns.bind_iff.mpr ⟨batch, _, got, ?_⟩
  rw [BatchRepository.removeDocument_eq]
  exact removes

theorem CaseService.addDocument_returns {command : CaseDocumentCommand}
    (served : (addToCase command).Served services tenant world)
    (lawful : Store.Lawful i world.store) (fresh : world.store.own i = [])
    : ∃ saved after,
        Yields i (CaseService.addDocument services command tenant) world saved after := by
  have view : world.store.view i = world.store.committed := Store.view_of_own_nil fresh
  obtain ⟨-, owned⟩ := served.organization lawful.committed
  obtain ⟨row, case, found, loads⟩ := served.aggregate
  have got := CaseService.get_returns (served.allowed _ (.tail _ (.head _)))
    served.quiet (view ▸ found) loads
  have saves
      : ∃ saved after,
          Yields i
            (caseMembershipTable.saving Except.ok
              (fun saved => CaseService.recordCaseEvent services .caseDocumentAdded tenant
                command.caseId command.auditContext saved.addedAt
                [("document_id", .uuid command.documentId)])
              {
                id := world.nextUuid
                organizationId := tenant.organizationId
                caseId := command.caseId
                documentId := command.documentId
                addedAt := world.clock.reading world.ticks
                addedByUserId := tenant.userId
              })
            ((((world.entering .caseRepository).selecting i).drawing i).timing none) saved
            after := by
    refine MembershipTable.saving_returns (served.recordable lawful fresh rfl rfl rfl ?_) fresh
      lawful.committed (served.unused _ (Nat.le_refl _) .caseDocuments) ?_ (fun _ _ => rfl) ?_
    · simp [World.timing, World.drawing, World.selecting, World.entering]
    · simp only [rowSound, Bool.and_eq_true]
      exact ⟨⟨owned, served.document rfl⟩, served.user⟩
    · exact fun _ _ ready => recordEvent_returns services ready _ _ _ _ _
  obtain ⟨saved, after, saves⟩ := saves
  refine ⟨saved, after, Returns.bind_iff.mpr ⟨(), _,
    Yields.liftExcept_iff.mpr ⟨require_ok (served.allowed _ (.head _)), rfl⟩, ?_⟩⟩
  refine Returns.bind_iff.mpr ⟨case, _, got, ?_⟩
  refine Returns.bind_iff.mpr ⟨_, _, Yields.newUuid_iff.mpr ⟨rfl, rfl⟩, ?_⟩
  refine Returns.bind_iff.mpr ⟨_, _, Yields.nowOr_iff.mpr ⟨rfl, rfl⟩, ?_⟩
  rw [CaseRepository.addDocument_eq]
  exact saves

theorem CaseService.removeDocument_returns {command : CaseDocumentCommand}
    (served : (removeFromCase command).Served services tenant world)
    (lawful : Store.Lawful i world.store) (fresh : world.store.own i = [])
    : ∃ removed after,
        Yields i (CaseService.removeDocument services command tenant) world removed after := by
  have view : world.store.view i = world.store.committed := Store.view_of_own_nil fresh
  obtain ⟨row, case, found, loads⟩ := served.aggregate
  have got := CaseService.get_returns (served.allowed _ (.tail _ (.head _)))
    served.quiet (view ▸ found) loads
  have removes
      : ∃ removed after,
          Yields i
            (caseMembershipTable.removing
              (fun removed now => CaseService.recordCaseEvent services .caseDocumentRemoved tenant
                command.caseId command.auditContext now
                [("document_id", .uuid command.documentId), ("removed", .bool removed)])
              tenant.organizationId command.caseId command.documentId)
            ((world.entering .caseRepository).selecting i) removed after := by
    refine MembershipTable.removing_returns (served.recordable lawful fresh rfl rfl rfl ?_)
      lawful.opening ?_
    · simp [World.selecting, World.entering]
    · exact fun _ _ _ ready => recordEvent_returns services ready _ _ _ _ _
  obtain ⟨removed, after, removes⟩ := removes
  refine ⟨removed, after, Returns.bind_iff.mpr ⟨(), _,
    Yields.liftExcept_iff.mpr ⟨require_ok (served.allowed _ (.head _)), rfl⟩, ?_⟩⟩
  refine Returns.bind_iff.mpr ⟨case, _, got, ?_⟩
  rw [CaseRepository.removeDocument_eq]
  exact removes

theorem MembershipCall.Served.returns {call : MembershipCall}
    (served : call.Served services tenant world) (lawful : Store.Lawful i world.store)
    (fresh : world.store.own i = [])
    : ∃ reply after, Yields i (call.call.useCase services tenant) world reply after := by
  cases call with
  | addToBatch command =>
      obtain ⟨saved, after, added⟩ := BatchService.addDocument_returns served lawful fresh
      exact ⟨_, after, Returns.bind_iff.mpr ⟨_, after, Returns.bind_iff.mpr ⟨saved, after, added,
        Returns.pure_iff.mpr ⟨rfl, rfl⟩⟩, Returns.pure_iff.mpr ⟨rfl, rfl⟩⟩⟩
  | removeFromBatch command =>
      obtain ⟨removed, after, deleted⟩ := BatchService.removeDocument_returns served lawful fresh
      exact ⟨_, after, Returns.bind_iff.mpr ⟨_, after, Returns.bind_iff.mpr ⟨removed, after,
        deleted, Returns.pure_iff.mpr ⟨rfl, rfl⟩⟩, Returns.pure_iff.mpr ⟨rfl, rfl⟩⟩⟩
  | addToCase command =>
      obtain ⟨saved, after, added⟩ := CaseService.addDocument_returns served lawful fresh
      exact ⟨_, after, Returns.bind_iff.mpr ⟨_, after, Returns.bind_iff.mpr ⟨saved, after, added,
        Returns.pure_iff.mpr ⟨rfl, rfl⟩⟩, Returns.pure_iff.mpr ⟨rfl, rfl⟩⟩⟩
  | removeFromCase command =>
      obtain ⟨removed, after, deleted⟩ := CaseService.removeDocument_returns served lawful fresh
      exact ⟨_, after, Returns.bind_iff.mpr ⟨_, after, Returns.bind_iff.mpr ⟨removed, after,
        deleted, Returns.pure_iff.mpr ⟨rfl, rfl⟩⟩, Returns.pure_iff.mpr ⟨rfl, rfl⟩⟩⟩

end Returning

-----------------------------------------------------------------------------------------
-- What follows from the effect
-----------------------------------------------------------------------------------------

section Effects

variable {db db' : Database} {tenant : TenantContext} {call : MembershipCall}
  {reply : ServiceReply}

theorem memberSets_batch {id : UUID} {documents : Set UUID}
    (batches
      : batchMembershipTable.members db'
        = Function.update (batchMembershipTable.members db) id documents)
    (cases : db' .caseDocuments = db .caseDocuments)
    : memberSets db' = Function.update (memberSets db) (.batch id) documents := by
  funext aggregate
  cases aggregate with
  | batch id' => simp [memberSets, batches, Function.update_apply]
  | case id' => simp [memberSets, MembershipTable.members, MembershipTable.ids, cases]

theorem memberSets_case {id : UUID} {documents : Set UUID}
    (cases
      : caseMembershipTable.members db'
        = Function.update (caseMembershipTable.members db) id documents)
    (batches : db' .batchDocuments = db .batchDocuments)
    : memberSets db' = Function.update (memberSets db) (.case id) documents := by
  funext aggregate
  cases aggregate with
  | batch id' => simp [memberSets, MembershipTable.members, MembershipTable.ids, batches]
  | case id' => simp [memberSets, cases, Function.update_apply]

/-- The member sets follow the call. -/
theorem MembershipCall.Effect.members (constrained : Constrained db)
    (effect : call.Effect tenant db reply db')
    : memberSets db'
      = Function.update (memberSets db) call.aggregate
          (if call.adds then {call.documentId} ∪ memberSets db call.aggregate
          else memberSets db call.aggregate \ {call.documentId}) := by
  cases call with
  | addToBatch command =>
      obtain ⟨saved, -, adds⟩ := effect
      exact memberSets_batch adds.members (adds.others _ (by decide) (by decide))
  | removeFromBatch command =>
      obtain ⟨removed, -, removes⟩ := effect
      exact memberSets_batch (removes.members constrained)
        (removes.others _ (by decide) (by decide))
  | addToCase command =>
      obtain ⟨saved, -, adds⟩ := effect
      exact memberSets_case adds.members (adds.others _ (by decide) (by decide))
  | removeFromCase command =>
      obtain ⟨removed, -, removes⟩ := effect
      exact memberSets_case (removes.members constrained) (removes.others _ (by decide) (by decide))

/-- A repeated addition answers the existing membership. -/
theorem MembershipCall.Effect.repeated (constrained : Constrained db)
    (effect : call.Effect tenant db reply db') (adding : call.adds = true) {id : UUID}
    (member : membershipIds db call.aggregate call.documentId = [id])
    : reply.membershipId? = some id ∧ SameMemberships db db' := by
  cases call with
  | addToBatch command =>
      obtain ⟨saved, rfl, adds⟩ := effect
      obtain ⟨same, unchanged⟩ := adds.repeated constrained member
      exact ⟨congrArg some same, unchanged, adds.others _ (by decide) (by decide)⟩
  | addToCase command =>
      obtain ⟨saved, rfl, adds⟩ := effect
      obtain ⟨same, unchanged⟩ := adds.repeated constrained member
      exact ⟨congrArg some same, adds.others _ (by decide) (by decide), unchanged⟩
  | _ => cases adding

/-- A removal answers whether the document was a member. -/
theorem MembershipCall.Effect.removed (constrained : Constrained db)
    (effect : call.Effect tenant db reply db') (removing : call.adds = false)
    : ∃ removed,
        reply.removed? = some removed
        ∧ (removed = true ↔ call.documentId ∈ memberSets db call.aggregate)
        ∧ (removed = false → SameMemberships db db') := by
  cases call with
  | removeFromBatch command =>
      obtain ⟨removed, rfl, removes⟩ := effect
      have member := removes.found.trans (MembershipTable.rows_ne_nil constrained removes.owned)
      refine ⟨removed, rfl, member, fun missed => ⟨?_, removes.others _ (by decide) (by decide)⟩⟩
      exact removes.absent constrained (fun found => by simp [missed] at member; exact member found)
  | removeFromCase command =>
      obtain ⟨removed, rfl, removes⟩ := effect
      have member := removes.found.trans (MembershipTable.rows_ne_nil constrained removes.owned)
      refine ⟨removed, rfl, member, fun missed => ⟨removes.others _ (by decide) (by decide), ?_⟩⟩
      exact removes.absent constrained (fun found => by simp [missed] at member; exact member found)
  | _ => cases removing

/-- The members of a tenant's aggregate are its documents. -/
theorem memberSets_filed (constrained : Constrained db) {aggregate : Aggregate}
    {organizationId documentId : UUID} (owned : ownsAggregate db organizationId aggregate = true)
    (member : documentId ∈ memberSets db aggregate)
    : hasDocument db organizationId documentId = true := by
  cases aggregate with
  | batch id => exact batchMembershipTable.members_filed constrained owned member
  | case id => exact caseMembershipTable.members_filed constrained owned member

/-- A call that returns names an aggregate of its tenant, and an addition also a document. -/
theorem MembershipCall.Effect.owned (effect : call.Effect tenant db reply db')
    : ownsAggregate db tenant.organizationId call.aggregate = true
      ∧ (call.adds = true → hasDocument db tenant.organizationId call.documentId = true) := by
  cases call with
  | addToBatch command =>
      obtain ⟨saved, -, adds⟩ := effect
      exact ⟨adds.owned, fun _ => adds.filed⟩
  | removeFromBatch command =>
      obtain ⟨removed, -, removes⟩ := effect
      exact ⟨removes.owned, nofun⟩
  | addToCase command =>
      obtain ⟨saved, -, adds⟩ := effect
      exact ⟨adds.owned, fun _ => adds.filed⟩
  | removeFromCase command =>
      obtain ⟨removed, -, removes⟩ := effect
      exact ⟨removes.owned, nofun⟩

end Effects

end WorkflowForge
