import WorkflowForge.Application.AggregateRules

/-! The batch and case calls keep to their protocol.
Each returning call that changes something has one change and one report of it, which its
reply and its arguments determine up to ids and clock readings.
-/

namespace WorkflowForge

open Python Transactions Concurrency

variable {u : Unicode} {audited : Bool} {organizationId : UUID}

-----------------------------------------------------------------------------------------
-- Locked rows
-----------------------------------------------------------------------------------------

/-- The tenant's row with this id, at the version that the call expects. -/
structure Batch.Expected (tenant : TenantContext) (batchId : UUID) (lockVersion : Nat)
    (row : Batch)
    : Prop where
  id : row.id = batchId
  organizationId : row.organizationId = tenant.organizationId
  lockVersion : row.lockVersion = lockVersion

structure Case.Expected (tenant : TenantContext) (caseId : UUID) (lockVersion : Nat)
    (row : Case)
    : Prop where
  id : row.id = caseId
  organizationId : row.organizationId = tenant.organizationId
  lockVersion : row.lockVersion = lockVersion

structure CaseTask.Expected (tenant : TenantContext) (caseId taskId : UUID) (lockVersion : Nat)
    (row : CaseTask)
    : Prop where
  id : row.id = taskId
  organizationId : row.organizationId = tenant.organizationId
  caseId : row.caseId = caseId
  lockVersion : row.lockVersion = lockVersion

/-- The UPDATE of a revised batch matches the row that it was loaded from. -/
theorem Batch.Succeeds.updated {old batch : Batch} (succeeds : old.Succeeds batch)
    : (if old.organizationId = batch.organizationId ∧ old.lockVersion + 1 = batch.lockVersion then
        some {
          old with
          name := batch.name
          description := batch.description
          status := batch.status
          externalReference := batch.externalReference
          updatedAt := batch.updatedAt
          updatedByUserId := batch.updatedByUserId
          archivedAt := batch.archivedAt
          archivedByUserId := batch.archivedByUserId
          lockVersion := batch.lockVersion
        }
      else none)
      = some batch := by
  obtain ⟨id, organization, created, creator, version⟩ := succeeds
  rw [if_pos ⟨organization.symm, version.symm⟩, ← id, ← organization, ← created, ← creator]

theorem Case.Succeeds.updated {old case : Case} (succeeds : old.Succeeds case)
    : (if old.organizationId = case.organizationId ∧ old.lockVersion + 1 = case.lockVersion then
        some {
          old with
          title := case.title
          summary := case.summary
          status := case.status
          priority := case.priority
          externalReference := case.externalReference
          updatedAt := case.updatedAt
          updatedByUserId := case.updatedByUserId
          closedAt := case.closedAt
          closedByUserId := case.closedByUserId
          archivedAt := case.archivedAt
          archivedByUserId := case.archivedByUserId
          lockVersion := case.lockVersion
        }
      else none)
      = some case := by
  obtain ⟨id, organization, created, creator, version⟩ := succeeds
  rw [if_pos ⟨organization.symm, version.symm⟩, ← id, ← organization, ← created, ← creator]

theorem CaseTask.Succeeds.updated {old task : CaseTask} (succeeds : old.Succeeds task)
    : (if old.organizationId = task.organizationId ∧ old.caseId = task.caseId
          ∧ old.lockVersion + 1 = task.lockVersion then
        some {
          old with
          title := task.title
          description := task.description
          status := task.status
          assignedToUserId := task.assignedToUserId
          dueAt := task.dueAt
          completedAt := task.completedAt
          completedByUserId := task.completedByUserId
          updatedAt := task.updatedAt
          updatedByUserId := task.updatedByUserId
          lockVersion := task.lockVersion
        }
      else none)
      = some task := by
  obtain ⟨id, organization, case, created, creator, version⟩ := succeeds
  rw [if_pos ⟨organization.symm, case.symm, version.symm⟩, ← id, ← organization, ← case,
    ← created, ← creator]

theorem batchFromRecord_lockVersion {old batch : Batch}
    (loaded : batchFromRecord u old = .ok batch)
    : batch.lockVersion = old.lockVersion := by
  obtain ⟨_, _, _, -, -, -, -, -, rfl⟩ := Batch.postInit_eq_ok loaded
  rfl

theorem caseFromRecord_lockVersion {old case : Case} (loaded : caseFromRecord u old = .ok case)
    : case.lockVersion = old.lockVersion := by
  obtain ⟨_, _, _, -, -, -, -, rfl⟩ := Case.postInit_eq_ok loaded
  rfl

-----------------------------------------------------------------------------------------
-- Repositories
-----------------------------------------------------------------------------------------

theorem Passes.addBatch {batch : Batch} (opens : RowOpens u .batches batch)
    (owned : batch.organizationId = organizationId)
    : Passes u audited organizationId .rested (BatchRepository.add u batch) (fun saved later =>
        saved = batch ∧ later = .writing (.inserted .batches batch) []) := by
  obtain ⟨_, _, _, _, _, _, _, created⟩ := opens
  refine (enter (by exact trivial) .batchRepository).andThen (fun _ => ?_)
  refine (insert (t := .batches) ⟨_, _, _, _, _, _, _, created⟩ (congrArg some owned)).bind ?_
  rintro _ _ rfl
  refine (liftExcept (by exact trivial) _).mono ?_
  rintro saved _ ⟨loaded, rfl⟩
  rw [batchFromRecord, Batch.postInit_again created, Except.ok.injEq] at loaded
  exact ⟨loaded.symm, rfl⟩

theorem Passes.addCase {case : Case} (opens : RowOpens u .cases case)
    (owned : case.organizationId = organizationId)
    : Passes u audited organizationId .rested (CaseRepository.add u case) (fun saved later =>
        saved = case ∧ later = .writing (.inserted .cases case) []) := by
  obtain ⟨_, _, _, _, _, _, _, _, created⟩ := opens
  refine (enter (by exact trivial) .caseRepository).andThen (fun _ => ?_)
  refine (insert (t := .cases) ⟨_, _, _, _, _, _, _, _, created⟩ (congrArg some owned)).bind ?_
  rintro _ _ rfl
  refine (liftExcept (by exact trivial) _).mono ?_
  rintro saved _ ⟨loaded, rfl⟩
  rw [caseFromRecord, Case.postInit_again created, Except.ok.injEq] at loaded
  exact ⟨loaded.symm, rfl⟩

theorem Passes.updateBatch {old loaded batch : Batch} (found : batchFromRecord u old = .ok loaded)
    (revises : loaded.Revises u batch) (owned : old.organizationId = organizationId)
    : Passes u audited organizationId (.locked .batches old) (BatchRepository.update batch)
        (fun saved later =>
          saved = batch ∧ later = .writing (.revised .batches old batch) []) := by
  have succeeds := batchFromRecord_succeeds found revises.succeeds
  refine (enter (by exact trivial) .batchRepository).andThen (fun _ => ?_)
  have revised : RowRevises u .batches old batch := ⟨loaded, found, revises⟩
  refine (update (t := .batches) succeeds.id.symm succeeds.updated revised
    ⟨congrArg some owned, congrArg some (succeeds.organizationId.trans owned)⟩).bind ?_
  rintro _ _ rfl
  exact Passes.pure ⟨rfl, rfl⟩

theorem Passes.updateCase {old loaded case : Case} (found : caseFromRecord u old = .ok loaded)
    (revises : loaded.Revises u case) (owned : old.organizationId = organizationId)
    : Passes u audited organizationId (.locked .cases old) (CaseRepository.update case)
        (fun saved later =>
          saved = case ∧ later = .writing (.revised .cases old case) []) := by
  have succeeds := caseFromRecord_succeeds found revises.succeeds
  refine (enter (by exact trivial) .caseRepository).andThen (fun _ => ?_)
  have revised : RowRevises u .cases old case := ⟨loaded, found, revises⟩
  refine (update (t := .cases) succeeds.id.symm succeeds.updated revised
    ⟨congrArg some owned, congrArg some (succeeds.organizationId.trans owned)⟩).bind ?_
  rintro _ _ rfl
  exact Passes.pure ⟨rfl, rfl⟩

theorem Passes.updateTask {old task : CaseTask} (revises : old.Revises task)
    (owned : old.organizationId = organizationId)
    : Passes u audited organizationId (.locked .caseTasks old) (CaseRepository.updateTask task)
        (fun saved later =>
          saved = task ∧ later = .writing (.revised .caseTasks old task) []) := by
  have succeeds := revises.succeeds
  refine (enter (by exact trivial) .caseRepository).andThen (fun _ => ?_)
  have revised : RowRevises u .caseTasks old task := revises
  refine (update (t := .caseTasks) succeeds.id.symm succeeds.updated revised
    ⟨congrArg some owned, congrArg some (succeeds.organizationId.trans owned)⟩).bind ?_
  rintro _ _ rfl
  exact Passes.pure ⟨rfl, rfl⟩

section Lookups

variable {services : Services} {tenant : TenantContext}

theorem Passes.lockedBatch (batchId : UUID) (lockVersion : Nat)
    : Passes services.platform.unicode audited organizationId .rested
        (BatchService.lockedBatch services batchId tenant lockVersion)
        (fun loaded later =>
          ∃ old,
            later = .locked .batches old
            ∧ old.Expected tenant batchId lockVersion
            ∧ batchFromRecord services.platform.unicode old = .ok loaded) := by
  have looked
      : Passes services.platform.unicode audited organizationId .rested
          (BatchRepository.getForUpdate services.platform.unicode tenant.organizationId batchId)
          (fun found later =>
            found = none ∧ later = .rested
            ∨ ∃ loaded old,
                found = some loaded
                ∧ later = .locked .batches old
                ∧ old.id = batchId
                ∧ old.organizationId = tenant.organizationId
                ∧ batchFromRecord services.platform.unicode old = .ok loaded) := by
    refine locking (t := .batches) rfl (Passes.pure (.inl ⟨rfl, rfl⟩)) ?_
    intro old key owned
    refine (liftExcept (by exact trivial) _).bind ?_
    rintro loaded _ ⟨found, rfl⟩
    exact Passes.pure (.inr ⟨loaded, old, rfl, rfl, key, beq_iff_eq.mp owned, found⟩)
  refine looked.bind ?_
  rintro _ _ (⟨rfl, rfl⟩ | ⟨loaded, old, rfl, rfl, key, owned, found⟩)
  · exact Passes.throw trivial
  · by_cases version : loaded.lockVersion = lockVersion
    · simp only [version, ne_eq, not_true_eq_false, if_false]
      refine Passes.pure ⟨old, rfl, ⟨key, owned, ?_⟩, found⟩
      rw [← batchFromRecord_lockVersion found, version]
    · simp only [version, ne_eq, not_false_eq_true, if_true]
      exact Passes.throw trivial

theorem Passes.lockedCase (caseId : UUID) (lockVersion : Nat)
    : Passes services.platform.unicode audited organizationId .rested
        (CaseService.lockedCase services caseId tenant lockVersion)
        (fun loaded later =>
          ∃ old,
            later = .locked .cases old
            ∧ old.Expected tenant caseId lockVersion
            ∧ caseFromRecord services.platform.unicode old = .ok loaded) := by
  have looked
      : Passes services.platform.unicode audited organizationId .rested
          (CaseRepository.getForUpdate services.platform.unicode tenant.organizationId caseId)
          (fun found later =>
            found = none ∧ later = .rested
            ∨ ∃ loaded old,
                found = some loaded
                ∧ later = .locked .cases old
                ∧ old.id = caseId
                ∧ old.organizationId = tenant.organizationId
                ∧ caseFromRecord services.platform.unicode old = .ok loaded) := by
    refine locking (t := .cases) rfl (Passes.pure (.inl ⟨rfl, rfl⟩)) ?_
    intro old key owned
    refine (liftExcept (by exact trivial) _).bind ?_
    rintro loaded _ ⟨found, rfl⟩
    exact Passes.pure (.inr ⟨loaded, old, rfl, rfl, key, beq_iff_eq.mp owned, found⟩)
  refine looked.bind ?_
  rintro _ _ (⟨rfl, rfl⟩ | ⟨loaded, old, rfl, rfl, key, owned, found⟩)
  · exact Passes.throw trivial
  · by_cases version : loaded.lockVersion = lockVersion
    · simp only [version, ne_eq, not_true_eq_false, if_false]
      refine Passes.pure ⟨old, rfl, ⟨key, owned, ?_⟩, found⟩
      rw [← caseFromRecord_lockVersion found, version]
    · simp only [version, ne_eq, not_false_eq_true, if_true]
      exact Passes.throw trivial

/-- A lookup of a batch changes nothing. -/
theorem Passes.getBatch (batchId : UUID)
    : Passes u audited organizationId .rested (BatchService.get services batchId tenant)
        (fun _ later => later = .rested) := by
  refine (lifted (by exact trivial) _).andThen (fun _ => ?_)
  refine Passes.andThen ?_ (fun found => ?_)
  · refine (enter (by exact trivial) _).andThen (fun _ => ?_)
    refine (select (by exact rfl)).andThen (fun db => ?_)
    cases batchRecord db tenant.organizationId batchId with
    | none => exact Passes.pure rfl
    | some record => exact (lifted (by exact trivial) _).andThen (fun _ => Passes.pure rfl)
  · cases found with
    | none => exact Passes.throw trivial
    | some batch => exact Passes.pure rfl

/-- A lookup of a case changes nothing. -/
theorem Passes.getCase (caseId : UUID)
    : Passes u audited organizationId .rested (CaseService.get services caseId tenant)
        (fun _ later => later = .rested) := by
  refine (lifted (by exact trivial) _).andThen (fun _ => ?_)
  refine Passes.andThen ?_ (fun found => ?_)
  · refine (enter (by exact trivial) _).andThen (fun _ => ?_)
    refine (select (by exact rfl)).andThen (fun db => ?_)
    cases caseRecord db tenant.organizationId caseId with
    | none => exact Passes.pure rfl
    | some record => exact (lifted (by exact trivial) _).andThen (fun _ => Passes.pure rfl)
  · cases found with
    | none => exact Passes.throw trivial
    | some case => exact Passes.pure rfl

theorem Passes.lockedTask (caseId taskId : UUID) (lockVersion : Nat)
    : Passes u audited organizationId .rested
        (CaseService.lockedTask services caseId taskId tenant lockVersion)
        (fun task later =>
          later = .locked .caseTasks task
          ∧ task.Expected tenant caseId taskId lockVersion) := by
  refine (getCase caseId).andThen (fun _ => ?_)
  have looked
      : Passes u audited organizationId .rested
          (CaseRepository.getTaskForUpdate tenant.organizationId caseId taskId)
          (fun found later =>
            found = none ∧ later = .rested
            ∨ ∃ task : CaseTask,
                found = some task
                ∧ later = .locked .caseTasks task
                ∧ task.id = taskId
                ∧ task.organizationId = tenant.organizationId
                ∧ task.caseId = caseId) := by
    refine locking (t := .caseTasks) rfl (Passes.pure (.inl ⟨rfl, rfl⟩)) ?_
    intro task key owned
    obtain ⟨organization, case⟩ := Bool.and_eq_true_iff.mp owned
    exact Passes.pure
      (.inr ⟨task, rfl, rfl, key, beq_iff_eq.mp organization, beq_iff_eq.mp case⟩)
  refine looked.bind ?_
  rintro _ _ (⟨rfl, rfl⟩ | ⟨task, rfl, rfl, key, owned, case⟩)
  · exact Passes.throw trivial
  · by_cases version : task.lockVersion = lockVersion
    · simp only [version, ne_eq, not_true_eq_false, if_false]
      exact Passes.pure ⟨rfl, key, owned, case, version⟩
    · simp only [version, ne_eq, not_false_eq_true, if_true]
      exact Passes.throw trivial

end Lookups

-----------------------------------------------------------------------------------------
-- Batch calls
-----------------------------------------------------------------------------------------

/-- The metadata of the events about a batch or a case. -/
def targeting (targetType : String) (targetId : UUID) (metadata : List (String × AuditValue))
    : List (String × AuditValue) :=
  ("target_type", .text targetType) :: ("target_id", .uuid targetId) :: metadata

/-- A batch that a call with an expected version has changed. -/
structure Batch.Changed (u : Unicode) (tenant : TenantContext) (batchId : UUID)
    (lockVersion : Nat) (operation : Batch → Timestamp → Except Exn Batch)
    (eventType : AuditEventType) (auditContext : Option AuditRequestContext)
    (reply : BatchReply) (change : Change) (report : Report) (old batch : Batch)
    : Prop where
  expected : old.Expected tenant batchId lockVersion
  operated : ∃ loaded now, batchFromRecord u old = .ok loaded ∧ operation loaded now = .ok batch
  reply : reply = .batch batch
  change : change = .revised .batches old batch
  report
    : report = {
      eventType
      occurredAt := batch.updatedAt
      requestContext := auditContext
      metadata := targeting "batch" batch.id []
    }

/-- What a returning batch call has changed and reported. -/
def BatchCall.Makes (u : Unicode) (tenant : TenantContext)
    : BatchCall → BatchReply → Change → Report → Prop
  | create command, reply, change, report =>
      ∃ id timestamp batch,
        Batch.create u id tenant.organizationId command.name command.description
            command.externalReference tenant.userId timestamp
          = .ok batch
        ∧ reply = .batch batch
        ∧ change = .inserted .batches batch
        ∧ report = {
          eventType := .batchCreated
          occurredAt := timestamp
          requestContext := command.auditContext
          metadata := targeting "batch" batch.id []
        }
  | update command, reply, change, report =>
      ∃ old batch,
        Batch.Changed u tenant command.batchId command.lockVersion
          (fun loaded now =>
            loaded.update u command.name command.description command.externalReference
              tenant.userId now)
          .batchUpdated command.auditContext reply change report old batch
  | archive command, reply, change, report =>
      ∃ old batch,
        Batch.Changed u tenant command.batchId command.lockVersion
          (fun loaded now => loaded.archive u tenant.userId now) .batchArchived
          command.auditContext reply change report old batch
  | addDocument command, reply, change, report =>
      ∃ saved : BatchDocument,
        saved.organizationId = tenant.organizationId
        ∧ saved.batchId = command.batchId
        ∧ saved.documentId = command.documentId
        ∧ reply = .membership saved
        ∧ (saved.addedByUserId = tenant.userId ∧ change = .inserted .batchDocuments saved
          ∨ ∃ snapshot : Database,
              change = .found snapshot
              ∧ batchMembershipTable.rows snapshot tenant.organizationId command.batchId
                  command.documentId
                = [saved])
        ∧ report = {
          eventType := .batchDocumentAdded
          occurredAt := saved.addedAt
          requestContext := command.auditContext
          metadata := targeting "batch" command.batchId [("document_id", .uuid command.documentId)]
        }
  | removeDocument command, reply, change, report =>
      ∃ (snapshot : Database) (rows : List BatchDocument) (now : Timestamp),
        rows
          = batchMembershipTable.rows snapshot tenant.organizationId command.batchId
              command.documentId
        ∧ reply = .removed (rows.length != 0)
        ∧ change = .removed .batchDocuments snapshot rows
        ∧ report = {
          eventType := .batchDocumentRemoved
          occurredAt := now
          requestContext := command.auditContext
          metadata := targeting "batch" command.batchId
            [("document_id", .uuid command.documentId), ("removed", .bool (rows.length != 0))]
        }
  | get _, _, _, _ | listBatches _, _, _, _ | listDocuments _, _, _, _ => False

section Batches

variable {services : Services} {tenant : TenantContext}

/-- The stage of a call that returns the batch. -/
abbrev BatchCall.Settled (services : Services) (tenant : TenantContext) (call : BatchCall)
    (reply : BatchReply) (stage : Stage)
    : Prop :=
  stage.Settled services tenant (call.Makes services.platform.unicode tenant reply)

theorem Passes.createBatch (command : CreateBatchCommand)
    : Passes services.platform.unicode services.audited tenant.organizationId .rested
        (BatchService.create services command tenant)
        (fun batch => (BatchCall.create command).Settled services tenant (.batch batch)) := by
  refine (lifted (by exact trivial) _).andThen (fun _ => ?_)
  refine (nowOr _).andThen (fun timestamp => ?_)
  refine (newUuid _).andThen (fun id => ?_)
  refine (liftExcept (by exact trivial) _).bind ?_
  rintro batch _ ⟨created, rfl⟩
  refine orRollback ?_
  have owned : batch.organizationId = tenant.organizationId := by
    obtain ⟨_, _, _, -, -, -, -, -, rfl⟩ := Batch.postInit_eq_ok created
    rfl
  refine (addBatch ⟨_, _, _, _, _, _, _, created⟩ owned).bind ?_
  rintro saved _ ⟨rfl, rfl⟩
  exact settle ⟨.batchCreated, timestamp, command.auditContext, targeting "batch" saved.id []⟩
    saved ⟨id, timestamp, saved, created, rfl, rfl, rfl⟩

theorem Passes.updateBatchCall (command : UpdateBatchCommand)
    : Passes services.platform.unicode services.audited tenant.organizationId .rested
        (BatchService.update services command tenant)
        (fun batch => (BatchCall.update command).Settled services tenant (.batch batch)) := by
  refine (lifted (by exact trivial) _).andThen (fun _ => ?_)
  refine (lockedBatch _ _).bind ?_
  rintro loaded _ ⟨old, rfl, expected, found⟩
  refine (nowOr _).andThen (fun now => ?_)
  refine (liftExcept (by exact trivial) _).bind ?_
  rintro batch _ ⟨updated, rfl⟩
  refine orRollback ?_
  refine (updateBatch found (.update updated) expected.organizationId).bind ?_
  rintro saved _ ⟨rfl, rfl⟩
  exact settle ⟨.batchUpdated, saved.updatedAt, command.auditContext,
    targeting "batch" saved.id []⟩ saved
    ⟨old, saved, expected, ⟨loaded, now, found, updated⟩, rfl, rfl, rfl⟩

theorem Passes.archiveBatch (command : ArchiveBatchCommand)
    : Passes services.platform.unicode services.audited tenant.organizationId .rested
        (BatchService.archive services command tenant)
        (fun batch => (BatchCall.archive command).Settled services tenant (.batch batch)) := by
  refine (lifted (by exact trivial) _).andThen (fun _ => ?_)
  refine (lockedBatch _ _).bind ?_
  rintro loaded _ ⟨old, rfl, expected, found⟩
  refine (nowOr _).andThen (fun now => ?_)
  refine (liftExcept (by exact trivial) _).bind ?_
  rintro batch _ ⟨archived, rfl⟩
  refine (updateBatch found (.archive archived) expected.organizationId).bind ?_
  rintro saved _ ⟨rfl, rfl⟩
  exact settle ⟨.batchArchived, saved.updatedAt, command.auditContext,
    targeting "batch" saved.id []⟩ saved
    ⟨old, saved, expected, ⟨loaded, now, found, archived⟩, rfl, rfl, rfl⟩

theorem Passes.addBatchDocument (command : BatchDocumentCommand)
    : Passes services.platform.unicode services.audited tenant.organizationId .rested
        (BatchService.addDocument services command tenant)
        (fun saved =>
          (BatchCall.addDocument command).Settled services tenant (.membership saved)) := by
  refine (lifted (by exact trivial) _).andThen (fun _ => ?_)
  refine (getBatch _).andThen (fun _ => ?_)
  refine (newUuid _).andThen (fun id => ?_)
  refine (nowOr _).andThen (fun addedAt => ?_)
  refine (liftExcept (by exact trivial) _).bind ?_
  rintro membership _ ⟨built, rfl⟩
  obtain rfl := BatchDocument.postInit_eq_ok built
  refine Passes.tryCatch ?_ (fun failure later uncommitted => ?_)
  · rw [BatchRepository.addDocument_eq]
    refine (addDocument batchMembershipTable (by exact trivial) (by exact rfl)
      (fun _ _ loaded => (BatchDocument.postInit_eq_ok loaded).symm) (fun _ _ _ => rfl)).bind ?_
    rintro saved _ (⟨rfl, rfl⟩ | ⟨snapshot, rfl, only⟩)
    · exact settle ⟨.batchDocumentAdded, _, command.auditContext,
        targeting "batch" command.batchId [("document_id", .uuid command.documentId)]⟩ _
        ⟨_, rfl, rfl, rfl, rfl, .inl ⟨rfl, rfl⟩, rfl⟩
    · obtain ⟨-, organization, batch, document⟩ :=
        MembershipTable.mem_rows.mp (only ▸ List.mem_singleton_self saved)
      exact settle ⟨.batchDocumentAdded, saved.addedAt, command.auditContext,
        targeting "batch" command.batchId [("document_id", .uuid command.documentId)]⟩ saved
        ⟨saved, organization, batch, document, rfl, .inr ⟨snapshot, rfl, only⟩, rfl⟩
  · cases failure with
    | documentNotFound message =>
        refine (rollback uncommitted).bind ?_
        rintro _ _ rfl
        exact Passes.throw trivial
    | _ => exact Passes.throw uncommitted

theorem Passes.removeBatchDocument (command : BatchDocumentCommand)
    : Passes services.platform.unicode services.audited tenant.organizationId .rested
        (BatchService.removeDocument services command tenant)
        (fun removed =>
          (BatchCall.removeDocument command).Settled services tenant (.removed removed)) := by
  refine (lifted (by exact trivial) _).andThen (fun _ => ?_)
  refine (getBatch _).andThen (fun _ => ?_)
  rw [BatchRepository.removeDocument_eq]
  refine (removeDocument batchMembershipTable rfl (fun _ => rfl) _ _ _).bind ?_
  rintro _ _ ⟨snapshot, rows, chosen, rfl, rfl⟩
  refine (nowOr _).andThen (fun now => ?_)
  exact settle ⟨.batchDocumentRemoved, now, command.auditContext,
    targeting "batch" command.batchId
      [("document_id", .uuid command.documentId), ("removed", .bool (rows.length != 0))]⟩ _
    ⟨snapshot, rows, now, chosen, rfl, rfl, rfl⟩

theorem Passes.listBatches (query : BatchListFilter)
    : Passes u audited organizationId .rested (BatchService.listBatches services tenant query)
        (fun _ later => later = .rested) := by
  refine (lifted (by exact trivial) _).andThen (fun _ => ?_)
  refine (enter (by exact trivial) _).andThen (fun _ => ?_)
  refine (select (by exact rfl)).andThen (fun counted => ?_)
  refine (select (by exact rfl)).andThen (fun db => ?_)
  refine (lifted (by exact trivial) _).andThen (fun rows => ?_)
  refine (lifted (by exact trivial) _).andThen (fun items => ?_)
  exact Passes.pure rfl

theorem Passes.listBatchDocuments (batchId : UUID)
    : Passes u audited organizationId .rested (BatchService.listDocuments services batchId tenant)
        (fun _ later => later = .rested) := by
  refine (getBatch _).andThen (fun _ => ?_)
  refine (enter (by exact trivial) _).andThen (fun _ => ?_)
  refine (select (by exact rfl)).andThen (fun db => ?_)
  exact lifted (by exact trivial) _

/-- The calls that only read. -/
def BatchCall.reads : BatchCall → Bool
  | get _ | listBatches _ | listDocuments _ => true
  | _ => false

/-- A returning batch call has read only, or its change is settled. -/
theorem BatchCall.passes (call : BatchCall)
    : Passes services.platform.unicode services.audited tenant.organizationId .rested
        (call.useCase services tenant)
        (fun reply later =>
          call.reads = true ∧ later = .rested ∨ call.Settled services tenant reply later) := by
  cases call with
  | create command =>
      exact (Passes.createBatch command).bind (fun _ _ settled => .pure (.inr settled))
  | get batchId => exact (Passes.getBatch batchId).andThen (fun _ => .pure (.inl ⟨rfl, rfl⟩))
  | listBatches query => exact (Passes.listBatches query).andThen (fun _ => .pure (.inl ⟨rfl, rfl⟩))
  | update command =>
      exact (Passes.updateBatchCall command).bind (fun _ _ settled => .pure (.inr settled))
  | addDocument command =>
      exact (Passes.addBatchDocument command).bind (fun _ _ settled => .pure (.inr settled))
  | removeDocument command =>
      exact (Passes.removeBatchDocument command).bind (fun _ _ settled => .pure (.inr settled))
  | archive command =>
      exact (Passes.archiveBatch command).bind (fun _ _ settled => .pure (.inr settled))
  | listDocuments batchId =>
      exact (Passes.listBatchDocuments batchId).andThen (fun _ => .pure (.inl ⟨rfl, rfl⟩))

end Batches

-----------------------------------------------------------------------------------------
-- Case calls
-----------------------------------------------------------------------------------------

/-- A case that a call with an expected version has changed. -/
structure Case.Changed (u : Unicode) (tenant : TenantContext) (caseId : UUID)
    (lockVersion : Nat) (operation : Case → Timestamp → Except Exn Case)
    (eventType : AuditEventType) (auditContext : Option AuditRequestContext)
    (reply : CaseReply) (change : Change) (report : Report) (old case : Case)
    : Prop where
  expected : old.Expected tenant caseId lockVersion
  operated : ∃ loaded now, caseFromRecord u old = .ok loaded ∧ operation loaded now = .ok case
  reply : reply = .case case
  change : change = .revised .cases old case
  report
    : report = {
      eventType
      occurredAt := case.updatedAt
      requestContext := auditContext
      metadata := targeting "case" case.id []
    }

/-- A task that a call with an expected version has changed. -/
structure CaseTask.Changed (tenant : TenantContext) (caseId taskId : UUID)
    (lockVersion : Nat) (operation : CaseTask → Timestamp → CaseTask)
    (eventType : AuditEventType) (auditContext : Option AuditRequestContext)
    (reply : CaseReply) (change : Change) (report : Report) (old task : CaseTask)
    : Prop where
  expected : old.Expected tenant caseId taskId lockVersion
  operated : ∃ now, operation old now = task
  reply : reply = .task task
  change : change = .revised .caseTasks old task
  report
    : report = {
      eventType
      occurredAt := task.updatedAt
      requestContext := auditContext
      metadata := targeting "case" caseId [("task_id", .uuid task.id)]
    }

/-- What a returning case call has changed and reported. -/
def CaseCall.Makes (u : Unicode) (tenant : TenantContext)
    : CaseCall → CaseReply → Change → Report → Prop
  | create command, reply, change, report =>
      ∃ id timestamp case,
        Case.create u id tenant.organizationId command.title command.summary command.priority
            command.externalReference tenant.userId timestamp
          = .ok case
        ∧ reply = .case case
        ∧ change = .inserted .cases case
        ∧ report = {
          eventType := .caseCreated
          occurredAt := timestamp
          requestContext := command.auditContext
          metadata := targeting "case" case.id []
        }
  | update command, reply, change, report =>
      ∃ old case,
        Case.Changed u tenant command.caseId command.lockVersion
          (fun loaded now =>
            loaded.update u command.title command.summary command.priority
              command.externalReference tenant.userId now)
          .caseUpdated command.auditContext reply change report old case
  | close command, reply, change, report =>
      ∃ old case,
        Case.Changed u tenant command.caseId command.lockVersion
          (fun loaded now => loaded.close u tenant.userId now) .caseClosed command.auditContext
          reply change report old case
  | reopen command, reply, change, report =>
      ∃ old case,
        Case.Changed u tenant command.caseId command.lockVersion
          (fun loaded now => loaded.reopen u tenant.userId now) .caseReopened
          command.auditContext reply change report old case
  | archive command, reply, change, report =>
      ∃ old case,
        Case.Changed u tenant command.caseId command.lockVersion
          (fun loaded now => loaded.archive u tenant.userId now) .caseArchived
          command.auditContext reply change report old case
  | addDocument command, reply, change, report =>
      ∃ saved : CaseDocument,
        saved.organizationId = tenant.organizationId
        ∧ saved.caseId = command.caseId
        ∧ saved.documentId = command.documentId
        ∧ reply = .membership saved
        ∧ (saved.addedByUserId = tenant.userId ∧ change = .inserted .caseDocuments saved
          ∨ ∃ snapshot : Database,
              change = .found snapshot
              ∧ caseMembershipTable.rows snapshot tenant.organizationId command.caseId
                  command.documentId
                = [saved])
        ∧ report = {
          eventType := .caseDocumentAdded
          occurredAt := saved.addedAt
          requestContext := command.auditContext
          metadata := targeting "case" command.caseId [("document_id", .uuid command.documentId)]
        }
  | removeDocument command, reply, change, report =>
      ∃ (snapshot : Database) (rows : List CaseDocument) (now : Timestamp),
        rows
          = caseMembershipTable.rows snapshot tenant.organizationId command.caseId
              command.documentId
        ∧ reply = .removed (rows.length != 0)
        ∧ change = .removed .caseDocuments snapshot rows
        ∧ report = {
          eventType := .caseDocumentRemoved
          occurredAt := now
          requestContext := command.auditContext
          metadata := targeting "case" command.caseId
            [("document_id", .uuid command.documentId), ("removed", .bool (rows.length != 0))]
        }
  | createComment command, reply, change, report =>
      ∃ saved : CaseComment,
        saved.organizationId = tenant.organizationId
        ∧ saved.caseId = command.caseId
        ∧ saved.body = command.body
        ∧ saved.createdByUserId = tenant.userId
        ∧ reply = .comment saved
        ∧ change = .inserted .caseComments saved
        ∧ report = {
          eventType := .caseCommentCreated
          occurredAt := saved.createdAt
          requestContext := command.auditContext
          metadata := targeting "case" command.caseId []
        }
  | createTask command, reply, change, report =>
      ∃ saved : CaseTask,
        saved.organizationId = tenant.organizationId
        ∧ saved.caseId = command.caseId
        ∧ saved.title = command.title
        ∧ saved.description = command.description
        ∧ saved.assignedToUserId = command.assignedToUserId
        ∧ saved.dueAt = command.dueAt
        ∧ saved.createdByUserId = tenant.userId
        ∧ reply = .task saved
        ∧ change = .inserted .caseTasks saved
        ∧ report = {
          eventType := .caseTaskCreated
          occurredAt := saved.createdAt
          requestContext := command.auditContext
          metadata := targeting "case" command.caseId []
        }
  | updateTask command, reply, change, report =>
      ∃ old task,
        CaseTask.Changed tenant command.caseId command.taskId command.lockVersion
          (fun old now =>
            old.update command.title command.description command.assignedToUserId command.dueAt
              tenant.userId now)
          .caseTaskUpdated command.auditContext reply change report old task
  | completeTask command, reply, change, report =>
      ∃ old task,
        CaseTask.Changed tenant command.caseId command.taskId command.lockVersion
          (fun old now => old.complete tenant.userId now) .caseTaskCompleted
          command.auditContext reply change report old task
  | createDecision command, reply, change, report =>
      ∃ saved : CaseDecision,
        saved.organizationId = tenant.organizationId
        ∧ saved.caseId = command.caseId
        ∧ saved.decisionType = command.decisionType
        ∧ saved.rationale = command.rationale
        ∧ saved.createdByUserId = tenant.userId
        ∧ reply = .decision saved
        ∧ change = .inserted .caseDecisions saved
        ∧ report = {
          eventType := .caseDecisionCreated
          occurredAt := saved.createdAt
          requestContext := command.auditContext
          metadata := targeting "case" command.caseId []
        }
  | get _, _, _, _ | listCases _, _, _, _ | details _, _, _, _ => False

section Cases

variable {services : Services} {tenant : TenantContext}

/-- The stage of a call that returns the reply. -/
abbrev CaseCall.Settled (services : Services) (tenant : TenantContext) (call : CaseCall)
    (reply : CaseReply) (stage : Stage)
    : Prop :=
  stage.Settled services tenant (call.Makes services.platform.unicode tenant reply)

theorem Passes.createCase (command : CreateCaseCommand)
    : Passes services.platform.unicode services.audited tenant.organizationId .rested
        (CaseService.create services command tenant)
        (fun case => (CaseCall.create command).Settled services tenant (.case case)) := by
  refine (lifted (by exact trivial) _).andThen (fun _ => ?_)
  refine (nowOr _).andThen (fun timestamp => ?_)
  refine (newUuid _).andThen (fun id => ?_)
  refine (liftExcept (by exact trivial) _).bind ?_
  rintro case _ ⟨created, rfl⟩
  have owned : case.organizationId = tenant.organizationId := by
    obtain ⟨_, _, _, -, -, -, -, rfl⟩ := Case.postInit_eq_ok created
    rfl
  refine (addCase ⟨_, _, _, _, _, _, _, _, created⟩ owned).bind ?_
  rintro saved _ ⟨rfl, rfl⟩
  exact settle ⟨.caseCreated, timestamp, command.auditContext, targeting "case" saved.id []⟩
    saved ⟨id, timestamp, saved, created, rfl, rfl, rfl⟩

/-- The calls that lock a case, change it and save it. -/
theorem Passes.changeCase {caseId : UUID} {lockVersion : Nat} {permission : Permission}
    {operation : Case → Timestamp → Except Exn Case} {eventType : AuditEventType}
    {auditContext : Option AuditRequestContext}
    (revises
      : ∀ loaded now case,
          operation loaded now = .ok case → loaded.Revises services.platform.unicode case)
    : Passes services.platform.unicode services.audited tenant.organizationId .rested
        (do
          WorkflowForge.liftExcept (require tenant permission)
          let case ← CaseService.lockedCase services caseId tenant lockVersion
          let now ← WorkflowForge.nowOr none
          CaseService.saveCase services (operation case now) eventType tenant auditContext)
        (fun reply later =>
          later.Settled services tenant (fun change report =>
            ∃ old case,
              Case.Changed services.platform.unicode tenant caseId lockVersion operation
                eventType auditContext (.case reply) change report old case)) := by
  refine (lifted (by exact trivial) _).andThen (fun _ => ?_)
  refine (lockedCase _ _).bind ?_
  rintro loaded _ ⟨old, rfl, expected, found⟩
  refine (nowOr _).andThen (fun now => ?_)
  refine (liftExcept (by exact trivial) _).bind ?_
  rintro case _ ⟨operated, rfl⟩
  refine (updateCase found (revises _ _ _ operated) expected.organizationId).bind ?_
  rintro saved _ ⟨rfl, rfl⟩
  exact settle ⟨eventType, saved.updatedAt, auditContext, targeting "case" saved.id []⟩ saved
    ⟨old, saved, expected, ⟨loaded, now, found, operated⟩, rfl, rfl, rfl⟩

/-- The calls that lock a task, change it and save it. -/
theorem Passes.changeTask {caseId taskId : UUID} {lockVersion : Nat}
    {operation : CaseTask → Timestamp → CaseTask} {eventType : AuditEventType}
    {auditContext : Option AuditRequestContext}
    (revises : ∀ old now, CaseTask.Revises old (operation old now))
    : Passes u services.audited tenant.organizationId .rested
        (do
          WorkflowForge.liftExcept (require tenant .caseTask)
          let task ← CaseService.lockedTask services caseId taskId tenant lockVersion
          let now ← WorkflowForge.nowOr none
          CaseService.saveTask services (operation task now) eventType caseId tenant
            auditContext)
        (fun reply later =>
          later.Settled services tenant (fun change report =>
            ∃ old task,
              CaseTask.Changed tenant caseId taskId lockVersion operation eventType
                auditContext (.task reply) change report old task)) := by
  refine (lifted (by exact trivial) _).andThen (fun _ => ?_)
  refine (lockedTask _ _ _).bind ?_
  rintro old _ ⟨rfl, expected⟩
  refine (nowOr _).andThen (fun now => ?_)
  refine (updateTask (revises old now) expected.organizationId).bind ?_
  rintro saved _ ⟨rfl, rfl⟩
  exact settle ⟨eventType, _, auditContext, targeting "case" caseId [("task_id", .uuid _)]⟩ _
    ⟨old, _, expected, ⟨now, rfl⟩, rfl, rfl, rfl⟩

theorem Passes.addCaseDocument (command : CaseDocumentCommand)
    : Passes u services.audited tenant.organizationId .rested
        (CaseService.addDocument services command tenant)
        (fun saved later =>
          later.Settled services tenant
            ((CaseCall.addDocument command).Makes u tenant (.membership saved))) := by
  refine (lifted (by exact trivial) _).andThen (fun _ => ?_)
  refine (getCase _).andThen (fun _ => ?_)
  refine (newUuid _).andThen (fun id => ?_)
  refine (nowOr _).andThen (fun addedAt => ?_)
  rw [CaseRepository.addDocument_eq]
  refine (addDocument caseMembershipTable (by exact trivial) (by exact rfl)
    (fun _ _ loaded => (Except.ok.inj loaded).symm) (fun _ _ _ => rfl)).bind ?_
  rintro saved _ (⟨rfl, rfl⟩ | ⟨snapshot, rfl, only⟩)
  · exact settle ⟨.caseDocumentAdded, _, command.auditContext,
      targeting "case" command.caseId [("document_id", .uuid command.documentId)]⟩ _
      ⟨_, rfl, rfl, rfl, rfl, .inl ⟨rfl, rfl⟩, rfl⟩
  · obtain ⟨-, organization, case, document⟩ :=
      MembershipTable.mem_rows.mp (only ▸ List.mem_singleton_self saved)
    exact settle ⟨.caseDocumentAdded, saved.addedAt, command.auditContext,
      targeting "case" command.caseId [("document_id", .uuid command.documentId)]⟩ saved
      ⟨saved, organization, case, document, rfl, .inr ⟨snapshot, rfl, only⟩, rfl⟩

theorem Passes.removeCaseDocument (command : CaseDocumentCommand)
    : Passes u services.audited tenant.organizationId .rested
        (CaseService.removeDocument services command tenant)
        (fun removed later =>
          later.Settled services tenant
            ((CaseCall.removeDocument command).Makes u tenant (.removed removed))) := by
  refine (lifted (by exact trivial) _).andThen (fun _ => ?_)
  refine (getCase _).andThen (fun _ => ?_)
  rw [CaseRepository.removeDocument_eq]
  refine (removeDocument caseMembershipTable rfl (fun _ => rfl) _ _ _).bind ?_
  rintro _ _ ⟨snapshot, rows, chosen, rfl, rfl⟩
  refine (nowOr _).andThen (fun now => ?_)
  exact settle ⟨.caseDocumentRemoved, now, command.auditContext,
    targeting "case" command.caseId
      [("document_id", .uuid command.documentId), ("removed", .bool (rows.length != 0))]⟩ _
    ⟨snapshot, rows, now, chosen, rfl, rfl, rfl⟩

/-- The repository methods that insert a child record of a case. -/
theorem Passes.addChild {t : TableName} {row : TableRow t} (opens : RowOpens u t row)
    (owned : rowOrganization t row = some organizationId)
    : Passes u audited organizationId .rested
        (do
          WorkflowForge.enter .caseRepository
          WorkflowForge.insert t row
          return row)
        (fun saved later => saved = row ∧ later = .writing (.inserted t row) []) := by
  refine (enter (by exact trivial) _).andThen (fun _ => ?_)
  refine (insert opens owned).bind ?_
  rintro _ _ rfl
  exact Passes.pure ⟨rfl, rfl⟩

theorem Passes.createComment (command : CreateCaseCommentCommand)
    : Passes u services.audited tenant.organizationId .rested
        (CaseService.createComment services command tenant)
        (fun saved later =>
          later.Settled services tenant
            ((CaseCall.createComment command).Makes u tenant (.comment saved))) := by
  refine (lifted (by exact trivial) _).andThen (fun _ => ?_)
  refine (getCase _).andThen (fun _ => ?_)
  refine (newUuid _).andThen (fun id => ?_)
  refine (nowOr _).andThen (fun createdAt => ?_)
  refine (addChild (t := .caseComments) (by exact trivial) (by exact rfl)).bind ?_
  rintro saved _ ⟨rfl, rfl⟩
  exact settle ⟨.caseCommentCreated, createdAt, command.auditContext,
    targeting "case" command.caseId []⟩ _ ⟨_, rfl, rfl, rfl, rfl, rfl, rfl, rfl⟩

theorem Passes.createTask (command : CreateCaseTaskCommand)
    : Passes u services.audited tenant.organizationId .rested
        (CaseService.createTask services command tenant)
        (fun saved later =>
          later.Settled services tenant
            ((CaseCall.createTask command).Makes u tenant (.task saved))) := by
  refine (lifted (by exact trivial) _).andThen (fun _ => ?_)
  refine (getCase _).andThen (fun _ => ?_)
  refine (nowOr _).andThen (fun timestamp => ?_)
  refine (newUuid _).andThen (fun id => ?_)
  refine (addChild (t := .caseTasks) (by exact ⟨rfl, rfl, rfl, rfl⟩) (by exact rfl)).bind ?_
  rintro saved _ ⟨rfl, rfl⟩
  exact settle ⟨.caseTaskCreated, timestamp, command.auditContext,
    targeting "case" command.caseId []⟩ _
    ⟨_, rfl, rfl, rfl, rfl, rfl, rfl, rfl, rfl, rfl, rfl⟩

theorem Passes.createDecision (command : CreateCaseDecisionCommand)
    : Passes u services.audited tenant.organizationId .rested
        (CaseService.createDecision services command tenant)
        (fun saved later =>
          later.Settled services tenant
            ((CaseCall.createDecision command).Makes u tenant (.decision saved))) := by
  refine (lifted (by exact trivial) _).andThen (fun _ => ?_)
  refine (getCase _).andThen (fun _ => ?_)
  refine (newUuid _).andThen (fun id => ?_)
  refine (nowOr _).andThen (fun createdAt => ?_)
  refine (addChild (t := .caseDecisions) (by exact trivial) (by exact rfl)).bind ?_
  rintro saved _ ⟨rfl, rfl⟩
  exact settle ⟨.caseDecisionCreated, createdAt, command.auditContext,
    targeting "case" command.caseId []⟩ _ ⟨_, rfl, rfl, rfl, rfl, rfl, rfl, rfl, rfl⟩

theorem Passes.listCases (query : CaseListFilter)
    : Passes u audited organizationId .rested (CaseService.listCases services tenant query)
        (fun _ later => later = .rested) := by
  refine (lifted (by exact trivial) _).andThen (fun _ => ?_)
  refine (enter (by exact trivial) _).andThen (fun _ => ?_)
  refine (select (by exact rfl)).andThen (fun counted => ?_)
  refine (select (by exact rfl)).andThen (fun db => ?_)
  refine (lifted (by exact trivial) _).andThen (fun rows => ?_)
  refine (lifted (by exact trivial) _).andThen (fun items => ?_)
  exact Passes.pure rfl

/-- One of the listings of the child records. -/
theorem Passes.listChildren {α : Type} {query : Query} (other : query.looksUp = false)
    (rows : Database → α)
    : Passes u audited organizationId .rested
        (do
          WorkflowForge.enter .caseRepository
          let db ← WorkflowForge.select query
          return rows db)
        (fun _ later => later = .rested) := by
  refine (enter (by exact trivial) _).andThen (fun _ => ?_)
  exact (select other).andThen (fun db => Passes.pure rfl)

theorem Passes.details (caseId : UUID)
    : Passes u audited organizationId .rested (CaseService.details services caseId tenant)
        (fun _ later => later = .rested) := by
  refine (getCase _).andThen (fun _ => ?_)
  refine (listChildren (by exact rfl) _).andThen (fun documents => ?_)
  refine (listChildren (by exact rfl) _).andThen (fun comments => ?_)
  refine (listChildren (by exact rfl) _).andThen (fun tasks => ?_)
  refine (listChildren (by exact rfl) _).andThen (fun decisions => ?_)
  exact Passes.pure rfl

/-- The calls that only read. -/
def CaseCall.reads : CaseCall → Bool
  | get _ | listCases _ | details _ => true
  | _ => false

/-- A returning case call has read only, or its change is settled. -/
theorem CaseCall.passes (call : CaseCall)
    : Passes services.platform.unicode services.audited tenant.organizationId .rested
        (call.useCase services tenant)
        (fun reply later =>
          call.reads = true ∧ later = .rested ∨ call.Settled services tenant reply later) := by
  cases call with
  | create command =>
      exact (Passes.createCase command).bind (fun _ _ settled => .pure (.inr settled))
  | get caseId => exact (Passes.getCase caseId).andThen (fun _ => .pure (.inl ⟨rfl, rfl⟩))
  | listCases query => exact (Passes.listCases query).andThen (fun _ => .pure (.inl ⟨rfl, rfl⟩))
  | update command =>
      exact (Passes.changeCase (fun _ _ _ => .update)).bind
        (fun _ _ settled => .pure (.inr settled))
  | addDocument command =>
      exact (Passes.addCaseDocument command).bind (fun _ _ settled => .pure (.inr settled))
  | removeDocument command =>
      exact (Passes.removeCaseDocument command).bind (fun _ _ settled => .pure (.inr settled))
  | createComment command =>
      exact (Passes.createComment command).bind (fun _ _ settled => .pure (.inr settled))
  | createTask command =>
      exact (Passes.createTask command).bind (fun _ _ settled => .pure (.inr settled))
  | updateTask command =>
      exact (Passes.changeTask (fun _ _ => .update ..)).bind
        (fun _ _ settled => .pure (.inr settled))
  | completeTask command =>
      exact (Passes.changeTask (fun _ _ => .complete ..)).bind
        (fun _ _ settled => .pure (.inr settled))
  | createDecision command =>
      exact (Passes.createDecision command).bind (fun _ _ settled => .pure (.inr settled))
  | close command =>
      exact (Passes.changeCase (fun _ _ _ => .close)).bind (fun _ _ settled => .pure (.inr settled))
  | reopen command =>
      exact (Passes.changeCase (fun _ _ _ => .reopen)).bind
        (fun _ _ settled => .pure (.inr settled))
  | archive command =>
      exact (Passes.changeCase (fun _ _ _ => .archive)).bind
        (fun _ _ settled => .pure (.inr settled))
  | details caseId => exact (Passes.details caseId).andThen (fun _ => .pure (.inl ⟨rfl, rfl⟩))

end Cases

end WorkflowForge
