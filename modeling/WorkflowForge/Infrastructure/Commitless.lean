import WorkflowForge.Concurrency.Contracts
import WorkflowForge.Infrastructure.BatchRepository
import WorkflowForge.Infrastructure.CaseRepository
import WorkflowForge.Infrastructure.ObjectStorage
import WorkflowForge.Infrastructure.Returns
import WorkflowForge.Transactions.Isolation

/-! Programs that commit nothing and write no object leave everything as it was. -/

namespace WorkflowForge

open Python Transactions Concurrency

/-- Everything but COMMIT and the writing calls of the object store. -/
def Op.Commitless : Op → Prop
  | .sql .commit => False
  | .putObject _ _ _ => False
  | .copyObject _ _ _ => False
  | .deleteObject _ => False
  | _ => True

def commitless : Contract Op Op.Answer where
  may := Op.Commitless
  learns _ _ := True

/-- The program makes no other operations, whatever it is answered. -/
abbrev Commitless {α : Type} (program : App α) : Prop := Keeps commitless (fun _ => True) program

/-- Counting a client call leaves the store and the objects. -/
theorem World.clientCall_kept {world next : World} {outcome : ClientOutcome}
    (counted : world.clientCall = (outcome, next))
    : next.store = world.store ∧ next.objects = world.objects := by
  obtain ⟨-, rfl⟩ := Prod.mk.inj counted
  exact ⟨rfl, rfl⟩

/-- What one operation leaves. -/
theorem Op.Commitless.kept {i : Nat} {world after : World} {op : Op} {answer : op.Answer}
    (allowed : op.Commitless) (ran : exec i op world = some (answer, after))
    : after.store.committed = world.store.committed ∧ after.objects = world.objects := by
  cases op with
  | sql statement =>
      simp only [exec] at ran
      split at ran
      · cases ran
      · rename_i reply store executed
        obtain ⟨-, rfl⟩ := Prod.mk.inj (Option.some.inj ran)
        refine ⟨Store.exec_committed executed ?_, rfl⟩
        rintro rfl
        exact allowed
  | enter port =>
      obtain ⟨-, rfl⟩ := Prod.mk.inj (Option.some.inj ran)
      exact ⟨rfl, rfl⟩
  | now =>
      obtain ⟨-, rfl⟩ := Prod.mk.inj (Option.some.inj ran)
      exact ⟨rfl, rfl⟩
  | newUuid =>
      obtain ⟨-, rfl⟩ := Prod.mk.inj (Option.some.inj ran)
      exact ⟨rfl, rfl⟩
  | putObject key body mediaType => exact absurd allowed id
  | copyObject source destination mediaType => exact absurd allowed id
  | deleteObject key => exact absurd allowed id
  | headObject key =>
      simp only [exec] at ran
      split at ran
      · rename_i counted
        have kept := World.clientCall_kept counted
        split at ran
        all_goals
          obtain ⟨-, rfl⟩ := Prod.mk.inj (Option.some.inj ran)
          exact ⟨congrArg Store.committed kept.1, kept.2⟩
      · rename_i counted
        have kept := World.clientCall_kept counted
        obtain ⟨-, rfl⟩ := Prod.mk.inj (Option.some.inj ran)
        exact ⟨congrArg Store.committed kept.1, kept.2⟩
  | presignUrl key expiresInSeconds =>
      simp only [exec] at ran
      split at ran
      all_goals
        rename_i counted
        have kept := World.clientCall_kept counted
        obtain ⟨-, rfl⟩ := Prod.mk.inj (Option.some.inj ran)
        exact ⟨congrArg Store.committed kept.1, kept.2⟩

/-- A program that commits nothing, run alone, leaves tables and objects as they are. -/
theorem Commitless.kept {α : Type} {program : App α} {i : Nat} {world after : World}
    {result : Except Exn α} (commitless : Commitless program)
    (ran : App.run i program world = some (result, after))
    : after.store.committed = world.store.committed ∧ after.objects = world.objects := by
  have respected
      : ∀ op state answer next,
          (state.store.committed = world.store.committed ∧ state.objects = world.objects)
          → WorkflowForge.commitless.may op
          → exec i op state = some (answer, next)
          → (next.store.committed = world.store.committed ∧ next.objects = world.objects)
            ∧ WorkflowForge.commitless.learns op answer := by
    intro op state answer next same allowed step
    have kept := Op.Commitless.kept allowed step
    exact ⟨⟨kept.1.trans same.1, kept.2.trans same.2⟩, trivial⟩
  exact (Keeps.run respected commitless ⟨rfl, rfl⟩ ran).1

-----------------------------------------------------------------------------------------
-- Building such programs
-----------------------------------------------------------------------------------------

variable {α β : Type} {u : Unicode}

namespace Commitless

theorem andThen {program : App α} {next : α → App β} (first : Commitless program)
    (second : ∀ value, Commitless (next value))
    : Commitless (program >>= next) :=
  Keeps.bind first (fun value _ => second value)

theorem pure (value : α) : Commitless (Pure.pure value : App α) := Keeps.pure trivial

theorem throw (failure : Exn) : Commitless (MonadExcept.throw failure : App α) :=
  Keeps.throw failure

theorem liftExcept (result : Except Exn α) : Commitless (liftExcept result) :=
  Keeps.ofExcept (fun _ _ => trivial)

/-- A refused check ends the program before it does anything. -/
theorem refused {tenant : TenantContext} {permission : Permission} {next : Unit → App β}
    (denied : allows tenant permission = false)
    : Commitless (WorkflowForge.liftExcept (require tenant permission) >>= next) := by
  simp only [require, denied, WorkflowForge.liftExcept, Program.ofExcept]
  exact Commitless.throw _

theorem enter (port : Port) : Commitless (enter port) := by
  refine andThen (Keeps.perform trivial) (fun raised => ?_)
  cases raised
  · exact pure ()
  · exact throw _

theorem select (query : Query) : Commitless (select query) := Keeps.perform trivial

theorem insert (t : TableName) (row : TableRow t) : Commitless (insert t row) := by
  refine andThen (Keeps.perform trivial) fun answer => ?_
  cases answer with
  | ok value => exact pure ()
  | error violation => cases violation <;> exact throw _

theorem rollback : Commitless rollback :=
  andThen (enter _) (fun _ => Keeps.perform trivial)

theorem newUuid : Commitless newUuid := Keeps.perform trivial

theorem nowOr (now : Option Datetime) : Commitless (nowOr now) := by
  cases now with
  | none => exact Keeps.perform trivial
  | some time =>
      cases time with
      | aware instant => exact pure instant
      | naive wall => exact throw _

theorem auditRecord (event : AuditEvent) : Commitless (AuditRepository.record event) := by
  refine andThen (enter _) (fun _ => ?_)
  exact Keeps.tryCatch (insert _ _) (fun _ => throw _)

/-- The request adds a rollback. -/
theorem request {program : App α} (commitless : Commitless program)
    : Commitless (request program) := by
  have ended
      : Commitless
          (tryCatch (do return Except.ok (← program)) (fun failure => return .error failure)) :=
    Keeps.tryCatch (andThen commitless (fun _ => pure _)) (fun _ => pure _)
  exact andThen ended (fun result => andThen (Keeps.perform trivial) (fun _ => liftExcept result))

end Commitless

/-- Where the program raises, it has committed nothing. -/
def RaisesUnsaved (program : App α) : Prop :=
  ∀ i world failure after,
    App.run i program world = some (.error failure, after)
    → after.store.committed = world.store.committed

namespace RaisesUnsaved

theorem of_commitless {program : App α} (commitless : Commitless program)
    : RaisesUnsaved program :=
  fun _ _ _ _ raised => (commitless.kept raised).1

theorem andThen {program : App α} {next : α → App β} (first : Commitless program)
    (second : ∀ value, RaisesUnsaved (next value))
    : RaisesUnsaved (program >>= next) := by
  intro i world failure after raised
  rcases Returns.bind_raises raised with early | ⟨value, middle, returned, late⟩
  · exact (first.kept early).1
  · exact (second value i middle failure after late).trans (first.kept returned).1

/-- COMMIT is the last operation; the port in front of it may raise. -/
theorem commit (value : α)
    : RaisesUnsaved (do
        WorkflowForge.commit
        return value) := by
  intro i world failure after raised
  rcases Returns.bind_raises raised with early | ⟨_, middle, -, late⟩
  · rcases Returns.bind_raises early with refused | ⟨_, _, -, late⟩
    · exact ((Commitless.enter .commit).kept refused).1
    · cases late
  · cases late

theorem tryCatch {program : App α} {handler : Exn → App α} (guarded : RaisesUnsaved program)
    (handled : ∀ failure, Commitless (handler failure))
    : RaisesUnsaved (MonadExcept.tryCatch program handler) := by
  intro i world failure after raised
  obtain ⟨first, middle, early, late⟩ := Returns.tryCatch_raises raised
  exact ((handled first).kept late).1.trans (guarded i world first middle early)

theorem request {program : App α} (unsaved : RaisesUnsaved program)
    : RaisesUnsaved (request program) := by
  intro i world failure after raised
  rw [run_request] at raised
  obtain ⟨⟨result, middle⟩, ran, ended⟩ := Option.map_eq_some_iff.mp raised
  obtain ⟨rfl, rfl⟩ := Prod.mk.inj ended
  exact unsaved i world failure middle ran

end RaisesUnsaved

-----------------------------------------------------------------------------------------
-- Repository lookups
-----------------------------------------------------------------------------------------

namespace DocumentRepository

theorem getDocument_commitless (organizationId documentId : UUID)
    : Commitless (getDocument u organizationId documentId) := by
  refine Commitless.andThen (Commitless.enter _) (fun _ => ?_)
  refine Commitless.andThen (Commitless.select _) (fun db => ?_)
  cases documentRecord db organizationId documentId with
  | none => exact Commitless.pure _
  | some record => exact Commitless.andThen (Commitless.liftExcept _) (fun _ => Commitless.pure _)

theorem getVersion_commitless (organizationId documentId versionId : UUID)
    : Commitless (getVersion u organizationId documentId versionId) := by
  refine Commitless.andThen (Commitless.enter _) (fun _ => ?_)
  refine Commitless.andThen (Commitless.select _) (fun db => ?_)
  split
  · exact Commitless.pure _
  · exact Commitless.andThen (Commitless.liftExcept _) (fun _ => Commitless.pure _)

theorem getArtifact_commitless (organizationId documentId artifactId : UUID)
    : Commitless (getArtifact u organizationId documentId artifactId) := by
  refine Commitless.andThen (Commitless.enter _) (fun _ => ?_)
  refine Commitless.andThen (Commitless.select _) (fun db => ?_)
  split
  · exact Commitless.pure _
  · exact Commitless.andThen (Commitless.liftExcept _) (fun _ => Commitless.pure _)

theorem listVersions_commitless (organizationId documentId : UUID)
    : Commitless (listVersions u organizationId documentId) :=
  Commitless.andThen (Commitless.enter _) (fun _ =>
    Commitless.andThen (Commitless.select _) (fun _ => Commitless.liftExcept _))

theorem listArtifacts_commitless (organizationId documentId : UUID)
    : Commitless (listArtifacts u organizationId documentId) :=
  Commitless.andThen (Commitless.enter _) (fun _ =>
    Commitless.andThen (Commitless.select _) (fun _ => Commitless.liftExcept _))

theorem listDocuments_commitless (organizationId : UUID) (query : DocumentListFilter)
    : Commitless (listDocuments u organizationId query) := by
  refine Commitless.andThen (Commitless.enter _) (fun _ => ?_)
  refine Commitless.andThen (Commitless.select _) (fun _ => ?_)
  refine Commitless.andThen (Commitless.select _) (fun _ => ?_)
  exact Commitless.andThen (Commitless.liftExcept _) (fun _ => Commitless.pure _)

end DocumentRepository

theorem createDownloadUrl_commitless (key : StorageObjectKey) (expiresInSeconds : Int)
    (now : Timestamp)
    : Commitless (ObjectStorage.createDownloadUrl key expiresInSeconds now) := by
  refine Commitless.andThen (Commitless.enter _) (fun _ => ?_)
  dsimp only
  split
  · exact Commitless.throw _
  · refine Commitless.andThen (Keeps.perform trivial) (fun signed => ?_)
    cases signed with
    | none => exact Commitless.throw _
    | some url => exact Commitless.pure _

namespace BatchRepository

theorem get_commitless (organizationId batchId : UUID)
    : Commitless (get u organizationId batchId) := by
  refine Commitless.andThen (Commitless.enter _) (fun _ => ?_)
  refine Commitless.andThen (Commitless.select _) (fun db => ?_)
  cases batchRecord db organizationId batchId with
  | none => exact Commitless.pure _
  | some record => exact Commitless.andThen (Commitless.liftExcept _) (fun _ => Commitless.pure _)

theorem listBatches_commitless (organizationId : UUID) (query : BatchListFilter)
    : Commitless (listBatches u organizationId query) := by
  refine Commitless.andThen (Commitless.enter _) (fun _ => ?_)
  refine Commitless.andThen (Commitless.select _) (fun _ => ?_)
  refine Commitless.andThen (Commitless.select _) (fun _ => ?_)
  refine Commitless.andThen (Commitless.liftExcept _) (fun _ => ?_)
  exact Commitless.andThen (Commitless.liftExcept _) (fun _ => Commitless.pure _)

theorem listDocuments_commitless (organizationId batchId : UUID)
    : Commitless (listDocuments organizationId batchId) :=
  Commitless.andThen (Commitless.enter _) (fun _ =>
    Commitless.andThen (Commitless.select _) (fun _ => Commitless.liftExcept _))

end BatchRepository

namespace CaseRepository

theorem get_commitless (organizationId caseId : UUID)
    : Commitless (get u organizationId caseId) := by
  refine Commitless.andThen (Commitless.enter _) (fun _ => ?_)
  refine Commitless.andThen (Commitless.select _) (fun db => ?_)
  cases caseRecord db organizationId caseId with
  | none => exact Commitless.pure _
  | some record => exact Commitless.andThen (Commitless.liftExcept _) (fun _ => Commitless.pure _)

theorem listCases_commitless (organizationId : UUID) (query : CaseListFilter)
    : Commitless (listCases u organizationId query) := by
  refine Commitless.andThen (Commitless.enter _) (fun _ => ?_)
  refine Commitless.andThen (Commitless.select _) (fun _ => ?_)
  refine Commitless.andThen (Commitless.select _) (fun _ => ?_)
  refine Commitless.andThen (Commitless.liftExcept _) (fun _ => ?_)
  exact Commitless.andThen (Commitless.liftExcept _) (fun _ => Commitless.pure _)

end CaseRepository

/-- The listings of a case's children: one SELECT each. -/
theorem children_read {query : Query} {rows : Database → α}
    : Commitless (do
        enter .caseRepository
        let db ← select query
        return rows db) :=
  Commitless.andThen (Commitless.enter _) (fun _ =>
    Commitless.andThen (Commitless.select _) (fun _ => Commitless.pure _))

end WorkflowForge
