import WorkflowForge.Application.AggregateSteps
import WorkflowForge.Application.BatchService
import WorkflowForge.Application.CaseService
import WorkflowForge.Infrastructure.DocumentMemberships

/-! How parts of the batch and case calls keep to their protocol.
An exception never follows a commit, so what an exception leaves is rolled back.
-/

namespace WorkflowForge

open Python Transactions Concurrency

variable {u : Unicode} {audited : Bool} {organizationId : UUID} {α β : Type}

def Stage.Uncommitted : Stage → Prop
  | .committed _ _ => False
  | _ => True

theorem Stage.rolledBack_of_uncommitted {stage : Stage} (uncommitted : stage.Uncommitted)
    : stage.rolledBack = .rested := by
  cases stage with
  | committed change events => exact uncommitted.elim
  | _ => rfl

/-- Whatever ids it has drawn, a call in this stage keeps to the protocol of its organization.
It returns in a stage with the postcondition, or raises before its commit. -/
def Passes (u : Unicode) (audited : Bool) (organizationId : UUID) (stage : Stage)
    (program : App α) (post : α → Stage → Prop)
    : Prop :=
  ∀ drawn,
    Obeys (aggregateProtocol u audited organizationId)
      (returns (fun value (mode : Mode) => post value mode.stage)
        (fun _ (mode : Mode) => mode.stage.Uncommitted))
      ⟨stage, drawn⟩ program

namespace Passes

variable {stage : Stage} {post : α → Stage → Prop}

theorem mono {weaker : α → Stage → Prop} {program : App α}
    (passes : Passes u audited organizationId stage program post)
    (implies : ∀ value later, post value later → weaker value later)
    : Passes u audited organizationId stage program weaker := by
  intro drawn
  refine (passes drawn).mono ?_
  intro result mode holds
  cases result with
  | ok value => exact implies value mode.stage holds
  | error failure => exact holds

theorem bind {next : α → App β} {last : β → Stage → Prop} {program : App α}
    (first : Passes u audited organizationId stage program post)
    (second
      : ∀ value later,
          post value later → Passes u audited organizationId later (next value) last)
    : Passes u audited organizationId stage (program >>= next) last := by
  intro drawn
  refine (first drawn).bind ?_ ?_
  · intro value mode holds
    exact second value mode.stage holds mode.drawn
  · exact fun _ _ uncommitted => uncommitted

/-- After a program that leaves the stage. -/
theorem andThen {next : α → App β} {last : β → Stage → Prop} {program : App α}
    (first : Passes u audited organizationId stage program (fun _ later => later = stage))
    (second : ∀ value, Passes u audited organizationId stage (next value) last)
    : Passes u audited organizationId stage (program >>= next) last := by
  refine first.bind ?_
  rintro value _ rfl
  exact second value

theorem tryCatch {program : App α} {handler : Exn → App α}
    (body : Passes u audited organizationId stage program post)
    (handled
      : ∀ failure later,
          later.Uncommitted → Passes u audited organizationId later (handler failure) post)
    : Passes u audited organizationId stage (MonadExcept.tryCatch program handler) post := by
  intro drawn
  refine (body drawn).tryCatch ?_ ?_
  · intro failure mode uncommitted
    exact handled failure mode.stage uncommitted mode.drawn
  · exact fun _ _ holds => holds

theorem pure {value : α} (holds : post value stage)
    : Passes u audited organizationId stage (Pure.pure value) post :=
  fun _ => holds

theorem throw {failure : Exn} (uncommitted : stage.Uncommitted)
    : Passes u audited organizationId stage (MonadExcept.throw failure : App α) post :=
  fun _ => uncommitted

-----------------------------------------------------------------------------------------
-- Primitive actions
-----------------------------------------------------------------------------------------

theorem liftExcept (uncommitted : stage.Uncommitted) (result : Except Exn α)
    : Passes u audited organizationId stage (WorkflowForge.liftExcept result)
        (fun value later => result = .ok value ∧ later = stage) := by
  intro drawn
  cases result with
  | ok value => exact ⟨rfl, rfl⟩
  | error failure => exact uncommitted

/-- A pure computation whose value does not matter. -/
theorem lifted (uncommitted : stage.Uncommitted) (result : Except Exn α)
    : Passes u audited organizationId stage
        (WorkflowForge.liftExcept result) (fun _ later => later = stage) :=
  (liftExcept uncommitted result).mono (fun _ _ holds => holds.2)

theorem enter (uncommitted : stage.Uncommitted) (port : Port)
    : Passes u audited organizationId stage
        (WorkflowForge.enter port) (fun _ later => later = stage) := by
  intro drawn
  refine ⟨trivial, ?_⟩
  rintro answer later rfl
  cases answer with
  | true => exact uncommitted
  | false => exact rfl

theorem nowOr (stage : Stage)
    : Passes u audited organizationId stage
        (WorkflowForge.nowOr none) (fun _ later => later = stage) := by
  intro drawn
  refine ⟨trivial, ?_⟩
  rintro answer later rfl
  exact rfl

theorem newUuid (stage : Stage)
    : Passes u audited organizationId stage
        WorkflowForge.newUuid (fun _ later => later = stage) := by
  intro drawn
  refine ⟨trivial, ?_⟩
  rintro answer later rfl
  exact rfl

theorem select {query : Query} (other : query.looksUp = false)
    : Passes u audited organizationId .rested
        (WorkflowForge.select query) (fun _ later => later = .rested) := by
  intro drawn
  refine ⟨rfl, ?_⟩
  rintro answer later rfl
  rw [other]
  exact rfl

/-- The lookup of a membership. -/
theorem lookup {query : Query} (looks : query.looksUp = true)
    : Passes u audited organizationId .rested
        (WorkflowForge.select query) (fun db later => later = .writing (.found db) []) := by
  intro drawn
  refine ⟨rfl, ?_⟩
  rintro answer later rfl
  rw [looks]
  exact rfl

theorem sessionRollback (stage : Stage)
    : Passes u audited organizationId stage WorkflowForge.sessionRollback
        (fun _ later => later = stage.rolledBack) := by
  intro drawn
  refine ⟨trivial, ?_⟩
  rintro answer later rfl
  exact rfl

theorem rollback (uncommitted : stage.Uncommitted)
    : Passes u audited organizationId stage
        WorkflowForge.rollback (fun _ later => later = .rested) := by
  refine (enter uncommitted .rollback).andThen (fun _ => ?_)
  refine (sessionRollback stage).mono ?_
  rintro _ later rfl
  exact Stage.rolledBack_of_uncommitted uncommitted

theorem orRollback {program : App α} (body : Passes u audited organizationId stage program post)
    : Passes u audited organizationId stage (WorkflowForge.orRollback program) post := by
  refine body.tryCatch (fun failure later uncommitted => ?_)
  refine (rollback uncommitted).bind ?_
  rintro _ _ rfl
  exact Passes.throw trivial

theorem selectForUpdate {t : TableName} {k : UUID} {chosen : TableRow t → Bool}
    (versioned : t.isVersioned = true)
    : Passes u audited organizationId .rested (WorkflowForge.selectForUpdate t k chosen)
        (fun db later =>
          (db.find? t k).filter chosen = none ∧ later = .rested
          ∨ ∃ row, (db.find? t k).filter chosen = some row ∧ later = .locked t row) := by
  intro drawn
  refine ⟨⟨rfl, versioned⟩, ?_⟩
  rintro answer later (⟨absent, rfl⟩ | ⟨row, found, rfl⟩)
  · exact .inl ⟨absent, rfl⟩
  · exact .inr ⟨row, found, rfl⟩

/-- A locking lookup: the row that the repository sees is the row that is locked. -/
theorem locking {t : TableName} {k : UUID} {chosen : TableRow t → Bool} {port : Port}
    {next : Option (TableRow t) → App α} (versioned : t.isVersioned = true)
    (absent : Passes u audited organizationId .rested (next none) post)
    (present
      : ∀ row,
          primaryKey t row = k
          → chosen row = true
          → Passes u audited organizationId (.locked t row) (next (some row)) post)
    : Passes u audited organizationId .rested
        (do
          WorkflowForge.enter port
          let db ← WorkflowForge.selectForUpdate t k chosen
          next ((db.find? t k).filter chosen))
        post := by
  refine (enter (by exact trivial) port).andThen (fun _ => ?_)
  refine (selectForUpdate versioned).bind ?_
  rintro db _ (⟨missing, rfl⟩ | ⟨row, matched, rfl⟩)
  · rw [missing]
    exact absent
  · rw [matched]
    obtain ⟨found, accepted⟩ := Option.filter_eq_some_iff.mp matched
    exact present row (Db.find?_key found) accepted

theorem insert {t : TableName} {row : TableRow t} (opens : RowOpens u t row)
    (owned : rowOrganization t row = some organizationId)
    : Passes u audited organizationId .rested (WorkflowForge.insert t row)
        (fun _ later => later = .writing (.inserted t row) []) := by
  intro drawn
  refine ⟨⟨owned, .inl ⟨rfl, opens⟩⟩, ?_⟩
  rintro answer later (⟨rfl, ⟨-, rfl⟩ | ⟨change, event, -, same, -⟩⟩ | ⟨⟨violation, rfl⟩, rfl⟩)
  · exact rfl
  · cases same
    exact opens.elim
  · cases violation <;> exact trivial

theorem update {t : TableName} {old row : TableRow t} {k : UUID}
    {change : TableRow t → Option (TableRow t)} (key : primaryKey t old = k)
    (changes : change old = some row) (revises : RowRevises u t old row)
    (owned
      : rowOrganization t old = some organizationId
        ∧ rowOrganization t row = some organizationId)
    : Passes u audited organizationId (.locked t old) (WorkflowForge.update t k change)
        (fun _ later => later = .writing (.revised t old row) []) := by
  intro drawn
  refine ⟨⟨old, row, rfl, key, changes, revises, owned⟩, ?_⟩
  rintro answer later (⟨rfl, old', row', same, changed, rfl⟩ | ⟨⟨violation, rfl⟩, rfl⟩)
  · cases same
    rw [changes] at changed
    cases changed
    exact rfl
  · cases violation <;> exact trivial

theorem delete {t : TableName} {chosen : TableRow t → Bool} (membership : t.isMembership = true)
    (owned : ∀ row, chosen row = true → rowOrganization t row = some organizationId)
    : Passes u audited organizationId .rested (WorkflowForge.delete t chosen)
        (fun count later =>
          ∃ (snapshot : Database) (rows : List (TableRow t)),
            rows = (snapshot t).filter chosen
            ∧ count = rows.length
            ∧ later = .writing (.removed t snapshot rows) []) := by
  intro drawn
  refine ⟨⟨rfl, membership, owned⟩, ?_⟩
  rintro answer later ⟨snapshot, rows, filtered, counted, rfl⟩
  exact ⟨snapshot, rows, filtered, counted, rfl⟩

theorem commit {change : Change} {events : List AuditEvent}
    (recorded : events.length = audited.toNat)
    : Passes u audited organizationId (.writing change events) WorkflowForge.commit
        (fun _ later => later = .committed change events) := by
  have uncommitted : (Stage.writing change events).Uncommitted := trivial
  refine (enter uncommitted .commit).andThen (fun _ drawn => ?_)
  refine ⟨⟨change, events, rfl, recorded⟩, ?_⟩
  rintro answer later ⟨change', events', same, rfl⟩
  cases same
  exact rfl

end Passes

-----------------------------------------------------------------------------------------
-- Audit events
-----------------------------------------------------------------------------------------

/-- What a call has its event say. -/
structure Report where
  eventType : AuditEventType
  occurredAt : Timestamp
  requestContext : Option AuditRequestContext
  metadata : List (String × AuditValue)

namespace Report

def event (report : Report) (tenant : TenantContext) (id : UUID) : AuditEvent where
  id
  eventType := report.eventType
  outcome := .success
  occurredAt := report.occurredAt
  actorUserId := tenant.userId
  organizationId := tenant.organizationId
  requestContext := report.requestContext.getD {}
  metadata := report.metadata

/-- The events of a call: one, or none without a recorder. -/
def Recorded (services : Services) (tenant : TenantContext) (report : Report)
    (events : List AuditEvent)
    : Prop :=
  if services.audited then ∃ id, events = [report.event tenant id] else events = []

end Report

section Recording

variable {services : Services} {tenant : TenantContext} {change : Change}

theorem Report.Recorded.length {report : Report} {events : List AuditEvent}
    (recorded : report.Recorded services tenant events)
    : events.length = services.audited.toNat := by
  unfold Recorded at recorded
  cases audited : services.audited with
  | true =>
      rw [audited, if_pos rfl] at recorded
      obtain ⟨id, rfl⟩ := recorded
      rfl
  | false =>
      rw [audited] at recorded
      rw [recorded]
      rfl

/-- The event is inserted with the id that has been drawn for it. -/
theorem Passes.recordEvent (report : Report)
    : Passes u services.audited tenant.organizationId (.writing change [])
        (WorkflowForge.recordEvent services report.eventType .success tenant
          report.requestContext report.occurredAt report.metadata)
        (fun _ later =>
          ∃ events, later = .writing change events ∧ report.Recorded services tenant events) := by
  unfold WorkflowForge.recordEvent
  cases audited : services.audited with
  | false =>
      exact Passes.pure ⟨[], rfl, by simp [Report.Recorded, audited]⟩
  | true =>
      intro drawn
      refine ⟨trivial, ?_⟩
      rintro id later rfl
      refine ⟨trivial, ?_⟩
      rintro raised later rfl
      cases raised with
      | true => exact trivial
      | false =>
          refine ⟨⟨rfl, .inr ⟨change, report.event tenant id, rfl, rfl, List.mem_cons_self⟩⟩, ?_⟩
          rintro answer later
            (⟨rfl, ⟨opens, -⟩ | ⟨change', event, same, put, rfl⟩⟩ | ⟨⟨violation, rfl⟩, rfl⟩)
          · exact opens.elim
          · cases same
            cases put
            refine ⟨_, rfl, ?_⟩
            rw [Report.Recorded, if_pos audited]
            exact ⟨id, rfl⟩
          · cases violation <;> exact trivial

/-- The call has committed a change and the event that reports it. -/
def Stage.Settled (services : Services) (tenant : TenantContext)
    (makes : Change → Report → Prop) (stage : Stage)
    : Prop :=
  ∃ change report events,
    stage = .committed change events
    ∧ makes change report
    ∧ report.Recorded services tenant events

/-- The end of a call that has changed something: the event, the commit and the reply. -/
theorem Passes.settle {makes : α → Change → Report → Prop} (report : Report) (value : α)
    (made : makes value change report)
    : Passes u services.audited tenant.organizationId (.writing change [])
        (do
          WorkflowForge.recordEvent services report.eventType .success tenant
            report.requestContext report.occurredAt report.metadata
          WorkflowForge.commit
          return value)
        (fun reply later => later.Settled services tenant (makes reply)) := by
  refine (recordEvent report).bind ?_
  rintro _ _ ⟨events, rfl, recorded⟩
  refine (commit recorded.length).bind ?_
  rintro _ _ rfl
  exact Passes.pure ⟨change, report, events, rfl, made, recorded⟩

end Recording

-----------------------------------------------------------------------------------------
-- Document memberships
-----------------------------------------------------------------------------------------

section Memberships

variable {t : TableName} (table : MembershipTable t)

/-- An INSERT whose integrity errors are caught. -/
theorem Passes.insert_or_refused {row : TableRow t} (opens : RowOpens u t row)
    (owned : rowOrganization t row = some organizationId)
    : Passes u audited organizationId .rested
        (MonadExcept.tryCatch
          (do
            WorkflowForge.insert t row
            return false)
          (fun failure =>
            match failure with
            | .integrityError => return true
            | other => MonadExcept.throw other))
        (fun refused later =>
          refused = false ∧ later = .writing (.inserted t row) []
          ∨ refused = true ∧ later.Uncommitted) := by
  refine Passes.tryCatch ?_ ?_
  · refine (insert opens owned).bind ?_
    rintro _ _ rfl
    exact Passes.pure (.inl ⟨rfl, rfl⟩)
  · intro failure later uncommitted
    cases failure with
    | integrityError => exact Passes.pure (.inr ⟨rfl, uncommitted⟩)
    | _ => exact Passes.throw uncommitted

/-- The membership that is looked up is the one of the aggregate and the document. -/
theorem Passes.record (owner aggregateId documentId : UUID)
    (looks : (table.query owner aggregateId documentId).looksUp = true)
    : Passes u audited organizationId .rested (table.record owner aggregateId documentId)
        (fun found later =>
          ∃ snapshot,
            later = .writing (.found snapshot) []
            ∧ ∀ row, found = some row
                → table.rows snapshot owner aggregateId documentId = [row]) := by
  refine (lookup looks).bind ?_
  rintro db _ rfl
  cases shape : table.rows db owner aggregateId documentId with
  | nil =>
      refine Passes.pure ⟨db, rfl, ?_⟩
      rintro row ⟨⟩
  | cons row rest =>
      cases rest with
      | cons second more => exact Passes.throw trivial
      | nil =>
          refine Passes.pure ⟨db, rfl, ?_⟩
          rintro _ ⟨⟩
          exact shape

/-- A membership is inserted, or the one that is there is returned. -/
theorem Passes.addDocument {load : TableRow t → Except Exn (TableRow t)}
    {membership : TableRow t} (opens : RowOpens u t membership)
    (owned : rowOrganization t membership = some organizationId)
    (loads : ∀ row value, load row = .ok value → value = row)
    (looks : ∀ owner aggregateId documentId,
      (table.query owner aggregateId documentId).looksUp = true)
    : Passes u audited organizationId .rested
        (table.addDocument load membership)
        (fun saved later =>
          saved = membership ∧ later = .writing (.inserted t saved) []
          ∨ ∃ snapshot,
              later = .writing (.found snapshot) []
              ∧ table.rows snapshot (table.organizationId membership)
                  (table.aggregateId membership) (table.documentId membership)
                = [saved]) := by
  refine (enter (by exact trivial) table.port).andThen (fun _ => ?_)
  refine (insert_or_refused opens owned).bind ?_
  rintro _ later (⟨rfl, rfl⟩ | ⟨rfl, uncommitted⟩)
  · refine (liftExcept (by exact trivial) _).mono ?_
    rintro saved _ ⟨loaded, rfl⟩
    obtain rfl := loads membership saved loaded
    exact .inl ⟨rfl, rfl⟩
  · refine (sessionRollback later).bind ?_
    rintro _ _ rfl
    rw [Stage.rolledBack_of_uncommitted uncommitted]
    refine (record table _ _ _ (looks _ _ _)).bind ?_
    rintro found _ ⟨snapshot, rfl, only⟩
    cases found with
    | none => exact Passes.throw trivial
    | some existing =>
        refine (liftExcept (by exact trivial) _).mono ?_
        rintro saved _ ⟨loaded, rfl⟩
        obtain rfl := loads existing saved loaded
        exact .inr ⟨snapshot, rfl, only _ rfl⟩

/-- The memberships of the aggregate and the document are removed, and the answer says
whether there were any. -/
theorem Passes.removeDocument (membership : t.isMembership = true)
    (owned : ∀ row, rowOrganization t row = some (table.organizationId row))
    (organizationId aggregateId documentId : UUID)
    : Passes u audited organizationId .rested
        (table.removeDocument organizationId aggregateId documentId)
        (fun removed later =>
          ∃ (snapshot : Database) (rows : List (TableRow t)),
            rows = table.rows snapshot organizationId aggregateId documentId
            ∧ removed = (rows.length != 0)
            ∧ later = .writing (.removed t snapshot rows) []) := by
  refine (enter (by exact trivial) table.port).andThen (fun _ => ?_)
  refine (delete membership (fun row chosen => ?_)).bind ?_
  · simp only [Bool.and_eq_true, beq_iff_eq] at chosen
    rw [owned row, chosen.1.1]
  · rintro _ _ ⟨snapshot, rows, filtered, rfl, rfl⟩
    refine Passes.pure ⟨snapshot, rows, ?_, rfl, rfl⟩
    rw [filtered, MembershipTable.filter_eq_rows]

end Memberships

end WorkflowForge
