import WorkflowForge.Application.AggregateCalls
import WorkflowForge.Application.MembershipRuns

/-! Interleaved requests to the batch and case services. -/

namespace WorkflowForge

open Python Transactions Concurrency

inductive AggregateCall where
  | batches (call : BatchCall)
  | cases (call : CaseCall)

/-- A call together with the tenant context it is made in. -/
structure AggregateRequest where
  tenant : TenantContext
  call : AggregateCall

namespace AggregateCall

def serviceCall : AggregateCall → ServiceCall
  | batches call => .batches call
  | cases call => .cases call

/-- The calls that only read. -/
def reads : AggregateCall → Bool
  | batches call => call.reads
  | cases call => call.reads

/-- What a returning call has changed and reported. -/
def Makes (u : Unicode) (tenant : TenantContext)
    : AggregateCall → ServiceReply → Change → Report → Prop
  | batches call, .batches reply, change, report => call.Makes u tenant reply change report
  | cases call, .cases reply, change, report => call.Makes u tenant reply change report
  | _, _, _, _ => False

/-- The row that a call names with an expected lock version, and that version. -/
def expects : AggregateCall → Option (TableName × UUID × Nat)
  | batches (.update command) => some (.batches, command.batchId, command.lockVersion)
  | batches (.archive command) => some (.batches, command.batchId, command.lockVersion)
  | cases (.update command) => some (.cases, command.caseId, command.lockVersion)
  | cases (.close command) => some (.cases, command.caseId, command.lockVersion)
  | cases (.reopen command) => some (.cases, command.caseId, command.lockVersion)
  | cases (.archive command) => some (.cases, command.caseId, command.lockVersion)
  | cases (.updateTask command) => some (.caseTasks, command.taskId, command.lockVersion)
  | cases (.completeTask command) => some (.caseTasks, command.taskId, command.lockVersion)
  | _ => none

end AggregateCall

/-- The row of the table that a reply carries. -/
def ServiceReply.row? : (t : TableName) → ServiceReply → Option (TableRow t)
  | .batches, .batches (.batch row) => some row
  | .cases, .cases (.case row) => some row
  | .caseTasks, .cases (.task row) => some row
  | _, _ => none

namespace AggregateRequest

variable (services : Services)

/-- The protocol of the organization that the request is made in. -/
abbrev protocol (origin : AggregateRequest) : Protocol Op Op.Answer Mode :=
  aggregateProtocol services.platform.unicode services.audited origin.tenant.organizationId

/-- What a mode of the request means. -/
abbrev Means (origin : AggregateRequest) : Nat → Mode → World → Prop :=
  Mode.Means services.platform.unicode origin.tenant.organizationId

def body (origin : AggregateRequest) : App ServiceReply :=
  TenantCall.body services { tenant := origin.tenant, call := origin.call.serviceCall }

/-- How a request ends: nothing is left of it, or its change is settled. -/
def Ends (origin : AggregateRequest) : Except Exn ServiceReply → Mode → Prop :=
  returns
    (fun reply mode =>
      origin.call.reads = true ∧ mode.stage = .rested
      ∨ mode.stage.Settled services origin.tenant
          (origin.call.Makes services.platform.unicode origin.tenant reply))
    (fun _ mode => mode.stage = .rested)

end AggregateRequest

abbrev AggregateConfig := Config Op Op.Answer Exn ServiceReply World AggregateRequest

/-- The requests that can follow a configuration, in any interleaving of their operations. -/
abbrev AggregateReaches (services : Services) : AggregateConfig → AggregateConfig → Prop :=
  Reaches exec (AggregateRequest.body services) (fun _ _ _ => True)

/-- No transaction is open, the constraints hold, and no session has committed. -/
structure World.Unused (world : World) : Prop extends world.Rested where
  unreserved : world.store.reserved = []
  unlogged : ∀ i, (world.store.history i).log = []

-----------------------------------------------------------------------------------------
-- One request
-----------------------------------------------------------------------------------------

section Requests

variable {u : Unicode} {audited : Bool} {organizationId : UUID} {services : Services}

/-- The scope of a request keeps what its call has committed and drops the rest. -/
theorem Passes.request {α : Type} {program : App α} {post : α → Stage → Prop}
    (passes : Passes u audited organizationId .rested program post) (drawn : List UUID)
    : Obeys (aggregateProtocol u audited organizationId)
        (returns
          (fun value (mode : Mode) => ∃ last, post value last ∧ mode.stage = last.rolledBack)
          (fun _ (mode : Mode) => mode.stage = .rested))
        ⟨.rested, drawn⟩ (WorkflowForge.request program) := by
  have caught
      : Obeys (aggregateProtocol u audited organizationId)
          (returns
            (fun (result : Except Exn α) (mode : Mode) =>
              (∀ value, result = .ok value → post value mode.stage)
              ∧ ∀ failure, result = .error failure → mode.stage.Uncommitted)
            (fun _ _ => False))
          ⟨.rested, drawn⟩
          (MonadExcept.tryCatch
            (do return Except.ok (← program))
            (fun failure => return .error failure)) := by
    have body
        : Obeys (aggregateProtocol u audited organizationId)
            (returns
              (fun (result : Except Exn α) (mode : Mode) =>
                ∃ value, result = .ok value ∧ post value mode.stage)
              (fun _ (mode : Mode) => mode.stage.Uncommitted))
            ⟨.rested, drawn⟩ (do return Except.ok (← program)) :=
      (passes drawn).bind (fun value _ holds => ⟨value, rfl, holds⟩)
        (fun _ _ uncommitted => uncommitted)
    refine body.tryCatch ?_ ?_
    · intro failure mode uncommitted
      refine ⟨fun value same => ?_, fun _ _ => uncommitted⟩
      cases same
    · rintro _ mode ⟨value, rfl, holds⟩
      refine ⟨fun value' same => ?_, fun failure same => ?_⟩
      · cases same
        exact holds
      · cases same
  refine caught.bind ?_ (fun _ _ impossible => impossible.elim)
  rintro result mode ⟨returned, raised⟩
  refine ⟨trivial, ?_⟩
  rintro answer later rfl
  cases result with
  | ok value => exact ⟨mode.stage, returned value rfl, rfl⟩
  | error failure => exact Stage.rolledBack_of_uncommitted (raised failure rfl)

/-- A call of either service. -/
theorem AggregateCall.passes (tenant : TenantContext) (call : AggregateCall)
    : Passes services.platform.unicode services.audited tenant.organizationId .rested
        (call.serviceCall.useCase services tenant)
        (fun reply later =>
          call.reads = true ∧ later = .rested
          ∨ later.Settled services tenant
              (call.Makes services.platform.unicode tenant reply)) := by
  cases call with
  | batches call => exact call.passes.bind (fun _ _ ended => .pure ended)
  | cases call => exact call.passes.bind (fun _ _ ended => .pure ended)

theorem AggregateRequest.follows (origin : AggregateRequest)
    : Obeys (origin.protocol services) (origin.Ends services) ⟨.rested, []⟩
        (origin.body services) := by
  refine ((AggregateCall.passes origin.tenant origin.call).request []).mono ?_
  intro result mode ended
  cases result with
  | error failure => exact ended
  | ok reply =>
      obtain ⟨last, ⟨reads, rfl⟩ | settled, stage⟩ := ended
      · exact .inl ⟨reads, stage⟩
      · obtain ⟨change, report, events, rfl, made, recorded⟩ := settled
        exact .inr ⟨change, report, events, stage, made, recorded⟩

/-- A call with an expected version revises that row, and replies the new one. -/
theorem AggregateCall.Makes.revises {tenant : TenantContext} {call : AggregateCall}
    {reply : ServiceReply} {change : Change} {report : Report} {t : TableName} {k : UUID}
    {lockVersion : Nat} (made : call.Makes u tenant reply change report)
    (expects : call.expects = some (t, k, lockVersion))
    : ∃ old row,
        change = .revised t old row
        ∧ primaryKey t old = k
        ∧ rowRevision t old = lockVersion
        ∧ reply.row? t = some row := by
  cases call with
  | batches call =>
      cases reply with
      | batches reply =>
          cases call
          case update command =>
            cases expects
            obtain ⟨old, row, ⟨id, -, version⟩, -, rfl, rfl, -⟩ := made
            exact ⟨old, row, rfl, id, version, rfl⟩
          case archive command =>
            cases expects
            obtain ⟨old, row, ⟨id, -, version⟩, -, rfl, rfl, -⟩ := made
            exact ⟨old, row, rfl, id, version, rfl⟩
          all_goals cases expects
      | _ => exact made.elim
  | cases call =>
      cases reply with
      | cases reply =>
          cases call
          case updateTask command =>
            cases expects
            obtain ⟨old, row, ⟨id, -, -, version⟩, -, rfl, rfl, -⟩ := made
            exact ⟨old, row, rfl, id, version, rfl⟩
          case completeTask command =>
            cases expects
            obtain ⟨old, row, ⟨id, -, -, version⟩, -, rfl, rfl, -⟩ := made
            exact ⟨old, row, rfl, id, version, rfl⟩
          case update | close | reopen | archive =>
            cases expects
            obtain ⟨old, row, ⟨id, -, version⟩, -, rfl, rfl, -⟩ := made
            exact ⟨old, row, rfl, id, version, rfl⟩
          all_goals cases expects
      | _ => exact made.elim

/-- A call with an expected version is no reading call. -/
theorem AggregateCall.expects_reads {call : AggregateCall} {target : TableName × UUID × Nat}
    (expects : call.expects = some target)
    : call.reads = false := by
  cases call with
  | batches call => cases call <;> first | rfl | cases expects
  | cases call => cases call <;> first | rfl | cases expects

end Requests

-----------------------------------------------------------------------------------------
-- Runs
-----------------------------------------------------------------------------------------

section Runs

variable {u : Unicode} {services : Services} {world : World} {config middle after : AggregateConfig}

theorem World.Unused.coherent (unused : world.Unused) : world.store.Coherent where
  keyed := unused.constrained.keyed
  covered := by simp [unused.pending]
  exclusive := by simp [unused.locks]
  grounded := by simp [unused.locks]
  unique i := by
    have own : world.store.own i = [] := by simp [Store.own, unused.pending]
    rw [Store.view_of_own_nil own]
    exact unused.constrained.unique
  apart := by simp [unused.pending]
  settled := unused.constrained.unique

theorem World.Unused.recorded (unused : world.Unused) : world.Recorded u where
  coherent := unused.coherent
  removals := by simp [unused.pending]
  reservations := by simp [unused.unreserved]
  events_drawn := by simp [unused.pending]
  logged := by simp [unused.unlogged]
  ordered := by simp [unused.unlogged]
  trail := by simp [unused.unlogged]

theorem World.Unused.means (unused : world.Unused) (organizationId : UUID) (i : Nat)
    : Mode.Means u organizationId i ⟨.rested, []⟩ world where
  drawn := by simp
  stage :=
    Stage.means_rested.mpr ⟨by simp [Store.own, unused.pending],
      fun t k => by simp [unused.locks], unused.unlogged i⟩

/-- Every started request follows the protocol. -/
theorem aggregates_following (unused : world.Unused)
    (run : AggregateReaches services (Config.idle world) config)
    : Following (AggregateRequest.protocol services) (World.Recorded services.platform.unicode)
        (AggregateRequest.Means services) ⟨.rested, []⟩ (AggregateRequest.Ends services) config :=
  (Following.idle unused.recorded (fun _ => unused.means _)).reaches
    (aggregateProtocol_realized _ _ _) AggregateRequest.follows run

/-- What is committed later continues what is committed before. -/
def World.Continues (u : Unicode) (before after : World) : Prop :=
  Revised u before.store.committed after.store.committed

/-- Along a run committed batches, cases and tasks are only revised and opened. -/
theorem aggregates_revised (unused : world.Unused)
    (early : AggregateReaches services (Config.idle world) middle)
    (late : AggregateReaches services middle after)
    : World.Continues services.platform.unicode middle.shared after.shared := by
  refine Following.relates (fun _ => Revised.refl _ _) (fun _ _ _ => Revised.trans) ?_
    (aggregateProtocol_realized _ services.audited _) AggregateRequest.follows
    (aggregates_following unused early) late
  exact fun recorded means allowed ran => revised_by recorded means allowed ran

/-- No batch, case or task is lost or overwritten: a row that is committed later is what one
domain operation for each lock version since has made of the earlier row, or of the row that
was opened with version 1. -/
theorem aggregates_evolve (unused : world.Unused)
    (early : AggregateReaches services (Config.idle world) middle)
    (late : AggregateReaches services middle after) {t : TableName} {k : UUID}
    (versioned : t.isVersioned = true)
    : (∀ row,
          middle.shared.store.committed.find? t k = some row
          → ∃ later,
              after.shared.store.committed.find? t k = some later
              ∧ rowRevision t row ≤ rowRevision t later
              ∧ Steps (RowRevises services.platform.unicode t)
                  (rowRevision t later - rowRevision t row) row later)
      ∧ (middle.shared.store.committed.find? t k = none
          → ∀ later,
              after.shared.store.committed.find? t k = some later
              → ∃ row,
                  RowOpens services.platform.unicode t row
                  ∧ primaryKey t row = k
                  ∧ 1 ≤ rowRevision t later
                  ∧ Steps (RowRevises services.platform.unicode t) (rowRevision t later - 1) row
                      later) := by
  have revised := aggregates_revised unused early late
  constructor
  · intro row found
    obtain ⟨later, n, found', steps⟩ := revised.kept versioned found
    have counted := revisions_counted steps
    have difference : rowRevision t later - rowRevision t row = n := by omega
    rw [← difference] at steps
    exact ⟨later, found', by omega, steps⟩
  · intro absent later found
    obtain ⟨row, n, opens, steps⟩ := revised.opened versioned absent found
    have counted := revisions_counted steps
    rw [opens.revision versioned] at counted
    have difference : rowRevision t later - 1 = n := by omega
    rw [← difference] at steps
    exact ⟨row, opens, (revisions_key steps).symm.trans (Db.find?_key found), by omega, steps⟩

/-- A returned call with an expected version has logged the row that it replies. -/
theorem logged_of_success (unused : world.Unused)
    (run : AggregateReaches services (Config.idle world) config) {i : Nat}
    {origin : AggregateRequest} {reply : ServiceReply} {t : TableName} {k : UUID} {version : Nat}
    (ended : config.ended i = some (origin, .ok reply))
    (expects : origin.call.expects = some (t, k, version))
    : ∃ row,
        reply.row? t = some row
        ∧ t.isVersioned = true
        ∧ primaryKey t row = k
        ∧ rowRevision t row = version + 1
        ∧ ∃ entry ∈ (config.shared.store.history i).log, Write.put t row ∈ entry.1 := by
  obtain ⟨mode, means, ⟨reads, -⟩ | ⟨change, report, events, stage, made, -⟩⟩ :=
    (aggregates_following unused run).finished (Config.ended_eq_some.mp ended)
  · rw [AggregateCall.expects_reads expects] at reads
    cases reads
  · obtain ⟨old, row, rfl, rfl, rfl, replied⟩ := made.revises expects
    have known := means.stage
    rw [stage] at known
    obtain ⟨⟨legal, -⟩, -, -, -, db, logged⟩ := known
    have revises : RowRevises services.platform.unicode t old row := legal
    refine ⟨row, replied, revises.versioned, revises.key, revises.revision,
      ((Change.revised t old row).writes ++ eventWrites events, db), ?_, ?_⟩
    · rw [logged]
      exact List.mem_singleton_self _
    · exact List.mem_append_left _ (List.mem_singleton_self _)

/-- Of two returned calls on one row with expected lock versions, one expected a later version
and built on the row that the other returned. -/
theorem successes_build_on (unused : world.Unused)
    (run : AggregateReaches services (Config.idle world) config) {i j : Nat} (different : i ≠ j)
    {first second : AggregateRequest} {reply reply' : ServiceReply} {t : TableName} {k : UUID}
    {version version' : Nat} (ended : config.ended i = some (first, .ok reply))
    (ended' : config.ended j = some (second, .ok reply'))
    (expects : first.call.expects = some (t, k, version))
    (expects' : second.call.expects = some (t, k, version')) (order : version ≤ version')
    : ∃ row row',
        reply.row? t = some row
        ∧ reply'.row? t = some row'
        ∧ version < version'
        ∧ Steps (RowRevises services.platform.unicode t) (version' - version) row row' := by
  obtain ⟨row, replied, versioned, key, revision, entry, logged, put⟩ :=
    logged_of_success unused run ended expects
  obtain ⟨row', replied', -, key', revision', entry', logged', put'⟩ :=
    logged_of_success unused run ended' expects'
  have recorded := (aggregates_following unused run).inv
  obtain ⟨n, steps | steps⟩ := recorded.ordered i j different entry logged entry' logged' t row
    row' versioned put put' (key.trans key'.symm)
  · have counted := revisions_counted steps
    have difference : version' - version = n + 1 := by omega
    rw [← difference] at steps
    exact ⟨row, row', replied, replied', by omega, steps⟩
  · have counted := revisions_counted steps
    omega

-----------------------------------------------------------------------------------------
-- Ended requests
-----------------------------------------------------------------------------------------

/-- The session holds no lock and no uncommitted write. -/
structure World.Left (i : Nat) (world : World) : Prop where
  own : world.store.own i = []
  unlocked : Store.Unlocked i world.store

/-- A request that has ended has left nothing open. If it raised or only read, then it has
committed nothing; else it has made one commit, of exactly its change and the event that
reports it, and that event stays in the audit trail. Which memberships a change is about is
what was committed when the request looked. -/
theorem ended_requests_settled (unused : world.Unused)
    (run : AggregateReaches services (Config.idle world) config) {i : Nat}
    {origin : AggregateRequest} {result : Except Exn ServiceReply}
    (ended : config.ended i = some (origin, result))
    : config.shared.Left i
      ∧ ((∀ failure, result = .error failure → (config.shared.store.history i).log = [])
      ∧ ∀ reply,
          result = .ok reply
          → (origin.call.reads = true ∧ (config.shared.store.history i).log = [])
            ∨ ∃ change report events db,
                origin.call.Makes services.platform.unicode origin.tenant reply change report
                ∧ change.Saw (config.shared.store.history i)
                ∧ report.Recorded services origin.tenant events
                ∧ (config.shared.store.history i).log
                  = [(change.writes ++ eventWrites events, db)]
                ∧ ∀ event ∈ events,
                    config.shared.store.committed.find? .securityAuditEvents event.id
                      = some event) := by
  have following := aggregates_following unused run
  obtain ⟨mode, means, ends⟩ := following.finished (Config.ended_eq_some.mp ended)
  cases result with
  | error failure =>
      obtain ⟨own, unlocked, log⟩ := means.rested ends
      refine ⟨⟨own, unlocked⟩, fun _ _ => log, ?_⟩
      rintro reply ⟨⟩
  | ok reply =>
      rcases ends with ⟨reads, rested⟩ | ⟨change, report, events, stage, made, recorded⟩
      · obtain ⟨own, unlocked, log⟩ := means.rested rested
        refine ⟨⟨own, unlocked⟩, ?_, ?_⟩
        · rintro failure ⟨⟩
        · rintro _ ⟨⟩
          exact .inl ⟨reads, log⟩
      · have known := means.stage
        rw [stage] at known
        obtain ⟨-, own, unlocked, saw, db, log⟩ := known
        refine ⟨⟨own, unlocked⟩, ?_, ?_⟩
        · rintro failure ⟨⟩
        · rintro _ ⟨⟩
          refine .inr ⟨change, report, events, db, made, saw, recorded, log, ?_⟩
          intro event member
          refine (following.inv.trail i (change.writes ++ eventWrites events, db) ?_ event ?_).2
          · rw [log]
            exact List.mem_singleton_self _
          · exact List.mem_append_right _ (List.mem_map_of_mem member)

-----------------------------------------------------------------------------------------
-- Completion
-----------------------------------------------------------------------------------------

/-- Only calls that hold no lock wait, and only for calls that do. -/
theorem aggregates_holdOrWait (services : Services)
    : HoldOrWait exec (AggregateRequest.protocol services)
        (World.Recorded services.platform.unicode) (AggregateRequest.Means services)
        ⟨.rested, []⟩ (AggregateRequest.Ends services) World.HoldsLock where
  waits recorded means allowed stuck := waits_unlocked recorded means allowed stuck
  started := by
    rintro origin i world - means ⟨t, k, held⟩
    exact (means.rested rfl).2.1 t k held
  ended := by
    rintro origin i result mode world - means ends ⟨t, k, held⟩
    have unlocked : Store.Unlocked i world.store := by
      cases result with
      | error failure => exact (means.rested ends).2.1
      | ok reply =>
          rcases ends with ⟨-, rested⟩ | ⟨change, report, events, stage, -⟩
          · exact (means.rested rested).2.1
          · have known := means.stage
            rw [stage] at known
            exact known.2.2.1
    exact unlocked t k held

/-- The requests never deadlock. One that waits has nothing locked, and another one that has can
go on; while one has not ended, one can make its next operation, and those that have started can
all be brought to their ends. An INSERT that waits for a row it refers to has added its own row
already in PostgreSQL; but one that repeats its unique columns would wait for the same row. -/
theorem requests_complete (unused : world.Unused)
    (run : AggregateReaches services (Config.idle world) config)
    : (∀ (i : Nat) origin op next,
          config.threads[i]? = some ⟨origin, .call op next⟩
          → exec i op config.shared = none
          → ¬ config.shared.HoldsLock i
            ∧ ∃ j origin' op' next',
                config.threads[j]? = some ⟨origin', .call op' next'⟩
                ∧ config.shared.HoldsLock j
                ∧ exec j op' config.shared ≠ none)
      ∧ (∀ (i j : Nat) origin origin' t (row other : TableRow t) next next',
          config.threads[i]? = some ⟨origin, .call (.sql (.insert t row)) next⟩
          → config.threads[j]? = some ⟨origin', .call (.sql (.insert t other)) next'⟩
          → uniqueClash t row other = true
          → ∀ parent ∈ rowParents t row,
              config.shared.store.reservedByOther i parent = true
              → parent ∈ rowParents t other
                ∧ config.shared.store.reservedByOther j parent = true)
      ∧ (∀ (i : Nat) origin op next,
          config.threads[i]? = some ⟨origin, .call op next⟩ → ∃ after, Acts exec config after)
      ∧ ∃ after,
          Relation.ReflTransGen (Acts exec) config after
          ∧ after.threads.map Thread.origin = config.threads.map Thread.origin
          ∧ after.AllEnded := by
  have following := aggregates_following unused run
  have holdOrWait := aggregates_holdOrWait services
  refine ⟨fun i origin op next active stuck => following.waits holdOrWait active stuck, ?_,
    fun i origin op next active => following.progress holdOrWait active,
    following.completes (aggregateProtocol_realized _ _ _) AggregateRequest.follows holdOrWait⟩
  intro i j origin origin' t row other next next' _ found clash parent refers reserved
  obtain ⟨mode, means, allowed, -⟩ := following.threads found
  exact inserts_wait_together services.audited following.inv means allowed clash refers reserved

-----------------------------------------------------------------------------------------
-- Archived batches and cases
-----------------------------------------------------------------------------------------

/-- Along a run the committed case rows are loaded as they are: those that the run has written,
and with them a row that was there before if it was. -/
theorem case_normal (unused : world.Unused)
    (run : AggregateReaches services (Config.idle world) config) {k : UUID}
    (before
      : ∀ first,
          world.store.committed.find? .cases k = some first
          → caseFromRecord services.platform.unicode first = .ok first)
    {case : Case} (found : config.shared.store.committed.find? .cases k = some case)
    : caseFromRecord services.platform.unicode case = .ok case := by
  have revised := aggregates_revised unused .refl run
  cases known : world.store.committed.find? .cases k with
  | none =>
      obtain ⟨row, n, opens, steps⟩ := revised.opened rfl known found
      exact cases_normal opens.normal steps
  | some first =>
      obtain ⟨later, n, found', steps⟩ := revised.kept rfl known
      rw [found] at found'
      cases found'
      exact cases_normal (before first known) steps

/-- A committed archived batch never changes again. Of a committed archived case only the stamps
of its latest change and of its archiving, and its lock version, ever change; where the row was
there before the run, its texts are taken as the constructor leaves them. -/
theorem archived_aggregates_keep (unused : world.Unused)
    (early : AggregateReaches services (Config.idle world) middle)
    (late : AggregateReaches services middle after) (k : UUID)
    : (∀ batch,
          middle.shared.store.committed.find? .batches k = some batch
          → batch.status = .archived
          → after.shared.store.committed.find? .batches k = some batch)
      ∧ ((∀ first,
            world.store.committed.find? .cases k = some first
            → caseFromRecord services.platform.unicode first = .ok first)
        → ∀ case,
            middle.shared.store.committed.find? .cases k = some case
            → case.status = .archived
            → ∃ later,
                after.shared.store.committed.find? .cases k = some later
                ∧ later.status = .archived
                ∧ case.Restamped later) := by
  have revised := aggregates_revised unused early late
  constructor
  · intro batch found archived
    obtain ⟨later, n, found', steps⟩ := revised.kept rfl found
    rw [archived_batch_stays archived steps] at found'
    exact found'
  · intro before case found archived
    obtain ⟨later, n, found', steps⟩ := revised.kept rfl found
    have shelved := archived_case_shelved archived (case_normal unused early before found) steps
    exact ⟨later, found', shelved.archived, shelved.restamped⟩

-----------------------------------------------------------------------------------------
-- Organizations
-----------------------------------------------------------------------------------------

/-- The committed rows of an organization change only in operations of its own requests. -/
theorem organizations_write_apart (unused : world.Unused)
    (run : AggregateReaches services (Config.idle world) config)
    (step : Step exec (AggregateRequest.body services) (fun _ _ _ => True) config after)
    {t : TableName} {k organizationId : UUID} {row : TableRow t}
    (owned : rowOrganization t row = some organizationId)
    (changed
      : ¬ (after.shared.store.committed.find? t k = some row
          ↔ config.shared.store.committed.find? t k = some row))
    : ∃ (i : Nat) (origin : AggregateRequest) (op : Op) (next : op.Answer → App ServiceReply)
        (answer : op.Answer),
        config.threads[i]? = some ⟨origin, .call op next⟩
        ∧ after.threads = config.threads.set i ⟨origin, next answer⟩
        ∧ origin.tenant.organizationId = organizationId := by
  have following := aggregates_following unused run
  cases step with
  | start origin => exact absurd Iff.rfl changed
  | @act i origin op next answer shared active _ answered =>
      obtain ⟨mode, meant, allowed, -⟩ := following.threads active
      refine ⟨i, origin, op, next, answer, active, rfl, ?_⟩
      by_contra apart
      refine changed (apart_by following.inv meant allowed answered ?_)
      rw [owned]
      exact fun same => apart (Option.some.inj same).symm

end Runs

-----------------------------------------------------------------------------------------
-- A small run
-----------------------------------------------------------------------------------------

namespace Sample

/-- A member who may change batches and archive cases. -/
def editor : TenantContext :=
  { clerk 5 tenant.organization_ne_nil tenant.organization_lt with
    permissions := [.batchRead, .batchWrite, .batchArchive, .caseArchive] }

def rename (lockVersion : Nat) : AggregateRequest where
  tenant := editor
  call := .batches (.update { batchId := 3, lockVersion, name := some ['b'] })

def archive (lockVersion : Nat) : AggregateRequest where
  tenant := editor
  call := .batches (.archive { batchId := 3, lockVersion })

def archiveCase (lockVersion : Nat) : AggregateRequest where
  tenant := editor
  call := .cases (.archive { caseId := 4, lockVersion })

theorem holding_unused : (holding (filed ['a'])).Unused where
  toRested := holding_rested (filed_constrained (by decide))
  unreserved := rfl
  unlogged _ := rfl

def file : AggregateRequest where
  tenant := clerk 5 tenant.organization_ne_nil tenant.organization_lt
  call := .batches (.addDocument { batchId := 3, documentId := 1 })

def unfile : AggregateRequest where
  tenant := clerk 5 tenant.organization_ne_nil tenant.organization_lt
  call := .batches (.removeDocument { batchId := 3, documentId := 1 })

def unfiled : List (Move AggregateRequest) :=
  .start file :: List.replicate 12 (.act 0) ++ .start unfile :: List.replicate 11 (.act 1)

/-- Request `i` has ended as a removal that removed something. -/
def unfiles (config : AggregateConfig) (i : Nat) : Bool :=
  match config.ended i with
  | some (⟨_, .batches (.removeDocument command)⟩, .ok (.batches (.removed true))) =>
      command.batchId == 3 && command.documentId == 1
  | _ => false

/-- Both requests start at once, and the second waits for the row. -/
def renamed : List (Move AggregateRequest) :=
  .start (rename 1) :: .start (archive 2) :: List.replicate 11 (.act 0)

def archived : List (Move AggregateRequest) := List.replicate 11 (.act 1)

def archivedCase : List (Move AggregateRequest) :=
  .start (archiveCase 1) :: List.replicate 10 (.act 2)

/-- The archived batch is not renamed again, and the archived case is archived again. -/
def again : List (Move AggregateRequest) :=
  .start (rename 3) :: List.replicate 4 (.act 3)
  ++ .start (archiveCase 2) :: List.replicate 10 (.act 4)

def batchVersion (config : AggregateConfig) : Option (Nat × BatchStatus) :=
  (config.shared.store.committed.find? .batches 3).map (fun (row : Batch) =>
    (row.lockVersion, row.status))

def caseVersion (config : AggregateConfig) : Option (Nat × CaseStatus) :=
  (config.shared.store.committed.find? .cases 4).map (fun (row : Case) =>
    (row.lockVersion, row.status))

/-- The row and the version of a call that has returned. -/
def succeeded (config : AggregateConfig) (i : Nat) : Option (TableName × UUID × Nat) :=
  (config.ended i).bind (fun ended => ended.2.toOption.bind (fun _ => ended.1.call.expects))

theorem succeeded_eq_some {config : AggregateConfig} {i : Nat} {target : TableName × UUID × Nat}
    (success : succeeded config i = some target)
    : ∃ origin reply,
        config.ended i = some (origin, .ok reply) ∧ origin.call.expects = some target := by
  obtain ⟨⟨origin, result⟩, ended, rest⟩ := Option.bind_eq_some_iff.mp success
  cases result with
  | error failure => cases rest
  | ok reply => exact ⟨origin, reply, ended, rest⟩

theorem batch_run
    : ∃ middle after,
        AggregateReaches services (Config.idle (holding (filed ['a']))) middle
        ∧ AggregateReaches services middle after
        ∧ batchVersion middle = some (2, .open)
        ∧ succeeded after 0 = some (.batches, 3, 1)
        ∧ succeeded after 1 = some (.batches, 3, 2)
        ∧ batchVersion after = some (3, .archived) := by
  have checked
      : (Config.follow exec (AggregateRequest.body services) (fun _ _ _ => true) renamed
          (Config.idle (holding (filed ['a'])))).any (fun middle =>
            (Config.follow exec (AggregateRequest.body services) (fun _ _ _ => true) archived
              middle).any (fun after =>
                batchVersion middle == some (2, .open)
                && (succeeded after 0 == some (.batches, 3, 1)
                  && (succeeded after 1 == some (.batches, 3, 2)
                    && batchVersion after == some (3, .archived))))) = true := by
    decide +kernel
  obtain ⟨middle, after, early, late, found⟩ :=
    Config.reaches_of_checks (fun _ _ _ _ => trivial) checked
  simp only [Bool.and_eq_true, beq_iff_eq] at found
  exact ⟨middle, after, early, late, found⟩

end Sample

theorem aggregates_evolve_sample
    : ∃ middle after,
        AggregateReaches Sample.services middle after
        ∧ ∃ (row later : Batch),
            middle.shared.store.committed.find? .batches 3 = some row
            ∧ row.lockVersion = 2
            ∧ after.shared.store.committed.find? .batches 3 = some later
            ∧ later.lockVersion = 3
            ∧ Steps (RowRevises Sample.services.platform.unicode .batches) 1 row later := by
  obtain ⟨middle, after, early, late, before, -, -, final⟩ := Sample.batch_run
  obtain ⟨row, found, version⟩ := Option.map_eq_some_iff.mp before
  obtain ⟨later, found', version'⟩ := Option.map_eq_some_iff.mp final
  obtain ⟨_, found'', -, steps⟩ :=
    (aggregates_evolve Sample.holding_unused early late (t := .batches) (k := 3) rfl).1 row found
  rw [found'] at found''
  cases found''
  have lock : row.lockVersion = 2 := congrArg Prod.fst version
  have lock' : later.lockVersion = 3 := congrArg Prod.fst version'
  have difference : rowRevision .batches later - rowRevision .batches row = 1 := by
    simp [rowRevision, lock, lock']
  rw [difference] at steps
  exact ⟨middle, after, late, row, later, found, lock, found', lock', steps⟩

theorem successes_build_on_sample
    : ∃ config first second reply reply',
        AggregateReaches Sample.services (Config.idle (Sample.holding (filed ['a']))) config
        ∧ config.ended 0 = some (first, .ok reply)
        ∧ config.ended 1 = some (second, .ok reply')
        ∧ ∃ row row',
            reply.row? .batches = some row
            ∧ reply'.row? .batches = some row'
            ∧ Steps (RowRevises Sample.services.platform.unicode .batches) 1 row row' := by
  obtain ⟨middle, config, early, late, -, success, success', -⟩ := Sample.batch_run
  obtain ⟨first, reply, ended, expects⟩ := Sample.succeeded_eq_some success
  obtain ⟨second, reply', ended', expects'⟩ := Sample.succeeded_eq_some success'
  obtain ⟨row, row', replied, replied', -, steps⟩ :=
    successes_build_on Sample.holding_unused (early.trans late) (by decide) ended ended' expects
      expects' (by decide)
  exact ⟨config, first, second, reply, reply', early.trans late, ended, ended', row, row',
    replied, replied', steps⟩

/-- A removal removes the membership that an earlier request has committed. -/
theorem ended_requests_settled_sample
    : ∃ config snapshot,
        AggregateReaches Sample.services (Config.idle (Sample.holding (filed ['a']))) config
        ∧ config.shared.Left 1
        ∧ (config.shared.store.history 1).snapshot = some snapshot
        ∧ ∃ (organizationId : UUID) (rows : List BatchDocument) (events : List AuditEvent)
            (db : Database),
            rows = batchMembershipTable.rows snapshot organizationId 3 1
            ∧ rows ≠ []
            ∧ (config.shared.store.history 1).log
              = [((Change.removed .batchDocuments snapshot rows).writes ++ eventWrites events,
                  db)] := by
  have checked
      : (Config.follow exec (AggregateRequest.body Sample.services) (fun _ _ _ => true)
          Sample.unfiled (Config.idle (Sample.holding (filed ['a'])))).any (fun config =>
            Sample.unfiles config 1) = true := by
    decide +kernel
  obtain ⟨config, run, found⟩ := Config.reaches_of_check (fun _ _ _ _ => trivial) checked
  unfold Sample.unfiles at found
  split at found
  · rename_i tenant command ended
    simp only [Bool.and_eq_true, beq_iff_eq] at found
    obtain ⟨left, -, settled⟩ := ended_requests_settled Sample.holding_unused run ended
    obtain ⟨reads, -⟩ | ⟨change, report, events, db, made, saw, -, log, -⟩ := settled _ rfl
    · cases reads
    · obtain ⟨snapshot, rows, now, chosen, removed, rfl, -⟩ := made
      refine ⟨config, snapshot, run, left, saw, tenant.organizationId, rows, events, db, ?_, ?_,
        log⟩
      · rw [chosen, found.1, found.2]
      · rintro rfl
        cases removed
  · cases found

/-- From where one of two requests on a row has ended, the other can be brought to its end. -/
theorem requests_complete_sample
    : ∃ config,
        Sample.batchVersion config = some (2, .open)
        ∧ ∃ after, Relation.ReflTransGen (Acts exec) config after ∧ after.AllEnded := by
  obtain ⟨config, -, early, -, version, -⟩ := Sample.batch_run
  obtain ⟨-, -, -, after, acts, -, ended⟩ := requests_complete Sample.holding_unused early
  exact ⟨config, version, after, acts, ended⟩

theorem archived_aggregates_keep_sample
    : ∃ middle after,
        AggregateReaches Sample.services middle after
        ∧ (∃ batch : Batch,
            batch.status = .archived
            ∧ after.threads.length = 5
            ∧ after.shared.store.committed.find? .batches 3 = some batch)
        ∧ ∃ case later : Case,
            case.lockVersion = 2
            ∧ after.shared.store.committed.find? .cases 4 = some later
            ∧ later.lockVersion = 3
            ∧ case.Restamped later := by
  have checked
      : (Config.follow exec (AggregateRequest.body Sample.services) (fun _ _ _ => true)
          (Sample.renamed ++ Sample.archived ++ Sample.archivedCase)
          (Config.idle (Sample.holding (filed ['a'])))).any (fun middle =>
            (Config.follow exec (AggregateRequest.body Sample.services) (fun _ _ _ => true)
              Sample.again middle).any (fun after =>
                Sample.batchVersion middle == some (3, .archived)
                && (after.threads.length == 5
                  && (Sample.caseVersion middle == some (2, .archived)
                    && Sample.caseVersion after == some (3, .archived))))) = true := by
    decide +kernel
  obtain ⟨middle, after, early, late, found⟩ :=
    Config.reaches_of_checks (fun _ _ _ _ => trivial) checked
  simp only [Bool.and_eq_true, beq_iff_eq] at found
  obtain ⟨batch, committed, version⟩ := Option.map_eq_some_iff.mp found.1
  have archived : batch.status = .archived := congrArg Prod.snd version
  obtain ⟨case, committed', version'⟩ := Option.map_eq_some_iff.mp found.2.2.1
  obtain ⟨now, present, version''⟩ := Option.map_eq_some_iff.mp found.2.2.2
  refine ⟨middle, after, late, ⟨batch, archived, found.2.1,
    (archived_aggregates_keep Sample.holding_unused early late 3).1 batch committed archived⟩,
    case, now, congrArg Prod.fst version', present, congrArg Prod.fst version'', ?_⟩
  have normal
      : ∀ first : Case,
          (filed ['a']).find? .cases 4 = some first
          → caseFromRecord Sample.services.platform.unicode first = .ok first := by
    rintro first found
    cases found
    decide +kernel
  obtain ⟨later, present', -, restamped⟩ :=
    (archived_aggregates_keep Sample.holding_unused early late 4).2 normal case committed'
      (congrArg Prod.snd version')
  rw [present] at present'
  cases present'
  exact restamped

/-- The commit of the renaming call is made in the organization of the batch. -/
theorem organizations_write_apart_sample
    : ∃ (config after : AggregateConfig) (row later : Batch) (origin : AggregateRequest),
        config.shared.store.committed.find? .batches 3 = some row
        ∧ row.lockVersion = 1
        ∧ after.shared.store.committed.find? .batches 3 = some later
        ∧ later.lockVersion = 2
        ∧ later.organizationId = origin.tenant.organizationId := by
  have checked
      : (Config.follow exec (AggregateRequest.body Sample.services) (fun _ _ _ => true)
          (Sample.renamed.take 11) (Config.idle (Sample.holding (filed ['a'])))).any (fun config =>
            (config.move exec (AggregateRequest.body Sample.services) (fun _ _ _ => true)
              (.act 0)).any (fun after =>
                Sample.batchVersion config == some (1, .open)
                && Sample.batchVersion after == some (2, .open))) = true := by
    decide +kernel
  obtain ⟨config, run, moved⟩ := Config.reaches_of_check (fun _ _ _ _ => trivial) checked
  obtain ⟨after, move, versions⟩ := (Option.any_eq_true _ _).mp moved
  simp only [Bool.and_eq_true, beq_iff_eq] at versions
  obtain ⟨row, found, version⟩ := Option.map_eq_some_iff.mp versions.1
  obtain ⟨later, found', version'⟩ := Option.map_eq_some_iff.mp versions.2
  have lock : row.lockVersion = 1 := congrArg Prod.fst version
  have lock' : later.lockVersion = 2 := congrArg Prod.fst version'
  have changed
      : ¬ (after.shared.store.committed.find? .batches 3 = some later
          ↔ config.shared.store.committed.find? .batches 3 = some later) := by
    intro same
    have both := same.mp found'
    rw [found, Option.some.injEq] at both
    rw [both, lock'] at lock
    cases lock
  obtain ⟨i, origin, op, next, answer, -, -, owned⟩ :=
    organizations_write_apart Sample.holding_unused run
      (Config.step_of_move (fun _ _ _ _ => trivial) move) (t := .batches) rfl changed
  exact ⟨config, after, row, later, origin, found, lock, found', lock', owned.symm⟩

end WorkflowForge
