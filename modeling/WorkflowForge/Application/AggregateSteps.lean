import WorkflowForge.Application.AggregateProtocol

/-! The environment realizes the protocol of the calls that change batches and cases. -/

namespace WorkflowForge

open Python Transactions Concurrency

variable {u : Unicode} {audited : Bool} {organizationId : UUID} {i : Nat} {mode : Mode}

-----------------------------------------------------------------------------------------
-- Each statement moves the stage
-----------------------------------------------------------------------------------------

section Statements

variable {before after : Store schema}

/-- A lookup of memberships notes what it has seen; at rest that is what is committed. -/
theorem moved_select {query : Query} {answer : Database}
    (means : Stage.rested.Means u organizationId i before)
    (ran : Store.exec i (.select query) before = some (answer, after))
    : Stage.rested.Means u organizationId i after
      ∧ (Stage.writing (.found answer) []).Means u organizationId i after := by
  obtain ⟨own, unlocked, fresh⟩ := Stage.means_rested.mp means
  simp only [Store.exec, Option.some.injEq, Prod.mk.injEq] at ran
  obtain ⟨rfl, rfl⟩ := ran
  have logged : ((before.opening i).history i).log = [] := by
    simpa [Store.opening] using fresh
  refine ⟨Stage.means_rested.mpr ⟨own, unlocked, logged⟩, ⟨trivial, trivial⟩,
    ⟨trivial, by simp⟩, own, by simp, logged, ?_⟩
  rw [Store.view_of_own_nil own, Store.opening]
  simp [Change.Saw]

theorem moved_selectForUpdate {t : TableName} {k : UUID} {chosen : TableRow t → Bool}
    {answer : Database} (coherent : before.Coherent)
    (means : Stage.rested.Means u organizationId i before)
    (versioned : t.isVersioned = true)
    (ran : Store.exec i (.selectForUpdate t k chosen) before = some (answer, after))
    : (answer.find? t k).filter chosen = none ∧ Stage.rested.Means u organizationId i after
      ∨ ∃ row,
          (answer.find? t k).filter chosen = some row
          ∧ (Stage.locked t row).Means u organizationId i after := by
  obtain ⟨own, unlocked, fresh⟩ := Stage.means_rested.mp means
  have logged := (Store.exec_log_same coherent ran (by simp)).trans fresh
  obtain ⟨rfl, ⟨nothing, shape⟩ | ⟨present, -, shape⟩⟩ := Store.exec_selectForUpdate ran
  · subst shape
    exact .inl ⟨nothing, Stage.means_rested.mpr ⟨own, unlocked, logged⟩⟩
  · obtain ⟨row, matched⟩ := Option.isSome_iff_exists.mp present
    obtain ⟨found, -⟩ := Option.filter_eq_some_iff.mp matched
    have key : primaryKey t row = k := Db.find?_key found
    rw [Store.view_of_own_nil own] at found
    refine .inr ⟨row, matched, versioned, ?_, ?_, ?_, logged⟩
    · rw [shape]
      exact own
    · rw [shape, key]
      exact List.mem_append_right _ (List.mem_singleton_self _)
    · rw [shape, key]
      exact found

/-- Opening a row. -/
theorem moved_insert {t : TableName} {row : TableRow t} {answer : Except Violation Unit}
    (coherent : before.Coherent) (means : Stage.rested.Means u organizationId i before)
    (opens : RowOpens u t row) (owned : rowOrganization t row = some organizationId)
    (ran : Store.exec i (.insert t row) before = some (answer, after))
    : answer = .ok () ∧ (Stage.writing (.inserted t row) []).Means u organizationId i after
      ∨ (∃ violation, answer = .error violation) ∧ after = before := by
  obtain ⟨own, -, fresh⟩ := Stage.means_rested.mp means
  rcases Store.exec_insert coherent ran with ⟨refused, same⟩ | ⟨rfl, shape, absent, -⟩
  · exact .inr ⟨refused, same⟩
  · have committed := Store.exec_committed ran (by simp)
    rw [Store.view_of_own_nil own] at absent
    refine .inl ⟨rfl, ⟨opens, owned⟩, ⟨?_, by simp⟩, ?_, by simp, ?_, trivial⟩
    · rw [committed]
      exact absent
    · rw [shape, Store.stage_own_self, own]
      rfl
    · rw [Store.exec_log_same coherent ran (by simp)]
      exact fresh

/-- Recording an event. -/
theorem moved_record {change : Change} {event : AuditEvent} {answer : Except Violation Unit}
    (coherent : before.Coherent)
    (means : (Stage.writing change []).Means u organizationId i before)
    (owned : event.organizationId = organizationId)
    (ran
      : Store.exec i (.insert (S := schema) .securityAuditEvents event) before
        = some (answer, after))
    : answer = .ok () ∧ (Stage.writing change [event]).Means u organizationId i after
      ∨ (∃ violation, answer = .error violation) ∧ after = before := by
  obtain ⟨legal, ⟨grounded, -⟩, own, -, known⟩ := means
  rcases Store.exec_insert coherent ran with ⟨refused, same⟩ | ⟨rfl, shape, absent, -⟩
  · exact .inr ⟨refused, same⟩
  · have committed := Store.exec_committed ran (by simp)
    refine .inl ⟨rfl, legal, ⟨?_, ?_⟩, ?_, by simp, ?_⟩
    · rw [committed]
      exact grounded
    · intro event' member
      rw [List.mem_singleton.mp member, committed]
      refine ⟨owned, ?_⟩
      have elsewhere
          : ∀ write ∈ before.own i, write.target ≠ (.securityAuditEvents, event.id) := by
        intro write written same
        simp only [own, eventWrites, List.map_nil, List.append_nil] at written
        exact legal.1.event_free written (congrArg Prod.fst same)
      exact (Write.find?_applyAll_other _ _ elsewhere).symm.trans absent
    · rw [shape, Store.stage_own_self, own]
      simp [eventWrites]
    · rw [shape]
      exact known

/-- Revising the locked row: the WHERE clause matches. -/
theorem moved_update {t : TableName} {old row : TableRow t}
    {change : TableRow t → Option (TableRow t)} {answer : Except Violation Bool}
    (coherent : before.Coherent) (means : (Stage.locked t old).Means u organizationId i before)
    (changes : change old = some row) (revises : RowRevises u t old row)
    (owned
      : rowOrganization t old = some organizationId
        ∧ rowOrganization t row = some organizationId)
    (ran : Store.exec i (.update t (primaryKey t old) change) before = some (answer, after))
    : answer = .ok true ∧ (Stage.writing (.revised t old row) []).Means u organizationId i after
      ∨ (∃ violation, answer = .error violation) ∧ after = before := by
  obtain ⟨-, own, -, found, fresh⟩ := means
  have visible : (before.view i).find? t (primaryKey t old) = some old := by
    rw [Store.view_of_own_nil own]
    exact found
  rcases Store.exec_update ran with
    ⟨-, missed, -⟩ | ⟨refused, same⟩ | ⟨old', row', rfl, found', changed, -, -, shape, -⟩
  · rw [visible, Option.bind_some, changes] at missed
    cases missed
  · exact .inr ⟨refused, same⟩
  · rw [visible] at found'
    cases found'
    rw [changes] at changed
    cases changed
    refine .inl ⟨rfl, ⟨revises, owned⟩, ⟨?_, by simp⟩, ?_, by simp, ?_, trivial⟩
    · rw [Store.exec_committed ran (by simp)]
      exact found
    · rw [shape, Store.stage_own_self, own]
      rfl
    · rw [Store.exec_log_same coherent ran (by simp)]
      exact fresh

theorem moved_delete {t : TableName} {chosen : TableRow t → Bool} {count : Nat}
    (coherent : before.Coherent) (means : Stage.rested.Means u organizationId i before)
    (membership : t.isMembership = true)
    (owned : ∀ row, chosen row = true → rowOrganization t row = some organizationId)
    (ran : Store.exec i (.delete t chosen) before = some (count, after))
    : ∃ (snapshot : Database) (rows : List (TableRow t)),
        rows = (snapshot t).filter chosen
        ∧ count = rows.length
        ∧ (Stage.writing (.removed t snapshot rows) []).Means u organizationId i after := by
  obtain ⟨own, -, fresh⟩ := Stage.means_rested.mp means
  obtain ⟨-, counted, shape⟩ := Store.exec_delete ran
  have writes := (Store.exec_delete_writes ran).2
  rw [Store.view_of_own_nil own] at counted shape writes
  refine ⟨before.committed, _, rfl, counted,
    ⟨membership, fun row member => owned row (List.mem_filter.mp member).2⟩, ⟨?_, by simp⟩,
    ?_, by simp, ?_, ?_⟩
  · intro row member
    rw [Store.exec_committed ran (by simp)]
    exact Db.find?_of_mem coherent.keyed (List.mem_filter.mp member).1
  · rw [writes, own]
    simp [Change.writes, eventWrites]
  · rw [Store.exec_log_same coherent ran (by simp)]
    exact fresh
  · rw [shape, Store.stage_removals]
    simp [Change.Saw, Store.reading]

theorem moved_commit {change : Change} {events : List AuditEvent} {answer : Unit}
    (means : (Stage.writing change events).Means u organizationId i before)
    (ran : Store.exec i .commit before = some (answer, after))
    : (Stage.committed change events).Means u organizationId i after := by
  obtain ⟨legal, -, own, -, fresh, saw⟩ := means
  have shape := Store.exec_commit ran
  refine ⟨legal, ?_, ?_, ?_, before.view i, ?_⟩
  · rw [shape, Store.record_own]
    exact Store.release_own_self _ i
  · intro t k lock
    rw [shape, Store.record_locks] at lock
    exact (Store.mem_release_locks.mp lock).2 rfl
  · rw [shape, Store.record_history_self]
    cases change <;> exact saw
  · rw [shape, Store.record_history_self]
    change (before.history i).log ++ [(before.own i, before.view i)] = _
    rw [fresh, own]
    rfl

theorem moved_rollback {stage : Stage} {answer : Unit}
    (means : stage.Means u organizationId i before)
    (ran : Store.exec i .rollback before = some (answer, after))
    : stage.rolledBack.Means u organizationId i after := by
  simp only [Store.exec, Option.some.injEq, Prod.mk.injEq] at ran
  obtain ⟨-, rfl⟩ := ran
  have unlocked : Store.Unlocked i (before.release i) :=
    fun t k lock => (Store.mem_release_locks.mp lock).2 rfl
  have own : (before.release i).own i = [] := Store.release_own_self _ i
  cases stage with
  | writing change events =>
      obtain ⟨-, -, -, -, fresh, -⟩ := means
      exact Stage.means_rested.mpr ⟨own, unlocked, fresh⟩
  | locked t row =>
      obtain ⟨-, -, -, -, fresh⟩ := means
      exact Stage.means_rested.mpr ⟨own, unlocked, fresh⟩
  | committed change events =>
      obtain ⟨legal, -, -, known⟩ := means
      exact ⟨legal, own, unlocked, known⟩

end Statements

-----------------------------------------------------------------------------------------
-- Each operation moves the mode
-----------------------------------------------------------------------------------------

variable {world after : World}

theorem Mode.Means.of_sql {later : Mode} (means : mode.Means u organizationId i world)
    (rest : after = { world with store := after.store }) (drawn : later.drawn = mode.drawn)
    (stage : later.stage.Means u organizationId i after.store)
    : later.Means u organizationId i after where
  drawn id member := by
    rw [drawn] at member
    exact (means.drawn id member).mono (by rw [rest]) (by rw [rest])
  stage := stage

/-- By cases on the statement. -/
theorem moved_sql {statement : Statement schema} {answer : statement.Answer}
    (recorded : world.Recorded u) (means : mode.Means u organizationId i world)
    (allowed : mode.May u audited organizationId (.sql statement))
    (ran : exec i (.sql statement) world = some (answer, after))
    : ∃ later,
        mode.Moves u (.sql statement) answer later ∧ later.Means u organizationId i after := by
  obtain ⟨executed, rest⟩ := exec_sql ran
  have coherent := recorded.coherent
  obtain ⟨stage, drawn⟩ := mode
  have known : stage.Means u organizationId i world.store := means.stage
  cases statement with
  | select query =>
      obtain rfl : stage = .rested := allowed
      obtain ⟨rested, found⟩ := moved_select known executed
      cases looks : query.looksUp with
      | true => exact ⟨_, if_pos looks |>.symm, means.of_sql rest rfl found⟩
      | false => exact ⟨_, if_neg (by simp [looks]) |>.symm, means.of_sql rest rfl rested⟩
  | selectForUpdate t k chosen =>
      obtain ⟨rfl, versioned⟩ := allowed
      rcases moved_selectForUpdate coherent known versioned executed with
        ⟨nothing, stays⟩ | ⟨row, matched, locked⟩
      · exact ⟨_, .inl ⟨nothing, rfl⟩, means.of_sql rest rfl stays⟩
      · exact ⟨_, .inr ⟨row, matched, rfl⟩, means.of_sql rest rfl locked⟩
  | insert t row =>
      obtain ⟨owned, ⟨rfl, opens⟩ | ⟨change, event, rfl, same, -⟩⟩ := allowed
      · rcases moved_insert coherent known opens owned executed with ⟨done, moved⟩ | ⟨refused, same⟩
        · exact ⟨_, .inl ⟨done, .inl ⟨opens, rfl⟩⟩, means.of_sql rest rfl moved⟩
        · exact ⟨_, .inr ⟨refused, rfl⟩, means.of_sql rest rfl (by rw [same]; exact known)⟩
      · cases same
        rcases moved_record coherent known (Option.some.inj owned) executed with
          ⟨done, moved⟩ | ⟨refused, same⟩
        · exact ⟨_, .inl ⟨done, .inr ⟨change, event, rfl, rfl, rfl⟩⟩, means.of_sql rest rfl moved⟩
        · exact ⟨_, .inr ⟨refused, rfl⟩, means.of_sql rest rfl (by rw [same]; exact known)⟩
  | update t k change =>
      obtain ⟨old, row, rfl, rfl, changes, revises, owned⟩ := allowed
      rcases moved_update coherent known changes revises owned executed with
        ⟨done, moved⟩ | ⟨refused, same⟩
      · exact ⟨_, .inl ⟨done, old, row, rfl, changes, rfl⟩, means.of_sql rest rfl moved⟩
      · exact ⟨_, .inr ⟨refused, rfl⟩, means.of_sql rest rfl (by rw [same]; exact known)⟩
  | delete t chosen =>
      obtain ⟨rfl, membership, owned⟩ := allowed
      obtain ⟨snapshot, rows, chosen, counted, moved⟩ :=
        moved_delete coherent known membership owned executed
      exact ⟨_, ⟨snapshot, rows, chosen, counted, rfl⟩, means.of_sql rest rfl moved⟩
  | commit =>
      obtain ⟨change, events, rfl, -⟩ := allowed
      exact ⟨_, ⟨change, events, rfl, rfl⟩, means.of_sql rest rfl (moved_commit known executed)⟩
  | rollback => exact ⟨_, rfl, means.of_sql rest rfl (moved_rollback known executed)⟩

/-- By cases on the operation. -/
theorem moved {op : Op} {answer : op.Answer} (recorded : world.Recorded u)
    (means : mode.Means u organizationId i world) (allowed : mode.May u audited organizationId op)
    (ran : exec i op world = some (answer, after))
    : ∃ later, mode.Moves u op answer later ∧ later.Means u organizationId i after := by
  cases op with
  | sql statement => exact moved_sql recorded means allowed ran
  | enter port => exact ⟨mode, rfl, means.outside (exec_outside ran (by simp)).1⟩
  | now => exact ⟨mode, rfl, means.outside (exec_outside ran (by simp)).1⟩
  | newUuid =>
      have kept := means.outside (exec_outside ran (by simp)).1
      simp only [exec, Option.some.injEq, Prod.mk.injEq] at ran
      obtain ⟨rfl, rfl⟩ := ran
      refine ⟨_, rfl, { drawn := ?_, stage := kept.stage }⟩
      intro id member
      rcases List.mem_cons.mp member with rfl | old
      · exact ⟨world.drawn.length, by simp, rfl⟩
      · exact kept.drawn id old
  | _ => exact allowed.elim

-----------------------------------------------------------------------------------------
-- The invariant
-----------------------------------------------------------------------------------------

/-- Outside of the store nothing that the invariant says changes. -/
theorem World.Recorded.outside (recorded : world.Recorded u) (outside : Outside world after)
    : after.Recorded u where
  coherent := by
    rw [outside.store]
    exact recorded.coherent
  removals := by
    rw [outside.store]
    exact recorded.removals
  reservations := by
    rw [outside.store]
    exact recorded.reservations
  events_drawn j event member := by
    rw [outside.store] at member
    exact (recorded.events_drawn j event member).mono outside.ids outside.drawn
  logged := by
    rw [outside.store]
    exact recorded.logged
  ordered := by
    rw [outside.store]
    exact recorded.ordered
  trail j entry member event put := by
    rw [outside.store] at member ⊢
    obtain ⟨drawn, found⟩ := recorded.trail j entry member event put
    exact ⟨drawn.mono outside.ids outside.drawn, found⟩

/-- Allowed statements delete memberships only. -/
theorem recorded_removals {statement : Statement schema} {answer : statement.Answer}
    (recorded : world.Recorded u) (allowed : mode.May u audited organizationId (.sql statement))
    (executed : Store.exec i statement world.store = some (answer, after.store)) (j : Nat)
    (t : TableName) (k : UUID)
    (member : (j, Write.remove (S := schema) t k) ∈ after.store.pending)
    : t.isMembership = true := by
  rcases Store.exec_pending recorded.coherent executed member with
    old | ⟨-, ⟨t', row, -, same⟩ | ⟨t', k', change, row, -, same⟩ | ⟨t', chosen, k', rfl, same⟩⟩
  · exact recorded.removals j t k old
  · cases same
  · cases same
  · cases same
    exact allowed.2.1

/-- Allowed statements reserve versioned rows only. -/
theorem recorded_reservations {statement : Statement schema} {answer : statement.Answer}
    (recorded : world.Recorded u) (allowed : mode.May u audited organizationId (.sql statement))
    (executed : Store.exec i statement world.store = some (answer, after.store)) (j : Nat)
    (t : TableName) (k : UUID) (member : (j, t, k) ∈ after.store.reserved)
    : t.isVersioned = true := by
  rcases Store.exec_reserved recorded.coherent executed member with
    old | ⟨t', k', chosen, rfl, same⟩
  · exact recorded.reservations j t k old
  · cases same
    exact allowed.2

/-- An event is inserted with an id that its session has drawn. -/
theorem recorded_events_drawn {statement : Statement schema} {answer : statement.Answer}
    (recorded : world.Recorded u) (means : mode.Means u organizationId i world)
    (allowed : mode.May u audited organizationId (.sql statement))
    (executed : Store.exec i statement world.store = some (answer, after.store)) {j : Nat}
    {event : AuditEvent}
    (member : (j, Write.put TableName.securityAuditEvents event) ∈ after.store.pending)
    : world.DrawnBy j event.id := by
  rcases Store.exec_pending recorded.coherent executed member with
    old | ⟨rfl, ⟨t, row, rfl, same⟩ | ⟨t, k, change, row, rfl, same⟩ | ⟨t, chosen, k, -, same⟩⟩
  · exact recorded.events_drawn j event old
  · cases same
    obtain ⟨-, ⟨-, opens⟩ | ⟨change, event', -, same, drawn⟩⟩ := allowed
    · exact opens.elim
    · cases same
      exact means.drawn _ drawn
  · cases same
    obtain ⟨old, row, -, -, -, revises, -⟩ := allowed
    exact revises.elim
  · cases same

/-- Statements that are no commits leave what was committed and logged. -/
theorem committed_logged_same {statement : Statement schema} {answer : statement.Answer}
    {before later : Store schema} (coherent : before.Coherent)
    (executed : Store.exec i statement before = some (answer, later))
    (other : statement ≠ .commit)
    : later.committed = before.committed
      ∧ ∀ j, (later.history j).log = (before.history j).log := by
  refine ⟨Store.exec_committed executed other, fun j => ?_⟩
  by_cases same : j = i
  · subst same
    exact Store.exec_log_same coherent executed other
  · rw [((Store.exec_effect coherent executed).frame same).2.2]

/-- The change that a commit publishes, and the log it leaves. -/
theorem committed_by {answer : Unit} {later : Store schema} (recorded : world.Recorded u)
    (means : mode.Means u organizationId i world)
    (allowed : mode.May u audited organizationId (.sql .commit))
    (executed : Store.exec i .commit world.store = some (answer, later))
    : ∃ (change : Change) (events : List AuditEvent),
        (change.Legal u ∧ change.Owned organizationId)
        ∧ (events.length ≤ 1 ∧ ∀ event ∈ events, world.DrawnBy i event.id)
        ∧ (change.Grounded world.store.committed
          ∧ ∀ event ∈ events, event.Fresh organizationId world.store.committed)
        ∧ later.committed
          = Write.applyAll (change.writes ++ eventWrites events) world.store.committed
        ∧ (later.history i).log = [(change.writes ++ eventWrites events, later.committed)]
        ∧ ∀ j, j ≠ i → (later.history j).log = (world.store.history j).log := by
  obtain ⟨change, events, shape, counted⟩ := allowed
  have known : (Stage.writing change events).Means u organizationId i world.store := by
    rw [← shape]
    exact means.stage
  obtain ⟨legal, grounded, own, -, fresh, -⟩ := known
  have left := Store.exec_commit executed
  have published : later.committed = world.store.view i := by
    rw [left]
    rfl
  refine ⟨change, events, legal, ⟨counted ▸ Bool.toNat_le audited, ?_⟩, grounded, ?_, ?_, ?_⟩
  · intro event member
    refine recorded.events_drawn i event (Store.mem_own.mp ?_)
    rw [own]
    exact List.mem_append_right _ (List.mem_map_of_mem member)
  · rw [published, Store.view, own]
  · rw [published, left, Store.record_history_self]
    change (world.store.history i).log ++ [(world.store.own i, world.store.view i)] = _
    rw [fresh, own]
    rfl
  · intro j other
    rw [left, Store.record_history_other _ _ other]
    rfl

/-- Committed rows are only revised and opened. -/
theorem revised_by {op : Op} {answer : op.Answer} (recorded : world.Recorded u)
    (means : mode.Means u organizationId i world) (allowed : mode.May u audited organizationId op)
    (ran : exec i op world = some (answer, after))
    : Revised u world.store.committed after.store.committed := by
  by_cases database : ∃ statement, op = .sql statement
  · obtain ⟨statement, rfl⟩ := database
    obtain ⟨executed, -⟩ := exec_sql ran
    by_cases commits : statement = .commit
    · subst commits
      obtain ⟨change, events, ⟨legal, -⟩, -, ⟨grounded, -⟩, published, -⟩ :=
        committed_by recorded means allowed executed
      rw [published]
      exact legal.revised grounded events
    · rw [(committed_logged_same recorded.coherent executed commits).1]
      exact Revised.refl u _
  · rw [(exec_outside ran (fun statement same => database ⟨statement, same⟩)).1.store]
    exact Revised.refl u _

/-- Committed rows of other organizations stay as they are. -/
theorem apart_by {op : Op} {answer : op.Answer} (recorded : world.Recorded u)
    (means : mode.Means u organizationId i world) (allowed : mode.May u audited organizationId op)
    (ran : exec i op world = some (answer, after)) {t : TableName} {k : UUID} {row : TableRow t}
    (apart : rowOrganization t row ≠ some organizationId)
    : after.store.committed.find? t k = some row ↔ world.store.committed.find? t k = some row := by
  by_cases database : ∃ statement, op = .sql statement
  · obtain ⟨statement, rfl⟩ := database
    obtain ⟨executed, -⟩ := exec_sql ran
    by_cases commits : statement = .commit
    · subst commits
      obtain ⟨change, events, ⟨legal, owned⟩, -, ⟨grounded, new⟩, published, -⟩ :=
        committed_by recorded means allowed executed
      rw [published]
      exact Change.Owned.find?_publish owned legal recorded.coherent.keyed grounded new apart
    · rw [(committed_logged_same recorded.coherent executed commits).1]
  · rw [(exec_outside ran (fun statement same => database ⟨statement, same⟩)).1.store]

/-- What is committed continues the log, also after a commit: what is published now is what
the call logs, and of the other rows by what revisions do. -/
theorem recorded_logged {answer : Unit} {later : Store schema} (recorded : world.Recorded u)
    (means : mode.Means u organizationId i world)
    (allowed : mode.May u audited organizationId (.sql .commit))
    (executed : Store.exec i .commit world.store = some (answer, later)) (j : Nat)
    : ∀ entry ∈ (later.history j).log, ∀ t row,
        t.isVersioned = true
        → Write.put t row ∈ entry.1
        → ∃ now n,
            later.committed.find? t (primaryKey t row) = some now
            ∧ Steps (RowRevises u t) n row now := by
  obtain ⟨change, events, ⟨legal, -⟩, -, ⟨grounded, -⟩, published, logged, others⟩ :=
    committed_by recorded means allowed executed
  intro entry member t row versioned put
  by_cases same : j = i
  · subst same
    rw [logged, List.mem_singleton] at member
    subst member
    have written := (legal.versioned_writes versioned put rfl).1
    refine ⟨row, 0, ?_, .refl row⟩
    rw [published]
    exact Change.find?_publish_self legal events _ versioned written
  · rw [others j same] at member
    obtain ⟨now, n, found, steps⟩ := recorded.logged j entry member t row versioned put
    obtain ⟨next, m, found', more⟩ := (legal.revised grounded events).kept versioned found
    exact ⟨next, n + m, by rw [published]; exact found', steps.trans more⟩

/-- What a commit logs continues what the others have logged of the row. -/
theorem recorded_continues {answer : Unit} {later : Store schema} (recorded : world.Recorded u)
    (means : mode.Means u organizationId i world)
    (allowed : mode.May u audited organizationId (.sql .commit))
    (executed : Store.exec i .commit world.store = some (answer, later)) {j : Nat}
    (other : j ≠ i)
    : ∀ left ∈ (later.history i).log, ∀ right ∈ (later.history j).log, ∀ t first second,
        t.isVersioned = true
        → Write.put t first ∈ left.1
        → Write.put t second ∈ right.1
        → primaryKey t first = primaryKey t second
        → ∃ n, Steps (RowRevises u t) (n + 1) second first := by
  obtain ⟨change, events, ⟨legal, -⟩, -, ⟨grounded, -⟩, -, logged, others⟩ :=
    committed_by recorded means allowed executed
  intro left mine right theirs t first second versioned put put' key
  rw [logged, List.mem_singleton] at mine
  subst mine
  rw [others j other] at theirs
  obtain ⟨now, n, found, steps⟩ := recorded.logged j right theirs t second versioned put'
  rw [← key] at found
  have written := (legal.versioned_writes versioned put rfl).1
  rcases Change.put_of_mem written with rfl | ⟨old, rfl⟩
  · rw [grounded] at found
    cases found
  · have revises : RowRevises u t old first := legal
    rw [revises.key, grounded] at found
    cases found
    exact ⟨n, steps.tail revises⟩

/-- Committed events stay: each has an id that only its own session has drawn. -/
theorem recorded_trail {answer : Unit} {later : Store schema} (recorded : world.Recorded u)
    (means : mode.Means u organizationId i world)
    (allowed : mode.May u audited organizationId (.sql .commit))
    (executed : Store.exec i .commit world.store = some (answer, later)) (j : Nat)
    : ∀ entry ∈ (later.history j).log, ∀ event,
        Write.put TableName.securityAuditEvents event ∈ entry.1
        → world.DrawnBy j event.id
          ∧ later.committed.find? .securityAuditEvents event.id = some event := by
  obtain ⟨change, events, ⟨legal, -⟩, ⟨single, drawn⟩, -, published, logged, others⟩ :=
    committed_by recorded means allowed executed
  intro entry member event put
  rw [published]
  by_cases same : j = i
  · subst same
    rw [logged, List.mem_singleton] at member
    subst member
    have here := legal.event_mem put
    exact ⟨drawn event here, Change.find?_publish_event single _ here⟩
  · rw [others j same] at member
    obtain ⟨theirs, found⟩ := recorded.trail j entry member event put
    refine ⟨theirs, ?_⟩
    rw [Change.find?_publish_event_other legal, found]
    intro mine here id
    have ours := drawn mine here
    rw [id] at ours
    exact same (theirs.unique ours)

theorem World.Recorded.sql {statement : Statement schema} {answer : statement.Answer}
    (recorded : world.Recorded u) (means : mode.Means u organizationId i world)
    (allowed : mode.May u audited organizationId (.sql statement))
    (ran : exec i (.sql statement) world = some (answer, after))
    : after.Recorded u := by
  obtain ⟨executed, rest⟩ := exec_sql ran
  have coherent :=
    (Store.exec_effect recorded.coherent executed).coherent schema_symmetric recorded.coherent
  have drawn
      : ∀ j event,
          (j, Write.put TableName.securityAuditEvents event) ∈ after.store.pending
          → after.DrawnBy j event.id := by
    intro j event member
    exact (recorded_events_drawn recorded means allowed executed member).mono
      (by rw [rest]) (by rw [rest])
  have removals := recorded_removals recorded allowed executed
  have reservations := recorded_reservations recorded allowed executed
  by_cases commits : statement = .commit
  · subst commits
    refine {
      coherent
      removals
      reservations
      events_drawn := drawn
      logged := fun j => recorded_logged recorded means allowed executed j
      ordered := ?_
      trail := ?_
    }
    swap
    · intro j entry member event put
      obtain ⟨theirs, found⟩ :=
        recorded_trail recorded means allowed executed j entry member event put
      exact ⟨theirs.mono (by rw [rest]) (by rw [rest]), found⟩
    obtain ⟨-, -, -, -, -, -, -, others⟩ := committed_by recorded means allowed executed
    intro j l different left mine right theirs t first second versioned put put' key
    by_cases first_commits : j = i
    · subst first_commits
      obtain ⟨n, steps⟩ := recorded_continues recorded means allowed executed
        (Ne.symm different) left mine right theirs t first second versioned put put' key
      exact ⟨n, .inr steps⟩
    · by_cases second_commits : l = i
      · subst second_commits
        obtain ⟨n, steps⟩ := recorded_continues recorded means allowed executed different right
          theirs left mine t second first versioned put' put key.symm
        exact ⟨n, .inl steps⟩
      · rw [others j first_commits] at mine
        rw [others l second_commits] at theirs
        exact recorded.ordered j l different left mine right theirs t first second versioned
          put put' key
  · obtain ⟨committed, logs⟩ := committed_logged_same recorded.coherent executed commits
    refine {
      coherent
      removals
      reservations
      events_drawn := drawn
      logged := fun j => ?_
      ordered := fun j l => ?_
      trail := fun j => ?_
    }
    · rw [logs j, committed]
      exact recorded.logged j
    · rw [logs j, logs l]
      exact recorded.ordered j l
    · rw [logs j, committed]
      intro entry member event put
      obtain ⟨theirs, found⟩ := recorded.trail j entry member event put
      exact ⟨theirs.mono (by rw [rest]) (by rw [rest]), found⟩

-----------------------------------------------------------------------------------------
-- The protocol
-----------------------------------------------------------------------------------------

theorem aggregateProtocol_realized (u : Unicode) (audited : Bool) {C : Type}
    (organization : C → UUID)
    : Realized exec (fun origin => aggregateProtocol u audited (organization origin))
        (World.Recorded u) (fun origin => Mode.Means u (organization origin)) where
  kept {origin i mode op world answer after} recorded means allowed ran := by
    by_cases database : ∃ statement, op = .sql statement
    · obtain ⟨statement, rfl⟩ := database
      exact recorded.sql means allowed ran
    · exact recorded.outside
        (exec_outside ran (fun statement same => database ⟨statement, same⟩)).1
  moved recorded means allowed ran := moved recorded means allowed ran
  others {origin i mode op world answer after} recorded _ _ ran caller j other different means :=
    by
    by_cases database : ∃ statement, op = .sql statement
    · obtain ⟨statement, rfl⟩ := database
      obtain ⟨executed, rest⟩ := exec_sql ran
      exact means.undisturbed recorded.coherent
        ((Store.exec_effect recorded.coherent executed).undisturbed recorded.coherent different)
        rest
    · exact means.outside
        (exec_outside ran (fun statement same => database ⟨statement, same⟩)).1

/-- The session has a row locked. -/
def World.HoldsLock (j : Nat) (world : World) : Prop := ∃ t k, (j, t, k) ∈ world.store.locks

/-- Only SQL statements wait. -/
theorem stuck_sql {op : Op} (stuck : exec i op world = none)
    : ∃ statement, op = .sql statement ∧ Store.exec i statement world.store = none := by
  cases op with
  | sql statement =>
      refine ⟨statement, rfl, ?_⟩
      simp only [exec] at stuck
      split at stuck
      · assumption
      · cases stuck
  | copyObject source destination mediaType =>
      simp only [exec] at stuck
      split at stuck <;> cases stuck
  | headObject key =>
      simp only [exec] at stuck
      repeat' split at stuck
      all_goals cases stuck
  | presignUrl key expiresInSeconds =>
      simp only [exec] at stuck
      repeat' split at stuck
      all_goals cases stuck
  | _ => simp [exec] at stuck

/-- Rows of the other tables are neither reserved nor deleted. -/
theorem World.Recorded.shareable (recorded : world.Recorded u) {row : TableName × UUID}
    (unreserved : row.1.isVersioned = false) (kept : row.1.isMembership = false)
    : world.store.Shareable row := by
  constructor
  · intro j reserved
    exact absurd (recorded.reservations j row.1 row.2 reserved) (by simp [unreserved])
  · intro j removed
    exact absurd (recorded.removals j row.1 row.2 removed) (by simp [kept])

theorem fst_of_mem_toUsers {ids : List UUID} {parent : TableName × UUID}
    (member : parent ∈ toUsers ids)
    : parent.1 = .users := by
  obtain ⟨_, -, rfl⟩ := List.mem_map.mp member
  rfl

/-- A revised row refers anew to users only. -/
theorem RowRevises.refers {t : TableName} {old row : TableRow t} (revises : RowRevises u t old row)
    {db : Database} (found : db.find? t (primaryKey t old) = some old) {parent : TableName × UUID}
    (refers : parent ∈ (Write.put (S := schema) t row).references db)
    : parent.1 = .users := by
  have anew : parent ∈ rowParents t row ∧ parent ∉ rowParents t old := by
    have key : primaryKey t row = primaryKey t old := RowRevises.key revises
    simpa [Write.references, key, found] using refers
  obtain ⟨member, new⟩ := anew
  cases t with
  | batches =>
      obtain ⟨batch, found, revises⟩ := revises
      have same := (batchFromRecord_succeeds found revises.succeeds).organizationId
      rcases List.mem_cons.mp member with rfl | user
      · exact absurd (List.mem_cons.mpr (.inl (by rw [same]))) new
      · exact fst_of_mem_toUsers user
  | cases =>
      obtain ⟨case, found, revises⟩ := revises
      have same := (caseFromRecord_succeeds found revises.succeeds).organizationId
      rcases List.mem_cons.mp member with rfl | user
      · exact absurd (List.mem_cons.mpr (.inl (by rw [same]))) new
      · exact fst_of_mem_toUsers user
  | caseTasks =>
      have same := (CaseTask.Revises.succeeds revises).caseId
      rcases List.mem_cons.mp member with rfl | user
      · exact absurd (List.mem_cons.mpr (.inl (by rw [same]))) new
      · exact fst_of_mem_toUsers user
  | _ => exact revises.elim

/-- Rows that repeat each other's unique columns refer to the same versioned row. -/
theorem clash_refers {t : TableName} {first second : TableRow t}
    (clash : uniqueClash t first second = true) {parent : TableName × UUID}
    (versioned : parent.1.isVersioned = true) (refers : parent ∈ rowParents t first)
    : parent ∈ rowParents t second := by
  have notUser {ids : List UUID} : parent ∉ toUsers ids := by
    intro member
    rw [fst_of_mem_toUsers member] at versioned
    cases versioned
  cases t with
  | batchDocuments =>
      simp only [uniqueClash, Bool.and_eq_true, beq_iff_eq] at clash
      simp only [rowParents, List.mem_cons, notUser, or_false] at refers ⊢
      rcases refers with rfl | batch | document
      · cases versioned
      · exact .inr (.inl (clash.1 ▸ batch))
      · exact .inr (.inr (clash.2 ▸ document))
  | caseDocuments =>
      simp only [uniqueClash, Bool.and_eq_true, beq_iff_eq] at clash
      simp only [rowParents, List.mem_cons, notUser, or_false] at refers ⊢
      exact refers.imp (fun case => clash.1 ▸ case) (fun document => clash.2 ▸ document)
  | documentVersions =>
      simp only [rowParents, List.mem_cons, notUser, or_false] at refers
      rw [refers] at versioned
      cases versioned
  | documentArtifacts =>
      simp only [rowParents, List.mem_cons, List.mem_append, List.mem_map, notUser, or_false]
        at refers
      rcases refers with rfl | rfl | ⟨version, -, rfl⟩ <;> cases versioned
  | uploadIdempotency =>
      simp only [rowParents, List.mem_cons, List.mem_append, List.mem_map] at refers
      rcases refers with (rfl | ⟨document, -, rfl⟩) | ⟨version, -, rfl⟩ <;> cases versioned
  | _ => cases clash

/-- A call that waits is at rest: what it does later is answered at once. -/
theorem rested_of_stuck {op : Op} (recorded : world.Recorded u)
    (means : mode.Means u organizationId i world)
    (allowed : mode.May u audited organizationId op) (stuck : exec i op world = none)
    : mode.stage = .rested := by
  obtain ⟨statement, rfl, waits⟩ := stuck_sql stuck
  have coherent := recorded.coherent
  cases statement with
  | select query => exact allowed
  | selectForUpdate t k chosen => exact allowed.1
  | insert t row =>
      obtain ⟨-, ⟨rested, -⟩ | ⟨change, event, -, same, drawn⟩⟩ := allowed
      · exact rested
      · cases same
        refine absurd waits (Store.exec_insert_answered (fun _ => rfl) ?_ ?_ ?_)
        · intro j k removed
          cases recorded.removals j _ k removed
        · intro j other different member key
          have theirs := recorded.events_drawn j other member
          have id : other.id = event.id := key
          rw [id] at theirs
          exact different (theirs.unique (means.drawn _ drawn))
        · intro parent refers
          rcases List.mem_cons.mp refers with rfl | user
          · exact recorded.shareable rfl rfl
          · have here := fst_of_mem_toUsers user
            exact recorded.shareable (by rw [here]; rfl) (by rw [here]; rfl)
  | update t k change =>
      obtain ⟨old, row, shape, rfl, changes, revises, -⟩ := allowed
      have known : (Stage.locked t old).Means u organizationId i world.store := by
        rw [← shape]
        exact means.stage
      obtain ⟨versioned, own, lock, found, -⟩ := known
      rw [← Store.view_of_own_nil own] at found
      refine absurd waits (Store.exec_update_answered coherent lock ?_ ?_)
      · intro first second
        cases t <;> first | rfl | cases versioned
      · intro row' matched parent refers
        rw [found, Option.bind_some, changes] at matched
        cases matched
        have here := RowRevises.refers revises found refers
        exact recorded.shareable (by rw [here]; rfl) (by rw [here]; rfl)
  | delete t chosen => exact allowed.1
  | commit => simp [Store.exec] at waits
  | rollback => simp [Store.exec] at waits

/-- A call waits only while it has nothing locked, for one that has. -/
theorem waits_unlocked {op : Op} (recorded : world.Recorded u)
    (means : mode.Means u organizationId i world)
    (allowed : mode.May u audited organizationId op) (stuck : exec i op world = none)
    : ¬ world.HoldsLock i ∧ ∃ j, world.HoldsLock j := by
  have unlocked := (means.rested (rested_of_stuck recorded means allowed stuck)).2.1
  obtain ⟨statement, rfl, waits⟩ := stuck_sql stuck
  obtain ⟨j, t, k, -, lock⟩ := Store.exec_waits recorded.coherent waits
  exact ⟨fun ⟨t, k, held⟩ => unlocked t k held, j, t, k, lock⟩

/-- A call that inserts the unique columns of another INSERT has nothing locked, and where the
other one waits for a reserved row, so does it. -/
theorem inserts_wait_together (audited : Bool) {j : Nat} {t : TableName}
    {row other : TableRow t} (recorded : world.Recorded u)
    (means : mode.Means u organizationId j world)
    (allowed : mode.May u audited organizationId (.sql (.insert t other)))
    (clash : uniqueClash t row other = true) {parent : TableName × UUID}
    (refers : parent ∈ rowParents t row)
    (reserved : world.store.reservedByOther i parent = true)
    : parent ∈ rowParents t other ∧ world.store.reservedByOther j parent = true := by
  obtain ⟨owner, -, lock, marked⟩ := Store.exists_of_reserved reserved
  have versioned := recorded.reservations owner parent.1 parent.2 marked
  refine ⟨clash_refers clash versioned refers, ?_⟩
  have rested : mode.stage = .rested := by
    obtain ⟨-, ⟨rested, -⟩ | ⟨change, event, -, same, -⟩⟩ := allowed
    · exact rested
    · cases same
      cases clash
  have different : owner ≠ j := by
    rintro rfl
    exact (means.rested rested).2.1 _ _ lock
  refine List.any_eq_true.mpr ⟨_, lock, ?_⟩
  simp [different, marked]

end WorkflowForge
