import WorkflowForge.Application.AggregateRevisions
import WorkflowForge.Concurrency.Protocols
import WorkflowForge.Documents.Sessions
import WorkflowForge.Tenancy.Ownership
import WorkflowForge.Transactions.Waiting

/-! The protocol of the calls that change batches and cases.
A call reads, locks at most one row, makes one change and records one event, all in its own
organization, and then commits once. What it has obtained from the database is its stage.
-/

namespace WorkflowForge

open Python Transactions Concurrency

/-- What a call has changed so far. `found` changes nothing, after a look at the memberships;
it and `removed` carry what was committed then. -/
inductive Change where
  | nothing
  | found (snapshot : Database)
  | inserted (t : TableName) (row : TableRow t)
  | revised (t : TableName) (old row : TableRow t)
  | removed (t : TableName) (snapshot : Database) (rows : List (TableRow t))

/-- The tables of document memberships, the only ones rows are deleted from. -/
def TableName.isMembership : TableName → Bool
  | batchDocuments | caseDocuments => true
  | _ => false

theorem TableName.isVersioned_of_membership {t : TableName} (membership : t.isMembership = true)
    : t.isVersioned = false := by
  cases t <;> first | rfl | cases membership

namespace Change

def writes : Change → List (Write schema)
  | nothing => []
  | found _ => []
  | inserted t row => [.put t row]
  | revised t _ row => [.put t row]
  | removed t _ rows => rows.map (fun row => .remove t (primaryKey t row))

/-- Rows are opened, revised by the domain, or memberships that are removed. -/
def Legal (u : Unicode) : Change → Prop
  | nothing => True
  | found _ => True
  | inserted t row => RowOpens u t row
  | revised t old row => RowRevises u t old row
  | removed t _ _ => t.isMembership = true

/-- The rows that the change writes over, and those that it writes, are the organization's. -/
def Owned (organizationId : UUID) : Change → Prop
  | nothing => True
  | found _ => True
  | inserted t row => rowOrganization t row = some organizationId
  | revised t old row =>
      rowOrganization t old = some organizationId ∧ rowOrganization t row = some organizationId
  | removed t _ rows => ∀ row ∈ rows, rowOrganization t row = some organizationId

/-- The committed rows are still those that the change started from. -/
def Grounded (db : Database) : Change → Prop
  | nothing => True
  | found _ => True
  | inserted t row => db.find? t (primaryKey t row) = none
  | revised t old _ => db.find? t (primaryKey t old) = some old
  | removed t _ rows => ∀ row ∈ rows, db.find? t (primaryKey t row) = some row

/-- The last SELECT or DELETE of the session read the snapshot of the change. -/
def Saw (history : History schema) : Change → Prop
  | found snapshot => history.snapshot = some snapshot
  | removed _ snapshot _ => history.snapshot = some snapshot
  | _ => True

end Change

/-- The lookups of memberships. -/
def Query.looksUp : Query → Bool
  | batchDocument _ _ _ | caseDocument _ _ _ => true
  | _ => false

/-- The event is the organization's, and its id is not taken. -/
structure AuditEvent.Fresh (organizationId : UUID) (db : Database) (event : AuditEvent)
    : Prop where
  owned : event.organizationId = organizationId
  absent : db.find? .securityAuditEvents event.id = none

/-- What a call has obtained: uncommitted changes and events, a locked row, or its commit. -/
inductive Stage where
  | writing (change : Change) (events : List AuditEvent)
  | locked (t : TableName) (row : TableRow t)
  | committed (change : Change) (events : List AuditEvent)

abbrev Stage.rested : Stage := .writing .nothing []

/-- A rollback drops uncommitted changes and locks. -/
def Stage.rolledBack : Stage → Stage
  | committed change events => .committed change events
  | _ => .rested

/-- The stage of a call, and the ids it has drawn. -/
structure Mode where
  stage : Stage
  drawn : List UUID

/-- What a call may do next, in its organization. With a recorder, a commit needs its one
event. -/
def Mode.May (u : Unicode) (audited : Bool) (organizationId : UUID) (mode : Mode)
    : Op → Prop
  | .enter _ | .now | .newUuid | .sql .rollback => True
  | .sql (.select _) => mode.stage = .rested
  | .sql (.selectForUpdate t _ _) => mode.stage = .rested ∧ t.isVersioned = true
  | .sql (.insert t row) =>
      rowOrganization t row = some organizationId
      ∧ ((mode.stage = .rested ∧ RowOpens u t row)
        ∨ ∃ change event,
            mode.stage = .writing change []
            ∧ Write.put (S := schema) t row = .put .securityAuditEvents event
            ∧ event.id ∈ mode.drawn)
  | .sql (.update t k change) =>
      ∃ old row,
        mode.stage = .locked t old
        ∧ primaryKey t old = k
        ∧ change old = some row
        ∧ RowRevises u t old row
        ∧ rowOrganization t old = some organizationId
        ∧ rowOrganization t row = some organizationId
  | .sql (.delete t chosen) =>
      mode.stage = .rested
      ∧ t.isMembership = true
      ∧ ∀ row, chosen row = true → rowOrganization t row = some organizationId
  | .sql .commit =>
      ∃ change events, mode.stage = .writing change events ∧ events.length = audited.toNat
  | _ => False

/-- Where the answer leads. -/
def Mode.Moves (u : Unicode) (mode : Mode) : (op : Op) → op.Answer → Mode → Prop
  | .newUuid, id, later => later = { mode with drawn := id :: mode.drawn }
  | .sql .rollback, _, later => later = { mode with stage := mode.stage.rolledBack }
  | .sql (.select query), db, later =>
      later = if query.looksUp then { mode with stage := .writing (.found db) [] } else mode
  | .sql (.selectForUpdate t k chosen), db, later =>
      (((db : Database).find? t k).filter chosen = none ∧ later = mode)
      ∨ ∃ row,
          ((db : Database).find? t k).filter chosen = some row
          ∧ later = { mode with stage := .locked t row }
  | .sql (.insert t row), answer, later =>
      (answer = .ok ()
        ∧ ((RowOpens u t row ∧ later = { mode with stage := .writing (.inserted t row) [] })
          ∨ ∃ change event,
              mode.stage = .writing change []
              ∧ Write.put (S := schema) t row = .put .securityAuditEvents event
              ∧ later = { mode with stage := .writing change [event] }))
      ∨ (∃ violation, answer = .error violation) ∧ later = mode
  | .sql (.update t _ change), answer, later =>
      (answer = .ok true
        ∧ ∃ old row,
            mode.stage = .locked t old
            ∧ change old = some row
            ∧ later = { mode with stage := .writing (.revised t old row) [] })
      ∨ (∃ violation, answer = .error violation) ∧ later = mode
  | .sql (.delete t chosen), count, later =>
      ∃ (snapshot : Database) (rows : List (TableRow t)),
        rows = (snapshot t).filter chosen
        ∧ count = rows.length
        ∧ later = { mode with stage := .writing (.removed t snapshot rows) [] }
  | .sql .commit, _, later =>
      ∃ change events,
        mode.stage = .writing change events
        ∧ later = { mode with stage := .committed change events }
  | _, _, later => later = mode

def aggregateProtocol (u : Unicode) (audited : Bool) (organizationId : UUID)
    : Protocol Op Op.Answer Mode where
  may := Mode.May u audited organizationId
  moves := Mode.Moves u

-----------------------------------------------------------------------------------------
-- What the stages mean
-----------------------------------------------------------------------------------------

def eventWrites (events : List AuditEvent) : List (Write schema) :=
  events.map (fun event => .put (S := schema) .securityAuditEvents event)

/-- The session has no row locked. -/
def Store.Unlocked (i : Nat) (store : Store schema) : Prop := ∀ t k, (i, t, k) ∉ store.locks

def Stage.Means (u : Unicode) (organizationId : UUID) (i : Nat) (store : Store schema)
    : Stage → Prop
  | writing change events =>
      (change.Legal u ∧ change.Owned organizationId)
      ∧ (change.Grounded store.committed
        ∧ ∀ event ∈ events, event.Fresh organizationId store.committed)
      ∧ store.own i = change.writes ++ eventWrites events
      ∧ (change = .nothing → events = [] → Store.Unlocked i store)
      ∧ (store.history i).log = []
      ∧ change.Saw (store.history i)
  | locked t row =>
      t.isVersioned = true
      ∧ store.own i = []
      ∧ (i, t, primaryKey t row) ∈ store.locks
      ∧ store.committed.find? t (primaryKey t row) = some row
      ∧ (store.history i).log = []
  | committed change events =>
      (change.Legal u ∧ change.Owned organizationId)
      ∧ store.own i = []
      ∧ Store.Unlocked i store
      ∧ change.Saw (store.history i)
      ∧ ∃ db, (store.history i).log = [(change.writes ++ eventWrites events, db)]

theorem Stage.means_rested {u : Unicode} {organizationId : UUID} {i : Nat} {store : Store schema}
    : Stage.rested.Means u organizationId i store
      ↔ store.own i = [] ∧ Store.Unlocked i store ∧ (store.history i).log = [] := by
  constructor
  · rintro ⟨-, -, own, unlocked, fresh, -⟩
    exact ⟨own, unlocked rfl rfl, fresh⟩
  · rintro ⟨own, unlocked, fresh⟩
    exact ⟨⟨trivial, trivial⟩, ⟨trivial, by simp⟩, own, fun _ _ => unlocked, fresh, trivial⟩

structure Mode.Means (u : Unicode) (organizationId : UUID) (i : Nat) (mode : Mode)
    (world : World)
    : Prop where
  drawn : ∀ id ∈ mode.drawn, world.DrawnBy i id
  stage : mode.stage.Means u organizationId i world.store

/-- A call at rest has written, locked and logged nothing. -/
theorem Mode.Means.rested {u : Unicode} {organizationId : UUID} {i : Nat} {mode : Mode}
    {world : World} (means : mode.Means u organizationId i world) (rest : mode.stage = .rested)
    : world.store.own i = [] ∧ Store.Unlocked i world.store
      ∧ (world.store.history i).log = [] := by
  have known := means.stage
  rw [rest] at known
  exact Stage.means_rested.mp known

/-- The invariant of the shared state. What is committed of a row continues what calls logged
of it, and of what two calls logged of a row, one continues the other. Logged events stay. -/
structure World.Recorded (u : Unicode) (world : World) : Prop where
  coherent : world.store.Coherent
  removals
    : ∀ i t k, (i, Write.remove (S := schema) t k) ∈ world.store.pending → t.isMembership = true
  reservations : ∀ i t k, (i, t, k) ∈ world.store.reserved → t.isVersioned = true
  events_drawn
    : ∀ i event,
        (i, Write.put TableName.securityAuditEvents event) ∈ world.store.pending
        → world.DrawnBy i event.id
  logged
    : ∀ i, ∀ entry ∈ (world.store.history i).log, ∀ t row,
        t.isVersioned = true
        → Write.put t row ∈ entry.1
        → ∃ later n,
            world.store.committed.find? t (primaryKey t row) = some later
            ∧ Steps (RowRevises u t) n row later
  ordered
    : ∀ i j, i ≠ j → ∀ left ∈ (world.store.history i).log,
        ∀ right ∈ (world.store.history j).log, ∀ t first second,
          t.isVersioned = true
          → Write.put t first ∈ left.1
          → Write.put t second ∈ right.1
          → primaryKey t first = primaryKey t second
          → ∃ n,
              Steps (RowRevises u t) (n + 1) first second
              ∨ Steps (RowRevises u t) (n + 1) second first
  trail
    : ∀ i, ∀ entry ∈ (world.store.history i).log, ∀ event,
        Write.put TableName.securityAuditEvents event ∈ entry.1
        → world.DrawnBy i event.id
          ∧ world.store.committed.find? .securityAuditEvents event.id = some event

variable {u : Unicode} {audited : Bool} {organizationId : UUID} {i : Nat}

/-- The put of a change that has one. -/
theorem Change.put_of_mem {change : Change} {t : TableName} {row : TableRow t}
    (member : Write.put t row ∈ change.writes)
    : change = .inserted t row ∨ ∃ old, change = .revised t old row := by
  cases change with
  | nothing => cases member
  | found snapshot => cases member
  | inserted t' row' =>
      cases List.mem_singleton.mp member
      exact .inl rfl
  | revised t' old row' =>
      cases List.mem_singleton.mp member
      exact .inr ⟨old, rfl⟩
  | removed t' snapshot rows =>
      obtain ⟨other, -, same⟩ := List.mem_map.mp member
      cases same

/-- A stage keeps its meaning where the session's writes, locks and history stay, and the rows
it has locked. -/
theorem Stage.Means.keep {before after : Store schema} {stage : Stage}
    (coherent : before.Coherent) (means : stage.Means u organizationId i before)
    (own : after.own i = before.own i)
    (locks : ∀ row, (i, row) ∈ after.locks ↔ (i, row) ∈ before.locks)
    (history : after.history i = before.history i)
    (rows
      : ∀ t k,
          (i, t, k) ∈ before.locks
          → after.committed.find? t k = before.committed.find? t k)
    : stage.Means u organizationId i after := by
  have unlocked : Store.Unlocked i before → Store.Unlocked i after :=
    fun none t k lock => none t k ((locks _).mp lock)
  cases stage with
  | writing change events =>
      obtain ⟨⟨legal, owned⟩, ⟨grounded, new⟩, written, resting, known⟩ := means
      have covered
          : ∀ write ∈ change.writes ++ eventWrites events, (i, write.target) ∈ before.locks := by
        intro write member
        refine coherent.covered i write (Store.mem_own.mp ?_)
        rw [written]
        exact member
      have locked : ∀ write ∈ change.writes, (i, write.target) ∈ before.locks :=
        fun write member => covered write (List.mem_append_left _ member)
      have unrecorded : ∀ event ∈ events, event.Fresh organizationId after.committed := by
        intro event member
        obtain ⟨ours, absent⟩ := new event member
        refine ⟨ours, (rows _ _ ?_).trans absent⟩
        exact covered (.put .securityAuditEvents event)
          (List.mem_append_right _ (List.mem_map_of_mem member))
      refine ⟨⟨legal, owned⟩, ⟨?_, unrecorded⟩, own.trans written,
        fun nothing empty => unlocked (resting nothing empty), history ▸ known⟩
      cases change with
      | nothing => trivial
      | found snapshot => trivial
      | inserted t row =>
          exact (rows t _ (locked (.put t row) (List.mem_singleton_self _))).trans grounded
      | revised t old row =>
          have lock : (i, t, primaryKey t row) ∈ before.locks :=
            locked (.put t row) (List.mem_singleton_self _)
          rw [RowRevises.key legal] at lock
          exact (rows t _ lock).trans grounded
      | removed t snapshot removed =>
          intro row member
          have lock : (i, t, primaryKey t row) ∈ before.locks :=
            locked (.remove t (primaryKey t row)) (List.mem_map_of_mem member)
          exact (rows t _ lock).trans (grounded row member)
  | locked t row =>
      obtain ⟨versioned, written, lock, found, fresh⟩ := means
      exact ⟨versioned, own.trans written, (locks _).mpr lock, (rows t _ lock).trans found,
        history ▸ fresh⟩
  | committed change events =>
      obtain ⟨legal, written, none, known⟩ := means
      exact ⟨legal, own.trans written, unlocked none, history ▸ known⟩

theorem Mode.Means.outside {mode : Mode} {before after : World}
    (means : mode.Means u organizationId i before)
    (outside : Outside before after)
    : mode.Means u organizationId i after where
  drawn id member := (means.drawn id member).mono outside.ids outside.drawn
  stage := by
    rw [outside.store]
    exact means.stage

/-- A statement of another session leaves the meaning of a mode alone. -/
theorem Mode.Means.undisturbed {mode : Mode} {before after : World}
    (coherent : before.store.Coherent) (means : mode.Means u organizationId i before)
    (undisturbed : before.store.Undisturbed i after.store)
    (rest : after = { before with store := after.store })
    : mode.Means u organizationId i after where
  drawn id member := (means.drawn id member).mono (by rw [rest]) (by rw [rest])
  stage := means.stage.keep coherent undisturbed.own undisturbed.locks undisturbed.history
    undisturbed.rows

-----------------------------------------------------------------------------------------
-- What a commit publishes
-----------------------------------------------------------------------------------------

theorem Change.Legal.versioned_writes {change : Change} (legal : change.Legal u)
    {events : List AuditEvent} {t : TableName} (versioned : t.isVersioned = true)
    {write : Write schema} (member : write ∈ change.writes ++ eventWrites events)
    (here : write.target.1 = t)
    : write ∈ change.writes ∧ ∃ row, write = .put t row := by
  rcases List.mem_append.mp member with changed | event
  · refine ⟨changed, ?_⟩
    cases write with
    | put t' row =>
        cases here
        exact ⟨row, rfl⟩
    | remove t' k =>
        cases here
        cases change with
        | nothing => cases changed
        | found snapshot => cases changed
        | inserted t row => cases List.mem_singleton.mp changed
        | revised t old row => cases List.mem_singleton.mp changed
        | removed t' snapshot rows =>
            obtain ⟨other, -, same⟩ := List.mem_map.mp changed
            cases same
            have unversioned := TableName.isVersioned_of_membership legal
            exact absurd versioned (by simp [Write.target, unversioned])
  · obtain ⟨entry, -, rfl⟩ := List.mem_map.mp event
    cases here
    cases versioned

/-- A versioned row that the change does not write stays. -/
theorem Change.find?_publish_other {change : Change} (legal : change.Legal u)
    (events : List AuditEvent) (db : Database) {t : TableName} {k : UUID}
    (versioned : t.isVersioned = true)
    (other : ∀ row, Write.put t row ∈ change.writes → primaryKey t row ≠ k)
    : (Write.applyAll (change.writes ++ eventWrites events) db).find? t k = db.find? t k := by
  apply Write.find?_applyAll_other
  intro write member same
  obtain ⟨changed, row, rfl⟩ :=
    legal.versioned_writes versioned member (congrArg Prod.fst same)
  exact other row changed (Prod.mk.inj same).2

/-- A versioned row that the change writes is found. -/
theorem Change.find?_publish_self {change : Change} (legal : change.Legal u)
    (events : List AuditEvent) (db : Database) {t : TableName} {row : TableRow t}
    (versioned : t.isVersioned = true) (member : Write.put t row ∈ change.writes)
    : (Write.applyAll (change.writes ++ eventWrites events) db).find? t (primaryKey t row)
      = some row := by
  have only : change.writes = [.put t row] := by
    rcases Change.put_of_mem member with rfl | ⟨old, rfl⟩ <;> rfl
  have elsewhere
      : ∀ write ∈ eventWrites events, write.target ≠ (t, primaryKey t row) := by
    intro write event same
    obtain ⟨entry, -, rfl⟩ := List.mem_map.mp event
    cases congrArg Prod.fst same
    cases versioned
  rw [only, Write.applyAll_append]
  exact (Write.find?_applyAll_other _ _ elsewhere).trans (Db.find?_put_self (S := schema) db t row)

/-- Events are written by no change. -/
theorem Change.Legal.event_free {change : Change} (legal : change.Legal u) {write : Write schema}
    (member : write ∈ change.writes)
    : write.target.1 ≠ .securityAuditEvents := by
  intro here
  cases change with
  | nothing => cases member
  | found snapshot => cases member
  | inserted t row =>
      cases List.mem_singleton.mp member
      cases here
      exact legal.elim
  | revised t old row =>
      cases List.mem_singleton.mp member
      cases here
      exact legal.elim
  | removed t snapshot rows =>
      obtain ⟨row, -, rfl⟩ := List.mem_map.mp member
      cases here
      cases legal

theorem Change.Legal.event_mem {change : Change} (legal : change.Legal u)
    {events : List AuditEvent} {event : AuditEvent}
    (member
      : Write.put (S := schema) .securityAuditEvents event ∈ change.writes ++ eventWrites events)
    : event ∈ events := by
  rcases List.mem_append.mp member with changed | recorded
  · exact absurd rfl (legal.event_free changed)
  · obtain ⟨event', member', same⟩ := List.mem_map.mp recorded
    cases same
    exact member'

/-- An event that is published is found. -/
theorem Change.find?_publish_event {change : Change} {events : List AuditEvent}
    (single : events.length ≤ 1) (db : Database) {event : AuditEvent} (member : event ∈ events)
    : (Write.applyAll (change.writes ++ eventWrites events) db).find? .securityAuditEvents event.id
      = some event := by
  have only : events = [event] := by
    cases events with
    | nil => cases member
    | cons first rest =>
        have empty : rest = [] := List.eq_nil_of_length_eq_zero (by simpa using single)
        rw [empty, List.mem_singleton] at member
        rw [empty, member]
  rw [only, Write.applyAll_append]
  exact Db.find?_put_self (S := schema) _ .securityAuditEvents event

/-- An event with another id than the published ones stays. -/
theorem Change.find?_publish_event_other {change : Change} (legal : change.Legal u)
    {events : List AuditEvent} (db : Database) {k : UUID} (other : ∀ event ∈ events, event.id ≠ k)
    : (Write.applyAll (change.writes ++ eventWrites events) db).find? .securityAuditEvents k
      = db.find? .securityAuditEvents k := by
  apply Write.find?_applyAll_other
  intro write member same
  rcases List.mem_append.mp member with changed | recorded
  · exact legal.event_free changed (congrArg Prod.fst same)
  · obtain ⟨event, member', rfl⟩ := List.mem_map.mp recorded
    exact other event member' (Prod.mk.inj same).2

/-- What a commit publishes are revisions and opened rows. -/
theorem Change.Legal.revised {change : Change} (legal : change.Legal u) {db : Database}
    (grounded : change.Grounded db) (events : List AuditEvent)
    : Revised u db (Write.applyAll (change.writes ++ eventWrites events) db) where
  kept {t k row} versioned found := by
    by_cases written : ∃ later, Write.put t later ∈ change.writes ∧ primaryKey t later = k
    · obtain ⟨later, member, rfl⟩ := written
      have published := Change.find?_publish_self legal events db versioned member
      rcases Change.put_of_mem member with rfl | ⟨old, rfl⟩
      · rw [grounded] at found
        cases found
      · have key : primaryKey t later = primaryKey t old := RowRevises.key legal
        rw [key, grounded] at found
        cases found
        exact ⟨later, 1, published, .single legal⟩
    · refine ⟨row, 0, ?_, .refl row⟩
      rw [Change.find?_publish_other legal events db versioned
        (fun later member same => written ⟨later, member, same⟩), found]
  opened {t k later} versioned absent found := by
    by_cases written
      : ∃ row : TableRow t, Write.put (S := schema) t row ∈ change.writes ∧ primaryKey t row = k
    · obtain ⟨row, member, rfl⟩ := written
      rw [Change.find?_publish_self legal events db versioned member] at found
      cases found
      rcases Change.put_of_mem member with rfl | ⟨old, rfl⟩
      · exact ⟨later, 0, legal, .refl later⟩
      · have key : primaryKey t later = primaryKey t old := RowRevises.key legal
        rw [key, grounded] at absent
        cases absent
    · rw [Change.find?_publish_other legal events db versioned
        (fun row member same => written ⟨row, member, same⟩), absent] at found
      cases found

/-- A row that is written over is the organization's. -/
theorem Change.Owned.overwritten {change : Change} (owned : change.Owned organizationId)
    (legal : change.Legal u) {db : Database} (grounded : change.Grounded db)
    {write : Write schema} (member : write ∈ change.writes) {t : TableName} {row : TableRow t}
    (target : write.target = (t, primaryKey t row))
    (found : db.find? t (primaryKey t row) = some row)
    : rowOrganization t row = some organizationId := by
  cases change with
  | nothing => cases member
  | found snapshot => cases member
  | inserted t' new =>
      cases List.mem_singleton.mp member
      obtain ⟨rfl, key⟩ := Prod.mk.inj target
      have absent : db.find? t' (primaryKey t' new) = none := grounded
      have same : primaryKey t' new = primaryKey t' row := key
      rw [same, found] at absent
      cases absent
  | revised t' old new =>
      cases List.mem_singleton.mp member
      obtain ⟨rfl, key⟩ := Prod.mk.inj target
      have kept : primaryKey t' new = primaryKey t' old := RowRevises.key legal
      have same : primaryKey t' old = primaryKey t' row := kept.symm.trans key
      have present : db.find? t' (primaryKey t' old) = some old := grounded
      rw [same, found] at present
      cases present
      exact owned.1
  | removed t' snapshot rows =>
      obtain ⟨old, removed, rfl⟩ := List.mem_map.mp member
      obtain ⟨rfl, key⟩ := Prod.mk.inj target
      have same : primaryKey t' old = primaryKey t' row := key
      have present := grounded old removed
      rw [same, found] at present
      cases present
      exact owned _ removed

/-- A row that is written is the organization's. -/
theorem Change.Owned.written {change : Change} (owned : change.Owned organizationId)
    {t : TableName} {row : TableRow t} (member : Write.put t row ∈ change.writes)
    : rowOrganization t row = some organizationId := by
  rcases Change.put_of_mem member with rfl | ⟨old, rfl⟩
  · exact owned
  · exact owned.2

/-- A commit leaves the rows of the other organizations alone. -/
theorem Change.Owned.find?_publish {change : Change} (owned : change.Owned organizationId)
    (legal : change.Legal u) {events : List AuditEvent} {db : Database} (keyed : db.Keyed)
    (grounded : change.Grounded db) (new : ∀ event ∈ events, event.Fresh organizationId db)
    {t : TableName} {k : UUID} {row : TableRow t}
    (apart : rowOrganization t row ≠ some organizationId)
    : (Write.applyAll (change.writes ++ eventWrites events) db).find? t k = some row
      ↔ db.find? t k = some row := by
  constructor
  · intro found
    obtain rfl : primaryKey t row = k := Db.find?_key found
    rcases Write.mem_applyAll (Db.mem_of_find? found) with old | put
    · exact Db.find?_of_mem keyed old
    · rcases List.mem_append.mp put with changed | recorded
      · exact absurd (owned.written changed) apart
      · obtain ⟨event, member, same⟩ := List.mem_map.mp recorded
        cases same
        exact absurd (congrArg some (new event member).owned) apart
  · intro found
    obtain rfl : primaryKey t row = k := Db.find?_key found
    rw [Write.find?_applyAll_other _ _ ?_, found]
    intro write member target
    rcases List.mem_append.mp member with changed | recorded
    · exact apart (owned.overwritten legal grounded changed target found)
    · obtain ⟨event, member', rfl⟩ := List.mem_map.mp recorded
      obtain ⟨rfl, key⟩ := Prod.mk.inj target
      have absent := (new event member').absent
      have same : event.id = primaryKey .securityAuditEvents row := key
      rw [same, found] at absent
      cases absent

end WorkflowForge
