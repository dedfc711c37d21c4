import Mathlib.Data.Set.Basic
import Mathlib.Data.Set.Insert
import WorkflowForge.Application.TenantCalls
import WorkflowForge.Infrastructure.DocumentMemberships

/-! Adding documents to batches and cases and removing them, call after call.
The members of an aggregate follow the calls that return as a set follows insertions and
deletions; a call that raises changes no membership.
-/

namespace WorkflowForge

open Python Transactions Concurrency

-----------------------------------------------------------------------------------------
-- One addition, one removal
-----------------------------------------------------------------------------------------

/-- In the session's view the program writes audit events only. -/
def Recording (i : Nat) (program : App Unit) : Prop :=
  ∀ world after value,
    Yields i program world value after
    → ∀ t, t ≠ .securityAuditEvents → after.store.view i t = world.store.view i t

theorem recordEvent_recording (services : Services) (i : Nat) (eventType : AuditEventType)
    (outcome : AuditOutcome) (tenant : TenantContext)
    (requestContext : Option AuditRequestContext) (now : Timestamp)
    (metadata : List (String × AuditValue))
    : Recording i
        (recordEvent services eventType outcome tenant requestContext now metadata) := by
  intro world after value returned t other
  unfold recordEvent at returned
  split at returned
  · obtain ⟨id, _, drawn, returned⟩ := Returns.bind_iff.mp returned
    obtain ⟨-, rfl⟩ := Yields.newUuid_iff.mp drawn
    obtain ⟨_, _, entered, returned⟩ := Returns.bind_iff.mp returned
    obtain ⟨-, rfl⟩ := Yields.enter_iff.mp entered
    have inserted := (Returns.tryCatch_iff (fun _ _ _ _ => Returns.throw_iff.mp)).mp returned
    obtain ⟨-, rfl⟩ := Yields.insert_iff.mp inserted
    rw [World.inserting, Store.stage_view_self]
    exact Db.put_table_other _ _ other
  · obtain ⟨-, rfl⟩ := Returns.pure_iff.mp returned
    rfl

theorem recordEvent_drafts (services : Services) (eventType : AuditEventType)
    (outcome : AuditOutcome) (tenant : TenantContext)
    (requestContext : Option AuditRequestContext) (now : Timestamp)
    (metadata : List (String × AuditValue))
    : Drafts (recordEvent services eventType outcome tenant requestContext now metadata) := by
  unfold recordEvent
  split
  · refine Drafts.andThen Drafts.newUuid (fun _ => Drafts.andThen (Drafts.enter _) (fun _ => ?_))
    exact Keeps.tryCatch (Drafts.insert rfl _) (fun _ => Drafts.throw _)
  · exact Drafts.pure _

/-- An audit event of the tenant can be recorded and committed. -/
structure Recordable (i : Nat) (tenant : TenantContext) (world : World) : Prop where
  quiet : ∀ port count, world.raises port count = false
  alone : world.store.Alone i
  user : hasUser (world.store.view i) tenant.userId = true
  organization : hasOrganization (world.store.view i) tenant.organizationId = true
  unused : Db.find? (world.store.view i) .securityAuditEvents world.nextUuid = none

theorem recordEvent_returns (services : Services) {i : Nat} {tenant : TenantContext}
    {world : World} (recordable : Recordable i tenant world) (eventType : AuditEventType)
    (outcome : AuditOutcome) (requestContext : Option AuditRequestContext) (now : Timestamp)
    (metadata : List (String × AuditValue))
    : ∃ after,
        Yields i (recordEvent services eventType outcome tenant requestContext now metadata) world
          () after
        ∧ after.raises = world.raises := by
  unfold recordEvent
  split
  · refine ⟨_, Returns.bind_iff.mpr ⟨_, _, Yields.newUuid_iff.mpr ⟨rfl, rfl⟩,
      Returns.bind_iff.mpr ⟨(), _, Yields.enter_iff.mpr ⟨recordable.quiet _ _, rfl⟩,
        (Returns.tryCatch_iff (fun _ _ _ _ => Returns.throw_iff.mp)).mpr
          (Yields.insert_iff.mpr ⟨?_, rfl⟩)⟩⟩, rfl⟩
    exact {
      settled := recordable.alone.not_departing _ _
      new := recordable.unused
      single := Store.duplicates_eq_false.mpr (fun _ _ _ => rfl)
      sound := Bool.and_eq_true_iff.mpr ⟨recordable.user, recordable.organization⟩
      fits := rfl
      uncontested := recordable.alone.not_contested _ _
      unbarred := recordable.alone.not_barred _
    }
  · exact ⟨world, Returns.pure_iff.mpr ⟨rfl, rfl⟩, rfl⟩

namespace MembershipTable

variable {t : TableName} {i : Nat} {world after : World}

/-- What a returning `add_document` does to the tables. -/
structure Adds (table : MembershipTable t) (db db' : Database)
    (organizationId aggregateId documentId : UUID) (saved : TableRow t)
    : Prop where
  others : ∀ t', t' ≠ t → t' ≠ .securityAuditEvents → db' t' = db t'
  aggregate : table.aggregateId saved = aggregateId
  document : table.documentId saved = documentId
  owned : table.owned db organizationId aggregateId = true
  filed : hasDocument db organizationId documentId = true
  table
    : (saved ∈ db t ∧ db' t = db t)
      ∨ (table.rows db organizationId aggregateId documentId = [] ∧ db' t = db t ++ [saved])

/-- What a returning `remove_document` does to the tables. -/
structure Removes (table : MembershipTable t) (db db' : Database)
    (organizationId aggregateId documentId : UUID) (removed : Bool)
    : Prop where
  others : ∀ t', t' ≠ t → t' ≠ .securityAuditEvents → db' t' = db t'
  owned : table.owned db organizationId aggregateId = true
  found : removed = true ↔ table.rows db organizationId aggregateId documentId ≠ []
  table : db' t = db.removeRows t (table.rows db organizationId aggregateId documentId) t

/-- The end of both `add_document` methods: the repository, the audit event, COMMIT. -/
def saving (table : MembershipTable t) (load : TableRow t → Except Exn (TableRow t))
    (record : TableRow t → App Unit) (row : TableRow t)
    : App (TableRow t) := do
  let saved ← table.addDocument load row
  record saved
  commit
  return saved

theorem saving_commitsLast {table : MembershipTable t}
    {load : TableRow t → Except Exn (TableRow t)} {record : TableRow t → App Unit}
    (records : ∀ saved, Drafts (record saved)) (row : TableRow t)
    : CommitsLast (table.saving load record row) :=
  .andThen (addDocument_drafts load row) (fun saved =>
    .andThen (records saved) (fun _ => .commit saved))

theorem saving_adds {table : MembershipTable t} {load : TableRow t → Except Exn (TableRow t)}
    {record : TableRow t → App Unit} {row saved : TableRow t}
    (loads : ∀ row value, load row = .ok value → value = row)
    (records : ∀ saved, Recording i (record saved))
    (lawful : Store.Lawful i world.store) (fresh : world.store.own i = [])
    (returned : Yields i (table.saving load record row) world saved after)
    : table.Adds world.store.committed after.store.committed (table.organizationId row)
        (table.aggregateId row) (table.documentId row) saved := by
  have view : world.store.view i = world.store.committed := Store.view_of_own_nil fresh
  obtain ⟨_, middle, added, returned⟩ := Returns.bind_iff.mp returned
  obtain ⟨_, later, recorded, returned⟩ := Returns.bind_iff.mp returned
  obtain ⟨_, _, committed, returned⟩ := Returns.bind_iff.mp returned
  obtain ⟨-, rfl⟩ := Yields.commit_iff.mp committed
  obtain ⟨rfl, rfl⟩ := Returns.pure_iff.mp returned
  have published
      : ∀ t', t' ≠ .securityAuditEvents
        → (((later.entering .commit).committing i).store.committed) t' = middle.store.view i t' :=
    fun t' other => records _ middle later () recorded t' other
  obtain ⟨-, ⟨accepts, loaded, rfl⟩ | ⟨row', -, existing, loaded, rfl⟩⟩ := addDocument_iff.mp added
  · obtain rfl := (loads _ _ loaded).symm
    have staged
        : ((world.entering table.port).inserting i t row).store.view i
          = Db.put world.store.committed t row := by
      rw [World.inserting, Store.stage_view_self, World.entering_store, view]
      rfl
    have sound := table.sound _ _ (view ▸ accepts.sound)
    refine {
      others := fun t' different other => ?_
      aggregate := rfl
      document := rfl
      owned := sound.1
      filed := sound.2
      table := .inr ⟨?_, ?_⟩
    }
    · rw [published t' other, staged]
      exact Db.put_table_other _ _ different
    · rw [List.eq_nil_iff_forall_not_mem]
      intro other member
      obtain ⟨present, -, same, same'⟩ := mem_rows.mp member
      have single := Store.duplicates_eq_false.mp accepts.single other (view ▸ present)
      by_cases key : schema.key t other = schema.key t row
      · have taken := Db.find?_of_mem lawful.committed.keyed present
        rw [key, ← view, accepts.new] at taken
        cases taken
      · have clash := (table.clash row other).symm.trans (single key)
        simp [same, same'] at clash
    · rw [published t table.not_audit, staged]
      exact Db.put_of_absent (view ▸ accepts.new)
  · obtain rfl := (loads _ _ loaded).symm
    obtain ⟨present, same⟩ := mem_rows.mp (existing ▸ List.mem_singleton_self row')
    have reread : (table.rereading i world).store.view i = world.store.committed :=
      Store.view_of_own_nil (Store.release_own_self _ _)
    have sound := table.sound _ _ (lawful.committed.sound t row' present)
    rw [same.1, same.2.1, same.2.2] at sound
    refine {
      others := fun t' _ other => ?_
      aggregate := same.2.1
      document := same.2.2
      owned := sound.1
      filed := sound.2
      table := .inl ⟨present, ?_⟩
    }
    · rw [published t' other, reread]
    · rw [published t table.not_audit, reread]

/-- Where nothing is in the way, an addition returns. -/
theorem saving_returns {table : MembershipTable t} {tenant : TenantContext}
    {load : TableRow t → Except Exn (TableRow t)} {record : TableRow t → App Unit}
    {row : TableRow t} (recordable : Recordable i tenant world)
    (fresh : world.store.own i = []) (constrained : Constrained world.store.committed)
    (new : Db.find? world.store.committed t (primaryKey t row) = none)
    (sound : rowSound world.store.committed t row = true)
    (loads : ∀ other, other = row ∨ other ∈ world.store.committed t → load other = .ok other)
    (records
      : ∀ saved state,
          Recordable i tenant state
          → ∃ after, Yields i (record saved) state () after ∧ after.raises = state.raises)
    : ∃ saved after, Yields i (table.saving load record row) world saved after := by
  have view : world.store.view i = world.store.committed := Store.view_of_own_nil fresh
  obtain ⟨saved, middle, added, alone, tables, raises, ids, drawn⟩ :=
    table.addDocument_returns recordable.quiet recordable.alone fresh constrained new sound loads
  have referred : ∀ t', t'.isLeaf = false → middle.store.view i t' = world.store.committed t' :=
    fun t' known => tables t' (by rintro rfl; simp [table.leaf] at known)
  obtain ⟨later, recorded, same⟩ := records saved middle {
    quiet := by rw [raises]; exact recordable.quiet
    alone := alone
    user := by
      rw [hasUser, referred .users rfl, ← view]
      exact recordable.user
    organization := by
      rw [hasOrganization, referred .organizations rfl, ← view]
      exact recordable.organization
    unused := by
      rw [Db.find?, tables _ table.not_audit.symm, ← view, World.nextUuid, ids, drawn]
      exact recordable.unused
  }
  refine ⟨saved, _, Returns.bind_iff.mpr ⟨saved, middle, added,
    Returns.bind_iff.mpr ⟨(), later, recorded,
      Returns.bind_iff.mpr ⟨(), _, Yields.commit_iff.mpr ⟨?_, rfl⟩,
        Returns.pure_iff.mpr ⟨rfl, rfl⟩⟩⟩⟩⟩
  rw [World.refuses, same, raises]
  exact recordable.quiet _ _

/-- The end of both `remove_document` methods. -/
def removing (table : MembershipTable t) (record : Bool → Timestamp → App Unit)
    (organizationId aggregateId documentId : UUID)
    : App Bool := do
  let removed ← table.removeDocument organizationId aggregateId documentId
  let now ← nowOr none
  record removed now
  commit
  return removed

theorem removing_commitsLast {table : MembershipTable t}
    {record : Bool → Timestamp → App Unit} (records : ∀ removed now, Drafts (record removed now))
    (organizationId aggregateId documentId : UUID)
    : CommitsLast (table.removing record organizationId aggregateId documentId) :=
  .andThen (removeDocument_drafts organizationId aggregateId documentId) (fun removed =>
    .andThen Drafts.now (fun now =>
      .andThen (records removed now) (fun _ => .commit removed)))

theorem removing_removes {table : MembershipTable t} {record : Bool → Timestamp → App Unit}
    {organizationId aggregateId documentId : UUID} {removed : Bool}
    (records : ∀ removed now, Recording i (record removed now))
    (fresh : world.store.own i = [])
    (owned : table.owned world.store.committed organizationId aggregateId = true)
    (returned
      : Yields i (table.removing record organizationId aggregateId documentId) world removed
          after)
    : table.Removes world.store.committed after.store.committed organizationId aggregateId
        documentId removed := by
  have view : world.store.view i = world.store.committed := Store.view_of_own_nil fresh
  obtain ⟨_, middle, deleted, returned⟩ := Returns.bind_iff.mp returned
  obtain ⟨_, _, timed, returned⟩ := Returns.bind_iff.mp returned
  obtain ⟨-, rfl⟩ := Yields.nowOr_iff.mp timed
  obtain ⟨_, later, recorded, returned⟩ := Returns.bind_iff.mp returned
  obtain ⟨_, _, committed, returned⟩ := Returns.bind_iff.mp returned
  obtain ⟨-, rfl⟩ := Yields.commit_iff.mp committed
  obtain ⟨rfl, rfl⟩ := Returns.pure_iff.mp returned
  have published
      : ∀ t', t' ≠ .securityAuditEvents
        → (((later.entering .commit).committing i).store.committed) t' = middle.store.view i t' :=
    fun t' other => records _ _ _ later () recorded t' other
  obtain ⟨found, removal⟩ := removeDocument_yields deleted
  rw [view] at found removal
  refine {
    others := fun t' different other => ?_
    owned := owned
    found := found
    table := ?_
  }
  · rw [published t' other, removal]
    exact Db.removeRows_other (S := schema) _ _ different
  · rw [published t table.not_audit, removal]

/-- Where nothing is in the way, a removal returns. -/
theorem removing_returns {table : MembershipTable t} {tenant : TenantContext}
    {record : Bool → Timestamp → App Unit} {organizationId aggregateId documentId : UUID}
    (recordable : Recordable i tenant world) (lawful : Store.Lawful i world.store)
    (records
      : ∀ removed now state,
          Recordable i tenant state
          → ∃ after, Yields i (record removed now) state () after ∧ after.raises = state.raises)
    : ∃ removed after,
        Yields i (table.removing record organizationId aggregateId documentId) world removed
          after := by
  have quiet : world.refuses table.port = false := recordable.quiet _ _
  obtain ⟨middle, deleted, alone, tables, raises, ids, drawn⟩
      : ∃ middle,
          Yields i (table.removeDocument organizationId aggregateId documentId) world
            (((world.store.view i t).filter (fun row =>
              table.organizationId row == organizationId && table.aggregateId row == aggregateId
              && table.documentId row == documentId)).length != 0) middle
          ∧ middle.store.Alone i
          ∧ (∀ t', t' ≠ t → middle.store.view i t' = world.store.view i t')
          ∧ middle.raises = world.raises
          ∧ middle.ids = world.ids
          ∧ middle.drawn = world.drawn := by
    refine ⟨_, Returns.bind_iff.mpr ⟨(), _, Yields.enter_iff.mpr ⟨quiet, rfl⟩,
      Returns.bind_iff.mpr ⟨_, _, Yields.delete_iff.mpr
        ⟨fun row _ => recordable.alone.not_withheld _ _, rfl, rfl⟩,
        Returns.pure_iff.mpr ⟨rfl, rfl⟩⟩⟩, ?_, ?_, rfl, rfl, rfl⟩
    · exact ((lawful.record _).removing table.leaf _).alone
    · intro t' different
      exact (congrFun (Store.view_removing (S := schema) _ t _) t').trans
        (Db.removeRows_other (S := schema) _ _ different)
  have referred : ∀ t', t'.isLeaf = false → middle.store.view i t' = world.store.view i t' :=
    fun t' known => tables t' (by rintro rfl; simp [table.leaf] at known)
  obtain ⟨later, recorded, same⟩ := records _ _ (middle.timing none) {
    quiet := by
      intro port count
      exact (congrFun (congrFun raises port) count).trans (recordable.quiet port count)
    alone := alone
    user := by
      rw [World.timing_store, hasUser, referred .users rfl]
      exact recordable.user
    organization := by
      rw [World.timing_store, hasOrganization, referred .organizations rfl]
      exact recordable.organization
    unused := by
      rw [World.timing_store, World.timing_nextUuid, Db.find?, tables _ table.not_audit.symm,
        World.nextUuid, ids, drawn]
      exact recordable.unused
  }
  refine ⟨_, _, Returns.bind_iff.mpr ⟨_, middle, deleted,
    Returns.bind_iff.mpr ⟨_, _, Yields.nowOr_iff.mpr ⟨rfl, rfl⟩,
      Returns.bind_iff.mpr ⟨(), later, recorded,
        Returns.bind_iff.mpr ⟨(), _, Yields.commit_iff.mpr ⟨?_, rfl⟩,
          Returns.pure_iff.mpr ⟨rfl, rfl⟩⟩⟩⟩⟩⟩
  have noRaise : later.raises = world.raises := same.trans raises
  rw [World.refuses, noRaise]
  exact recordable.quiet _ _

/-- The ids of the memberships of a document in an aggregate. -/
def ids (table : MembershipTable t) (db : Database) (aggregateId documentId : UUID)
    : List UUID :=
  ((db t).filter (fun row =>
    table.aggregateId row == aggregateId && table.documentId row == documentId)).map
      (primaryKey t)

/-- The documents of an aggregate. -/
def members (table : MembershipTable t) (db : Database) (aggregateId : UUID) : Set UUID :=
  { documentId | table.ids db aggregateId documentId ≠ [] }

section Consequences

variable {table : MembershipTable t} {db db' : Database}
  {organizationId aggregateId documentId : UUID}

theorem mem_members
    : documentId ∈ table.members db aggregateId
      ↔ ∃ row ∈ db t, table.aggregateId row = aggregateId ∧ table.documentId row = documentId := by
  simp [members, ids, List.filter_eq_nil_iff]

/-- The foreign keys leave one organization to the memberships of an aggregate. -/
theorem mem_rows_owned (constrained : Constrained db)
    (owned : table.owned db organizationId aggregateId = true) {row : TableRow t}
    : row ∈ table.rows db organizationId aggregateId documentId
      ↔ row ∈ db t ∧ table.aggregateId row = aggregateId ∧ table.documentId row = documentId := by
  refine mem_rows.trans ⟨fun ⟨present, _, same⟩ => ⟨present, same⟩, fun ⟨present, same⟩ => ?_⟩
  refine ⟨present, ?_, same⟩
  have sound := (table.sound db row (constrained.sound t row present)).1
  rw [same.1] at sound
  exact table.owner db constrained.keyed _ _ _ sound owned

theorem rows_ne_nil (constrained : Constrained db)
    (owned : table.owned db organizationId aggregateId = true)
    : table.rows db organizationId aggregateId documentId ≠ []
      ↔ documentId ∈ table.members db aggregateId := by
  rw [ne_eq, List.eq_nil_iff_forall_not_mem, not_forall_not, mem_members]
  exact exists_congr fun row => mem_rows_owned constrained owned

/-- The members of an aggregate are documents of its organization. -/
theorem members_filed (constrained : Constrained db)
    (owned : table.owned db organizationId aggregateId = true)
    (member : documentId ∈ table.members db aggregateId)
    : hasDocument db organizationId documentId = true := by
  obtain ⟨row, present, same, rfl⟩ := mem_members.mp member
  have sound := table.sound db row (constrained.sound t row present)
  rw [same] at sound
  rw [table.owner db constrained.keyed _ _ _ owned sound.1]
  exact sound.2

/-- By the unique constraint a document is at most once in an aggregate. -/
theorem ids_length (constrained : Constrained db) (aggregateId documentId : UUID)
    : (table.ids db aggregateId documentId).length ≤ 1 := by
  have distinct : (table.ids db aggregateId documentId).Nodup :=
    (constrained.keyed t).sublist (List.filter_sublist.map _)
  have same
      : ∀ first ∈ table.ids db aggregateId documentId,
          ∀ second ∈ table.ids db aggregateId documentId, first = second := by
    intro first left second right
    obtain ⟨row, chosen, rfl⟩ := List.mem_map.mp left
    obtain ⟨row', chosen', rfl⟩ := List.mem_map.mp right
    obtain ⟨present, pair⟩ := List.mem_filter.mp chosen
    obtain ⟨present', pair'⟩ := List.mem_filter.mp chosen'
    simp only [Bool.and_eq_true, beq_iff_eq] at pair pair'
    exact congrArg (primaryKey t) (table.pair_unique constrained present present'
      (pair.1.trans pair'.1.symm) (pair.2.trans pair'.2.symm))
  exact alike_length distinct same

/-- Adding a document is inserting it into the set. -/
theorem Adds.members {saved : TableRow t}
    (adds : table.Adds db db' organizationId aggregateId documentId saved)
    : table.members db' =
      Function.update (table.members db) aggregateId
        ({documentId} ∪ table.members db aggregateId) := by
  funext aggregateId'
  ext documentId'
  have rows
      : documentId' ∈ table.members db' aggregateId'
        ↔ documentId' ∈ table.members db aggregateId'
          ∨ (aggregateId' = aggregateId ∧ documentId' = documentId) := by
    rw [mem_members, mem_members]
    rcases adds.table with ⟨present, same⟩ | ⟨-, appended⟩
    · rw [same]
      refine ⟨.inl, ?_⟩
      rintro (found | ⟨rfl, rfl⟩)
      · exact found
      · exact ⟨saved, present, adds.aggregate, adds.document⟩
    · simp only [appended, List.mem_append, List.mem_singleton, or_and_right, exists_or,
        exists_eq_left, adds.aggregate, adds.document]
      exact or_congr Iff.rfl (and_congr eq_comm eq_comm)
  rw [rows]
  by_cases here : aggregateId' = aggregateId
  · subst here
    simp [or_comm]
  · simp [here]

/-- Adding a member returns its membership and changes nothing. -/
theorem Adds.repeated {saved : TableRow t} {id : UUID} (constrained : Constrained db)
    (adds : table.Adds db db' organizationId aggregateId documentId saved)
    (member : table.ids db aggregateId documentId = [id])
    : primaryKey t saved = id ∧ db' t = db t := by
  rcases adds.table with ⟨present, same⟩ | ⟨absent, -⟩
  · have listed : primaryKey t saved ∈ table.ids db aggregateId documentId :=
      List.mem_map_of_mem
        (List.mem_filter.mpr ⟨present, by simp [adds.aggregate, adds.document]⟩)
    rw [member, List.mem_singleton] at listed
    exact ⟨listed, same⟩
  · have found : documentId ∈ table.members db aggregateId := by
      simp [MembershipTable.members, member]
    exact absurd absent ((rows_ne_nil constrained adds.owned).mpr found)

/-- Removing a document is deleting it from the set. -/
theorem Removes.members {removed : Bool} (constrained : Constrained db)
    (removes : table.Removes db db' organizationId aggregateId documentId removed)
    : table.members db' =
      Function.update (table.members db) aggregateId
        (table.members db aggregateId \ {documentId}) := by
  funext aggregateId'
  ext documentId'
  have remaining : ∀ row : TableRow t,
      row ∈ db' t
        ↔ row ∈ db t
          ∧ ¬ (table.aggregateId row = aggregateId ∧ table.documentId row = documentId) := by
    intro row
    rw [removes.table, Db.mem_removeRows (S := schema)]
    refine and_congr_right fun present => ⟨fun kept pair => ?_, fun kept other chosen same => ?_⟩
    · exact kept row ((mem_rows_owned constrained removes.owned).mpr ⟨present, pair⟩) rfl
    · obtain ⟨present', pair⟩ := (mem_rows_owned constrained removes.owned).mp chosen
      obtain rfl := Db.eq_of_key constrained.keyed present present' same
      exact kept pair
  have rows
      : documentId' ∈ table.members db' aggregateId'
        ↔ documentId' ∈ table.members db aggregateId'
          ∧ ¬ (aggregateId' = aggregateId ∧ documentId' = documentId) := by
    rw [mem_members, mem_members]
    constructor
    · rintro ⟨row, member, rfl, rfl⟩
      exact ⟨⟨row, ((remaining row).mp member).1, rfl, rfl⟩, ((remaining row).mp member).2⟩
    · rintro ⟨⟨row, member, rfl, rfl⟩, kept⟩
      exact ⟨row, (remaining row).mpr ⟨member, kept⟩, rfl, rfl⟩
  rw [rows]
  by_cases here : aggregateId' = aggregateId
  · subst here
    simp
  · simp [here]

/-- Removing what is no member changes nothing. -/
theorem Removes.absent {removed : Bool} (constrained : Constrained db)
    (removes : table.Removes db db' organizationId aggregateId documentId removed)
    (absent : documentId ∉ table.members db aggregateId)
    : db' t = db t := by
  have none : table.rows db organizationId aggregateId documentId = [] := by
    by_contra found
    exact absent ((rows_ne_nil constrained removes.owned).mp found)
  rw [removes.table, none]
  rfl

end Consequences

end MembershipTable

end WorkflowForge
