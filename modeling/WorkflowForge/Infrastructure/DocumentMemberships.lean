import WorkflowForge.Infrastructure.Commitless
import WorkflowForge.Infrastructure.LeafWrites

/-! Adding and removing document memberships, the same for batches and cases.
An INSERT that is refused stands for a membership that is already there, or for a document
or an aggregate that the tenant does not have; the SELECT after the rollback tells them
apart.
-/

namespace WorkflowForge

open Python Transactions Concurrency

/-- The columns of a table of document memberships, and what the database checks of them. -/
structure MembershipTable (t : TableName) where
  port : Port
  query : UUID → UUID → UUID → Query
  organizationId : TableRow t → UUID
  aggregateId : TableRow t → UUID
  documentId : TableRow t → UUID
  /-- The organization has the aggregate. -/
  owned : Database → UUID → UUID → Bool
  leaf : t.isLeaf = true
  not_audit : t ≠ .securityAuditEvents
  clash
    : ∀ first second,
        uniqueClash t first second
          = (aggregateId first == aggregateId second && documentId first == documentId second)
  sound
    : ∀ db row,
        rowSound db t row = true
        → owned db (organizationId row) (aggregateId row) = true
          ∧ hasDocument db (organizationId row) (documentId row) = true
  fits : ∀ row, rowFits t row = true
  owner
    : ∀ db, Db.Keyed db → ∀ first second id,
        owned db first id = true → owned db second id = true → first = second

/-- An id belongs to one organization. -/
theorem owner_unique {t : TableName} {db : Database} (keyed : db.Keyed)
    {organizationId : TableRow t → UUID} {id first second : UUID}
    (left
      : (db t).any (fun row => organizationId row == first && primaryKey t row == id) = true)
    (right
      : (db t).any (fun row => organizationId row == second && primaryKey t row == id) = true)
    : first = second := by
  obtain ⟨row, member, same⟩ := List.any_eq_true.mp left
  obtain ⟨row', member', same'⟩ := List.any_eq_true.mp right
  simp only [Bool.and_eq_true, beq_iff_eq] at same same'
  have equal : row = row' := Db.eq_of_key keyed member member' (same.2.trans same'.2.symm)
  rw [← same.1, ← same'.1, equal]

/-- Alike members of a list without repetitions are at most one. -/
theorem alike_length {α : Type} {items : List α} (distinct : items.Nodup)
    (alike : ∀ first ∈ items, ∀ second ∈ items, first = second)
    : items.length ≤ 1 := by
  match items with
  | [] => exact Nat.zero_le 1
  | [_] => exact Nat.le_refl 1
  | first :: second :: rest =>
      have same := alike first (by simp) second (by simp)
      simp [same] at distinct

def batchMembershipTable : MembershipTable .batchDocuments where
  port := .batchRepository
  query := .batchDocument
  organizationId := BatchDocument.organizationId
  aggregateId := BatchDocument.batchId
  documentId := BatchDocument.documentId
  owned := hasBatch
  leaf := rfl
  not_audit := by decide
  clash _ _ := rfl
  sound db row sound := by
    simp only [rowSound, Bool.and_eq_true] at sound
    exact ⟨sound.1.1.2, sound.1.2⟩
  fits _ := rfl
  owner db keyed first second id left right :=
    @owner_unique .batches db keyed Batch.organizationId id first second left right

def caseMembershipTable : MembershipTable .caseDocuments where
  port := .caseRepository
  query := .caseDocument
  organizationId := CaseDocument.organizationId
  aggregateId := CaseDocument.caseId
  documentId := CaseDocument.documentId
  owned := hasCase
  leaf := rfl
  not_audit := by decide
  clash _ _ := rfl
  sound db row sound := by
    simp only [rowSound, Bool.and_eq_true] at sound
    exact ⟨sound.1.1, sound.1.2⟩
  fits _ := rfl
  owner db keyed first second id left right :=
    @owner_unique .cases db keyed Case.organizationId id first second left right

namespace MembershipTable

variable {t : TableName} (table : MembershipTable t)

/-- The rows with these ids; by the unique constraint there is at most one. -/
def rows (db : Database) (organizationId aggregateId documentId : UUID) : List (TableRow t) :=
  ((db t).filter (fun row =>
    table.organizationId row == organizationId && table.aggregateId row == aggregateId)).filter
      (fun row => table.documentId row == documentId)

/-- `_membership_record` and `_membership`. -/
def record (organizationId aggregateId documentId : UUID) : App (Option (TableRow t)) := do
  let db ← select (table.query organizationId aggregateId documentId)
  scalarOneOrNone (table.rows db organizationId aggregateId documentId)

/-- `add_document` of both repositories. -/
def addDocument (load : TableRow t → Except Exn (TableRow t)) (membership : TableRow t)
    : App (TableRow t) := do
  enter table.port
  let refused : Bool ←
    tryCatch (do
      insert t membership
      return false)
      (fun failure =>
        match failure with
        | .integrityError => return true
        | other => throw other)
  if refused then
    sessionRollback
    match ← table.record (table.organizationId membership) (table.aggregateId membership)
        (table.documentId membership) with
    | some existing => liftExcept (load existing)
    | none => throw (.documentNotFound "Document was not found.")
  else liftExcept (load membership)

/-- `remove_document` of both repositories. -/
def removeDocument (organizationId aggregateId documentId : UUID) : App Bool := do
  enter table.port
  let rowcount ← delete t (fun row =>
    table.organizationId row == organizationId && table.aggregateId row == aggregateId
    && table.documentId row == documentId)
  return rowcount != 0

end MembershipTable

theorem BatchRepository.addDocument_eq (membership : BatchDocument)
    : BatchRepository.addDocument membership
      = batchMembershipTable.addDocument membershipFromRecord membership := by
  refine congrArg (enter .batchRepository >>= ·) (funext fun _ => ?_)
  refine congrArg (_ >>= ·) (funext fun refused => ?_)
  cases refused with
  | false => rfl
  | true =>
      refine congrArg (sessionRollback >>= ·) (funext fun _ => ?_)
      refine congrArg (_ >>= ·) (funext fun found => ?_)
      cases found <;> rfl

theorem BatchRepository.removeDocument_eq (organizationId batchId documentId : UUID)
    : BatchRepository.removeDocument organizationId batchId documentId
      = batchMembershipTable.removeDocument organizationId batchId documentId :=
  rfl

theorem CaseRepository.addDocument_eq (membership : CaseDocument)
    : CaseRepository.addDocument membership
      = caseMembershipTable.addDocument Except.ok membership := by
  refine congrArg (enter .caseRepository >>= ·) (funext fun _ => ?_)
  refine congrArg (_ >>= ·) (funext fun refused => ?_)
  cases refused with
  | false => rfl
  | true =>
      refine congrArg (sessionRollback >>= ·) (funext fun _ => ?_)
      refine congrArg (_ >>= ·) (funext fun found => ?_)
      cases found <;> rfl

theorem CaseRepository.removeDocument_eq (organizationId caseId documentId : UUID)
    : CaseRepository.removeDocument organizationId caseId documentId
      = caseMembershipTable.removeDocument organizationId caseId documentId :=
  rfl

-----------------------------------------------------------------------------------------
-- What they return
-----------------------------------------------------------------------------------------

section

variable {t : TableName} {i : Nat} {world after : World}

/-- An INSERT whose integrity errors are caught: the row is taken, or nothing is changed. -/
theorem insert_or_refused_iff {row : TableRow t} {refused : Bool}
    : Yields i
        (tryCatch (do
          insert t row
          return false)
          (fun failure =>
            match failure with
            | .integrityError => return true
            | other => throw other)) world refused after
      ↔ (refused = false ∧ world.store.Accepts i t row ∧ world.inserting i t row = after)
        ∨ (refused = true
          ∧ Store.exec i (.insert t row) world.store = some (.error .integrity, world.store)
          ∧ world = after) := by
  cases executed : Store.exec i (.insert t row) world.store with
  | none =>
      have rejected : ¬ world.store.Accepts i t row := by
        intro accepts
        rw [Store.exec_insert_ok.mpr ⟨accepts, rfl⟩] at executed
        cases executed
      simp [Yields, Returns, insert, perform, Program.perform, Program.run, exec, executed,
        rejected]
  | some reply =>
      obtain ⟨answer, store⟩ := reply
      cases answer with
      | ok value =>
          obtain ⟨accepts, rfl⟩ := Store.exec_insert_ok.mp executed
          simp [Yields, Returns, insert, perform, Program.perform, Program.run, exec, executed,
            accepts, World.inserting, eq_comm]
      | error violation =>
          have rejected : ¬ world.store.Accepts i t row := by
            intro accepts
            rw [Store.exec_insert_ok.mpr ⟨accepts, rfl⟩] at executed
            cases executed
          obtain rfl := Store.exec_insert_error executed
          cases violation <;>
            simp [Yields, Returns, insert, perform, Program.perform, Program.run, exec, executed,
              rejected, raiseViolation]

theorem scalarOneOrNone_iff {α : Type} {rows : List α} {found : Option α}
    : Yields i (scalarOneOrNone rows) world found after ↔ rows = found.toList ∧ world = after := by
  match rows with
  | [] => cases found <;> simp [scalarOneOrNone, Returns, Program.run]
  | [row] => cases found <;> simp [scalarOneOrNone, Returns, Program.run]
  | _ :: _ :: _ => cases found <;> simp [scalarOneOrNone, Returns, Program.run]

namespace MembershipTable

variable {table : MembershipTable t}

theorem record_iff {organizationId aggregateId documentId : UUID} {found : Option (TableRow t)}
    : Yields i (table.record organizationId aggregateId documentId) world found after
      ↔ table.rows (world.store.view i) organizationId aggregateId documentId = found.toList
        ∧ world.selecting i = after := by
  refine Returns.bind_iff.trans ⟨?_, fun ⟨found, same⟩ => ?_⟩
  · rintro ⟨db, middle, selected, rest⟩
    obtain ⟨rfl, rfl⟩ := Yields.select_iff.mp selected
    exact scalarOneOrNone_iff.mp rest
  · exact ⟨_, _, Yields.select_iff.mpr ⟨rfl, rfl⟩, scalarOneOrNone_iff.mpr ⟨found, same⟩⟩

/-- The rows that the SELECT after the rollback finds. -/
def existing (table : MembershipTable t) (db : Database) (row : TableRow t)
    : List (TableRow t) :=
  table.rows db (table.organizationId row) (table.aggregateId row) (table.documentId row)

/-- After a refused INSERT: the transaction is rolled back and read again. -/
def rereading (table : MembershipTable t) (i : Nat) (world : World) : World :=
  ({ world.entering table.port with store := world.store.release i }).selecting i

/-- `add_document` returns the new row, or the one that was there before the transaction. -/
theorem addDocument_iff {load : TableRow t → Except Exn (TableRow t)} {row saved : TableRow t}
    : Yields i (table.addDocument load row) world saved after
      ↔ world.refuses table.port = false
        ∧ ((world.store.Accepts i t row
              ∧ load row = .ok saved
              ∧ (world.entering table.port).inserting i t row = after)
            ∨ ∃ row',
                Store.exec i (.insert t row) world.store = some (.error .integrity, world.store)
                ∧ table.existing world.store.committed row = [row']
                ∧ load row' = .ok saved
                ∧ table.rereading i world = after) := by
  have reread : (world.store.release i).view i = world.store.committed :=
    Store.view_of_own_nil (Store.release_own_self _ _)
  constructor
  · intro returned
    obtain ⟨_, _, entered, returned⟩ := Returns.bind_iff.mp returned
    obtain ⟨quiet, rfl⟩ := Yields.enter_iff.mp entered
    refine ⟨quiet, ?_⟩
    obtain ⟨refused, _, inserted, returned⟩ := Returns.bind_iff.mp returned
    rcases insert_or_refused_iff.mp inserted with ⟨rfl, accepts, rfl⟩ | ⟨rfl, refusal, rfl⟩
    · obtain ⟨loads, same⟩ := Yields.liftExcept_iff.mp returned
      exact .inl ⟨accepts, loads, same⟩
    · obtain ⟨_, _, released, returned⟩ := Returns.bind_iff.mp returned
      obtain rfl := Yields.sessionRollback_iff.mp released
      obtain ⟨found, _, looked, returned⟩ := Returns.bind_iff.mp returned
      obtain ⟨rows, rfl⟩ := record_iff.mp looked
      cases found with
      | none => exact (Returns.throw_iff.mp returned).elim
      | some row' =>
          obtain ⟨loads, same⟩ := Yields.liftExcept_iff.mp returned
          refine .inr ⟨row', refusal, ?_, loads, same⟩
          rw [← reread]
          exact rows
  · rintro ⟨quiet, chosen⟩
    refine Returns.bind_iff.mpr ⟨(), _, Yields.enter_iff.mpr ⟨quiet, rfl⟩, ?_⟩
    rcases chosen with ⟨accepts, loads, same⟩ | ⟨row', refusal, found, loads, same⟩
    · exact Returns.bind_iff.mpr ⟨false, _,
        insert_or_refused_iff.mpr (.inl ⟨rfl, accepts, rfl⟩),
        Yields.liftExcept_iff.mpr ⟨loads, same⟩⟩
    · refine Returns.bind_iff.mpr ⟨true, _,
        insert_or_refused_iff.mpr (.inr ⟨rfl, refusal, rfl⟩), ?_⟩
      refine Returns.bind_iff.mpr ⟨(), _, Yields.sessionRollback_iff.mpr rfl, ?_⟩
      refine Returns.bind_iff.mpr ⟨some row', _, record_iff.mpr ⟨?_, rfl⟩,
        Yields.liftExcept_iff.mpr ⟨loads, same⟩⟩
      rw [← reread] at found
      exact found

theorem mem_rows {db : Database} {organizationId aggregateId documentId : UUID}
    {row : TableRow t}
    : row ∈ table.rows db organizationId aggregateId documentId
      ↔ row ∈ db t
        ∧ table.organizationId row = organizationId
        ∧ table.aggregateId row = aggregateId
        ∧ table.documentId row = documentId := by
  simp only [rows, List.mem_filter, Bool.and_eq_true, beq_iff_eq, and_assoc]

/-- By the unique constraint a pair of ids has one row. -/
theorem pair_unique {db : Database} (constrained : Constrained db) {first second : TableRow t}
    (left : first ∈ db t) (right : second ∈ db t)
    (aggregate : table.aggregateId first = table.aggregateId second)
    (document : table.documentId first = table.documentId second)
    : first = second := by
  by_contra different
  have apart := constrained.unique t first second left right
    (fun key => different (Db.eq_of_key constrained.keyed left right key))
  have clash := (table.clash first second).symm.trans apart
  simp [aggregate, document] at clash

/-- Only a membership that is already there refuses a sound row with a new id. -/
theorem existing_of_refused {row : TableRow t} (constrained : Constrained world.store.committed)
    (fresh : world.store.own i = [])
    (new : Db.find? world.store.committed t (primaryKey t row) = none)
    (sound : rowSound world.store.committed t row = true) {violation : Violation}
    (refused
      : Store.exec i (.insert t row) world.store = some (.error violation, world.store))
    : ∃ other, table.existing world.store.committed row = [other] := by
  have view : world.store.view i = world.store.committed := Store.view_of_own_nil fresh
  obtain ⟨other, present, clash⟩
      : ∃ other ∈ world.store.committed t, uniqueClash t row other = true := by
    rcases Store.exec_insert_refused refused with taken | duplicate | unsound | wide
    · rw [view] at taken
      simp [new] at taken
    · rw [view] at duplicate
      obtain ⟨other, present, both⟩ := List.any_eq_true.mp duplicate
      exact ⟨other, present, (Bool.and_eq_true_iff.mp both).2⟩
    · rw [view] at unsound
      cases sound.symm.trans unsound
    · cases (table.fits row).symm.trans wide
  rw [table.clash, Bool.and_eq_true, beq_iff_eq, beq_iff_eq] at clash
  have owner : table.organizationId other = table.organizationId row := by
    have owned := (table.sound _ _ (constrained.sound t other present)).1
    rw [← clash.1] at owned
    exact table.owner _ constrained.keyed _ _ _ owned (table.sound _ _ sound).1
  have member : other ∈ table.existing world.store.committed row :=
    mem_rows.mpr ⟨present, owner, clash.1.symm, clash.2.symm⟩
  have distinct : (table.existing world.store.committed row).Nodup :=
    ((List.Nodup.of_map _ (constrained.keyed t)).filter _).filter _
  have alike
      : ∀ first ∈ table.existing world.store.committed row,
          ∀ second ∈ table.existing world.store.committed row, first = second := by
    intro first left second right
    obtain ⟨present, -, pair⟩ := mem_rows.mp left
    obtain ⟨present', -, pair'⟩ := mem_rows.mp right
    exact table.pair_unique constrained present present' (pair.1.trans pair'.1.symm)
      (pair.2.trans pair'.2.symm)
  have few := alike_length distinct alike
  have some := List.length_pos_of_mem member
  exact List.length_eq_one_iff.mp (by omega)

/-- Where no port raises, a membership with a new id is added or found. -/
theorem addDocument_returns {load : TableRow t → Except Exn (TableRow t)} {row : TableRow t}
    (quiet : ∀ port count, world.raises port count = false) (alone : world.store.Alone i)
    (fresh : world.store.own i = []) (constrained : Constrained world.store.committed)
    (new : Db.find? world.store.committed t (primaryKey t row) = none)
    (sound : rowSound world.store.committed t row = true)
    (loads : ∀ other, other = row ∨ other ∈ world.store.committed t → load other = .ok other)
    : ∃ saved after,
        Yields i (table.addDocument load row) world saved after
        ∧ after.store.Alone i
        ∧ (∀ t', t' ≠ t → after.store.view i t' = world.store.committed t')
        ∧ after.raises = world.raises
        ∧ after.ids = world.ids
        ∧ after.drawn = world.drawn := by
  have view : world.store.view i = world.store.committed := Store.view_of_own_nil fresh
  cases executed : Store.exec i (.insert t row) world.store with
  | none =>
      simp only [Store.exec, alone.not_departing, alone.not_contested, alone.not_barred,
        Bool.or_self, Bool.false_eq_true, if_false] at executed
      split at executed
      · cases executed
      split at executed <;> cases executed
  | some reply =>
      obtain ⟨answer, store⟩ := reply
      cases answer with
      | ok value =>
          obtain ⟨accepts, -⟩ := Store.exec_insert_ok.mp executed
          refine ⟨row, _, addDocument_iff.mpr
            ⟨quiet _ _, .inl ⟨accepts, loads row (.inl rfl), rfl⟩⟩, alone.stage _, ?_, rfl, rfl,
            rfl⟩
          intro t' different
          rw [World.inserting, Store.stage_view_self, World.entering_store, view]
          exact Db.put_table_other _ _ different
      | error violation =>
          obtain rfl := Store.exec_insert_error executed
          cases violation with
          | data => cases (table.fits row).symm.trans (Store.exec_insert_wide executed)
          | integrity =>
              obtain ⟨other, existing⟩ :=
                table.existing_of_refused constrained fresh new sound executed
              have present := (mem_rows.mp (existing ▸ List.mem_singleton_self other)).1
              refine ⟨other, _, addDocument_iff.mpr
                ⟨quiet _ _, .inr ⟨other, executed, existing, loads other (.inr present), rfl⟩⟩,
                ?_, ?_, rfl, rfl, rfl⟩
              · have released := Store.Alone.of_rested (i := i) alone.release.1 alone.release.2
                exact { released with }
              · intro t' _
                exact congrFun (Store.view_of_own_nil (Store.release_own_self world.store i)) t'

/-- The WHERE clause of `remove_document`. -/
theorem filter_eq_rows (db : Database) (organizationId aggregateId documentId : UUID)
    : (db t).filter (fun row =>
        table.organizationId row == organizationId && table.aggregateId row == aggregateId
        && table.documentId row == documentId)
      = table.rows db organizationId aggregateId documentId := by
  rw [rows, List.filter_filter]
  exact List.filter_congr (fun row _ => Bool.and_comm _ _)

/-- `remove_document` returns whether it found rows. -/
theorem removeDocument_yields {organizationId aggregateId documentId : UUID} {removed : Bool}
    (returned
      : Yields i (table.removeDocument organizationId aggregateId documentId) world removed after)
    : (removed = true
        ↔ table.rows (world.store.view i) organizationId aggregateId documentId ≠ [])
      ∧ after.store.view i
        = (world.store.view i).removeRows t
            (table.rows (world.store.view i) organizationId aggregateId documentId) := by
  have chosen := table.filter_eq_rows (world.store.view i) organizationId aggregateId documentId
  obtain ⟨_, _, entered, returned⟩ := Returns.bind_iff.mp returned
  obtain ⟨-, rfl⟩ := Yields.enter_iff.mp entered
  obtain ⟨count, _, deleted, returned⟩ := Returns.bind_iff.mp returned
  obtain ⟨-, counted, rfl⟩ := Yields.delete_iff.mp deleted
  obtain ⟨rfl, rfl⟩ := Returns.pure_iff.mp returned
  rw [World.entering_store, chosen] at counted
  refine ⟨?_, ?_⟩
  · rw [← counted, bne_iff_ne, ne_eq, List.length_eq_zero_iff]
  · rw [World.entering_store, chosen]
    exact Store.view_removing (S := schema) _ t _

theorem addDocument_drafts (load : TableRow t → Except Exn (TableRow t)) (row : TableRow t)
    : Drafts (table.addDocument load row) := by
  refine Drafts.andThen (Drafts.enter _) (fun _ => ?_)
  refine Drafts.andThen (Keeps.tryCatch ?_ (fun failure => ?_)) (fun refused => ?_)
  · exact Drafts.andThen (Drafts.insert table.leaf row) (fun _ => Drafts.pure _)
  · cases failure <;> first | exact Drafts.pure _ | exact Drafts.throw _
  · cases refused with
    | false => exact Drafts.liftExcept _
    | true =>
        refine Drafts.andThen Drafts.sessionRollback (fun _ => ?_)
        refine Drafts.andThen (Drafts.andThen (Drafts.select _) (fun _ => Drafts.scalarOneOrNone))
          (fun found => ?_)
        cases found with
        | none => exact Drafts.throw _
        | some existing => exact Drafts.liftExcept _

theorem removeDocument_drafts (organizationId aggregateId documentId : UUID)
    : Drafts (table.removeDocument organizationId aggregateId documentId) :=
  Drafts.andThen (Drafts.enter _) (fun _ =>
    Drafts.andThen (Drafts.delete table.leaf _) (fun _ => Drafts.pure _))

end MembershipTable

end

end WorkflowForge
