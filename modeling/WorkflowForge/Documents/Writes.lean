import WorkflowForge.Documents.Ports

/-! Sessions whose uncommitted writes are mild: they can commit at any time. -/

namespace WorkflowForge

open Python Transactions Concurrency

variable {u : Unicode} {regime : Regime} {i : Nat} {needs frame : World → Prop}
  {pending pending' : List (Write schema) → Prop}

/-- The writes leave this row, whatever the database was. -/
def Leaves (writes : List (Write schema)) (t : TableName) (row : TableRow t) : Prop :=
  ∀ db : Database, (Write.applyAll writes db).find? t (primaryKey t row) = some row

theorem Leaves.concat {writes : List (Write schema)} {t : TableName} {row : TableRow t}
    (leaves : Leaves writes t row) {write : Write schema}
    (other : write.target ≠ (t, primaryKey t row))
    : Leaves (writes ++ [write]) t row := by
  intro db
  rw [Write.applyAll_append]
  exact (Write.find?_apply_other _ write other).trans (leaves db)

theorem Leaves.last (writes : List (Write schema)) (t : TableName) (row : TableRow t)
    : Leaves (writes ++ [.put t row]) t row := by
  intro db
  rw [Write.applyAll_append]
  exact Db.find?_put_self (S := schema) _ t row

/-- No completed record is among the writes. -/
def Uncompleted (writes : List (Write schema)) : Prop :=
  ∀ record : UploadIdempotencyRecord,
    (Write.put .uploadIdempotency record : Write schema) ∈ writes → record.status ≠ .completed

theorem Uncompleted.nil : Uncompleted [] := fun _ member => by cases member

theorem Uncompleted.concat {writes : List (Write schema)} (holds : Uncompleted writes)
    {t : TableName} {row : TableRow t} (other : t ≠ .uploadIdempotency)
    : Uncompleted (writes ++ [.put t row]) := by
  intro record member
  rcases List.mem_append.mp member with earlier | last
  · exact holds record earlier
  · have same := List.mem_singleton.mp last
    cases same
    exact absurd rfl other

/-- The session's writes are mild and satisfy `pending`. -/
structure Mildly (u : Unicode) (regime : Regime) (i : Nat)
    (pending : List (Write schema) → Prop) (world : World)
    : Prop where
  mild : ∀ write ∈ world.store.own i, Mild u world.store.committed write
  drawn
    : ∀ t row,
        t.written = true
        → .put t row ∈ world.store.own i
        → world.store.committed.find? t (primaryKey t row) = none
        → world.DrawnBy i (primaryKey t row)
  owned
    : ∀ row : DocumentVersionRecord,
        .put .documentVersions row ∈ world.store.own i → world.DrawnBy i row.id
  unstored
    : regime.strict
      → ∀ row : DocumentVersionRecord,
          .put .documentVersions row ∈ world.store.own i
          → ∀ old,
              world.store.committed.find? .documentVersions row.id = some old
              → old.storageState ≠ .stored
  held
    : regime.strict
      → ∀ row : DocumentVersionRecord,
          .put .documentVersions row ∈ world.store.own i
          → row.storageState = .stored
          → world.Holds row
  backed
    : regime.strict
      → ∀ record : UploadIdempotencyRecord,
          .put .uploadIdempotency record ∈ world.store.own i
          → record.status = .completed
          → record.Backed (world.store.view i)
  pending : pending (world.store.own i)

/-- Nothing is uncommitted. -/
def Clean (i : Nat) (world : World) : Prop := world.store.own i = []

theorem Clean.firm : Firm u regime i (Clean i) := by
  intro before after _ _ _ same clean
  exact same.trans clean

theorem Clean.mildly {world : World} (clean : Clean i world) (none : pending [])
    : Mildly u regime i pending world := by
  have empty : ∀ write, write ∉ world.store.own i := by
    intro write member
    rw [clean] at member
    cases member
  refine {
    mild := fun write member => absurd member (empty write)
    drawn := fun _ _ _ member => absurd member (empty _)
    owned := fun _ member => absurd member (empty _)
    unstored := fun _ _ member => absurd member (empty _)
    held := fun _ _ member => absurd member (empty _)
    backed := fun _ _ member => absurd member (empty _)
    pending := ?_
  }
  rw [clean]
  exact none

theorem Mildly.weaken {world : World} (mildly : Mildly u regime i pending world)
    (implies : pending (world.store.own i) → pending' (world.store.own i))
    : Mildly u regime i pending' world :=
  { mildly with pending := implies mildly.pending }

/-- Mildness survives an evolution that leaves the written rows alone. -/
theorem Mild.evolve {before after : Database} {write : Write schema}
    (mild : Mild u before write) (evolves : Evolves before after)
    (row : after.find? write.target.1 write.target.2 = before.find? write.target.1 write.target.2)
    : Mild u after write := by
  cases write with
  | remove t k => exact absurd mild id
  | put t row' =>
      cases t with
      | documents =>
          obtain ⟨old, found, steps⟩ := mild
          exact ⟨old, row.trans found, steps⟩
      | documentVersions =>
          obtain ⟨old, found, core⟩ := mild
          exact ⟨old, row.trans found, core⟩
      | uploadIdempotency => exact fun completed => (mild completed).evolve evolves
      | securityAuditEvents => trivial
      | _ => exact absurd mild id

/-- Mild writes put rows, and never users or organizations. -/
theorem Mild.cases {db : Database} {write : Write schema} (mild : Mild u db write)
    : ∃ (t : TableName) (row : TableRow t), write = .put t row ∧ t.written = true := by
  cases write with
  | remove t k => exact absurd mild id
  | put t row =>
      cases t with
      | documents => exact ⟨.documents, row, rfl, rfl⟩
      | documentVersions => exact ⟨.documentVersions, row, rfl, rfl⟩
      | uploadIdempotency => exact ⟨.uploadIdempotency, row, rfl, rfl⟩
      | securityAuditEvents => exact ⟨.securityAuditEvents, row, rfl, rfl⟩
      | _ => exact absurd mild id

/-- A version that the session wrote has a committed row with its key. -/
theorem Mildly.owns {world : World} (mildly : Mildly u regime i pending world)
    {row : DocumentVersionRecord} (member : .put .documentVersions row ∈ world.store.own i)
    : world.Owns i row.storageObjectKey := by
  obtain ⟨old, found, core⟩ := mildly.mild _ member
  have key : old.id = row.id := Db.find?_key found
  refine ⟨old, ?_, ?_, ?_⟩
  · rw [key]
    exact found
  · rw [key]
    exact mildly.owned row member
  · exact (DocumentVersionRecord.core_fields core).2.2.2.2.2.symm

theorem Mildly.firm : Firm u regime i (Mildly u regime i pending) := by
  intro before after sane sane' calm same mildly
  refine {
    mild := ?_
    drawn := ?_
    owned := ?_
    unstored := ?_
    held := ?_
    backed := ?_
    pending := by rw [same]; exact mildly.pending
  }
  · intro write member
    rw [same] at member
    apply (mildly.mild write member).evolve calm.evolves
    exact calm.rows _ _ (sane.coherent.covered i write (Store.mem_own.mp member))
  · intro t row written member none
    rw [same] at member
    refine World.DrawnBy.mono ?_ calm.ids calm.drawn
    apply mildly.drawn t row written member
    rw [← calm.rows t _ (sane.coherent.covered i _ (Store.mem_own.mp member))]
    exact none
  · intro row member
    rw [same] at member
    exact (mildly.owned row member).mono calm.ids calm.drawn
  · intro strict row member old found
    rw [same] at member
    rw [calm.versions row.id (mildly.owned row member)] at found
    exact mildly.unstored strict row member old found
  · intro strict row member stored
    rw [same] at member
    refine ⟨stored, ?_⟩
    rw [calm.finals _ (mildly.owns member)]
    exact (mildly.held strict row member stored).2
  · intro strict record member completed
    rw [same] at member
    obtain ⟨version, found, points, stored⟩ := mildly.backed strict record member completed
    refine ⟨version, ?_, points, stored⟩
    rw [Store.view, same]
    by_cases hit : ∃ write ∈ before.store.own i,
        write.target = (TableName.documentVersions, version.id)
    · rw [← found]
      exact Write.find?_applyAll_target _ _ hit
    · have quiet : ∀ write ∈ before.store.own i,
          write.target ≠ (TableName.documentVersions, version.id) :=
        fun write inside target => hit ⟨write, inside, target⟩
      have committed
          : before.store.committed.find? .documentVersions version.id = some version :=
        (Write.find?_applyAll_other _ _ quiet).symm.trans found
      have holds := sane.stored strict version (Db.mem_of_find? committed) stored
      rw [Write.find?_applyAll_other _ _ quiet]
      exact (calm.holds strict version committed holds).1

/-- What a session with mild writes would publish. -/
theorem Mildly.publishes {world : World} (mildly : Mildly u regime i pending world)
    (sane : Sane u regime world)
    : Publishes u regime i world := by
  obtain ⟨consistent, evolves⟩ := sane.consistent.mild sane.coherent.keyed mildly.mild
  have table
      : ∀ t : TableName, t.written = false
        → world.store.view i t = world.store.committed t := by
    intro t unwritten
    apply Write.applyAll_table_other
    intro write member same
    obtain ⟨t', row, rfl, written⟩ := (mildly.mild write member).cases
    change t' = t at same
    rw [same, unwritten] at written
    cases written
  have kept
      : regime.strict
        → ∀ row : DocumentVersionRecord,
            world.store.committed.find? .documentVersions row.id = some row
            → row.storageState = .stored
            → (world.store.view i).find? .documentVersions row.id = some row := by
    intro strict row found stored
    refine (Write.find?_applyAll_other _ _ ?_).trans found
    intro write member target
    obtain ⟨t, row', rfl, -⟩ := (mildly.mild write member).cases
    simp only [Write.target, Prod.mk.injEq] at target
    obtain ⟨rfl, key⟩ := target
    have same : DocumentVersionRecord.id row' = row.id := key
    exact mildly.unstored strict row' member row (by rw [same]; exact found) stored
  refine {
    consistent := consistent
    evolves := evolves
    owned := ?_
    inserted := mildly.drawn
    users := ?_
    organizations := ?_
    kept := kept
    stored := ?_
    backed := ?_
  }
  · intro write member target
    obtain ⟨t, row, rfl, -⟩ := (mildly.mild write member).cases
    change t = .documentVersions at target
    subst target
    exact mildly.owned row member
  · intro user present
    simp only [hasUser] at present ⊢
    rw [table .users rfl]
    exact present
  · intro organizationId present
    simp only [hasOrganization] at present ⊢
    rw [table .organizations rfl]
    exact present
  · intro strict version member stored
    have found : (world.store.view i).find? .documentVersions version.id = some version :=
      Db.find?_of_mem (Store.view_keyed sane.coherent i) member
    rcases world.store.find?_view_cases i (t := TableName.documentVersions) (k := version.id)
      with ⟨same, -⟩ | ⟨-, puts⟩
    · rw [same] at found
      exact sane.stored strict version (Db.mem_of_find? found) stored
    · exact mildly.held strict version (puts version found) stored
  · intro strict record member completed
    have found : (world.store.view i).find? .uploadIdempotency record.id = some record :=
      Db.find?_of_mem (Store.view_keyed sane.coherent i) member
    rcases world.store.find?_view_cases i (t := TableName.uploadIdempotency) (k := record.id)
      with ⟨same, -⟩ | ⟨-, puts⟩
    · rw [same] at found
      obtain ⟨version, version_found, points, stored⟩ :=
        sane.backed strict record (Db.mem_of_find? found) completed
      exact ⟨version, kept strict version version_found stored, points, stored⟩
    · exact mildly.backed strict record (puts record found) completed

-----------------------------------------------------------------------------------------
-- Writing
-----------------------------------------------------------------------------------------

/-- The world after staging a write. -/
def World.staged (world : World) (i : Nat) (write : Write schema) : World :=
  { world with store := world.store.stage i write }

/-- One more mild write to a table other than the versions. -/
theorem Mildly.stage_light {world : World} (mildly : Mildly u regime i pending world)
    {t : TableName} {row : TableRow t} (light : t ≠ .documentVersions)
    (mild : Mild u world.store.committed (.put t row))
    (drawn
      : world.store.committed.find? t (primaryKey t row) = none
        → world.DrawnBy i (primaryKey t row))
    (backed
      : regime.strict
        → ∀ record : UploadIdempotencyRecord,
            (.put t row : Write schema) = .put .uploadIdempotency record
            → record.status = .completed
            → record.Backed (world.store.view i))
    (keeps
      : pending (world.store.own i) → pending' (world.store.own i ++ [.put t row]))
    : Mildly u regime i pending' (world.staged i (.put t row)) := by
  have own
      : (world.staged i (.put t row)).store.own i = world.store.own i ++ [.put t row] :=
    Store.stage_own_self _ _ _
  have versions
      : ∀ id, ((world.staged i (.put t row)).store.view i).find? .documentVersions id
          = (world.store.view i).find? .documentVersions id := by
    intro id
    change ((world.store.stage i (.put t row)).view i).find? _ _ = _
    rw [Store.stage_view_self]
    apply Write.find?_apply_other
    simp only [Write.target, ne_eq, Prod.mk.injEq, not_and]
    exact fun same => absurd same light
  have old
      : ∀ version : DocumentVersionRecord,
          .put .documentVersions version ∈ (world.staged i (.put t row)).store.own i
          → .put .documentVersions version ∈ world.store.own i := by
    intro version member
    rw [own] at member
    rcases List.mem_append.mp member with earlier | last
    · exact earlier
    · have same := congrArg (fun write => write.target.1) (List.mem_singleton.mp last)
      exact absurd same.symm light
  refine {
    mild := ?_
    drawn := ?_
    owned := fun version member => mildly.owned version (old version member)
    unstored := fun strict version member => mildly.unstored strict version (old version member)
    held := fun strict version member => mildly.held strict version (old version member)
    backed := ?_
    pending := by rw [own]; exact keeps mildly.pending
  }
  · intro write member
    rw [own] at member
    rcases List.mem_append.mp member with earlier | last
    · exact mildly.mild write earlier
    · rw [List.mem_singleton.mp last]
      exact mild
  · intro t' row' written member none
    rw [own] at member
    rcases List.mem_append.mp member with earlier | last
    · exact mildly.drawn t' row' written earlier none
    · have same := List.mem_singleton.mp last
      cases same
      exact drawn none
  · intro strict record member completed
    rw [own] at member
    have here : record.Backed (world.store.view i) := by
      rcases List.mem_append.mp member with earlier | last
      · exact mildly.backed strict record earlier completed
      · exact backed strict record (List.mem_singleton.mp last).symm completed
    obtain ⟨version, found, points, stored⟩ := here
    exact ⟨version, (versions version.id).trans found, points, stored⟩

/-- One more write of a storage state, while no record is completed. -/
theorem Mildly.stage_version {world : World} (mildly : Mildly u regime i pending world)
    {row : DocumentVersionRecord}
    (mild : Mild u world.store.committed (.put .documentVersions row))
    (owned : world.DrawnBy i row.id)
    (unstored
      : regime.strict
        → ∀ old,
            world.store.committed.find? .documentVersions row.id = some old
            → old.storageState ≠ .stored)
    (held : regime.strict → row.storageState = .stored → world.Holds row)
    (uncompleted : regime.strict → Uncompleted (world.store.own i))
    (keeps
      : pending (world.store.own i)
        → pending' (world.store.own i ++ [.put .documentVersions row]))
    : Mildly u regime i pending' (world.staged i (.put .documentVersions row)) := by
  have own
      : (world.staged i (.put .documentVersions row)).store.own i
        = world.store.own i ++ [.put .documentVersions row] :=
    Store.stage_own_self _ _ _
  have split
      : ∀ version : DocumentVersionRecord,
          .put .documentVersions version
            ∈ (world.staged i (.put .documentVersions row)).store.own i
          → .put .documentVersions version ∈ world.store.own i ∨ version = row := by
    intro version member
    rw [own] at member
    rcases List.mem_append.mp member with earlier | last
    · exact .inl earlier
    · have same := List.mem_singleton.mp last
      cases same
      exact .inr rfl
  refine {
    mild := ?_
    drawn := ?_
    owned := ?_
    unstored := ?_
    held := ?_
    backed := ?_
    pending := by rw [own]; exact keeps mildly.pending
  }
  · intro write member
    rw [own] at member
    rcases List.mem_append.mp member with earlier | last
    · exact mildly.mild write earlier
    · rw [List.mem_singleton.mp last]
      exact mild
  · intro t row' written member none
    rw [own] at member
    rcases List.mem_append.mp member with earlier | last
    · exact mildly.drawn t row' written earlier none
    · have same := List.mem_singleton.mp last
      cases same
      exact owned
  · intro version member
    rcases split version member with earlier | rfl
    · exact mildly.owned version earlier
    · exact owned
  · intro strict version member
    rcases split version member with earlier | rfl
    · exact mildly.unstored strict version earlier
    · exact unstored strict
  · intro strict version member stored
    rcases split version member with earlier | rfl
    · exact mildly.held strict version earlier stored
    · exact held strict stored
  · intro strict record member completed
    rw [own] at member
    rcases List.mem_append.mp member with earlier | last
    · exact absurd completed (uncompleted strict record earlier)
    · cases List.mem_singleton.mp last

/-- Staging is calm and leaves the temporary objects alone. -/
theorem World.staged_calm {strict : Prop} {world : World} {write : Write schema}
    (advances : Advances strict world (world.staged i write))
    : Calm strict i world (world.staged i write) := by
  refine .of_advances advances rfl ?_ ?_ (fun _ _ => rfl)
  · simp [World.staged]
  · intro row lock
    exact List.mem_append_left _ lock

/-- A mild session with a frame. -/
theorem Mildly.steady (framed : Framed u regime i frame)
    : Steady u regime i (fun world => Mildly u regime i pending world ∧ frame world) :=
  Mildly.firm.steady.and framed.steady

/-- The shape after an UPDATE, by whether it matched. -/
def Updated (u : Unicode) (regime : Regime) (i : Nat)
    (pending pending' : List (Write schema) → Prop) (frame : World → Prop) (found : Bool)
    (world : World)
    : Prop :=
  Mildly u regime i (if found then pending' else pending) world ∧ frame world

theorem Updated.steady (framed : Framed u regime i frame) (found : Bool)
    : Steady u regime i (Updated u regime i pending pending' frame found) :=
  Mildly.steady framed

/-- UPDATE by key in a mild session; `hits` is enough for it to match. -/
theorem update_spec {t : TableName} {id : UUID} {change : TableRow t → Option (TableRow t)}
    (hits : Prop) (pending' : List (Write schema) → Prop) (framed : Framed u regime i frame)
    (hit
      : hits
        → ∀ now,
            Sane u regime now
            → needs now
            → Mildly u regime i pending now
            → frame now
            → regime.admits i (.sql (.update t id change)) now
            → ((now.store.view i).find? t id).bind change ≠ none)
    (stages
      : ∀ now old row,
          Sane u regime now
          → needs now
          → Mildly u regime i pending now
          → frame now
          → (now.store.view i).find? t id = some old
          → change old = some row
          → primaryKey t row = id
          → rowSound (now.store.view i) t row = true
          → Mildly u regime i pending' (now.staged i (.put t row)))
    : Spec u regime i needs (fun world => Mildly u regime i pending world ∧ frame world)
        (update t id change)
        (fun found _ => hits → found = true)
        (Updated u regime i pending pending' frame)
        (fun world => Mildly u regime i pending world ∧ frame world) := by
  have steady : Steady u regime i (fun world => Mildly u regime i pending world ∧ frame world) :=
    Mildly.steady framed
  have answered
      : Spec u regime i needs (fun world => Mildly u regime i pending world ∧ frame world)
          (perform (.sql (.update t id change)))
          (fun answer _ => hits → answer ≠ .ok false)
          (fun (answer : Except Violation Bool) =>
            Updated u regime i pending pending' frame (answer.toOption.getD false))
          (fun world => Mildly u regime i pending world ∧ frame world) := by
    refine Spec.perform steady (fun _ => Durable.const regime i _)
      (fun _ => Updated.steady framed _)
      (fun _ _ _ _ => .nothing (by simp) (by simp [Op.Touches]) (by simp)) ?_
    intro now answer after sane sane' advances known holds admitted ran
    obtain ⟨executed, shape⟩ := exec_sql ran
    rcases Store.exec_update executed with
      ⟨rfl, missed, store⟩ | ⟨⟨violation, rfl⟩, store⟩
        | ⟨old, row, rfl, found, changed, key, sound, store, -⟩
    · have still : Still i now after := by
        refine .of_sql ran ?_ ?_ ?_ ?_ <;> rw [store]
        · rfl
        · rfl
        · simp
        · exact fun _ lock => lock
      have rested := still.rested advances
      refine ⟨by rw [rested.log], ?_, steady _ _ sane sane' rested holds⟩
      intro hitting
      exact absurd missed (hit hitting now sane known holds.1 holds.2 admitted)
    · have still : Still i now after := by
        refine .of_sql ran ?_ ?_ ?_ ?_ <;> rw [store]
        exact fun _ lock => lock
      have rested := still.rested advances
      exact ⟨by rw [rested.log], by simp, steady _ _ sane sane' rested holds⟩
    · have staged : after = now.staged i (.put t row) := by
        rw [shape, store]
        rfl
      subst staged
      have calm := World.staged_calm advances
      exact ⟨by rw [calm.log], by simp,
        stages now old row sane known holds.1 holds.2 found changed key sound,
        framed _ _ sane sane' calm (fun _ _ => rfl) holds.2⟩
  refine Spec.bind (fun _ => Durable.const regime i _) answered ?_
  intro answer
  cases answer with
  | ok found =>
      refine Spec.returned (Updated u regime i pending pending' frame)
        (Updated.steady framed found) ?_
      intro world known hitting
      have matched := known.2 hitting
      cases found with
      | true => rfl
      | false => exact absurd rfl matched
  | error violation =>
      cases violation with
      | integrity => exact Spec.throw steady
      | data => exact Spec.throw steady

/-- INSERT in a mild session. -/
theorem insert_spec {t : TableName} {row : TableRow t} {refused : World → Prop}
    (framed : Framed u regime i frame)
    (issued : ∀ world, needs world → frame world → world.Issued (primaryKey t row))
    (stages
      : ∀ now,
          Sane u regime now
          → needs now
          → Mildly u regime i pending now
          → frame now
          → Mildly u regime i pending' (now.staged i (.put t row)))
    (refuses
      : ∀ now violation store,
          Sane u regime now
          → needs now
          → Mildly u regime i pending now
          → frame now
          → Store.exec i (.insert t row) now.store = some (.error violation, store)
          → refused now)
    (lasting : Durable regime i refused)
    : Spec u regime i needs (fun world => Mildly u regime i pending world ∧ frame world)
        (insert t row) (fun _ _ => True)
        (fun _ world => Mildly u regime i pending' world ∧ frame world)
        (fun world => (Mildly u regime i pending world ∧ frame world) ∧ refused world) := by
  have steady : Steady u regime i (fun world => Mildly u regime i pending world ∧ frame world) :=
    Mildly.steady framed
  have answered
      : Spec u regime i needs (fun world => Mildly u regime i pending world ∧ frame world)
          (perform (.sql (.insert t row)))
          (fun (answer : Except Violation Unit) world => answer ≠ .ok () → refused world)
          (fun (answer : Except Violation Unit) =>
            Updated u regime i pending pending' frame answer.toOption.isSome)
          (fun world => (Mildly u regime i pending world ∧ frame world) ∧ refused world) := by
    refine Spec.perform steady (fun _ => lasting.implies) (fun _ => Updated.steady framed _) ?_ ?_
    · intro now _ known holds
      refine ⟨?_, by simp [Op.Touches], by simp⟩
      intro t' row' same _
      cases same
      exact issued now known holds.2
    · intro now answer after sane sane' advances known holds _ ran
      obtain ⟨executed, shape⟩ := exec_sql ran
      rcases Store.exec_insert sane.coherent executed with
        ⟨⟨violation, rfl⟩, store⟩ | ⟨rfl, store, -⟩
      · have still : Still i now after := by
          refine .of_sql ran ?_ ?_ ?_ ?_ <;> rw [store]
          exact fun _ lock => lock
        have rested := still.rested advances
        refine ⟨by rw [rested.log], ?_, steady _ _ sane sane' rested holds⟩
        intro _
        exact lasting now after (.of_calm rested.toCalm)
          (refuses now violation _ sane known holds.1 holds.2 executed)
      · have staged : after = now.staged i (.put t row) := by
          rw [shape, store]
          rfl
        subst staged
        have calm := World.staged_calm advances
        exact ⟨by rw [calm.log], by simp,
          stages now sane known holds.1 holds.2,
          framed _ _ sane sane' calm (fun _ _ => rfl) holds.2⟩
  refine Spec.bind (fun _ => lasting.implies) answered ?_
  intro answer
  cases answer with
  | ok done => exact Spec.pure (Mildly.steady framed) (fun _ _ => trivial)
  | error violation =>
      have thrown
          : Spec u regime i
              (fun world => needs world
                ∧ ((.error violation : Except Violation Unit) ≠ .ok () → refused world))
              (fun world => Mildly u regime i pending world ∧ frame world)
              (raiseViolation violation : App Unit) (fun _ _ => True)
              (fun _ world => Mildly u regime i pending' world ∧ frame world)
              (fun world => Mildly u regime i pending world ∧ frame world) := by
        cases violation with
        | integrity => exact Spec.throw steady
        | data => exact Spec.throw steady
      exact thrown.mono (fun _ known => known) (fun _ _ _ holds => holds)
        (fun _ _ _ _ fact holds => ⟨fact, holds⟩)
        (fun _ known holds => ⟨holds, known.2 (by simp)⟩)

-----------------------------------------------------------------------------------------
-- Ending a transaction
-----------------------------------------------------------------------------------------

/-- What a commit of the session does. -/
structure Commits (i : Nat) (before after : World) : Prop where
  committed : after.store.committed = before.store.view i
  own : after.store.own i = []
  log
    : (after.store.history i).log
      = (before.store.history i).log ++ [(before.store.own i, before.store.view i)]
  objects : ∀ key, after.object? key = before.object? key

theorem exec_commits {before after : World} {answer : (Op.sql .commit).Answer}
    (ran : exec i (.sql .commit) before = some (answer, after))
    : Commits i before after := by
  obtain ⟨executed, shape⟩ := exec_sql ran
  simp only [Store.exec, Option.some.injEq, Prod.mk.injEq] at executed
  refine ⟨?_, ?_, ?_, ?_⟩
  · rw [← executed.2]
    rfl
  · rw [← executed.2, Store.record_own]
    exact Store.release_own_self _ _
  · rw [← executed.2]
    simp
  · intro key
    rw [shape]
    rfl

/-- A commit, from a shape that can be published. -/
theorem commit_spec {shape facts left : World → Prop} (steady : Steady u regime i shape)
    (lasting : Durable regime i facts) (remains : Steady u regime i left)
    (publishes
      : ∀ now, Sane u regime now → needs now → shape now → Publishes u regime i now)
    (leads
      : ∀ now after,
          Sane u regime now
          → Sane u regime after
          → Advances regime.strict now after
          → needs now
          → shape now
          → Commits i now after
          → facts after ∧ left after)
    : Spec u regime i needs shape commit (fun _ => facts) (fun _ => left)
        (fun world => shape world ∧ ¬ regime.strict) := by
  have entered
      : Spec u regime i needs shape (enter .commit) (fun _ _ => True) (fun _ => shape)
          (fun world => shape world ∧ ¬ regime.strict) :=
    (enter_spec steady).mono (fun _ known => known) (fun _ _ _ holds => holds)
      (fun _ _ _ _ fact holds => ⟨fact, holds⟩) (fun _ _ holds => ⟨holds.1, holds.2 rfl⟩)
  refine Spec.bind (fun _ => Durable.const regime i _) entered ?_
  intro _
  refine Spec.perform steady (fun _ => lasting) (fun _ => remains) ?_ ?_
  · intro now sane known holds
    exact ⟨by simp, by simp [Op.Touches], fun _ => publishes now sane known.1 holds⟩
  · intro now answer after sane sane' advances known holds _ ran
    have commits := exec_commits ran
    obtain ⟨fact, shaped⟩ := leads now after sane sane' advances known.1 holds commits
    exact ⟨by rw [commits.log]; exact List.prefix_append _ _, fact, shaped⟩

/-- A commit of the session contained writes with this property, and its result has the rows
that they leave. -/
def Logged (i : Nat) (pending : List (Write schema) → Prop) (world : World) : Prop :=
  ∃ entry ∈ (world.store.history i).log,
    pending entry.1
    ∧ ∀ (t : TableName) (row : TableRow t),
        Leaves entry.1 t row → entry.2.find? t (primaryKey t row) = some row

theorem Durable.logged (pending : List (Write schema) → Prop)
    : Durable regime i (Logged i pending) := by
  rintro before after progress ⟨entry, member, facts⟩
  exact ⟨entry, progress.log.subset member, facts⟩

theorem Commits.logged {before after : World} (commits : Commits i before after)
    (holds : pending (before.store.own i))
    : Logged i pending after := by
  refine ⟨(before.store.own i, before.store.view i), ?_, holds, fun t row leaves => leaves _⟩
  rw [commits.log]
  exact List.mem_append_right _ (List.mem_singleton_self _)

/-- A frame about the objects. -/
def AboutObjects (frame : World → Prop) : Prop :=
  ∀ before after : World,
    after.ids = before.ids
    → before.drawn <+: after.drawn
    → (∀ key, after.object? key = before.object? key)
    → frame before
    → frame after

/-- A commit of mild writes. -/
theorem commit_mild (framed : Framed u regime i frame) (bytes : AboutObjects frame)
    : Spec u regime i needs (fun world => Mildly u regime i pending world ∧ frame world) commit
        (fun _ => Logged i pending) (fun _ world => Clean i world ∧ frame world)
        (fun world => (Mildly u regime i pending world ∧ frame world) ∧ ¬ regime.strict) := by
  refine commit_spec (Mildly.steady framed) (Durable.logged pending)
    (Clean.firm.steady.and framed.steady) ?_ ?_
  · exact fun _ sane _ holds => holds.1.publishes sane
  · intro now after _ _ advances _ holds commits
    exact ⟨commits.logged holds.1.pending, commits.own,
      bytes now after advances.ids advances.drawn commits.objects holds.2⟩

theorem exec_rollback {before after : World} {answer : (Op.sql .rollback).Answer}
    (ran : exec i (.sql .rollback) before = some (answer, after))
    : after.store.own i = []
      ∧ (after.store.history i).log = (before.store.history i).log := by
  obtain ⟨executed, -⟩ := exec_sql ran
  simp only [Store.exec, Option.some.injEq, Prod.mk.injEq] at executed
  rw [← executed.2]
  exact ⟨Store.release_own_self _ _, by simp⟩

/-- A rollback cleans up whatever there was. -/
theorem sessionRollback_spec {failed : World → Prop}
    : Spec u regime i needs (fun _ => True) sessionRollback (fun _ _ => True)
        (fun _ => Clean i) failed := by
  refine Spec.perform (Firm.const True).steady (fun _ => Durable.const regime i _)
    (fun _ => Clean.firm.steady)
    (fun _ _ _ _ => .nothing (by simp) (by simp [Op.Touches]) (by simp)) ?_
  intro now answer after _ _ _ _ _ _ ran
  obtain ⟨clean, log⟩ := exec_rollback ran
  exact ⟨by rw [log], trivial, clean⟩

theorem rollback_spec
    : Spec u regime i needs (fun _ => True) rollback (fun _ _ => True) (fun _ => Clean i)
        (fun _ => True) :=
  Silent.before (Firm.const True).steady enter_silent (fun _ => sessionRollback_spec)
    (fun _ holds => holds)

end WorkflowForge
