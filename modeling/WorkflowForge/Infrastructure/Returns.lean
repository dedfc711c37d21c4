import WorkflowForge.Concurrency.Sequential
import WorkflowForge.Infrastructure.DocumentRepository
import WorkflowForge.Transactions.Lookups

/-! When a primitive action returns alone, and the state that it leaves. -/

namespace WorkflowForge

open Python Transactions Concurrency

/-- As session `i` the program returns the value and leaves the world `after`. -/
abbrev Yields {α : Type} (i : Nat) (program : App α) (world : World) (value : α)
    (after : World)
    : Prop :=
  Returns (exec i) program world value after

namespace World

/-- Entering a port that does not raise. -/
def entering (world : World) (port : Port) : World :=
  { world with entered := world.entered ++ [port] }

/-- The next call of the port raises. -/
def refuses (world : World) (port : Port) : Bool := world.raises port (world.entered.count port)

/-- After a SELECT of session `i`. -/
def selecting (world : World) (i : Nat) : World := { world with store := world.store.opening i }

/-- After an accepted INSERT of session `i`. -/
def inserting (world : World) (i : Nat) (t : TableName) (row : TableRow t) : World :=
  { world with store := world.store.stage i (.put t row) }

/-- After drawing an identifier. -/
def drawing (world : World) (i : Nat) : World := { world with drawn := world.drawn ++ [i] }

/-- The identifier that is drawn next. -/
def nextUuid (world : World) : UUID := world.ids.get world.drawn.length

/-- After a COMMIT of session `i`. -/
def committing (world : World) (i : Nat) : World :=
  { world with
    store := ({ world.store with committed := world.store.view i }.release i).record i
      (fun h => { h with log := h.log ++ [(world.store.own i, world.store.view i)] }) }

/-- What `_now` answers, if the given time is usable. -/
def timeFor (world : World) : Option Datetime → Option Timestamp
  | none => some (world.clock.reading world.ticks)
  | some (.aware instant) => some instant
  | some (.naive _) => none

/-- After `_now`. -/
def timing (world : World) : Option Datetime → World
  | none => { world with ticks := world.ticks + 1 }
  | some _ => world

@[simp] theorem timing_store (world : World) (now : Option Datetime)
    : (world.timing now).store = world.store := by
  cases now <;> rfl

@[simp] theorem timing_refuses (world : World) (now : Option Datetime) (port : Port)
    : (world.timing now).refuses port = world.refuses port := by
  cases now <;> rfl

@[simp] theorem timing_nextUuid (world : World) (now : Option Datetime)
    : (world.timing now).nextUuid = world.nextUuid := by
  cases now <;> rfl

theorem entering_refuses (world : World) {port other : Port} (different : other ≠ port)
    : (world.entering port).refuses other = world.refuses other := by
  simp [refuses, entering, List.count_append, different.symm]

@[simp] theorem selecting_refuses (world : World) (i : Nat) (port : Port)
    : (world.selecting i).refuses port = world.refuses port :=
  rfl

@[simp] theorem drawing_refuses (world : World) (i : Nat) (port : Port)
    : (world.drawing i).refuses port = world.refuses port :=
  rfl

@[simp] theorem inserting_refuses (world : World) (i : Nat) (t : TableName) (row : TableRow t)
    (port : Port)
    : (world.inserting i t row).refuses port = world.refuses port :=
  rfl

@[simp] theorem entering_nextUuid (world : World) (port : Port)
    : (world.entering port).nextUuid = world.nextUuid :=
  rfl

@[simp] theorem selecting_nextUuid (world : World) (i : Nat)
    : (world.selecting i).nextUuid = world.nextUuid :=
  rfl

@[simp] theorem entering_store (world : World) (port : Port)
    : (world.entering port).store = world.store :=
  rfl

@[simp] theorem drawing_store (world : World) (i : Nat) : (world.drawing i).store = world.store :=
  rfl

@[simp] theorem selecting_view (world : World) (i j : Nat)
    : (world.selecting i).store.view j = world.store.view j :=
  rfl

end World

namespace Yields

variable {α : Type} {i : Nat} {world after : World}

theorem enter_iff {port : Port} {value : Unit}
    : Yields i (enter port) world value after
      ↔ world.refuses port = false ∧ world.entering port = after := by
  unfold enter
  simp only [Yields, Returns.bind_iff, WorkflowForge.perform, Returns.perform_iff, exec,
    Option.some.injEq, Prod.mk.injEq]
  constructor
  · rintro ⟨raised, middle, ⟨rfl, rfl⟩, rest⟩
    split at rest
    · exact (Returns.throw_iff.mp rest).elim
    · rename_i quiet
      exact ⟨by simpa [World.refuses] using quiet, (Returns.pure_iff.mp rest).2⟩
  · rintro ⟨quiet, rfl⟩
    refine ⟨_, _, ⟨rfl, rfl⟩, ?_⟩
    rw [if_neg (by simpa [World.refuses] using quiet)]
    exact Returns.pure_iff.mpr ⟨rfl, rfl⟩

theorem select_iff {query : Query} {db : Database}
    : Yields i (select query) world db after
      ↔ world.store.view i = db ∧ world.selecting i = after := by
  simp [Yields, select, WorkflowForge.perform, Returns.perform_iff, exec, Store.exec,
    World.selecting]

theorem liftExcept_iff {result : Except Exn α} {value : α}
    : Yields i (liftExcept result) world value after ↔ result = .ok value ∧ world = after :=
  Returns.ofExcept_iff

theorem newUuid_iff {value : UUID}
    : Yields i newUuid world value after ↔ world.nextUuid = value ∧ world.drawing i = after := by
  simp [Yields, newUuid, WorkflowForge.perform, Returns.perform_iff, exec, World.nextUuid,
    World.drawing]

theorem insert_iff {t : TableName} {row : TableRow t} {value : Unit}
    : Yields i (insert t row) world value after
      ↔ world.store.Accepts i t row ∧ world.inserting i t row = after := by
  unfold insert
  simp only [Yields, Returns.bind_iff, WorkflowForge.perform, Returns.perform_iff]
  constructor
  · rintro ⟨answer, middle, ran, rest⟩
    simp only [exec] at ran
    split at ran
    · cases ran
    rename_i reply store executed
    obtain ⟨rfl, rfl⟩ := Prod.mk.inj (Option.some.inj ran)
    cases reply with
    | ok value =>
        obtain ⟨accepts, staged⟩ := Store.exec_insert_ok.mp executed
        refine ⟨accepts, ?_⟩
        rw [World.inserting, staged]
        exact (Returns.pure_iff.mp rest).2
    | error violation => cases violation <;> exact absurd rest (by simp [Returns, raiseViolation,
        Program.run])
  · rintro ⟨accepts, rfl⟩
    have executed := Store.exec_insert_ok.mpr ⟨accepts, rfl⟩
    exact ⟨.ok (), _, by simp only [exec, executed]; rfl, Returns.pure_iff.mpr ⟨rfl, rfl⟩⟩

theorem commit_iff {value : Unit}
    : Yields i commit world value after
      ↔ world.refuses .commit = false ∧ (world.entering .commit).committing i = after := by
  unfold commit
  simp only [Yields, Returns.bind_iff]
  constructor
  · rintro ⟨_, middle, entered, ran⟩
    obtain ⟨quiet, rfl⟩ := enter_iff.mp entered
    refine ⟨quiet, ?_⟩
    have executed := Returns.perform_iff.mp ran
    exact (Prod.mk.inj (Option.some.inj executed)).2
  · rintro ⟨quiet, rfl⟩
    exact ⟨(), _, enter_iff.mpr ⟨quiet, rfl⟩, Returns.perform_iff.mpr rfl⟩

theorem rollback_iff {value : Unit}
    : Yields i rollback world value after
      ↔ world.refuses .rollback = false
        ∧ { world.entering .rollback with store := world.store.release i } = after := by
  unfold rollback
  simp only [Yields, Returns.bind_iff]
  constructor
  · rintro ⟨_, middle, entered, ran⟩
    obtain ⟨quiet, rfl⟩ := enter_iff.mp entered
    have executed := Returns.perform_iff.mp ran
    exact ⟨quiet, (Prod.mk.inj (Option.some.inj executed)).2⟩
  · rintro ⟨quiet, rfl⟩
    exact ⟨(), _, enter_iff.mpr ⟨quiet, rfl⟩, Returns.perform_iff.mpr rfl⟩

theorem sessionRollback_iff {value : Unit}
    : Yields i sessionRollback world value after
      ↔ { world with store := world.store.release i } = after := by
  simp [Yields, sessionRollback, WorkflowForge.perform, Returns.perform_iff, exec, Store.exec]

/-- Deleting answers the number of the visible rows that it removes. -/
theorem delete_iff {t : TableName} {chosen : TableRow t → Bool} {value : Nat}
    : Yields i (delete t chosen) world value after
      ↔ (∀ row ∈ (world.store.view i t).filter chosen,
          world.store.withheld i t (primaryKey t row) = false)
        ∧ ((world.store.view i t).filter chosen).length = value
        ∧ { world with
            store := ((world.store.view i t).filter chosen).foldl
              (fun current row => current.stage i (.remove t (primaryKey t row)))
              (world.store.reading i) }
          = after := by
  simp only [Yields, delete, WorkflowForge.perform, Returns.perform_iff, exec, Store.exec]
  generalize (world.store.view i t).filter chosen = rows
  by_cases held : rows.any (fun row => world.store.withheld i t (primaryKey t row)) = true
  · have locked : ¬ ∀ row ∈ rows, world.store.withheld i t (primaryKey t row) = false := by
      simpa using held
    simp [held, locked]
  · have free : ∀ row ∈ rows, world.store.withheld i t (primaryKey t row) = false := by
      simpa using held
    simp only [held, if_false, Option.some.injEq, Prod.mk.injEq, Bool.false_eq_true]
    exact ⟨fun ran => ⟨free, ran⟩, fun ran => ran.2⟩

theorem nowOr_iff {now : Option Datetime} {value : Timestamp}
    : Yields i (nowOr now) world value after
      ↔ world.timeFor now = some value ∧ world.timing now = after := by
  cases now with
  | none => simp [Yields, nowOr, perform, Returns.perform_iff, exec, World.timeFor, World.timing]
  | some time =>
      cases time with
      | aware instant => simp [Yields, nowOr, Returns, Program.run, World.timeFor, World.timing]
      | naive wall => simp [Yields, nowOr, Returns, Program.run, World.timeFor]

/-- Loading a row that was found. -/
theorem wrapped_iff {β : Type} {loaded : Except Exn β} {value : β}
    : Yields i (do return some (← liftExcept loaded)) world (some value) after
      ↔ loaded = .ok value ∧ world = after := by
  constructor
  · intro returned
    obtain ⟨value', _, lifted, wrapped⟩ := Returns.bind_iff.mp returned
    obtain ⟨loads, rfl⟩ := liftExcept_iff.mp lifted
    obtain ⟨same, rfl⟩ := Returns.pure_iff.mp wrapped
    obtain rfl := Option.some.inj same
    exact ⟨loads, rfl⟩
  · rintro ⟨loads, rfl⟩
    exact Returns.bind_iff.mpr
      ⟨value, _, liftExcept_iff.mpr ⟨loads, rfl⟩, Returns.pure_iff.mpr ⟨rfl, rfl⟩⟩

/-- A lookup that raises when nothing is found. -/
theorem orNotFound_iff {β : Type} {lookup : App (Option β)} {failure : Exn} {value : β}
    {next : Option β → App β} (absent : next none = throw failure)
    (present : ∀ value, next (some value) = pure value)
    : Yields i (lookup >>= next) world value after ↔ Yields i lookup world (some value) after := by
  refine Returns.bind_iff.trans ⟨?_, fun found => ⟨_, _, found, ?_⟩⟩
  · rintro ⟨found, middle, looked, rest⟩
    cases found with
    | none =>
        rw [absent] at rest
        exact (Returns.throw_iff.mp rest).elim
    | some value' =>
        rw [present] at rest
        obtain ⟨rfl, rfl⟩ := Returns.pure_iff.mp rest
        exact looked
  · rw [present]
    exact Returns.pure_iff.mpr ⟨rfl, rfl⟩

/-- Entering a port, one SELECT, and what follows. -/
theorem selected_iff {port : Port} {query : Query} {next : Database → App α} {value : α}
    : Yields i (do
          enter port
          let db ← select query
          next db) world value after
      ↔ world.refuses port = false
        ∧ Yields i (next (world.store.view i)) ((world.entering port).selecting i) value
            after := by
  constructor
  · intro returned
    obtain ⟨_, _, entered, rest⟩ := Returns.bind_iff.mp returned
    obtain ⟨quiet, rfl⟩ := enter_iff.mp entered
    obtain ⟨db, _, selected, rest⟩ := Returns.bind_iff.mp rest
    obtain ⟨rfl, rfl⟩ := select_iff.mp selected
    exact ⟨quiet, rest⟩
  · rintro ⟨quiet, rest⟩
    exact Returns.bind_iff.mpr ⟨(), _, enter_iff.mpr ⟨quiet, rfl⟩,
      Returns.bind_iff.mpr ⟨_, _, select_iff.mpr ⟨rfl, rfl⟩, rest⟩⟩

end Yields

/-- A request ends as its call does, and what the call left open is rolled back. By
induction on the call. -/
theorem run_request {α : Type} (i : Nat) (program : App α) (world : World)
    : App.run i (request program) world
      = (App.run i program world).map (fun ended =>
          (ended.1, { ended.2 with store := ended.2.store.release i })) := by
  unfold App.run
  induction program generalizing world with
  | done result => cases result <;> rfl
  | call op rest ih =>
      have unfolded : request (.call op rest) = .call op (fun answer => request (rest answer)) :=
        rfl
      rw [unfolded]
      simp only [Program.run]
      cases exec i op world with
      | none => rfl
      | some reply => exact ih reply.1 reply.2

end WorkflowForge
