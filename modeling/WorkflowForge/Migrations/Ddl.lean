import Mathlib.Data.List.Nodup

/-! Schema migrations over a database with named constraints: statements that are checked
against the constraints in force, and rules for runs that succeed. -/

namespace Ddl

/-- What the constraints of a schema say about its tables. Deferred ones are checked when the
transaction ends, the others after each statement. -/
class ConstraintSystem (σ : Type) (κ : outParam Type) where
  holds : κ → σ → Prop
  decidable : ∀ constraint tables, Decidable (holds constraint tables)
  deferred : κ → Bool

/-- Whether a constraint is satisfied, as a test. -/
def ConstraintSystem.test {σ κ : Type} [ConstraintSystem σ κ] (constraint : κ) (tables : σ)
    : Bool :=
  @decide _ (ConstraintSystem.decidable constraint tables)

theorem ConstraintSystem.test_eq_true {σ κ : Type} [ConstraintSystem σ κ] {constraint : κ}
    {tables : σ} (holds : ConstraintSystem.holds constraint tables)
    : ConstraintSystem.test constraint tables = true :=
  @decide_eq_true _ (ConstraintSystem.decidable constraint tables) holds

/-- The tables of a database and the constraints in force. -/
structure Catalog (σ κ : Type) where
  tables : σ
  constraints : List κ

inductive MigrationError (κ : Type) where
  | violated (constraint : κ)
  | undefinedObject (constraint : κ)
  | runtimeError (message : String)

abbrev Migration (σ κ : Type) := StateT (Catalog σ κ) (Except (MigrationError κ))

variable {σ κ α β : Type}

section Statements

variable [ConstraintSystem σ κ] [DecidableEq κ]

open ConstraintSystem

/-- The first of the constraints that the tables violate. -/
def firstViolated (constraints : List κ) (tables : σ) : Option κ :=
  constraints.find? (fun constraint => !test constraint tables)

def query (read : σ → α) : Migration σ κ α :=
  fun catalog => .ok (read catalog.tables, catalog)

/-- A statement that writes rows. -/
def execute (change : σ → σ) : Migration σ κ Unit :=
  fun catalog =>
    let tables := change catalog.tables
    match firstViolated (catalog.constraints.filter (fun c => !deferred σ c)) tables with
    | some constraint => .error (.violated constraint)
    | none => .ok ((), { catalog with tables })

/-- Adding a constraint checks the rows that are there. -/
def createConstraint (constraint : κ) : Migration σ κ Unit :=
  fun catalog =>
    if test constraint catalog.tables then
      .ok ((), { catalog with constraints := catalog.constraints ++ [constraint] })
    else .error (.violated constraint)

def dropConstraint (constraint : κ) : Migration σ κ Unit :=
  fun catalog =>
    if constraint ∈ catalog.constraints then
      .ok ((), { catalog with
        constraints := catalog.constraints.filter (fun c => !decide (c = constraint)) })
    else .error (.undefinedObject constraint)

/-- A new column or table brings only its defaults. -/
def add (fill : σ → σ) : Migration σ κ Unit :=
  fun catalog => .ok ((), { catalog with tables := fill catalog.tables })

/-- Dropping a column or a table drops the constraints on it as well. -/
def drop (clear : σ → σ) (concerns : κ → Bool) : Migration σ κ Unit :=
  fun catalog =>
    .ok ((), {
      tables := clear catalog.tables
      constraints := catalog.constraints.filter (fun c => !concerns c)
    })

/-- The end of the transaction. -/
def commit : Migration σ κ Unit :=
  fun catalog =>
    match firstViolated catalog.constraints catalog.tables with
    | some constraint => .error (.violated constraint)
    | none => .ok ((), catalog)

end Statements

def fail (message : String) : Migration σ κ α := fun _ => .error (.runtimeError message)

-----------------------------------------------------------------------------------------
-- Successful runs
-----------------------------------------------------------------------------------------

/-- The migration runs without an error and leaves the given value and catalog. -/
def Ends (migration : Migration σ κ α) (before : Catalog σ κ) (value : α)
    (after : Catalog σ κ)
    : Prop :=
  migration before = .ok (value, after)

namespace Ends

variable {before middle after : Catalog σ κ}

theorem pure {value : α} : Ends (Pure.pure value) before value before := rfl

theorem bind {first : Migration σ κ α} {next : α → Migration σ κ β} {value : α} {result : β}
    (head : Ends first before value middle) (rest : Ends (next value) middle result after)
    : Ends (first >>= next) before result after := by
  unfold Ends at head rest ⊢
  rw [← rest]
  exact congrArg (fun outcome => outcome >>= fun pair => next pair.1 pair.2) head

theorem query {read : σ → α} : Ends (query read) before (read before.tables) before := rfl

theorem add {fill : σ → σ} {tables : σ} {constraints : List κ}
    : Ends (add fill) ⟨tables, constraints⟩ () ⟨fill tables, constraints⟩ := rfl

theorem drop {clear : σ → σ} {concerns : κ → Bool} {tables : σ} {constraints : List κ}
    : Ends (drop clear concerns) ⟨tables, constraints⟩ ()
        ⟨clear tables, constraints.filter (fun c => !concerns c)⟩ := rfl

/-- Distinct constraints that are in force are dropped one after the other. -/
theorem dropConstraints [DecidableEq κ] {tables : σ} {constraints dropped : List κ}
    (distinct : dropped.Nodup) (present : ∀ constraint ∈ dropped, constraint ∈ constraints)
    : Ends (dropped.forM dropConstraint) ⟨tables, constraints⟩ ()
        ⟨tables, constraints.filter (fun c => !decide (c ∈ dropped))⟩ := by
  induction dropped generalizing constraints with
  | nil =>
      have unchanged : constraints.filter (fun c => !decide (c ∈ ([] : List κ))) = constraints :=
        List.filter_eq_self.mpr (fun _ _ => by simp)
      rw [unchanged]
      rfl
  | cons first rest ih =>
      obtain ⟨new, distinct⟩ := List.nodup_cons.mp distinct
      have head
          : Ends (dropConstraint first) ⟨tables, constraints⟩ ()
              ⟨tables, constraints.filter (fun c => !decide (c = first))⟩ :=
        if_pos (present first List.mem_cons_self)
      have tail := @ih (constraints.filter (fun c => !decide (c = first)))
        distinct (fun c member => by
          refine List.mem_filter.mpr ⟨present c (List.mem_cons_of_mem _ member), ?_⟩
          have different : c ≠ first := fun same => new (same ▸ member)
          simp [different])
      have filters
          : (constraints.filter (fun c => !decide (c = first))).filter
                (fun c => !decide (c ∈ rest))
            = constraints.filter (fun c => !decide (c ∈ first :: rest)) := by
        rw [List.filter_filter]
        refine List.filter_congr (fun c _ => ?_)
        simp [Bool.and_comm]
      rw [filters] at tail
      exact bind head tail

variable [ConstraintSystem σ κ]

open ConstraintSystem

theorem firstViolated_eq_none {constraints : List κ} {tables : σ}
    (all : ∀ constraint ∈ constraints, holds constraint tables)
    : firstViolated constraints tables = none := by
  refine List.find?_eq_none.mpr (fun constraint member => ?_)
  simp [test_eq_true (all constraint member)]

/-- A statement goes through if its rows satisfy the immediate constraints. -/
theorem execute {change : σ → σ} {tables : σ} {constraints : List κ}
    (all
      : ∀ constraint ∈ constraints,
          deferred σ constraint = false → holds constraint (change tables))
    : Ends (execute change) ⟨tables, constraints⟩ () ⟨change tables, constraints⟩ := by
  have none
      : firstViolated (constraints.filter (fun c => !deferred σ c)) (change tables) = none := by
    refine firstViolated_eq_none (fun constraint member => ?_)
    obtain ⟨listed, immediate⟩ := List.mem_filter.mp member
    exact all constraint listed (by simpa using immediate)
  simp only [Ends, Ddl.execute, none]

theorem commit {tables : σ} {constraints : List κ}
    (all : ∀ constraint ∈ constraints, holds constraint tables)
    : Ends commit ⟨tables, constraints⟩ () ⟨tables, constraints⟩ := by
  simp only [Ends, Ddl.commit, firstViolated_eq_none all]

/-- Constraints are added one after the other if the rows satisfy each of them. -/
theorem createConstraints {tables : σ} {constraints added : List κ}
    (all : ∀ constraint ∈ added, holds constraint tables)
    : Ends (added.forM createConstraint) ⟨tables, constraints⟩ ()
        ⟨tables, constraints ++ added⟩ := by
  induction added generalizing constraints with
  | nil =>
      rw [List.append_nil]
      rfl
  | cons first rest ih =>
      have head
          : Ends (createConstraint first) ⟨tables, constraints⟩ ()
              ⟨tables, constraints ++ [first]⟩ :=
        if_pos (test_eq_true (all first List.mem_cons_self))
      have tail := @ih (constraints ++ [first])
        (fun c member => all c (List.mem_cons_of_mem _ member))
      rw [List.append_assoc] at tail
      exact bind head tail

end Ends

end Ddl
