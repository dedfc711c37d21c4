import Mathlib.Data.Option.Basic

/-! Runs of a machine that takes one event after another.
`step` is undefined where the event cannot happen; `allowed` restricts the runs.
-/

namespace Concurrency

section

variable {σ α : Type}

/-- The states that allowed steps lead to. -/
inductive Run (step : σ → α → Option σ) (allowed : σ → α → Prop) : σ → σ → Prop
  | refl (state : σ) : Run step allowed state state
  | tail {first state next : σ} {event : α} (run : Run step allowed first state)
    (admitted : allowed state event) (taken : step state event = some next)
    : Run step allowed first next

namespace Run

variable {step : σ → α → Option σ} {allowed : σ → α → Prop}

theorem invariant {property : σ → Prop}
    (preserved
      : ∀ state event next,
          property state → allowed state event → step state event = some next → property next)
    {first last : σ} (run : Run step allowed first last) (start : property first)
    : property last := by
  induction run with
  | refl => exact start
  | tail _ admitted taken ih => exact preserved _ _ _ ih admitted taken

theorem trans {first middle last : σ} (left : Run step allowed first middle)
    (right : Run step allowed middle last)
    : Run step allowed first last := by
  induction right with
  | refl => exact left
  | tail _ admitted taken ih => exact .tail ih admitted taken

/-- An invariant of the unrestricted runs may be assumed at every step. -/
theorem invariant_with {property always : σ → Prop}
    (preserved
      : ∀ state event next,
          always state → property state → allowed state event → step state event = some next
          → property next)
    (holds
      : ∀ state event next, always state → step state event = some next → always next)
    {first last : σ} (run : Run step allowed first last) (known : always first)
    (start : property first)
    : property last := by
  have kept
      : ∀ state event next,
          always state ∧ property state → allowed state event → step state event = some next
          → always next ∧ property next :=
    fun state event next both admitted taken =>
      ⟨holds state event next both.1 taken,
        preserved state event next both.1 both.2 admitted taken⟩
  exact (run.invariant kept ⟨known, start⟩).2

end Run

/-- Follow explicit events while `check` allows them. -/
def follow (step : σ → α → Option σ) (check : σ → α → Bool) : List α → σ → Option σ
  | [], state => some state
  | event :: rest, state =>
      if check state event then
        match step state event with
        | some next => follow step check rest next
        | none => none
      else none

theorem run_of_follow {step : σ → α → Option σ} {allowed : σ → α → Prop}
    {check : σ → α → Bool}
    (sound : ∀ state event, check state event = true → allowed state event)
    {events : List α} {first last : σ} (followed : follow step check events first = some last)
    : Run step allowed first last := by
  induction events generalizing first with
  | nil =>
      cases followed
      exact .refl _
  | cons event rest ih =>
      unfold follow at followed
      split at followed
      next admitted =>
        split at followed
        next next taken =>
          exact (Run.tail (.refl first) (sound _ _ admitted) taken).trans (ih followed)
        · cases followed
      · cases followed

/-- A run to a state that passes a test, found by following explicit events. -/
theorem exists_run_of_check {step : σ → α → Option σ} {allowed : σ → α → Prop}
    {check : σ → α → Bool} {test : σ → Bool}
    (sound : ∀ state event, check state event = true → allowed state event)
    {events : List α} {first : σ}
    (checked : (follow step check events first).any test = true)
    : ∃ last, Run step allowed first last ∧ test last = true := by
  cases followed : follow step check events first with
  | none => simp [followed] at checked
  | some last => exact ⟨last, run_of_follow sound followed, by simpa [followed] using checked⟩

end

-----------------------------------------------------------------------------------------
-- Counted steps
-----------------------------------------------------------------------------------------

/-- `n` steps of a relation. -/
inductive Steps {α : Type} (step : α → α → Prop) : Nat → α → α → Prop
  | refl (a : α) : Steps step 0 a a
  | tail {n : Nat} {a b c : α} (steps : Steps step n a b) (last : step b c)
    : Steps step (n + 1) a c

namespace Steps

variable {α : Type} {step : α → α → Prop} {a b c : α} {m n : Nat}

theorem single (taken : step a b) : Steps step 1 a b := (refl a).tail taken

/-- By induction on the later steps. -/
theorem trans (early : Steps step m a b) (late : Steps step n b c)
    : Steps step (m + n) a c := by
  induction late with
  | refl => exact early
  | tail _ last ih => exact (ih early).tail last

/-- What each step keeps, by induction on the steps. -/
theorem keeps {property : α → Prop} (kept : ∀ a b, step a b → property a → property b)
    (steps : Steps step n a b) (holds : property a)
    : property b := by
  induction steps with
  | refl => exact holds
  | tail _ last ih => exact kept _ _ last (ih holds)

/-- A measure that each step raises by one, by induction on the steps. -/
theorem counts {measure : α → Nat} (raised : ∀ a b, step a b → measure b = measure a + 1)
    (steps : Steps step n a b)
    : measure b = measure a + n := by
  induction steps with
  | refl => rfl
  | tail _ last ih =>
      have here := raised _ _ last
      omega

/-- No step leads away from a value without successors, by cases on the steps so far. -/
theorem stays (final : ∀ b, ¬ step a b) (steps : Steps step n a b) : b = a := by
  induction steps with
  | refl => rfl
  | tail _ last ih =>
      rw [ih final] at last
      exact absurd last (final _)

end Steps

end Concurrency
