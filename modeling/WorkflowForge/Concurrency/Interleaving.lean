import WorkflowForge.Concurrency.Program

/-! Interleaved runs of programs over one shared state.
Calls can start at any time; each step lets one started call make its next operation. The
index of a call in the thread list is its identity for the environment.
-/

namespace Concurrency

variable {Op : Type} {Res : Op → Type} {ε α σ C : Type}

/-- A started call: what was called, and what is left of its program. -/
structure Thread (Op : Type) (Res : Op → Type) (ε α C : Type) where
  origin : C
  program : Program Op Res ε α

/-- The shared state together with all calls started so far, in starting order. -/
structure Config (Op : Type) (Res : Op → Type) (ε α σ C : Type) where
  shared : σ
  threads : List (Thread Op Res ε α C)

/-- The environment: how thread `i` is answered. `none` makes the thread wait. -/
abbrev Environment (Op : Type) (Res : Op → Type) (σ : Type) :=
  Nat → (op : Op) → σ → Option (Res op × σ)

/-- One step: a call starts, or one call makes its next operation. `admits` restricts the
operations that may be made in a state; unrestricted runs use `fun _ _ _ => True`.
-/
inductive Step (exec : Environment Op Res σ) (body : C → Program Op Res ε α)
    (admits : Nat → Op → σ → Prop)
    : Config Op Res ε α σ C → Config Op Res ε α σ C → Prop
  | start (config : Config Op Res ε α σ C) (origin : C)
    : Step exec body admits config
        { config with threads := config.threads ++ [⟨origin, body origin⟩] }
  | act {config : Config Op Res ε α σ C} {i : Nat} {origin : C} {op : Op}
    {next : Res op → Program Op Res ε α} {answer : Res op} {shared : σ}
    (active : config.threads[i]? = some ⟨origin, .call op next⟩)
    (admitted : admits i op config.shared)
    (answered : exec i op config.shared = some (answer, shared))
    : Step exec body admits config
        { shared, threads := config.threads.set i ⟨origin, next answer⟩ }

/-- Everything that can follow a configuration. -/
def Reaches (exec : Environment Op Res σ) (body : C → Program Op Res ε α)
    (admits : Nat → Op → σ → Prop)
    : Config Op Res ε α σ C → Config Op Res ε α σ C → Prop :=
  Relation.ReflTransGen (Step exec body admits)

/-- The configuration in which no call has started. -/
def Config.idle (shared : σ) : Config Op Res ε α σ C := { shared, threads := [] }

-----------------------------------------------------------------------------------------
-- Explicit schedules
-----------------------------------------------------------------------------------------

/-- One scheduling decision. -/
inductive Move (C : Type) where
  | start (origin : C)
  | act (i : Nat)

/-- Perform one scheduling decision, when the chosen thread can move and `check` allows its
operation. -/
def Config.move (exec : Environment Op Res σ) (body : C → Program Op Res ε α)
    (check : Nat → Op → σ → Bool) (config : Config Op Res ε α σ C)
    : Move C → Option (Config Op Res ε α σ C)
  | .start origin =>
      some { config with threads := config.threads ++ [⟨origin, body origin⟩] }
  | .act i =>
      match config.threads[i]? with
      | some ⟨origin, .call op next⟩ =>
          if check i op config.shared then
            match exec i op config.shared with
            | some (answer, shared) =>
                some { shared, threads := config.threads.set i ⟨origin, next answer⟩ }
            | none => none
          else none
      | _ => none

/-- Follow a whole schedule. -/
def Config.follow (exec : Environment Op Res σ) (body : C → Program Op Res ε α)
    (check : Nat → Op → σ → Bool)
    : List (Move C) → Config Op Res ε α σ C → Option (Config Op Res ε α σ C)
  | [], config => some config
  | move :: rest, config =>
      (config.move exec body check move).bind (follow exec body check rest)

/-- A performed move is a step of every system that admits what was checked. -/
theorem Config.step_of_move {exec : Environment Op Res σ} {body : C → Program Op Res ε α}
    {check : Nat → Op → σ → Bool} {admits : Nat → Op → σ → Prop}
    {config after : Config Op Res ε α σ C} {move : Move C}
    (enough : ∀ i op state, check i op state = true → admits i op state)
    (moved : config.move exec body check move = some after)
    : Step exec body admits config after := by
  cases move with
  | start origin =>
      simp only [Config.move, Option.some.injEq] at moved
      subst moved
      exact .start config origin
  | act i =>
      simp only [Config.move] at moved
      split at moved
      · rename_i origin op next active
        split at moved
        · rename_i allowed
          split at moved
          · rename_i answer shared answered
            simp only [Option.some.injEq] at moved
            subst moved
            exact .act active (enough i op config.shared allowed) answered
          · contradiction
        · contradiction
      · contradiction

/-- A followed schedule is a run, by induction on the schedule. -/
theorem Config.reaches_of_follow {exec : Environment Op Res σ}
    {body : C → Program Op Res ε α} {check : Nat → Op → σ → Bool}
    {admits : Nat → Op → σ → Prop} {schedule : List (Move C)}
    {config after : Config Op Res ε α σ C}
    (enough : ∀ i op state, check i op state = true → admits i op state)
    (followed : config.follow exec body check schedule = some after)
    : Reaches exec body admits config after := by
  induction schedule generalizing config with
  | nil =>
      simp only [Config.follow, Option.some.injEq] at followed
      subst followed
      exact .refl
  | cons move rest ih =>
      simp only [Config.follow, Option.bind_eq_some_iff] at followed
      obtain ⟨middle, moved, later⟩ := followed
      exact .head (Config.step_of_move enough moved) (ih later)

/-- What a check finds at the end of a schedule holds of some reachable configuration. -/
theorem Config.reaches_of_check {exec : Environment Op Res σ}
    {body : C → Program Op Res ε α} {check : Nat → Op → σ → Bool}
    {admits : Nat → Op → σ → Prop} {schedule : List (Move C)}
    {config : Config Op Res ε α σ C} {found : Config Op Res ε α σ C → Bool}
    (enough : ∀ i op state, check i op state = true → admits i op state)
    (checked : (config.follow exec body check schedule).any found = true)
    : ∃ after, Reaches exec body admits config after ∧ found after = true := by
  cases run : config.follow exec body check schedule with
  | none =>
      rw [run] at checked
      cases checked
  | some after =>
      rw [run] at checked
      exact ⟨after, reaches_of_follow enough run, checked⟩

/-- The same for a schedule in two parts. -/
theorem Config.reaches_of_checks {exec : Environment Op Res σ}
    {body : C → Program Op Res ε α} {check : Nat → Op → σ → Bool}
    {admits : Nat → Op → σ → Prop} {first second : List (Move C)}
    {config : Config Op Res ε α σ C}
    {found : Config Op Res ε α σ C → Config Op Res ε α σ C → Bool}
    (enough : ∀ i op state, check i op state = true → admits i op state)
    (checked
      : (config.follow exec body check first).any (fun middle =>
          (middle.follow exec body check second).any (found middle)) = true)
    : ∃ middle after,
        Reaches exec body admits config middle
        ∧ Reaches exec body admits middle after
        ∧ found middle after = true := by
  obtain ⟨middle, early, rest⟩ := reaches_of_check enough checked
  obtain ⟨after, late, holds⟩ := reaches_of_check enough rest
  exact ⟨middle, after, early, late, holds⟩

/-- The call and its result, once thread `i` has ended. -/
def Config.ended (config : Config Op Res ε α σ C) (i : Nat) : Option (C × Except ε α) :=
  config.threads[i]?.bind (fun thread =>
    match thread.program with
    | .done result => some (thread.origin, result)
    | .call _ _ => none)

theorem Config.ended_eq_some {config : Config Op Res ε α σ C} {i : Nat} {origin : C}
    {result : Except ε α}
    : config.ended i = some (origin, result)
      ↔ config.threads[i]? = some ⟨origin, .done result⟩ := by
  constructor
  · intro found
    obtain ⟨⟨call, program⟩, active, shape⟩ := Option.bind_eq_some_iff.mp found
    cases program with
    | done outcome =>
        simp only [Option.some.injEq, Prod.mk.injEq] at shape
        rw [active, shape.1, shape.2]
    | call op next => cases shape
  · intro active
    simp [Config.ended, active]

/-- Restricting the admitted operations only removes runs. -/
theorem Reaches.mono {exec : Environment Op Res σ} {body : C → Program Op Res ε α}
    {admits weaker : Nat → Op → σ → Prop} {config after : Config Op Res ε α σ C}
    (implies : ∀ i op state, admits i op state → weaker i op state)
    (run : Reaches exec body admits config after)
    : Reaches exec body weaker config after := by
  induction run with
  | refl => exact .refl
  | tail _ step ih =>
      cases step with
      | start origin => exact ih.tail (.start _ origin)
      | act active admitted answered =>
          exact ih.tail (.act active (implies _ _ _ admitted) answered)

end Concurrency
