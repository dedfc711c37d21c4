import WorkflowForge.Concurrency.RelyGuarantee

/-! Pre- and postconditions for threads.
A triple says that a program is safe from every state that satisfies the invariant and the
precondition. Assertions that hold between two operations must survive interference.
-/

namespace Concurrency

variable {Op : Type} {Res : Op → Type} {ε α β σ : Type}

/-- A postcondition given by cases on the outcome. -/
def returns (value : α → σ → Prop) (raised : ε → σ → Prop) : Except ε α → σ → Prop
  | .ok result, state => value result state
  | .error failure, state => raised failure state

@[simp] theorem returns_ok (value : α → σ → Prop) (raised : ε → σ → Prop) (result : α)
    (state : σ)
    : returns value raised (.ok result) state = value result state :=
  rfl

@[simp] theorem returns_error (value : α → σ → Prop) (raised : ε → σ → Prop) (failure : ε)
    (state : σ)
    : returns value raised (.error failure) state = raised failure state :=
  rfl

/-- From every state with the precondition the program is safe for the postcondition. -/
def Triple (exec : Environment Op Res σ) (d : Discipline Op σ) (i : Nat) (pre : σ → Prop)
    (program : Program Op Res ε α) (post : Except ε α → σ → Prop)
    : Prop :=
  ∀ state, d.inv state → pre state → Safe exec d i post program state

/-- An assertion of thread `i` that the other threads cannot falsify. -/
def Discipline.Stable (d : Discipline Op σ) (i : Nat) (assertion : σ → Prop) : Prop :=
  ∀ before now,
    d.inv before → d.inv now → d.rely i before now → assertion before → assertion now

section Rules

variable {exec : Environment Op Res σ} {d : Discipline Op σ} {i : Nat}

/-- A finished program. -/
theorem Triple.done {pre : σ → Prop} {post : Except ε α → σ → Prop} {result : Except ε α}
    (stable : d.Stable i pre) (holds : ∀ state, d.inv state → pre state → post result state)
    : Triple exec d i pre (.done result) post := by
  intro state start before now invariant interference
  exact holds now invariant (stable state now start invariant interference before)

/-- One operation: it keeps the invariant and the guarantee, and its answer is described
by an assertion that is stable again. -/
theorem Triple.perform {pre : σ → Prop} {op : Op} {answered : Res op → σ → Prop}
    {post : Except ε (Res op) → σ → Prop} (stable : d.Stable i pre)
    (lasting : ∀ answer, d.Stable i (answered answer))
    (step
      : ∀ now answer after,
          d.inv now
          → pre now
          → d.admits i op now
          → exec i op now = some (answer, after)
          → d.inv after ∧ d.guar i now after ∧ answered answer after)
    (holds : ∀ answer state, d.inv state → answered answer state → post (.ok answer) state)
    : Triple exec d i pre (Program.perform op : Program Op Res ε (Res op)) post := by
  intro state start before now invariant interference admitted answer after ran
  have holds_now := stable state now start invariant interference before
  obtain ⟨kept, promised, described⟩ := step now answer after invariant holds_now admitted ran
  refine ⟨kept, promised, ?_⟩
  intro later invariant' interference'
  exact holds answer later invariant'
    (lasting answer after later kept invariant' interference' described)

/-- Sequencing through an assertion on the first result. -/
theorem Triple.bind (ordered : d.Ordered) {pre : σ → Prop} {middle : α → σ → Prop}
    {raised : ε → σ → Prop} {post : Except ε β → σ → Prop} {program : Program Op Res ε α}
    {next : α → Program Op Res ε β}
    (first : Triple exec d i pre program (returns middle raised))
    (second : ∀ value, Triple exec d i (middle value) (next value) post)
    (failed : ∀ failure state, d.inv state → raised failure state → post (.error failure) state)
    : Triple exec d i pre (program >>= next) post := by
  intro state invariant before
  apply Safe.bind ordered
  apply (first state invariant before).mono
  intro result now invariant' reached
  cases result with
  | ok value => exact second value now invariant' reached
  | error failure => exact failed failure now invariant' reached

/-- Handling: the handler starts from what the body's exception left. -/
theorem Triple.tryCatch (ordered : d.Ordered) {pre : σ → Prop} {value : α → σ → Prop}
    {raised : ε → σ → Prop} {post : Except ε α → σ → Prop} {program : Program Op Res ε α}
    {handler : ε → Program Op Res ε α}
    (body : Triple exec d i pre program (returns value raised))
    (handled : ∀ failure, Triple exec d i (raised failure) (handler failure) post)
    (finished : ∀ result state, d.inv state → value result state → post (.ok result) state)
    : Triple exec d i pre (MonadExcept.tryCatch program handler) post := by
  intro state invariant before
  apply Safe.tryCatch ordered
  apply (body state invariant before).mono
  intro result now invariant' reached
  cases result with
  | ok result => exact finished result now invariant' reached
  | error failure => exact handled failure now invariant' reached

/-- Consequence. -/
theorem Triple.consequence {pre stronger : σ → Prop} {post weaker : Except ε α → σ → Prop}
    {program : Program Op Res ε α} (triple : Triple exec d i pre program post)
    (before : ∀ state, d.inv state → stronger state → pre state)
    (after : ∀ result state, d.inv state → post result state → weaker result state)
    : Triple exec d i stronger program weaker := by
  intro state invariant holds
  exact (triple state invariant (before state invariant holds)).mono after

/-- What the precondition implies about values may be used to choose the proof. -/
theorem Triple.of_state {pre : σ → Prop} {post : Except ε α → σ → Prop}
    {program : Program Op Res ε α}
    (known : ∀ state, d.inv state → pre state → Triple exec d i pre program post)
    : Triple exec d i pre program post := by
  intro state invariant holds
  exact known state invariant holds state invariant holds

/-- What every step of the program and every interference keep, holds at the end.
Witness: induction on the program.
-/
theorem Safe.frame {post : Except ε α → σ → Prop} {lasting : σ → Prop}
    {program : Program Op Res ε α} {state : σ} (stable : d.Stable i lasting)
    (kept
      : ∀ op now answer after,
          d.inv now → exec i op now = some (answer, after) → lasting now → lasting after)
    (invariant : d.inv state) (holds : lasting state)
    (safe : Safe exec d i post program state)
    : Safe exec d i (fun result now => post result now ∧ lasting now) program state := by
  induction program generalizing state with
  | done result =>
      intro now sound interference
      exact ⟨safe now sound interference, stable state now invariant sound interference holds⟩
  | call op next ih =>
      intro now sound interference admitted answer after answered
      obtain ⟨sound', promised, rest⟩ := safe now sound interference admitted answer after answered
      have here := stable state now invariant sound interference holds
      exact ⟨sound', promised,
        ih answer sound' (kept op now answer after sound answered here) rest⟩

end Rules

end Concurrency
