import WorkflowForge.Concurrency.Interleaving

/-! Contracts: what the operations of a program may be, whatever the environment answers.
A contract says which operations are allowed and what may be assumed of their answers. It
speaks of one program alone, so it holds in every interleaving with others.
-/

namespace Concurrency

variable {Op : Type} {Res : Op → Type} {ε α β σ C : Type}

/-- Allowed operations, and what their answers tell. -/
structure Contract (Op : Type) (Res : Op → Type) where
  may : Op → Prop
  learns : (op : Op) → Res op → Prop

/-- Every operation of the program is allowed, and a value it returns is good. -/
def Keeps (contract : Contract Op Res) (good : α → Prop) : Program Op Res ε α → Prop
  | .done (.ok value) => good value
  | .done (.error _) => True
  | .call op next =>
      contract.may op
      ∧ ∀ answer, contract.learns op answer → Keeps contract good (next answer)

namespace Keeps

variable {contract : Contract Op Res} {good : α → Prop}

theorem pure {value : α} (holds : good value)
    : Keeps contract good (Pure.pure value : Program Op Res ε α) :=
  holds

theorem throw (failure : ε)
    : Keeps contract good (MonadExcept.throw failure : Program Op Res ε α) :=
  trivial

theorem ofExcept {result : Except ε α} (holds : ∀ value, result = .ok value → good value)
    : Keeps contract good (Program.ofExcept result : Program Op Res ε α) := by
  cases result with
  | ok value => exact holds value rfl
  | error failure => trivial

theorem perform {op : Op} (allowed : contract.may op)
    : Keeps contract (contract.learns op) (Program.perform op : Program Op Res ε (Res op)) :=
  ⟨allowed, fun _ learned => learned⟩

/-- By induction on the program. -/
theorem mono {better : α → Prop} {program : Program Op Res ε α}
    (keeps : Keeps contract better program) (implies : ∀ value, better value → good value)
    : Keeps contract good program := by
  induction program with
  | done result =>
      cases result with
      | ok value => exact implies value keeps
      | error failure => trivial
  | call op next ih => exact ⟨keeps.1, fun answer learned => ih answer (keeps.2 answer learned)⟩

/-- A contract that allows more and tells less of the answers, by induction on the program. -/
theorem weaken {other : Contract Op Res} {program : Program Op Res ε α}
    (keeps : Keeps contract good program) (allowed : ∀ op, contract.may op → other.may op)
    (learned : ∀ op answer, other.learns op answer → contract.learns op answer)
    : Keeps other good program := by
  induction program with
  | done result =>
      cases result with
      | ok value => exact keeps
      | error failure => trivial
  | call op next ih =>
      exact ⟨allowed op keeps.1, fun answer told =>
        ih answer (keeps.2 answer (learned op answer told))⟩

/-- By induction on the first program. -/
theorem bind {middle : β → Prop} {program : Program Op Res ε β}
    {next : β → Program Op Res ε α} (first : Keeps contract middle program)
    (second : ∀ value, middle value → Keeps contract good (next value))
    : Keeps contract good (program >>= next) := by
  induction program with
  | done result =>
      cases result with
      | ok value => exact second value first
      | error failure => trivial
  | call op rest ih => exact ⟨first.1, fun answer learned => ih answer (first.2 answer learned)⟩

/-- By induction on the body. -/
theorem tryCatch {program : Program Op Res ε α} {handler : ε → Program Op Res ε α}
    (body : Keeps contract good program)
    (handled : ∀ failure, Keeps contract good (handler failure))
    : Keeps contract good (MonadExcept.tryCatch program handler) := by
  induction program with
  | done result =>
      cases result with
      | ok value => exact body
      | error failure => exact handled failure
  | call op rest ih => exact ⟨body.1, fun answer learned => ih answer (body.2 answer learned)⟩

/-- Alone as one client, a program that keeps its contract keeps an invariant that its
operations keep and returns a good value. By induction on the program. -/
theorem run {exec : (op : Op) → σ → Option (Res op × σ)} {inv : σ → Prop}
    (respected
      : ∀ op state answer after,
          inv state → contract.may op → exec op state = some (answer, after)
          → inv after ∧ contract.learns op answer)
    {program : Program Op Res ε α} (keeps : Keeps contract good program) {state after : σ}
    {result : Except ε α} (holds : inv state)
    (ran : program.run exec state = some (result, after))
    : inv after ∧ ∀ value, result = .ok value → good value := by
  induction program generalizing state with
  | done outcome =>
      simp only [Program.run, Option.some.injEq, Prod.mk.injEq] at ran
      obtain ⟨rfl, rfl⟩ := ran
      refine ⟨holds, fun value ok => ?_⟩
      subst ok
      exact keeps
  | call op next ih =>
      simp only [Program.run] at ran
      cases answered : exec op state with
      | none => simp [answered] at ran
      | some reply =>
          obtain ⟨answer, middle⟩ := reply
          simp only [answered] at ran
          obtain ⟨kept, learned⟩ := respected op state answer middle holds keeps.1 answered
          exact ih answer (keeps.2 answer learned) kept ran

/-- Where every allowed operation is answered, the program ends. By induction on the program. -/
theorem total {exec : (op : Op) → σ → Option (Res op × σ)} {inv : σ → Prop}
    (answered
      : ∀ op state,
          inv state → contract.may op
          → ∃ answer after,
              exec op state = some (answer, after) ∧ inv after ∧ contract.learns op answer)
    {program : Program Op Res ε α} (keeps : Keeps contract good program) {state : σ}
    (holds : inv state)
    : ∃ result after, program.run exec state = some (result, after) ∧ inv after := by
  induction program generalizing state with
  | done result => exact ⟨result, state, rfl, holds⟩
  | call op next ih =>
      obtain ⟨allowed, rest⟩ := keeps
      obtain ⟨answer, after, ran, kept, learned⟩ := answered op state holds allowed
      simp only [Program.run, ran]
      exact ih answer (rest answer learned) kept

end Keeps

/-- The environment keeps an invariant as long as operations are allowed, and its answers
tell what the contract says. -/
def Contract.Respected (exec : Environment Op Res σ) (inv : σ → Prop)
    (contract : Contract Op Res)
    : Prop :=
  ∀ i op state answer after,
    inv state
    → contract.may op
    → exec i op state = some (answer, after)
    → inv after ∧ contract.learns op answer

/-- The invariant holds and all started calls keep their contracts. -/
structure Orderly (inv : σ → Prop) (contract : C → Contract Op Res)
    (config : Config Op Res ε α σ C)
    : Prop where
  inv : inv config.shared
  keeps
    : ∀ thread ∈ config.threads,
        Keeps (contract thread.origin) (fun _ => True) thread.program

theorem Orderly.idle {inv : σ → Prop} {contract : C → Contract Op Res} {shared : σ}
    (holds : inv shared)
    : Orderly inv contract (Config.idle shared : Config Op Res ε α σ C) where
  inv := holds
  keeps thread member := by cases member

/-- A call whose program keeps its contract may start. -/
theorem Orderly.start {inv : σ → Prop} {contract : C → Contract Op Res}
    {config : Config Op Res ε α σ C} (orderly : Orderly inv contract config) {origin : C}
    {program : Program Op Res ε α} (keeps : Keeps (contract origin) (fun _ => True) program)
    : Orderly inv contract { config with threads := config.threads ++ [⟨origin, program⟩] } where
  inv := orderly.inv
  keeps thread member := by
    rcases List.mem_append.mp member with old | fresh
    · exact orderly.keeps thread old
    · simp only [List.mem_singleton] at fresh
      subst fresh
      exact keeps

/-- An answered operation of a started call keeps everything. -/
theorem Orderly.act {exec : Environment Op Res σ} {inv : σ → Prop}
    {contract : C → Contract Op Res} {config : Config Op Res ε α σ C}
    (orderly : Orderly inv contract config) {i : Nat} {origin : C} {op : Op}
    {next : Res op → Program Op Res ε α} {answer : Res op} {shared : σ}
    (respected : (contract origin).Respected exec inv)
    (active : config.threads[i]? = some ⟨origin, .call op next⟩)
    (answered : exec i op config.shared = some (answer, shared))
    : Orderly inv contract { shared, threads := config.threads.set i ⟨origin, next answer⟩ } := by
  have running := orderly.keeps _ (List.mem_of_getElem? active)
  obtain ⟨kept, learned⟩ :=
    respected i op config.shared answer shared orderly.inv running.1 answered
  refine { inv := kept, keeps := ?_ }
  intro thread member
  rcases List.mem_or_eq_of_mem_set member with old | rfl
  · exact orderly.keeps thread old
  · exact running.2 answer learned

/-- Calls that keep their contracts keep them in every interleaving. -/
theorem Orderly.reaches {exec : Environment Op Res σ} {body : C → Program Op Res ε α}
    {admits : Nat → Op → σ → Prop} {inv : σ → Prop} {contract : C → Contract Op Res}
    {config after : Config Op Res ε α σ C}
    (respected : ∀ origin, (contract origin).Respected exec inv)
    (bodies : ∀ origin, Keeps (contract origin) (fun _ => True) (body origin))
    (orderly : Orderly inv contract config) (run : Reaches exec body admits config after)
    : Orderly inv contract after := by
  induction run with
  | refl => exact orderly
  | tail _ step ih =>
      cases step with
      | start origin => exact ih.start (bodies origin)
      | act active _ answered => exact ih.act (respected _) active answered

/-- Started calls stay, with what was called. -/
theorem Step.origin {exec : Environment Op Res σ} {body : C → Program Op Res ε α}
    {admits : Nat → Op → σ → Prop} {config after : Config Op Res ε α σ C}
    (step : Step exec body admits config after) {thread : Thread Op Res ε α C}
    (member : thread ∈ config.threads)
    : ∃ later ∈ after.threads, later.origin = thread.origin := by
  cases step with
  | start origin => exact ⟨thread, List.mem_append_left _ member, rfl⟩
  | @act i origin op next answer shared active _ _ =>
      obtain ⟨j, found⟩ := List.getElem?_of_mem member
      by_cases same : i = j
      · subst same
        cases active.symm.trans found
        have long := (List.getElem?_eq_some_iff.mp found).1
        exact ⟨_, List.mem_set long _, rfl⟩
      · exact ⟨thread, List.mem_of_getElem? (by rw [List.getElem?_set_ne same, found]), rfl⟩

/-- Only the calls that were started have to keep their contracts. -/
theorem Orderly.reaches_started {exec : Environment Op Res σ} {body : C → Program Op Res ε α}
    {admits : Nat → Op → σ → Prop} {inv : σ → Prop} {contract : C → Contract Op Res}
    {config after : Config Op Res ε α σ C}
    (respected : ∀ origin, (contract origin).Respected exec inv)
    (orderly : Orderly inv contract config) (run : Reaches exec body admits config after)
    (bodies
      : ∀ thread ∈ after.threads,
          Keeps (contract thread.origin) (fun _ => True) (body thread.origin))
    : Orderly inv contract after := by
  induction run with
  | refl => exact orderly
  | tail _ step ih =>
      have earlier := ih (fun thread member => by
        obtain ⟨later, started, same⟩ := step.origin member
        rw [← same]
        exact bodies later started)
      cases step with
      | start origin => exact earlier.start (bodies ⟨origin, body origin⟩ (by simp))
      | act active _ answered => exact earlier.act (respected _) active answered

end Concurrency
