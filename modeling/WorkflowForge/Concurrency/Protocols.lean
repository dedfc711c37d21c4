import WorkflowForge.Concurrency.Triples

/-! Protocols: what a client may do next depends on the mode it is in.
A mode is what the client has obtained from the environment so far. Programs are checked
against a protocol alone; the environment is then shown to give each mode its meaning, which
no other client disturbs. Interleaved runs keep these meanings, and where only clients that
hold nothing ever wait, some client can always go on.
-/

namespace Concurrency

variable {Op : Type} {Res : Op → Type} {ε α β σ C μ : Type}

/-- The operations allowed in each mode, and the modes that their answers lead to. -/
structure Protocol (Op : Type) (Res : Op → Type) (μ : Type) where
  may : μ → Op → Prop
  moves : μ → (op : Op) → Res op → μ → Prop

/-- From the mode on the program makes allowed operations only, and it ends in `post`. -/
def Obeys (protocol : Protocol Op Res μ) (post : Except ε α → μ → Prop)
    : μ → Program Op Res ε α → Prop
  | mode, .done result => post result mode
  | mode, .call op next =>
      protocol.may mode op
      ∧ ∀ answer later,
          protocol.moves mode op answer later → Obeys protocol post later (next answer)

namespace Obeys

variable {protocol : Protocol Op Res μ} {mode : μ}

/-- By induction on the program. -/
theorem mono {post weaker : Except ε α → μ → Prop} {program : Program Op Res ε α}
    (follows : Obeys protocol post mode program)
    (implies : ∀ result later, post result later → weaker result later)
    : Obeys protocol weaker mode program := by
  induction program generalizing mode with
  | done result => exact implies result mode follows
  | call op next ih =>
      exact ⟨follows.1, fun answer later moved => ih answer (follows.2 answer later moved)⟩

theorem perform {op : Op} {post : Except ε (Res op) → μ → Prop}
    (allowed : protocol.may mode op)
    (holds : ∀ answer later, protocol.moves mode op answer later → post (.ok answer) later)
    : Obeys protocol post mode (Program.perform op : Program Op Res ε (Res op)) :=
  ⟨allowed, holds⟩

/-- Sequencing, by induction on the first program. -/
theorem bind {middle : α → μ → Prop} {raised : ε → μ → Prop} {post : Except ε β → μ → Prop}
    {program : Program Op Res ε α} {next : α → Program Op Res ε β}
    (first : Obeys protocol (returns middle raised) mode program)
    (second
      : ∀ value later, middle value later → Obeys protocol post later (next value))
    (failed : ∀ failure later, raised failure later → post (.error failure) later)
    : Obeys protocol post mode (program >>= next) := by
  induction program generalizing mode with
  | done result =>
      cases result with
      | ok value => exact second value mode first
      | error failure => exact failed failure mode first
  | call op rest ih =>
      exact ⟨first.1, fun answer later moved => ih answer (first.2 answer later moved)⟩

/-- Handling, by induction on the guarded program. -/
theorem tryCatch {middle : α → μ → Prop} {raised : ε → μ → Prop}
    {post : Except ε α → μ → Prop} {program : Program Op Res ε α}
    {handler : ε → Program Op Res ε α}
    (body : Obeys protocol (returns middle raised) mode program)
    (handled
      : ∀ failure later, raised failure later → Obeys protocol post later (handler failure))
    (returned : ∀ value later, middle value later → post (.ok value) later)
    : Obeys protocol post mode (MonadExcept.tryCatch program handler) := by
  induction program generalizing mode with
  | done result =>
      cases result with
      | ok value => exact returned value mode body
      | error failure => exact handled failure mode body
  | call op rest ih =>
      exact ⟨body.1, fun answer later moved => ih answer (body.2 answer later moved)⟩

end Obeys

-----------------------------------------------------------------------------------------
-- What the modes mean
-----------------------------------------------------------------------------------------

/-- The environment moves the acting client as its call's protocol says and leaves what the
modes of the other clients mean alone. -/
structure Realized (exec : Environment Op Res σ) (protocol : C → Protocol Op Res μ)
    (inv : σ → Prop) (means : C → Nat → μ → σ → Prop)
    : Prop where
  kept
    : ∀ {origin i mode op state answer after},
        inv state
        → means origin i mode state
        → (protocol origin).may mode op
        → exec i op state = some (answer, after)
        → inv after
  moved
    : ∀ {origin i mode op state answer after},
        inv state
        → means origin i mode state
        → (protocol origin).may mode op
        → exec i op state = some (answer, after)
        → ∃ later, (protocol origin).moves mode op answer later ∧ means origin i later after
  others
    : ∀ {origin i mode op state answer after},
        inv state
        → means origin i mode state
        → (protocol origin).may mode op
        → exec i op state = some (answer, after)
        → ∀ caller j other, j ≠ i → means caller j other state → means caller j other after

/-- A thread of a list with one more is an old one or the new one. -/
theorem getElem?_started {threads : List (Thread Op Res ε α C)}
    {fresh thread : Thread Op Res ε α C} {i : Nat}
    (found : (threads ++ [fresh])[i]? = some thread)
    : threads[i]? = some thread ∨ i = threads.length ∧ fresh = thread := by
  rcases Nat.lt_or_ge i threads.length with earlier | later
  · rw [List.getElem?_append_left earlier] at found
    exact .inl found
  · rw [List.getElem?_append_right later, List.getElem?_singleton] at found
    split at found
    · rename_i last
      exact .inr ⟨by omega, Option.some.inj found⟩
    · cases found

/-- Every started call follows its protocol from the mode it is in; the others are at the
start. -/
structure Following (protocol : C → Protocol Op Res μ) (inv : σ → Prop)
    (means : C → Nat → μ → σ → Prop) (start : μ) (post : C → Except ε α → μ → Prop)
    (config : Config Op Res ε α σ C)
    : Prop where
  inv : inv config.shared
  threads
    : ∀ {i thread},
        config.threads[i]? = some thread
        → ∃ mode,
            means thread.origin i mode config.shared
            ∧ Obeys (protocol thread.origin) (post thread.origin) mode thread.program
  unseen
    : ∀ origin i, config.threads.length ≤ i → means origin i start config.shared

namespace Following

variable {protocol : C → Protocol Op Res μ} {exec : Environment Op Res σ} {inv : σ → Prop}
variable {means : C → Nat → μ → σ → Prop} {start : μ} {post : C → Except ε α → μ → Prop}
variable {body : C → Program Op Res ε α} {admits : Nat → Op → σ → Prop}
variable {config after : Config Op Res ε α σ C}

theorem idle {shared : σ} (holds : inv shared) (fresh : ∀ origin i, means origin i start shared)
    : Following protocol inv means start post (Config.idle shared) where
  inv := holds
  threads found := by cases found
  unseen origin i _ := fresh origin i

theorem step (realized : Realized exec protocol inv means)
    (bodies : ∀ origin, Obeys (protocol origin) (post origin) start (body origin))
    (following : Following protocol inv means start post config)
    (step : Step exec body admits config after)
    : Following protocol inv means start post after := by
  cases step with
  | start origin =>
      refine { inv := following.inv, threads := ?_, unseen := ?_ }
      · intro i thread found
        rcases getElem?_started found with old | ⟨rfl, rfl⟩
        · exact following.threads old
        · exact ⟨start, following.unseen _ _ (Nat.le_refl _), bodies origin⟩
      · intro caller i bound
        simp only [List.length_append, List.length_singleton] at bound
        exact following.unseen caller i (by omega)
  | @act j origin op next answer shared active _ answered =>
      obtain ⟨mode, meant, allowed, rest⟩ := following.threads active
      obtain ⟨later, moved, arrived⟩ := realized.moved following.inv meant allowed answered
      have inside : j < config.threads.length := (List.getElem?_eq_some_iff.mp active).1
      have others := realized.others following.inv meant allowed answered
      refine {
        inv := realized.kept following.inv meant allowed answered
        threads := ?_
        unseen := ?_
      }
      · intro i thread found
        by_cases same : i = j
        · subst same
          rw [List.getElem?_set_self inside, Option.some.injEq] at found
          subst found
          exact ⟨later, arrived, rest answer later moved⟩
        · rw [List.getElem?_set_ne (Ne.symm same)] at found
          obtain ⟨mode', meant', follows⟩ := following.threads found
          exact ⟨mode', others thread.origin i mode' same meant', follows⟩
      · intro caller i bound
        simp only [List.length_set] at bound
        exact others caller i start (by omega) (following.unseen caller i bound)

/-- By induction on the run. -/
theorem reaches (realized : Realized exec protocol inv means)
    (bodies : ∀ origin, Obeys (protocol origin) (post origin) start (body origin))
    (following : Following protocol inv means start post config)
    (run : Reaches exec body admits config after)
    : Following protocol inv means start post after := by
  induction run with
  | refl => exact following
  | tail _ step ih => exact ih.step realized bodies step

/-- A preorder that every allowed operation keeps relates the states along a run, by induction
on the run. -/
theorem relates {relation : σ → σ → Prop} (refl : ∀ state, relation state state)
    (trans
      : ∀ first second third,
          relation first second → relation second third → relation first third)
    (steps
      : ∀ {origin i mode op state answer after},
          inv state
          → means origin i mode state
          → (protocol origin).may mode op
          → exec i op state = some (answer, after)
          → relation state after)
    (realized : Realized exec protocol inv means)
    (bodies : ∀ origin, Obeys (protocol origin) (post origin) start (body origin))
    (following : Following protocol inv means start post config)
    (run : Reaches exec body admits config after)
    : relation config.shared after.shared := by
  induction run with
  | refl => exact refl _
  | tail earlier step ih =>
      have here := following.reaches realized bodies earlier
      refine trans _ _ _ ih ?_
      cases step with
      | start origin => exact refl _
      | act active _ answered =>
          obtain ⟨mode, meant, allowed, -⟩ := here.threads active
          exact steps here.inv meant allowed answered

/-- A finished call ended in its postcondition, in a mode that still has its meaning. -/
theorem finished (following : Following protocol inv means start post config) {i : Nat}
    {origin : C} {result : Except ε α}
    (found : config.threads[i]? = some ⟨origin, .done result⟩)
    : ∃ mode, means origin i mode config.shared ∧ post origin result mode :=
  following.threads found

end Following

-----------------------------------------------------------------------------------------
-- Runs that go on
-----------------------------------------------------------------------------------------

/-- One started call makes its next operation. -/
def Acts (exec : Environment Op Res σ) (before after : Config Op Res ε α σ C) : Prop :=
  ∃ i origin op next answer shared,
    before.threads[i]? = some ⟨origin, .call op next⟩
    ∧ exec i op before.shared = some (answer, shared)
    ∧ after = { shared, threads := before.threads.set i ⟨origin, next answer⟩ }

theorem Acts.reaches {exec : Environment Op Res σ} {body : C → Program Op Res ε α}
    {before after : Config Op Res ε α σ C} (acts : Acts exec before after)
    : Reaches exec body (fun _ _ _ => True) before after := by
  obtain ⟨i, origin, op, next, answer, shared, active, answered, rfl⟩ := acts
  exact .single (.act active trivial answered)

theorem Acts.origins {exec : Environment Op Res σ} {before after : Config Op Res ε α σ C}
    (acts : Acts exec before after)
    : after.threads.map Thread.origin = before.threads.map Thread.origin := by
  obtain ⟨i, origin, op, next, answer, shared, active, -, rfl⟩ := acts
  obtain ⟨inside, here⟩ := List.getElem?_eq_some_iff.mp active
  apply List.ext_getElem (by simp)
  intro j left right
  by_cases same : i = j
  · subst same
    simp [here]
  · simp [List.getElem_set_ne same]

/-- Every started call has ended. -/
def Config.AllEnded (config : Config Op Res ε α σ C) : Prop :=
  ∀ thread ∈ config.threads, ∃ result, thread.program = .done result

/-- The threads after one of them has made an operation. -/
def Advanced (after before : List (Thread Op Res ε α C)) : Prop :=
  ∃ (i : Nat) (origin : C) (op : Op) (next : Res op → Program Op Res ε α) (answer : Res op),
    before[i]? = some ⟨origin, .call op next⟩ ∧ after = before.set i ⟨origin, next answer⟩

/-- One thread more does not make advancing endless: by induction on its program and, within,
on how the other threads advance. -/
theorem acc_advanced_cons (origin : C) (program : Program Op Res ε α)
    {rest : List (Thread Op Res ε α C)} (others : Acc Advanced rest)
    : Acc Advanced (⟨origin, program⟩ :: rest) := by
  induction program generalizing rest with
  | done result =>
      induction others with
      | intro rest _ ih =>
          refine ⟨_, fun after advanced => ?_⟩
          obtain ⟨i, caller, op, next, answer, active, rfl⟩ := advanced
          cases i with
          | zero => simp at active
          | succ i => exact ih _ ⟨i, caller, op, next, answer, by simpa using active, rfl⟩
  | call op more ihProgram =>
      induction others with
      | intro rest deeper ih =>
          refine ⟨_, fun after advanced => ?_⟩
          obtain ⟨i, caller, op', next, answer, active, rfl⟩ := advanced
          cases i with
          | zero =>
              simp only [List.getElem?_cons_zero, Option.some.injEq, Thread.mk.injEq,
                Program.call.injEq] at active
              obtain ⟨rfl, rfl, same⟩ := active
              cases eq_of_heq same
              exact ihProgram answer ⟨rest, deeper⟩
          | succ i => exact ih _ ⟨i, caller, op', next, answer, by simpa using active, rfl⟩

/-- Started calls cannot advance for ever, by induction on the list of calls. -/
theorem acc_advanced (threads : List (Thread Op Res ε α C)) : Acc Advanced threads := by
  induction threads with
  | nil =>
      refine ⟨_, fun after advanced => ?_⟩
      obtain ⟨i, origin, op, next, answer, active, -⟩ := advanced
      simp at active
  | cons thread rest ih => exact acc_advanced_cons thread.origin thread.program ih

/-- Waiting never goes in circles: a call waits only while it holds nothing, and only for a
client that holds something, which no call does at its start or at its end. -/
structure HoldOrWait (exec : Environment Op Res σ) (protocol : C → Protocol Op Res μ)
    (inv : σ → Prop) (means : C → Nat → μ → σ → Prop) (start : μ)
    (post : C → Except ε α → μ → Prop) (holds : Nat → σ → Prop)
    : Prop where
  waits
    : ∀ {origin i mode op state},
        inv state
        → means origin i mode state
        → (protocol origin).may mode op
        → exec i op state = none
        → ¬ holds i state ∧ ∃ j, holds j state
  started : ∀ {origin i state}, inv state → means origin i start state → ¬ holds i state
  ended
    : ∀ {origin i result mode state},
        inv state → means origin i mode state → post origin result mode → ¬ holds i state

namespace Following

variable {protocol : C → Protocol Op Res μ} {exec : Environment Op Res σ} {inv : σ → Prop}
variable {means : C → Nat → μ → σ → Prop} {start : μ} {post : C → Except ε α → μ → Prop}
variable {body : C → Program Op Res ε α} {holds : Nat → σ → Prop}
variable {config : Config Op Res ε α σ C}

/-- A call that waits holds nothing, and some call that holds something can go on. -/
theorem waits (holdOrWait : HoldOrWait exec protocol inv means start post holds)
    (following : Following protocol inv means start post config) {i : Nat} {origin : C}
    {op : Op} {next : Res op → Program Op Res ε α}
    (active : config.threads[i]? = some ⟨origin, .call op next⟩)
    (stuck : exec i op config.shared = none)
    : ¬ holds i config.shared
      ∧ ∃ (j : Nat) (caller : C) (op' : Op) (next' : Res op' → Program Op Res ε α),
          config.threads[j]? = some ⟨caller, .call op' next'⟩
          ∧ holds j config.shared
          ∧ exec j op' config.shared ≠ none := by
  obtain ⟨mode, meant, allowed, -⟩ := following.threads active
  obtain ⟨free, j, holding⟩ := holdOrWait.waits following.inv meant allowed stuck
  refine ⟨free, ?_⟩
  by_cases begun : j < config.threads.length
  · obtain ⟨⟨caller, program⟩, found⟩ : ∃ thread, config.threads[j]? = some thread :=
      ⟨_, List.getElem?_eq_getElem begun⟩
    obtain ⟨mode', meant', follows⟩ := following.threads found
    cases program with
    | done result => exact absurd holding (holdOrWait.ended following.inv meant' follows)
    | call op' next' =>
        refine ⟨j, caller, op', next', found, holding, fun stuck' => ?_⟩
        exact (holdOrWait.waits following.inv meant' follows.1 stuck').1 holding
  · exact absurd holding
      (holdOrWait.started following.inv
        (following.unseen origin j (Nat.le_of_not_lt begun)))

/-- A call that has not ended can go on, or the call it waits for can. -/
theorem progress (holdOrWait : HoldOrWait exec protocol inv means start post holds)
    (following : Following protocol inv means start post config) {i : Nat} {origin : C}
    {op : Op} {next : Res op → Program Op Res ε α}
    (active : config.threads[i]? = some ⟨origin, .call op next⟩)
    : ∃ after, Acts exec config after := by
  cases answered : exec i op config.shared with
  | some reply =>
      exact ⟨_, i, origin, op, next, reply.1, reply.2, active, answered, rfl⟩
  | none =>
      obtain ⟨-, j, caller, op', next', found, -, goesOn⟩ :=
        following.waits holdOrWait active answered
      obtain ⟨reply, answered'⟩ := Option.ne_none_iff_exists'.mp goesOn
      exact ⟨_, j, caller, op', next', reply.1, reply.2, found, answered', rfl⟩

/-- All started calls can be brought to their ends without starting others. By induction on
how the calls advance. -/
theorem completes (realized : Realized exec protocol inv means)
    (bodies : ∀ origin, Obeys (protocol origin) (post origin) start (body origin))
    (holdOrWait : HoldOrWait exec protocol inv means start post holds)
    (following : Following protocol inv means start post config)
    : ∃ after,
        Relation.ReflTransGen (Acts exec) config after
        ∧ after.threads.map Thread.origin = config.threads.map Thread.origin
        ∧ after.AllEnded := by
  obtain ⟨threads, shape⟩ : ∃ threads, config.threads = threads := ⟨_, rfl⟩
  induction acc_advanced threads generalizing config with
  | intro threads _ ih =>
      by_cases ended : config.AllEnded
      · exact ⟨config, .refl, rfl, ended⟩
      · obtain ⟨thread, member, unended⟩ : ∃ thread ∈ config.threads,
            ¬ ∃ result, thread.program = .done result := by
          simpa [Config.AllEnded] using ended
        obtain ⟨i, found⟩ := List.getElem?_of_mem member
        obtain ⟨origin, program⟩ := thread
        cases program with
        | done result => exact absurd ⟨result, rfl⟩ unended
        | call op next =>
            obtain ⟨middle, acts⟩ := following.progress holdOrWait found
            have advanced : Advanced middle.threads threads := by
              obtain ⟨j, caller, op', next', answer, shared, active, -, rfl⟩ := acts
              exact ⟨j, caller, op', next', answer, shape ▸ active, by rw [← shape]⟩
            obtain ⟨after, later, origins, all⟩ := ih middle.threads advanced
              (following.reaches realized bodies acts.reaches) rfl
            exact ⟨after, .head acts later, origins.trans acts.origins, all⟩

end Following

end Concurrency
