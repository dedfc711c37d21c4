import WorkflowForge.Concurrency.Protocols

/-! Invariants over the modes of all calls.
What a number of clients do to one resource together is often bounded by how many of them are
in some mode. The modes are listed in starting order, one for each call.
-/

namespace Concurrency

variable {Op : Type} {Res : Op → Type} {ε α σ C μ : Type}

/-- The environment keeps the invariant between the modes of all calls and the state, while the
acting call moves as the protocol says. -/
structure Balances (exec : Environment Op Res σ) (protocol : Protocol Op Res μ) (start : μ)
    (inv : List μ → σ → Prop)
    : Prop where
  started : ∀ {modes state}, inv modes state → inv (modes ++ [start]) state
  acted
    : ∀ {modes i mode op state answer after},
        inv modes state
        → modes[i]? = some mode
        → protocol.may mode op
        → exec i op state = some (answer, after)
        → ∃ later, protocol.moves mode op answer later ∧ inv (modes.set i later) after

/-- All calls obey the protocol from their modes on, and the invariant holds. -/
structure Jointly (protocol : Protocol Op Res μ) (inv : List μ → σ → Prop)
    (post : C → Except ε α → μ → Prop) (modes : List μ) (config : Config Op Res ε α σ C)
    : Prop where
  length : modes.length = config.threads.length
  follows
    : ∀ {i : Nat} {thread : Thread Op Res ε α C} {mode : μ},
        config.threads[i]? = some thread
        → modes[i]? = some mode
        → Obeys protocol (post thread.origin) mode thread.program
  inv : inv modes config.shared

namespace Jointly

variable {protocol : Protocol Op Res μ} {exec : Environment Op Res σ} {start : μ}
variable {inv weaker : List μ → σ → Prop} {post : C → Except ε α → μ → Prop}
variable {body : C → Program Op Res ε α} {admits : Nat → Op → σ → Prop}
variable {config after : Config Op Res ε α σ C} {modes : List μ}

theorem idle {shared : σ} (holds : inv [] shared)
    : Jointly protocol inv post [] (Config.idle shared : Config Op Res ε α σ C) where
  length := rfl
  follows found := by simp [Config.idle] at found
  inv := holds

theorem mono (joint : Jointly protocol inv post modes config)
    (holds : weaker modes config.shared)
    : Jointly protocol weaker post modes config where
  length := joint.length
  follows := joint.follows
  inv := holds

theorem mode (joint : Jointly protocol inv post modes config) {i : Nat}
    {thread : Thread Op Res ε α C} (found : config.threads[i]? = some thread)
    : ∃ mode, modes[i]? = some mode := by
  obtain ⟨bounded, -⟩ := List.getElem?_eq_some_iff.mp found
  rw [← joint.length] at bounded
  exact ⟨modes[i], List.getElem?_eq_getElem bounded⟩

/-- One step: a call starts in the starting mode, or one call moves. -/
theorem step (balances : Balances exec protocol start inv)
    (bodies : ∀ origin, Obeys protocol (post origin) start (body origin))
    (joint : Jointly protocol inv post modes config) (step : Step exec body admits config after)
    : ∃ later, Jointly protocol inv post later after := by
  cases step with
  | start origin =>
      refine ⟨modes ++ [start], ?_, ?_, balances.started joint.inv⟩
      · simp [joint.length]
      · intro i thread mode found here
        rcases getElem?_started found with old | ⟨rfl, rfl⟩
        · obtain ⟨known, same⟩ := joint.mode old
          have bounded := (List.getElem?_eq_some_iff.mp same).1
          rw [List.getElem?_append_left bounded] at here
          exact joint.follows old here
        · rw [← joint.length, List.getElem?_append_right (Nat.le_refl _)] at here
          simp only [Nat.sub_self, List.getElem?_cons_zero, Option.some.injEq] at here
          exact here ▸ bodies origin
  | @act i origin op next answer shared active _ answered =>
      obtain ⟨mode, here⟩ := joint.mode active
      obtain ⟨allowed, continues⟩ := joint.follows active here
      obtain ⟨later, moved, holds⟩ := balances.acted joint.inv here allowed answered
      refine ⟨modes.set i later, ?_, ?_, holds⟩
      · simp [joint.length]
      · intro j thread other found there
        by_cases same : i = j
        · subst same
          have bounded := (List.getElem?_eq_some_iff.mp active).1
          have bounded' := (List.getElem?_eq_some_iff.mp here).1
          simp only [List.getElem?_set_self bounded, Option.some.injEq] at found
          simp only [List.getElem?_set_self bounded', Option.some.injEq] at there
          subst found
          subst there
          exact continues answer later moved
        · simp only [List.getElem?_set_ne same] at found there
          exact joint.follows found there

/-- Whole runs, by induction on the run. -/
theorem reaches (balances : Balances exec protocol start inv)
    (bodies : ∀ origin, Obeys protocol (post origin) start (body origin))
    (joint : Jointly protocol inv post modes config) (run : Reaches exec body admits config after)
    : ∃ later, Jointly protocol inv post later after := by
  induction run with
  | refl => exact ⟨modes, joint⟩
  | tail _ last ih =>
      obtain ⟨middle, joint'⟩ := ih
      exact joint'.step balances bodies last

end Jointly

end Concurrency
