import WorkflowForge.Concurrency.Program

/-! Total correctness of programs that run alone. -/

namespace Concurrency

variable {Op : Type} {Res : Op → Type} {ε α β σ : Type}

/-- Alone from `state` the program ends in `post`; it gets stuck only where `waits` holds. -/
def Ends (exec : (op : Op) → σ → Option (Res op × σ)) (waits : Prop)
    (post : Except ε α → σ → Prop) (program : Program Op Res ε α) (state : σ)
    : Prop :=
  match program.run exec state with
  | none => waits
  | some (result, after) => post result after

namespace Ends

variable {exec : (op : Op) → σ → Option (Res op × σ)} {waits : Prop}
  {post : Except ε α → σ → Prop} {state : σ}

theorem done {result : Except ε α} (holds : post result state)
    : Ends exec waits post (.done result) state :=
  holds

theorem call {op : Op} {next : Res op → Program Op Res ε α}
    (stuck : exec op state = none → waits)
    (rest
      : ∀ answer after,
          exec op state = some (answer, after) → Ends exec waits post (next answer) after)
    : Ends exec waits post (.call op next) state := by
  unfold Ends
  simp only [Program.run]
  cases answered : exec op state with
  | none => exact stuck answered
  | some reply => exact rest reply.1 reply.2 answered

/-- A program that does not wait has a result. -/
theorem result {program : Program Op Res ε α} (ends : Ends exec waits post program state)
    (moves : ¬ waits)
    : ∃ outcome after, program.run exec state = some (outcome, after) ∧ post outcome after := by
  unfold Ends at ends
  split at ends
  · exact absurd ends moves
  · rename_i outcome after ran
    exact ⟨outcome, after, ran, ends⟩

theorem post_of_run {program : Program Op Res ε α} (ends : Ends exec waits post program state)
    {outcome : Except ε α} {after : σ} (ran : program.run exec state = some (outcome, after))
    : post outcome after := by
  unfold Ends at ends
  rw [ran] at ends
  exact ends

theorem mono {program : Program Op Res ε α} {weaker : Except ε α → σ → Prop}
    (ends : Ends exec waits post program state)
    (implies : ∀ result after, post result after → weaker result after)
    : Ends exec waits weaker program state := by
  unfold Ends at ends ⊢
  split at ends
  · exact ends
  · exact implies _ _ ends

/-- Sequencing, by induction on the first program. -/
theorem bind {program : Program Op Res ε α} {next : α → Program Op Res ε β}
    {last : Except ε β → σ → Prop} (first : Ends exec waits post program state)
    (rest
      : ∀ value after, post (.ok value) after → Ends exec waits last (next value) after)
    (failed : ∀ failure after, post (.error failure) after → last (.error failure) after)
    : Ends exec waits last (program >>= next) state := by
  induction program generalizing state with
  | done result =>
      cases result with
      | ok value => exact rest value state first
      | error failure => exact failed failure state first
  | call op more ih =>
      rw [Program.bind_call]
      unfold Ends at first
      simp only [Program.run] at first
      apply Ends.call
      · intro stuck
        rw [stuck] at first
        exact first
      · intro answer after answered
        rw [answered] at first
        exact ih answer first

/-- Handlers, by induction on the guarded program. -/
theorem tryCatch {program : Program Op Res ε α} {handler : ε → Program Op Res ε α}
    {last : Except ε α → σ → Prop} (first : Ends exec waits post program state)
    (returned : ∀ value after, post (.ok value) after → last (.ok value) after)
    (handled
      : ∀ failure after,
          post (.error failure) after → Ends exec waits last (handler failure) after)
    : Ends exec waits last (MonadExcept.tryCatch program handler) state := by
  induction program generalizing state with
  | done result =>
      cases result with
      | ok value => exact returned value state first
      | error failure => exact handled failure state first
  | call op more ih =>
      rw [Program.tryCatch_call]
      unfold Ends at first
      simp only [Program.run] at first
      apply Ends.call
      · intro stuck
        rw [stuck] at first
        exact first
      · intro answer after answered
        rw [answered] at first
        exact ih answer first

end Ends

-----------------------------------------------------------------------------------------
-- Programs that return
-----------------------------------------------------------------------------------------

/-- Alone from `state` the program returns the value and leaves the state `after`. -/
def Returns (exec : (op : Op) → σ → Option (Res op × σ)) (program : Program Op Res ε α)
    (state : σ) (value : α) (after : σ)
    : Prop :=
  program.run exec state = some (.ok value, after)

namespace Returns

variable {exec : (op : Op) → σ → Option (Res op × σ)} {state after : σ} {value : α}

theorem pure_iff {given : α}
    : Returns exec (Pure.pure given : Program Op Res ε α) state value after
      ↔ given = value ∧ state = after := by
  simp [Returns, Program.run]

theorem throw_iff {failure : ε}
    : Returns exec (MonadExcept.throw failure : Program Op Res ε α) state value after ↔ False := by
  simp [Returns, Program.run]

theorem ofExcept_iff {result : Except ε α}
    : Returns exec (Program.ofExcept result : Program Op Res ε α) state value after
      ↔ result = .ok value ∧ state = after := by
  simp [Returns, Program.run, Program.ofExcept]

theorem perform_iff {op : Op} {answer : Res op}
    : Returns exec (Program.perform op : Program Op Res ε (Res op)) state answer after
      ↔ exec op state = some (answer, after) := by
  unfold Returns Program.perform
  simp only [Program.run]
  cases exec op state with
  | none => simp
  | some reply => simp [Prod.ext_iff]

/-- By induction on the first program. -/
theorem bind_iff {program : Program Op Res ε α} {next : α → Program Op Res ε β} {last : β}
    : Returns exec (program >>= next) state last after
      ↔ ∃ value middle,
          Returns exec program state value middle
          ∧ Returns exec (next value) middle last after := by
  induction program generalizing state with
  | done result =>
      cases result with
      | ok given =>
          refine ⟨fun returned => ⟨given, state, rfl, returned⟩, ?_⟩
          rintro ⟨value, middle, same, returned⟩
          obtain ⟨rfl, rfl⟩ := pure_iff.mp same
          exact returned
      | error failure => simp [Returns, Program.run]
  | call op rest ih =>
      rw [Program.bind_call]
      unfold Returns at ih ⊢
      simp only [Program.run]
      cases exec op state with
      | none => simp
      | some reply => exact ih reply.1

/-- A handler that never returns does not matter. By induction on the guarded program. -/
theorem tryCatch_iff {program : Program Op Res ε α} {handler : ε → Program Op Res ε α}
    (fails
      : ∀ failure middle value after, ¬ Returns exec (handler failure) middle value after)
    : Returns exec (MonadExcept.tryCatch program handler) state value after
      ↔ Returns exec program state value after := by
  induction program generalizing state with
  | done result =>
      cases result with
      | ok given => rfl
      | error failure =>
          refine ⟨fun handled => absurd handled (fails failure _ _ _), fun returned => ?_⟩
          simp [Returns, Program.run] at returned
  | call op rest ih =>
      rw [Program.tryCatch_call]
      unfold Returns at ih ⊢
      simp only [Program.run]
      cases exec op state with
      | none => rfl
      | some reply => exact ih reply.1

/-- A sequence raises in its first program, or after it returned. By induction on the first
program. -/
theorem bind_raises {program : Program Op Res ε α} {next : α → Program Op Res ε β} {failure : ε}
    (raised : (program >>= next).run exec state = some (.error failure, after))
    : program.run exec state = some (.error failure, after)
      ∨ ∃ value middle,
          Returns exec program state value middle
          ∧ (next value).run exec middle = some (.error failure, after) := by
  induction program generalizing state with
  | done result =>
      cases result with
      | ok value => exact .inr ⟨value, state, rfl, raised⟩
      | error other =>
          obtain ⟨same, rfl⟩ := Prod.mk.inj (Option.some.inj raised)
          obtain rfl := Except.error.inj same
          exact .inl rfl
  | call op rest ih =>
      rw [Program.bind_call] at raised
      unfold Returns at ih ⊢
      simp only [Program.run] at ih raised ⊢
      cases answered : exec op state with
      | none => simp [answered] at raised
      | some reply =>
          simp only [answered] at raised
          exact ih reply.1 raised

/-- Either the guarded program returns, or the handler of what it raises. By induction on the
guarded program. -/
theorem tryCatch_cases {program : Program Op Res ε α} {handler : ε → Program Op Res ε α}
    (returned : Returns exec (MonadExcept.tryCatch program handler) state value after)
    : Returns exec program state value after
      ∨ ∃ failure middle,
          program.run exec state = some (.error failure, middle)
          ∧ Returns exec (handler failure) middle value after := by
  induction program generalizing state with
  | done result =>
      cases result with
      | ok given => exact .inl returned
      | error failure => exact .inr ⟨failure, state, rfl, returned⟩
  | call op rest ih =>
      rw [Program.tryCatch_call] at returned
      unfold Returns at ih returned ⊢
      simp only [Program.run] at ih returned ⊢
      cases answered : exec op state with
      | none => simp [answered] at returned
      | some reply =>
          simp only [answered] at returned
          exact ih reply.1 returned

/-- Where a guarded program raises, its handler does. By induction on the guarded program. -/
theorem tryCatch_raises {program : Program Op Res ε α} {handler : ε → Program Op Res ε α}
    {failure : ε}
    (raised
      : (MonadExcept.tryCatch program handler).run exec state = some (.error failure, after))
    : ∃ first middle,
        program.run exec state = some (.error first, middle)
        ∧ (handler first).run exec middle = some (.error failure, after) := by
  induction program generalizing state with
  | done result =>
      cases result with
      | ok given => simp [Program.run] at raised
      | error first => exact ⟨first, state, rfl, raised⟩
  | call op rest ih =>
      rw [Program.tryCatch_call] at raised
      simp only [Program.run] at ih raised ⊢
      cases answered : exec op state with
      | none => simp [answered] at raised
      | some reply =>
          simp only [answered] at raised
          exact ih reply.1 raised

end Returns

end Concurrency
