import Mathlib.Logic.Relation

/-! Programs that talk to an environment one atomic operation at a time.
A program is a finite tree: each node is one operation together with the continuation for
every answer, so the same tree can be run alone or interleaved with other programs.
-/

namespace Concurrency

/-- A program that ends in a value or an exception after finitely many operations.
`Res op` is the type of the environment's answer to `op`.
-/
inductive Program (Op : Type) (Res : Op → Type) (ε α : Type) where
  | done (result : Except ε α)
  | call (op : Op) (next : Res op → Program Op Res ε α)

namespace Program

variable {Op : Type} {Res : Op → Type} {ε α β γ σ : Type}

def bind (program : Program Op Res ε α) (next : α → Program Op Res ε β)
    : Program Op Res ε β :=
  match program with
  | done (.ok value) => next value
  | done (.error failure) => done (.error failure)
  | call op rest => call op (fun answer => (rest answer).bind next)

/-- Run a program and hand any exception to `handler`. -/
def tryCatch (program : Program Op Res ε α) (handler : ε → Program Op Res ε α)
    : Program Op Res ε α :=
  match program with
  | done (.ok value) => done (.ok value)
  | done (.error failure) => handler failure
  | call op rest => call op (fun answer => (rest answer).tryCatch handler)

instance : Monad (Program Op Res ε) where
  pure value := done (.ok value)
  bind := bind

instance : MonadExceptOf ε (Program Op Res ε) where
  throw failure := done (.error failure)
  tryCatch := tryCatch

/-- The program that makes one operation and returns its answer. -/
def perform (op : Op) : Program Op Res ε (Res op) :=
  call op (fun answer => done (.ok answer))

/-- Raise the error of a failed pure computation, or continue with its value. -/
def ofExcept (result : Except ε α) : Program Op Res ε α :=
  done result

@[simp] theorem pure_eq (value : α) : (pure value : Program Op Res ε α) = done (.ok value) :=
  rfl

@[simp] theorem throw_eq (failure : ε)
    : (throw failure : Program Op Res ε α) = done (.error failure) :=
  rfl

@[simp] theorem bind_ok (value : α) (next : α → Program Op Res ε β)
    : (done (.ok value) >>= next) = next value :=
  rfl

@[simp] theorem bind_error (failure : ε) (next : α → Program Op Res ε β)
    : (done (.error failure) >>= next) = done (.error failure) :=
  rfl

@[simp] theorem bind_call (op : Op) (rest : Res op → Program Op Res ε α)
    (next : α → Program Op Res ε β)
    : (call op rest >>= next) = call op (fun answer => rest answer >>= next) :=
  rfl

@[simp] theorem perform_bind (op : Op) (next : Res op → Program Op Res ε β)
    : (perform op >>= next) = call op next :=
  rfl

@[simp] theorem tryCatch_ok (value : α) (handler : ε → Program Op Res ε α)
    : (MonadExcept.tryCatch (done (.ok value) : Program Op Res ε α) handler)
      = done (.ok value) :=
  rfl

@[simp] theorem tryCatch_error (failure : ε) (handler : ε → Program Op Res ε α)
    : (MonadExcept.tryCatch (done (.error failure) : Program Op Res ε α) handler)
      = handler failure :=
  rfl

@[simp] theorem tryCatch_call (op : Op) (rest : Res op → Program Op Res ε α)
    (handler : ε → Program Op Res ε α)
    : (MonadExcept.tryCatch (call op rest) handler)
      = call op (fun answer => MonadExcept.tryCatch (rest answer) handler) :=
  rfl

-----------------------------------------------------------------------------------------
-- Running a program alone
-----------------------------------------------------------------------------------------

/-- Run `program` alone against an environment that answers deterministically from its
state. `none` means that some operation was refused (it would wait for ever).
-/
def run (exec : (op : Op) → σ → Option (Res op × σ))
    : Program Op Res ε α → σ → Option (Except ε α × σ)
  | done result, state => some (result, state)
  | call op next, state =>
      match exec op state with
      | none => none
      | some (answer, state') => (next answer).run exec state'

/-- A final computation changes the result only. By induction on the program. -/
theorem run_map (exec : (op : Op) → σ → Option (Res op × σ)) (program : Program Op Res ε α)
    (f : α → β) (state : σ)
    : (program >>= fun value => pure (f value)).run exec state
      = (program.run exec state).map (fun ended => (ended.1.map f, ended.2)) := by
  induction program generalizing state with
  | done result => cases result <;> rfl
  | call op rest ih =>
      rw [bind_call]
      simp only [run]
      cases exec op state with
      | none => rfl
      | some reply => exact ih reply.1 reply.2

end Program

end Concurrency
