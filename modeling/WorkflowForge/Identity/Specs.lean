import WorkflowForge.Identity.Steps

/-! Specifications of session programs, and the operations of the environment.
An assertion is tame when neither the other calls nor quiet steps of its own call falsify it.
-/

namespace WorkflowForge.Identity

open Python Transactions Concurrency

section Tame

variable (services : Services) (regime : Regime) (i : Nat)

/-- A program from states with `pre` ends in `value` or, raising, in `raised`. -/
abbrev Spec {α : Type} (pre : World → Prop) (program : App α) (value : α → World → Prop)
    (raised : Fault → World → Prop)
    : Prop :=
  Triple exec (discipline services regime) i pre program (returns value raised)

/-- `assertion` survives everything that keeps the things of call `i`. -/
def Tame (assertion : World → Prop) : Prop :=
  ∀ before after,
    Invariant services regime.toFlags before
    → Keeps regime.toFlags i before after
    → assertion before
    → assertion after

end Tame

variable {services : Services} {regime : Regime} {i : Nat} {α β : Type}

-----------------------------------------------------------------------------------------
-- Tame assertions
-----------------------------------------------------------------------------------------

theorem Tame.stable {assertion : World → Prop} (tame : Tame services regime i assertion)
    : (discipline services regime).Stable i assertion := by
  intro before now invariant _ interference holds
  exact tame before now invariant.1 interference.1 holds

theorem Tame.const (fact : Prop) : Tame services regime i (fun _ => fact) :=
  fun _ _ _ _ holds => holds

theorem Tame.and {first second : World → Prop} (left : Tame services regime i first)
    (right : Tame services regime i second)
    : Tame services regime i (fun world => first world ∧ second world) :=
  fun before after invariant keeps holds =>
    ⟨left before after invariant keeps holds.1, right before after invariant keeps holds.2⟩

theorem Tame.or {first second : World → Prop} (left : Tame services regime i first)
    (right : Tame services regime i second)
    : Tame services regime i (fun world => first world ∨ second world) :=
  fun before after invariant keeps holds =>
    holds.imp (left before after invariant keeps) (right before after invariant keeps)

theorem Tame.imp {fact : Prop} {assertion : World → Prop}
    (tame : fact → Tame services regime i assertion)
    : Tame services regime i (fun world => fact → assertion world) :=
  fun before after invariant keeps holds known =>
    tame known before after invariant keeps (holds known)

theorem Tame.all {ι : Sort _} {assertion : ι → World → Prop}
    (tame : ∀ x, Tame services regime i (assertion x))
    : Tame services regime i (fun world => ∀ x, assertion x world) :=
  fun before after invariant keeps holds x => tame x before after invariant keeps (holds x)

theorem Tame.ex {ι : Sort _} {assertion : ι → World → Prop}
    (tame : ∀ x, Tame services regime i (assertion x))
    : Tame services regime i (fun world => ∃ x, assertion x world) :=
  fun before after invariant keeps ⟨x, holds⟩ =>
    ⟨x, tame x before after invariant keeps holds⟩

/-- The uncommitted writes of a call are its own. -/
theorem Tame.own (assertion : List (Write schema) → Prop)
    : Tame services regime i (fun world => assertion (world.own i)) := by
  intro before after _ keeps holds
  rw [keeps.own]
  exact holds

/-- A row that the call has written stays as it is committed. -/
theorem Keeps.written {flags : Flags} {before after : World}
    (keeps : Keeps flags i before after) (invariant : Invariant services flags before)
    {write : Write schema} (member : write ∈ before.own i) {t : TableName} {k : UUID}
    (target : write.target = (t, k))
    : after.committed.find? t k = before.committed.find? t k := by
  have lock := invariant.coherent.covered i write (Store.mem_own.mp member)
  rw [target] at lock
  exact keeps.rows t k lock

theorem Tame.withheld : Tame services regime i (fun world => world.Withheld i) :=
  fun _ _ _ keeps holds => keeps.withheld holds

theorem Tame.pruned : Tame services regime i (fun world => world.Pruned i) :=
  fun _ _ _ keeps holds => keeps.pruned holds

theorem Tame.dead (k : UUID) : Tame services regime i (fun world => world.Dead k) :=
  fun _ _ _ keeps holds => keeps.dead k holds

theorem Tame.untaken (k : UUID) : Tame services regime i (fun world => world.Untaken i k) :=
  fun _ _ _ keeps holds => keeps.untaken k holds

theorem Tame.chased (settles : regime.settles) (session : UUID) (rest : List UUID)
    : Tame services regime i (fun world => world.Chased i session rest) :=
  fun _ _ _ keeps holds => keeps.chased settles session rest holds

theorem Tame.drawnBy (k : UUID) : Tame services regime i (fun world => world.DrawnBy i k) :=
  fun _ _ _ keeps holds => holds.mono keeps.ids keeps.drawn

theorem Tame.generatedBy (digest : RefreshTokenDigest)
    : Tame services regime i (fun world => world.GeneratedBy services i digest) :=
  fun _ _ _ keeps holds => holds.mono keeps.tokens keeps.generated

theorem Tame.mintedSession (entry : Nat × AuthSession)
    : Tame services regime i (fun world => entry ∈ world.mintedSessions) :=
  fun _ _ _ keeps holds => keeps.mintedSessions holds

theorem Tame.mintedToken (entry : Nat × RefreshTokenRecord)
    : Tame services regime i (fun world => entry ∈ world.mintedTokens) :=
  fun _ _ _ keeps holds => keeps.mintedTokens holds

theorem Tame.noSession
    : Tame services regime i (fun world => ∀ row, (i, row) ∉ world.mintedSessions) :=
  fun _ _ _ keeps holds row member => holds row (keeps.ownSessions row member)

theorem Tame.noToken
    : Tame services regime i (fun world => ∀ row, (i, row) ∉ world.mintedTokens) :=
  fun _ _ _ keeps holds row member => holds row (keeps.ownTokens row member)

theorem Tame.opened (db : Database)
    : Tame services regime i (fun world => (world.store.history i).opened = some db) :=
  fun _ _ _ keeps holds => keeps.opened db holds

/-- Without DELETEs a session stays. -/
theorem Tame.session (lasting : ¬ regime.deletes) (k : UUID) (session : AuthSession)
    : Tame services regime i (fun world =>
        ∃ row, sessionAt world.committed k = some row ∧ row.Alike session) := by
  intro before after _ keeps ⟨row, found, alike⟩
  obtain ⟨later, found', alike'⟩ := keeps.sessions lasting k row found
  exact ⟨later, found', alike'.trans alike⟩

theorem Keeps.home {flags : Flags} {before after : World} (keeps : Keeps flags i before after)
    {user : UUID} (known : hasUser before.committed user = true)
    : hasUser after.committed user = true := by
  unfold hasUser at known ⊢
  rw [keeps.users]
  exact known

-----------------------------------------------------------------------------------------
-- Rules
-----------------------------------------------------------------------------------------

/-- A returned value. -/
theorem Spec.pure {pre : World → Prop} {value : α → World → Prop}
    {raised : Fault → World → Prop} {result : α} (tame : Tame services regime i pre)
    (holds : ∀ world, pre world → value result world)
    : Spec services regime i pre (Program.done (.ok result)) value raised :=
  Triple.done tame.stable (fun world _ known => holds world known)

/-- A raised fault. -/
theorem Spec.throw {pre : World → Prop} {value : α → World → Prop}
    {raised : Fault → World → Prop} {failure : Fault} (tame : Tame services regime i pre)
    (holds : ∀ world, pre world → raised failure world)
    : Spec services regime i pre (Program.done (.error failure)) value raised :=
  Triple.done tame.stable (fun world _ known => holds world known)

theorem Spec.bind {pre : World → Prop} {middle : α → World → Prop}
    {value : β → World → Prop} {raised : Fault → World → Prop} {program : App α}
    {next : α → App β} (first : Spec services regime i pre program middle raised)
    (second : ∀ result, Spec services regime i (middle result) (next result) value raised)
    : Spec services regime i pre (program >>= next) value raised :=
  Triple.bind (discipline_coherent services regime).toOrdered first second
    (fun _ _ _ known => known)

theorem Spec.weaken {pre stronger : World → Prop} {value weaker : α → World → Prop}
    {raised known : Fault → World → Prop} {program : App α}
    (spec : Spec services regime i pre program value raised)
    (before : ∀ world, stronger world → pre world)
    (after : ∀ result world, value result world → weaker result world)
    (failed : ∀ failure world, raised failure world → known failure world)
    : Spec services regime i stronger program weaker known := by
  apply Triple.consequence spec (fun world _ holds => before world holds)
  intro result world _ holds
  cases result with
  | ok result => exact after result world holds
  | error failure => exact failed failure world holds

/-- Raise the error of a pure computation or go on with its value. -/
theorem Spec.lift {pre : World → Prop} {value : α → World → Prop}
    {raised : Fault → World → Prop} {result : Except Fault α}
    (tame : Tame services regime i pre)
    (ok : ∀ value', result = .ok value' → ∀ world, pre world → value value' world)
    (error : ∀ failure, result = .error failure → ∀ world, pre world → raised failure world)
    : Spec services regime i pre (liftExcept result) value raised := by
  cases result with
  | ok value' => exact Spec.pure tame (ok value' rfl)
  | error failure => exact Spec.throw tame (error failure rfl)

/-- A precondition that contradicts itself. -/
theorem Spec.absurd {pre : World → Prop} {value : α → World → Prop}
    {raised : Fault → World → Prop} {program : App α} (never : ∀ world, ¬ pre world)
    : Spec services regime i pre program value raised :=
  fun state _ holds => (never state holds).elim

/-- A fact that does not depend on the state can be taken out of the precondition. -/
theorem Spec.given {fact : Prop} {pre : World → Prop} {value : α → World → Prop}
    {raised : Fault → World → Prop} {program : App α}
    (spec : fact → Spec services regime i pre program value raised)
    : Spec services regime i (fun world => fact ∧ pre world) program value raised :=
  fun state invariant holds => spec holds.1 state invariant holds.2

/-- What the invariant implies may be added to the precondition. -/
theorem Spec.learn {pre more : World → Prop} {value : α → World → Prop}
    {raised : Fault → World → Prop} {program : App α}
    (known : ∀ world, Invariant services regime.toFlags world → pre world → more world)
    (spec : Spec services regime i (fun world => pre world ∧ more world) program value raised)
    : Spec services regime i pre program value raised :=
  fun state invariant holds => spec state invariant ⟨holds, known state invariant.1 holds⟩

/-- A fact that does not depend on the state, from the precondition. -/
theorem Spec.fact {fact : Prop} {pre : World → Prop} {value : α → World → Prop}
    {raised : Fault → World → Prop} {program : App α}
    (known : ∀ world, Invariant services regime.toFlags world → pre world → fact)
    (spec : fact → Spec services regime i pre program value raised)
    : Spec services regime i pre program value raised :=
  Triple.of_state (fun state invariant holds => spec (known state invariant.1 holds))

/-- A witness of the precondition may be fixed. -/
theorem Spec.exists {ι : Type} {pre : ι → World → Prop} {value : α → World → Prop}
    {raised : Fault → World → Prop} {program : App α}
    (spec : ∀ x, Spec services regime i (pre x) program value raised)
    : Spec services regime i (fun world => ∃ x, pre x world) program value raised :=
  fun state invariant ⟨x, holds⟩ => spec x state invariant holds

/-- A computed value: the program goes on with it, or raises. -/
theorem Spec.lifted {pre : World → Prop} {value : β → World → Prop}
    {raised : Fault → World → Prop} {result : Except Fault α} {next : α → App β}
    (tame : Tame services regime i pre)
    (ok : ∀ made, result = .ok made → Spec services regime i pre (next made) value raised)
    (error : ∀ failure, result = .error failure → ∀ world, pre world → raised failure world)
    : Spec services regime i pre (liftExcept result >>= next) value raised := by
  cases made : result with
  | ok x => exact ok x made
  | error failure => exact Spec.throw tame (error failure made)

/-- What no operation falsifies may be framed around a program. -/
theorem Spec.frame {pre lasting : World → Prop} {value : α → World → Prop}
    {raised : Fault → World → Prop} {program : App α}
    (tame : Tame services regime i lasting)
    (kept
      : ∀ op now answer after,
          Invariant services regime.toFlags now
          → exec i op now = some (answer, after)
          → lasting now
          → lasting after)
    (spec : Spec services regime i pre program value raised)
    : Spec services regime i (fun world => pre world ∧ lasting world) program
        (fun result world => value result world ∧ lasting world)
        (fun failure world => raised failure world ∧ lasting world) := by
  intro state invariant holds
  have framed := Safe.frame tame.stable
    (fun op now answer after sound => kept op now answer after sound.1) invariant holds.2
    (spec state invariant holds.1)
  refine framed.mono ?_
  intro result now _ facts
  cases result with
  | ok result => exact facts
  | error failure => exact facts

/-- A quiet operation: what was known stays known. -/
theorem Spec.quiet {pre : World → Prop} {op : Op} {answered : op.Answer → World → Prop}
    {raised : Fault → World → Prop} (tame : Tame services regime i pre)
    (tame' : ∀ answer, Tame services regime i (answered answer))
    (step
      : ∀ world answer after,
          Invariant services regime.toFlags world
          → regime.also world
          → pre world
          → regime.admits i op world
          → exec i op world = some (answer, after)
          → Quiet world after
            ∧ (∀ j, j ≠ i → after.store.history j = world.store.history j)
            ∧ answered answer after)
    : Spec services regime i pre (perform op)
        (fun answer world => pre world ∧ answered answer world) raised := by
  have lasting : ∀ answer,
      (discipline services regime).Stable i (fun world => pre world ∧ answered answer world) :=
    fun answer => (tame.and (tame' answer)).stable
  refine Triple.perform tame.stable lasting ?_ (fun _ _ _ known => known)
  intro now answer after invariant holds admitted ran
  obtain ⟨quiet, others, known⟩ :=
    step now answer after invariant.1 invariant.2 holds admitted ran
  have kept : Keeps regime.toFlags i now after := quiet.keeps i
  refine ⟨⟨quiet.invariant invariant.1, regime.also_kept i now after kept invariant.2⟩,
    ?_, tame now after invariant.1 kept holds, known⟩
  intro j different
  exact ⟨quiet.keeps j, others j different⟩

/-- A staging operation: the assertions before and after it are about different writes. -/
theorem Spec.staging {pre : World → Prop} {op : Op} {answered : op.Answer → World → Prop}
    {raised : Fault → World → Prop} (tame : Tame services regime i pre)
    (tame' : ∀ answer, Tame services regime i (answered answer))
    (step
      : ∀ world answer after,
          Invariant services regime.toFlags world
          → regime.also world
          → pre world
          → regime.admits i op world
          → exec i op world = some (answer, after)
          → Invariant services regime.toFlags after
            ∧ (∀ j, j ≠ i → Leaves regime.toFlags j world after)
            ∧ answered answer after)
    : Spec services regime i pre (perform op) answered raised := by
  have lasting : ∀ answer, (discipline services regime).Stable i (answered answer) :=
    fun answer => (tame' answer).stable
  refine Triple.perform tame.stable lasting ?_ (fun _ _ _ known => known)
  intro now answer after invariant holds admitted ran
  obtain ⟨kept, leaves, known⟩ :=
    step now answer after invariant.1 invariant.2 holds admitted ran
  have other : Leaves regime.toFlags (i + 1) now after := leaves (i + 1) (Nat.succ_ne_self i)
  exact ⟨⟨kept, regime.also_kept (i + 1) now after other.1 invariant.2⟩, leaves, known⟩

end WorkflowForge.Identity
