import WorkflowForge.Documents.Sessions

/-! Specifications of the methods that run in a session.
What a session knows is durable or a shape of its current transaction: durable knowledge
survives every step, a shape survives the steps of others and the silent steps of its own.
-/

namespace WorkflowForge

open Python Transactions Concurrency

variable {u : Unicode} {regime : Regime} {i : Nat}

/-- What every step does, of the session or of another one. -/
structure Progress (strict : Prop) (i : Nat) (before after : World) : Prop
    extends Advances strict before after where
  log : (before.store.history i).log <+: (after.store.history i).log

/-- Knowledge that no step can destroy. -/
def Durable (regime : Regime) (i : Nat) (known : World → Prop) : Prop :=
  ∀ before after, Progress regime.strict i before after → known before → known after

/-- A step that commits nothing of the session and leaves alone what the session owns. -/
structure Calm (strict : Prop) (i : Nat) (before after : World) : Prop
    extends Advances strict before after where
  log : (after.store.history i).log = (before.store.history i).log
  locks : ∀ row, (i, row) ∈ before.store.locks → (i, row) ∈ after.store.locks
  rows
    : ∀ t k,
        (i, t, k) ∈ before.store.locks
        → after.store.committed.find? t k = before.store.committed.find? t k
  versions
    : ∀ id,
        before.DrawnBy i id
        → after.store.committed.find? .documentVersions id
          = before.store.committed.find? .documentVersions id
  absent
    : ∀ t id,
        t.written = true
        → before.DrawnBy i id
        → before.store.committed.find? t id = none
        → after.store.committed.find? t id = none
  finals : ∀ key, before.Owns i key → after.object? key = before.object? key

/-- A calm step after which the session has the same writes and temporary objects. -/
structure Rested (strict : Prop) (i : Nat) (before after : World) : Prop
    extends Calm strict i before after where
  own : after.store.own i = before.store.own i
  temps : ∀ key, before.Uploads i key → after.object? key = before.object? key

/-- A shape of the current transaction. -/
def Steady (u : Unicode) (regime : Regime) (i : Nat) (shape : World → Prop) : Prop :=
  ∀ before after,
    Sane u regime before
    → Sane u regime after
    → Rested regime.strict i before after
    → shape before
    → shape after

/-- A shape that does not depend on the session's temporary objects. -/
def Firm (u : Unicode) (regime : Regime) (i : Nat) (shape : World → Prop) : Prop :=
  ∀ before after,
    Sane u regime before
    → Sane u regime after
    → Calm regime.strict i before after
    → after.store.own i = before.store.own i
    → shape before
    → shape after

/-- A shape that does not depend on the session's uncommitted writes. -/
def Framed (u : Unicode) (regime : Regime) (i : Nat) (shape : World → Prop) : Prop :=
  ∀ before after,
    Sane u regime before
    → Sane u regime after
    → Calm regime.strict i before after
    → (∀ key, before.Uploads i key → after.object? key = before.object? key)
    → shape before
    → shape after

theorem Firm.steady {shape : World → Prop} (firm : Firm u regime i shape)
    : Steady u regime i shape :=
  fun before after sane sane' rested holds =>
    firm before after sane sane' rested.toCalm rested.own holds

theorem Framed.steady {shape : World → Prop} (framed : Framed u regime i shape)
    : Steady u regime i shape :=
  fun before after sane sane' rested holds =>
    framed before after sane sane' rested.toCalm rested.temps holds

theorem Steady.and {first second : World → Prop} (left : Steady u regime i first)
    (right : Steady u regime i second)
    : Steady u regime i (fun world => first world ∧ second world) :=
  fun before after sane sane' rested holds =>
    ⟨left before after sane sane' rested holds.1, right before after sane sane' rested holds.2⟩

theorem Firm.and {first second : World → Prop} (left : Firm u regime i first)
    (right : Firm u regime i second)
    : Firm u regime i (fun world => first world ∧ second world) :=
  fun before after sane sane' calm own holds =>
    ⟨left before after sane sane' calm own holds.1,
      right before after sane sane' calm own holds.2⟩

theorem Firm.const (fact : Prop) : Firm u regime i (fun _ => fact) :=
  fun _ _ _ _ _ _ holds => holds

theorem Framed.const (fact : Prop) : Framed u regime i (fun _ => fact) :=
  fun _ _ _ _ _ _ holds => holds

/-- A fact about the session's writes. -/
theorem Firm.own (pending : List (Write schema) → Prop)
    : Firm u regime i (fun world => pending (world.store.own i)) := by
  intro before after _ _ _ same holds
  simp only [same]
  exact holds

theorem Progress.of_calm {strict : Prop} {before after : World}
    (calm : Calm strict i before after)
    : Progress strict i before after :=
  ⟨calm.toAdvances, by rw [calm.log]⟩

theorem Interference.rested {strict : Prop} {before after : World}
    (interference : Interference strict i before after)
    : Rested strict i before after where
  toAdvances := interference.toAdvances
  log := by rw [interference.store.history]
  locks row lock := (interference.store.locks row).mpr lock
  rows := interference.store.rows
  versions := interference.versions
  absent := interference.absent
  finals := interference.finals
  own := interference.store.own
  temps := interference.temps

/-- An own step that only touches the session's writes, locks and notes. -/
theorem Calm.of_advances {strict : Prop} {before after : World}
    (advances : Advances strict before after)
    (committed : after.store.committed = before.store.committed)
    (log : (after.store.history i).log = (before.store.history i).log)
    (locks : ∀ row, (i, row) ∈ before.store.locks → (i, row) ∈ after.store.locks)
    (finals : ∀ key, before.Owns i key → after.object? key = before.object? key)
    : Calm strict i before after where
  toAdvances := advances
  log := log
  locks := locks
  rows _ _ _ := by rw [committed]
  versions _ _ := by rw [committed]
  absent _ _ _ _ none := by rw [committed]; exact none
  finals := finals

theorem Durable.const (regime : Regime) (i : Nat) (fact : Prop)
    : Durable regime i (fun _ => fact) :=
  fun _ _ _ holds => holds

theorem Durable.and {first second : World → Prop} (left : Durable regime i first)
    (right : Durable regime i second)
    : Durable regime i (fun world => first world ∧ second world) :=
  fun before after progress holds =>
    ⟨left before after progress holds.1, right before after progress holds.2⟩

theorem Durable.exists {α : Type} {known : α → World → Prop}
    (each : ∀ value, Durable regime i (known value))
    : Durable regime i (fun world => ∃ value, known value world) :=
  fun before after progress ⟨value, holds⟩ => ⟨value, each value before after progress holds⟩

theorem Durable.forall {α : Type} {known : α → World → Prop}
    (each : ∀ value, Durable regime i (known value))
    : Durable regime i (fun world => ∀ value, known value world) :=
  fun before after progress holds value => each value before after progress (holds value)

theorem Durable.implies {fact : Prop} {known : World → Prop}
    (durable : Durable regime i known)
    : Durable regime i (fun world => fact → known world) :=
  fun before after progress holds given => durable before after progress (holds given)

theorem Durable.framed {known : World → Prop} (durable : Durable regime i known)
    : Framed u regime i known :=
  fun before after _ _ calm _ holds => durable before after (.of_calm calm) holds

theorem Durable.firm {known : World → Prop} (durable : Durable regime i known)
    : Firm u regime i known :=
  fun before after _ _ calm _ holds => durable before after (.of_calm calm) holds

-----------------------------------------------------------------------------------------
-- Specifications
-----------------------------------------------------------------------------------------

/-- What a method needs to know, the shape it starts in, what it learns, and the shapes it
leaves when it returns and when it raises. -/
def Spec {α : Type} (u : Unicode) (regime : Regime) (i : Nat) (needs shape : World → Prop)
    (method : App α) (facts left : α → World → Prop) (failed : World → Prop)
    : Prop :=
  ∀ known,
    Durable regime i known
    → (∀ world, known world → needs world)
    → Triple exec (sessions u regime) i (fun world => known world ∧ shape world) method
        (returns (fun result world => (known world ∧ facts result world) ∧ left result world)
          (fun _ world => known world ∧ failed world))

/-- A method that keeps every shape. -/
def Silent {α : Type} (u : Unicode) (regime : Regime) (i : Nat) (needs : World → Prop)
    (method : App α) (facts : α → World → Prop)
    : Prop :=
  ∀ shape,
    Steady u regime i shape
    → Spec u regime i needs shape method facts (fun _ => shape) shape

section Rules

variable {α β : Type} {needs shape failed : World → Prop}

theorem stable_of_steady {known : World → Prop} (durable : Durable regime i known)
    (steady : Steady u regime i shape)
    : (sessions u regime).Stable i (fun world => known world ∧ shape world) := by
  intro before now sane sane' interference holds
  have rested := interference.rested
  exact ⟨durable before now (.of_calm rested.toCalm) holds.1,
    steady before now sane sane' rested holds.2⟩

theorem Spec.returned {value : α} {facts : α → World → Prop} (left : α → World → Prop)
    (steady : Steady u regime i (left value))
    (holds : ∀ world, needs world → facts value world)
    : Spec u regime i needs (left value) (pure value) facts left failed := by
  intro known durable enough
  rw [Program.pure_eq]
  refine Triple.done (stable_of_steady durable steady) ?_
  intro world _ held
  exact ⟨⟨held.1, holds world (enough world held.1)⟩, held.2⟩

theorem Spec.pure {value : α} {facts : α → World → Prop} (steady : Steady u regime i shape)
    (holds : ∀ world, needs world → facts value world)
    : Spec u regime i needs shape (pure value) facts (fun _ => shape) failed :=
  Spec.returned (fun _ => shape) steady holds

/-- Returning a value that is known from then on. -/
theorem Spec.value {value : α} (steady : Steady u regime i shape)
    : Spec u regime i needs shape (Pure.pure value) (fun result _ => result = value)
        (fun _ => shape) failed :=
  Spec.pure steady (fun _ _ => rfl)

theorem Spec.throw {failure : Exn} {facts left : α → World → Prop}
    (steady : Steady u regime i shape)
    : Spec u regime i needs shape (throw failure) facts left shape := by
  intro known durable _
  rw [Program.throw_eq]
  exact Triple.done (stable_of_steady durable steady) (fun _ _ held => held)

theorem Spec.bind {method : App α} {next : α → App β} {middle left : α → World → Prop}
    {facts final : β → World → Prop} (lasting : ∀ value, Durable regime i (middle value))
    (first : Spec u regime i needs shape method middle left failed)
    (second
      : ∀ value,
          Spec u regime i (fun world => needs world ∧ middle value world) (left value)
            (next value) facts final failed)
    : Spec u regime i needs shape (method >>= next) facts final failed := by
  intro known durable enough
  apply Triple.bind (sessions_coherent u regime).toOrdered (first known durable enough)
  · intro value
    apply (second value (fun world => known world ∧ middle value world)
      (durable.and (lasting value)) (fun world held => ⟨enough world held.1, held.2⟩)).consequence
    · exact fun _ _ held => held
    · intro result world _ reached
      cases result with
      | ok result => exact ⟨⟨reached.1.1.1, reached.1.2⟩, reached.2⟩
      | error failure => exact ⟨reached.1.1, reached.2⟩
  · exact fun _ _ _ held => held

theorem Spec.tryCatch {method : App α} {handler : Exn → App α} {facts left : α → World → Prop}
    (raised : World → Prop)
    (body : Spec u regime i needs shape method facts left raised)
    (handled : ∀ failure, Spec u regime i needs raised (handler failure) facts left failed)
    : Spec u regime i needs shape (tryCatch method handler) facts left failed := by
  intro known durable enough
  apply Triple.tryCatch (sessions_coherent u regime).toOrdered (body known durable enough)
  · exact fun failure => handled failure known durable enough
  · exact fun _ _ _ held => held

/-- Consequence; the invariant may be used. -/
theorem Spec.mono {method : App α} {facts left weaker more : α → World → Prop}
    {stronger start less : World → Prop}
    (spec : Spec u regime i needs shape method facts left failed)
    (enough : ∀ world, stronger world → needs world)
    (starts : ∀ world, Sane u regime world → stronger world → start world → shape world)
    (learns
      : ∀ value world,
          Sane u regime world
          → stronger world
          → facts value world
          → left value world
          → weaker value world ∧ more value world)
    (fails : ∀ world, stronger world → failed world → less world)
    : Spec u regime i stronger start method weaker more less := by
  intro known durable implies
  apply (spec known durable (fun world held => enough world (implies world held))).consequence
  · exact fun world sane held => ⟨held.1, starts world sane (implies world held.1) held.2⟩
  · intro result world sane reached
    cases result with
    | ok value =>
        obtain ⟨⟨held, fact⟩, shaped⟩ := reached
        obtain ⟨fact', shaped'⟩ := learns value world sane (implies world held) fact shaped
        exact ⟨⟨held, fact'⟩, shaped'⟩
    | error failure => exact ⟨reached.1, fails world (implies world reached.1) reached.2⟩

/-- Returning a value of which more is known than its shape. -/
theorem Spec.gives {value : α} {facts left : α → World → Prop}
    (steady : Steady u regime i shape)
    (holds
      : ∀ world,
          Sane u regime world
          → needs world
          → shape world
          → facts value world ∧ left value world)
    : Spec u regime i needs shape (Pure.pure value) facts left failed := by
  have done
      : Spec u regime i needs shape (Pure.pure value) (fun result _ => result = value)
          (fun _ => shape) failed :=
    Spec.value steady
  refine done.mono (fun _ known => known) (fun _ _ _ shaped => shaped) ?_
    (fun _ _ lost => lost)
  rintro _ world sane known rfl shaped
  exact holds world sane known shaped

/-- Raising without a promise about the shape. -/
theorem Spec.abandon {failure : Exn} {facts left : α → World → Prop}
    : Spec u regime i needs shape (MonadExcept.throw failure) facts left (fun _ => True) := by
  have thrown
      : Spec u regime i needs (fun _ => True) (MonadExcept.throw failure : App α) facts left
          (fun _ => True) :=
    Spec.throw (Firm.const True).steady
  exact thrown.mono (fun _ known => known) (fun _ _ _ _ => trivial)
    (fun _ _ _ _ fact holds => ⟨fact, holds⟩) (fun _ _ holds => holds)

/-- What is known about values may be used to choose the proof. -/
theorem Spec.of_state {method : App α} {facts left : α → World → Prop} (fact : Prop)
    (implied : ∀ world, Sane u regime world → needs world → shape world → fact)
    (spec : fact → Spec u regime i needs shape method facts left failed)
    : Spec u regime i needs shape method facts left failed := by
  intro known durable enough
  apply Triple.of_state
  intro world sane held
  exact spec (implied world sane (enough world held.1) held.2) known durable enough

/-- Durable knowledge may be drawn from the shape. -/
theorem Spec.learn {method : App α} {facts left : α → World → Prop} {fact : World → Prop}
    (lasting : Durable regime i fact)
    (implied : ∀ world, Sane u regime world → needs world → shape world → fact world)
    (spec
      : Spec u regime i (fun world => needs world ∧ fact world) shape method facts left failed)
    : Spec u regime i needs shape method facts left failed := by
  intro known durable enough
  apply (spec (fun world => known world ∧ fact world) (durable.and lasting)
    (fun world held => ⟨enough world held.1, held.2⟩)).consequence
  · intro world sane held
    exact ⟨⟨held.1, implied world sane (enough world held.1) held.2⟩, held.2⟩
  · intro result world _ reached
    cases result with
    | ok value => exact ⟨⟨reached.1.1.1, reached.1.2⟩, reached.2⟩
    | error failure => exact ⟨reached.1.1, reached.2⟩

/-- One operation, described by its executions. -/
theorem Spec.perform {op : Op} {facts left : op.Answer → World → Prop}
    (steady : Steady u regime i shape) (lasting : ∀ answer, Durable regime i (facts answer))
    (remains : ∀ answer, Steady u regime i (left answer))
    (owes
      : ∀ now, Sane u regime now → needs now → shape now → Owes u regime i op now)
    (step
      : ∀ now answer after,
          Sane u regime now
          → Sane u regime after
          → Advances regime.strict now after
          → needs now
          → shape now
          → regime.admits i op now
          → exec i op now = some (answer, after)
          → (now.store.history i).log <+: (after.store.history i).log
            ∧ facts answer after
            ∧ left answer after)
    : Spec u regime i needs shape (WorkflowForge.perform op) facts left failed := by
  intro known durable enough
  have answered
      : ∀ answer,
          (sessions u regime).Stable i
            (fun world => (known world ∧ facts answer world) ∧ left answer world) :=
    fun answer => stable_of_steady (durable.and (lasting answer)) (remains answer)
  refine Triple.perform (stable_of_steady durable steady) answered ?_ (fun _ _ _ held => held)
  intro now answer after sane held admitted ran
  have debt := owes now sane (enough now held.1) held.2
  obtain ⟨kept, advances, promised⟩ := sane.step debt ran
  obtain ⟨log, learned, shaped⟩ :=
    step now answer after sane kept advances (enough now held.1) held.2 admitted ran
  exact ⟨kept, promised, ⟨durable now after ⟨advances, log⟩ held.1, learned⟩, shaped⟩

end Rules

-----------------------------------------------------------------------------------------
-- Silent methods
-----------------------------------------------------------------------------------------

/-- An own step that writes and touches nothing. -/
structure Still (i : Nat) (before after : World) : Prop where
  committed : after.store.committed = before.store.committed
  own : after.store.own i = before.store.own i
  log : (after.store.history i).log = (before.store.history i).log
  locks : ∀ row, (i, row) ∈ before.store.locks → (i, row) ∈ after.store.locks
  objects : ∀ key, after.object? key = before.object? key

theorem Still.rested {strict : Prop} {before after : World} (still : Still i before after)
    (advances : Advances strict before after)
    : Rested strict i before after where
  toCalm :=
    .of_advances advances still.committed still.log still.locks (fun key _ => still.objects key)
  own := still.own
  temps key _ := still.objects key

theorem Still.view {before after : World} (still : Still i before after)
    : after.store.view i = before.store.view i := by
  simp only [Store.view, still.own, still.committed]

section Silent

variable {α β : Type} {needs shape failed : World → Prop}

/-- One operation that writes and touches nothing. -/
theorem Spec.still {op : Op} {facts : op.Answer → World → Prop}
    (steady : Steady u regime i shape) (lasting : ∀ answer, Durable regime i (facts answer))
    (owes : ∀ now, Owes u regime i op now)
    (still : ∀ now answer after, exec i op now = some (answer, after) → Still i now after)
    (learns
      : ∀ now answer after,
          Sane u regime now
          → Sane u regime after
          → needs now
          → shape now
          → regime.admits i op now
          → exec i op now = some (answer, after)
          → facts answer after)
    : Spec u regime i needs shape (WorkflowForge.perform op) facts (fun _ => shape) failed := by
  refine Spec.perform steady lasting (fun _ => steady) (fun now _ _ _ => owes now) ?_
  intro now answer after sane sane' advances enough holds admitted ran
  have rested := (still now answer after ran).rested advances
  exact ⟨by rw [rested.log], learns now answer after sane sane' enough holds admitted ran,
    steady now after sane sane' rested holds⟩

theorem Silent.pure {value : α} {facts : α → World → Prop}
    (holds : ∀ world, needs world → facts value world)
    : Silent u regime i needs (pure value) facts :=
  fun _ steady => Spec.pure steady holds

theorem Silent.throw {failure : Exn} {facts : α → World → Prop}
    : Silent u regime i needs (throw failure) facts :=
  fun _ steady => Spec.throw steady

theorem Spec.lift {result : Except Exn α} {facts : α → World → Prop}
    (steady : Steady u regime i shape)
    (holds : ∀ value, result = .ok value → ∀ world, needs world → facts value world)
    : Spec u regime i needs shape (liftExcept result) facts (fun _ => shape) shape := by
  cases result with
  | ok value => exact Spec.pure steady (holds value rfl)
  | error failure => exact Spec.throw steady

theorem Silent.lift {result : Except Exn α} {facts : α → World → Prop}
    (holds : ∀ value, result = .ok value → ∀ world, needs world → facts value world)
    : Silent u regime i needs (liftExcept result) facts :=
  fun _ steady => Spec.lift steady holds

theorem Silent.bind {method : App α} {next : α → App β} {middle : α → World → Prop}
    {facts : β → World → Prop} (lasting : ∀ value, Durable regime i (middle value))
    (first : Silent u regime i needs method middle)
    (second
      : ∀ value,
          Silent u regime i (fun world => needs world ∧ middle value world) (next value) facts)
    : Silent u regime i needs (method >>= next) facts :=
  fun shape steady =>
    Spec.bind lasting (first shape steady) (fun value => second value shape steady)

theorem Silent.tryCatch {method : App α} {handler : Exn → App α} {facts : α → World → Prop}
    (body : Silent u regime i needs method facts)
    (handled : ∀ failure, Silent u regime i needs (handler failure) facts)
    : Silent u regime i needs (tryCatch method handler) facts :=
  fun shape steady =>
    Spec.tryCatch shape (body shape steady) (fun failure => handled failure shape steady)

theorem Silent.mono {method : App α} {facts weaker : α → World → Prop}
    {stronger : World → Prop} (silent : Silent u regime i needs method facts)
    (enough : ∀ world, stronger world → needs world)
    (learns
      : ∀ value world,
          Sane u regime world → stronger world → facts value world → weaker value world)
    : Silent u regime i stronger method weaker :=
  fun shape steady =>
    (silent shape steady).mono enough (fun _ _ _ holds => holds)
      (fun value world sane known fact holds => ⟨learns value world sane known fact, holds⟩)
      (fun _ _ holds => holds)

/-- A silent method in front of another one; what it learns is dropped. -/
theorem Silent.before {method : App α} {next : α → App β} {ignored : α → World → Prop}
    {facts left : β → World → Prop} (steady : Steady u regime i shape)
    (first : Silent u regime i needs method ignored)
    (second : ∀ value, Spec u regime i needs shape (next value) facts left failed)
    (fails : ∀ world, shape world → failed world)
    : Spec u regime i needs shape (method >>= next) facts left failed := by
  have quiet : Spec u regime i needs shape method (fun _ _ => True) (fun _ => shape) failed :=
    (first shape steady).mono (fun _ known => known) (fun _ _ _ holds => holds)
      (fun _ _ _ _ _ holds => ⟨trivial, holds⟩) (fun world _ holds => fails world holds)
  refine Spec.bind (fun _ => Durable.const regime i True) quiet ?_
  intro value
  exact (second value).mono (fun _ known => known.1) (fun _ _ _ holds => holds)
    (fun _ _ _ _ fact holds => ⟨fact, holds⟩) (fun _ _ holds => holds)

end Silent

end WorkflowForge
