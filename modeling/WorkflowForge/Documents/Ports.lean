import WorkflowForge.Documents.Modes
import WorkflowForge.Infrastructure.ObjectStorage

/-! Specifications of the primitive actions and of the methods that only read. -/

namespace WorkflowForge

open Python Transactions Concurrency

variable {u : Unicode} {regime : Regime} {i : Nat} {needs shape failed : World → Prop}

/-- Operations that neither insert, nor commit, nor touch objects owe nothing. -/
theorem Owes.nothing {op : Op} {now : World} (insert : ∀ t row, op ≠ .sql (.insert t row))
    (touch : ∀ key, ¬ op.Touches key) (commit : op ≠ .sql .commit)
    : Owes u regime i op now where
  insert t row same _ := absurd same (insert t row)
  touch key touches := absurd touches (touch key)
  commit same := absurd same commit

/-- A change of the world outside of the store and the objects. -/
theorem Still.of_outside {before after : World} (outside : Outside before after)
    (objects : ∀ key, after.object? key = before.object? key)
    : Still i before after where
  committed := by rw [outside.store]
  own := by rw [outside.store]
  log := by rw [outside.store]
  locks := by rw [outside.store]; exact fun _ lock => lock
  objects := objects

/-- A statement that leaves the rows and writes alone. -/
theorem Still.of_sql {statement : Statement schema} {before after : World}
    {answer : (Op.sql statement).Answer}
    (ran : exec i (.sql statement) before = some (answer, after))
    (committed : after.store.committed = before.store.committed)
    (own : after.store.own i = before.store.own i)
    (log : (after.store.history i).log = (before.store.history i).log)
    (locks : ∀ row, (i, row) ∈ before.store.locks → (i, row) ∈ after.store.locks)
    : Still i before after where
  committed := committed
  own := own
  log := log
  locks := locks
  objects key := by
    rw [(exec_sql ran).2]
    rfl

theorem exec_still {op : Op} {before after : World} {answer : op.Answer}
    (sql : ∀ statement, op ≠ .sql statement) (touch : ∀ key, ¬ op.Touches key)
    (ran : exec i op before = some (answer, after))
    : Still i before after := by
  obtain ⟨outside, objects⟩ := exec_outside ran sql
  exact .of_outside outside (fun key => objects key (touch key))

theorem exec_select_still {query : Query} {before after : World} {answer : Database}
    (ran : exec i (.sql (.select query)) before = some (answer, after))
    : answer = before.store.view i ∧ Still i before after := by
  obtain ⟨executed, -⟩ := exec_sql ran
  simp only [Store.exec, Option.some.injEq, Prod.mk.injEq] at executed
  obtain ⟨rfl, store⟩ := executed
  refine ⟨rfl, .of_sql ran ?_ ?_ ?_ ?_⟩
  · rw [← store]
    rfl
  · rw [← store]
    rfl
  · rw [← store]
    simp [Store.opening]
  · rw [← store]
    exact fun _ lock => lock

-----------------------------------------------------------------------------------------
-- Primitive actions
-----------------------------------------------------------------------------------------

/-- Entering a port. Only the ports of the object storage raise in a strict regime. -/
theorem enter_spec {port : Port} (steady : Steady u regime i shape)
    : Spec u regime i needs shape (enter port) (fun _ _ => True) (fun _ => shape)
        (fun world => shape world ∧ (port.ofStorage = false → ¬ regime.strict)) := by
  have answered
      : Spec u regime i needs shape (perform (.enter port))
          (fun raised _ => raised = true → port.ofStorage = false → ¬ regime.strict)
          (fun _ => shape)
          (fun world => shape world ∧ (port.ofStorage = false → ¬ regime.strict)) := by
    refine Spec.still steady (fun _ => Durable.const regime i _)
      (fun _ => .nothing (by simp) (by simp [Op.Touches]) (by simp))
      (fun _ _ _ ran => exec_still (by simp) (by simp [Op.Touches]) ran) ?_
    intro now raised after sane _ _ _ _ ran isRaised outside strict
    simp only [exec, Option.some.injEq, Prod.mk.injEq] at ran
    have quiet := regime.reliable strict port (now.entered.count port) outside
    rw [← sane.raises, ran.1, isRaised] at quiet
    cases quiet
  refine Spec.bind (fun _ => Durable.const regime i _) answered ?_
  intro raised
  cases raised with
  | false => exact Spec.pure steady (fun _ _ => trivial)
  | true =>
      refine Spec.of_state (port.ofStorage = false → ¬ regime.strict)
        (fun _ _ known _ => known.2 rfl) ?_
      intro blamed
      have thrown
          : Spec u regime i
              (fun world => needs world
                ∧ (true = true → port.ofStorage = false → ¬ regime.strict))
              shape (throw .portFailure : App Unit) (fun _ _ => True) (fun _ => shape) shape :=
        Spec.throw steady
      exact thrown.mono (fun _ known => known) (fun _ _ _ holds => holds)
        (fun _ _ _ _ fact holds => ⟨fact, holds⟩) (fun _ _ holds => ⟨holds, blamed⟩)

theorem enter_silent {port : Port} : Silent u regime i needs (enter port) (fun _ _ => True) :=
  fun _ steady =>
    (enter_spec steady).mono (fun _ known => known) (fun _ _ _ holds => holds)
      (fun _ _ _ _ fact holds => ⟨fact, holds⟩) (fun _ _ holds => holds.1)

theorem now_spec (steady : Steady u regime i shape)
    : Spec u regime i needs shape (perform .now) (fun _ _ => True) (fun _ => shape) failed :=
  Spec.still steady (fun _ => Durable.const regime i True)
    (fun _ => .nothing (by simp) (by simp [Op.Touches]) (by simp))
    (fun _ _ _ ran => exec_still (by simp) (by simp [Op.Touches]) ran)
    (fun _ _ _ _ _ _ _ _ _ => trivial)

theorem now_silent : Silent u regime i needs (perform .now) (fun _ _ => True) :=
  fun _ steady => now_spec steady

theorem nowOr_silent {now : Option Datetime}
    : Silent u regime i needs (nowOr now) (fun _ _ => True) := by
  cases now with
  | none => exact now_silent
  | some value =>
      cases value with
      | aware instant => exact Silent.pure (fun _ _ => trivial)
      | naive wall => exact Silent.throw

theorem Durable.drawnBy (id : UUID) : Durable regime i (fun world => world.DrawnBy i id) :=
  fun _ _ progress drawn => drawn.mono progress.ids progress.drawn

/-- An id of the session that no row uses yet. -/
def Unused (i : Nat) (id : UUID) (world : World) : Prop :=
  world.DrawnBy i id
  ∧ ∀ t,
      t.written = true
      → world.store.committed.find? t id = none
        ∧ ∀ write ∈ world.store.own i, write.target ≠ (t, id)

theorem Unused.firm (id : UUID) : Firm u regime i (Unused i id) := by
  intro before after _ _ calm same ⟨drawn, unused⟩
  refine ⟨drawn.mono calm.ids calm.drawn, ?_⟩
  intro t written
  obtain ⟨absent, quiet⟩ := unused t written
  refine ⟨calm.absent t id written drawn absent, ?_⟩
  rw [same]
  exact quiet

/-- A fresh id. -/
theorem newUuid_spec (steady : Steady u regime i shape)
    : Spec u regime i needs shape newUuid
        (fun id world => id ≠ 0 ∧ world.DrawnBy i id)
        (fun id world => shape world ∧ Unused i id world) failed := by
  refine Spec.perform steady (fun id => (Durable.const regime i _).and (Durable.drawnBy id))
    (fun id => steady.and (Unused.firm id).steady)
    (fun _ _ _ _ => .nothing (by simp) (by simp [Op.Touches]) (by simp)) ?_
  intro now id after sane sane' advances _ holds _ ran
  have still : Still i now after := exec_still (by simp) (by simp [Op.Touches]) ran
  have rested := still.rested advances
  simp only [exec, Option.some.injEq, Prod.mk.injEq] at ran
  obtain ⟨rfl, rfl⟩ := ran
  have fresh : ¬ now.Issued (now.ids.get now.drawn.length) := by
    rintro ⟨j, n, here, same⟩
    have equal := now.ids.injective _ _ same
    have small := (List.getElem?_eq_some_iff.mp here).1
    omega
  refine ⟨List.prefix_rfl, ⟨now.ids.ne_nil _, now.drawn.length, by simp, rfl⟩,
    steady _ _ sane sane' rested holds, ⟨now.drawn.length, by simp, rfl⟩, ?_⟩
  intro t written
  refine ⟨?_, ?_⟩
  · rw [← Option.not_isSome_iff_eq_none]
    exact fun present => fresh (sane.committed_issued t _ written present)
  · intro write member same
    have lock := sane.coherent.covered i write (Store.mem_own.mp member)
    rw [same] at lock
    rcases sane.coherent.grounded i t _ lock with present | ⟨row, pending, key⟩
    · exact fresh (sane.committed_issued t _ written present)
    · have issued : now.Issued (schema.key t row) :=
        sane.pending_issued i t row written pending
      rw [key] at issued
      exact fresh issued

theorem newUuid_silent
    : Silent u regime i needs newUuid (fun id world => id ≠ 0 ∧ world.DrawnBy i id) :=
  fun _ steady =>
    (newUuid_spec steady).mono (fun _ known => known) (fun _ _ _ holds => holds)
      (fun _ _ _ _ fact holds => ⟨fact, holds.1⟩) (fun _ _ holds => holds)

/-- A SELECT answers the session's view. -/
theorem select_spec {query : Query} {facts : Database → World → Prop}
    (steady : Steady u regime i shape) (lasting : ∀ db, Durable regime i (facts db))
    (learns
      : ∀ now,
          Sane u regime now
          → needs now
          → shape now
          → regime.admits i (.sql (.select query)) now
          → facts (now.store.view i) now)
    : Spec u regime i needs shape (select query) facts (fun _ => shape) failed := by
  refine Spec.perform steady lasting (fun _ => steady)
    (fun _ _ _ _ => .nothing (by simp) (by simp [Op.Touches]) (by simp)) ?_
  intro now db after sane sane' advances known holds admitted ran
  obtain ⟨rfl, still⟩ := exec_select_still ran
  have rested := still.rested advances
  exact ⟨by rw [rested.log],
    lasting _ now after (.of_calm rested.toCalm) (learns now sane known holds admitted),
    steady now after sane sane' rested holds⟩

theorem select_silent {query : Query}
    : Silent u regime i needs (select query) (fun _ _ => True) :=
  fun _ steady =>
    select_spec steady (fun _ => Durable.const regime i _) (fun _ _ _ _ _ => trivial)

end WorkflowForge
