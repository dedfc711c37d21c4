import WorkflowForge.Identity.Specs

/-! One specification for each operation of the environment. -/

namespace WorkflowForge.Identity

open Python Transactions Concurrency

variable {services : Services} {regime : Regime} {i : Nat} {world after : World}
variable {raised : Fault → World → Prop}

-----------------------------------------------------------------------------------------
-- Reading
-----------------------------------------------------------------------------------------

theorem quiet_select (query : Query) {answer : Database}
    (ran : exec i (.select query) world = some (answer, after))
    : answer = world.store.view i ∧ Quiet world after
      ∧ (after.store.history i).opened
        = (world.store.history i).opened.or (some (world.store.view i))
      ∧ ∀ j, j ≠ i → after.store.history j = world.store.history j := by
  simp only [exec, Store.exec, Option.map_some, Option.some.injEq, Prod.mk.injEq] at ran
  obtain ⟨rfl, rfl⟩ := ran
  refine ⟨rfl, ?_, ?_, ?_⟩
  · refine {
      committed := rfl
      pending := rfl
      locks := rfl
      opened := ?_
      ids := rfl
      tokens := rfl
      drawn := List.prefix_refl _
      generated := List.prefix_refl _
      mintedSessions := rfl
      mintedTokens := rfl
    }
    intro j db found
    by_cases same : j = i
    · subst same
      simp [Store.opening, found]
    · simp only [Store.opening, Store.record_history_other _ _ same]
      exact found
  · simp [Store.opening]
  · intro j different
    simp only [Store.opening, Store.record_history_other _ _ different]

/-- A SELECT answers the view of its call. -/
theorem select_spec {pre : World → Prop} {query : Query} (known : Database → World → Prop)
    (tame : Tame services regime i pre) (tame' : ∀ db, Tame services regime i (known db))
    (gives
      : ∀ world,
          Invariant services regime.toFlags world
          → regime.also world
          → pre world
          → regime.admits i (.select query) world
          → known (world.store.view i) world)
    : Spec services regime i pre (select query) (fun db world => pre world ∧ known db world)
        raised := by
  apply Spec.quiet tame tame'
  intro world answer after invariant also holds admitted ran
  obtain ⟨rfl, quiet, _, others⟩ := quiet_select query ran
  refine ⟨quiet, others, ?_⟩
  exact tame' _ world after invariant (quiet.keeps i)
    (gives world invariant also holds admitted)

/-- The call has made no SELECT. -/
def Unopened (world : World) (i : Nat) : Prop := (world.store.history i).opened = none

/-- The first SELECT of a call is remembered. -/
theorem firstSelect_spec {pre : World → Prop} {query : Query}
    (known : Database → World → Prop) (tame : Tame services regime i pre)
    (tame' : ∀ db, Tame services regime i (known db))
    (gives
      : ∀ world,
          Invariant services regime.toFlags world
          → regime.also world
          → pre world
          → regime.admits i (.select query) world
          → known (world.store.view i) world)
    : Spec services regime i (fun world => pre world ∧ Unopened world i) (select query)
        (fun db world =>
          pre world ∧ known db world ∧ (world.store.history i).opened = some db)
        raised := by
  have stable : (discipline services regime).Stable i
      (fun world => pre world ∧ Unopened world i) := by
    intro before now invariant invariant' interference holds
    refine ⟨tame.stable before now invariant invariant' interference holds.1, ?_⟩
    unfold Unopened
    rw [interference.2]
    exact holds.2
  have lasting : ∀ db, (discipline services regime).Stable i (fun world =>
      pre world ∧ known db world ∧ (world.store.history i).opened = some db) :=
    fun db => (tame.and ((tame' db).and (.opened db))).stable
  refine Triple.perform stable lasting ?_ (fun _ _ _ holds => holds)
  intro now answer after invariant holds admitted ran
  obtain ⟨rfl, quiet, opened, others⟩ := quiet_select query ran
  have kept : Keeps regime.toFlags i now after := quiet.keeps i
  refine ⟨⟨quiet.invariant invariant.1, regime.also_kept i now after kept invariant.2⟩, ?_,
    tame now after invariant.1 kept holds.1, ?_, ?_⟩
  · intro j different
    exact ⟨quiet.keeps j, others j different⟩
  · exact tame' _ now after invariant.1 kept (gives now invariant.1 invariant.2 holds.1 admitted)
  · rw [opened, show (now.store.history i).opened = none from holds.2]
    rfl

-----------------------------------------------------------------------------------------
-- The clock, ids and tokens
-----------------------------------------------------------------------------------------

/-- Operations that only advance a counter of the environment. -/
theorem quiet_of_store (store : after.store = world.store) (ids : after.ids = world.ids)
    (tokens : after.tokens = world.tokens) (drawn : world.drawn <+: after.drawn)
    (generated : world.generated <+: after.generated)
    (mintedSessions : after.mintedSessions = world.mintedSessions)
    (mintedTokens : after.mintedTokens = world.mintedTokens)
    : Quiet world after where
  committed := by rw [World.committed, store]
  pending := by rw [store]
  locks := by rw [store]
  opened j db found := by rw [store]; exact found
  ids := ids
  tokens := tokens
  drawn := drawn
  generated := generated
  mintedSessions := mintedSessions
  mintedTokens := mintedTokens

theorem now_quiet {answer : Timestamp} (ran : exec i .now world = some (answer, after))
    : Quiet world after ∧ after.store = world.store := by
  simp only [exec, Option.some.injEq, Prod.mk.injEq] at ran
  obtain ⟨_, rfl⟩ := ran
  exact ⟨quiet_of_store rfl rfl rfl (List.prefix_refl _) (List.prefix_refl _) rfl rfl, rfl⟩

theorem clockNow_spec {pre : World → Prop} (tame : Tame services regime i pre)
    : Spec services regime i pre clockNow (fun _ world => pre world) raised := by
  refine Spec.weaken (Spec.quiet tame (fun _ => .const True) ?_) (fun _ holds => holds)
    (fun _ _ holds => holds.1) (fun _ _ holds => holds)
  intro world answer after _ _ _ _ ran
  obtain ⟨quiet, store⟩ := now_quiet ran
  exact ⟨quiet, fun j _ => by rw [store], trivial⟩

/-- Reading the clock is no SELECT. -/
theorem clockNow_unopened {pre : World → Prop} (tame : Tame services regime i pre)
    : Spec services regime i (fun world => pre world ∧ Unopened world i) clockNow
        (fun _ world => pre world ∧ Unopened world i) raised := by
  have stable : (discipline services regime).Stable i
      (fun world => pre world ∧ Unopened world i) := by
    intro before now invariant invariant' interference holds
    refine ⟨tame.stable before now invariant invariant' interference holds.1, ?_⟩
    unfold Unopened
    rw [interference.2]
    exact holds.2
  refine Triple.perform stable (fun _ => stable) ?_ (fun _ _ _ holds => holds)
  intro now answer after invariant holds _ ran
  obtain ⟨quiet, store⟩ := now_quiet ran
  have kept : Keeps regime.toFlags i now after := quiet.keeps i
  refine ⟨⟨quiet.invariant invariant.1, regime.also_kept i now after kept invariant.2⟩, ?_,
    tame now after invariant.1 kept holds.1, ?_⟩
  · intro j _
    exact ⟨quiet.keeps j, by rw [store]⟩
  · unfold Unopened
    rw [store]
    exact holds.2

/-- The next id has not been drawn before. -/
theorem not_drawn (world : World) (j : Nat)
    : ¬ world.DrawnBy j (world.ids.get world.drawn.length) := by
  rintro ⟨n, mine, same⟩
  have index := world.ids.injective n world.drawn.length same
  have bound := (List.getElem?_eq_some_iff.mp mine).1
  omega

theorem newUuid_spec {pre : World → Prop} (tame : Tame services regime i pre)
    : Spec services regime i pre newUuid
        (fun k world => pre world ∧ (world.Untaken i k ∧ k ≠ 0)) raised := by
  refine Spec.quiet tame (fun k => (Tame.untaken k).and (.const _)) ?_
  intro world answer after invariant _ _ _ ran
  simp only [exec, Option.some.injEq, Prod.mk.injEq] at ran
  obtain ⟨rfl, rfl⟩ := ran
  refine ⟨quiet_of_store rfl rfl rfl (List.prefix_append _ _) (List.prefix_refl _) rfl rfl,
    fun _ _ => rfl, ?_, world.ids.ne_nil _⟩
  refine { drawn := ⟨world.drawn.length, by simp, rfl⟩, committed := ?_, pending := ?_ }
  · cases found : world.committed.find? .securityAuditEvents (world.ids.get world.drawn.length) with
    | none => rfl
    | some event =>
        obtain ⟨j, drawn⟩ := invariant.events _ (Option.isSome_iff_exists.mpr ⟨event, found⟩)
        exact absurd drawn (not_drawn world j)
  · intro j event member same
    obtain ⟨j', drawn⟩ := invariant.newEvents j event member
    rw [same] at drawn
    exact not_drawn world j' drawn

theorem generateToken_spec {pre : World → Prop} (tame : Tame services regime i pre)
    : Spec services regime i pre (perform .generateToken)
        (fun token world =>
          pre world ∧ world.GeneratedBy services i (services.digestToken token))
        raised := by
  refine Spec.quiet tame (fun token => .generatedBy (services.digestToken token)) ?_
  intro world answer after _ _ _ _ ran
  simp only [exec, Option.map_eq_some_iff, Prod.mk.injEq] at ran
  obtain ⟨token, next, rfl, rfl⟩ := ran
  refine ⟨quiet_of_store rfl rfl rfl (List.prefix_refl _) (List.prefix_append _ _) rfl rfl,
    fun _ _ => rfl, world.generated.length, by simp, ?_⟩
  rw [World.digests, List.getElem?_map, next]
  rfl

theorem authenticate_spec {pre : World → Prop} {email password : Text}
    (tame : Tame services regime i pre)
    : Spec services regime i pre (perform (.authenticate email password))
        (fun _ world => pre world) raised := by
  refine Spec.weaken (Spec.quiet tame (fun _ => .const True) ?_) (fun _ holds => holds)
    (fun _ _ holds => holds.1) (fun _ _ holds => holds)
  intro world answer after _ _ _ _ ran
  simp only [exec, Option.some.injEq, Prod.mk.injEq] at ran
  obtain ⟨_, rfl⟩ := ran
  exact ⟨quiet_of_store rfl rfl rfl (List.prefix_refl _) (List.prefix_refl _) rfl rfl,
    fun _ _ => rfl, trivial⟩

theorem verifyToken_spec {pre : World → Prop} {token : Text}
    (tame : Tame services regime i pre)
    : Spec services regime i pre (perform (.verifyToken token)) (fun _ world => pre world)
        raised := by
  refine Spec.weaken (Spec.quiet tame (fun _ => .const True) ?_) (fun _ holds => holds)
    (fun _ _ holds => holds.1) (fun _ _ holds => holds)
  intro world answer after _ _ _ _ ran
  simp only [exec, Option.some.injEq, Prod.mk.injEq] at ran
  obtain ⟨_, rfl⟩ := ran
  exact ⟨quiet_of_store rfl rfl rfl (List.prefix_refl _) (List.prefix_refl _) rfl rfl,
    fun _ _ => rfl, trivial⟩

-----------------------------------------------------------------------------------------
-- What no operation forgets
-----------------------------------------------------------------------------------------

/-- Draws, inserted rows and the first snapshot stay on record. -/
structure Remembers (i : Nat) (before after : World) : Prop where
  ids : after.ids = before.ids
  tokens : after.tokens = before.tokens
  drawn : before.drawn <+: after.drawn
  generated : before.generated <+: after.generated
  mintedSessions : before.mintedSessions ⊆ after.mintedSessions
  mintedTokens : before.mintedTokens ⊆ after.mintedTokens
  opened
    : ∀ db, (before.store.history i).opened = some db
        → (after.store.history i).opened = some db

/-- A step that changes the store only. -/
theorem remembers_store {store : Store schema}
    (opened
      : ∀ db, (world.store.history i).opened = some db → (store.history i).opened = some db)
    : Remembers i world { world with store } where
  ids := rfl
  tokens := rfl
  drawn := List.prefix_rfl
  generated := List.prefix_rfl
  mintedSessions := fun _ => id
  mintedTokens := fun _ => id
  opened := opened

theorem remembers_mint (world : World) (i : Nat) (t : TableName) (row : TableRow t)
    : Remembers i world (world.mint i t row) := by
  cases t <;>
    exact {
      ids := rfl
      tokens := rfl
      drawn := List.prefix_rfl
      generated := List.prefix_rfl
      mintedSessions := by simp [World.mint]
      mintedTokens := by simp [World.mint]
      opened := fun _ => id
    }

theorem Remembers.trans {first second third : World} (early : Remembers i first second)
    (late : Remembers i second third)
    : Remembers i first third where
  ids := late.ids.trans early.ids
  tokens := late.tokens.trans early.tokens
  drawn := early.drawn.trans late.drawn
  generated := early.generated.trans late.generated
  mintedSessions := fun _ member => late.mintedSessions (early.mintedSessions member)
  mintedTokens := fun _ member => late.mintedTokens (early.mintedTokens member)
  opened db found := late.opened db (early.opened db found)

theorem stageAll_history (i : Nat) (writes : List (Write schema)) (store : Store schema)
    : (stageAll store i writes).history = store.history := by
  induction writes generalizing store with
  | nil => rfl
  | cons write rest ih => exact (ih (store.stage i write)).trans rfl

theorem execDeletion_remembers {writes : List (Write schema)} {answer : Except Violation Unit}
    (ran : execDeletion i writes world = some (answer, after))
    : Remembers i world after := by
  unfold execDeletion at ran
  split at ran
  · contradiction
  · simp only at ran
    split at ran
    · simp only [Option.some.injEq, Prod.mk.injEq] at ran
      obtain ⟨_, rfl⟩ := ran
      exact remembers_store (fun _ => id)
    · simp only [Option.some.injEq, Prod.mk.injEq] at ran
      obtain ⟨_, rfl⟩ := ran
      apply remembers_store
      rw [stageAll_history]
      exact fun _ => id

theorem exec_remembers {op : Op} {answer : op.Answer} (coherent : world.store.Coherent)
    (ran : exec i op world = some (answer, after))
    : Remembers i world after := by
  cases op with
  | select query =>
      simp only [exec, Option.map_eq_some_iff, Prod.mk.injEq] at ran
      obtain ⟨⟨_, store⟩, selected, _, rfl⟩ := ran
      exact remembers_store (fun db opened => Store.exec_opened coherent selected opened)
  | insert t row =>
      simp only [exec] at ran
      split at ran
      · simp only [Option.some.injEq, Prod.mk.injEq] at ran
        obtain ⟨_, rfl⟩ := ran
        exact remembers_store (fun _ => id)
      split at ran
      · contradiction
      · rename_i violation store inserted
        simp only [Option.some.injEq, Prod.mk.injEq] at ran
        obtain ⟨_, rfl⟩ := ran
        exact remembers_store (fun db opened => Store.exec_opened coherent inserted opened)
      · rename_i store inserted
        simp only [Option.some.injEq, Prod.mk.injEq] at ran
        obtain ⟨_, rfl⟩ := ran
        exact (remembers_store (fun db opened => Store.exec_opened coherent inserted opened)).trans
          (remembers_mint { world with store } i t row)
  | update change =>
      simp only [exec] at ran
      split at ran
      · simp only [Option.some.injEq, Prod.mk.injEq] at ran
        obtain ⟨_, rfl⟩ := ran
        exact remembers_store (fun _ => id)
      · simp only [Option.map_eq_some_iff, Prod.mk.injEq] at ran
        obtain ⟨⟨_, store⟩, updated, _, rfl⟩ := ran
        exact remembers_store (fun db opened => Store.exec_opened coherent updated opened)
  | deleteRefreshTokens ids => exact execDeletion_remembers ran
  | deleteSessions ids => exact execDeletion_remembers ran
  | commit =>
      simp only [exec, Option.map_eq_some_iff, Prod.mk.injEq] at ran
      obtain ⟨⟨_, store⟩, committed, _, rfl⟩ := ran
      exact remembers_store (fun db opened => Store.exec_opened coherent committed opened)
  | rollback =>
      simp only [exec, Option.map_eq_some_iff, Prod.mk.injEq] at ran
      obtain ⟨⟨_, store⟩, undone, _, rfl⟩ := ran
      exact remembers_store (fun db opened => Store.exec_opened coherent undone opened)
  | generateToken =>
      simp only [exec, Option.map_eq_some_iff, Prod.mk.injEq] at ran
      obtain ⟨token, _, _, rfl⟩ := ran
      exact {
        ids := rfl
        tokens := rfl
        drawn := List.prefix_rfl
        generated := List.prefix_append _ _
        mintedSessions := fun _ => id
        mintedTokens := fun _ => id
        opened := fun _ => id
      }
  | _ =>
      simp only [exec, Option.some.injEq, Prod.mk.injEq] at ran
      obtain ⟨_, rfl⟩ := ran
      exact {
        ids := rfl
        tokens := rfl
        drawn := by simp
        generated := by simp
        mintedSessions := fun _ => id
        mintedTokens := fun _ => id
        opened := fun _ => id
      }

/-- A first snapshot may be framed around a program. -/
theorem Spec.opened {α : Type} {pre : World → Prop} {value : α → World → Prop}
    {program : App α} (db : Database)
    (spec : Spec services regime i pre program value raised)
    : Spec services regime i
        (fun world => pre world ∧ (world.store.history i).opened = some db) program
        (fun result world => value result world ∧ (world.store.history i).opened = some db)
        (fun failure world =>
          raised failure world ∧ (world.store.history i).opened = some db) := by
  apply Spec.frame (.opened db) _ spec
  intro op now answer after invariant ran opened
  exact (exec_remembers invariant.coherent ran).opened db opened

/-- Draws may be framed around a program. -/
theorem Spec.drawn {α : Type} {pre : World → Prop} {value : α → World → Prop}
    {program : App α} (k : UUID) (digest : RefreshTokenDigest)
    (spec : Spec services regime i pre program value raised)
    : Spec services regime i
        (fun world =>
          pre world ∧ world.DrawnBy i k ∧ world.GeneratedBy services i digest)
        program
        (fun result world =>
          value result world ∧ world.DrawnBy i k ∧ world.GeneratedBy services i digest)
        (fun failure world =>
          raised failure world ∧ world.DrawnBy i k ∧ world.GeneratedBy services i digest) := by
  apply Spec.frame ((Tame.drawnBy k).and (.generatedBy digest)) _ spec
  intro op now answer after invariant ran ⟨drawn, generated⟩
  have remembers := exec_remembers invariant.coherent ran
  exact ⟨drawn.mono remembers.ids remembers.drawn,
    generated.mono remembers.tokens remembers.generated⟩

end WorkflowForge.Identity
