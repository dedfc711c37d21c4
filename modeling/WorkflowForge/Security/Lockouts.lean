import WorkflowForge.Python.Ascii
import WorkflowForge.Security.CounterSteps
import WorkflowForge.Security.LoginRuns

/-! How many attempts the limiter lets through, however the requests overlap.
A counter that has reached its threshold admits no further request until it expires; those
that have passed its check before are at most the other workers.
-/

namespace WorkflowForge.AuthRoutes

open Concurrency Python
open Identity (TokenPair)
open RateLimit (countP_set_add)

-----------------------------------------------------------------------------------------
-- Metering
-----------------------------------------------------------------------------------------

/-- The workers between the check and the end of an attempt. -/
def Stage.busy (stage : Stage) : Bool := stage != .outside

@[simp] theorem Stage.busy_outside : Stage.outside.busy = false := rfl

@[simp] theorem Stage.busy_passed : Stage.passed.busy = true := rfl

@[simp] theorem Stage.busy_owing : Stage.owing.busy = true := rfl

@[simp] theorem Stage.busy_won : Stage.won.busy = true := rfl

theorem set_same {stages : List Stage} {i : Nat} {stage : Stage} (here : stages[i]? = some stage)
    : stages.set i stage = stages := by
  obtain ⟨bounded, same⟩ := List.getElem?_eq_some_iff.mp here
  rw [← same, List.set_getElem_self]

/-- What the limiter has let through since `early`. -/
structure Metered (site : AuthSite) (subject : Subject) (early : AuthWorld)
    (stages : List Stage) (world : AuthWorld)
    : Prop where
  clock : early.now ≤ world.now
  resets : subject.resets site early ≤ subject.resets site world
  earned
    : subject.resets site world + stages.countP (· == .won) ≤ subject.successes site world
  room
    : ∀ counter,
        subject.counter site world = some counter
        → subject.threshold site ≤ counter.count
        → counter.count + stages.countP Stage.busy < subject.threshold site + stages.length
  tracks
    : ∃ ticks,
        Windows.Tracks (subject.window site) (subject.threshold site + stages.length - 1) ticks
          (world.counters (subject.key site)) world.now
        ∧ (subject.resets site world = subject.resets site early
            → subject.failures site world
              ≤ subject.failures site early
                + ticks.countP (fun tick => early.now ≤ tick.time)
                + stages.countP (· == .owing))

namespace Metered

variable {site : AuthSite} {subject : Subject} {early world : AuthWorld} {stages : List Stage}
variable {i : Nat} {stage : Stage}

theorem begin (unused : world.counters (subject.key site) = none) (fresh : world.attempts = [])
    (kept : world.resets = [])
    : Metered site subject world [] world where
  clock := Nat.le_refl _
  resets := Nat.le_refl _
  earned := by simp [Subject.resets, Subject.successes, fresh, kept]
  room counter found := by simp [Subject.counter, unused, Windows.live_none] at found
  tracks := ⟨[], by rw [unused]; exact .start, fun _ => by simp⟩

/-- Count from now on. -/
theorem restart (metered : Metered site subject early stages world)
    : Metered site subject world stages world where
  clock := Nat.le_refl _
  resets := Nat.le_refl _
  earned := metered.earned
  room := metered.room
  tracks := by
    obtain ⟨ticks, tracked, -⟩ := metered.tracks
    exact ⟨ticks, tracked, fun _ => by omega⟩

theorem started (metered : Metered site subject early stages world)
    : Metered site subject early (stages ++ [.outside]) world where
  clock := metered.clock
  resets := metered.resets
  earned := by simpa [List.countP_append] using metered.earned
  room counter found full := by
    have room := metered.room counter found full
    simp only [List.countP_append, List.length_append, List.length_singleton]
    simp only [List.countP_singleton, Stage.busy, bne_self_eq_false, Bool.false_eq_true, if_false]
    omega
  tracks := by
    obtain ⟨ticks, tracked, counted⟩ := metered.tracks
    refine ⟨ticks, tracked.mono (by simp only [List.length_append]; omega), fun same => ?_⟩
    simpa [List.countP_append] using counted same

theorem wait (metered : Metered site subject early stages world) (moment : Moment)
    : Metered site subject early stages (world.next moment) where
  clock := Nat.le_trans metered.clock (Nat.le_add_right _ _)
  resets := metered.resets
  earned := metered.earned
  room counter found := by
    obtain ⟨same, alive⟩ := Windows.live_eq_some.mp found
    refine metered.room counter (Windows.live_eq_some.mpr ⟨same, ?_⟩)
    exact Nat.lt_of_le_of_lt (Nat.le_add_right _ _) alive
  tracks := by
    obtain ⟨ticks, tracked, counted⟩ := metered.tracks
    exact ⟨ticks, tracked.wait (Nat.le_add_right _ _), counted⟩

theorem congr {after : AuthWorld} (metered : Metered site subject early stages world)
    (same : SameView site subject world after)
    : Metered site subject early stages after where
  clock := by rw [same.now]; exact metered.clock
  resets := by rw [same.resets]; exact metered.resets
  earned := by rw [same.resets, same.successes]; exact metered.earned
  room := by
    unfold Subject.counter
    rw [same.now, same.counters]
    exact metered.room
  tracks := by
    rw [same.now, same.counters, same.resets, same.failures]
    exact metered.tracks

/-- A worker passes the check of a counter that is not full. -/
theorem enter (metered : Metered site subject early stages world)
    (here : stages[i]? = some .outside)
    (unfilled
      : ∀ counter,
          subject.counter site world = some counter → counter.count < subject.threshold site)
    : Metered site subject early (stages.set i .passed) world where
  clock := metered.clock
  resets := metered.resets
  earned := by
    have won := countP_set_add (· == Stage.won) .passed here
    have earned := metered.earned
    simp only [reduceCtorEq, beq_iff_eq, if_false] at won
    omega
  room counter found full := by
    have few := unfilled counter found
    omega
  tracks := by
    have owing := countP_set_add (· == Stage.owing) .passed here
    simp only [reduceCtorEq, beq_iff_eq, if_false] at owing
    obtain ⟨ticks, tracked, counted⟩ := metered.tracks
    rw [List.length_set]
    refine ⟨ticks, tracked, fun same => ?_⟩
    have counted := counted same
    omega

/-- A worker gives up without an attempt. -/
theorem leave (metered : Metered site subject early stages world)
    (here : stages[i]? = some .passed)
    : Metered site subject early (stages.set i .outside) world where
  clock := metered.clock
  resets := metered.resets
  earned := by
    have won := countP_set_add (· == Stage.won) .outside here
    have earned := metered.earned
    simp only [reduceCtorEq, beq_iff_eq, if_false] at won
    omega
  room counter found full := by
    have busy := countP_set_add Stage.busy .outside here
    have room := metered.room counter found full
    simp only [Stage.busy_passed, Stage.busy_outside, if_true, Bool.false_eq_true, if_false] at busy
    rw [List.length_set]
    omega
  tracks := by
    have owing := countP_set_add (· == Stage.owing) .outside here
    simp only [reduceCtorEq, beq_iff_eq, if_false] at owing
    obtain ⟨ticks, tracked, counted⟩ := metered.tracks
    rw [List.length_set]
    refine ⟨ticks, tracked, fun same => ?_⟩
    have counted := counted same
    omega

/-- A busy worker finds room in the counter. -/
theorem spare (metered : Metered site subject early stages world)
    (here : stages[i]? = some stage) (busy : stage.busy = true) {counter : Windows.Counter}
    (found : subject.counter site world = some counter)
    : counter.count < subject.threshold site + stages.length - 1 := by
  have member := List.mem_of_getElem? here
  have some : 0 < stages.countP Stage.busy := List.countP_pos_iff.mpr ⟨stage, member, busy⟩
  have length := List.length_pos_of_mem member
  by_cases full : subject.threshold site ≤ counter.count
  · have room := metered.room counter found full
    omega
  · omega

/-- A worker charges the failure of its attempt, or of a request without a token. -/
theorem charge (metered : Metered site subject early stages world)
    (here : stages[i]? = some stage) (due : stage = .passed ∨ stage = .owing)
    : Metered site subject early (stages.set i .outside)
        (world.increment (subject.key site) (subject.rule site).windowSeconds) where
  clock := metered.clock
  resets := metered.resets
  earned := by
    have won := countP_set_add (· == Stage.won) .outside here
    have earned := metered.earned
    have unwon : (stage == .won) = false := by rcases due with rfl | rfl <;> rfl
    simp only [unwon, reduceCtorEq, beq_iff_eq, Bool.false_eq_true, if_false] at won
    simp only [Subject.resets_increment, Subject.successes_increment]
    omega
  room counter found full := by
    have busy := countP_set_add Stage.busy .outside here
    have was : stage.busy = true := by rcases due with rfl | rfl <;> rfl
    have all : stages.countP Stage.busy ≤ stages.length := List.countP_le_length
    simp only [was, Stage.busy_outside, if_true, Bool.false_eq_true, if_false] at busy
    rw [List.length_set]
    obtain ⟨same, -⟩ := Windows.live_eq_some.mp found
    rw [Subject.counters_increment] at same
    obtain rfl := Option.some.inj same
    cases before : subject.counter site world with
    | none =>
        simp only [Windows.bump, show Windows.live _ _ = none from before] at full ⊢
        have positive := subject.threshold_pos site
        unfold Subject.threshold at full ⊢
        omega
    | some old =>
        simp only [Windows.bump, show Windows.live _ _ = some old from before] at full ⊢
        by_cases already : subject.threshold site ≤ old.count
        · have room := metered.room old before already
          omega
        · omega
  tracks := by
    have owing := countP_set_add (· == Stage.owing) .outside here
    have was : stage.busy = true := by rcases due with rfl | rfl <;> rfl
    obtain ⟨ticks, tracked, counted⟩ := metered.tracks
    have positive := subject.threshold_pos site
    have wide := subject.windowSeconds_pos site
    have length := List.length_pos_of_mem (List.mem_of_getElem? here)
    rw [Subject.counters_increment, List.length_set, Subject.failures_increment,
      Subject.resets_increment]
    refine ⟨_, tracked.bump ?_ ?_ (fun current found => metered.spare here was found), ?_⟩
    · exact Nat.mul_pos wide (by decide)
    · unfold Subject.threshold
      omega
    · intro same
      have counted := counted same
      have now : early.now ≤ world.now := metered.clock
      simp only [List.countP_append, List.countP_singleton, Windows.tick, now, decide_true,
        if_true]
      simp only [reduceCtorEq, beq_iff_eq, if_false] at owing
      rcases due with rfl | rfl
      · simp only [reduceCtorEq, if_false] at owing
        omega
      · simp only [if_true] at owing
        omega

/-- A worker makes its attempt. -/
theorem attempt (metered : Metered site subject early stages world)
    (here : stages[i]? = some .passed) {request : AuthRequest}
    {result : Except SessionFailure TokenPair} (concerned : subject.Concerns site request)
    : Metered site subject early (stages.set i (.attempted request result))
        (world.attempted request result) where
  clock := metered.clock
  resets := metered.resets
  earned := by
    have won := countP_set_add (· == Stage.won) (.attempted request result) here
    have earned := metered.earned
    rw [Subject.successes_attempted]
    simp only [reduceCtorEq, beq_iff_eq, if_false, concerned, true_and] at won ⊢
    show Subject.resets site subject world + _ ≤ _
    omega
  room counter found full := by
    have busy := countP_set_add Stage.busy (.attempted request result) here
    have room := metered.room counter found full
    have most : (if (Stage.attempted request result).busy = true then 1 else 0) ≤ 1 := by
      split <;> decide
    simp only [Stage.busy_passed, if_true] at busy
    rw [List.length_set]
    omega
  tracks := by
    have owing := countP_set_add (· == Stage.owing) (.attempted request result) here
    obtain ⟨ticks, tracked, counted⟩ := metered.tracks
    rw [List.length_set, Subject.failures_attempted]
    refine ⟨ticks, tracked, fun same => ?_⟩
    have counted := counted same
    simp only [reduceCtorEq, beq_iff_eq, if_false, concerned, true_and] at owing ⊢
    omega

/-- A worker clears the counter after its success. -/
theorem reset (metered : Metered site subject early stages world)
    (here : stages[i]? = some .won) {keys : List Text} (member : subject.key site ∈ keys)
    : Metered site subject early (stages.set i .outside) (world.delete keys) where
  clock := metered.clock
  resets := by
    rw [Subject.resets_delete]
    exact Nat.le_add_right_of_le metered.resets
  earned := by
    have won := countP_set_add (· == Stage.won) .outside here
    have earned := metered.earned
    simp only [reduceCtorEq, beq_iff_eq, if_true, if_false] at won
    rw [Subject.resets_delete, if_pos member]
    show _ ≤ Subject.successes site subject world
    omega
  room counter found := by
    simp [Subject.counter, AuthWorld.delete, member, Windows.live_none] at found
  tracks := by
    refine ⟨[], ?_, fun same => ?_⟩
    · simp only [AuthWorld.delete, List.contains_iff_mem.mpr member, if_true]
      exact .start
    · have before := metered.resets
      rw [Subject.resets_delete, if_pos member] at same
      omega

/-- `Metered` is kept by whatever happens to the counter. -/
theorem happens {later : Stage} {after : AuthWorld}
    (metered : Metered site subject early stages world) (here : stages[i]? = some stage)
    (happened : Happens site subject stage world later after)
    : Metered site subject early (stages.set i later) after := by
  cases happened with
  | elsewhere same =>
      rw [set_same here]
      exact metered.congr same
  | enter unfilled => exact metered.enter here unfilled
  | leave same => exact (metered.leave here).congr same
  | charge due => exact metered.charge here due
  | attempt concerned => exact metered.attempt here concerned
  | reset member => exact metered.reset here member

theorem balances {moments : Nat → Moment} (answers : ∀ n, (moments n).redis = .answered)
    : Balances (exec moments) (discipline site subject) .outside (Metered site subject early) where
  started metered := metered.started
  acted metered here allowed answered := by
    obtain ⟨rfl, rfl⟩ := Prod.mk.inj (Option.some.inj answered)
    obtain ⟨later, moved, happened⟩ := perform_happens (answers _) allowed
    exact ⟨later, moved, (metered.wait _).happens here happened⟩

end Metered

-----------------------------------------------------------------------------------------
-- Full counters
-----------------------------------------------------------------------------------------

/-- Until the full counter expires, the workers that were busy at `early` finish, and no other
worker gets past the check; only one of the former can clear it. -/
def Locked (site : AuthSite) (subject : Subject) (early : AuthWorld) (expiresAt busy : Nat)
    (stages : List Stage) (world : AuthWorld)
    : Prop :=
  world.now < expiresAt
  → (subject.resets site world = subject.resets site early
      ∧ (∃ counter,
          world.counters (subject.key site) = some counter
          ∧ counter.expiresAt = expiresAt
          ∧ subject.threshold site ≤ counter.count)
      ∧ stages.countP Stage.busy ≤ busy
      ∧ subject.attempts site world + stages.countP (· == .passed)
        ≤ subject.attempts site early + busy)
    ∨ (subject.resets site early < subject.resets site world ∧ 0 < busy)

namespace Locked

variable {site : AuthSite} {subject : Subject} {early world : AuthWorld} {stages : List Stage}
variable {i expiresAt busy : Nat} {stage : Stage}

theorem started (locked : Locked site subject early expiresAt busy stages world)
    : Locked site subject early expiresAt busy (stages ++ [.outside]) world := by
  intro soon
  simpa [List.countP_append] using locked soon

theorem wait (locked : Locked site subject early expiresAt busy stages world) (moment : Moment)
    : Locked site subject early expiresAt busy stages (world.next moment) := by
  intro soon
  exact locked (Nat.lt_of_le_of_lt (Nat.le_add_right _ _) soon)

theorem congr {after : AuthWorld} (locked : Locked site subject early expiresAt busy stages world)
    (same : SameView site subject world after)
    : Locked site subject early expiresAt busy stages after := by
  unfold Locked
  rw [same.now, same.resets, same.counters, same.attempts]
  exact locked

theorem happens {later : Stage} {after : AuthWorld}
    (locked : Locked site subject early expiresAt busy stages world)
    (here : stages[i]? = some stage)
    (happened : Happens site subject stage world later after)
    : Locked site subject early expiresAt busy (stages.set i later) after := by
  have busy' := countP_set_add Stage.busy later here
  have passed := countP_set_add (· == Stage.passed) later here
  cases happened with
  | elsewhere same =>
      rw [set_same here]
      exact locked.congr same
  | enter unfilled =>
      intro soon
      rcases locked soon with ⟨kept, ⟨counter, found, expires, full⟩, few, bound⟩ | cleared
      · have alive : subject.counter site world = some counter :=
          Windows.live_eq_some.mpr ⟨found, by omega⟩
        have room := unfilled counter alive
        omega
      · exact .inr cleared
  | leave same =>
      simp only [Stage.busy_passed, Stage.busy_outside, if_true, Bool.false_eq_true, if_false]
        at busy'
      simp only [reduceCtorEq, beq_iff_eq, if_true, if_false] at passed
      refine congr (fun soon => ?_) same
      rcases locked soon with ⟨kept, full, few, bound⟩ | cleared
      · exact .inl ⟨kept, full, by omega, by omega⟩
      · exact .inr cleared
  | charge due =>
      have was : stage.busy = true := by rcases due with rfl | rfl <;> rfl
      simp only [was, Stage.busy_outside, if_true, Bool.false_eq_true, if_false] at busy'
      simp only [reduceCtorEq, beq_iff_eq, if_false] at passed
      intro soon
      rcases locked soon with ⟨kept, ⟨counter, found, expires, full⟩, few, bound⟩ | cleared
      · have alive : Windows.live (world.counters (subject.key site)) world.now = some counter :=
          Windows.live_eq_some.mpr ⟨found, by rw [expires]; exact soon⟩
        refine .inl ⟨kept, ⟨_, Subject.counters_increment, ?_, ?_⟩, by omega, ?_⟩
        · simpa [Windows.bump, alive] using expires
        · simpa [Windows.bump, alive] using Nat.le_succ_of_le full
        · show subject.attempts site world + _ ≤ _
          omega
      · exact .inr cleared
  | @attempt _ request result concerned =>
      have most : (if (Stage.attempted request result).busy = true then 1 else 0) ≤ 1 := by
        split <;> decide
      have spent : (Stage.attempted request result == Stage.passed) = false := by
        cases result with
        | ok pair => rfl
        | error failure =>
            simp only [Stage.attempted]
            split <;> rfl
      simp only [Stage.busy_passed, if_true] at busy'
      simp only [spent, beq_self_eq_true, if_true, Bool.false_eq_true, if_false] at passed
      intro soon
      rcases locked soon with ⟨kept, full, few, bound⟩ | cleared
      · refine .inl ⟨kept, full, by omega, ?_⟩
        rw [Subject.attempts_attempted, if_pos concerned]
        omega
      · exact .inr cleared
  | reset member =>
      have own : 0 < stages.countP Stage.busy :=
        List.countP_pos_iff.mpr ⟨.won, List.mem_of_getElem? here, rfl⟩
      intro soon
      right
      rw [Subject.resets_delete, if_pos member]
      rcases locked soon with ⟨kept, full, few, bound⟩ | ⟨cleared, positive⟩ <;> omega

theorem balances {moments : Nat → Moment} (answers : ∀ n, (moments n).redis = .answered)
    : Balances (exec moments) (discipline site subject) .outside
        (Locked site subject early expiresAt busy) where
  started locked := locked.started
  acted locked here allowed answered := by
    obtain ⟨rfl, rfl⟩ := Prod.mk.inj (Option.some.inj answered)
    obtain ⟨later, moved, happened⟩ := perform_happens (answers _) allowed
    exact ⟨later, moved, (locked.wait _).happens here happened⟩

end Locked

-----------------------------------------------------------------------------------------
-- Runs
-----------------------------------------------------------------------------------------

/-- The workers, and the world that they share. -/
abbrev Workers : Type :=
  Config AuthOp AuthOp.Res AuthExn (List Reply) AuthWorld (List AuthRequest)

/-- The runs of any workers, whose operations interleave in any way. -/
abbrev WorkerRun (site : AuthSite) (moments : Nat → Moment) : Workers → Workers → Prop :=
  Reaches (exec moments) (worker site) (fun _ _ _ => True)

/-- Nothing has happened to the counter yet. -/
structure Unused (site : AuthSite) (subject : Subject) (world : AuthWorld) : Prop where
  counter : world.counters (subject.key site) = none
  attempts : world.attempts = []
  resets : world.resets = []

/-- The workers follow the discipline of each counter. -/
def Steady (site : AuthSite) (subject : Subject) (inv : List Stage → AuthWorld → Prop)
    (stages : List Stage) (workers : Workers)
    : Prop :=
  Jointly (discipline site subject) inv
    (fun _ => returns (fun _ later => later = .outside) (fun _ later => later = .outside)) stages
    workers

section

variable {site : AuthSite} {subject : Subject} {moments : Nat → Moment} {first : AuthWorld}
variable {early late : Workers} {stages : List Stage}

theorem steady_reaches {inv : List Stage → AuthWorld → Prop}
    (balances : Balances (exec moments) (discipline site subject) .outside inv)
    (steady : Steady site subject inv stages early) (run : WorkerRun site moments early late)
    : ∃ later, Steady site subject inv later late :=
  Jointly.reaches balances worker_obeys steady run

theorem metered_reaches (answers : ∀ n, (moments n).redis = .answered)
    (unused : Unused site subject first)
    (run : WorkerRun site moments (Config.idle first) early)
    : ∃ stages, Steady site subject (Metered site subject early.shared) stages early := by
  have begun : Metered site subject first [] first :=
    .begin unused.counter unused.attempts unused.resets
  obtain ⟨stages, steady⟩ := steady_reaches (Metered.balances answers) (Jointly.idle begun) run
  exact ⟨stages, steady.mono steady.inv.restart⟩

end

-----------------------------------------------------------------------------------------
-- A sample site
-----------------------------------------------------------------------------------------

namespace Sample

theorem identifier_bounds : 0 < 1 ∧ 1 ≤ 100 := by decide

theorem client_bounds : 0 < 20 ∧ 20 ≤ 500 := by decide

theorem window_bounds : 0 < 900 ∧ 900 ≤ 86400 := by decide

theorem refresh_client_bounds : 0 < 10 ∧ 10 ≤ 500 := by decide

theorem refresh_window_bounds : 0 < 300 ∧ 300 ≤ 86400 := by decide

def limits : AuthRateLimits where
  loginIdentifierThreshold := 1
  identifier_bounds
  client_bounds
  window_bounds
  refresh_client_bounds
  refresh_window_bounds

/-- One failure per identifier and window of fifteen minutes. -/
def site : AuthSite where
  limits
  hash text := text
  unicode := asciiUnicode
  corsOrigins := ["https://app.example".toList]
  urlparse _ := none

/-- Every operation takes a second, and no password is right. -/
def moments (_ : Nat) : Moment where
  elapsed := 1000
  redis := .answered
  session := .error .invalidCredentials
  token := []

def world : AuthWorld where
  now := 0
  calls := 0
  counters _ := none
  attempts := []
  resets := []
  events := []

def request : AuthRequest :=
  .login { email := "a@b.io".toList, password := [], client := none, origin := none }

def subject : Subject := .identifier "a@b.io".toList

theorem unused : Unused site subject world := ⟨rfl, rfl, rfl⟩

/-- A worker has its login refused, in eight operations. -/
def refusal : List (Move (List AuthRequest)) := .start [request] :: List.replicate 8 (.act 0)

/-- Another worker is turned away, in five operations. -/
def denial : List (Move (List AuthRequest)) := .start [request] :: List.replicate 5 (.act 1)

def locked (workers : Workers) : Bool :=
  subject.counter site workers.shared == some ⟨1, 906000⟩

theorem refused_run
    : ∃ early late,
        WorkerRun site moments (Config.idle world) early
        ∧ WorkerRun site moments early late
        ∧ locked early
        ∧ early.threads.length = 1
        ∧ subject.attempts site early.shared = 1
        ∧ late.shared.now = 13000
        ∧ late.threads.length = 2
        ∧ subject.resets site late.shared = 0
        ∧ (late.ended 1).isSome := by
  have checked
      : (Config.follow (exec moments) (worker site) (fun _ _ _ => true) refusal
          (Config.idle world)).any (fun early =>
            (Config.follow (exec moments) (worker site) (fun _ _ _ => true) denial early).any
              (fun late =>
                locked early
                && (early.threads.length == 1
                  && (subject.attempts site early.shared == 1
                    && (late.shared.now == 13000
                      && (late.threads.length == 2
                        && (subject.resets site late.shared == 0
                          && (late.ended 1).isSome))))))) = true := by
    decide +kernel
  obtain ⟨early, late, before, during, found⟩ :=
    Config.reaches_of_checks (fun _ _ _ _ => trivial) checked
  simp only [Bool.and_eq_true, beq_iff_eq] at found
  exact ⟨early, late, before, during, found⟩

end Sample

section

variable {site : AuthSite} {subject : Subject} {moments : Nat → Moment} {first : AuthWorld}
variable {early late : Workers}

/-- Between any two moments of a run less than a window apart, the routes refuse at most twice
the threshold and, for each worker, three more attempts that are charged to one counter,
unless the counter is cleared in between; it is cleared at most once for each success. -/
theorem failures_bounded (answers : ∀ n, (moments n).redis = .answered)
    (unused : Unused site subject first)
    (before : WorkerRun site moments (Config.idle first) early)
    (during : WorkerRun site moments early late)
    (soon : late.shared.now < early.shared.now + subject.window site)
    : subject.resets site late.shared ≤ subject.successes site late.shared
      ∧ (subject.resets site late.shared = subject.resets site early.shared
          → subject.failures site late.shared
            ≤ subject.failures site early.shared
              + 2 * (subject.threshold site + late.threads.length - 1)
              + late.threads.length) := by
  obtain ⟨stages, steady⟩ := metered_reaches answers unused before
  obtain ⟨later, steady'⟩ := steady_reaches (Metered.balances answers) steady during
  have metered := steady'.inv
  refine ⟨Nat.le_trans (Nat.le_add_right _ _) metered.earned, fun same => ?_⟩
  obtain ⟨ticks, tracked, counted⟩ := metered.tracks
  have recent
      : ticks.countP (fun tick => early.shared.now ≤ tick.time)
        ≤ ticks.countP (fun tick =>
            early.shared.now ≤ tick.time
            ∧ tick.time < early.shared.now + subject.window site) := by
    refine List.countP_mono_left fun tick member after => ?_
    have past := tracked.past tick member
    have after := of_decide_eq_true after
    exact decide_eq_true ⟨after, by omega⟩
  have interval := tracked.windowed.interval early.shared.now
  have owing : later.countP (· == .owing) ≤ later.length := List.countP_le_length
  have counted := counted same
  rw [steady'.length] at interval owing
  omega

theorem failures_bounded_sample
    : ∃ late,
        WorkerRun Sample.site Sample.moments (Config.idle Sample.world) late
        ∧ late.threads.length = 2
        ∧ Sample.subject.failures Sample.site late.shared ≤ 6 := by
  obtain ⟨early, late, before, during, -, -, -, now, length, unreset, -⟩ := Sample.refused_run
  have bounded :=
    failures_bounded (fun _ => rfl) Sample.unused .refl (before.trans during)
      (by rw [now]; decide)
  refine ⟨late, before.trans during, length, ?_⟩
  have few := bounded.2 unreset
  rw [length] at few
  exact few

/-- From the moment that a counter is full until it expires, it stays full and its expiry stays
the same; all workers together make fewer attempts than there were workers, unless one of
these clears the counter after a success. -/
theorem lockout_holds {counter : Windows.Counter}
    (answers : ∀ n, (moments n).redis = .answered) (unused : Unused site subject first)
    (before : WorkerRun site moments (Config.idle first) early)
    (full
      : subject.counter site early.shared = some counter
        ∧ subject.threshold site ≤ counter.count)
    (during : WorkerRun site moments early late) (soon : late.shared.now < counter.expiresAt)
    (unreset
      : early.threads.length ≤ 1
        ∨ subject.resets site late.shared = subject.resets site early.shared)
    : (∃ later,
        subject.counter site late.shared = some later
        ∧ later.expiresAt = counter.expiresAt
        ∧ subject.threshold site ≤ later.count)
      ∧ subject.attempts site late.shared
        ≤ subject.attempts site early.shared + (early.threads.length - 1) := by
  obtain ⟨stages, steady⟩ := metered_reaches answers unused before
  have room := steady.inv.room counter full.1 full.2
  have few : stages.countP Stage.busy < early.threads.length := by
    rw [← steady.length]
    omega
  have passed : stages.countP (· == .passed) ≤ stages.countP Stage.busy := by
    refine List.countP_mono_left fun stage _ same => ?_
    rw [eq_of_beq same]
    rfl
  have locked
      : Locked site subject early.shared counter.expiresAt (stages.countP Stage.busy) stages
          early.shared :=
    fun _ =>
      .inl ⟨rfl, ⟨counter, (Windows.live_eq_some.mp full.1).1, rfl, full.2⟩, Nat.le_refl _,
        Nat.add_le_add_left passed _⟩
  obtain ⟨later, steady'⟩ :=
    steady_reaches (Locked.balances answers) (steady.mono locked) during
  rcases steady'.inv soon with ⟨-, ⟨last, found, expires, still⟩, -, bound⟩ | ⟨cleared, some⟩
  · have alive : subject.counter site late.shared = some last :=
      Windows.live_eq_some.mpr ⟨found, by rw [expires]; exact soon⟩
    exact ⟨⟨last, alive, expires, still⟩, by omega⟩
  · rcases unreset with alone | same <;> omega

/-- The second worker is answered without an attempt. -/
theorem lockout_holds_sample
    : ∃ early late,
        WorkerRun Sample.site Sample.moments early late
        ∧ late.threads.length = 2
        ∧ (late.ended 1).isSome
        ∧ Sample.subject.attempts Sample.site early.shared = 1
        ∧ Sample.subject.attempts Sample.site late.shared ≤ 1 := by
  obtain ⟨early, late, before, during, locked, alone, attempts, now, length, -, ended⟩ :=
    Sample.refused_run
  have held :=
    lockout_holds (fun _ => rfl) Sample.unused before ⟨eq_of_beq locked, by decide⟩ during
      (by rw [now]; decide) (.inl (Nat.le_of_eq alone))
  refine ⟨early, late, during, length, ended, attempts, ?_⟩
  have few := held.2
  omega

end

end WorkflowForge.AuthRoutes
