import Mathlib.Data.List.Count
import Mathlib.Tactic.Common

/-! Counters of fixed windows.
A counter is opened by the first event after its predecessor has expired, and expires one
width later. While each event finds room in its counter, few events fall into any interval.
-/

namespace Windows

/-- A counted event, and when the window that it is counted in was opened. -/
structure Tick where
  time : Nat
  opened : Nat
  deriving DecidableEq

/-- Disjoint windows of one width, with a limited number of events in each. -/
structure Windowed (width limit : Nat) (ticks : List Tick) : Prop where
  inside : ∀ tick ∈ ticks, tick.opened ≤ tick.time ∧ tick.time < tick.opened + width
  limited : ∀ opened, ticks.countP (fun tick => tick.opened = opened) ≤ limit
  disjoint
    : ∀ first ∈ ticks, ∀ second ∈ ticks,
        first.opened < second.opened → first.opened + width ≤ second.opened

namespace Windowed

variable {width limit : Nat} {ticks : List Tick}

theorem nil : Windowed width limit [] where
  inside _ member := by cases member
  limited _ := Nat.zero_le _
  disjoint _ member := by cases member

theorem mono {more : Nat} (windowed : Windowed width limit ticks) (le : limit ≤ more)
    : Windowed width more ticks where
  inside := windowed.inside
  limited opened := Nat.le_trans (windowed.limited opened) le
  disjoint := windowed.disjoint

/-- Events of one window. -/
theorem countP_le {chosen : Tick → Bool} (windowed : Windowed width limit ticks)
    (same
      : ∀ first ∈ ticks, ∀ second ∈ ticks,
          chosen first = true → chosen second = true → first.opened = second.opened)
    : ticks.countP chosen ≤ limit := by
  rcases Nat.eq_zero_or_pos (ticks.countP chosen) with none | some
  · rw [none]
    exact Nat.zero_le _
  · obtain ⟨first, member, picked⟩ := List.countP_pos_iff.mp some
    refine Nat.le_trans (List.countP_mono_left fun second member' picked' => ?_)
      (windowed.limited first.opened)
    exact decide_eq_true (same second member' first member picked' picked)

/-- An interval as wide as the windows meets at most two of them: one that was open at its
beginning, and one that was opened within it. -/
theorem interval (windowed : Windowed width limit ticks) (start : Nat)
    : ticks.countP (fun tick => start ≤ tick.time ∧ tick.time < start + width) ≤ 2 * limit := by
  have split
      : ticks.countP (fun tick => start ≤ tick.time ∧ tick.time < start + width)
        = (ticks.filter (fun tick => tick.opened ≤ start)).countP
            (fun tick => start ≤ tick.time ∧ tick.time < start + width)
          + (ticks.filter (fun tick => !decide (tick.opened ≤ start))).countP
              (fun tick => start ≤ tick.time ∧ tick.time < start + width) := by
    rw [← List.countP_append]
    exact (List.filter_append_perm _ ticks).countP_eq _ |>.symm
  rw [split, List.countP_filter, List.countP_filter, Nat.two_mul]
  refine Nat.add_le_add ?_ ?_
  · -- Of two windows opened before the interval, the earlier one is over.
    refine windowed.countP_le fun first member second member' picked picked' => ?_
    simp only [Bool.and_eq_true, decide_eq_true_eq] at picked picked'
    have bound := (windowed.inside first member).2
    have bound' := (windowed.inside second member').2
    have early := windowed.disjoint first member second member'
    have late := windowed.disjoint second member' first member
    omega
  · -- Of two windows opened within the interval, the later one would be opened after it.
    refine windowed.countP_le fun first member second member' picked picked' => ?_
    simp only [Bool.and_eq_true, decide_eq_true_eq, Bool.not_eq_true', decide_eq_false_iff_not]
      at picked picked'
    have bound := (windowed.inside first member).1
    have bound' := (windowed.inside second member').1
    have early := windowed.disjoint first member second member'
    have late := windowed.disjoint second member' first member
    omega

end Windowed

-----------------------------------------------------------------------------------------
-- Counters
-----------------------------------------------------------------------------------------

/-- A count, and when it expires. -/
structure Counter where
  count : Nat
  expiresAt : Nat
  deriving DecidableEq

/-- What is left of a counter at an instant. -/
def live (counter : Option Counter) (now : Nat) : Option Counter :=
  counter.filter (fun current => now < current.expiresAt)

/-- Count one more event, in a new window when the counter has expired. -/
def bump (width now : Nat) (counter : Option Counter) : Counter :=
  match live counter now with
  | some current => { current with count := current.count + 1 }
  | none => { count := 1, expiresAt := now + width }

/-- The event that `bump` counts. -/
def tick (width now : Nat) (counter : Option Counter) : Tick where
  time := now
  opened := (bump width now counter).expiresAt - width

theorem live_eq_some {counter : Option Counter} {now : Nat} {current : Counter}
    : live counter now = some current ↔ counter = some current ∧ now < current.expiresAt := by
  simp [live, Option.filter_eq_some_iff]

theorem live_none (now : Nat) : live none now = none := rfl

/-- The counter counts the events of the last window, and the windows before it are over. -/
structure Tracks (width limit : Nat) (ticks : List Tick) (counter : Option Counter) (now : Nat)
    : Prop where
  windowed : Windowed width limit ticks
  past : ∀ tick ∈ ticks, tick.time ≤ now
  empty : counter = none → ticks = []
  current
    : ∀ current,
        counter = some current
        → ∃ opened,
            current.expiresAt = opened + width
            ∧ opened ≤ now
            ∧ ticks.countP (fun tick => tick.opened = opened) = current.count
            ∧ ∀ tick ∈ ticks, tick.opened = opened ∨ tick.opened + width ≤ opened

namespace Tracks

variable {width limit now later : Nat} {ticks : List Tick} {counter : Option Counter}

theorem start : Tracks width limit [] none now where
  windowed := .nil
  past _ member := by cases member
  empty _ := rfl
  current _ same := by cases same

theorem mono {more : Nat} (tracks : Tracks width limit ticks counter now) (le : limit ≤ more)
    : Tracks width more ticks counter now where
  windowed := tracks.windowed.mono le
  past := tracks.past
  empty := tracks.empty
  current := tracks.current

theorem wait (tracks : Tracks width limit ticks counter now) (after : now ≤ later)
    : Tracks width limit ticks counter later where
  windowed := tracks.windowed
  past tick member := Nat.le_trans (tracks.past tick member) after
  empty := tracks.empty
  current current same := by
    obtain ⟨opened, expires, before, counted, others⟩ := tracks.current current same
    exact ⟨opened, expires, Nat.le_trans before after, counted, others⟩

/-- Where an event is counted, and what is counted with it. -/
theorem opening (tracks : Tracks width limit ticks counter now)
    : (bump width now counter).expiresAt = (tick width now counter).opened + width
      ∧ (tick width now counter).opened ≤ now
      ∧ ticks.countP (fun other => other.opened = (tick width now counter).opened) + 1
        = (bump width now counter).count
      ∧ ∀ other ∈ ticks,
          other.opened = (tick width now counter).opened
          ∨ other.opened + width ≤ (tick width now counter).opened := by
  cases alive : live counter now with
  | some current =>
      obtain ⟨same, -⟩ := live_eq_some.mp alive
      obtain ⟨opened, expires, before, counted, others⟩ := tracks.current current same
      have here : (tick width now counter).opened = opened := by
        simp [tick, bump, alive, expires]
      rw [here]
      exact ⟨by simp [bump, alive, expires], before, by simp [bump, alive, counted], others⟩
  | none =>
      have here : (tick width now counter).opened = now := by simp [tick, bump, alive]
      -- The last window is over, and with it all earlier ones.
      have ended : ∀ other ∈ ticks, other.opened + width ≤ now := by
        intro other member
        cases shape : counter with
        | none => simp [tracks.empty shape] at member
        | some last =>
            obtain ⟨opened, expires, before, -, others⟩ := tracks.current last shape
            have expired : last.expiresAt ≤ now := by
              by_contra unexpired
              have still := live_eq_some.mpr ⟨shape, Nat.lt_of_not_le unexpired⟩
              rw [alive] at still
              cases still
            rcases others other member with same | earlier <;> omega
      have apart : ticks.countP (fun other => other.opened = now) = 0 := by
        refine List.countP_eq_zero.mpr fun other member same => ?_
        have bounds := tracks.windowed.inside other member
        have bound := ended other member
        have here : other.opened = now := of_decide_eq_true same
        omega
      rw [here, apart]
      exact ⟨by simp [bump, alive], Nat.le_refl _, by simp [bump, alive],
        fun other member => .inr (ended other member)⟩

/-- An event that finds room in its counter. -/
theorem bump (tracks : Tracks width limit ticks counter now) (wide : 0 < width)
    (positive : 0 < limit)
    (room : ∀ current, live counter now = some current → current.count < limit)
    : Tracks width limit (ticks ++ [tick width now counter]) (some (bump width now counter))
        now := by
  obtain ⟨expires, before, counted, others⟩ := tracks.opening
  have within : (Windows.bump width now counter).count ≤ limit := by
    cases alive : live counter now with
    | some current => simpa [Windows.bump, alive] using Nat.succ_le_of_lt (room current alive)
    | none => simpa [Windows.bump, alive] using Nat.succ_le_of_lt positive
  have timely : now < (tick width now counter).opened + width := by
    rw [← expires]
    cases alive : live counter now with
    | some current => simpa [Windows.bump, alive] using (live_eq_some.mp alive).2
    | none => simpa [Windows.bump, alive] using wide
  have added (opened : Nat)
      : (ticks ++ [tick width now counter]).countP (fun other => other.opened = opened)
        = ticks.countP (fun other => other.opened = opened)
          + if (tick width now counter).opened = opened then 1 else 0 := by
    simp [List.countP_append, List.countP_singleton]
  refine {
    windowed := { inside := ?_, limited := ?_, disjoint := ?_ }
    past := ?_
    empty := by simp
    current := ?_
  }
  · intro other member
    rcases List.mem_append.mp member with old | new
    · exact tracks.windowed.inside other old
    · rw [List.mem_singleton.mp new]
      exact ⟨before, timely⟩
  · intro opened
    rw [added]
    split
    · rename_i same
      rw [← same, counted]
      exact within
    · exact tracks.windowed.limited opened
  · intro first member second member' earlier
    rcases List.mem_append.mp member with old | new
    · rcases List.mem_append.mp member' with old' | new'
      · exact tracks.windowed.disjoint first old second old' earlier
      · rw [List.mem_singleton.mp new'] at earlier ⊢
        rcases others first old with same | earlier
        · omega
        · exact earlier
    · rw [List.mem_singleton.mp new] at earlier ⊢
      rcases List.mem_append.mp member' with old' | new'
      · rcases others second old' with same | ended <;> omega
      · rw [List.mem_singleton.mp new'] at earlier
        exact absurd earlier (Nat.lt_irrefl _)
  · intro other member
    rcases List.mem_append.mp member with old | new
    · exact tracks.past other old
    · rw [List.mem_singleton.mp new]
      exact Nat.le_refl _
  · intro current same
    cases same
    refine ⟨(tick width now counter).opened, expires, before, ?_, ?_⟩
    · rw [added, if_pos rfl, counted]
    · intro other member
      rcases List.mem_append.mp member with old | new
      · exact others other old
      · rw [List.mem_singleton.mp new]
        exact .inl rfl

end Tracks

end Windows
