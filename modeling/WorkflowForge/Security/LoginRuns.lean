import WorkflowForge.Security.RateLimit

/-! How many passwords are verified for one identifier within one window.
A request that has read a counter below the threshold goes on to the verification, however
many others have read the same counter before it is incremented.
-/

namespace WorkflowForge.RateLimit

open Python

/-- The request has passed the check of the identifier's counter and is not recorded yet. -/
def LoginPhase.passed (threshold : Nat) : LoginPhase → Bool
  | .identifierRead count => decide (count < threshold)
  | .identifierChecked first => first.allowed
  | .clientRead first _ => first.allowed
  | .verifying => true
  | .failed => true
  | _ => false

namespace Limiter

variable (limiter : Limiter)

def threshold : Nat := limiter.settings.loginIdentifierThreshold

/-- The failures recorded for the identifier. -/
def recorded (state : LoginState) : Nat := counter state limiter.identifierKey

/-- The requests that have passed the check and are not recorded. -/
def unrecorded (state : LoginState) : Nat :=
  state.requests.countP (fun request => request.phase.passed limiter.threshold)

/-- No read passes with the unrecorded requests at the threshold, and no Redis command on the
identifier's counter fails; under the fail-closed policy a read may fail. -/
def CountedReply (state : LoginState) : LoginPhase → RedisReply → Prop
  | .arrived, .succeeds _ =>
      limiter.recorded state < limiter.threshold
      → limiter.recorded state + limiter.unrecorded state < limiter.threshold
  | .arrived, .fails => limiter.settings.failurePolicy = .failClosed
  | .identifierRead _, .fails => limiter.settings.failurePolicy = .failClosed
  | .failed, .fails => False
  | _, _ => True

def Counted (state : LoginState) : LoginEvent → Prop
  | .redis i reply =>
      ∀ request, state.requests[i]? = some request
        → limiter.CountedReply state request.phase reply
  | _ => True

end Limiter

/-- Replacing one element moves the count by what it was and by what it is. -/
theorem countP_set_add {α : Type} (p : α → Bool) (new : α) {rows : List α} {i : Nat} {old : α}
    (found : rows[i]? = some old)
    : (rows.set i new).countP p + (if p old then 1 else 0)
      = rows.countP p + (if p new then 1 else 0) := by
  obtain ⟨bounded, at_⟩ := List.getElem?_eq_some_iff.mp found
  rw [List.countP_set bounded, at_]
  by_cases held : p old = true
  · have some : 0 < rows.countP p :=
      List.countP_pos_iff.mpr ⟨old, List.mem_of_getElem? found, held⟩
    simp only [held, if_true]
    omega
  · simp [held]

/-- Whether the verification of the request has failed and waits to be recorded. -/
def LoginRequest.hasFailed (request : LoginRequest) : Bool := request.phase == .failed

/-- Recorded and unrecorded passes stay within the threshold; every verification is recorded
or about to be. -/
structure Limiter.Within (limiter : Limiter) (state : LoginState) : Prop where
  passes : limiter.recorded state + limiter.unrecorded state ≤ limiter.threshold
  verified
    : state.verified ≤ limiter.recorded state + state.requests.countP LoginRequest.hasFailed

namespace Limiter.Within

variable {limiter : Limiter} {state : LoginState} {i : Nat} {request : LoginRequest}
  {phase : LoginPhase}

theorem bound (within : limiter.Within state) : state.verified ≤ limiter.threshold := by
  have failed : state.requests.countP LoginRequest.hasFailed ≤ limiter.unrecorded state := by
    refine List.countP_mono_left fun request _ failed => ?_
    have phase : request.phase = .failed := by simpa [LoginRequest.hasFailed] using failed
    rw [phase]
    rfl
  have passes := within.passes
  have verified := within.verified
  omega

theorem initial (first : state.Initial limiter) : limiter.Within state where
  passes := by
    simp [recorded, unrecorded, counter, identifierKey, first.counter, first.requests]
  verified := by simp [first.verified]

theorem unrecorded_move (limiter : Limiter) (phase : LoginPhase)
    (found : state.requests[i]? = some request)
    : limiter.unrecorded (moveTo state i request phase)
        + (if request.phase.passed limiter.threshold then 1 else 0)
      = limiter.unrecorded state + (if phase.passed limiter.threshold then 1 else 0) :=
  countP_set_add (fun request : LoginRequest => request.phase.passed limiter.threshold)
    { request with phase } found

theorem failed_move (phase : LoginPhase) (found : state.requests[i]? = some request)
    : (moveTo state i request phase).requests.countP LoginRequest.hasFailed
        + (if request.phase = .failed then 1 else 0)
      = state.requests.countP LoginRequest.hasFailed + (if phase = .failed then 1 else 0) := by
  have moved := countP_set_add LoginRequest.hasFailed { request with phase } found
  simpa only [LoginRequest.hasFailed, moveTo, beq_iff_eq] using moved

/-- A request moves on without a new pass. -/
theorem of_move (within : limiter.Within state) (found : state.requests[i]? = some request)
    (before : request.phase ≠ .failed) (after : phase ≠ .failed)
    (keeps : phase.passed limiter.threshold = true
      → request.phase.passed limiter.threshold = true)
    : limiter.Within (moveTo state i request phase) where
  passes := by
    have moved := unrecorded_move limiter phase found
    have passes : limiter.recorded (moveTo state i request phase) + limiter.unrecorded state
        ≤ limiter.threshold := within.passes
    split at moved <;> split at moved
    · omega
    · omega
    next refused passed => exact absurd (keeps passed) refused
    · omega
  verified := by
    have moved := failed_move phase found
    rw [if_neg before, if_neg after] at moved
    have verified : (moveTo state i request phase).verified
        ≤ limiter.recorded (moveTo state i request phase)
          + state.requests.countP LoginRequest.hasFailed := within.verified
    omega

theorem of_afterFailure {next : RateLimitDecision → LoginPhase} (within : limiter.Within state)
    (found : state.requests[i]? = some request) (before : request.phase ≠ .failed)
    (opened : limiter.settings.failurePolicy = .failOpen
      → next { allowed := true } ≠ .failed
        ∧ ((next { allowed := true }).passed limiter.threshold = true
          → request.phase.passed limiter.threshold = true))
    : limiter.Within (limiter.afterFailure state i request next) := by
  unfold afterFailure redisFailure
  cases policy : limiter.settings.failurePolicy with
  | failOpen => exact within.of_move found before (opened policy).1 (opened policy).2
  | failClosed => exact within.of_move found before (by simp) (by simp [LoginPhase.passed])

/-- The read of the identifier's counter. -/
theorem of_read (within : limiter.Within state) (found : state.requests[i]? = some request)
    (arrived : request.phase = .arrived)
    (counted : limiter.recorded state < limiter.threshold
      → limiter.recorded state + limiter.unrecorded state < limiter.threshold)
    : limiter.Within
        (moveTo state i request (.identifierRead (limiter.recorded state))) where
  passes := by
    have moved := unrecorded_move limiter (.identifierRead (limiter.recorded state)) found
    have passes := within.passes
    have same : limiter.recorded
        (moveTo state i request (.identifierRead (limiter.recorded state)))
        = limiter.recorded state := rfl
    simp only [arrived, LoginPhase.passed, decide_eq_true_eq, Bool.false_eq_true, if_false]
      at moved
    rw [same]
    split at moved
    next below =>
      have := counted below
      omega
    · omega
  verified := by
    have moved := failed_move (.identifierRead (limiter.recorded state)) found
    rw [arrived, if_neg (by simp), if_neg (by simp)] at moved
    have verified := within.verified
    show state.verified ≤ limiter.recorded state + _
    omega

/-- A failed verification. -/
theorem of_verified (within : limiter.Within state) (found : state.requests[i]? = some request)
    (verifying : request.phase = .verifying)
    : limiter.Within { moveTo state i request .failed with verified := state.verified + 1 } where
  passes := by
    have moved := unrecorded_move limiter .failed found
    rw [verifying] at moved
    have passes := within.passes
    show limiter.recorded state + limiter.unrecorded (moveTo state i request .failed) ≤ _
    simp only [LoginPhase.passed, if_true] at moved
    omega
  verified := by
    have moved := failed_move .failed found
    rw [verifying, if_neg (by simp), if_pos rfl] at moved
    have verified := within.verified
    show state.verified + 1
      ≤ limiter.recorded state
        + (moveTo state i request .failed).requests.countP LoginRequest.hasFailed
    omega

theorem recorded_increment (limiter : Limiter) (state : LoginState)
    : limiter.recorded (increment state limiter.identifierKey) = limiter.recorded state + 1 := by
  simp [recorded, counter, increment]

/-- The record of a failure. -/
theorem of_recorded (within : limiter.Within state) (found : state.requests[i]? = some request)
    (failed : request.phase = .failed)
    : limiter.Within
        (moveTo (increment state limiter.identifierKey) i request .identifierRecorded) where
  passes := by
    have moved := unrecorded_move limiter .identifierRecorded found
    rw [failed] at moved
    have passes := within.passes
    have more := recorded_increment limiter state
    show limiter.recorded (increment state limiter.identifierKey)
      + limiter.unrecorded (moveTo state i request .identifierRecorded) ≤ _
    simp only [LoginPhase.passed, if_true, Bool.false_eq_true, if_false] at moved
    omega
  verified := by
    have moved := failed_move .identifierRecorded found
    rw [failed, if_pos rfl, if_neg (by simp)] at moved
    have verified := within.verified
    have more := recorded_increment limiter state
    show state.verified
      ≤ limiter.recorded (increment state limiter.identifierKey)
        + (moveTo state i request .identifierRecorded).requests.countP LoginRequest.hasFailed
    omega

/-- Counters of other keys do not matter. -/
theorem of_counters {next : LoginState} (within : limiter.Within state)
    (counter : next.counters limiter.identifierKey = state.counters limiter.identifierKey)
    (requests : next.requests = state.requests) (verified : next.verified = state.verified)
    : limiter.Within next where
  passes := by
    have passes := within.passes
    simpa only [recorded, Limiter.counter, unrecorded, counter, requests] using passes
  verified := by
    have bounded := within.verified
    simpa only [recorded, Limiter.counter, counter, requests, verified] using bounded

end Limiter.Within

theorem concluded_passed (threshold : Nat) (first second : RateLimitDecision)
    : Limiter.concluded first second ≠ .failed
      ∧ ((Limiter.concluded first second).passed threshold = true → first.allowed = true) := by
  unfold Limiter.concluded combinedDecision
  cases first.allowed <;> cases second.allowed <;> simp [LoginPhase.passed]

theorem decision_allowed (threshold windowSeconds count : Nat) (ttl : Int)
    : (decision threshold windowSeconds count ttl).allowed = true ↔ count < threshold := by
  unfold decision
  split <;> simp_all

theorem Limiter.step_redis {limiter : Limiter} {state next : LoginState} {i : Nat}
    {request : LoginRequest} {reply : RedisReply} (within : limiter.Within state)
    (found : state.requests[i]? = some request)
    (counted : limiter.CountedReply state request.phase reply)
    (taken : limiter.redis state i request request.phase reply = some next)
    : limiter.Within next := by
  have closed (policy : limiter.settings.failurePolicy = .failClosed)
      (next : RateLimitDecision → LoginPhase) (before : request.phase ≠ .failed)
      : limiter.Within (limiter.afterFailure state i request next) :=
    within.of_afterFailure found before (fun opened => by rw [policy] at opened; cases opened)
  cases phase : request.phase with
  | arrived =>
      rw [phase] at counted taken
      cases reply with
      | succeeds ttl =>
          cases taken
          exact within.of_read found phase counted
      | fails =>
          cases taken
          exact closed counted _ (by simp [phase])
  | identifierRead count =>
      rw [phase] at counted taken
      cases reply with
      | succeeds ttl =>
          cases taken
          refine within.of_move found (by simp [phase]) (by simp) ?_
          rw [phase]
          simp only [LoginPhase.passed, decision_allowed, decide_eq_true_eq]
          exact id
      | fails =>
          cases taken
          exact closed counted _ (by simp [phase])
  | identifierChecked first =>
      rw [phase] at taken
      cases reply with
      | succeeds ttl =>
          cases taken
          exact within.of_move found (by simp [phase]) (by simp)
            (by simp [phase, LoginPhase.passed])
      | fails =>
          cases taken
          refine within.of_afterFailure found (by simp [phase]) fun _ => ?_
          rw [phase]
          exact concluded_passed _ first _
  | clientRead first count =>
      rw [phase] at taken
      have move (second : RateLimitDecision)
          : (concluded first second).passed limiter.threshold = true
            → request.phase.passed limiter.threshold = true := by
        rw [phase]
        exact (concluded_passed _ first second).2
      cases reply with
      | succeeds ttl =>
          cases taken
          exact within.of_move found (by simp [phase]) (concluded_passed 0 first _).1 (move _)
      | fails =>
          cases taken
          exact within.of_afterFailure found (by simp [phase])
            (fun _ => ⟨(concluded_passed 0 first _).1, move _⟩)
  | verifying => rw [phase] at taken; cases reply <;> cases taken
  | failed =>
      rw [phase] at counted taken
      cases reply with
      | succeeds ttl =>
          cases taken
          exact within.of_recorded found phase
      | fails => exact counted.elim
  | identifierRecorded =>
      rw [phase] at taken
      cases reply with
      | succeeds ttl =>
          cases taken
          have apart : limiter.identifierKey ≠ loginClientKey limiter.hash request.clientKey :=
            Ne.symm (loginClientKey_ne limiter.hash request.clientKey limiter.identifier)
          have moved : limiter.Within (moveTo state i request (.answered 401)) :=
            within.of_move found (by simp [phase]) (by simp) (by simp [LoginPhase.passed])
          refine moved.of_counters ?_ rfl rfl
          simp [moveTo, increment, Function.update_of_ne apart]
      | fails =>
          cases taken
          exact within.of_afterFailure found (by simp [phase])
            (fun _ => ⟨by simp, by simp [LoginPhase.passed]⟩)
  | answered status => rw [phase] at taken; cases reply <;> cases taken

theorem Limiter.step_within {limiter : Limiter} {state next : LoginState} {event : LoginEvent}
    (within : limiter.Within state) (counted : limiter.Counted state event)
    (taken : limiter.step state event = some next)
    : limiter.Within next := by
  cases event with
  | arrive clientKey =>
      cases taken
      exact {
        passes := by
          simpa [recorded, unrecorded, counter, LoginPhase.passed] using within.passes
        verified := by
          simpa [recorded, counter, LoginRequest.hasFailed] using within.verified }
  | redis i reply =>
      simp only [step] at taken
      split at taken
      next request found => exact step_redis within found (counted request found) taken
      · cases taken
  | verify i =>
      simp only [step] at taken
      split at taken
      next request found =>
        split at taken
        next verifying =>
          cases taken
          exact within.of_verified found verifying
        · cases taken
      · cases taken
  | elsewhere key value =>
      simp only [step] at taken
      split at taken
      · cases taken
      next apart =>
        cases taken
        exact within.of_counters (Function.update_of_ne (Ne.symm apart) _ _) rfl rfl

/-- While no read passes with the unrecorded requests at the threshold, at most as many
passwords are verified as the threshold says. -/
theorem verified_within_threshold (limiter : Limiter) {first state : LoginState}
    (initial : first.Initial limiter) (run : LoginRun limiter limiter.Counted first state)
    : state.verified ≤ limiter.settings.loginIdentifierThreshold :=
  (run.invariant (fun _ _ _ within counted taken => Limiter.step_within within counted taken)
    (Limiter.Within.initial initial)).bound

namespace Sample

def limiter : Limiter where
  settings := { loginIdentifierThreshold := 1 }
  hash text := text
  identifier := ['u']

def first : LoginState where
  counters _ := none
  requests := []
  verified := 0

theorem first_initial : first.Initial limiter := ⟨rfl, rfl, rfl⟩

def reads (i : Nat) : List LoginEvent :=
  List.replicate 4 (.redis i (.succeeds 900))

/-- Two requests read the counters before either password is verified. -/
def overlapping : List LoginEvent :=
  [.arrive none, .arrive none] ++ reads 0 ++ reads 1 ++ [.verify 0, .verify 1]

/-- The second request comes after the first. -/
def inTurn : List LoginEvent :=
  [.arrive none] ++ reads 0
    ++ [.verify 0, .redis 0 (.succeeds 900), .redis 0 (.succeeds 900), .arrive none] ++ reads 1

def counted (state : LoginState) : LoginEvent → Bool
  | .redis i (.succeeds _) =>
      (state.requests[i]?).all (fun request =>
        request.phase != .arrived || !decide (limiter.recorded state < limiter.threshold)
        || decide (limiter.recorded state + limiter.unrecorded state < limiter.threshold))
  | .redis _ .fails => false
  | _ => true

theorem counted_sound (state : LoginState) (event : LoginEvent)
    (checked : counted state event = true)
    : limiter.Counted state event := by
  cases event with
  | redis i reply =>
      cases reply with
      | fails => cases checked
      | succeeds ttl =>
          intro request found
          cases phase : request.phase with
          | arrived =>
              intro below
              simpa [counted, found, phase, below] using checked
          | _ => trivial
  | _ => trivial

end Sample

/-- The second of two requests in turn is refused; one password has been verified. -/
theorem in_turn_within
    : ∃ state : LoginState,
        LoginRun Sample.limiter Sample.limiter.Counted Sample.first state
        ∧ state.requests.map (·.phase) = [.answered 401, .answered 429]
        ∧ state.verified ≤ 1 := by
  have checked
      : (Concurrency.follow Sample.limiter.step Sample.counted Sample.inTurn
            Sample.first).any
          (fun state => state.requests.map (·.phase) == [.answered 401, .answered 429])
        = true := by
    decide +kernel
  obtain ⟨state, run, found⟩ := Concurrency.exists_run_of_check Sample.counted_sound checked
  exact ⟨state, run, beq_iff_eq.mp found,
    verified_within_threshold Sample.limiter Sample.first_initial run⟩

/-- Overlapping requests verify more passwords than the threshold, with every Redis command
atomic and answered. -/
theorem overlapping_exceeds
    : ¬ ∀ (limiter : Limiter) (first state : LoginState),
        first.Initial limiter
        → LoginRun limiter
            (fun _ event => ∀ i, event ≠ .redis i .fails) first state
        → state.verified ≤ limiter.settings.loginIdentifierThreshold := by
  intro within
  have checked
      : (Concurrency.follow Sample.limiter.step
            (fun _ event => match event with | .redis _ .fails => false | _ => true)
            Sample.overlapping Sample.first).any
          (fun state => state.verified == 2) = true := by
    decide +kernel
  have answered (state : LoginState) (event : LoginEvent)
      (checked : (match event with | .redis _ .fails => false | _ => true) = true)
      : ∀ i, event ≠ .redis i .fails := by
    rintro i rfl
    cases checked
  obtain ⟨state, run, found⟩ := Concurrency.exists_run_of_check answered checked
  have bound := within Sample.limiter Sample.first state Sample.first_initial run
  rw [beq_iff_eq.mp found] at bound
  exact absurd bound (by decide)

end WorkflowForge.RateLimit
