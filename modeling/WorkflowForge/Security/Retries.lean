import WorkflowForge.Concurrency.Sequential
import WorkflowForge.Security.Lockouts

/-! Turned away, a login can be tried again after the seconds that it is told.
The seconds come from a rounded TTL, or from the window where the counter expires between the
two reads of the check.
-/

namespace WorkflowForge.AuthRoutes

open Concurrency Python
open Identity (TokenPair)
open RateLimit (RateLimitDecision)

variable {site : AuthSite} {moments : Nat → Moment} {i : Nat} {world : AuthWorld}

/-- Alone, the program ends in the condition. -/
abbrev EndsIn (moments : Nat → Moment) (i : Nat) {α : Type}
    (post : Except AuthExn α → AuthWorld → Prop) (program : AuthProgram α) (world : AuthWorld)
    : Prop :=
  Ends (exec moments i) False post program world

/-- The counters and attempts are as before, and time has passed. -/
structure Untouched (world after : AuthWorld) : Prop where
  counters : after.counters = world.counters
  attempts : after.attempts = world.attempts
  clock : world.now ≤ after.now

theorem Untouched.next (world : AuthWorld) (moment : Moment)
    : Untouched world (world.next moment) :=
  ⟨rfl, rfl, Nat.le_add_right _ _⟩

theorem Untouched.trans {first second third : AuthWorld} (early : Untouched first second)
    (late : Untouched second third)
    : Untouched first third where
  counters := late.counters.trans early.counters
  attempts := late.attempts.trans early.attempts
  clock := Nat.le_trans early.clock late.clock

/-- A counter that lives later is found now. -/
theorem Untouched.live {after : AuthWorld} {key : Text} {time : Nat} {counter : Windows.Counter}
    (untouched : Untouched world after) (past : after.now ≤ time)
    (found : Windows.live (world.counters key) time = some counter)
    : Windows.live (after.counters key) after.now = some counter := by
  obtain ⟨same, alive⟩ := Windows.live_eq_some.mp found
  rw [← untouched.counters] at same
  exact Windows.live_eq_some.mpr ⟨same, Nat.lt_of_le_of_lt past alive⟩

/-- The counter of the subject is below its threshold from `now` on, unless it is charged. -/
def Subject.Unfilled (site : AuthSite) (subject : Subject) (world : AuthWorld) (now : Nat)
    : Prop :=
  ∀ counter,
    Windows.live (world.counters (subject.key site)) now = some counter
    → counter.count < subject.threshold site

theorem Subject.Unfilled.later {subject : Subject} {now later : Nat}
    (unfilled : subject.Unfilled site world now) (after : now ≤ later)
    : subject.Unfilled site world later := by
  intro counter found
  obtain ⟨same, alive⟩ := Windows.live_eq_some.mp found
  exact unfilled counter (Windows.live_eq_some.mpr ⟨same, Nat.lt_of_le_of_lt after alive⟩)

theorem Subject.Unfilled.congr {subject : Subject} {now : Nat} {other : AuthWorld}
    (unfilled : subject.Unfilled site world now)
    (same : other.counters (subject.key site) = world.counters (subject.key site))
    : subject.Unfilled site other now := by
  unfold Subject.Unfilled
  rw [same]
  exact unfilled

/-- When the seconds of the decision have passed, rounded up by half a second, the counter is
below its threshold. -/
structure Judged (site : AuthSite) (subject : Subject) (world : AuthWorld)
    (decision : RateLimitDecision) (after : AuthWorld)
    : Prop where
  untouched : Untouched world after
  nonnegative : 0 ≤ decision.retryAfterSeconds
  positive : decision.allowed = false → 1 ≤ decision.retryAfterSeconds
  opens
    : subject.Unfilled site world
        (after.now + decision.retryAfterSeconds.toNat * 1000 + 500)
  allows : subject.Unfilled site world world.now → decision.allowed = true

/-- The TTL of a counter, rounded up by half a second, outlasts it. -/
theorem expiresAt_le {key : Text} {counter : Windows.Counter}
    (found : Windows.live (world.counters key) world.now = some counter)
    : counter.expiresAt ≤ world.now + (world.ttl key).toNat * 1000 + 500 := by
  simp only [AuthWorld.ttl, found, Int.toNat_natCast]
  omega

theorem judged {subject : Subject} {read after : AuthWorld} (before : Untouched world read)
    (later : Untouched read after)
    : Judged site subject world
        (RateLimit.decision (subject.threshold site) (subject.rule site).windowSeconds
          ((read.count (subject.key site)).getD 0) (after.ttl (subject.key site)))
        after := by
  have untouched := before.trans later
  have wide := subject.windowSeconds_pos site
  -- A counter found at any later time was there when it was read.
  have seen {time : Nat} (past : read.now ≤ time) {counter : Windows.Counter}
      (found : Windows.live (world.counters (subject.key site)) time = some counter)
      : read.count (subject.key site) = some counter.count := by
    simp [AuthWorld.count, before.live past found]
  unfold RateLimit.decision
  split
  · rename_i few
    refine ⟨untouched, Int.le_refl _, (by simp), ?_, fun _ => rfl⟩
    intro counter found
    have count := seen (Nat.le_trans later.clock (by omega)) found
    simpa [count] using few
  · rename_i many
    refine ⟨untouched, ?_, fun _ => ?_, ?_, ?_⟩
    · dsimp only
      split <;> omega
    · dsimp only
      split <;> omega
    · intro counter found
      have late := expiresAt_le (untouched.live (by omega) found)
      obtain ⟨-, alive⟩ := Windows.live_eq_some.mp found
      dsimp only at alive
      split at alive <;> omega
    · intro unfilled
      cases count : read.count (subject.key site) with
      | none => simp [count, subject.threshold_pos, Subject.threshold] at many
      | some value =>
          obtain ⟨counter, found, rfl⟩ := Option.map_eq_some_iff.mp count
          have still : subject.Unfilled site read read.now :=
            (unfilled.later before.clock).congr (by rw [before.counters])
          rw [count, Option.getD_some] at many
          exact absurd (still counter found) many

/-- One operation at a time. -/
theorem ends_call {α : Type} {post : Except AuthExn α → AuthWorld → Prop} {op : AuthOp}
    {next : op.Res → AuthProgram α}
    (rest
      : EndsIn moments i post
          (next (perform (moments world.calls) (world.next (moments world.calls)) op).1)
          (perform (moments world.calls) (world.next (moments world.calls)) op).2)
    : EndsIn moments i post (.call op next) world :=
  rest

/-- Alone, the program returns a value. -/
abbrev ReturnsIn (moments : Nat → Moment) (i : Nat) {α : Type} (post : α → AuthWorld → Prop)
    (program : AuthProgram α) (world : AuthWorld)
    : Prop :=
  EndsIn moments i (returns post (fun _ _ => False)) program world

theorem ReturnsIn.unhandled {α : Type} {post : α → AuthWorld → Prop} {program : AuthProgram α}
    {handler : AuthExn → AuthProgram α} (ends : ReturnsIn moments i post program world)
    : ReturnsIn moments i post (tryCatch program handler) world :=
  Ends.tryCatch ends (fun _ _ holds => holds) (fun _ _ never => never.elim)

theorem ReturnsIn.bind {α β : Type} {post : α → AuthWorld → Prop} {program : AuthProgram α}
    {next : α → AuthProgram β} {last : Except AuthExn β → AuthWorld → Prop}
    (ends : ReturnsIn moments i post program world)
    (rest : ∀ value after, post value after → EndsIn moments i last (next value) after)
    : EndsIn moments i last (program >>= next) world :=
  Ends.bind ends rest (fun _ _ never => never.elim)

theorem check_judged (answers : ∀ n, (moments n).redis = .answered) (subject : Subject)
    : ReturnsIn moments i (Judged site subject world)
        (decision site.limits (subject.rule site) false) world := by
  refine ReturnsIn.unhandled ?_
  refine ends_call ?_
  simp only [perform, commanded, answers]
  refine ends_call ?_
  simp only [perform, commanded, answers]
  exact judged (.next world _) (.next _ _)

/-- The counters that a login is checked against. -/
def RateLimitIdentity.Guards (identity : RateLimitIdentity) (subject : Subject) : Prop :=
  subject = .identifier identity.normalizedIdentifier ∨ subject = .client identity.clientKey

/-- The decision about a login, with both counters. -/
structure Sentenced (site : AuthSite) (identity : RateLimitIdentity) (world : AuthWorld)
    (decision : RateLimitDecision) (after : AuthWorld)
    : Prop where
  untouched : Untouched world after
  positive : decision.allowed = false → 1 ≤ decision.retryAfterSeconds
  opens
    : decision.allowed = false
      → ∀ subject,
          identity.Guards subject
          → subject.Unfilled site world
              (after.now + decision.retryAfterSeconds.toNat * 1000 + 500)
  allows
    : (∀ subject, identity.Guards subject → subject.Unfilled site world world.now)
      → decision.allowed = true

theorem sentenced {identity : RateLimitIdentity} {middle after : AuthWorld}
    {first second : RateLimitDecision}
    (judged : Judged site (.identifier identity.normalizedIdentifier) world first middle)
    (judged' : Judged site (.client identity.clientKey) middle second after)
    : Sentenced site identity world (RateLimit.combinedDecision first second) after := by
  have clock := judged'.untouched.clock
  have nonnegative := judged.nonnegative
  have nonnegative' := judged'.nonnegative
  unfold RateLimit.combinedDecision
  split
  · exact ⟨judged.untouched.trans judged'.untouched, (by simp), (by simp), fun _ => rfl⟩
  · rename_i refused
    simp only [Bool.and_eq_true, not_and, Bool.not_eq_true] at refused
    refine ⟨judged.untouched.trans judged'.untouched, fun _ => ?_, fun _ => ?_, fun unfilled => ?_⟩
    · dsimp only
      cases allowed : first.allowed with
      | false =>
          have positive := judged.positive allowed
          omega
      | true =>
          have positive := judged'.positive (refused allowed)
          omega
    · intro subject guards
      dsimp only
      rcases guards with rfl | rfl
      · exact judged.opens.later (by omega)
      · exact (judged'.opens.congr (by rw [judged.untouched.counters])).later (by omega)
    · have allowed := judged.allows (unfilled _ (.inl rfl))
      have allowed' :=
        judged'.allows (((unfilled _ (.inr rfl)).later judged.untouched.clock).congr
          (by rw [judged.untouched.counters]))
      rw [refused allowed] at allowed'
      cases allowed'

theorem checkLoginAllowed_sentenced (answers : ∀ n, (moments n).redis = .answered)
    (identity : RateLimitIdentity)
    : ReturnsIn moments i (Sentenced site identity world)
        (site.checkLoginAllowed identity) world := by
  refine ReturnsIn.bind (check_judged answers (.identifier _)) ?_
  intro first middle judged
  refine ReturnsIn.bind (check_judged answers (.client _)) ?_
  intro second after judged'
  exact sentenced judged judged'

-----------------------------------------------------------------------------------------
-- After the check
-----------------------------------------------------------------------------------------

/-- From any world the program returns, without an attempt. -/
def Quietly (moments : Nat → Moment) (i : Nat) {α : Type} (program : AuthProgram α) : Prop :=
  ∀ world, ReturnsIn moments i (fun _ after => after.attempts = world.attempts) program world

namespace Quietly

variable {α β : Type}

theorem bind {program : AuthProgram α} {next : α → AuthProgram β}
    (first : Quietly moments i program) (rest : ∀ value, Quietly moments i (next value))
    : Quietly moments i (program >>= next) := by
  intro world
  refine ReturnsIn.bind (first world) ?_
  intro value middle kept
  rw [← kept]
  exact rest value middle

theorem unhandled {program : AuthProgram α} {handler : AuthExn → AuthProgram α}
    (first : Quietly moments i program)
    : Quietly moments i (tryCatch program handler) :=
  fun world => (first world).unhandled

theorem pure (value : α) : Quietly moments i (Pure.pure value) := by
  intro world
  exact rfl

end Quietly

theorem charge_quietly (answers : ∀ n, (moments n).redis = .answered) (rule : CounterRule)
    : Quietly moments i (decision site.limits rule true) := by
  refine Quietly.unhandled (fun world => ?_)
  refine ends_call ?_
  simp only [perform, commanded, answers]
  exact rfl

theorem recordLoginFailure_quietly (answers : ∀ n, (moments n).redis = .answered)
    (identity : RateLimitIdentity)
    : Quietly moments i (site.recordLoginFailure identity) :=
  (charge_quietly answers _).bind (fun _ => (charge_quietly answers _).bind (fun _ => .pure _))

theorem success_quietly (answers : ∀ n, (moments n).redis = .answered)
    (identity : RateLimitIdentity) (pair : TokenPair)
    : Quietly moments i
        (do
          recordSuccessBestEffort .loginRateLimited (site.recordLoginSuccess identity)
          let csrfToken ← Program.perform AuthOp.csrfToken
          return Reply.tokens pair csrfToken) := by
  have deleted : Quietly moments i (site.recordLoginSuccess identity) := by
    refine Quietly.unhandled (fun world => ?_)
    refine ends_call ?_
    simp only [perform, commanded, answers]
    exact rfl
  refine Quietly.bind (Quietly.unhandled deleted) (fun _ world => ?_)
  exact rfl

/-- The client is told to wait. -/
def AuthExn.Waits (failure : AuthExn) : Prop := ∃ seconds, failure = .api (rateLimitError seconds)

/-- One more attempt has been made. -/
def Spent (world after : AuthWorld) : Prop :=
  after.attempts.length = world.attempts.length + 1

theorem Spent.kept {middle after : AuthWorld} (spent : Spent world middle)
    (same : after.attempts = middle.attempts)
    : Spent world after := by
  unfold Spent
  rw [same]
  exact spent

/-- The attempt is made, and the client is not told to wait. -/
abbrev Tried {α : Type} (world : AuthWorld) : Except AuthExn α → AuthWorld → Prop :=
  returns (fun _ after => Spent world after)
    (fun failure after => Spent world after ∧ ¬ failure.Waits)

/-- The condition of a handler that keeps the attempts. -/
abbrev Reraised {α : Type} (world : AuthWorld) : Except AuthExn α → AuthWorld → Prop :=
  returns (fun _ _ => False)
    (fun failure after => after.attempts = world.attempts ∧ ¬ failure.Waits)

theorem authenticationError_waits : ¬ (AuthExn.api authenticationError).Waits := by
  simp [AuthExn.Waits, authenticationError, rateLimitError]

theorem internalAuthError_waits : ¬ (AuthExn.api internalAuthError).Waits := by
  simp [AuthExn.Waits, internalAuthError, rateLimitError]

theorem csrfFailed_waits : ¬ (AuthExn.api csrfFailed).Waits := by
  simp [AuthExn.Waits, csrfFailed, rateLimitError]

theorem session_waits {failure : SessionFailure} : ¬ (AuthExn.session failure).Waits := by
  simp [AuthExn.Waits]

theorem recordLoginFailed_ends (answers : ∀ n, (moments n).redis = .answered)
    (identity : RateLimitIdentity) (reason : String)
    : EndsIn moments i (Reraised world)
        (recordLoginFailed site identity reason : AuthProgram TokenPair) world := by
  have recorded
      : Quietly moments i
          (recordFailureOrRateLimit .loginRateLimited (site.recordLoginFailure identity)) :=
    Quietly.unhandled ((recordLoginFailure_quietly answers identity).bind (fun _ => .pure _))
  refine ReturnsIn.bind (recorded world) ?_
  intro _ middle kept
  exact ⟨kept, authenticationError_waits⟩

/-- A failed attempt is answered, whatever its failure. -/
theorem onLoginFailure_ends (answers : ∀ n, (moments n).redis = .answered)
    (identity : RateLimitIdentity) (failure : SessionFailure)
    : EndsIn moments i (Reraised world) (onLoginFailure site identity (.session failure))
        world := by
  cases failure with
  | invalidCredentials => exact recordLoginFailed_ends answers identity _
  | userAuthenticationDisabled => exact recordLoginFailed_ends answers identity _
  | tokenIssuance => exact ⟨rfl, internalAuthError_waits⟩
  | _ => exact ⟨rfl, session_waits⟩

/-- After an allowed check. -/
theorem attempt_tried (answers : ∀ n, (moments n).redis = .answered) (request : LoginRequest)
    (identity : RateLimitIdentity)
    : EndsIn moments i (Tried world)
        (do
          let pair ←
            tryCatch
              (do orSessionFailure (← Program.perform (AuthOp.startUserSession request)))
              (onLoginFailure site identity)
          recordSuccessBestEffort .loginRateLimited (site.recordLoginSuccess identity)
          let csrfToken ← Program.perform AuthOp.csrfToken
          return Reply.tokens pair csrfToken)
        world := by
  have attempted
      : EndsIn moments i
          (returns (fun _ after => Spent world after)
            (fun failure after => Spent world after ∧ ∃ cause, failure = .session cause))
          (do orSessionFailure (← Program.perform (AuthOp.startUserSession request))) world := by
    refine ends_call ?_
    simp only [perform]
    have spent {result : Except SessionFailure TokenPair}
        : Spent world ((world.next (moments world.calls)).attempted (.login request) result) := by
      simp [Spent, AuthWorld.attempted, AuthWorld.next]
    cases (moments world.calls).session with
    | ok pair => exact spent
    | error cause => exact ⟨spent, cause, rfl⟩
  have answered
      : EndsIn moments i (Tried world)
          (tryCatch
            (do orSessionFailure (← Program.perform (AuthOp.startUserSession request)))
            (onLoginFailure site identity))
          world := by
    refine Ends.tryCatch attempted (fun _ _ spent => spent) ?_
    intro failure middle ended
    obtain ⟨spent, cause, rfl⟩ := ended
    refine (onLoginFailure_ends answers identity cause).mono ?_
    intro result after reraised
    cases result with
    | ok _ => exact reraised.elim
    | error _ => exact ⟨spent.kept reraised.1, reraised.2⟩
  refine Ends.bind answered ?_ (fun _ _ ended => ended)
  intro pair middle spent
  refine (success_quietly answers identity pair middle).mono ?_
  intro result after kept
  cases result with
  | ok _ => exact Spent.kept spent kept
  | error _ => exact kept.elim

-----------------------------------------------------------------------------------------
-- Before the check
-----------------------------------------------------------------------------------------

theorem parseOrigin_error {value : Text} {failure : AuthExn}
    (failed : parseOrigin site value = .error failure)
    : failure = .csrfValidation ∨ failure = .unexpected := by
  unfold parseOrigin at failed
  split at failed
  · exact .inr (Except.error.inj failed).symm
  · split at failed
    · exact .inl (Except.error.inj failed).symm
    · split at failed
      · exact .inl (Except.error.inj failed).symm
      · cases failed

/-- By induction on the configured origins. -/
theorem parseOrigins_error {origins : List Text} {failure : AuthExn}
    (failed : origins.mapM (parseOrigin site) = .error failure)
    : failure = .csrfValidation ∨ failure = .unexpected := by
  induction origins generalizing failure with
  | nil => cases failed
  | cons origin rest ih =>
      rw [List.mapM_cons] at failed
      cases first : parseOrigin site origin with
      | error _ =>
          rw [first] at failed
          obtain rfl := Except.error.inj failed
          exact parseOrigin_error first
      | ok _ =>
          cases others : rest.mapM (parseOrigin site) with
          | error _ =>
              rw [first, others] at failed
              obtain rfl := Except.error.inj failed
              exact ih others
          | ok _ =>
              rw [first, others] at failed
              cases failed

theorem validateOrigin_error {origin : Option Text} {failure : AuthExn}
    (failed : validateOrigin site origin = .error failure)
    : failure = .csrfValidation ∨ failure = .unexpected := by
  cases origin with
  | none => cases failed
  | some origin =>
      simp only [validateOrigin] at failed
      cases incoming : parseOrigin site origin with
      | error _ =>
          rw [incoming] at failed
          obtain rfl := Except.error.inj failed
          exact parseOrigin_error incoming
      | ok _ =>
          cases allowed : site.corsOrigins.mapM (parseOrigin site) with
          | error _ =>
              rw [incoming, allowed] at failed
              obtain rfl := Except.error.inj failed
              exact parseOrigins_error allowed
          | ok _ =>
              rw [incoming, allowed] at failed
              simp only [bind, Except.bind] at failed
              split at failed
              · exact .inl (Except.error.inj failed).symm
              · cases failed

/-- A request from a foreign origin is not told to wait. -/
theorem requireTrustedOriginIfPresent_ends (origin : Option Text)
    : EndsIn moments i
        (returns (fun _ after => after = world ∧ validateOrigin site origin = .ok ())
          (fun failure _ => validateOrigin site origin ≠ .ok () ∧ ¬ failure.Waits))
        (requireTrustedOriginIfPresent site origin) world := by
  unfold requireTrustedOriginIfPresent
  cases trust : validateOrigin site origin with
  | ok _ => exact ⟨rfl, rfl⟩
  | error failure =>
      rcases validateOrigin_error trust with rfl | rfl
      · exact ⟨(by simp), csrfFailed_waits⟩
      · exact ⟨(by simp), by simp [AuthExn.Waits]⟩

/-- The check, whose refusal is answered with the seconds of the decision. -/
theorem requireLoginAllowed_ends (answers : ∀ n, (moments n).redis = .answered)
    (identity : RateLimitIdentity)
    : EndsIn moments i
        (returns (fun _ after => Untouched world after)
          (fun failure after =>
            ∃ decision middle,
              Sentenced site identity world decision middle
              ∧ decision.allowed = false
              ∧ Untouched middle after
              ∧ failure = .api (rateLimitError (some decision.retryAfterSeconds))))
        (tryCatch (requireLoginAllowed site identity) (onRateLimit .loginRateLimited)) world := by
  have required
      : EndsIn moments i
          (returns (fun _ after => Untouched world after)
            (fun failure after =>
              ∃ decision,
                Sentenced site identity world decision after
                ∧ decision.allowed = false
                ∧ failure = .rateLimitExceeded decision.retryAfterSeconds))
          (requireLoginAllowed site identity) world := by
    refine ReturnsIn.bind (checkLoginAllowed_sentenced answers identity) ?_
    intro decision after sentenced
    by_cases allowed : decision.allowed = true
    · rw [if_neg (not_not_intro allowed)]
      exact sentenced.untouched
    · rw [if_pos allowed]
      exact ⟨decision, sentenced, Bool.eq_false_iff.mpr allowed, rfl⟩
  refine Ends.tryCatch required (fun _ _ untouched => untouched) ?_
  intro failure middle refused
  obtain ⟨decision, sentenced, refused, rfl⟩ := refused
  exact ⟨decision, middle, sentenced, refused, ⟨rfl, rfl, Nat.le_add_right _ _⟩, rfl⟩

-----------------------------------------------------------------------------------------
-- Logins
-----------------------------------------------------------------------------------------

/-- How a login ends: its origin is foreign, or it is turned away, or it makes its attempt. -/
inductive LoginEnds (site : AuthSite) (request : LoginRequest) (world : AuthWorld)
    (result : Except AuthExn Reply) (after : AuthWorld)
    : Prop
  | foreign (refused : validateOrigin site request.origin ≠ .ok ())
    (other : ∀ failure, result = .error failure → ¬ failure.Waits)
  | denied {decision : RateLimitDecision} {middle : AuthWorld}
    (trusted : validateOrigin site request.origin = .ok ())
    (sentenced
      : Sentenced site (rateLimitIdentity site request.email request.client) world decision
          middle)
    (refused : decision.allowed = false) (later : Untouched middle after)
    (told : result = .error (.api (rateLimitError (some decision.retryAfterSeconds))))
  | tried (tried : Tried world result after)

theorem login_ends (answers : ∀ n, (moments n).redis = .answered) (request : LoginRequest)
    : EndsIn moments i (LoginEnds site request world) (login site request) world := by
  refine Ends.bind (requireTrustedOriginIfPresent_ends request.origin) ?_ ?_
  · intro _ first trust
    obtain ⟨rfl, trusted⟩ := trust
    refine Ends.bind (requireLoginAllowed_ends answers _) ?_ ?_
    · intro _ middle checked
      refine (attempt_tried answers request _).mono ?_
      intro result after tried
      refine .tried ?_
      unfold Tried Spent at tried ⊢
      rw [← checked.attempts]
      exact tried
    · intro failure after checked
      obtain ⟨decision, middle, sentenced, refused, later, rfl⟩ := checked
      exact .denied trusted sentenced refused later rfl
  · intro failure after refused
    refine .foreign refused.1 (fun other same => ?_)
    obtain rfl := Except.error.inj same
    exact refused.2

theorem rateLimitError_inj {first second : Int}
    (same : rateLimitError (some first) = rateLimitError (some second))
    : first = second := by
  simpa [rateLimitError] using same

/-- A login that is turned away is told at least one second, and changes no counter. When these
seconds and half a second have passed, and its counters are not charged meanwhile, it makes its
attempt. -/
theorem retry_after_opens {request : LoginRequest} {after again : AuthWorld} {seconds : Int}
    (answers : ∀ n, (moments n).redis = .answered)
    (denied
      : (login site request).run (exec moments i) world
        = some (.error (.api (rateLimitError (some seconds))), after))
    (uncharged
      : ∀ subject ∈ (AuthRequest.login request).subjects site,
          again.counters (subject.key site) = after.counters (subject.key site))
    (waited : after.now + seconds.toNat * 1000 + 500 ≤ again.now)
    : 1 ≤ seconds
      ∧ after.counters = world.counters
      ∧ after.attempts = world.attempts
      ∧ ∃ result final,
          (login site request).run (exec moments i) again = some (result, final)
          ∧ final.attempts.length = again.attempts.length + 1
          ∧ ∀ seconds, result ≠ .error (.api (rateLimitError seconds)) := by
  have ended := (login_ends answers request).post_of_run denied
  cases ended with
  | foreign _ other => exact absurd ⟨_, rfl⟩ (other _ rfl)
  | tried tried => exact absurd ⟨_, rfl⟩ tried.2
  | @denied decision middle trusted sentenced refused later told =>
      obtain rfl : seconds = decision.retryAfterSeconds := by
        injection told with told
        injection told with told
        exact rateLimitError_inj told
      have untouched := sentenced.untouched.trans later
      refine ⟨sentenced.positive refused, untouched.counters, untouched.attempts, ?_⟩
      have retried : EndsIn moments i (LoginEnds site request again) (login site request) again :=
        login_ends answers request
      obtain ⟨result, final, ran, ended⟩ := retried.result id
      refine ⟨result, final, ran, ?_⟩
      cases ended with
      | foreign foreign _ => exact absurd trusted foreign
      | tried tried =>
          cases result with
          | ok reply => exact ⟨tried, fun _ same => by cases same⟩
          | error failure =>
              refine ⟨tried.1, fun seconds same => ?_⟩
              exact tried.2 ⟨seconds, Except.error.inj same⟩
      | @denied decision' middle' _ sentenced' refused' _ _ =>
          have unfilled (subject : Subject)
              (guards : (rateLimitIdentity site request.email request.client).Guards subject)
              : subject.Unfilled site again again.now := by
            have member : subject ∈ (AuthRequest.login request).subjects site := by
              rcases guards with rfl | rfl <;> simp [AuthRequest.subjects]
            have clock := later.clock
            exact ((sentenced.opens refused subject guards).later (by omega)).congr
              (by rw [uncharged subject member, untouched.counters])
          rw [sentenced'.allows unfilled] at refused'
          cases refused'

namespace Sample

def loginRequest : LoginRequest where
  email := "a@b.io".toList
  password := []
  client := none
  origin := none

/-- The identifier has failed at the start. -/
def filled : AuthWorld :=
  { Sample.world with
    counters := fun key => if key = subject.key Sample.site then some ⟨1, 900000⟩ else none }

theorem denied
    : ∃ after,
        (login Sample.site loginRequest).run (exec Sample.moments 0) filled
          = some (.error (.api (rateLimitError (some 898))), after)
        ∧ after.attempts = [] := by
  have checked
      : ((login Sample.site loginRequest).run (exec Sample.moments 0) filled).any
          (fun ended =>
            ended.1 == .error (.api (rateLimitError (some 898))) && ended.2.attempts.isEmpty)
        = true := by
    decide +kernel
  obtain ⟨ended, ran, found⟩ := (Option.any_eq_true _ _).mp checked
  obtain ⟨told, untried⟩ := Bool.and_eq_true_iff.mp found
  refine ⟨ended.2, ?_, List.isEmpty_iff.mp untried⟩
  rw [ran, ← eq_of_beq told]

/-- When the answered seconds and half a second have passed. -/
def opened (after : AuthWorld) : AuthWorld := { after with now := after.now + 898500 }

end Sample

theorem retry_after_opens_sample
    : ∃ after result final,
        (login Sample.site Sample.loginRequest).run (exec Sample.moments 0) Sample.filled
          = some (.error (.api (rateLimitError (some 898))), after)
        ∧ (login Sample.site Sample.loginRequest).run (exec Sample.moments 0)
            (Sample.opened after)
          = some (result, final)
        ∧ final.attempts.length = 1 := by
  obtain ⟨after, ran, untried⟩ := Sample.denied
  have waited : after.now + Int.toNat 898 * 1000 + 500 ≤ (Sample.opened after).now :=
    Nat.le_of_eq (Nat.add_assoc _ _ _)
  obtain ⟨-, -, -, result, final, again, tried, -⟩ :=
    retry_after_opens (fun _ => rfl) ran (by intro _ _; rfl) waited
  refine ⟨after, result, final, ran, again, ?_⟩
  simpa [Sample.opened, untried] using tried

end WorkflowForge.AuthRoutes
