import WorkflowForge.Concurrency.Protocols
import WorkflowForge.Security.LimiterStages

/-! The login route follows the phases of the limiter's model.
In every phase the route makes the operation that the phase waits for, and every answer that
the model allows takes both to the same next phase. So what is shown of the phases in runs of
the limiter holds for the route.
-/

namespace WorkflowForge.AuthRoutes

open Concurrency Python
open Identity (TokenPair)
open RateLimit (Limiter LoginEvent LoginPhase LoginState RateLimitDecision loginClientKey
  loginIdentifierKey)

/-- The limiter of the logins with one identifier. -/
def AuthSite.limiter (site : AuthSite) (identity : RateLimitIdentity) : Limiter where
  settings := site.limits.toRateLimitSettings
  hash := site.hash
  identifier := identity.normalizedIdentifier

-----------------------------------------------------------------------------------------
-- Steps of the model
-----------------------------------------------------------------------------------------

/-- An event of the model takes one request of a client from a phase to another. -/
def Advances (limiter : Limiter) (clientKey : Option Text) (state : LoginState)
    (event : Nat → LoginEvent) (phase later : LoginPhase)
    : Prop :=
  ∃ i after,
    state.requests[i]? = some { clientKey, phase }
    ∧ limiter.step state (event i) = some after
    ∧ after.requests[i]? = some { clientKey, phase := later }

section

variable {limiter : Limiter} {clientKey : Option Text} {state : LoginState}
  {phase later next : LoginPhase} {reply : RateLimit.RedisReply}

theorem moveTo_phase {i : Nat} {request : RateLimit.LoginRequest} {counted : LoginState}
    (same : counted.requests = state.requests) (found : state.requests[i]? = some request)
    : (Limiter.moveTo counted i request next).requests[i]?
      = some { request with phase := next } := by
  have bounded := (List.getElem?_eq_some_iff.mp found).1
  simp [Limiter.moveTo, same, List.getElem?_set_self bounded]

/-- A reply that moves every such request to one phase. -/
theorem Advances.redis
    (advances : Advances limiter clientKey state (fun i => .redis i reply) phase later)
    (moves
      : ∀ i,
          ∃ counted,
            counted.requests = state.requests
            ∧ limiter.redis state i { clientKey, phase } phase reply
              = some (Limiter.moveTo counted i { clientKey, phase } next))
    : later = next := by
  obtain ⟨i, after, found, taken, arrived⟩ := advances
  obtain ⟨counted, same, moved⟩ := moves i
  simp only [Limiter.step, found, moved, Option.some.injEq] at taken
  rw [← taken, moveTo_phase same found] at arrived
  simpa using arrived.symm

/-- A failing command continues with the policy's decision, or ends the request. -/
theorem Advances.redis_fails {goOn : RateLimitDecision → LoginPhase}
    (advances : Advances limiter clientKey state (fun i => .redis i .fails) phase later)
    (moves
      : ∀ i,
          limiter.redis state i { clientKey, phase } phase .fails
          = some (limiter.afterFailure state i { clientKey, phase } goOn))
    : (∃ decision,
        RateLimit.redisFailure limiter.settings = .ok decision ∧ later = goOn decision)
      ∨ (∃ message,
          RateLimit.redisFailure limiter.settings = .error (.rateLimitUnavailable message)
          ∧ later = .answered 429) := by
  cases policy : RateLimit.redisFailure limiter.settings with
  | ok decision =>
      refine .inl ⟨decision, rfl, advances.redis (fun i => ⟨state, rfl, ?_⟩)⟩
      rw [moves, Limiter.afterFailure, policy]
  | error failure =>
      obtain ⟨message⟩ := failure
      refine .inr ⟨message, rfl, advances.redis (fun i => ⟨state, rfl, ?_⟩)⟩
      rw [moves, Limiter.afterFailure, policy]

/-- The verification of the password leads to the record of its failure. -/
theorem Advances.verify
    (advances : Advances limiter clientKey state .verify phase later)
    : later = .failed := by
  obtain ⟨i, after, found, taken, arrived⟩ := advances
  simp only [Limiter.step, found] at taken
  split at taken
  · simp only [Option.some.injEq] at taken
    rw [← taken] at arrived
    change (Limiter.moveTo state i _ .failed).requests[i]? = _ at arrived
    rw [moveTo_phase rfl found] at arrived
    simpa using arrived.symm
  · cases taken

end

-----------------------------------------------------------------------------------------
-- The protocol of the phases
-----------------------------------------------------------------------------------------

/-- The answer to a command that reads `value` with a reply's TTL. -/
def answerOf {α : Type} (value : Int → α) : RateLimit.RedisReply → Except RedisError α
  | .succeeds ttl => .ok (value ttl)
  | .fails => .error .redisError

/-- The operation that a phase waits for. An answered request is still audited. -/
inductive Awaits (site : AuthSite) (request : LoginRequest) (identity : RateLimitIdentity)
    : LoginPhase → AuthOp → Prop where
  | arrived
    : Awaits site request identity .arrived
        (.get (loginIdentifierKey site.hash identity.normalizedIdentifier))
  | identifierRead {count : Nat}
    : Awaits site request identity (.identifierRead count)
        (.ttl (loginIdentifierKey site.hash identity.normalizedIdentifier))
  | identifierChecked {first : RateLimitDecision}
    : Awaits site request identity (.identifierChecked first)
        (.get (loginClientKey site.hash identity.clientKey))
  | clientRead {first : RateLimitDecision} {count : Nat}
    : Awaits site request identity (.clientRead first count)
        (.ttl (loginClientKey site.hash identity.clientKey))
  | verifying : Awaits site request identity .verifying (.startUserSession request)
  | failed
    : Awaits site request identity .failed
        (.incrementWindow (loginIdentifierKey site.hash identity.normalizedIdentifier)
          site.limits.loginWindowSeconds)
  | identifierRecorded
    : Awaits site request identity .identifierRecorded
        (.incrementWindow (loginClientKey site.hash identity.clientKey)
          site.limits.loginWindowSeconds)
  | answered {statusCode : Nat} {event : AuthEvent}
    : Awaits site request identity (.answered statusCode) (.audit event)

/-- The phases of a login that is refused: the operations are the awaited ones, and the answers
are those of the model's steps. -/
def phases (site : AuthSite) (request : LoginRequest) (identity : RateLimitIdentity)
    : Protocol AuthOp AuthOp.Res LoginPhase where
  may := Awaits site request identity
  moves phase op answer later :=
    let replies (state : LoginState) (reply : RateLimit.RedisReply) :=
      Advances (site.limiter identity) identity.clientKey state (fun i => .redis i reply) phase
        later
    match op with
    | .get key =>
        ∃ state reply,
          replies state reply ∧ answer = answerOf (fun _ => state.counters key) reply
    | .ttl _ => ∃ state reply, replies state reply ∧ answer = answerOf id reply
    | .incrementWindow key _ =>
        ∃ state reply,
          replies state reply
          ∧ answer = answerOf (fun ttl => (Limiter.counter state key + 1, ttl)) reply
    | .startUserSession request =>
        (∃ state, Advances (site.limiter identity) identity.clientKey state .verify phase later)
        ∧ ∃ failure,
            answer = .error failure ∧ (AuthRequest.login request).refuses failure = true
    | .audit _ => later = phase
    | .refreshSession _ _ | .delete _ | .csrfToken => False

-----------------------------------------------------------------------------------------
-- The limiter's methods
-----------------------------------------------------------------------------------------

section

variable {site : AuthSite} {request : LoginRequest} {identity : RateLimitIdentity}

/-- The request as the model knows it. -/
def modelled (identity : RateLimitIdentity) (phase : LoginPhase) : RateLimit.LoginRequest where
  clientKey := identity.clientKey
  phase

/-- A command that has failed: the policy goes on with a decision, or the request is over. -/
def GivenUp (site : AuthSite) (goOn : RateLimitDecision → LoginPhase) (failure : AuthExn)
    (later : LoginPhase)
    : Prop :=
  failure = .redis
  ∧ ((∃ decision,
        RateLimit.redisFailure site.limits.toRateLimitSettings = .ok decision
        ∧ later = goOn decision)
      ∨ (∃ message,
          RateLimit.redisFailure site.limits.toRateLimitSettings
            = .error (.rateLimitUnavailable message)
          ∧ later = .answered 429))

/-- The backend is unavailable, and the request is over. -/
def Unavailable (failure : AuthExn) (later : LoginPhase) : Prop :=
  (∃ message, failure = .rateLimitUnavailable message) ∧ later = .answered 429

/-- Handling a Redis failure goes on like the model. -/
theorem onRedisError_follows (goOn : RateLimitDecision → LoginPhase)
    {program : AuthProgram RateLimitDecision} {phase : LoginPhase}
    (follows
      : Obeys (phases site request identity)
          (returns (fun decision later => later = goOn decision) (GivenUp site goOn)) phase
          program)
    : Obeys (phases site request identity)
        (returns (fun decision later => later = goOn decision) Unavailable) phase
        (tryCatch program (onRedisError site.limits)) := by
  refine Obeys.tryCatch follows ?_ (fun _ _ holds => holds)
  intro failure later givenUp
  obtain ⟨same, outcome⟩ := givenUp
  subst same
  show Obeys _ _ _ (redisFailure site.limits)
  unfold redisFailure
  rcases outcome with ⟨decision, policy, same⟩ | ⟨message, policy, same⟩
  · rw [policy]
    exact same
  · rw [policy]
    exact ⟨⟨message, rfl⟩, same⟩

/-- The model checks one counter: `phase` waits for its `GET`, `read` for its `TTL`, and the
decision or the policy's goes on. -/
structure Checks (site : AuthSite) (request : LoginRequest) (identity : RateLimitIdentity)
    (rule : CounterRule) (phase : LoginPhase) (read : Nat → LoginPhase)
    (goOn : RateLimitDecision → LoginPhase)
    : Prop where
  gets : Awaits site request identity phase (.get rule.key)
  ttls : ∀ count, Awaits site request identity (read count) (.ttl rule.key)
  got
    : ∀ state i ttl,
        (site.limiter identity).redis state i (modelled identity phase) phase (.succeeds ttl)
        = some (Limiter.moveTo state i (modelled identity phase)
            (read (Limiter.counter state rule.key)))
  unread
    : ∀ state i,
        (site.limiter identity).redis state i (modelled identity phase) phase .fails
        = some ((site.limiter identity).afterFailure state i (modelled identity phase) goOn)
  decided
    : ∀ state i count ttl,
        (site.limiter identity).redis state i (modelled identity (read count)) (read count)
          (.succeeds ttl)
        = some (Limiter.moveTo state i (modelled identity (read count))
            (goOn (RateLimit.decision rule.threshold rule.windowSeconds count ttl)))
  undecided
    : ∀ state i count,
        (site.limiter identity).redis state i (modelled identity (read count)) (read count) .fails
        = some ((site.limiter identity).afterFailure state i (modelled identity (read count))
            goOn)

theorem check_follows {rule : CounterRule} {phase : LoginPhase} {read : Nat → LoginPhase}
    {goOn : RateLimitDecision → LoginPhase}
    (checks : Checks site request identity rule phase read goOn)
    : Obeys (phases site request identity)
        (returns (fun decision later => later = goOn decision) Unavailable) phase
        (decision site.limits rule false) := by
  apply onRedisError_follows goOn
  refine ⟨checks.gets, ?_⟩
  intro answer later moved
  obtain ⟨state, reply, replies, same⟩ := moved
  subst same
  cases reply with
  | fails => exact ⟨rfl, replies.redis_fails (checks.unread state)⟩
  | succeeds ttl =>
      have reached := replies.redis (fun i => ⟨state, rfl, checks.got state i ttl⟩)
      subst reached
      refine ⟨checks.ttls _, ?_⟩
      intro answer later moved
      obtain ⟨state', reply, replies, same⟩ := moved
      subst same
      cases reply with
      | fails => exact ⟨rfl, replies.redis_fails (fun i => checks.undecided state' i _)⟩
      | succeeds ttl =>
          exact replies.redis (fun i => ⟨state', rfl, checks.decided state' i _ ttl⟩)

/-- A charge of one counter. Its decision is of no consequence. -/
theorem charge_follows {rule : CounterRule} {phase : LoginPhase} (next : LoginPhase)
    (increments
      : Awaits site request identity phase (.incrementWindow rule.key rule.windowSeconds))
    (charged
      : ∀ state i ttl,
          (site.limiter identity).redis state i (modelled identity phase) phase (.succeeds ttl)
          = some (Limiter.moveTo (Limiter.increment state rule.key) i (modelled identity phase)
              next))
    (failed
      : ∀ state i,
          (site.limiter identity).redis state i (modelled identity phase) phase .fails
          = some ((site.limiter identity).afterFailure state i (modelled identity phase)
              (fun _ => next)))
    : Obeys (phases site request identity) (returns (fun _ later => later = next) Unavailable)
        phase (decision site.limits rule true) := by
  apply onRedisError_follows (fun _ => next)
  refine ⟨increments, ?_⟩
  intro answer later moved
  obtain ⟨state, reply, replies, same⟩ := moved
  subst same
  cases reply with
  | fails => exact ⟨rfl, replies.redis_fails (fun i => failed state i)⟩
  | succeeds ttl =>
      exact replies.redis (fun i =>
        ⟨Limiter.increment state rule.key, rfl, charged state i ttl⟩)

-----------------------------------------------------------------------------------------
-- The route
-----------------------------------------------------------------------------------------

/-- The request has been answered with the error's status code. -/
def Refused (failure : AuthExn) (later : LoginPhase) : Prop :=
  ∃ error, failure = .api error ∧ later = .answered error.statusCode

/-- An error that is audited and then raised is the answer of the request. -/
theorem auditedError_follows {α : Type} {post : α → LoginPhase → Prop} (event : AuthEvent)
    (error : ApiError)
    : Obeys (phases site request identity) (returns post Refused) (.answered error.statusCode)
        (do
          audit event
          throw (.api error)) := by
  have audited
      : Obeys (phases site request identity)
          (returns (fun _ later => later = .answered error.statusCode) (fun _ _ => False))
          (.answered error.statusCode) (audit event) :=
    ⟨.answered, fun _ _ audited => audited⟩
  refine Obeys.bind audited ?_ (fun _ _ never => never.elim)
  intro _ later same
  exact ⟨error, rfl, same⟩

theorem checkLoginAllowed_follows
    : Obeys (phases site request identity)
        (returns
          (fun decision later =>
            later = if decision.allowed then .verifying else .answered 429)
          Unavailable)
        .arrived (site.checkLoginAllowed identity) := by
  have first
      : Checks site request identity (site.loginIdentifierRule identity.normalizedIdentifier)
          .arrived .identifierRead .identifierChecked :=
    { gets := .arrived, ttls := fun _ => .identifierRead
      got := fun _ _ _ => rfl, unread := fun _ _ => rfl
      decided := fun _ _ _ _ => rfl, undecided := fun _ _ _ => rfl }
  have second (decision : RateLimitDecision)
      : Checks site request identity (site.loginClientRule identity.clientKey)
          (.identifierChecked decision) (.clientRead decision) (Limiter.concluded decision) :=
    { gets := .identifierChecked, ttls := fun _ => .clientRead
      got := fun _ _ _ => rfl, unread := fun _ _ => rfl
      decided := fun _ _ _ _ => rfl, undecided := fun _ _ _ => rfl }
  refine Obeys.bind (check_follows first) ?_ (fun _ _ unavailable => unavailable)
  intro decision later checked
  subst checked
  refine Obeys.bind (check_follows (second decision)) ?_ (fun _ _ unavailable => unavailable)
  intro decision' later concluded
  exact concluded

/-- A refused or unavailable check is answered with 429. -/
theorem requireLoginAllowed_follows
    : Obeys (phases site request identity) (returns (fun _ later => later = .verifying) Refused)
        .arrived
        (tryCatch (requireLoginAllowed site identity) (onRateLimit .loginRateLimited)) := by
  have required
      : Obeys (phases site request identity)
          (returns (fun _ later => later = .verifying)
            (fun failure later =>
              ((∃ seconds, failure = .rateLimitExceeded seconds)
                ∨ ∃ message, failure = .rateLimitUnavailable message)
              ∧ later = .answered 429))
          .arrived (requireLoginAllowed site identity) := by
    refine Obeys.bind checkLoginAllowed_follows ?_ (fun _ _ unavailable =>
      ⟨.inr unavailable.1, unavailable.2⟩)
    intro decision later checked
    by_cases allowed : decision.allowed = true
    · rw [if_neg (not_not_intro allowed)]
      rw [if_pos allowed] at checked
      exact checked
    · rw [if_pos allowed]
      rw [if_neg allowed] at checked
      exact ⟨.inl ⟨_, rfl⟩, checked⟩
  refine Obeys.tryCatch required ?_ (fun _ _ holds => holds)
  intro failure later refused
  obtain ⟨kind, same⟩ := refused
  subst same
  rcases kind with ⟨seconds, rfl⟩ | ⟨message, rfl⟩
  · exact auditedError_follows _ (rateLimitError (some seconds))
  · exact auditedError_follows _ (rateLimitError none)

theorem recordLoginFailure_follows
    : Obeys (phases site request identity)
        (returns (fun _ later => later = .answered 401) Unavailable) .failed
        (site.recordLoginFailure identity) := by
  refine Obeys.bind (charge_follows .identifierRecorded .failed (fun _ _ _ => rfl)
    (fun _ _ => rfl)) ?_ (fun _ _ unavailable => unavailable)
  intro decision later recorded
  subst recorded
  refine Obeys.bind (charge_follows (.answered 401) .identifierRecorded
    (fun _ _ _ => rfl) (fun _ _ => rfl)) ?_ (fun _ _ unavailable => unavailable)
  intro decision' later recorded
  exact recorded

/-- A failed login is answered with 401, or with 429 if it cannot be recorded. -/
theorem recordLoginFailed_follows {reason : String}
    : Obeys (phases site request identity) (returns (fun _ _ => False) Refused) .failed
        (recordLoginFailed site identity reason : AuthProgram TokenPair) := by
  have recorded
      : Obeys (phases site request identity)
          (returns (fun _ later => later = .answered 401) Refused) .failed
          (recordFailureOrRateLimit .loginRateLimited (site.recordLoginFailure identity)) := by
    have counted
        : Obeys (phases site request identity)
            (returns (fun _ later => later = .answered 401) Unavailable) .failed
            (do
              let _ ← site.recordLoginFailure identity) :=
      Obeys.bind recordLoginFailure_follows (fun _ _ counted => counted)
        (fun _ _ unavailable => unavailable)
    refine Obeys.tryCatch counted ?_ (fun _ _ holds => holds)
    intro failure later unavailable
    obtain ⟨⟨message, rfl⟩, rfl⟩ := unavailable
    exact auditedError_follows _ (rateLimitError none)
  refine Obeys.bind recorded ?_ (fun _ _ refused => refused)
  intro _ later counted
  subst counted
  exact auditedError_follows _ authenticationError

/-- The verification of a wrong password, with its handlers. -/
theorem attemptLogin_follows
    : Obeys (phases site request identity) (returns (fun _ _ => False) Refused) .verifying
        (tryCatch (do orSessionFailure (← Program.perform (.startUserSession request)))
          (onLoginFailure site identity)) := by
  have attempted
      : Obeys (phases site request identity)
          (returns (fun _ _ => False)
            (fun exn later =>
              (∃ failure,
                exn = .session failure
                ∧ (AuthRequest.login request).refuses failure = true)
              ∧ later = .failed))
          .verifying
          (do orSessionFailure (← Program.perform (AuthOp.startUserSession request))) := by
    refine ⟨.verifying, ?_⟩
    intro answer later moved
    obtain ⟨⟨state, verifies⟩, failure, same, refused⟩ := moved
    subst same
    exact ⟨⟨failure, rfl, refused⟩, verifies.verify⟩
  refine Obeys.tryCatch attempted ?_ (fun _ _ never => never.elim)
  intro exn later raised
  obtain ⟨⟨failure, rfl, refused⟩, rfl⟩ := raised
  cases failure with
  | invalidCredentials => exact recordLoginFailed_follows
  | userAuthenticationDisabled => exact recordLoginFailed_follows
  | _ => cases refused

end

/-- A login from a trusted origin follows the phases of the model's request, up to the answer
with the status code of its last phase. -/
theorem login_follows_phases (site : AuthSite) (request : LoginRequest)
    (trusted : validateOrigin site request.origin = .ok ())
    : Obeys (phases site request (rateLimitIdentity site request.email request.client))
        (returns
          (fun reply later =>
            ∃ error cleared, reply = .error error cleared ∧ later = .answered error.statusCode)
          (fun _ _ => False))
        .arrived (serve site (.login request)) := by
  have route
      : Obeys (phases site request (rateLimitIdentity site request.email request.client))
          (returns (fun _ _ => False) Refused) .arrived (login site request) := by
    have origin : requireTrustedOriginIfPresent site request.origin = pure () := by
      rw [requireTrustedOriginIfPresent, trusted]
      rfl
    unfold login
    rw [origin, Program.pure_eq, Program.bind_ok]
    refine Obeys.bind requireLoginAllowed_follows ?_ (fun _ _ refused => refused)
    intro _ later passed
    subst passed
    exact Obeys.bind attemptLogin_follows (fun _ _ never => never.elim)
      (fun _ _ refused => refused)
  refine Obeys.tryCatch route ?_ (fun _ _ never => never.elim)
  intro failure later refused
  obtain ⟨error, rfl, rfl⟩ := refused
  exact ⟨error, false, rfl, rfl⟩

end WorkflowForge.AuthRoutes
