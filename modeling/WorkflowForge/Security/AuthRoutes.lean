import WorkflowForge.Concurrency.Interleaving
import WorkflowForge.Domain.Accounts
import WorkflowForge.Security.RedisLimiter

/-! The login and refresh routes, and the Redis server that they share.
A route checks the limiter, calls its use case, and records the failure or the success.
Requests are handled one after another by any number of workers, whose operations interleave.
-/

namespace WorkflowForge.AuthRoutes

open Concurrency Python
open Identity (TokenPair)
open RateLimit (RateLimitDecision)

variable (site : AuthSite)

-----------------------------------------------------------------------------------------
-- Origins and CSRF tokens
-----------------------------------------------------------------------------------------

/-- `_parse_origin`. -/
def parseOrigin (value : Text) : Except AuthExn Text :=
  match site.urlparse value with
  | none => .error .unexpected
  | some parsed =>
      if (parsed.scheme ≠ "http".toList ∧ parsed.scheme ≠ "https".toList) ∨ parsed.netloc = [] then
        .error .csrfValidation
      else if (parsed.path ≠ [] ∧ parsed.path ≠ "/".toList) ∨ parsed.params ≠ []
          ∨ parsed.query ≠ [] ∨ parsed.fragment ≠ [] then
        .error .csrfValidation
      else
        .ok (site.unicode.lower parsed.scheme ++ "://".toList ++ site.unicode.lower parsed.netloc)

def validateOrigin : Option Text → Except AuthExn Unit
  | none => .ok ()
  | some origin => do
      let incomingOrigin ← parseOrigin site origin
      let allowedOrigins ← site.corsOrigins.mapM (parseOrigin site)
      if !allowedOrigins.contains incomingOrigin then
        throw .csrfValidation

/-- `validate_csrf`; `hmac.compare_digest` raises a `TypeError` on non-ASCII strings. -/
def validateCsrf (cookieValue headerValue : Option Text) : Except AuthExn Unit :=
  let cookie := cookieValue.getD []
  let header := headerValue.getD []
  if cookie = [] ∨ header = [] then .error .csrfValidation
  else if (cookie ++ header).any (fun c => 127 < c.val) then .error .unexpected
  else if cookie ≠ header then .error .csrfValidation
  else .ok ()

def csrfFailed : ApiError where
  statusCode := 403
  code := "csrf_failed"
  message := "CSRF validation failed."

/-- `except CsrfValidationError as exc`. -/
def onCsrfValidation : AuthExn → AuthProgram Unit
  | .csrfValidation => throw (.api csrfFailed)
  | failure => throw failure

def requireTrustedOriginIfPresent (origin : Option Text) : AuthProgram Unit :=
  tryCatch (.ofExcept (validateOrigin site origin)) onCsrfValidation

def requireCsrf (request : RefreshRequest) : AuthProgram Unit :=
  tryCatch
    (do
      requireTrustedOriginIfPresent site request.origin
      .ofExcept (validateCsrf request.csrfCookie request.csrfHeader))
    onCsrfValidation

-----------------------------------------------------------------------------------------
-- Errors and audit events
-----------------------------------------------------------------------------------------

def authenticationError : ApiError where
  statusCode := 401
  code := "authentication_failed"
  message := "Authentication failed."
  headers := [("WWW-Authenticate", .text "Bearer")]

def internalAuthError : ApiError where
  statusCode := 500
  code := "internal_error"
  message := "An unexpected error occurred."

/-- `_rate_limit_error`; `none` is an unavailable backend. -/
def rateLimitError (retryAfterSeconds : Option Int) : ApiError where
  statusCode := 429
  code := "rate_limited"
  message := "Too many authentication attempts."
  headers := [("Retry-After", .seconds (retryAfterSeconds.getD 60))]

/-- `record_independent_audit_event`, which swallows the failure to persist the event. -/
def audit (event : AuthEvent) : AuthProgram Unit := Program.perform (AuthOp.audit event)

/-- `_record_rate_limit_denial`. -/
def recordRateLimitDenial (eventType : AuthEventType) (backendUnavailable : Bool)
    : AuthProgram Unit :=
  audit {
    eventType := if backendUnavailable then .rateLimitBackendUnavailable else eventType
    outcome := if backendUnavailable then .failure else .denied
    metadata := [("scope", eventType.value)]
  }

/-- The two routes' `except (RateLimitExceededError, RateLimitUnavailableError)`. -/
def onRateLimit {α : Type} (eventType : AuthEventType) : AuthExn → AuthProgram α
  | .rateLimitExceeded retryAfterSeconds => do
      recordRateLimitDenial eventType false
      throw (.api (rateLimitError (some retryAfterSeconds)))
  | .rateLimitUnavailable _ => do
      recordRateLimitDenial eventType true
      throw (.api (rateLimitError none))
  | failure => throw failure

/-- The common form of `_record_login_failure_or_rate_limit` and
`_record_refresh_failure_or_rate_limit`. -/
def recordFailureOrRateLimit (eventType : AuthEventType) (record : AuthProgram RateLimitDecision)
    : AuthProgram Unit :=
  tryCatch
    (do
      let _ ← record)
    (fun failure =>
      match failure with
      | .rateLimitUnavailable _ => do
          recordRateLimitDenial eventType true
          throw (.api (rateLimitError none))
      | failure => throw failure)

/-- The common form of `_record_login_success_best_effort` and
`_record_refresh_success_best_effort`. -/
def recordSuccessBestEffort (eventType : AuthEventType) (record : AuthProgram Unit)
    : AuthProgram Unit :=
  tryCatch record (fun failure =>
    match failure with
    | .rateLimitUnavailable _ => recordRateLimitDenial eventType true
    | failure => throw failure)

-----------------------------------------------------------------------------------------
-- Routes
-----------------------------------------------------------------------------------------

/-- A response: the tokens with the CSRF token of the new cookies, or an error, which clears the
cookies where the refresh token was refused. -/
inductive Reply where
  | tokens (pair : TokenPair) (csrfToken : Text)
  | error (error : ApiError) (cookiesCleared : Bool)
  deriving DecidableEq

def orSessionFailure {α : Type} : Except SessionFailure α → AuthProgram α
  | .ok value => pure value
  | .error failure => throw (.session failure)

/-- `_rate_limit_identity`. -/
def rateLimitIdentity (email : Text) (client : Option Text) : RateLimitIdentity where
  normalizedIdentifier :=
    match EmailAddress.parse site.unicode email with
    | .ok address => address.normalized
    | .error _ =>
        let normalized := site.unicode.casefold (site.unicode.strip email)
        if normalized = [] then "invalid".toList else normalized
  clientKey := client

/-- `RateLimitExceededError` unless the decision allows. -/
def requireAllowed (check : AuthProgram RateLimitDecision) : AuthProgram Unit := do
  let decision ← check
  if ¬ decision.allowed then
    throw (.rateLimitExceeded decision.retryAfterSeconds)

/-- `require_login_allowed`. -/
def requireLoginAllowed (identity : RateLimitIdentity) : AuthProgram Unit :=
  requireAllowed (site.checkLoginAllowed identity)

/-- `require_refresh_allowed`. -/
def requireRefreshAllowed (clientKey : Option Text) : AuthProgram Unit :=
  requireAllowed (site.checkRefreshAllowed clientKey)

def recordLoginFailed {α : Type} (identity : RateLimitIdentity) (reason : String)
    : AuthProgram α := do
  recordFailureOrRateLimit .loginRateLimited (site.recordLoginFailure identity)
  audit {
    eventType := .loginFailed
    outcome := .failure
    metadata := [("reason", reason)]
  }
  throw (.api authenticationError)

/-- The handlers around `start_user_session`. -/
def onLoginFailure (identity : RateLimitIdentity) : AuthExn → AuthProgram TokenPair
  | .session .invalidCredentials => recordLoginFailed site identity "invalid_credentials"
  | .session .userAuthenticationDisabled => recordLoginFailed site identity "disabled_user"
  | .session .tokenIssuance => throw (.api internalAuthError)
  | failure => throw failure

def login (request : LoginRequest) : AuthProgram Reply := do
  requireTrustedOriginIfPresent site request.origin
  let identity := rateLimitIdentity site request.email request.client
  tryCatch (requireLoginAllowed site identity) (onRateLimit .loginRateLimited)
  let pair ←
    tryCatch (do orSessionFailure (← Program.perform (.startUserSession request)))
      (onLoginFailure site identity)
  recordSuccessBestEffort .loginRateLimited (site.recordLoginSuccess identity)
  let csrfToken ← Program.perform .csrfToken
  return .tokens pair csrfToken

/-- `_record_refresh_failure_or_rate_limit`, then `_record_refresh_failure`. -/
def recordRefreshFailed (clientKey : Option Text) (reason : String) : AuthProgram Unit := do
  recordFailureOrRateLimit .refreshRateLimited (site.recordRefreshFailure clientKey)
  audit {
    eventType := .refreshFailed
    outcome := .failure
    metadata := [("reason", reason)]
  }

/-- `_auth_failure_with_cleared_cookies` after the failure is recorded. -/
def refuseRefresh (clientKey : Option Text) (reason : String) : AuthProgram Reply := do
  recordRefreshFailed site clientKey reason
  return .error authenticationError true

/-- The handlers around `refresh_session`. -/
def onRefreshFailure (clientKey : Option Text) : SessionFailure → AuthProgram Reply
  | .invalidRefreshToken => refuseRefresh site clientKey "InvalidRefreshTokenError"
  | .expiredRefreshToken => refuseRefresh site clientKey "ExpiredRefreshTokenError"
  | .refreshRotationConflict => refuseRefresh site clientKey "RefreshRotationConflictError"
  -- A replay is an `InvalidRefreshTokenError`, so the first handler takes it and the one for
  -- replays, which would not audit it again, is never reached.
  | .refreshTokenReplay => refuseRefresh site clientKey "RefreshTokenReplayError"
  | .tokenIssuance => throw (.api internalAuthError)
  | failure => throw (.session failure)

/-- After a rotation. -/
def refreshed (clientKey : Option Text) (pair : TokenPair) : AuthProgram Reply := do
  recordSuccessBestEffort .refreshRateLimited (site.recordRefreshSuccess clientKey)
  let csrfToken ← Program.perform .csrfToken
  return .tokens pair csrfToken

def refresh (request : RefreshRequest) : AuthProgram Reply := do
  requireCsrf site request
  tryCatch (requireRefreshAllowed site request.client) (onRateLimit .refreshRateLimited)
  match request.refreshCookie with
  | none =>
      recordRefreshFailed site request.client "missing_cookie"
      throw (.api authenticationError)
  | some refreshToken =>
      let result : Except SessionFailure TokenPair ←
        Program.perform (AuthOp.refreshSession request refreshToken)
      match result with
      | .ok pair => refreshed site request.client pair
      | .error failure => onRefreshFailure site request.client failure

def applicationError : ApiError where
  statusCode := 400
  code := "application_error"
  message := "The request could not be processed."

/-- The registered exception handlers. -/
def handled : AuthExn → Reply
  | .api error => .error error false
  | .rateLimitUnavailable _ | .rateLimitExceeded _ => .error applicationError false
  | .session .unexpected => .error internalAuthError false
  | .session _ => .error applicationError false
  | .redis | .csrfValidation | .unexpected => .error internalAuthError false

/-- One request, answered. -/
def serve (request : AuthRequest) : AuthProgram Reply :=
  tryCatch
    (match request with
      | .login request => login site request
      | .refresh request => refresh site request)
    (fun failure => pure (handled failure))

/-- A worker answers one request after another. -/
def worker : List AuthRequest → AuthProgram (List Reply)
  | [] => pure []
  | request :: rest => do
      let reply ← serve site request
      let replies ← worker rest
      return reply :: replies

-----------------------------------------------------------------------------------------
-- The shared world
-----------------------------------------------------------------------------------------

/-- Whether Redis answers a command; a lost command takes effect without an answer. -/
inductive RedisReply where
  | answered
  | refused
  | lost
  deriving DecidableEq

/-- The circumstances of one operation: the milliseconds that pass before it, what Redis does,
what the use case returns, and the token that the generator draws. -/
structure Moment where
  elapsed : Nat
  redis : RedisReply
  session : Except SessionFailure TokenPair
  token : Text

/-- The outcome of a password check or of a rotation. -/
structure Attempt where
  request : AuthRequest
  failure : Option SessionFailure
  deriving DecidableEq

/-- The Redis counters, in milliseconds; and what happened so far: attempts, deletions of
counters, audit events. -/
structure AuthWorld where
  now : Nat
  calls : Nat
  counters : Text → Option Windows.Counter
  attempts : List Attempt
  resets : List (List Text)
  events : List AuthEvent

namespace AuthWorld

variable (world : AuthWorld)

/-- `INCR`, with `EXPIRE` for a new counter. -/
def increment (key : Text) (windowSeconds : Nat) : AuthWorld :=
  { world with
    counters := Function.update world.counters key
      (some (Windows.bump (windowSeconds * 1000) world.now (world.counters key))) }

/-- `GET`. -/
def count (key : Text) : Option Nat :=
  (Windows.live (world.counters key) world.now).map (fun counter => counter.count)

/-- `TTL`, in rounded seconds. -/
def ttl (key : Text) : Int :=
  match Windows.live (world.counters key) world.now with
  | some counter => ((counter.expiresAt - world.now + 500) / 1000 : Nat)
  | none => -2

/-- `DEL`. -/
def delete (keys : List Text) : AuthWorld :=
  { world with
    counters := fun key => if keys.contains key then none else world.counters key
    resets := world.resets ++ [keys] }

def attempted (request : AuthRequest) (result : Except SessionFailure TokenPair) : AuthWorld :=
  { world with
    attempts := world.attempts ++ [{
      request
      failure :=
        match result with
        | .ok _ => none
        | .error failure => some failure
    }] }

/-- The next operation begins. -/
def next (moment : Moment) : AuthWorld :=
  { world with now := world.now + moment.elapsed, calls := world.calls + 1 }

end AuthWorld

/-- A Redis command that may be refused, or whose answer may be lost. -/
def commanded {α : Type} (reply : RedisReply) (world after : AuthWorld) (answer : α)
    : Except RedisError α × AuthWorld :=
  match reply with
  | .answered => (.ok answer, after)
  | .refused => (.error .redisError, world)
  | .lost => (.error .redisError, after)

/-- One operation in its circumstances. -/
def perform (moment : Moment) (world : AuthWorld) : (op : AuthOp) → op.Res × AuthWorld
  | .get key => commanded moment.redis world world (world.count key)
  | .ttl key => commanded moment.redis world world (world.ttl key)
  | .incrementWindow key windowSeconds =>
      let after := world.increment key windowSeconds
      commanded moment.redis world after ((after.count key).getD 0, after.ttl key)
  | .delete keys => commanded moment.redis world (world.delete keys) ()
  | .startUserSession request =>
      (moment.session, world.attempted (.login request) moment.session)
  | .refreshSession request _ =>
      (moment.session, world.attempted (.refresh request) moment.session)
  | .audit event => ((), { world with events := world.events ++ [event] })
  | .csrfToken => (moment.token, world)

/-- The environment of the workers; `moments` are the circumstances of all operations. -/
def exec (moments : Nat → Moment) : Environment AuthOp AuthOp.Res AuthWorld :=
  fun _ op world =>
    let moment := moments world.calls
    some (perform moment (world.next moment) op)

end WorkflowForge.AuthRoutes
