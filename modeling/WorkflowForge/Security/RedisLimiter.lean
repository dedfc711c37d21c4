import WorkflowForge.Concurrency.Program
import WorkflowForge.Domain.Sessions
import WorkflowForge.Security.RateLimit
import WorkflowForge.Windows.FixedWindows

/-! The Redis-backed authentication limiter with the windows of its counters.
Its methods are programs of single Redis commands. A counter is created by the script that
increments it, expires one window later, and is deleted after a success.
-/

namespace WorkflowForge.AuthRoutes

open Concurrency Python
open Identity (TokenPair)
open RateLimit (RateLimitDecision RateLimitSettings combinedDecision loginClientKey
  loginIdentifierKey safeClient)

-----------------------------------------------------------------------------------------
-- Settings and keys
-----------------------------------------------------------------------------------------

/-- `RateLimitSettings`, with its refresh part. -/
structure AuthRateLimits extends RateLimitSettings where
  refreshClientThreshold : Nat := 10
  refreshWindowSeconds : Nat := 300
  refresh_client_bounds : 0 < refreshClientThreshold ∧ refreshClientThreshold ≤ 500 := by decide
  refresh_window_bounds : 0 < refreshWindowSeconds ∧ refreshWindowSeconds ≤ 86400 := by decide

def refreshClientKey (hash : Text → Text) (clientKey : Option Text) : Text :=
  "workflowforge:ratelimit:refresh:client:".toList ++ safeClient hash clientKey

/-- Safe rate-limit identity. -/
structure RateLimitIdentity where
  normalizedIdentifier : Text
  clientKey : Option Text
  deriving DecidableEq

-----------------------------------------------------------------------------------------
-- Operations and exceptions
-----------------------------------------------------------------------------------------

structure LoginRequest where
  email : Text
  password : Text
  client : Option Text
  origin : Option Text
  deriving DecidableEq

/-- The cookies and headers that the refresh route reads. -/
structure RefreshRequest where
  refreshCookie : Option Text
  csrfCookie : Option Text
  csrfHeader : Option Text
  client : Option Text
  origin : Option Text
  deriving DecidableEq

inductive AuthRequest where
  | login (request : LoginRequest)
  | refresh (request : RefreshRequest)
  deriving DecidableEq

/-- What `StartUserSession` and `RefreshSession` raise; `application` is any other application
or domain error, `unexpected` any other exception. -/
inductive SessionFailure where
  | invalidCredentials
  | userAuthenticationDisabled
  | invalidRefreshToken
  | expiredRefreshToken
  | refreshRotationConflict
  | refreshTokenReplay
  | tokenIssuance
  | application
  | unexpected
  deriving DecidableEq, Repr

inductive AuthEventType where
  | loginFailed
  | loginRateLimited
  | refreshFailed
  | refreshRateLimited
  | rateLimitBackendUnavailable
  deriving DecidableEq, Repr

def AuthEventType.value : AuthEventType → String
  | loginFailed => "authentication.login_failed"
  | loginRateLimited => "authentication.login_rate_limited"
  | refreshFailed => "session.refresh_failed"
  | refreshRateLimited => "session.refresh_rate_limited"
  | rateLimitBackendUnavailable => "security.rate_limit_backend_unavailable"

inductive AuthEventOutcome where
  | failure
  | denied
  deriving DecidableEq, Repr

/-- An audit event as the routes record it, with its metadata. -/
structure AuthEvent where
  eventType : AuthEventType
  outcome : AuthEventOutcome
  metadata : List (String × String)
  deriving DecidableEq

inductive RedisError where
  | redisError
  deriving DecidableEq

/-- What a route does with its dependencies. -/
inductive AuthOp where
  | get (key : Text)
  | ttl (key : Text)
  | incrementWindow (key : Text) (windowSeconds : Nat)
  | delete (keys : List Text)
  | startUserSession (request : LoginRequest)
  | refreshSession (request : RefreshRequest) (refreshToken : Text)
  | audit (event : AuthEvent)
  | csrfToken

abbrev AuthOp.Res : AuthOp → Type
  | get _ => Except RedisError (Option Nat)
  | ttl _ => Except RedisError Int
  | incrementWindow _ _ => Except RedisError (Nat × Int)
  | delete _ => Except RedisError Unit
  | startUserSession _ => Except SessionFailure TokenPair
  | refreshSession _ _ => Except SessionFailure TokenPair
  | audit _ => Unit
  | csrfToken => Text

inductive HeaderValue where
  | text (value : String)
  | seconds (value : Int)
  deriving DecidableEq

structure ApiError where
  statusCode : Nat
  code : String
  message : String
  headers : List (String × HeaderValue) := []
  deriving DecidableEq

inductive AuthExn where
  | redis
  | rateLimitUnavailable (message : String)
  | rateLimitExceeded (retryAfterSeconds : Int)
  | csrfValidation
  | session (failure : SessionFailure)
  | api (error : ApiError)
  | unexpected
  deriving DecidableEq

abbrev AuthProgram (α : Type) : Type := Program AuthOp AuthOp.Res AuthExn α

-----------------------------------------------------------------------------------------
-- The limiter
-----------------------------------------------------------------------------------------

/-- A Redis command, whose failure is a `RedisError`. -/
def orRedisError {α : Type} : Except RedisError α → AuthProgram α
  | .ok value => pure value
  | .error _ => throw .redis

/-- `_redis_failure`. -/
def redisFailure (limits : AuthRateLimits) : AuthProgram RateLimitDecision :=
  match RateLimit.redisFailure limits.toRateLimitSettings with
  | .ok decision => pure decision
  | .error (.rateLimitUnavailable message) => throw (.rateLimitUnavailable message)

/-- `except RedisError as exc: return self._redis_failure(exc)`. -/
def onRedisError (limits : AuthRateLimits) : AuthExn → AuthProgram RateLimitDecision
  | .redis => redisFailure limits
  | failure => throw failure

/-- A counter, how much it may count, and for how long. -/
structure CounterRule where
  key : Text
  threshold : Nat
  windowSeconds : Nat
  deriving DecidableEq

/-- The counter and its TTL: `_increment_window`, or a `GET` and a `TTL`. -/
def readCounter (rule : CounterRule) (increment : Bool) : AuthProgram (Nat × Int) :=
  if increment then do
    orRedisError (← Program.perform (.incrementWindow rule.key rule.windowSeconds))
  else do
    let value ← orRedisError (← Program.perform (.get rule.key))
    let ttl ← orRedisError (← Program.perform (.ttl rule.key))
    return (value.getD 0, ttl)

/-- `_decision`. -/
def decision (limits : AuthRateLimits) (rule : CounterRule) (increment : Bool)
    : AuthProgram RateLimitDecision :=
  tryCatch
    (do
      let (count, ttl) ← readCounter rule increment
      return RateLimit.decision rule.threshold rule.windowSeconds count ttl)
    (onRedisError limits)

/-- `_combined_decision`. -/
def combined (limits : AuthRateLimits) (first second : CounterRule) (increment : Bool)
    : AuthProgram RateLimitDecision := do
  let firstDecision ← decision limits first increment
  let secondDecision ← decision limits second increment
  return combinedDecision firstDecision secondDecision

/-- `_delete`. -/
def deleteCounters (limits : AuthRateLimits) (keys : List Text) : AuthProgram Unit :=
  tryCatch (do orRedisError (← Program.perform (.delete keys)))
    (fun failure => do
      let _ ← onRedisError limits failure)

/-- What `urllib.parse.urlparse` returns. -/
structure ParseResult where
  scheme : Text
  netloc : Text
  path : Text
  params : Text
  query : Text
  fragment : Text

/-- What the routes are configured with; `hash` is the hexadecimal SHA-256 digest, and
`urlparse` has no result where it raises a `ValueError`. -/
structure AuthSite where
  limits : AuthRateLimits
  hash : Text → Text
  unicode : Unicode
  corsOrigins : List Text
  urlparse : Text → Option ParseResult

namespace AuthSite

variable (site : AuthSite)

def loginIdentifierRule (identifier : Text) : CounterRule where
  key := loginIdentifierKey site.hash identifier
  threshold := site.limits.loginIdentifierThreshold
  windowSeconds := site.limits.loginWindowSeconds

def loginClientRule (clientKey : Option Text) : CounterRule where
  key := loginClientKey site.hash clientKey
  threshold := site.limits.loginClientThreshold
  windowSeconds := site.limits.loginWindowSeconds

def refreshClientRule (clientKey : Option Text) : CounterRule where
  key := refreshClientKey site.hash clientKey
  threshold := site.limits.refreshClientThreshold
  windowSeconds := site.limits.refreshWindowSeconds

def checkLoginAllowed (identity : RateLimitIdentity) : AuthProgram RateLimitDecision :=
  combined site.limits (site.loginIdentifierRule identity.normalizedIdentifier)
    (site.loginClientRule identity.clientKey) false

def recordLoginFailure (identity : RateLimitIdentity) : AuthProgram RateLimitDecision :=
  combined site.limits (site.loginIdentifierRule identity.normalizedIdentifier)
    (site.loginClientRule identity.clientKey) true

def recordLoginSuccess (identity : RateLimitIdentity) : AuthProgram Unit :=
  deleteCounters site.limits
    [loginIdentifierKey site.hash identity.normalizedIdentifier,
      loginClientKey site.hash identity.clientKey]

def checkRefreshAllowed (clientKey : Option Text) : AuthProgram RateLimitDecision :=
  decision site.limits (site.refreshClientRule clientKey) false

def recordRefreshFailure (clientKey : Option Text) : AuthProgram RateLimitDecision :=
  decision site.limits (site.refreshClientRule clientKey) true

def recordRefreshSuccess (clientKey : Option Text) : AuthProgram Unit :=
  deleteCounters site.limits [refreshClientKey site.hash clientKey]

end AuthSite

-----------------------------------------------------------------------------------------
-- Kinds of counters
-----------------------------------------------------------------------------------------

/-- What a counter counts: logins of an identifier, logins of a client, refreshes of a
client. -/
inductive Subject where
  | identifier (normalizedIdentifier : Text)
  | client (clientKey : Option Text)
  | refreshClient (clientKey : Option Text)
  deriving DecidableEq

def Subject.rule (site : AuthSite) : Subject → CounterRule
  | .identifier normalizedIdentifier => site.loginIdentifierRule normalizedIdentifier
  | .client clientKey => site.loginClientRule clientKey
  | .refreshClient clientKey => site.refreshClientRule clientKey

theorem refreshClientKey_ne_identifier (hash : Text → Text) (clientKey : Option Text)
    (identifier : Text)
    : refreshClientKey hash clientKey ≠ loginIdentifierKey hash identifier := by
  have refresh
      : "workflowforge:ratelimit:refresh:client:".toList
        = "workflowforge:ratelimit:".toList ++ 'r' :: "efresh:client:".toList := by
    decide
  have login
      : "workflowforge:ratelimit:login:identifier:".toList
        = "workflowforge:ratelimit:".toList ++ 'l' :: "ogin:identifier:".toList := by
    decide
  unfold refreshClientKey loginIdentifierKey
  rw [refresh, login, List.append_assoc, List.append_assoc]
  intro same
  have heads := List.append_cancel_left same
  cases heads

theorem refreshClientKey_ne_client (hash : Text → Text) (first second : Option Text)
    : refreshClientKey hash first ≠ loginClientKey hash second := by
  have refresh
      : "workflowforge:ratelimit:refresh:client:".toList
        = "workflowforge:ratelimit:".toList ++ 'r' :: "efresh:client:".toList := by
    decide
  have login
      : "workflowforge:ratelimit:login:client:".toList
        = "workflowforge:ratelimit:".toList ++ 'l' :: "ogin:client:".toList := by
    decide
  unfold refreshClientKey loginClientKey
  rw [refresh, login, List.append_assoc, List.append_assoc]
  intro same
  have heads := List.append_cancel_left same
  cases heads

/-- Subjects that share a counter share its rule. -/
theorem Subject.rule_eq {site : AuthSite} {first second : Subject}
    (same : (first.rule site).key = (second.rule site).key)
    : first.rule site = second.rule site := by
  cases first with
  | identifier =>
      cases second with
      | identifier => simpa [Subject.rule, AuthSite.loginIdentifierRule] using same
      | client => exact absurd same.symm (RateLimit.loginClientKey_ne _ _ _)
      | refreshClient => exact absurd same.symm (refreshClientKey_ne_identifier _ _ _)
  | client =>
      cases second with
      | identifier => exact absurd same (RateLimit.loginClientKey_ne _ _ _)
      | client => simpa [Subject.rule, AuthSite.loginClientRule] using same
      | refreshClient => exact absurd same.symm (refreshClientKey_ne_client _ _ _)
  | refreshClient =>
      cases second with
      | identifier => exact absurd same (refreshClientKey_ne_identifier _ _ _)
      | client => exact absurd same (refreshClientKey_ne_client _ _ _)
      | refreshClient => simpa [Subject.rule, AuthSite.refreshClientRule] using same

theorem Subject.threshold_pos (site : AuthSite) (subject : Subject)
    : 0 < (subject.rule site).threshold := by
  cases subject with
  | identifier => exact site.limits.identifier_bounds.1
  | client => exact site.limits.client_bounds.1
  | refreshClient => exact site.limits.refresh_client_bounds.1

theorem Subject.windowSeconds_pos (site : AuthSite) (subject : Subject)
    : 0 < (subject.rule site).windowSeconds := by
  cases subject with
  | identifier => exact site.limits.window_bounds.1
  | client => exact site.limits.window_bounds.1
  | refreshClient => exact site.limits.refresh_window_bounds.1

end WorkflowForge.AuthRoutes
