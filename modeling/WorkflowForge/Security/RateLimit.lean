import Mathlib.Logic.Function.Basic
import WorkflowForge.Concurrency.Transitions
import WorkflowForge.Python.Text

/-! The Redis-backed limiter of failed logins, and the login route around it.
A check reads both counters, with a GET and a TTL each; a failure increments them, with one
script each. Between the two lies the verification of the password.
-/

namespace WorkflowForge.RateLimit

open Python

-----------------------------------------------------------------------------------------
-- Settings and keys
-----------------------------------------------------------------------------------------

inductive RateLimitFailurePolicy where
  | failOpen
  | failClosed
  deriving DecidableEq, Repr

/-- The login part of `RateLimitSettings`, with the bounds of its fields. -/
structure RateLimitSettings where
  loginIdentifierThreshold : Nat := 5
  loginClientThreshold : Nat := 20
  loginWindowSeconds : Nat := 900
  failurePolicy : RateLimitFailurePolicy := .failOpen
  identifier_bounds : 0 < loginIdentifierThreshold ∧ loginIdentifierThreshold ≤ 100 := by decide
  client_bounds : 0 < loginClientThreshold ∧ loginClientThreshold ≤ 500 := by decide
  window_bounds : 0 < loginWindowSeconds ∧ loginWindowSeconds ≤ 86400 := by decide

/-- `[A-Za-z0-9_.:-]`. -/
def isSafeClientChar (c : Char) : Bool :=
  isAsciiLower c || isAsciiUpper c || isAsciiDigit c || "_.:-".toList.contains c

/-- `_safe_client`; `hash` is the hexadecimal SHA-256 digest. -/
def safeClient (hash : Text → Text) : Option Text → Text
  | none => "unknown".toList
  | some [] => "unknown".toList
  | some value =>
      hash ((value.take 128).map (fun c => if isSafeClientChar c then c else '_'))

def loginIdentifierKey (hash : Text → Text) (identifier : Text) : Text :=
  "workflowforge:ratelimit:login:identifier:".toList ++ hash identifier

def loginClientKey (hash : Text → Text) (clientKey : Option Text) : Text :=
  "workflowforge:ratelimit:login:client:".toList ++ safeClient hash clientKey

/-- No client's counter is an identifier's counter. -/
theorem loginClientKey_ne (hash : Text → Text) (clientKey : Option Text) (identifier : Text)
    : loginClientKey hash clientKey ≠ loginIdentifierKey hash identifier := by
  have client
      : "workflowforge:ratelimit:login:client:".toList
        = "workflowforge:ratelimit:login:".toList ++ 'c' :: "lient:".toList := by
    decide
  have identifier
      : "workflowforge:ratelimit:login:identifier:".toList
        = "workflowforge:ratelimit:login:".toList ++ 'i' :: "dentifier:".toList := by
    decide
  unfold loginClientKey loginIdentifierKey
  rw [client, identifier, List.append_assoc, List.append_assoc]
  intro same
  have heads := List.append_cancel_left same
  cases heads

-----------------------------------------------------------------------------------------
-- Decisions
-----------------------------------------------------------------------------------------

structure RateLimitDecision where
  allowed : Bool
  retryAfterSeconds : Int := 0
  deriving DecidableEq

inductive RateLimitExn where
  | rateLimitUnavailable (message : String)
  deriving DecidableEq

/-- `_redis_failure`. -/
def redisFailure (settings : RateLimitSettings) : Except RateLimitExn RateLimitDecision :=
  match settings.failurePolicy with
  | .failOpen => .ok { allowed := true }
  | .failClosed => .error (.rateLimitUnavailable "Rate-limit backend is unavailable.")

/-- `_decision` once the counter and its TTL are known. -/
def decision (threshold windowSeconds count : Nat) (ttl : Int) : RateLimitDecision :=
  if count < threshold then { allowed := true }
  else
    { allowed := false
      retryAfterSeconds := if 0 < ttl then ttl else windowSeconds }

/-- `_combined_decision` once both decisions are known. -/
def combinedDecision (first second : RateLimitDecision) : RateLimitDecision :=
  if first.allowed && second.allowed then { allowed := true }
  else
    { allowed := false
      retryAfterSeconds := max first.retryAfterSeconds second.retryAfterSeconds }

-----------------------------------------------------------------------------------------
-- Login requests
-----------------------------------------------------------------------------------------

/-- What a login request does next. The first four phases are `check_login_allowed`, `failed`
and `identifierRecorded` are `record_login_failure`. The route itself follows these phases, as
`AuthRoutes.login_follows_phases` says. -/
inductive LoginPhase where
  | arrived
  | identifierRead (count : Nat)
  | identifierChecked (first : RateLimitDecision)
  | clientRead (first : RateLimitDecision) (count : Nat)
  | verifying
  | failed
  | identifierRecorded
  | answered (statusCode : Nat)
  deriving DecidableEq

structure LoginRequest where
  clientKey : Option Text
  phase : LoginPhase
  deriving DecidableEq

/-- The limiter's environment for the logins of one identifier. -/
structure Limiter where
  settings : RateLimitSettings
  hash : Text → Text
  identifier : Text

/-- The Redis counters, the requests for the identifier, and how many of them had their
password verified so far. -/
structure LoginState where
  counters : Text → Option Nat
  requests : List LoginRequest
  verified : Nat

/-- The identifier has no counter yet, and no request. -/
structure LoginState.Initial (limiter : Limiter) (state : LoginState) : Prop where
  counter : state.counters (loginIdentifierKey limiter.hash limiter.identifier) = none
  requests : state.requests = []
  verified : state.verified = 0

inductive RedisReply where
  | succeeds (ttl : Int)
  | fails
  deriving DecidableEq

/-- A request arrives, Redis replies to one, the password of one is verified in vain; or the
counter of some other key changes, as other logins and the clock do. -/
inductive LoginEvent where
  | arrive (clientKey : Option Text)
  | redis (request : Nat) (reply : RedisReply)
  | verify (request : Nat)
  | elsewhere (key : Text) (value : Option Nat)

namespace Limiter

variable (limiter : Limiter)

def identifierKey : Text := loginIdentifierKey limiter.hash limiter.identifier

def counter (state : LoginState) (key : Text) : Nat := (state.counters key).getD 0

/-- `_INCREMENT_WINDOW_SCRIPT`, whose `EXPIRE` concerns the TTL only. -/
def increment (state : LoginState) (key : Text) : LoginState :=
  { state with counters := Function.update state.counters key (some (counter state key + 1)) }

def moveTo (state : LoginState) (i : Nat) (request : LoginRequest) (phase : LoginPhase)
    : LoginState :=
  { state with requests := state.requests.set i { request with phase } }

/-- Continue with the decision about a Redis failure; fail-closed answers 429. -/
def afterFailure (state : LoginState) (i : Nat) (request : LoginRequest)
    (next : RateLimitDecision → LoginPhase)
    : LoginState :=
  match redisFailure limiter.settings with
  | .ok decision => moveTo state i request (next decision)
  | .error _ => moveTo state i request (.answered 429)

/-- `require_login_allowed`. -/
def concluded (first second : RateLimitDecision) : LoginPhase :=
  if (combinedDecision first second).allowed then .verifying else .answered 429

def redis (state : LoginState) (i : Nat) (request : LoginRequest)
    : LoginPhase → RedisReply → Option LoginState
  | .arrived, .succeeds _ =>
      some (moveTo state i request (.identifierRead (counter state limiter.identifierKey)))
  | .arrived, .fails => some (limiter.afterFailure state i request .identifierChecked)
  | .identifierRead count, .succeeds ttl =>
      some (moveTo state i request (.identifierChecked
        (decision limiter.settings.loginIdentifierThreshold
          limiter.settings.loginWindowSeconds count ttl)))
  | .identifierRead _, .fails => some (limiter.afterFailure state i request .identifierChecked)
  | .identifierChecked first, .succeeds _ =>
      some (moveTo state i request (.clientRead first
        (counter state (loginClientKey limiter.hash request.clientKey))))
  | .identifierChecked first, .fails =>
      some (limiter.afterFailure state i request (concluded first))
  | .clientRead first count, .succeeds ttl =>
      some (moveTo state i request (concluded first
        (decision limiter.settings.loginClientThreshold
          limiter.settings.loginWindowSeconds count ttl)))
  | .clientRead first _, .fails =>
      some (limiter.afterFailure state i request (concluded first))
  | .failed, .succeeds _ =>
      some (moveTo (increment state limiter.identifierKey) i request .identifierRecorded)
  | .failed, .fails =>
      some (limiter.afterFailure state i request (fun _ => .identifierRecorded))
  | .identifierRecorded, .succeeds _ =>
      some (moveTo (increment state (loginClientKey limiter.hash request.clientKey)) i request
        (.answered 401))
  | .identifierRecorded, .fails =>
      some (limiter.afterFailure state i request (fun _ => .answered 401))
  | _, _ => none

def step (state : LoginState) : LoginEvent → Option LoginState
  | .arrive clientKey =>
      some { state with requests := state.requests ++ [{ clientKey, phase := .arrived }] }
  | .redis i reply =>
      match state.requests[i]? with
      | some request => limiter.redis state i request request.phase reply
      | none => none
  | .verify i =>
      match state.requests[i]? with
      | some request =>
          if request.phase = .verifying then
            some { moveTo state i request .failed with verified := state.verified + 1 }
          else none
      | none => none
  | .elsewhere key value =>
      if key = limiter.identifierKey then none
      else some { state with counters := Function.update state.counters key value }

end Limiter

abbrev LoginRun (limiter : Limiter) (allowed : LoginState → LoginEvent → Prop)
    : LoginState → LoginState → Prop :=
  Concurrency.Run limiter.step allowed

end WorkflowForge.RateLimit
