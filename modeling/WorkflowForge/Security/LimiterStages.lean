import WorkflowForge.Concurrency.JointModes
import WorkflowForge.Security.AuthRoutes

/-! What each route does to one counter of the limiter.
A request passes the check of the counter, makes its attempt, and owes a failure or has earned
a reset; it enters and leaves in the same stage.
-/

namespace WorkflowForge.AuthRoutes

open Concurrency Python
open Identity (TokenPair)
open RateLimit (RateLimitDecision)

-----------------------------------------------------------------------------------------
-- Subjects of a request
-----------------------------------------------------------------------------------------

def AuthRequest.subjects (site : AuthSite) : AuthRequest → List Subject
  | .login request =>
      let identity := rateLimitIdentity site request.email request.client
      [.identifier identity.normalizedIdentifier, .client identity.clientKey]
  | .refresh request => [.refreshClient request.client]

/-- The failures that a route charges. -/
def AuthRequest.refuses : AuthRequest → SessionFailure → Bool
  | .login _, .invalidCredentials => true
  | .login _, .userAuthenticationDisabled => true
  | .refresh _, .invalidRefreshToken => true
  | .refresh _, .expiredRefreshToken => true
  | .refresh _, .refreshRotationConflict => true
  | .refresh _, .refreshTokenReplay => true
  | _, _ => false

namespace Subject

variable (site : AuthSite) (subject : Subject)

def key : Text := (subject.rule site).key

def threshold : Nat := (subject.rule site).threshold

/-- The window in milliseconds. -/
def window : Nat := (subject.rule site).windowSeconds * 1000

/-- The counters of the request include the subject's. -/
def Concerns (request : AuthRequest) : Prop :=
  ∃ other ∈ request.subjects site, other.key site = subject.key site

instance (request : AuthRequest) : Decidable (subject.Concerns site request) :=
  inferInstanceAs (Decidable (∃ other ∈ request.subjects site, _))

theorem concerns_login (request : LoginRequest)
    : subject.Concerns site (.login request)
      ↔ (Subject.identifier
              (rateLimitIdentity site request.email request.client).normalizedIdentifier).key site
            = subject.key site
        ∨ (Subject.client
              (rateLimitIdentity site request.email request.client).clientKey).key site
            = subject.key site := by
  simp only [Concerns, AuthRequest.subjects, List.mem_cons, List.not_mem_nil, or_false,
    exists_eq_or_imp, exists_eq_left]

theorem concerns_refresh (request : RefreshRequest)
    : subject.Concerns site (.refresh request)
      ↔ (Subject.refreshClient request.client).key site = subject.key site := by
  simp only [Concerns, AuthRequest.subjects, List.mem_singleton, exists_eq_left]

/-- No request counts twice with one counter. -/
theorem identifier_key_ne (identifier : Text) (clientKey : Option Text)
    : (Subject.identifier identifier).key site ≠ (Subject.client clientKey).key site :=
  (RateLimit.loginClientKey_ne site.hash clientKey identifier).symm

end Subject

-----------------------------------------------------------------------------------------
-- Stages
-----------------------------------------------------------------------------------------

/-- How far a worker is with the counter: not past its check, past it, with a failure to be
recorded, or with a success. -/
inductive Stage where
  | outside
  | passed
  | owing
  | won
  deriving DecidableEq

/-- The stage after an attempt. -/
def Stage.attempted (request : AuthRequest) : Except SessionFailure TokenPair → Stage
  | .ok _ => .won
  | .error failure => if request.refuses failure then .owing else .outside

/-- The discipline of a counter while Redis answers: attempts follow a passed check, failures
and resets follow attempts. -/
def discipline (site : AuthSite) (subject : Subject) : Protocol AuthOp AuthOp.Res Stage where
  may stage op :=
    match op with
    | .incrementWindow key windowSeconds =>
        key = subject.key site
        → (stage = .passed ∨ stage = .owing)
          ∧ windowSeconds = (subject.rule site).windowSeconds
    | .delete keys => subject.key site ∈ keys → stage = .won
    | .startUserSession request => subject.Concerns site (.login request) → stage = .passed
    | .refreshSession request _ => subject.Concerns site (.refresh request) → stage = .passed
    | .audit _ => stage = .outside ∨ stage = .passed
    | .get _ | .ttl _ | .csrfToken => True
  moves stage op answer later :=
    match op with
    | .get key =>
        ∃ count : Option Nat, answer = .ok count
          ∧ later =
              if key = subject.key site ∧ stage = .outside
                  ∧ count.getD 0 < subject.threshold site then
                .passed
              else stage
    | .ttl _ => (∃ ttl : Int, answer = .ok ttl) ∧ later = stage
    | .incrementWindow key _ =>
        (∃ reply : Nat × Int, answer = .ok reply)
        ∧ later = if key = subject.key site then .outside else stage
    | .delete keys =>
        answer = .ok () ∧ later = if keys.contains (subject.key site) then .outside else stage
    | .startUserSession request =>
        later =
          if subject.Concerns site (.login request) then .attempted (.login request) answer
          else stage
    | .refreshSession request _ =>
        later =
          if subject.Concerns site (.refresh request) then .attempted (.refresh request) answer
          else stage
    | .audit _ => later = .outside
    | .csrfToken => later = stage

-----------------------------------------------------------------------------------------
-- The limiter
-----------------------------------------------------------------------------------------

variable {site : AuthSite} {subject : Subject} {stage : Stage}

theorem allowed_iff {threshold windowSeconds count : Nat} {ttl : Int}
    : (RateLimit.decision threshold windowSeconds count ttl).allowed = true
      ↔ count < threshold := by
  unfold RateLimit.decision
  split <;> simp_all

theorem combinedDecision_allowed {first second : RateLimitDecision}
    : (RateLimit.combinedDecision first second).allowed = true
      ↔ first.allowed = true ∧ second.allowed = true := by
  unfold RateLimit.combinedDecision
  split <;> simp_all

/-- The stage after the check of some counter. -/
def Stage.checked (site : AuthSite) (subject other : Subject) (allowed : Bool) (stage : Stage)
    : Stage :=
  if other.key site = subject.key site ∧ stage = .outside ∧ allowed then .passed else stage

/-- The stages of a request that has made no attempt. -/
def Stage.Unspent (stage : Stage) : Prop := stage = .outside ∨ stage = .passed

theorem Stage.checked_unspent {other : Subject} {allowed : Bool} (unspent : stage.Unspent)
    : (stage.checked site subject other allowed).Unspent := by
  unfold Stage.checked
  split
  · exact .inr rfl
  · exact unspent

theorem Stage.checked_allowed {other : Subject} (unspent : stage.Unspent)
    : stage.checked site subject other true
      = if other.key site = subject.key site then .passed else stage := by
  unfold Stage.checked
  rcases unspent with rfl | rfl <;> simp

/-- A check opens the way to its own counter only. -/
theorem check_obeys (other : Subject)
    : Obeys (discipline site subject)
        (returns
          (fun decision later => later = stage.checked site subject other decision.allowed)
          (fun _ _ => False))
        stage (decision site.limits (other.rule site) false) := by
  refine Obeys.tryCatch ?_ (fun _ _ (never : False) => never.elim) (fun _ _ holds => holds)
  refine ⟨trivial, ?_⟩
  intro answer later moved
  obtain ⟨count, read, same⟩ := moved
  subst read
  subst same
  refine ⟨trivial, ?_⟩
  intro answer later moved
  obtain ⟨⟨ttl, read⟩, same⟩ := moved
  subst read
  subst same
  show _ = Stage.checked _ _ _ _ _
  unfold Stage.checked
  by_cases shared : other.key site = subject.key site
  · have rule := Subject.rule_eq shared
    have limit : (other.rule site).threshold = subject.threshold site := by
      rw [rule]
      rfl
    have first : (other.rule site).key = subject.key site := shared
    simp only [allowed_iff, first, shared, limit, true_and]
  · have first : (other.rule site).key ≠ subject.key site := shared
    simp only [first, shared, false_and, if_false]

/-- A charge settles what is owed to its own counter. -/
theorem charge_obeys (other : Subject)
    (due : other.key site = subject.key site → stage = .passed ∨ stage = .owing)
    : Obeys (discipline site subject)
        (returns
          (fun _ later => later = if other.key site = subject.key site then .outside else stage)
          (fun _ _ => False))
        stage (decision site.limits (other.rule site) true) := by
  refine Obeys.tryCatch ?_ (fun _ _ (never : False) => never.elim) (fun _ _ holds => holds)
  refine ⟨fun shared => ⟨due shared, by rw [Subject.rule_eq shared]⟩, ?_⟩
  intro answer later moved
  obtain ⟨⟨reply, charged⟩, same⟩ := moved
  subst charged
  exact same

/-- How a request that concerns the counter has got past its checks. -/
def Stage.entered (site : AuthSite) (subject : Subject) (request : AuthRequest) : Stage :=
  if subject.Concerns site request then .passed else .outside

theorem checkLoginAllowed_obeys (request : LoginRequest)
    : Obeys (discipline site subject)
        (returns
          (fun decision later =>
            (decision.allowed → later = .entered site subject (.login request)) ∧ later.Unspent)
          (fun _ _ => False))
        .outside
        (site.checkLoginAllowed (rateLimitIdentity site request.email request.client)) := by
  refine Obeys.bind (check_obeys (.identifier _)) ?_ (fun _ _ never => never)
  intro first middle passed
  refine Obeys.bind (check_obeys (.client _)) ?_ (fun _ _ never => never)
  intro second later passed'
  subst passed
  subst passed'
  have unspent : Stage.Unspent .outside := .inl rfl
  refine ⟨fun allowed => ?_, Stage.checked_unspent (Stage.checked_unspent unspent)⟩
  obtain ⟨allowed, allowed'⟩ := combinedDecision_allowed.mp allowed
  rw [allowed, allowed', Stage.checked_allowed (Stage.checked_unspent unspent),
    Stage.checked_allowed unspent]
  unfold Stage.entered
  simp only [Subject.concerns_login]
  split <;> split <;> simp_all

theorem recordLoginFailure_obeys (request : LoginRequest)
    (due : subject.Concerns site (.login request) → stage = .owing)
    (outside : ¬ subject.Concerns site (.login request) → stage = .outside)
    : Obeys (discipline site subject)
        (returns (fun _ later => later = .outside) (fun _ _ => False)) stage
        (site.recordLoginFailure (rateLimitIdentity site request.email request.client)) := by
  rw [Subject.concerns_login] at due outside
  refine Obeys.bind (charge_obeys (.identifier _) (fun shared => .inr (due (.inl shared)))) ?_
    (fun _ _ never => never)
  intro first middle settled
  refine Obeys.bind (charge_obeys (.client _) ?_) ?_ (fun _ _ never => never)
  · intro shared
    have other := Subject.identifier_key_ne site
      (rateLimitIdentity site request.email request.client).normalizedIdentifier
      (rateLimitIdentity site request.email request.client).clientKey
    rw [shared] at other
    rw [if_neg other] at settled
    exact .inr (settled.trans (due (.inr shared)))
  · intro second later settled'
    subst settled
    subst settled'
    show (if _ then _ else _) = _
    split
    · rfl
    · split
      · rfl
      · rename_i alone alone'
        exact outside (not_or.mpr ⟨alone', alone⟩)

/-- Counters that have been won, or are not the subject's, can be deleted. -/
theorem deleteCounters_obeys {keys : List Text} (earned : subject.key site ∈ keys → stage = .won)
    (outside : subject.key site ∉ keys → stage = .outside)
    : Obeys (discipline site subject)
        (returns (fun _ later => later = .outside) (fun _ _ => False)) stage
        (deleteCounters site.limits keys) := by
  refine Obeys.tryCatch ?_ (fun _ _ (never : False) => never.elim) (fun _ _ holds => holds)
  refine ⟨earned, ?_⟩
  intro answer later moved
  obtain ⟨deleted, same⟩ := moved
  subst deleted
  subst same
  show (if _ then _ else _) = _
  split
  · rfl
  · rename_i unfound
    exact outside (mt List.contains_iff_mem.mpr unfound)

-----------------------------------------------------------------------------------------
-- The routes
-----------------------------------------------------------------------------------------

/-- A program that leaves the counter as it has found it. -/
def LeavesOutside (site : AuthSite) (subject : Subject) {α : Type} (stage : Stage)
    (program : AuthProgram α)
    : Prop :=
  Obeys (discipline site subject)
    (returns (fun _ later => later = .outside) (fun _ later => later = .outside)) stage program

/-- A program that leaves the counter as it has found it, and always raises. -/
def Raises (site : AuthSite) (subject : Subject) {α : Type} (stage : Stage)
    (program : AuthProgram α)
    : Prop :=
  Obeys (discipline site subject) (returns (fun _ _ => False) (fun _ later => later = .outside))
    stage program

/-- After a refused check, the denial is audited. -/
theorem requireAllowed_obeys {request : AuthRequest} {check : AuthProgram RateLimitDecision}
    {eventType : AuthEventType}
    (checks
      : Obeys (discipline site subject)
          (returns
            (fun decision later =>
              (decision.allowed → later = .entered site subject request) ∧ later.Unspent)
            (fun _ _ => False))
          .outside check)
    : Obeys (discipline site subject)
        (returns (fun _ later => later = .entered site subject request)
          (fun _ later => later = .outside))
        .outside (tryCatch (requireAllowed check) (onRateLimit eventType)) := by
  have required
      : Obeys (discipline site subject)
          (returns (fun _ later => later = .entered site subject request)
            (fun failure later =>
              (∃ retryAfterSeconds, failure = .rateLimitExceeded retryAfterSeconds)
              ∧ later.Unspent))
          .outside (requireAllowed check) := by
    refine Obeys.bind checks ?_ (fun _ _ never => never.elim)
    intro decision later checked
    obtain ⟨entered, unspent⟩ := checked
    by_cases allowed : decision.allowed = true
    · rw [if_neg (not_not_intro allowed)]
      exact entered allowed
    · rw [if_pos allowed]
      exact ⟨⟨_, rfl⟩, unspent⟩
  refine Obeys.tryCatch required ?_ (fun _ _ holds => holds)
  intro failure later exceeded
  obtain ⟨⟨retryAfterSeconds, same⟩, unspent⟩ := exceeded
  subst same
  exact ⟨unspent, fun _ _ audited => audited⟩

/-- Recording a failure neither fails nor is audited while Redis answers. -/
theorem recordFailureOrRateLimit_obeys {eventType : AuthEventType}
    {record : AuthProgram RateLimitDecision}
    (records
      : Obeys (discipline site subject)
          (returns (fun _ later => later = .outside) (fun _ _ => False)) stage record)
    : Obeys (discipline site subject)
        (returns (fun _ later => later = .outside) (fun _ _ => False)) stage
        (recordFailureOrRateLimit eventType record) := by
  refine Obeys.tryCatch ?_ (fun _ _ (never : False) => never.elim) (fun _ _ holds => holds)
  exact Obeys.bind records (fun _ _ settled => settled) (fun _ _ never => never)

theorem recordSuccessBestEffort_obeys {eventType : AuthEventType} {record : AuthProgram Unit}
    (records
      : Obeys (discipline site subject)
          (returns (fun _ later => later = .outside) (fun _ _ => False)) stage record)
    : Obeys (discipline site subject)
        (returns (fun _ later => later = .outside) (fun _ _ => False)) stage
        (recordSuccessBestEffort eventType record) :=
  Obeys.tryCatch records (fun _ _ never => never.elim) (fun _ _ holds => holds)

theorem audit_obeys {event : AuthEvent}
    : LeavesOutside site subject .outside (audit event) :=
  ⟨.inl rfl, fun _ _ audited => audited⟩

/-- The stage of a request after its attempt. -/
def Stage.ended (site : AuthSite) (subject : Subject) (request : AuthRequest)
    (result : Except SessionFailure TokenPair)
    : Stage :=
  if subject.Concerns site request then .attempted request result else .outside

theorem Stage.ended_ok {request : AuthRequest} {pair : TokenPair}
    : Stage.ended site subject request (.ok pair)
      = if subject.Concerns site request then .won else .outside :=
  rfl

theorem Stage.ended_error {request : AuthRequest} {failure : SessionFailure}
    : Stage.ended site subject request (.error failure)
      = if subject.Concerns site request ∧ request.refuses failure then .owing else .outside := by
  unfold Stage.ended Stage.attempted
  split <;> simp_all

theorem recordLoginFailed_obeys {request : LoginRequest} {failure : SessionFailure}
    {reason : String} (refused : (AuthRequest.login request).refuses failure = true)
    : Raises site subject (.ended site subject (.login request) (.error failure))
        (recordLoginFailed site (rateLimitIdentity site request.email request.client) reason
          : AuthProgram TokenPair) := by
  rw [Stage.ended_error]
  refine Obeys.bind
    (recordFailureOrRateLimit_obeys (recordLoginFailure_obeys request ?_ ?_)) ?_
    (fun _ _ never => never.elim)
  · intro concerned
    rw [if_pos ⟨concerned, refused⟩]
  · intro apart
    rw [if_neg (fun both => apart both.1)]
  · intro _ later settled
    subst settled
    exact Obeys.bind audit_obeys (fun _ _ audited => audited) (fun _ _ audited => audited)

theorem onLoginFailure_obeys {request : LoginRequest} {failure : SessionFailure}
    : Raises site subject (.ended site subject (.login request) (.error failure))
        (onLoginFailure site (rateLimitIdentity site request.email request.client)
          (.session failure)) := by
  have uncharged (free : (AuthRequest.login request).refuses failure = false)
      : Stage.ended site subject (.login request) (.error failure) = .outside := by
    rw [Stage.ended_error, if_neg]
    simp [free]
  cases failure with
  | invalidCredentials => exact recordLoginFailed_obeys rfl
  | userAuthenticationDisabled => exact recordLoginFailed_obeys rfl
  | _ => exact uncharged rfl

/-- The attempt of a login, with its handlers. -/
theorem attemptLogin_obeys (request : LoginRequest)
    : Obeys (discipline site subject)
        (returns
          (fun pair later => later = .ended site subject (.login request) (.ok pair))
          (fun _ later => later = .outside))
        (.entered site subject (.login request))
        (tryCatch (do orSessionFailure (← Program.perform (.startUserSession request)))
          (onLoginFailure site (rateLimitIdentity site request.email request.client))) := by
  have attempted
      : Obeys (discipline site subject)
          (returns
            (fun pair later => later = .ended site subject (.login request) (.ok pair))
            (fun exn later =>
              ∃ failure, exn = .session failure
                ∧ later = .ended site subject (.login request) (.error failure)))
          (.entered site subject (.login request))
          (do orSessionFailure (← Program.perform (AuthOp.startUserSession request))) := by
    refine ⟨fun concerned => if_pos concerned, ?_⟩
    intro result later moved
    have ended : later = .ended site subject (.login request) result := by
      rw [moved]
      unfold Stage.ended Stage.entered
      split <;> rfl
    cases result with
    | ok pair => exact ended
    | error failure => exact ⟨failure, rfl, ended⟩
  refine Obeys.tryCatch attempted ?_ (fun _ _ holds => holds)
  intro exn later raised
  obtain ⟨failure, same, ended⟩ := raised
  subst same
  subst ended
  refine onLoginFailure_obeys.mono ?_
  intro result later left
  cases result with
  | ok pair => exact left.elim
  | error exn => exact left

/-- A guard makes no operation. -/
theorem ofExcept_obeys (result : Except AuthExn Unit)
    : LeavesOutside site subject .outside (.ofExcept result) := by
  cases result <;> rfl

theorem onCsrfValidation_obeys (failure : AuthExn)
    : LeavesOutside site subject .outside (onCsrfValidation failure) := by
  cases failure <;> rfl

theorem LeavesOutside.tryCatch {α : Type} {program : AuthProgram α}
    {handler : AuthExn → AuthProgram α}
    (first : LeavesOutside site subject stage program)
    (handled : ∀ failure, LeavesOutside site subject .outside (handler failure))
    : LeavesOutside site subject stage (MonadExcept.tryCatch program handler) := by
  refine Obeys.tryCatch first ?_ (fun _ _ holds => holds)
  intro failure later outside
  subst outside
  exact handled failure

theorem LeavesOutside.bind {α β : Type} {program : AuthProgram α} {next : α → AuthProgram β}
    (first : LeavesOutside site subject stage program)
    (rest : ∀ value, LeavesOutside site subject .outside (next value))
    : LeavesOutside site subject stage (program >>= next) := by
  refine Obeys.bind first ?_ (fun _ _ left => left)
  intro value later outside
  subst outside
  exact rest value

theorem requireTrustedOriginIfPresent_obeys {origin : Option Text}
    : LeavesOutside site subject .outside (requireTrustedOriginIfPresent site origin) :=
  (ofExcept_obeys _).tryCatch onCsrfValidation_obeys

theorem requireCsrf_obeys {request : RefreshRequest}
    : LeavesOutside site subject .outside (requireCsrf site request) :=
  (requireTrustedOriginIfPresent_obeys.bind (fun _ => ofExcept_obeys _)).tryCatch
    onCsrfValidation_obeys

/-- A success clears the counters of its request. -/
theorem success_obeys {request : AuthRequest} {keys : List Text} {eventType : AuthEventType}
    (pair : TokenPair) (own : subject.key site ∈ keys ↔ subject.Concerns site request)
    : LeavesOutside site subject (.ended site subject request (.ok pair))
        (do
          recordSuccessBestEffort eventType (deleteCounters site.limits keys)
          let csrfToken ← Program.perform AuthOp.csrfToken
          return Reply.tokens pair csrfToken) := by
  rw [Stage.ended_ok]
  refine Obeys.bind (recordSuccessBestEffort_obeys (deleteCounters_obeys ?_ ?_)) ?_
    (fun _ _ never => never.elim)
  · intro member
    exact if_pos (own.mp member)
  · intro apart
    exact if_neg (mt own.mpr apart)
  · intro _ later outside
    subst outside
    exact ⟨trivial, fun _ _ drawn => drawn⟩

theorem login_obeys (request : LoginRequest)
    : LeavesOutside site subject .outside (login site request) := by
  refine requireTrustedOriginIfPresent_obeys.bind (fun _ => ?_)
  refine Obeys.bind (requireAllowed_obeys (checkLoginAllowed_obeys request)) ?_
    (fun _ _ left => left)
  intro _ later entered
  subst entered
  refine Obeys.bind (attemptLogin_obeys request) ?_ (fun _ _ left => left)
  intro pair later ended
  subst ended
  refine success_obeys pair ?_
  rw [Subject.concerns_login]
  simp [eq_comm, Subject.key, Subject.rule, AuthSite.loginIdentifierRule,
    AuthSite.loginClientRule]

theorem checkRefreshAllowed_obeys (request : RefreshRequest)
    : Obeys (discipline site subject)
        (returns
          (fun decision later =>
            (decision.allowed → later = .entered site subject (.refresh request))
            ∧ later.Unspent)
          (fun _ _ => False))
        .outside (site.checkRefreshAllowed request.client) := by
  refine (check_obeys (.refreshClient request.client)).mono ?_
  intro result later checked
  cases result with
  | error failure => exact checked
  | ok decision =>
      have unspent : Stage.Unspent .outside := .inl rfl
      subst checked
      refine ⟨fun allowed => ?_, Stage.checked_unspent unspent⟩
      rw [allowed, Stage.checked_allowed unspent]
      unfold Stage.entered
      simp only [Subject.concerns_refresh]

/-- A refused refresh token, or none at all. -/
theorem recordRefreshFailed_obeys {request : RefreshRequest} {reason : String}
    (due : subject.Concerns site (.refresh request) → stage = .passed ∨ stage = .owing)
    (outside : ¬ subject.Concerns site (.refresh request) → stage = .outside)
    : LeavesOutside site subject stage (recordRefreshFailed site request.client reason) := by
  rw [Subject.concerns_refresh] at due outside
  have charged
      : Obeys (discipline site subject)
          (returns (fun _ later => later = .outside) (fun _ _ => False)) stage
          (site.recordRefreshFailure request.client) := by
    refine (charge_obeys (.refreshClient request.client) due).mono ?_
    intro result later settled
    cases result with
    | error failure => exact settled
    | ok decision =>
        subst settled
        show (if _ then _ else _) = _
        split
        · rfl
        · rename_i apart
          exact outside apart
  refine Obeys.bind (recordFailureOrRateLimit_obeys charged) ?_ (fun _ _ never => never.elim)
  intro _ later settled
  subst settled
  exact audit_obeys

theorem onRefreshFailure_obeys {request : RefreshRequest} {failure : SessionFailure}
    : LeavesOutside site subject (.ended site subject (.refresh request) (.error failure))
        (onRefreshFailure site request.client failure) := by
  have refused (reason : String)
      (charged : (AuthRequest.refresh request).refuses failure = true)
      : LeavesOutside site subject (.ended site subject (.refresh request) (.error failure))
          (refuseRefresh site request.client reason) := by
    rw [Stage.ended_error]
    refine LeavesOutside.bind (recordRefreshFailed_obeys ?_ ?_) (fun _ => rfl)
    · intro concerned
      exact .inr (if_pos ⟨concerned, charged⟩)
    · intro apart
      exact if_neg (fun both => apart both.1)
  have uncharged (free : (AuthRequest.refresh request).refuses failure = false)
      : Stage.ended site subject (.refresh request) (.error failure) = .outside := by
    rw [Stage.ended_error, if_neg]
    simp [free]
  cases failure with
  | invalidRefreshToken => exact refused _ rfl
  | expiredRefreshToken => exact refused _ rfl
  | refreshRotationConflict => exact refused _ rfl
  | refreshTokenReplay => exact refused _ rfl
  | _ => exact uncharged rfl

theorem refresh_obeys (request : RefreshRequest)
    : LeavesOutside site subject .outside (refresh site request) := by
  refine requireCsrf_obeys.bind (fun _ => ?_)
  refine Obeys.bind (requireAllowed_obeys (checkRefreshAllowed_obeys request)) ?_
    (fun _ _ left => left)
  intro _ later entered
  subst entered
  cases request.refreshCookie with
  | none =>
      refine LeavesOutside.bind (recordRefreshFailed_obeys ?_ ?_) (fun _ => rfl)
      · intro concerned
        exact .inl (if_pos concerned)
      · intro apart
        exact if_neg apart
  | some refreshToken =>
      refine ⟨fun concerned => if_pos concerned, ?_⟩
      intro result later moved
      have ended : later = .ended site subject (.refresh request) result := by
        rw [moved]
        unfold Stage.ended Stage.entered
        split <;> rfl
      subst ended
      cases result with
      | error failure => exact onRefreshFailure_obeys
      | ok pair =>
          refine success_obeys pair ?_
          rw [Subject.concerns_refresh]
          simp [eq_comm, Subject.key, Subject.rule, AuthSite.refreshClientRule]

theorem serve_obeys (request : AuthRequest)
    : LeavesOutside site subject .outside (serve site request) := by
  refine LeavesOutside.tryCatch ?_ (fun _ => rfl)
  cases request with
  | login request => exact login_obeys request
  | refresh request => exact refresh_obeys request

/-- By induction on the queue. -/
theorem worker_obeys (queue : List AuthRequest)
    : LeavesOutside site subject .outside (worker site queue) := by
  induction queue with
  | nil => rfl
  | cons request rest ih =>
      exact (serve_obeys request).bind (fun _ => ih.bind (fun _ => rfl))

end WorkflowForge.AuthRoutes
