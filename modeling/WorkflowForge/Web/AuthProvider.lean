import WorkflowForge.Concurrency.Transitions
import WorkflowForge.Web.AuthState

/-! The session of one browser tab: `AuthProvider` and the retry of authenticated requests.
JavaScript runs one continuation at a time, from one `await` to the next. An event is a call
of one of the functions, or what resumes one of the calls that wait.
-/

namespace WorkflowForge.Web

open Python

-----------------------------------------------------------------------------------------
-- What waits
-----------------------------------------------------------------------------------------

/-- A request with `authenticated: true`; after a 401 it waits for a refresh, and is sent
again once. -/
inductive Call (α : Type) where
  | sent
  | refreshing (promise : Nat) (unauthorized : ApiError)
  | resent
  | resolved (data : α)
  deriving DecidableEq

/-- `pendingRefresh`: the request, then its handler, then `finally`. -/
inductive PromiseStatus where
  | inFlight
  | handled (token : Option Text)
  | settled (token : Option Text)
  deriving DecidableEq

/-- A refresh promise. `generation` is what its handlers compare; `born` is the action that
started it. -/
structure RefreshPromise where
  generation : Nat
  born : Nat
  status : PromiseStatus
  deriving DecidableEq

inductive LoadStage where
  | fetching (user : Call MeResponse) (organizations : Call (List UserOrganization))
  | verifying (user : MeResponse) (organizations : List UserOrganization)
    (selected : UserOrganization) (context : Call TenantContext)
  deriving DecidableEq

/-- The constants of a run of `loadSession`, and the `await` it is at. -/
structure Load where
  generation : Nat
  accessToken : Text
  accessTokenExpiresAt : Text
  stage : LoadStage
  deriving DecidableEq

/-- Who awaits `loadSession`, and catches what it throws. -/
inductive Caller where
  | restoreSession
  | login
  deriving DecidableEq

/-- A started call and the `await` it is at. `calling` is a request of a page, or one that
nobody waits for any more. -/
inductive Work where
  | restoring (active : Bool) (promise : Nat)
  | loggingIn
  | loading (caller : Caller) (load : Load)
  | selecting (organizationId : Text) (context : Call TenantContext)
  | loggingOut
  | loggingOutAll
  | calling (page : Call Unit)
  | finished
  deriving DecidableEq

structure Task where
  born : Nat
  work : Work
  deriving DecidableEq

/-- The provider, its references, the entry in local storage and what waits. The last two
fields are history: the number of actions so far, and the latest login, logout or selection
among them. -/
structure Tab where
  mounted : Bool
  state : AuthState
  accessToken : Option Text
  accessTokenExpiresAt : Option Text
  refreshPromise : Option Nat
  generation : Nat
  storage : Storage
  promises : List RefreshPromise
  tasks : List Task
  actions : Nat
  latest : Nat
  deriving DecidableEq

/-- The tab before the provider is mounted. -/
def Tab.initial (storage : Storage) : Tab where
  mounted := false
  state := { anonymousState with status := .initializing }
  accessToken := none
  accessTokenExpiresAt := none
  refreshPromise := none
  generation := 0
  storage
  promises := []
  tasks := []
  actions := 0
  latest := 0

/-- The requests that a task can wait for, and what they answer. -/
inductive Slot where
  | user
  | organizations
  | context
  | page
  deriving DecidableEq

abbrev Slot.Data : Slot → Type
  | user => MeResponse
  | organizations => List UserOrganization
  | context => TenantContext
  | page => Unit

inductive Event where
  | mount (restoreSessionOnMount strictMode : Bool)
  | login
  | logout
  | logoutAll
  | refresh
  | selectOrganization (organizationId : Text)
  | apiCall
  | clearError
  | refreshAnswered (promise : Nat) (answer : Except Failure TokenResponse)
  | refreshSettled (promise : Nat)
  | restoreResumed (task : Nat)
  | loginAnswered (task : Nat) (answer : Except Failure TokenResponse)
  | logoutAnswered (task : Nat)
  | callAnswered (task : Nat) (slot : Slot) (answer : Except ApiError slot.Data)
  | callResumed (task : Nat) (slot : Slot)

namespace Tab

variable (tab : Tab)

def become (i : Nat) (task : Task) (work : Work) : Tab :=
  { tab with tasks := tab.tasks.set i { task with work } }

/-- Start the task of an action. -/
def start (work : Work) : Tab :=
  { tab with
    tasks := tab.tasks ++ [{ born := tab.actions, work }]
    actions := tab.actions + 1 }

/-- The action is a login, a logout or a selection. -/
def asLatest : Tab := { tab with latest := tab.actions }

-----------------------------------------------------------------------------------------
-- refresh
-----------------------------------------------------------------------------------------

/-- `refresh()` up to its first `await`: the promise that it returns. -/
def refresh (born : Nat) : Tab × Nat :=
  match tab.refreshPromise with
  | some promise => (tab, promise)
  | none =>
      let promise := tab.promises.length
      ({ tab with
        promises :=
          tab.promises ++ [{ generation := tab.generation, born, status := .inFlight }]
        refreshPromise := some promise },
        promise)

def setPromise (promise : Nat) (request : RefreshPromise) (status : PromiseStatus) : Tab :=
  { tab with promises := tab.promises.set promise { request with status } }

/-- The `then` and `catch` handlers: the tab after them and the value of the promise. -/
def refreshHandler (generation : Nat) (answer : Except Failure TokenResponse)
    : Tab × Option Text :=
  if generation ≠ tab.generation then (tab, none)
  else
    match answer with
    | .ok token =>
        ({ tab with
          accessToken := some token.accessToken
          accessTokenExpiresAt := some token.accessTokenExpiresAt
          state := { tab.state with
            accessTokenExpiresAt := some token.accessTokenExpiresAt
            error := none } },
          some token.accessToken)
    | .error failure =>
        let cleared := { tab with accessToken := none, accessTokenExpiresAt := none }
        if isRefreshAuthenticationFailure failure then
          ({ cleared with state := anonymousState }, none)
        else
          ({ cleared with state := { tab.state with
              status := .error
              error := some (toUiError failure "Session refresh failed") } },
            none)

def refreshAnswered (promise : Nat) (answer : Except Failure TokenResponse) : Option Tab :=
  match tab.promises[promise]? with
  | some request =>
      if request.status = .inFlight then
        let (next, token) := tab.refreshHandler request.generation answer
        some (next.setPromise promise request (.handled token))
      else none
  | none => none

/-- The `finally` handler. -/
def refreshSettled (promise : Nat) : Option Tab :=
  match tab.promises[promise]? with
  | some request =>
      match request.status with
      | .handled token =>
          let next := tab.setPromise promise request (.settled token)
          if next.refreshPromise = some promise then some { next with refreshPromise := none }
          else some next
      | _ => none
  | none => none

/-- The value of a promise, once it is settled. -/
def settledToken (promise : Nat) : Option (Option Text) :=
  match tab.promises[promise]? with
  | some { status := .settled token, .. } => some token
  | _ => none

-----------------------------------------------------------------------------------------
-- Authenticated requests
-----------------------------------------------------------------------------------------

end Tab

/-- How an answer leaves the request. -/
inductive Outcome (α : Type) where
  | waits (call : Call α)
  | resolves (data : α)
  | rejects (error : ApiError)

namespace Tab

variable (tab : Tab) {α : Type}

def answerCall (born : Nat) : Call α → Except ApiError α → Option (Tab × Outcome α)
  | .sent, .ok data => some (tab, .resolves data)
  | .sent, .error error =>
      if error.status = some 401 then
        let (next, promise) := tab.refresh born
        some (next, .waits (.refreshing promise error))
      else some (tab, .rejects error)
  | .resent, .ok data => some (tab, .resolves data)
  | .resent, .error error => some (tab, .rejects error)
  | _, _ => none

def resumeCall : Call α → Option (Outcome α)
  | .refreshing promise unauthorized =>
      match tab.settledToken promise with
      | some (some _) => some (.waits .resent)
      | some none => some (.rejects unauthorized)
      | none => none
  | _ => none

-----------------------------------------------------------------------------------------
-- loadSession
-----------------------------------------------------------------------------------------

/-- `loadSession` up to its first `await`. -/
def loadSession (i : Nat) (task : Task) (caller : Caller) (accessToken expiresAt : Text)
    : Tab :=
  { tab with
    accessToken := some accessToken
    accessTokenExpiresAt := some expiresAt }.become i task
      (.loading caller {
        generation := tab.generation
        accessToken
        accessTokenExpiresAt := expiresAt
        stage := .fetching .sent .sent
      })

/-- What `loadSession` does with a tenant context, or without one. -/
def commitSession (i : Nat) (task : Task) (load : Load) (user : MeResponse)
    (organizations : List UserOrganization) (selected : Option UserOrganization)
    (context : Option TenantContext)
    : Tab :=
  let done := tab.become i task .finished
  if load.generation ≠ tab.generation then done
  else if context.isSome
      ∧ context.map (·.organizationId) ≠ selected.map (·.id) then
    { done with
      accessToken := none
      accessTokenExpiresAt := none
      storage := tab.storage.remove
      state := { anonymousState with
        status := .error
        error := some {
          title := "Session restoration failed"
          message := "The selected organization context could not be verified."
          status := none
          code := "TENANT_CONTEXT_MISMATCH"
          retryAfterSeconds := none
        } } }
  else
    { done with
      storage :=
        match selected with
        | none => tab.storage.remove
        | some organization => tab.storage.set organization.id
      accessToken := some load.accessToken
      accessTokenExpiresAt := some load.accessTokenExpiresAt
      state := {
        status := .authenticated
        user := some user
        organizations
        selectedOrganizationId := selected.map (·.id)
        tenantContext := context
        accessTokenExpiresAt := some load.accessTokenExpiresAt
        error := none
      } }

/-- After `Promise.all`. -/
def fetched (i : Nat) (task : Task) (caller : Caller) (load : Load) (user : MeResponse)
    (organizations : List UserOrganization)
    : Tab :=
  if load.generation ≠ tab.generation then tab.become i task .finished
  else
    let (stored, storage) := tab.storage.get
    let read := { tab with storage }
    let chosen :=
      (organizations.find? (fun organization => some organization.id == stored)).or
        organizations.head?
    match chosen with
    | none => read.commitSession i task load user organizations none none
    | some selected =>
        read.become i task (.loading caller
          { load with stage := .verifying user organizations selected .sent })

/-- The `catch` of the caller of `loadSession`. -/
def loadFailed (i : Nat) (task : Task) (caller : Caller) (failure : Failure) : Tab :=
  let done := { tab.become i task .finished with
    accessToken := none
    accessTokenExpiresAt := none }
  match caller with
  | .restoreSession =>
      { done with
        storage := tab.storage.remove
        state := { anonymousState with
          status := if isRefreshAuthenticationFailure failure then .anonymous else .error
          error :=
            if isRefreshAuthenticationFailure failure then none
            else some (toUiError failure "Session restoration failed") } }
  | .login =>
      { done with
        state := { anonymousState with error := some (toUiError failure "Sign in failed") } }

/-- A request of a rejected `Promise.all` goes on, and nobody waits for it. -/
def orphan (task : Task) : Call α → Tab
  | .sent => { tab with tasks := tab.tasks ++ [{ task with work := .calling .sent }] }
  | .refreshing promise unauthorized =>
      { tab with
        tasks := tab.tasks ++ [{ task with work := .calling (.refreshing promise unauthorized) }] }
  | .resent => { tab with tasks := tab.tasks ++ [{ task with work := .calling .resent }] }
  | .resolved _ => tab

-----------------------------------------------------------------------------------------
-- selectOrganization
-----------------------------------------------------------------------------------------

def selectFailed (i : Nat) (task : Task) (failure : Failure) : Tab :=
  { tab.become i task .finished with
    state := { tab.state with
      selectedOrganizationId := none
      tenantContext := none
      error := some (toUiError failure "Organization selection failed") } }

def selectAnswered (i : Nat) (task : Task) (organizationId : Text) (context : TenantContext)
    : Tab :=
  if context.organizationId ≠ organizationId then
    { tab with storage := tab.storage.remove }.selectFailed i task
      (.api { status := none, code := "TENANT_CONTEXT_MISMATCH" })
  else
    { tab.become i task .finished with
      storage := tab.storage.set organizationId
      state := { tab.state with
        selectedOrganizationId := some organizationId
        tenantContext := some context
        status := .authenticated } }

/-- `clearSession`. -/
def clearSession : Tab :=
  { tab with
    generation := tab.generation + 1
    accessToken := none
    accessTokenExpiresAt := none
    refreshPromise := none
    storage := tab.storage.remove
    state := anonymousState }

-----------------------------------------------------------------------------------------
-- Continuations
-----------------------------------------------------------------------------------------

end Tab

/-- The request that a task waits for. -/
def Work.call : Work → (slot : Slot) → Option (Call slot.Data)
  | .loading _ { stage := .fetching user _, .. }, .user => some user
  | .loading _ { stage := .fetching _ organizations, .. }, .organizations => some organizations
  | .loading _ { stage := .verifying _ _ _ context, .. }, .context => some context
  | .selecting _ context, .context => some context
  | .calling page, .page => some page
  | _, _ => none

namespace Tab

variable (tab : Tab)

/-- Resume `loadSession` with what became of one of its requests. -/
def resumeLoad (i : Nat) (task : Task) (caller : Caller) (load : Load)
    : LoadStage → (slot : Slot) → Outcome slot.Data → Tab
  | .fetching _ organizations, .user, .waits call =>
      tab.become i task (.loading caller { load with stage := .fetching call organizations })
  | .fetching _ organizations, .user, .resolves user =>
      match organizations with
      | .resolved organizations => tab.fetched i task caller load user organizations
      | pending =>
          tab.become i task
            (.loading caller { load with stage := .fetching (.resolved user) pending })
  | .fetching _ organizations, .user, .rejects error =>
      (tab.orphan task organizations).loadFailed i task caller (.api error)
  | .fetching user _, .organizations, .waits call =>
      tab.become i task (.loading caller { load with stage := .fetching user call })
  | .fetching user _, .organizations, .resolves organizations =>
      match user with
      | .resolved user => tab.fetched i task caller load user organizations
      | pending =>
          tab.become i task
            (.loading caller { load with stage := .fetching pending (.resolved organizations) })
  | .fetching user _, .organizations, .rejects error =>
      (tab.orphan task user).loadFailed i task caller (.api error)
  | .verifying user organizations selected _, .context, .waits call =>
      tab.become i task
        (.loading caller { load with stage := .verifying user organizations selected call })
  | .verifying user organizations selected _, .context, .resolves context =>
      tab.commitSession i task load user organizations (some selected) (some context)
  | .verifying _ _ _ _, .context, .rejects error => tab.loadFailed i task caller (.api error)
  | _, _, _ => tab

/-- Resume the task with what became of its request. -/
def resume (i : Nat) (task : Task) : (slot : Slot) → Outcome slot.Data → Tab
  | slot, outcome =>
      match task.work with
      | .loading caller load => tab.resumeLoad i task caller load load.stage slot outcome
      | .selecting organizationId _ =>
          match slot, outcome with
          | .context, .waits call => tab.become i task (.selecting organizationId call)
          | .context, .resolves context => tab.selectAnswered i task organizationId context
          | .context, .rejects error => tab.selectFailed i task (.api error)
          | _, _ => tab
      | .calling _ =>
          match slot, outcome with
          | .page, .waits call => tab.become i task (.calling call)
          | .page, _ => tab.become i task .finished
          | _, _ => tab
      | _ => tab

def callAnswered (i : Nat) (slot : Slot) (answer : Except ApiError slot.Data)
    : Option Tab := do
  let task ← tab.tasks[i]?
  let call ← task.work.call slot
  let (next, outcome) ← tab.answerCall task.born call answer
  return next.resume i task slot outcome

def callResumed (i : Nat) (slot : Slot) : Option Tab := do
  let task ← tab.tasks[i]?
  let call ← task.work.call slot
  let outcome ← tab.resumeCall call
  return tab.resume i task slot outcome

/-- `restoreSession` after `await refresh()`. -/
def restoreResumed (i : Nat) : Option Tab :=
  match tab.tasks[i]? with
  | some task =>
      match task.work with
      | .restoring active promise =>
          match tab.settledToken promise with
          | none => none
          | some token =>
              if !active then some (tab.become i task .finished)
              else
                match token with
                | none =>
                    some { tab.become i task .finished with
                      accessToken := none
                      accessTokenExpiresAt := none
                      state := anonymousState }
                | some token =>
                    match tab.accessTokenExpiresAt with
                    | none =>
                        some (tab.loadFailed i task .restoreSession
                          (.other "Refreshed token was missing expiry metadata."))
                    | some expiresAt =>
                        some (tab.loadSession i task .restoreSession token expiresAt)
      | _ => none
  | none => none

/-- `login` after `await loginWithPassword(…)`. -/
def loginAnswered (i : Nat) (answer : Except Failure TokenResponse) : Option Tab :=
  match tab.tasks[i]? with
  | some task =>
      match task.work with
      | .loggingIn =>
          match answer with
          | .ok token =>
              some ({ tab with
                generation := tab.generation + 1
                refreshPromise := none
                accessToken := some token.accessToken }.loadSession i task .login
                  token.accessToken token.accessTokenExpiresAt)
          | .error failure => some (tab.loadFailed i task .login failure)
      | _ => none
  | none => none

/-- `logout` and `logoutAll` after their request, whatever it answers. -/
def logoutAnswered (i : Nat) : Option Tab :=
  match tab.tasks[i]? with
  | some task =>
      match task.work with
      | .loggingOut => some (tab.clearSession.become i task .finished)
      | .loggingOutAll => some (tab.clearSession.become i task .finished)
      | _ => none
  | none => none

-----------------------------------------------------------------------------------------
-- Actions
-----------------------------------------------------------------------------------------

/-- The effect of mounting. In strict mode the effect runs, is cleaned up and runs again; the
first `restoreSession` is then no longer active. -/
def mount (restoreSessionOnMount strictMode : Bool) : Tab :=
  let mounted := { tab with mounted := true }
  if !restoreSessionOnMount then
    { mounted with state := anonymousState, actions := tab.actions + 1 }
  else
    let (first, promise) := mounted.refresh tab.actions
    let cleaned :=
      if strictMode then
        { first with
          tasks := first.tasks ++ [{ born := tab.actions, work := .restoring false promise }] }
      else first
    let (second, promise) := cleaned.refresh tab.actions
    second.start (.restoring true promise)

def login : Tab :=
  { tab with
    state := { tab.state with status := .authenticating, error := none } }.asLatest.start
      .loggingIn

def selectOrganization (organizationId : Text) : Tab :=
  { tab with
    generation := tab.generation + 1
    refreshPromise := none
    state := { tab.state with
      selectedOrganizationId := some organizationId
      tenantContext := none
      error := none } }.asLatest.start (.selecting organizationId .sent)

/-- An event before the provider is mounted, or a second mount, cannot happen. -/
def step : Event → Option Tab
  | .mount restoreSessionOnMount strictMode =>
      if tab.mounted then none else some (tab.mount restoreSessionOnMount strictMode)
  | event =>
      if !tab.mounted then none
      else
        match event with
        | .mount _ _ => none
        | .login => some tab.login
        | .logout => some (tab.asLatest.start .loggingOut)
        | .logoutAll => some (tab.asLatest.start .loggingOutAll)
        | .refresh => some { (tab.refresh tab.actions).1 with actions := tab.actions + 1 }
        | .selectOrganization organizationId => some (tab.selectOrganization organizationId)
        | .apiCall => some (tab.start (.calling .sent))
        | .clearError => some { tab with
            state := { tab.state with error := none }
            actions := tab.actions + 1 }
        | .refreshAnswered promise answer => tab.refreshAnswered promise answer
        | .refreshSettled promise => tab.refreshSettled promise
        | .restoreResumed task => tab.restoreResumed task
        | .loginAnswered task answer => tab.loginAnswered task answer
        | .logoutAnswered task => tab.logoutAnswered task
        | .callAnswered task slot answer => tab.callAnswered task slot answer
        | .callResumed task slot => tab.callResumed task slot

end Tab

abbrev TabRun (allowed : Tab → Event → Prop) : Tab → Tab → Prop :=
  Concurrency.Run Tab.step allowed

end WorkflowForge.Web
