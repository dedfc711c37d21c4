import WorkflowForge.Identity.Cleanups
import WorkflowForge.Identity.RefreshCalls

/-! Interleaved runs of the session use cases, from tables without sessions. -/

namespace WorkflowForge.Identity

open Python Transactions Concurrency

section Runs

variable {services : Services} {regime : Regime} {i : Nat} {world after : World}

-----------------------------------------------------------------------------------------
-- Initial states
-----------------------------------------------------------------------------------------

/-- There are users and nothing else, and the tokens to be generated have different digests. -/
structure World.Initial (services : Services) (world : World) : Prop where
  tables : ∀ t : TableName, t ≠ .users → world.committed t = []
  users : (world.committed .users).Nodup
  pending : world.store.pending = []
  locks : world.store.locks = []
  history : ∀ i, world.store.history i = {}
  drawn : world.drawn = []
  generated : world.generated = []
  mintedSessions : world.mintedSessions = []
  mintedTokens : world.mintedTokens = []
  distinct : (world.digests services).Nodup

namespace World.Initial

variable (initial : world.Initial services)
include initial

theorem own (i : Nat) : world.own i = [] := by
  simp [World.own, Store.own, initial.pending]

theorem absent {t : TableName} (other : t ≠ .users) (k : UUID)
    : world.committed.find? t k = none := by
  rw [Db.find?, initial.tables t other]
  rfl

theorem unique : world.committed.Unique := by
  intro t first second left _ _
  by_cases users : t = .users
  · subst users
    rfl
  · rw [initial.tables t users] at left
    cases left

theorem coherent : world.store.Coherent where
  keyed t := by
    by_cases users : t = .users
    · subst users
      have same : (world.committed .users).map (schema.key .users)
          = world.committed .users := List.map_id _
      rw [same]
      exact initial.users
    · rw [show world.store.committed t = [] from initial.tables t users]
      exact List.nodup_nil
  covered := by simp [initial.pending]
  exclusive := by simp [initial.locks]
  grounded := by simp [initial.locks]
  unique i := by
    rw [Store.view_of_own_nil (initial.own i)]
    exact initial.unique
  apart := by simp [initial.pending]
  settled := initial.unique

theorem lineage (lifetime : Timedelta) : Lineage lifetime world.committed := by
  have noToken (k : UUID) : tokenAt world.committed k = none := initial.absent (by decide) k
  have noSession (k : UUID) : sessionAt world.committed k = none := initial.absent (by decide) k
  constructor <;> simp [noToken, noSession]

theorem ledger : Ledger services world := by
  have noToken (k : UUID) : tokenAt world.committed k = none := initial.absent (by decide) k
  have noSession (k : UUID) : sessionAt world.committed k = none := initial.absent (by decide) k
  exact {
    distinct := initial.distinct
    oneSession := by simp [initial.mintedSessions]
    oneToken := by simp [initial.mintedTokens]
    drawnSession := by simp [initial.mintedSessions]
    drawnToken := by simp [initial.mintedTokens]
    generatedToken := by simp [initial.mintedTokens]
    sessions := by simp [noSession]
    tokens := by simp [noToken]
  }

theorem invariant (flags : Flags) : Invariant services flags world := by
  have noToken (k : UUID) : tokenAt world.committed k = none := initial.absent (by decide) k
  have noSession (k : UUID) : sessionAt world.committed k = none := initial.absent (by decide) k
  have noEvent (k : UUID) : world.committed.find? .securityAuditEvents k = none :=
    initial.absent (by decide) k
  exact {
    coherent := initial.coherent
    untouched := by simp [initial.own]
    lineage := initial.lineage _
    ledger := initial.ledger
    homes := by simp [noSession]
    narrow := by simp [noToken]
    newSessions := by simp [initial.own]
    events := by simp [noEvent]
    newEvents := by simp [initial.own]
    quenched := fun _ => by simp [Quenched, noSession]
  }

end World.Initial

-----------------------------------------------------------------------------------------
-- What a call may rely on when it starts
-----------------------------------------------------------------------------------------

/-- The call has not begun. -/
def Unstarted (i : Nat) (world : World) : Prop := Idle world i ∧ Unopened world i

theorem Unstarted.stays (i : Nat) (before now : World) (unstarted : Unstarted i before)
    (interference : (discipline services regime).rely i before now)
    : Unstarted i now := by
  obtain ⟨keeps, history⟩ := interference
  refine ⟨?_, ?_⟩
  · exact {
      own := keeps.own.trans unstarted.1.own
      noSession := fun row member => unstarted.1.noSession row (keeps.ownSessions row member)
      noToken := fun row member => unstarted.1.noToken row (keeps.ownTokens row member)
    }
  · unfold Unopened
    rw [history]
    exact unstarted.2

theorem World.Initial.unstarted (initial : world.Initial services) (i : Nat)
    : Unstarted i world := by
  refine ⟨?_, by simp [Unopened, initial.history]⟩
  exact {
    own := initial.own i
    noSession := by simp [initial.mintedSessions]
    noToken := by simp [initial.mintedTokens]
  }

-----------------------------------------------------------------------------------------
-- How the calls end
-----------------------------------------------------------------------------------------

/-- What holds when a call has ended with a result. -/
def Outcome (services : Services) (regime : Regime) (i : Nat)
    : SessionCall → Except Fault Reply → World → Prop
  | .refresh command, .ok (.pair pair), world =>
      Refreshed regime i (services.digestToken command.refreshToken) pair world
      ∧ ReadUnused i (services.digestToken command.refreshToken) world
  | .refresh command, .error failure, world =>
      RefreshFailed services regime i (services.digestToken command.refreshToken) failure world
  | .logout command, .ok _, world => world.Revoked regime.deletes command.sessionId
  | .logout command, .error _, world =>
      Undisturbed services regime → Unowned command i world
  | .logoutAll command, .ok _, world =>
      ∀ k, Enrolled regime command.userId k → ¬ regime.deletes → world.Revoked regime.deletes k
  | .logoutAll _, .error _, _ => ¬ Undisturbed services regime
  | .verify _, .ok (.principal principal), _ => ¬ Doomed regime principal.sessionId
  | .refresh _, .ok _, _ => False
  | .verify _, .ok _, _ => False
  | _, _, _ => True

/-- A use case whose value is wrapped into the reply of the call. -/
theorem Spec.reply {α : Type} {pre : World → Prop} {program : App α}
    {value : α → World → Prop} {raised : Fault → World → Prop} {wrap : α → Reply}
    {post : Except Fault Reply → World → Prop}
    (spec : Spec services regime i pre program value raised)
    (tame : ∀ result, Tame services regime i (value result))
    (returned : ∀ result world, value result world → post (.ok (wrap result)) world)
    (failed : ∀ failure world, raised failure world → post (.error failure) world)
    : Triple exec (discipline services regime) i pre (program >>= fun result => return wrap result)
        post := by
  refine Triple.bind (discipline_coherent services regime).toOrdered spec ?_
    (fun failure world _ => failed failure world)
  intro result
  exact Triple.done (tame result).stable (fun world _ => returned result world)

/-- Every call is safe from the state in which it starts. -/
theorem body_safe (call : SessionCall) (state : World)
    (sound : (discipline services regime).inv state) (unstarted : Unstarted i state)
    : Safe exec (discipline services regime) i (Outcome services regime i call)
        (call.body services) state := by
  cases call with
  | start command =>
      exact (startUserSession_spec command).reply (fun _ => .const _) (fun _ _ _ => trivial)
        (fun _ _ _ => trivial) state sound unstarted.1
  | refresh command =>
      exact (refreshSession_spec command).reply
        (fun pair => (Refreshed.tame _ pair).and (ReadUnused.tame _)) (fun _ _ holds => holds)
        (fun _ _ failed => failed) state sound unstarted
  | logout command =>
      exact (logoutSession_spec command).reply (fun _ => .revoked _) (fun _ _ holds => holds)
        (fun _ _ failed => failed) state sound unstarted
  | logoutAll command =>
      exact (logoutAllSessions_spec command).reply
        (fun _ => .all fun k => .imp fun _ => .imp fun _ => .revoked k) (fun _ _ holds => holds)
        (fun _ _ failed => failed) state sound unstarted.1
  | verify token =>
      exact (verifyAccessToken_spec token).reply (fun _ => .const _) (fun _ _ holds => holds)
        (fun _ _ _ => trivial) state sound unstarted.1
  | cleanup command =>
      exact (cleanupExpiredSessions_spec command).reply (fun _ => .const _)
        (fun _ _ _ => trivial) (fun _ _ _ => trivial) state sound unstarted.1

-----------------------------------------------------------------------------------------
-- Soundness of runs
-----------------------------------------------------------------------------------------

abbrev SessionConfig := Config Op Op.Answer Fault Reply World SessionCall

/-- Soundness of every configuration of a run. -/
theorem sessions_sound (regime : Regime) {config : SessionConfig}
    (initial : world.Initial services) (also : regime.also world)
    (run : Reaches exec (SessionCall.body services) regime.admits (.idle world) config)
    : Sound exec (discipline services regime) Unstarted (Outcome services regime) config := by
  refine Sound.reaches (discipline_coherent services regime) Unstarted.stays
    (fun i call state => body_safe call state) ?_ run
  refine ⟨⟨initial.invariant _, also⟩, ?_, fun i _ => initial.unstarted i⟩
  intro i thread found
  simp [Config.idle] at found

/-- A regime that also notes a fact, once it holds. -/
def Regime.noting (regime : Regime) (fact : World → Prop)
    (kept
      : ∀ j before after, Keeps regime.toFlags j before after → fact before → fact after)
    : Regime :=
  { regime with
    also := fun world => regime.also world ∧ fact world
    also_kept := fun j before after keeps holds =>
      ⟨regime.also_kept j before after keeps holds.1, kept j before after keeps holds.2⟩ }

/-- From a configuration on in which a lasting fact holds, every call that starts later may use
it. -/
theorem sessions_later {regime : Regime} {fact : World → Prop}
    (kept
      : ∀ j before after, Keeps regime.toFlags j before after → fact before → fact after)
    {earlier later : SessionConfig}
    (sound
      : Sound exec (discipline services regime) Unstarted (Outcome services regime) earlier)
    (holds : fact earlier.shared)
    (run : Reaches exec (SessionCall.body services) regime.admits earlier later)
    : Sound exec (discipline services (regime.noting fact kept)) Unstarted
        (fun i call result world =>
          earlier.threads.length ≤ i
          → Outcome services (regime.noting fact kept) i call result world)
        later := by
  let stricter := discipline services (regime.noting fact kept)
  have noted : Sound exec stricter Unstarted
      (fun i call result world =>
        earlier.threads.length ≤ i
        → Outcome services (regime.noting fact kept) i call result world)
      earlier := by
    apply sound.later
    · exact fun now invariant => ⟨invariant.1, invariant.2.1⟩
    · exact fun _ _ _ interference => interference
    · exact fun _ _ _ admitted => admitted
    · intro i now after before sound promised
      refine ⟨⟨sound.1, sound.2, ?_⟩, promised⟩
      exact kept (i + 1) now after (promised (i + 1) (Nat.succ_ne_self i)).1 before.2.2
    · exact ⟨sound.inv.1, sound.inv.2, holds⟩
  refine noted.reaches (discipline_coherent services _) Unstarted.stays ?_ run
  intro i call state invariant unstarted
  exact (body_safe call state invariant unstarted).mono (fun _ _ _ reached _ => reached)

/-- The regime of runs without a side condition. -/
def Regime.free : Regime where
  deletes := True
  settles := False
  calm := False
  smooth := False
  admits _ _ _ := True
  also _ := True
  undeleted kept := absurd trivial kept
  lasting := False.elim
  unconsumed := False.elim
  stamped := False.elim
  consumed := False.elim
  also_kept _ _ _ _ holds := holds

/-- The statement deletes no row. -/
def Op.lasting : Op → Bool
  | .deleteRefreshTokens _ => false
  | .deleteSessions _ => false
  | _ => true

end Runs

-----------------------------------------------------------------------------------------
-- A small installation for concrete runs
-----------------------------------------------------------------------------------------

namespace Sample

/-- SHA-256 of the sample tokens. -/
def digestToken (token : Text) : RefreshTokenDigest :=
  if token = "alpha".toList then
    ⟨"8ed3f6ad685b959ead7022518e1af76cd816f8e8ec7ccdda1ed4018e8f2223f8".toList, by decide⟩
  else if token = "beta".toList then
    ⟨"f44e64e75f3948e9f73f8dfa94721c4ce8cbb4f265c4790c702b2d41cfbf2753".toList, by decide⟩
  else
    ⟨"be9d587defa1f0c09ef49eb17e206983a5f8f8289e4281860bd0ee5a19592c67".toList, by decide⟩

/-- Refresh tokens and sessions have the same lifetime. -/
def services : Services where
  policy := {
    accessTokenLifetime := 10
    refreshTokenLifetime := 100
    sessionLifetime := 100
    access_pos := by decide
    refresh_pos := by decide
    session_pos := by decide
    refresh_le := by decide
  }
  digestToken := digestToken
  issueToken _ := .ok "access".toList
  audit := true
  logoutIds := true

/-- One user, with the claims of an access token for the first session; the deadlock detector
ends every call that waits while it holds locks. -/
def world (ids : IdSource) (clock : Nat → Timestamp) : World where
  store := {
    committed := fun
      | .users => [(7 : UUID)]
      | _ => []
  }
  detector _ _ := true
  ids := ids
  drawn := []
  clock := clock
  ticks := 0
  tokens := ["alpha".toList, "beta".toList, "gamma".toList]
  generated := []
  authenticates _ _ _ := .ok 7
  logins := 0
  verifies _ _ := .ok {
    userId := 7
    sessionId := ids.get 0
    tokenId := ids.get 3
    issuedAt := clock 0
    expiresAt := clock 0 + 10
  }
  verified := 0
  mintedSessions := []
  mintedTokens := []

theorem world_initial (ids : IdSource) (clock : Nat → Timestamp)
    : (world ids clock).Initial services where
  tables := by
    intro t users
    cases t <;> first | rfl | contradiction
  users := List.nodup_singleton 7
  pending := rfl
  locks := rfl
  history _ := rfl
  drawn := rfl
  generated := rfl
  mintedSessions := rfl
  mintedTokens := rfl
  distinct := by
    show [digestToken "alpha".toList, digestToken "beta".toList, digestToken "gamma".toList].Nodup
    decide

theorem ascending_injective (m n : Nat) (same : m + 100 = n + 100) : m = n :=
  Nat.add_right_cancel same

theorem ascending_ne_nil (n : Nat) : n + 100 ≠ 0 :=
  Nat.succ_ne_zero (n + 99)

/-- Ids in ascending order. -/
def ascending : IdSource where
  get n := n + 100
  injective := ascending_injective
  ne_nil := ascending_ne_nil

/-- The first eight ids in descending order. -/
def descending : IdSource where
  get n := if n < 8 then 107 - n else n + 100
  injective m n same := by
    change (if m < 8 then 107 - m else m + 100) = (if n < 8 then 107 - n else n + 100) at same
    split at same <;> split at same <;> omega
  ne_nil n := by
    change (if n < 8 then 107 - n else n + 100) ≠ 0
    split <;> omega

def login : SessionCall := .start { email := [], password := [], auditContext := {} }

def refresh (token : String) : SessionCall :=
  .refresh { refreshToken := token.toList, auditContext := {} }

/-- Logout from the first session. -/
def logout (ids : IdSource) : SessionCall :=
  .logout { userId := 7, sessionId := ids.get 0, auditContext := {} }

def logoutAll : SessionCall :=
  .logoutAll { userId := 7, sessionId := none, auditContext := {} }

/-- The next operations of one call. -/
def acts (i count : Nat) : List (Move SessionCall) := List.replicate count (.act i)

/-- The first call logs in, from start to end. -/
def loggedIn : List (Move SessionCall) := .start login :: acts 0 14

/-- Follow a schedule from the initial state, as far as `check` allows the operations. -/
abbrev follow (ids : IdSource) (clock : Nat → Timestamp) (check : Nat → Op → World → Bool)
    (schedule : List (Move SessionCall))
    : Option SessionConfig :=
  (Config.idle (world ids clock)).follow exec (SessionCall.body services) check schedule

end Sample

end WorkflowForge.Identity
