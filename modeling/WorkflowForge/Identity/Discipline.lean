import WorkflowForge.Concurrency.Triples
import WorkflowForge.Identity.Lineage
import WorkflowForge.Transactions.Lookups

/-! What holds of the session tables between any two operations, and what a call can rely on.
The ledger ties every committed row to the one INSERT that made it; since each call inserts at
most one session and one refresh token, a row seen earlier can be recognised later.
-/

namespace WorkflowForge.Identity

open Python Transactions Concurrency

variable (services : Services)

abbrev World.committed (world : World) : Database := world.store.committed

abbrev World.own (world : World) (i : Nat) : List (Write schema) := world.store.own i

/-- The writes to the tables. -/
abbrev putSession (row : AuthSession) : Write schema := .put TableName.authSessions row

abbrev putToken (row : RefreshTokenRecord) : Write schema := .put TableName.refreshTokens row

abbrev putEvent (row : SecurityEvent) : Write schema := .put TableName.securityAuditEvents row

abbrev dropSession (k : UUID) : Write schema := .remove TableName.authSessions k

abbrev dropToken (k : UUID) : Write schema := .remove TableName.refreshTokens k

-----------------------------------------------------------------------------------------
-- The ledger of inserted rows
-----------------------------------------------------------------------------------------

/-- Call `i` drew the id. -/
def World.DrawnBy (world : World) (i : Nat) (k : UUID) : Prop :=
  ∃ n : Nat, world.drawn[n]? = some i ∧ world.ids.get n = k

/-- The digests of the refresh tokens in the order in which they are generated. -/
def World.digests (world : World) : List RefreshTokenDigest :=
  world.tokens.map services.digestToken

/-- Call `i` generated the refresh token with this digest. -/
def World.GeneratedBy (world : World) (i : Nat) (digest : RefreshTokenDigest) : Prop :=
  ∃ n : Nat, world.generated[n]? = some i ∧ (world.digests services)[n]? = some digest

structure Ledger (world : World) : Prop where
  distinct : (world.digests services).Nodup
  oneSession
    : ∀ i first second,
        (i, first) ∈ world.mintedSessions → (i, second) ∈ world.mintedSessions → first = second
  oneToken
    : ∀ i first second,
        (i, first) ∈ world.mintedTokens → (i, second) ∈ world.mintedTokens → first = second
  drawnSession : ∀ i session, (i, session) ∈ world.mintedSessions → world.DrawnBy i session.id
  drawnToken : ∀ i token, (i, token) ∈ world.mintedTokens → world.DrawnBy i token.id
  generatedToken
    : ∀ i token, (i, token) ∈ world.mintedTokens
        → world.GeneratedBy services i token.tokenDigest
  sessions
    : ∀ k session, sessionAt world.committed k = some session
        → ∃ i minted, (i, minted) ∈ world.mintedSessions ∧ session.Alike minted
  tokens
    : ∀ k token, tokenAt world.committed k = some token
        → ∃ i minted, (i, minted) ∈ world.mintedTokens ∧ token.Alike minted

/-- The generation of a refresh token belongs to one call. -/
theorem World.GeneratedBy.unique {world : World} {i j : Nat} {digest : RefreshTokenDigest}
    (distinct : (world.digests services).Nodup) (left : world.GeneratedBy services i digest)
    (right : world.GeneratedBy services j digest)
    : i = j := by
  obtain ⟨m, first, same⟩ := left
  obtain ⟨n, second, same'⟩ := right
  have inside := (List.getElem?_eq_some_iff.mp same).1
  have index := (List.getElem?_inj inside distinct).mp (same.trans same'.symm)
  rw [index, second] at first
  exact (Option.some.inj first).symm

/-- The draw of an id belongs to one call. -/
theorem World.DrawnBy.unique {world : World} {i j : Nat} {k : UUID}
    (left : world.DrawnBy i k) (right : world.DrawnBy j k)
    : i = j := by
  obtain ⟨m, first, same⟩ := left
  obtain ⟨n, second, same'⟩ := right
  have index := world.ids.injective m n (same.trans same'.symm)
  rw [index, second] at first
  exact (Option.some.inj first).symm

/-- Inserted sessions with one id are one. -/
theorem Ledger.session_unique {world : World} (ledger : Ledger services world) {i j : Nat}
    {first second : AuthSession} (left : (i, first) ∈ world.mintedSessions)
    (right : (j, second) ∈ world.mintedSessions) (same : first.id = second.id)
    : i = j ∧ first = second := by
  have drawn := ledger.drawnSession j second right
  rw [← same] at drawn
  have index := (ledger.drawnSession i first left).unique drawn
  subst index
  exact ⟨rfl, ledger.oneSession i first second left right⟩

/-- Inserted tokens with one id are one. -/
theorem Ledger.token_unique {world : World} (ledger : Ledger services world) {i j : Nat}
    {first second : RefreshTokenRecord} (left : (i, first) ∈ world.mintedTokens)
    (right : (j, second) ∈ world.mintedTokens) (same : first.id = second.id)
    : i = j ∧ first = second := by
  have drawn := ledger.drawnToken j second right
  rw [← same] at drawn
  have index := (ledger.drawnToken i first left).unique drawn
  subst index
  exact ⟨rfl, ledger.oneToken i first second left right⟩

/-- Inserted tokens with one digest are one. -/
theorem Ledger.digest_unique {world : World} (ledger : Ledger services world) {i j : Nat}
    {first second : RefreshTokenRecord} (left : (i, first) ∈ world.mintedTokens)
    (right : (j, second) ∈ world.mintedTokens)
    (same : first.tokenDigest = second.tokenDigest)
    : i = j ∧ first = second := by
  have generated := ledger.generatedToken j second right
  rw [← same] at generated
  have index := (ledger.generatedToken i first left).unique services ledger.distinct generated
  subst index
  exact ⟨rfl, ledger.oneToken i first second left right⟩

-----------------------------------------------------------------------------------------
-- Assertions that other calls keep
-----------------------------------------------------------------------------------------

/-- The session is gone for good, or revoked for good. -/
structure World.Dead (world : World) (k : UUID) : Prop where
  minted : ∃ i session, (i, session) ∈ world.mintedSessions ∧ session.id = k
  committed : ∀ session, sessionAt world.committed k = some session → session.revokedAt.isSome
  pending
    : ∀ i row, putSession row ∈ world.own i → row.id = k → row.revokedAt.isSome

/-- Call `i` only removes sessions and refresh tokens, and leaves no reference to them. -/
structure World.Pruned (world : World) (i : Nat) : Prop where
  unputSessions : ∀ row, putSession row ∉ world.own i
  unputTokens : ∀ row, putToken row ∉ world.own i
  references
    : ∀ k token replacement,
        tokenAt world.committed k = some token
        → dropToken k ∉ world.own i
        → token.replacedByTokenId = some replacement
        → dropToken replacement ∉ world.own i
  parents
    : ∀ k token,
        tokenAt world.committed k = some token
        → dropToken k ∉ world.own i
        → dropSession token.sessionId ∉ world.own i

/-- No refresh token that call `i` inserted is committed. -/
def World.Withheld (world : World) (i : Nat) : Prop :=
  ∀ token, (i, token) ∈ world.mintedTokens → tokenAt world.committed token.id = none

/-- Call `i` drew the id, and no audit event carries it. -/
structure World.Untaken (world : World) (i : Nat) (k : UUID) : Prop where
  drawn : world.DrawnBy i k
  committed : world.committed.find? .securityAuditEvents k = none
  pending : ∀ j event, putEvent event ∈ world.own j → event.id ≠ k

/-- A revocation by call `i` still has to stamp the tokens `rest` of the session: no other
live token is left unstamped, unless one of `rest` has been consumed. -/
structure World.Chased (world : World) (i : Nat) (session : UUID) (rest : List UUID) : Prop where
  present : (sessionAt world.committed session).isSome
  chased
    : (∀ k token,
        tokenAt world.committed k = some token
        → token.sessionId = session
        → token.Live
        → k ∈ rest ∨ ∃ row, putToken row ∈ world.own i ∧ row.id = k)
      ∨ ∃ k ∈ rest, ∃ token, tokenAt world.committed k = some token ∧ token.usedAt.isSome

/-- What the runs under consideration are allowed to do. -/
structure Flags where
  /-- DELETE statements are made. -/
  deletes : Prop
  /-- No revocation reaches a token that was consumed after its snapshot. -/
  settles : Prop
  /-- No revocation is refused by a constraint or ended by the deadlock detector. -/
  calm : Prop
  /-- No rotation is ended by the deadlock detector, or refused by a constraint other than the
  unique ones. -/
  smooth : Prop

/-- What the other calls leave to call `i`. -/
structure Keeps (flags : Flags) (i : Nat) (before after : World) : Prop where
  own : after.own i = before.own i
  rows
    : ∀ t k, (i, t, k) ∈ before.store.locks
        → after.committed.find? t k = before.committed.find? t k
  locks : ∀ row, (i, row) ∈ before.store.locks → (i, row) ∈ after.store.locks
  opened
    : ∀ db, (before.store.history i).opened = some db
        → (after.store.history i).opened = some db
  ids : after.ids = before.ids
  tokens : after.tokens = before.tokens
  drawn : before.drawn <+: after.drawn
  generated : before.generated <+: after.generated
  mintedSessions : before.mintedSessions ⊆ after.mintedSessions
  mintedTokens : before.mintedTokens ⊆ after.mintedTokens
  ownSessions : ∀ row, (i, row) ∈ after.mintedSessions → (i, row) ∈ before.mintedSessions
  ownTokens : ∀ row, (i, row) ∈ after.mintedTokens → (i, row) ∈ before.mintedTokens
  users : after.committed .users = before.committed .users
  pruned : before.Pruned i → after.Pruned i
  withheld : before.Withheld i → after.Withheld i
  dead : ∀ k, before.Dead k → after.Dead k
  untaken : ∀ k, before.Untaken i k → after.Untaken i k
  consumed
    : ¬ flags.deletes
        → ∀ k token replacement,
            tokenAt before.committed k = some token
            → token.replacedByTokenId = some replacement
            → ∃ later,
                tokenAt after.committed k = some later
                ∧ later.Alike token
                ∧ later.replacedByTokenId = some replacement
  sessions
    : ¬ flags.deletes
        → ∀ k session,
            sessionAt before.committed k = some session
            → ∃ later, sessionAt after.committed k = some later ∧ later.Alike session
  chased
    : flags.settles → ∀ session rest, before.Chased i session rest → after.Chased i session rest

theorem Keeps.refl (flags : Flags) (i : Nat) (world : World) : Keeps flags i world world where
  own := rfl
  rows _ _ _ := rfl
  locks _ lock := lock
  opened _ found := found
  ids := rfl
  tokens := rfl
  drawn := List.prefix_refl _
  generated := List.prefix_refl _
  mintedSessions := fun _ member => member
  mintedTokens := fun _ member => member
  ownSessions _ member := member
  ownTokens _ member := member
  users := rfl
  pruned := id
  withheld := id
  dead _ := id
  untaken _ := id
  consumed _ _ token _ found pointed := ⟨token, found, .refl token, pointed⟩
  sessions _ _ session found := ⟨session, found, .refl session⟩
  chased _ _ _ := id

theorem Keeps.trans {flags : Flags} {i : Nat} {first second third : World}
    (early : Keeps flags i first second) (late : Keeps flags i second third)
    : Keeps flags i first third where
  own := late.own.trans early.own
  rows t k lock := (late.rows t k (early.locks _ lock)).trans (early.rows t k lock)
  locks row lock := late.locks row (early.locks row lock)
  opened db found := late.opened db (early.opened db found)
  ids := late.ids.trans early.ids
  tokens := late.tokens.trans early.tokens
  drawn := early.drawn.trans late.drawn
  generated := early.generated.trans late.generated
  mintedSessions := fun _ member => late.mintedSessions (early.mintedSessions member)
  mintedTokens := fun _ member => late.mintedTokens (early.mintedTokens member)
  ownSessions row member := early.ownSessions row (late.ownSessions row member)
  ownTokens row member := early.ownTokens row (late.ownTokens row member)
  users := late.users.trans early.users
  pruned holds := late.pruned (early.pruned holds)
  withheld holds := late.withheld (early.withheld holds)
  dead k holds := late.dead k (early.dead k holds)
  untaken k holds := late.untaken k (early.untaken k holds)
  consumed lasting k token replacement found pointed := by
    obtain ⟨middle, found', alike, pointed'⟩ :=
      early.consumed lasting k token replacement found pointed
    obtain ⟨later, found'', alike', pointed''⟩ :=
      late.consumed lasting k middle replacement found' pointed'
    exact ⟨later, found'', alike'.trans alike, pointed''⟩
  sessions lasting k session found := by
    obtain ⟨middle, found', alike⟩ := early.sessions lasting k session found
    obtain ⟨later, found'', alike'⟩ := late.sessions lasting k middle found'
    exact ⟨later, found'', alike'.trans alike⟩
  chased settles session rest holds :=
    late.chased settles session rest (early.chased settles session rest holds)

-----------------------------------------------------------------------------------------
-- The invariant and the discipline
-----------------------------------------------------------------------------------------

/-- No revoked session has a live token. -/
def Quenched (db : Database) : Prop :=
  ∀ j k session token,
    sessionAt db j = some session
    → session.revokedAt.isSome
    → tokenAt db k = some token
    → token.sessionId = j
    → ¬ token.Live

structure Invariant (flags : Flags) (world : World) : Prop where
  coherent : world.store.Coherent
  untouched : ∀ i, ∀ write ∈ world.own i, write.target.1 ≠ .users
  lineage : Lineage services.policy.refreshTokenLifetime world.committed
  ledger : Ledger services world
  homes : ∀ k session, sessionAt world.committed k = some session
      → hasUser world.committed session.userId = true
  narrow : ∀ k token, tokenAt world.committed k = some token → token.generation < 2 ^ 31
  newSessions
    : ∀ i row, putSession row ∈ world.own i
        → row.revokedAt.isSome ∨ sessionAt world.committed row.id = none
  events : ∀ k, (world.committed.find? .securityAuditEvents k).isSome → ∃ j, world.DrawnBy j k
  newEvents : ∀ i event, putEvent event ∈ world.own i → ∃ j, world.DrawnBy j event.id
  quenched : flags.settles → Quenched world.committed

/-- No row is dated after the revocation that meets it, and no audit event refers to a missing
row. -/
def stampable (i : Nat) (world : World) : Op → Bool
  | .select (.sessionToRevoke k revokedAt) =>
      (sessionAt (world.store.view i) k).all (fun session =>
        session.revokedAt.isSome || decide (session.createdAt ≤ revokedAt))
  | .update (.revokeRefreshToken k _ revokedAt) =>
      (tokenAt (world.store.view i) k).all (fun token =>
        !decide token.Live || decide (token.issuedAt ≤ revokedAt))
  | .update (.revokeUserSession k _ revokedAt) =>
      (sessionAt (world.store.view i) k).all (fun session =>
        session.revokedAt.isSome || decide (session.createdAt ≤ revokedAt))
  | .insert .securityAuditEvents event =>
      rowSound (world.store.view i) .securityAuditEvents event
  | _ => true

/-- No token is dated after the rotation that consumes it, and generations stay in range. -/
def consumable (i : Nat) (world : World) : Op → Bool
  | .update (.consumeRefreshToken k _ _ _ rotatedAt _) =>
      (tokenAt (world.store.view i) k).all (fun token => decide (token.issuedAt ≤ rotatedAt))
  | .insert .refreshTokens token => decide (token.generation < 2 ^ 31)
  | _ => true

/-- A regime restricts the operations of the runs, and may fix a fact that all steps keep. -/
structure Regime extends Flags where
  admits : Nat → Op → World → Prop
  also : World → Prop
  undeleted
    : ¬ deletes → ∀ i op world, admits i op world
        → (∀ ids, op ≠ .deleteRefreshTokens ids) ∧ ∀ ids, op ≠ .deleteSessions ids
  lasting : settles → ¬ deletes
  unconsumed
    : settles → ∀ i k session revokedAt world,
        admits i (.update (.revokeRefreshToken k session revokedAt)) world
        → ∀ token, tokenAt (world.store.view i) k = some token → token.usedAt = none
  stamped
    : calm → ∀ i op world, admits i op world
        → deadlocks i op world = false ∧ stampable i world op = true
  consumed
    : smooth → ∀ i op world, admits i op world
        → deadlocks i op world = false ∧ consumable i world op = true
  also_kept
    : ∀ j before after, Keeps toFlags j before after → also before → also after

theorem Regime.undisturbed_of_calm (regime : Regime) {i : Nat} {op : Op} {world : World}
    (admitted : regime.admits i op world) (deadlock : deadlocks i op world = true)
    : ¬ regime.calm := by
  intro calm
  rw [(regime.stamped calm i op world admitted).1] at deadlock
  contradiction

theorem Regime.undisturbed_of_smooth (regime : Regime) {i : Nat} {op : Op} {world : World}
    (admitted : regime.admits i op world) (deadlock : deadlocks i op world = true)
    : ¬ regime.smooth := by
  intro smooth
  rw [(regime.consumed smooth i op world admitted).1] at deadlock
  contradiction

/-- Interference: the other calls also leave the history of call `i` alone. -/
def Leaves (flags : Flags) (i : Nat) (before after : World) : Prop :=
  Keeps flags i before after ∧ after.store.history i = before.store.history i

/-- The rules of the session system. -/
def discipline (regime : Regime) : Discipline Op World where
  inv world := Invariant services regime.toFlags world ∧ regime.also world
  rely i before after := Leaves regime.toFlags i before after
  guar i before after := ∀ j, j ≠ i → Leaves regime.toFlags j before after
  admits := regime.admits

theorem discipline_coherent (regime : Regime) : (discipline services regime).Coherent where
  refl i world := ⟨Keeps.refl regime.toFlags i world, rfl⟩
  trans _ _ _ _ early late := ⟨early.1.trans late.1, late.2.trans early.2⟩
  compatible _ _ different _ _ left := left _ different

end WorkflowForge.Identity
