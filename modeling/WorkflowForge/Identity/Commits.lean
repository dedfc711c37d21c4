import WorkflowForge.Identity.Discipline

/-! What a commit can do, and why the other calls do not mind.
There are four kinds of transactions; each is described by the set of its uncommitted writes.
All of them make the same kind of progress, from which the invariant and the guarantee follow.
-/

namespace WorkflowForge.Identity

open Transactions Concurrency

variable {services : Services} {flags : Flags} {world : World} {i : Nat}

-----------------------------------------------------------------------------------------
-- The kinds of transactions
-----------------------------------------------------------------------------------------

/-- Call `i` has inserted a session and its first token. -/
structure Opening (services : Services) (world : World) (i : Nat) (session : AuthSession)
    (token : RefreshTokenRecord)
    : Prop where
  kept : ∀ t k, Write.remove t k ∉ world.own i
  sessions : ∀ row, putSession row ∈ world.own i ↔ row = session
  tokens : ∀ row, putToken row ∈ world.own i ↔ row = token
  sessionNew : sessionAt world.committed session.id = none
  tokenNew : tokenAt world.committed token.id = none
  mintedSession : (i, session) ∈ world.mintedSessions
  mintedToken : (i, token) ∈ world.mintedTokens
  home : hasUser world.committed session.userId = true
  parent : token.sessionId = session.id
  unrevoked : session.revokedAt = none
  unused : token.usedAt = none
  unreplaced : token.replacedByTokenId = none
  initial : token.generation = 0
  within : token.expiresAt ≤ session.expiresAt
  span : token.expiresAt ≤ token.issuedAt + services.policy.refreshTokenLifetime
  validSession : session.Valid
  validToken : token.Valid

/-- Call `i` has inserted a replacement and consumed the token it replaces. -/
structure Rotating (services : Services) (world : World) (i : Nat)
    (old new : RefreshTokenRecord) (rotatedAt : Timestamp)
    : Prop where
  kept : ∀ t k, Write.remove t k ∉ world.own i
  sessions : ∀ row, putSession row ∉ world.own i
  tokens
    : ∀ row,
        putToken row ∈ world.own i ↔ row = new ∨ row = old.consumed rotatedAt new.id
  known : tokenAt world.committed old.id = some old
  live : old.Live
  unreplaced : old.replacedByTokenId = none
  fresh : tokenAt world.committed new.id = none
  minted : (i, new) ∈ world.mintedTokens
  session : new.sessionId = old.sessionId
  family : new.tokenFamilyId = old.tokenFamilyId
  generation : new.generation = old.generation + 1
  narrow : new.generation < 2 ^ 31
  newLive : new.Live
  newUnreplaced : new.replacedByTokenId = none
  later : old.expiresAt ≤ new.expiresAt
  within
    : ∃ j parent,
        (j, parent) ∈ world.mintedSessions
        ∧ parent.id = new.sessionId
        ∧ new.expiresAt ≤ parent.expiresAt
  span : new.expiresAt ≤ new.issuedAt + services.policy.refreshTokenLifetime
  validOld : (old.consumed rotatedAt new.id).Valid
  validNew : new.Valid

/-- Call `i` only stamps committed sessions and current tokens. -/
structure Stamping (world : World) (i : Nat) : Prop where
  kept : ∀ t k, Write.remove t k ∉ world.own i
  sessions
    : ∀ row, putSession row ∈ world.own i
        → ∃ old, sessionAt world.committed row.id = some old ∧ row.Stamps old
  tokens
    : ∀ row, putToken row ∈ world.own i
        → ∃ old, tokenAt world.committed row.id = some old ∧ row.Stamps old

/-- A transaction that may commit. -/
inductive Ready (services : Services) (flags : Flags) (world : World) (i : Nat) : Prop where
  | opening (session : AuthSession) (token : RefreshTokenRecord)
    (opening : Opening services world i session token)
  | rotating (old new : RefreshTokenRecord) (rotatedAt : Timestamp)
    (rotating : Rotating services world i old new rotatedAt)
  | stamping (stamping : Stamping world i)
    (covered
      : flags.settles → ∀ row, putSession row ∈ world.own i → world.Chased i row.id [])
  | pruning (pruned : world.Pruned i)
    (lasting : ¬ flags.deletes → ∀ t k, Write.remove t k ∉ world.own i)

-----------------------------------------------------------------------------------------
-- From the writes to the lookups of the commit
-----------------------------------------------------------------------------------------

/-- A session in the view of a call that removes nothing. -/
theorem session_view (kept : ∀ t k, Write.remove t k ∉ world.own i) (k : UUID)
    : (sessionAt (world.store.view i) k = sessionAt world.committed k
        ∧ ∀ row, putSession row ∈ world.own i → row.id ≠ k)
      ∨ ∃ row,
          putSession row ∈ world.own i
          ∧ row.id = k
          ∧ sessionAt (world.store.view i) k = some row :=
  world.store.find?_view_put i (kept .authSessions k)

/-- A refresh token in the view of a call that removes nothing. -/
theorem token_view (kept : ∀ t k, Write.remove t k ∉ world.own i) (k : UUID)
    : (tokenAt (world.store.view i) k = tokenAt world.committed k
        ∧ ∀ row, putToken row ∈ world.own i → row.id ≠ k)
      ∨ ∃ row,
          putToken row ∈ world.own i
          ∧ row.id = k
          ∧ tokenAt (world.store.view i) k = some row :=
  world.store.find?_view_put i (kept .refreshTokens k)

theorem Opening.opens {session : AuthSession} {token : RefreshTokenRecord}
    (opening : Opening services world i session token)
    : Opens services.policy.refreshTokenLifetime world.committed (world.store.view i) session
        token where
  sessionNew := opening.sessionNew
  tokenNew := opening.tokenNew
  sessions k := by
    rcases session_view opening.kept k with ⟨same, untouched⟩ | ⟨row, member, hit, found⟩
    · have differs : k ≠ session.id := fun here =>
        untouched session ((opening.sessions session).mpr rfl) here.symm
      rw [if_neg differs]
      exact same
    · have same := (opening.sessions row).mp member
      subst same
      rw [if_pos hit.symm]
      exact found
  tokens k := by
    rcases token_view opening.kept k with ⟨same, untouched⟩ | ⟨row, member, hit, found⟩
    · have differs : k ≠ token.id := fun here =>
        untouched token ((opening.tokens token).mpr rfl) here.symm
      rw [if_neg differs]
      exact same
    · have same := (opening.tokens row).mp member
      subst same
      rw [if_pos hit.symm]
      exact found
  parent := opening.parent
  unused := opening.unused
  unreplaced := opening.unreplaced
  within := opening.within
  span := opening.span
  validSession := opening.validSession
  validToken := opening.validToken

/-- The session a replacement was made for is the one that is committed. -/
theorem Ledger.session_expires (ledger : Ledger services world) {j : Nat}
    {minted session : AuthSession} {k : UUID} (member : (j, minted) ∈ world.mintedSessions)
    (found : sessionAt world.committed k = some session) (same : minted.id = k)
    : session.Alike minted := by
  obtain ⟨j', other, member', alike⟩ := ledger.sessions k session found
  have hit : session.id = k := Db.find?_key found
  obtain ⟨_, equal⟩ :=
    ledger.session_unique services member member' (same.trans (hit.symm.trans alike.id))
  subst equal
  exact alike

theorem Rotating.rotates {old new : RefreshTokenRecord} {rotatedAt : Timestamp}
    (rotating : Rotating services world i old new rotatedAt) (ledger : Ledger services world)
    : Rotates services.policy.refreshTokenLifetime world.committed (world.store.view i) old new
        rotatedAt where
  known := rotating.known
  live := rotating.live
  unreplaced := rotating.unreplaced
  fresh := rotating.fresh
  sessions k := by
    rcases session_view rotating.kept k with ⟨same, _⟩ | ⟨row, member, _, _⟩
    · exact same
    · exact absurd member (rotating.sessions row)
  tokens k := by
    rcases token_view rotating.kept k with ⟨same, untouched⟩ | ⟨row, member, hit, found⟩
    · have notNew : k ≠ new.id := fun here =>
        untouched new ((rotating.tokens new).mpr (.inl rfl)) here.symm
      have notOld : k ≠ old.id := fun here =>
        untouched _ ((rotating.tokens _).mpr (.inr rfl)) here.symm
      rw [if_neg notNew, if_neg notOld]
      exact same
    · rcases (rotating.tokens row).mp member with rfl | rfl
      · rw [if_pos hit.symm]
        exact found
      · have here : old.id = k := hit
        have notNew : k ≠ new.id := by
          intro same
          have known := rotating.known
          rw [here, same, rotating.fresh] at known
          contradiction
        rw [if_neg notNew, if_pos here.symm]
        exact found
  session := rotating.session
  family := rotating.family
  generation := rotating.generation
  newLive := rotating.newLive
  newUnreplaced := rotating.newUnreplaced
  later := rotating.later
  within parent found := by
    obtain ⟨j, minted, member, same, bound⟩ := rotating.within
    rw [(ledger.session_expires member found same).expires]
    exact bound
  span := rotating.span
  validOld := rotating.validOld
  validNew := rotating.validNew

theorem Stamping.revokes (stamping : Stamping world i)
    : Revokes world.committed (world.store.view i) where
  sessions k := by
    rcases session_view stamping.kept k with ⟨same, _⟩ | ⟨row, member, hit, found⟩
    · exact .inl same
    · obtain ⟨old, known, stamps⟩ := stamping.sessions row member
      subst hit
      exact .inr ⟨old, row, known, found, stamps⟩
  tokens k := by
    rcases token_view stamping.kept k with ⟨same, _⟩ | ⟨row, member, hit, found⟩
    · exact .inl same
    · obtain ⟨old, known, stamps⟩ := stamping.tokens row member
      subst hit
      exact .inr ⟨old, row, known, found, stamps⟩

theorem World.Pruned.session_view (pruned : world.Pruned i) (k : UUID)
    : (dropSession k ∈ world.own i ∧ sessionAt (world.store.view i) k = none)
      ∨ (dropSession k ∉ world.own i
          ∧ sessionAt (world.store.view i) k = sessionAt world.committed k) :=
  world.store.find?_view_remove i (fun row member => absurd member (pruned.unputSessions row))

/-- Without written tokens, a token is removed or seen as committed. -/
theorem token_view_unput (unput : ∀ row, putToken row ∉ world.own i) (k : UUID)
    : (dropToken k ∈ world.own i ∧ tokenAt (world.store.view i) k = none)
      ∨ (dropToken k ∉ world.own i
          ∧ tokenAt (world.store.view i) k = tokenAt world.committed k) :=
  world.store.find?_view_remove i (fun row member => absurd member (unput row))

theorem World.Pruned.token_view (pruned : world.Pruned i) (k : UUID)
    : (dropToken k ∈ world.own i ∧ tokenAt (world.store.view i) k = none)
      ∨ (dropToken k ∉ world.own i
          ∧ tokenAt (world.store.view i) k = tokenAt world.committed k) :=
  token_view_unput pruned.unputTokens k

theorem World.Pruned.prunes (pruned : world.Pruned i)
    : Prunes world.committed (world.store.view i) where
  sessions k := (pruned.session_view k).imp (·.2) (·.2)
  tokens k := (pruned.token_view k).imp (·.2) (·.2)
  parents k token found := by
    rcases pruned.token_view k with ⟨_, gone⟩ | ⟨here, same⟩
    · rw [gone] at found
      contradiction
    · rw [same] at found
      rcases pruned.session_view token.sessionId with ⟨removed, _⟩ | ⟨_, kept⟩
      · exact absurd removed (pruned.parents k token found here)
      · exact kept
  references k token replacement found pointed := by
    rcases pruned.token_view k with ⟨_, gone⟩ | ⟨here, same⟩
    · rw [gone] at found
      contradiction
    · rw [same] at found
      rcases pruned.token_view replacement with ⟨removed, _⟩ | ⟨_, kept⟩
      · exact absurd removed (pruned.references k token replacement found here pointed)
      · exact kept

-----------------------------------------------------------------------------------------
-- Progress
-----------------------------------------------------------------------------------------

/-- Where a session row of a commit by call `i` comes from. -/
inductive SessionOrigin (world : World) (i : Nat) (k : UUID) (row : AuthSession) : Prop where
  | kept (old : AuthSession) (known : sessionAt world.committed k = some old)
    (alike : row.Alike old) (final : old.revokedAt.isSome → row.revokedAt.isSome)
    (valid : row = old ∨ row.revokedAt.isSome)
  | born (new : sessionAt world.committed k = none) (put : putSession row ∈ world.own i)
    (minted : (i, row) ∈ world.mintedSessions)
    (home : hasUser world.committed row.userId = true)

/-- Where a refresh-token row of a commit by call `i` comes from: an old row, perhaps with a
reference to a row that `i` inserts, or a new row in a new session or beside a consumed one. -/
inductive TokenOrigin (world : World) (i : Nat) (after : Database) (k : UUID)
    (row : RefreshTokenRecord)
    : Prop where
  | kept (old : RefreshTokenRecord) (known : tokenAt world.committed k = some old)
    (alike : row.Alike old) (live : row.Live → old.Live)
    (pointed
      : row.replacedByTokenId = old.replacedByTokenId
        ∨ ∃ new, putToken new ∈ world.own i ∧ row.replacedByTokenId = some new.id)
  | first (new : tokenAt world.committed k = none) (minted : (i, row) ∈ world.mintedTokens)
    (unreplaced : row.replacedByTokenId = none) (narrow : row.generation < 2 ^ 31)
    (parent : AuthSession) (put : putSession parent ∈ world.own i)
    (owner : parent.id = row.sessionId)
    (absent : sessionAt world.committed row.sessionId = none)
  | next (new : tokenAt world.committed k = none) (minted : (i, row) ∈ world.mintedTokens)
    (unreplaced : row.replacedByTokenId = none) (narrow : row.generation < 2 ^ 31)
    (old spent : RefreshTokenRecord) (known : tokenAt world.committed old.id = some old)
    (sibling : old.sessionId = row.sessionId) (live : old.Live)
    (put : putToken spent ∈ world.own i) (same : spent.id = old.id)
    (found : tokenAt after old.id = some spent) (used : spent.usedAt.isSome)

/-- What every commit does. -/
structure Progress (services : Services) (flags : Flags) (world : World) (i : Nat)
    (after : Database)
    : Prop where
  lineage : Lineage services.policy.refreshTokenLifetime after
  sessions
    : ∀ k row, sessionAt after k = some row → SessionOrigin world i k row
  tokens : ∀ k row, tokenAt after k = some row → TokenOrigin world i after k row
  sessionsStay
    : ¬ flags.deletes → ∀ k old, sessionAt world.committed k = some old
        → ∃ row, sessionAt after k = some row ∧ row.Alike old
  tokensStay
    : ¬ flags.deletes → ∀ k old, tokenAt world.committed k = some old
        → ∃ row,
            tokenAt after k = some row
            ∧ row.Alike old
            ∧ (∀ replacement, old.replacedByTokenId = some replacement
                → row.replacedByTokenId = some replacement)
            ∧ (old.usedAt.isSome → row.usedAt.isSome)
  quenched : flags.settles → Quenched world.committed → Quenched after

theorem Opening.progress {session : AuthSession} {token : RefreshTokenRecord}
    (opening : Opening services world i session token)
    (lineage : Lineage services.policy.refreshTokenLifetime world.committed)
    : Progress services flags world i (world.store.view i) := by
  have opens := opening.opens
  have oldSession {k row} (known : sessionAt world.committed k = some row)
      : sessionAt (world.store.view i) k = some row := by
    rw [opens.sessions, if_neg, known]
    intro same
    rw [same, opening.sessionNew] at known
    contradiction
  have oldToken {k row} (known : tokenAt world.committed k = some row)
      : tokenAt (world.store.view i) k = some row := by
    rw [opens.tokens, if_neg, known]
    intro same
    rw [same, opening.tokenNew] at known
    contradiction
  refine {
    lineage := lineage.opens opens
    sessions := ?_
    tokens := ?_
    sessionsStay := ?_
    tokensStay := ?_
    quenched := ?_
  }
  · intro k row found
    rw [opens.sessions] at found
    split at found
    · rename_i here
      simp only [Option.some.injEq] at found
      subst found here
      exact .born opening.sessionNew ((opening.sessions _).mpr rfl) opening.mintedSession
        opening.home
    · exact .kept row found (.refl row) id (.inl rfl)
  · intro k row found
    rw [opens.tokens] at found
    split at found
    · rename_i here
      simp only [Option.some.injEq] at found
      subst found here
      refine .first opening.tokenNew opening.mintedToken opening.unreplaced ?_ session
        ((opening.sessions _).mpr rfl) opening.parent.symm ?_
      · rw [opening.initial]
        decide
      · rw [opening.parent]
        exact opening.sessionNew
    · exact .kept row found (.refl row) id (.inl rfl)
  · intro _ k old known
    exact ⟨old, oldSession known, .refl old⟩
  · intro _ k old known
    exact ⟨old, oldToken known, .refl old, fun _ pointed => pointed, id⟩
  · intro _ quenched j k parent row foundSession revoked foundToken sibling
    rw [opens.sessions] at foundSession
    rw [opens.tokens] at foundToken
    split at foundSession
    · simp only [Option.some.injEq] at foundSession
      subst foundSession
      simp [opening.unrevoked] at revoked
    · rename_i other
      split at foundToken
      · simp only [Option.some.injEq] at foundToken
        subst foundToken
        exact absurd (sibling.symm.trans opening.parent) other
      · exact quenched j k parent row foundSession revoked foundToken sibling

theorem Rotating.progress {old new : RefreshTokenRecord} {rotatedAt : Timestamp}
    (rotating : Rotating services world i old new rotatedAt) (ledger : Ledger services world)
    (lineage : Lineage services.policy.refreshTokenLifetime world.committed)
    : Progress services flags world i (world.store.view i) := by
  have rotates := rotating.rotates ledger
  have distinct : old.id ≠ new.id := by
    intro same
    have known := rotating.known
    rw [same, rotating.fresh] at known
    contradiction
  have spent : tokenAt (world.store.view i) old.id = some (old.consumed rotatedAt new.id) := by
    rw [rotates.tokens, if_neg distinct, if_pos rfl]
  refine {
    lineage := lineage.rotates rotates
    sessions := ?_
    tokens := ?_
    sessionsStay := ?_
    tokensStay := ?_
    quenched := ?_
  }
  · intro k row found
    rw [rotates.sessions] at found
    exact .kept row found (.refl row) id (.inl rfl)
  · intro k row found
    rcases rotates.cases_of found with ⟨rfl, rfl⟩ | ⟨rfl, rfl⟩ | ⟨_, _, older⟩
    · exact .next rotating.fresh rotating.minted rotating.newUnreplaced rotating.narrow old
        (old.consumed rotatedAt row.id) rotating.known rotating.session.symm rotating.live
        ((rotating.tokens _).mpr (.inr rfl)) rfl spent rfl
    · exact .kept old rotating.known ⟨rfl, rfl, rfl, rfl, rfl, rfl, rfl⟩
        (fun _ => rotating.live)
        (.inr ⟨new, (rotating.tokens _).mpr (.inl rfl), rfl⟩)
    · exact .kept row older (.refl row) id (.inl rfl)
  · intro _ k session known
    exact ⟨session, (rotates.sessions k).trans known, .refl session⟩
  · intro _ k token known
    have notNew : k ≠ new.id := by
      intro same
      rw [same, rotating.fresh] at known
      contradiction
    by_cases isOld : k = old.id
    · rw [isOld, rotating.known, Option.some.injEq] at known
      subst known
      refine ⟨old.consumed rotatedAt new.id, isOld ▸ spent,
        ⟨rfl, rfl, rfl, rfl, rfl, rfl, rfl⟩, ?_, fun _ => rfl⟩
      intro replacement pointed
      rw [rotating.unreplaced] at pointed
      contradiction
    · refine ⟨token, ?_, .refl token, fun _ pointed => pointed, id⟩
      rw [rotates.tokens, if_neg notNew, if_neg isOld, known]
  · intro _ quenched j k parent row foundSession revoked foundToken sibling
    rw [rotates.sessions] at foundSession
    rcases rotates.cases_of foundToken with ⟨rfl, rfl⟩ | ⟨rfl, rfl⟩ | ⟨_, _, older⟩
    · exact absurd rotating.live
        (quenched j old.id parent old foundSession revoked rotating.known
          (rotating.session.symm.trans sibling))
    · exact fun live => by simp [RefreshTokenRecord.Live, RefreshTokenRecord.consumed] at live
    · exact quenched j k parent row foundSession revoked older sibling

theorem Stamping.progress (stamping : Stamping world i)
    (covered : flags.settles → ∀ row, putSession row ∈ world.own i → world.Chased i row.id [])
    (lineage : Lineage services.policy.refreshTokenLifetime world.committed)
    : Progress services flags world i (world.store.view i) := by
  have revokes := stamping.revokes
  refine {
    lineage := lineage.revokes revokes
    sessions := ?_
    tokens := ?_
    sessionsStay := ?_
    tokensStay := ?_
    quenched := ?_
  }
  · intro k row found
    rcases revokes.sessions k with same | ⟨old, row', known, stamped, stamps⟩
    · rw [found] at same
      exact .kept row same.symm (.refl row) id (.inl rfl)
    · rw [found, Option.some.injEq] at stamped
      subst stamped
      exact .kept old known stamps.alike (fun _ => stamps.stamped) (.inr stamps.stamped)
  · intro k row found
    obtain ⟨old, known, alike, _, replaced, live, _⟩ := revokes.token_before found
    exact .kept old known alike live (.inl replaced)
  · intro _ k old known
    obtain ⟨row, found, alike, _⟩ := revokes.session_after known
    exact ⟨row, found, alike⟩
  · intro _ k old known
    obtain ⟨row, found, alike, used, replaced⟩ := revokes.token_after known
    exact ⟨row, found, alike, fun _ pointed => replaced.trans pointed, fun spent => used ▸ spent⟩
  · intro settles quenched j k parent row foundSession revoked foundToken sibling live
    obtain ⟨old, known, alike, _, _, wasLive, _⟩ := revokes.token_before foundToken
    have oldSibling : old.sessionId = j := alike.session.symm.trans sibling
    rcases session_view stamping.kept j with ⟨same, _⟩ | ⟨stamp, member, hit, _⟩
    · rw [foundSession] at same
      exact quenched j k parent old same.symm revoked known oldSibling (wasLive live)
    · -- the call revokes this session, so it stamped the token
      have chased := (covered settles stamp member).chased
      rw [hit] at chased
      rcases chased with every | ⟨_, empty, _⟩
      · rcases every k old known oldSibling (wasLive live) with empty | ⟨stamped, put, here⟩
        · simp at empty
        · rcases token_view stamping.kept k with ⟨_, untouched⟩ | ⟨written, put', _, found'⟩
          · exact untouched stamped put here
          · rw [foundToken, Option.some.injEq] at found'
            subst found'
            obtain ⟨_, _, stamps⟩ := stamping.tokens row put'
            exact stamps.not_live live
      · simp at empty

theorem World.Pruned.progress (pruned : world.Pruned i)
    (lasting : ¬ flags.deletes → ∀ t k, Write.remove t k ∉ world.own i)
    (lineage : Lineage services.policy.refreshTokenLifetime world.committed)
    : Progress services flags world i (world.store.view i) := by
  have prunes := pruned.prunes
  refine {
    lineage := lineage.prunes prunes
    sessions := ?_
    tokens := ?_
    sessionsStay := ?_
    tokensStay := ?_
    quenched := ?_
  }
  · intro k row found
    exact .kept row (prunes.session_before found) (.refl row) id (.inl rfl)
  · intro k row found
    exact .kept row (prunes.token_before found) (.refl row) id (.inl rfl)
  · intro undeleted k old known
    rcases pruned.session_view k with ⟨removed, _⟩ | ⟨_, same⟩
    · exact absurd removed (lasting undeleted .authSessions k)
    · exact ⟨old, same.trans known, .refl old⟩
  · intro undeleted k old known
    rcases pruned.token_view k with ⟨removed, _⟩ | ⟨_, same⟩
    · exact absurd removed (lasting undeleted .refreshTokens k)
    · exact ⟨old, same.trans known, .refl old, fun _ pointed => pointed, id⟩
  · intro _ quenched j k parent row foundSession revoked foundToken sibling
    exact quenched j k parent row (prunes.session_before foundSession) revoked
      (prunes.token_before foundToken) sibling

/-- Every transaction that may commit makes progress. -/
theorem Ready.progress (ready : Ready services flags world i) (ledger : Ledger services world)
    (lineage : Lineage services.policy.refreshTokenLifetime world.committed)
    : Progress services flags world i (world.store.view i) := by
  cases ready with
  | opening session token opening => exact opening.progress lineage
  | rotating old new rotatedAt rotating => exact rotating.progress ledger lineage
  | stamping stamping covered => exact stamping.progress covered lineage
  | pruning pruned lasting => exact pruned.progress lasting lineage

-----------------------------------------------------------------------------------------
-- The commit itself
-----------------------------------------------------------------------------------------

/-- The state after a commit of call `i`. -/
def World.publish (world : World) (i : Nat) : World :=
  { world with
    store :=
      ({ world.store with committed := world.store.view i }.release i).record i
        (fun h => { h with log := h.log ++ [(world.store.own i, world.store.view i)] }) }

theorem exec_commit (i : Nat) (world : World)
    : exec i .commit world = some ((), world.publish i) :=
  rfl

theorem schema_symmetric : schema.Symmetric := by
  intro t first second
  cases t with
  | refreshTokens =>
      simp only [uniqueClash, Bool.beq_comm (a := first.tokenDigest),
        Bool.beq_comm (a := first.sessionId), Bool.beq_comm (a := first.generation)]
  | users => rfl
  | authSessions => rfl
  | securityAuditEvents => rfl

theorem World.publish_effect (coherent : world.store.Coherent)
    : Store.Effect i world.store (world.publish i).store := by
  have ran : Store.exec i .commit world.store = some ((), (world.publish i).store) := rfl
  exact Store.exec_effect coherent ran

theorem World.publish_own_self : (world.publish i).own i = [] := by
  simp [World.publish, World.own]

/-- The rows of other calls in a commit stay as they are. -/
theorem Store.Coherent.not_shared (coherent : world.store.Coherent) {j : Nat}
    (different : j ≠ i) {first second : Write schema} (mine : first ∈ world.own i)
    (theirs : second ∈ world.own j)
    : first.target ≠ second.target :=
  coherent.own_disjoint (Ne.symm different) mine theirs

theorem Progress.invariant (progress : Progress services flags world i (world.store.view i))
    (invariant : Invariant services flags world)
    : Invariant services flags (world.publish i) := by
  have coherent := invariant.coherent
  have effect := World.publish_effect (i := i) coherent
  have ownOther {j} (other : j ≠ i) : (world.publish i).own j = world.own j :=
    (effect.frame other).1
  have users : world.store.view i .users = world.committed .users :=
    world.store.view_table i (invariant.untouched i)
  refine {
    coherent := effect.coherent schema_symmetric coherent
    untouched := ?_
    lineage := progress.lineage
    ledger := ?_
    homes := ?_
    narrow := ?_
    newSessions := ?_
    events := ?_
    newEvents := ?_
    quenched := fun settles => progress.quenched settles (invariant.quenched settles)
  }
  · intro j write member
    by_cases same : j = i
    · rw [same, World.publish_own_self] at member
      simp at member
    · rw [ownOther same] at member
      exact invariant.untouched j write member
  · have ledger := invariant.ledger
    refine { ledger with sessions := ?_, tokens := ?_ }
    · intro k row found
      cases progress.sessions k row found with
      | kept old known alike _ _ =>
          obtain ⟨j, minted, member, same⟩ := ledger.sessions k old known
          exact ⟨j, minted, member, alike.trans same⟩
      | born _ _ minted _ => exact ⟨i, row, minted, .refl row⟩
    · intro k row found
      cases progress.tokens k row found with
      | kept old known alike _ _ =>
          obtain ⟨j, minted, member, same⟩ := ledger.tokens k old known
          exact ⟨j, minted, member, alike.trans same⟩
      | first _ minted _ _ _ _ _ _ => exact ⟨i, row, minted, .refl row⟩
      | next _ minted _ _ _ _ _ _ _ _ _ _ _ => exact ⟨i, row, minted, .refl row⟩
  · intro k row found
    have same : hasUser (world.publish i).committed row.userId
        = hasUser world.committed row.userId := by
      unfold hasUser
      rw [show (world.publish i).committed .users = world.committed .users from users]
    rw [same]
    cases progress.sessions k row found with
    | kept old known alike _ _ =>
        rw [alike.user]
        exact invariant.homes k old known
    | born _ _ _ home => exact home
  · intro k row found
    cases progress.tokens k row found with
    | kept old known alike _ _ =>
        rw [alike.generation]
        exact invariant.narrow k old known
    | first _ _ _ narrow _ _ _ _ => exact narrow
    | next _ _ _ narrow _ _ _ _ _ _ _ _ _ => exact narrow
  · intro j row member
    by_cases same : j = i
    · rw [same, World.publish_own_self] at member
      simp at member
    · rw [ownOther same] at member
      have lock := coherent.covered j _ (Store.mem_own.mp member)
      have kept := effect.locked_row coherent same lock
      exact (invariant.newSessions j row member).imp_right (kept.trans ·)
  · intro k visible
    rcases world.store.find?_view_cases i (t := TableName.securityAuditEvents) (k := k) with
      ⟨same, _⟩ | ⟨_, puts⟩
    · refine invariant.events k ?_
      rw [← same]
      exact visible
    · obtain ⟨event, found⟩ := Option.isSome_iff_exists.mp visible
      obtain ⟨j, drawn⟩ := invariant.newEvents i event (puts event found)
      exact ⟨j, (show event.id = k from Db.find?_key found) ▸ drawn⟩
  · intro j event member
    by_cases same : j = i
    · rw [same, World.publish_own_self] at member
      simp at member
    · rw [ownOther same] at member
      exact invariant.newEvents j event member

theorem Progress.keeps (progress : Progress services flags world i (world.store.view i))
    (invariant : Invariant services flags world) (lasting : flags.settles → ¬ flags.deletes)
    {j : Nat} (different : j ≠ i)
    : Keeps flags j world (world.publish i) := by
  have coherent := invariant.coherent
  have effect := World.publish_effect (i := i) coherent
  have undisturbed := effect.undisturbed coherent different
  have own : (world.publish i).own j = world.own j := undisturbed.own
  refine {
    own := own
    rows := undisturbed.rows
    locks := fun row lock => (undisturbed.locks row).mpr lock
    opened := ?_
    ids := rfl
    tokens := rfl
    drawn := List.prefix_refl _
    generated := List.prefix_refl _
    mintedSessions := fun _ member => member
    mintedTokens := fun _ member => member
    ownSessions := fun _ member => member
    ownTokens := fun _ member => member
    users := world.store.view_table i (invariant.untouched i)
    pruned := ?_
    withheld := ?_
    dead := ?_
    untaken := ?_
    consumed := ?_
    sessions := progress.sessionsStay
    chased := ?_
  }
  · intro db found
    rw [undisturbed.history]
    exact found
  · intro pruned
    -- a row of the committing call is not removed by call `j`
    have apart {t k} {row : schema.Row t} (put : Write.put t row ∈ world.own i)
        (hit : schema.key t row = k) : Write.remove t k ∉ world.own j := by
      intro removed
      exact Store.Coherent.not_shared coherent different put removed (congrArg (Prod.mk t) hit)
    refine {
      unputSessions := fun row => own ▸ pruned.unputSessions row
      unputTokens := fun row => own ▸ pruned.unputTokens row
      references := ?_
      parents := ?_
    }
    · intro k token replacement found here pointed
      rw [own] at here ⊢
      cases progress.tokens k token found with
      | kept old known _ _ reference =>
          rcases reference with same | ⟨new, put, same⟩
          · exact pruned.references k old replacement known here (same ▸ pointed)
          · rw [pointed, Option.some.injEq] at same
            exact apart put same.symm
      | first _ _ unreplaced _ _ _ _ _ =>
          rw [unreplaced] at pointed
          contradiction
      | next _ _ unreplaced _ _ _ _ _ _ _ _ _ _ =>
          rw [unreplaced] at pointed
          contradiction
    · intro k token found here
      rw [own] at here ⊢
      cases progress.tokens k token found with
      | kept old known alike _ _ =>
          rw [alike.session]
          exact pruned.parents k old known here
      | first _ _ _ _ parent put owner _ => exact apart put owner
      | next _ _ _ _ old spent known sibling _ put same _ _ =>
          rw [← sibling]
          exact pruned.parents old.id old known (apart put same)
  · intro withheld token member
    have absent := withheld token member
    cases found : tokenAt (world.publish i).committed token.id with
    | none => rfl
    | some row =>
        have minted : (i, row) ∈ world.mintedTokens := by
          cases progress.tokens token.id row found with
          | kept old known _ _ _ =>
              rw [absent] at known
              contradiction
          | first _ minted _ _ _ _ _ _ => exact minted
          | next _ minted _ _ _ _ _ _ _ _ _ _ _ => exact minted
        have hit : row.id = token.id := Db.find?_key found
        exact absurd (invariant.ledger.token_unique services minted member hit).1.symm different
  · intro k dead
    refine { minted := dead.minted, committed := ?_, pending := ?_ }
    · intro row found
      cases progress.sessions k row found with
      | kept old known _ final _ => exact final (dead.committed old known)
      | born _ put _ _ => exact dead.pending i row put (Db.find?_key found)
    · intro j' row member
      by_cases same : j' = i
      · rw [same, World.publish_own_self] at member
        simp at member
      · have frame : (world.publish i).own j' = world.own j' := (effect.frame same).1
        rw [frame] at member
        exact dead.pending j' row member
  · intro k untaken
    refine { drawn := untaken.drawn, committed := ?_, pending := ?_ }
    · rcases world.store.find?_view_cases i (t := TableName.securityAuditEvents) (k := k) with
        ⟨same, _⟩ | ⟨_, puts⟩
      · exact same.trans untaken.committed
      · cases found : (world.store.view i).find? .securityAuditEvents k with
        | none => exact found
        | some event =>
            exact absurd (Db.find?_key found) (untaken.pending i event (puts event found))
    · intro j' event member
      by_cases same : j' = i
      · rw [same, World.publish_own_self] at member
        simp at member
      · have frame : (world.publish i).own j' = world.own j' := (effect.frame same).1
        rw [frame] at member
        exact untaken.pending j' event member
  · intro undeleted k token replacement known pointed
    obtain ⟨row, found, alike, kept, _⟩ := progress.tokensStay undeleted k token known
    exact ⟨row, found, alike, kept replacement pointed⟩
  · intro settles session rest chased
    have undeleted := lasting settles
    obtain ⟨old, known⟩ := Option.isSome_iff_exists.mp chased.present
    obtain ⟨later, found, _⟩ := progress.sessionsStay undeleted session old known
    refine { present := Option.isSome_iff_exists.mpr ⟨later, found⟩, chased := ?_ }
    have stays {k token} (known : tokenAt world.committed k = some token)
        (spent : token.usedAt.isSome)
        : ∃ token, tokenAt (world.publish i).committed k = some token ∧ token.usedAt.isSome := by
      obtain ⟨row, found, _, _, used⟩ := progress.tokensStay undeleted k token known
      exact ⟨row, found, used spent⟩
    rcases chased.chased with every | ⟨k, member, token, known, spent⟩
    · by_cases consumed
        : ∃ k ∈ rest, ∃ token,
            tokenAt (world.publish i).committed k = some token ∧ token.usedAt.isSome
      · exact .inr consumed
      · refine .inl ?_
        intro k token found sibling live
        rw [own]
        cases progress.tokens k token found with
        | kept old known alike wasLive _ =>
            exact every k old known (alike.session.symm.trans sibling) (wasLive live)
        | first _ _ _ _ _ _ _ absent =>
            rw [sibling] at absent
            have present := chased.present
            rw [absent] at present
            simp at present
        | next _ _ _ _ old spent known same oldLive put hit foundSpent used =>
            rcases every old.id old known (same.trans sibling) oldLive with
              member | ⟨row, put', hit'⟩
            · exact absurd ⟨old.id, member, spent, foundSpent, used⟩ consumed
            · exact absurd (congrArg (Prod.mk TableName.refreshTokens) (hit.trans hit'.symm))
                (Store.Coherent.not_shared coherent different put put')
    · obtain ⟨later, found, used⟩ := stays known spent
      exact .inr ⟨k, member, later, found, used⟩

end WorkflowForge.Identity
