import WorkflowForge.Application.SessionLifecycle

/-! The refresh-token lineage of a database, and what each kind of commit does to it.
A commit is described by the lookups it produces, whatever statements led to it.
-/

namespace WorkflowForge.Identity

open Transactions

abbrev sessionAt (db : Database) (k : UUID) : Option AuthSession := db.find? .authSessions k

abbrev tokenAt (db : Database) (k : UUID) : Option RefreshTokenRecord :=
  db.find? .refreshTokens k

/-- A current credential: neither used nor revoked. -/
def RefreshTokenRecord.Live (token : RefreshTokenRecord) : Prop :=
  token.usedAt = none ∧ token.revokedAt = none

instance (token : RefreshTokenRecord) : Decidable token.Live := inferInstanceAs (Decidable (_ ∧ _))

/-- The columns that no statement changes. -/
structure RefreshTokenRecord.Alike (first second : RefreshTokenRecord) : Prop where
  id : first.id = second.id
  session : first.sessionId = second.sessionId
  family : first.tokenFamilyId = second.tokenFamilyId
  digest : first.tokenDigest = second.tokenDigest
  generation : first.generation = second.generation
  issued : first.issuedAt = second.issuedAt
  expires : first.expiresAt = second.expiresAt

structure AuthSession.Alike (first second : AuthSession) : Prop where
  id : first.id = second.id
  user : first.userId = second.userId
  created : first.createdAt = second.createdAt
  expires : first.expiresAt = second.expiresAt

theorem RefreshTokenRecord.Alike.refl (token : RefreshTokenRecord) : token.Alike token :=
  ⟨rfl, rfl, rfl, rfl, rfl, rfl, rfl⟩

theorem RefreshTokenRecord.Alike.trans {first second third : RefreshTokenRecord}
    (left : first.Alike second) (right : second.Alike third)
    : first.Alike third :=
  ⟨left.id.trans right.id, left.session.trans right.session, left.family.trans right.family,
    left.digest.trans right.digest, left.generation.trans right.generation,
    left.issued.trans right.issued, left.expires.trans right.expires⟩

theorem AuthSession.Alike.refl (session : AuthSession) : session.Alike session :=
  ⟨rfl, rfl, rfl, rfl⟩

theorem AuthSession.Alike.trans {first second third : AuthSession}
    (left : first.Alike second) (right : second.Alike third)
    : first.Alike third :=
  ⟨left.id.trans right.id, left.user.trans right.user, left.created.trans right.created,
    left.expires.trans right.expires⟩

/-- The row of a token that a rotation consumed. -/
def RefreshTokenRecord.consumed (token : RefreshTokenRecord) (rotatedAt : Timestamp)
    (replacement : UUID)
    : RefreshTokenRecord :=
  { token with usedAt := some rotatedAt, replacedByTokenId := some replacement }

/-- `row` is a current token with a revocation time. -/
structure RefreshTokenRecord.Stamps (row old : RefreshTokenRecord) : Prop where
  same : row = { old with revokedAt := row.revokedAt }
  stamped : row.revokedAt.isSome
  unused : old.usedAt = none
  valid : row.Valid

/-- `row` is a session with a revocation time. -/
structure AuthSession.Stamps (row old : AuthSession) : Prop where
  same : row = { old with updatedAt := row.updatedAt, revokedAt := row.revokedAt }
  stamped : row.revokedAt.isSome
  valid : row.Valid

theorem RefreshTokenRecord.Stamps.alike {row old : RefreshTokenRecord}
    (stamps : row.Stamps old)
    : row.Alike old := by
  rw [stamps.same]
  exact ⟨rfl, rfl, rfl, rfl, rfl, rfl, rfl⟩

theorem RefreshTokenRecord.Stamps.used {row old : RefreshTokenRecord}
    (stamps : row.Stamps old)
    : row.usedAt = old.usedAt := by
  rw [stamps.same]

theorem RefreshTokenRecord.Stamps.replaced {row old : RefreshTokenRecord}
    (stamps : row.Stamps old)
    : row.replacedByTokenId = old.replacedByTokenId := by
  rw [stamps.same]

theorem RefreshTokenRecord.Stamps.not_live {row old : RefreshTokenRecord}
    (stamps : row.Stamps old)
    : ¬ row.Live := by
  intro live
  have stamped := stamps.stamped
  simp [live.2] at stamped

theorem AuthSession.Stamps.alike {row old : AuthSession} (stamps : row.Stamps old)
    : row.Alike old := by
  rw [stamps.same]
  exact ⟨rfl, rfl, rfl, rfl⟩

/-- The rotation invariant of the two tables. -/
structure Lineage (lifetime : Timedelta) (db : Database) : Prop where
  family
    : ∀ j k first second,
        tokenAt db j = some first
        → tokenAt db k = some second
        → first.sessionId = second.sessionId
        → first.tokenFamilyId = second.tokenFamilyId
  current
    : ∀ j k first second,
        tokenAt db j = some first
        → tokenAt db k = some second
        → first.sessionId = second.sessionId
        → first.Live
        → second.Live
        → j = k
  used : ∀ k token, tokenAt db k = some token → token.usedAt.isSome = token.replacedByTokenId.isSome
  replaced
    : ∀ k token replacement,
        tokenAt db k = some token
        → token.replacedByTokenId = some replacement
        → ∃ next,
            tokenAt db replacement = some next
            ∧ next.sessionId = token.sessionId
            ∧ next.tokenFamilyId = token.tokenFamilyId
            ∧ next.generation = token.generation + 1
            ∧ token.expiresAt ≤ next.expiresAt
  owned
    : ∀ k token,
        tokenAt db k = some token
        → ∃ session,
            sessionAt db token.sessionId = some session ∧ token.expiresAt ≤ session.expiresAt
  lasting : ∀ k token, tokenAt db k = some token → token.expiresAt ≤ token.issuedAt + lifetime
  validTokens : ∀ k token, tokenAt db k = some token → token.Valid
  validSessions : ∀ k session, sessionAt db k = some session → session.Valid

variable {lifetime : Timedelta} {db after : Database}

-----------------------------------------------------------------------------------------
-- A session with its first token
-----------------------------------------------------------------------------------------

/-- The commit adds a session and its first refresh token. -/
structure Opens (lifetime : Timedelta) (db after : Database) (session : AuthSession)
    (token : RefreshTokenRecord)
    : Prop where
  sessionNew : sessionAt db session.id = none
  tokenNew : tokenAt db token.id = none
  sessions : ∀ k, sessionAt after k = if k = session.id then some session else sessionAt db k
  tokens : ∀ k, tokenAt after k = if k = token.id then some token else tokenAt db k
  parent : token.sessionId = session.id
  unused : token.usedAt = none
  unreplaced : token.replacedByTokenId = none
  within : token.expiresAt ≤ session.expiresAt
  span : token.expiresAt ≤ token.issuedAt + lifetime
  validSession : session.Valid
  validToken : token.Valid

/-- No older token belongs to the new session. -/
theorem Opens.apart {session : AuthSession} {token other : RefreshTokenRecord} {k : UUID}
    (opens : Opens lifetime db after session token) (lineage : Lineage lifetime db)
    (found : tokenAt db k = some other)
    : other.sessionId ≠ token.sessionId := by
  intro same
  obtain ⟨parent, owned, _⟩ := lineage.owned k other found
  rw [same, opens.parent, opens.sessionNew] at owned
  contradiction

theorem Lineage.opens {session : AuthSession} {token : RefreshTokenRecord}
    (lineage : Lineage lifetime db) (opens : Opens lifetime db after session token)
    : Lineage lifetime after := by
  have cases_of {k other} (found : tokenAt after k = some other)
      : (k = token.id ∧ other = token) ∨ tokenAt db k = some other := by
    rw [opens.tokens] at found
    by_cases here : k = token.id
    · rw [if_pos here] at found
      exact .inl ⟨here, (Option.some.inj found).symm⟩
    · rw [if_neg here] at found
      exact .inr found
  have kept {k other} (found : sessionAt db k = some other) : sessionAt after k = some other := by
    rw [opens.sessions]
    have differs : k ≠ session.id := by
      intro same
      rw [same, opens.sessionNew] at found
      contradiction
    rw [if_neg differs, found]
  refine {
    family := ?_
    current := ?_
    used := ?_
    replaced := ?_
    owned := ?_
    lasting := ?_
    validTokens := ?_
    validSessions := ?_
  }
  · intro j k first second foundFirst foundSecond same
    rcases cases_of foundFirst with ⟨rfl, rfl⟩ | oldFirst
    · rcases cases_of foundSecond with ⟨rfl, rfl⟩ | oldSecond
      · rfl
      · exact absurd same.symm (opens.apart lineage oldSecond)
    · rcases cases_of foundSecond with ⟨rfl, rfl⟩ | oldSecond
      · exact absurd same (opens.apart lineage oldFirst)
      · exact lineage.family j k first second oldFirst oldSecond same
  · intro j k first second foundFirst foundSecond same liveFirst liveSecond
    rcases cases_of foundFirst with ⟨rfl, rfl⟩ | oldFirst
    · rcases cases_of foundSecond with ⟨rfl, rfl⟩ | oldSecond
      · rfl
      · exact absurd same.symm (opens.apart lineage oldSecond)
    · rcases cases_of foundSecond with ⟨rfl, rfl⟩ | oldSecond
      · exact absurd same (opens.apart lineage oldFirst)
      · exact lineage.current j k first second oldFirst oldSecond same liveFirst liveSecond
  · intro k other found
    rcases cases_of found with ⟨rfl, rfl⟩ | old
    · simp [opens.unused, opens.unreplaced]
    · exact lineage.used k other old
  · intro k other replacement found pointed
    rcases cases_of found with ⟨rfl, rfl⟩ | old
    · rw [opens.unreplaced] at pointed
      contradiction
    · obtain ⟨next, foundNext, facts⟩ := lineage.replaced k other replacement old pointed
      refine ⟨next, ?_, facts⟩
      rw [opens.tokens, if_neg, foundNext]
      intro same
      rw [same, opens.tokenNew] at foundNext
      contradiction
  · intro k other found
    rcases cases_of found with ⟨rfl, rfl⟩ | old
    · refine ⟨session, ?_, opens.within⟩
      rw [opens.sessions, if_pos opens.parent]
    · obtain ⟨parent, owned, bound⟩ := lineage.owned k other old
      exact ⟨parent, kept owned, bound⟩
  · intro k other found
    rcases cases_of found with ⟨rfl, rfl⟩ | old
    · exact opens.span
    · exact lineage.lasting k other old
  · intro k other found
    rcases cases_of found with ⟨rfl, rfl⟩ | old
    · exact opens.validToken
    · exact lineage.validTokens k other old
  · intro k other found
    rw [opens.sessions] at found
    by_cases here : k = session.id
    · rw [if_pos here, Option.some.injEq] at found
      exact found ▸ opens.validSession
    · rw [if_neg here] at found
      exact lineage.validSessions k other found

-----------------------------------------------------------------------------------------
-- A rotation
-----------------------------------------------------------------------------------------

/-- The commit consumes a current token and adds its replacement. -/
structure Rotates (lifetime : Timedelta) (db after : Database)
    (old new : RefreshTokenRecord) (rotatedAt : Timestamp)
    : Prop where
  known : tokenAt db old.id = some old
  live : old.Live
  unreplaced : old.replacedByTokenId = none
  fresh : tokenAt db new.id = none
  sessions : ∀ k, sessionAt after k = sessionAt db k
  tokens
    : ∀ k,
        tokenAt after k
        = if k = new.id then some new
          else if k = old.id then some (old.consumed rotatedAt new.id)
          else tokenAt db k
  session : new.sessionId = old.sessionId
  family : new.tokenFamilyId = old.tokenFamilyId
  generation : new.generation = old.generation + 1
  newLive : new.Live
  newUnreplaced : new.replacedByTokenId = none
  later : old.expiresAt ≤ new.expiresAt
  within : ∀ parent, sessionAt db new.sessionId = some parent → new.expiresAt ≤ parent.expiresAt
  span : new.expiresAt ≤ new.issuedAt + lifetime
  validOld : (old.consumed rotatedAt new.id).Valid
  validNew : new.Valid

/-- A row after a rotation: the replacement, the consumed token, or an old row. -/
theorem Rotates.cases_of {old new : RefreshTokenRecord} {rotatedAt : Timestamp}
    (rotates : Rotates lifetime db after old new rotatedAt) {k : UUID}
    {token : RefreshTokenRecord} (found : tokenAt after k = some token)
    : (k = new.id ∧ token = new)
      ∨ (k = old.id ∧ token = old.consumed rotatedAt new.id)
      ∨ (k ≠ new.id ∧ k ≠ old.id ∧ tokenAt db k = some token) := by
  rw [rotates.tokens] at found
  by_cases isNew : k = new.id
  · rw [if_pos isNew] at found
    exact .inl ⟨isNew, (Option.some.inj found).symm⟩
  · rw [if_neg isNew] at found
    by_cases isOld : k = old.id
    · rw [if_pos isOld] at found
      exact .inr (.inl ⟨isOld, (Option.some.inj found).symm⟩)
    · rw [if_neg isOld] at found
      exact .inr (.inr ⟨isNew, isOld, found⟩)

theorem Lineage.rotates {old new : RefreshTokenRecord} {rotatedAt : Timestamp}
    (lineage : Lineage lifetime db) (rotates : Rotates lifetime db after old new rotatedAt)
    : Lineage lifetime after := by
  have distinct : old.id ≠ new.id := by
    intro same
    have known := rotates.known
    rw [same, rotates.fresh] at known
    contradiction
  -- every row of the commit has the session and family of an old row
  have origin {k token} (found : tokenAt after k = some token)
      : ∃ j earlier, tokenAt db j = some earlier ∧ earlier.sessionId = token.sessionId
          ∧ earlier.tokenFamilyId = token.tokenFamilyId := by
    rcases rotates.cases_of found with ⟨_, rfl⟩ | ⟨_, rfl⟩ | ⟨_, _, older⟩
    · exact ⟨old.id, old, rotates.known, rotates.session.symm, rotates.family.symm⟩
    · exact ⟨old.id, old, rotates.known, rfl, rfl⟩
    · exact ⟨k, token, older, rfl, rfl⟩
  have spent : ¬ (old.consumed rotatedAt new.id).Live := by
    intro live
    simp [RefreshTokenRecord.Live, RefreshTokenRecord.consumed] at live
  refine {
    family := ?_
    current := ?_
    used := ?_
    replaced := ?_
    owned := ?_
    lasting := ?_
    validTokens := ?_
    validSessions := ?_
  }
  · intro j k first second foundFirst foundSecond same
    obtain ⟨j', first', found', sameSession, sameFamily⟩ := origin foundFirst
    obtain ⟨k', second', found'', sameSession', sameFamily'⟩ := origin foundSecond
    rw [← sameFamily, ← sameFamily']
    exact lineage.family j' k' first' second' found' found''
      (sameSession.trans (same.trans sameSession'.symm))
  · intro j k first second foundFirst foundSecond same liveFirst liveSecond
    -- another live token of the session would be the consumed one
    have only {k token} (older : tokenAt db k = some token) (other : k ≠ old.id)
        (there : token.sessionId = new.sessionId) (live : token.Live) : False :=
      other (lineage.current k old.id token old older rotates.known
        (there.trans rotates.session) live rotates.live)
    rcases rotates.cases_of foundFirst with ⟨rfl, rfl⟩ | ⟨_, rfl⟩ | ⟨_, apart, older⟩
    · rcases rotates.cases_of foundSecond with ⟨rfl, rfl⟩ | ⟨_, rfl⟩ | ⟨_, apart', older'⟩
      · rfl
      · exact absurd liveSecond spent
      · exact (only older' apart' same.symm liveSecond).elim
    · exact absurd liveFirst spent
    · rcases rotates.cases_of foundSecond with ⟨rfl, rfl⟩ | ⟨_, rfl⟩ | ⟨_, _, older'⟩
      · exact (only older apart same liveFirst).elim
      · exact absurd liveSecond spent
      · exact lineage.current j k first second older older' same liveFirst liveSecond
  · intro k token found
    rcases rotates.cases_of found with ⟨_, rfl⟩ | ⟨_, rfl⟩ | ⟨_, _, older⟩
    · simp [rotates.newLive.1, rotates.newUnreplaced]
    · rfl
    · exact lineage.used k token older
  · intro k token replacement found pointed
    rcases rotates.cases_of found with ⟨_, rfl⟩ | ⟨_, rfl⟩ | ⟨_, _, older⟩
    · rw [rotates.newUnreplaced] at pointed
      contradiction
    · simp only [RefreshTokenRecord.consumed, Option.some.injEq] at pointed
      subst pointed
      refine ⟨new, ?_, rotates.session, rotates.family, rotates.generation, rotates.later⟩
      rw [rotates.tokens, if_pos rfl]
    · obtain ⟨next, foundNext, sameSession, sameFamily, succ, later⟩ :=
        lineage.replaced k token replacement older pointed
      have notNew : replacement ≠ new.id := by
        intro same
        rw [same, rotates.fresh] at foundNext
        contradiction
      by_cases isOld : replacement = old.id
      · rw [isOld, rotates.known, Option.some.injEq] at foundNext
        subst foundNext
        refine ⟨old.consumed rotatedAt new.id, ?_, sameSession, sameFamily, succ, later⟩
        rw [rotates.tokens, if_neg notNew, if_pos isOld]
      · refine ⟨next, ?_, sameSession, sameFamily, succ, later⟩
        rw [rotates.tokens, if_neg notNew, if_neg isOld, foundNext]
  · intro k token found
    rcases rotates.cases_of found with ⟨_, rfl⟩ | ⟨_, rfl⟩ | ⟨_, _, older⟩
    · obtain ⟨parent, owned, _⟩ := lineage.owned old.id old rotates.known
      rw [← rotates.session] at owned
      exact ⟨parent, (rotates.sessions _).trans owned, rotates.within parent owned⟩
    · obtain ⟨parent, owned, bound⟩ := lineage.owned old.id old rotates.known
      exact ⟨parent, (rotates.sessions _).trans owned, bound⟩
    · obtain ⟨parent, owned, bound⟩ := lineage.owned k token older
      exact ⟨parent, (rotates.sessions _).trans owned, bound⟩
  · intro k token found
    rcases rotates.cases_of found with ⟨_, rfl⟩ | ⟨_, rfl⟩ | ⟨_, _, older⟩
    · exact rotates.span
    · exact lineage.lasting old.id old rotates.known
    · exact lineage.lasting k token older
  · intro k token found
    rcases rotates.cases_of found with ⟨_, rfl⟩ | ⟨_, rfl⟩ | ⟨_, _, older⟩
    · exact rotates.validNew
    · exact rotates.validOld
    · exact lineage.validTokens k token older
  · intro k session found
    rw [rotates.sessions] at found
    exact lineage.validSessions k session found

-----------------------------------------------------------------------------------------
-- A revocation
-----------------------------------------------------------------------------------------

/-- The commit stamps revocation times on sessions and current tokens. -/
structure Revokes (db after : Database) : Prop where
  sessions
    : ∀ k,
        sessionAt after k = sessionAt db k
        ∨ ∃ old row, sessionAt db k = some old ∧ sessionAt after k = some row ∧ row.Stamps old
  tokens
    : ∀ k,
        tokenAt after k = tokenAt db k
        ∨ ∃ old row, tokenAt db k = some old ∧ tokenAt after k = some row ∧ row.Stamps old

/-- Each row after a revocation was there before; only its stamp can differ. -/
theorem Revokes.token_before (revokes : Revokes db after) {k : UUID}
    {token : RefreshTokenRecord} (found : tokenAt after k = some token)
    : ∃ old, tokenAt db k = some old ∧ token.Alike old ∧ token.usedAt = old.usedAt
        ∧ token.replacedByTokenId = old.replacedByTokenId ∧ (token.Live → old.Live)
        ∧ (old.Valid → token.Valid) := by
  rcases revokes.tokens k with same | ⟨old, row, before, stamped, stamps⟩
  · rw [found] at same
    exact ⟨token, same.symm, .refl token, rfl, rfl, id, id⟩
  · rw [found, Option.some.injEq] at stamped
    subst stamped
    exact ⟨old, before, stamps.alike, stamps.used, stamps.replaced,
      fun live => absurd live stamps.not_live, fun _ => stamps.valid⟩

theorem Revokes.token_after (revokes : Revokes db after) {k : UUID}
    {old : RefreshTokenRecord} (found : tokenAt db k = some old)
    : ∃ token, tokenAt after k = some token ∧ token.Alike old
        ∧ token.usedAt = old.usedAt ∧ token.replacedByTokenId = old.replacedByTokenId := by
  rcases revokes.tokens k with same | ⟨old', row, before, stamped, stamps⟩
  · exact ⟨old, same.trans found, .refl old, rfl, rfl⟩
  · rw [found, Option.some.injEq] at before
    subst before
    exact ⟨row, stamped, stamps.alike, stamps.used, stamps.replaced⟩

theorem Revokes.session_after (revokes : Revokes db after) {k : UUID}
    {old : AuthSession} (found : sessionAt db k = some old)
    : ∃ session, sessionAt after k = some session ∧ session.Alike old
        ∧ (old.revokedAt.isSome → session.revokedAt.isSome) := by
  rcases revokes.sessions k with same | ⟨old', row, before, stamped, stamps⟩
  · exact ⟨old, same.trans found, .refl old, id⟩
  · rw [found, Option.some.injEq] at before
    subst before
    exact ⟨row, stamped, stamps.alike, fun _ => stamps.stamped⟩

theorem Lineage.revokes (lineage : Lineage lifetime db) (revokes : Revokes db after)
    : Lineage lifetime after := by
  refine {
    family := ?_
    current := ?_
    used := ?_
    replaced := ?_
    owned := ?_
    lasting := ?_
    validTokens := ?_
    validSessions := ?_
  }
  · intro j k first second foundFirst foundSecond same
    obtain ⟨first', old, alike, _⟩ := revokes.token_before foundFirst
    obtain ⟨second', old', alike', _⟩ := revokes.token_before foundSecond
    rw [alike.family, alike'.family]
    refine lineage.family j k first' second' old old' ?_
    rw [← alike.session, ← alike'.session, same]
  · intro j k first second foundFirst foundSecond same liveFirst liveSecond
    obtain ⟨first', old, alike, _, _, live, _⟩ := revokes.token_before foundFirst
    obtain ⟨second', old', alike', _, _, live', _⟩ := revokes.token_before foundSecond
    refine lineage.current j k first' second' old old' ?_ (live liveFirst) (live' liveSecond)
    rw [← alike.session, ← alike'.session, same]
  · intro k token found
    obtain ⟨before, old, _, used, replaced, _⟩ := revokes.token_before found
    rw [used, replaced]
    exact lineage.used k before old
  · intro k token replacement found pointed
    obtain ⟨before, old, alike, _, replaced, _⟩ := revokes.token_before found
    obtain ⟨next, foundNext, sameSession, sameFamily, succ, later⟩ :=
      lineage.replaced k before replacement old (replaced.symm.trans pointed)
    obtain ⟨next', foundNext', alike', _⟩ := revokes.token_after foundNext
    refine ⟨next', foundNext', ?_, ?_, ?_, ?_⟩
    · rw [alike'.session, sameSession, alike.session]
    · rw [alike'.family, sameFamily, alike.family]
    · rw [alike'.generation, succ, alike.generation]
    · rw [alike'.expires, alike.expires]
      exact later
  · intro k token found
    obtain ⟨before, old, alike, _⟩ := revokes.token_before found
    obtain ⟨parent, owned, bound⟩ := lineage.owned k before old
    obtain ⟨parent', owned', same, _⟩ := revokes.session_after owned
    refine ⟨parent', ?_, ?_⟩
    · rw [alike.session]
      exact owned'
    · rw [alike.expires, same.expires]
      exact bound
  · intro k token found
    obtain ⟨before, old, alike, _⟩ := revokes.token_before found
    rw [alike.expires, alike.issued]
    exact lineage.lasting k before old
  · intro k token found
    obtain ⟨before, old, _, _, _, _, valid⟩ := revokes.token_before found
    exact valid (lineage.validTokens k before old)
  · intro k session found
    rcases revokes.sessions k with same | ⟨old, row, _, stamped, stamps⟩
    · rw [found] at same
      exact lineage.validSessions k session same.symm
    · rw [found, Option.some.injEq] at stamped
      subst stamped
      exact stamps.valid

-----------------------------------------------------------------------------------------
-- A cleanup
-----------------------------------------------------------------------------------------

/-- The commit removes rows; no remaining token refers to a removed row. -/
structure Prunes (db after : Database) : Prop where
  sessions : ∀ k, sessionAt after k = none ∨ sessionAt after k = sessionAt db k
  tokens : ∀ k, tokenAt after k = none ∨ tokenAt after k = tokenAt db k
  parents
    : ∀ k token, tokenAt after k = some token
        → sessionAt after token.sessionId = sessionAt db token.sessionId
  references
    : ∀ k token replacement, tokenAt after k = some token
        → token.replacedByTokenId = some replacement
        → tokenAt after replacement = tokenAt db replacement

theorem Prunes.token_before (prunes : Prunes db after) {k : UUID}
    {token : RefreshTokenRecord} (found : tokenAt after k = some token)
    : tokenAt db k = some token := by
  rcases prunes.tokens k with gone | same
  · rw [found] at gone
    contradiction
  · rw [← same, found]

theorem Prunes.session_before (prunes : Prunes db after) {k : UUID} {session : AuthSession}
    (found : sessionAt after k = some session)
    : sessionAt db k = some session := by
  rcases prunes.sessions k with gone | same
  · rw [found] at gone
    contradiction
  · rw [← same, found]

theorem Lineage.prunes (lineage : Lineage lifetime db) (prunes : Prunes db after)
    : Lineage lifetime after where
  family j k first second foundFirst foundSecond :=
    lineage.family j k first second (prunes.token_before foundFirst)
      (prunes.token_before foundSecond)
  current j k first second foundFirst foundSecond :=
    lineage.current j k first second (prunes.token_before foundFirst)
      (prunes.token_before foundSecond)
  used k token found := lineage.used k token (prunes.token_before found)
  replaced k token replacement found pointed := by
    obtain ⟨next, foundNext, facts⟩ :=
      lineage.replaced k token replacement (prunes.token_before found) pointed
    exact ⟨next, (prunes.references k token replacement found pointed).trans foundNext, facts⟩
  owned k token found := by
    obtain ⟨parent, owned, bound⟩ := lineage.owned k token (prunes.token_before found)
    exact ⟨parent, (prunes.parents k token found).trans owned, bound⟩
  lasting k token found := lineage.lasting k token (prunes.token_before found)
  validTokens k token found := lineage.validTokens k token (prunes.token_before found)
  validSessions k session found := lineage.validSessions k session (prunes.session_before found)

end WorkflowForge.Identity
