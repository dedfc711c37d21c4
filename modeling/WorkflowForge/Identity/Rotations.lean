import WorkflowForge.Identity.Updates

/-! Rotating a refresh token: the replacement is inserted first, then the old row is consumed. -/

namespace WorkflowForge.Identity

open Python Transactions Concurrency

variable {services : Services} {regime : Regime} {i : Nat} {world after : World}
variable {raised : Fault → World → Prop}

-----------------------------------------------------------------------------------------
-- The replacement of a token
-----------------------------------------------------------------------------------------

/-- A token that the call has read, and the replacement that it has built for it. -/
structure Replaces (services : Services) (rotatedAt : Timestamp)
    (current new : RefreshTokenRecord) (world : World)
    : Prop where
  known : ∃ j minted, (j, minted) ∈ world.mintedTokens ∧ current.Alike minted
  parent
    : ∃ j minted,
        (j, minted) ∈ world.mintedSessions
        ∧ minted.id = new.sessionId
        ∧ new.expiresAt
          = min (rotatedAt + services.policy.refreshTokenLifetime) minted.expiresAt
  other : new.tokenDigest ≠ current.tokenDigest
  session : new.sessionId = current.sessionId
  family : new.tokenFamilyId = current.tokenFamilyId
  generation : new.generation = current.generation + 1
  live : new.Live
  unreplaced : new.replacedByTokenId = none
  issued : new.issuedAt = rotatedAt
  valid : new.Valid

theorem Replaces.tame (rotatedAt : Timestamp) (current new : RefreshTokenRecord)
    : Tame services regime i (Replaces services rotatedAt current new) := by
  intro before after invariant keeps replaces
  obtain ⟨j, minted, member, alike⟩ := replaces.known
  obtain ⟨j', minted', member', parent⟩ := replaces.parent
  exact { replaces with
    known := ⟨j, minted, keeps.mintedTokens member, alike⟩
    parent := ⟨j', minted', keeps.mintedSessions member', parent⟩ }

theorem Rotating.tame (old new : RefreshTokenRecord) (rotatedAt : Timestamp)
    : Tame services regime i (fun world => Rotating services world i old new rotatedAt) := by
  intro before after invariant keeps rotating
  have putNew := (rotating.tokens new).mpr (.inl rfl)
  have putOld := (rotating.tokens (old.consumed rotatedAt new.id)).mpr (.inr rfl)
  obtain ⟨j, parent, member, facts⟩ := rotating.within
  exact { rotating with
    kept := keeps.own ▸ rotating.kept
    sessions := keeps.own ▸ rotating.sessions
    tokens := keeps.own ▸ rotating.tokens
    known := (keeps.written invariant putOld rfl).trans rotating.known
    fresh := (keeps.written invariant putNew rfl).trans rotating.fresh
    minted := keeps.mintedTokens rotating.minted
    within := ⟨j, parent, keeps.mintedSessions member, facts⟩ }

theorem Offered.kept {new : RefreshTokenRecord} (offered : Offered world i new)
    : ∀ t k, Write.remove t k ∉ world.own i := by
  intro t k
  simp [offered.own]

theorem Offered.withheld {new : RefreshTokenRecord} (offered : Offered world i new)
    (ledger : Ledger services world)
    : world.Withheld i := by
  intro token member
  rw [ledger.oneToken i token new member offered.minted]
  exact offered.fresh

/-- A visible token with another digest than the replacement is committed. -/
theorem Offered.token_committed {new old : RefreshTokenRecord} {k : UUID}
    (offered : Offered world i new) (found : tokenAt (world.store.view i) k = some old)
    (other : new.tokenDigest ≠ old.tokenDigest)
    : tokenAt world.committed k = some old := by
  rcases token_view offered.kept k with ⟨same, _⟩ | ⟨row, put, _, found'⟩
  · exact same.symm.trans found
  · rw [found, Option.some.injEq] at found'
    subst found'
    rw [offered.own, List.mem_singleton] at put
    cases put
    contradiction

/-- The committed token with the digest that the call has read is that token. -/
theorem Replaces.alike {rotatedAt : Timestamp} {current new old : RefreshTokenRecord} {k : UUID}
    (replaces : Replaces services rotatedAt current new world)
    (ledger : Ledger services world) (known : tokenAt world.committed k = some old)
    (digest : old.tokenDigest = current.tokenDigest)
    : ∃ minted, old.Alike minted ∧ current.Alike minted := by
  obtain ⟨j, minted, member, alike⟩ := replaces.known
  obtain ⟨j', minted', member', alike'⟩ := ledger.tokens k old known
  obtain ⟨_, rfl⟩ := ledger.digest_unique services member member'
    (alike.digest.symm.trans (digest.symm.trans alike'.digest))
  exact ⟨minted, alike', alike⟩

/-- The replacement outlives the token. -/
theorem Replaces.later {rotatedAt : Timestamp} {current new old : RefreshTokenRecord} {k : UUID}
    (replaces : Replaces services rotatedAt current new world)
    (invariant : Invariant services regime.toFlags world)
    (known : tokenAt world.committed k = some old)
    (sibling : old.sessionId = new.sessionId) (dated : old.issuedAt ≤ rotatedAt)
    : old.expiresAt ≤ new.expiresAt := by
  obtain ⟨j, parent, member, id, expires⟩ := replaces.parent
  obtain ⟨session, owned, within⟩ := invariant.lineage.owned k old known
  have alike := invariant.ledger.session_expires member owned (id.trans sibling.symm)
  have lasting := invariant.lineage.lasting k old known
  rw [expires]
  refine Int.le_min.mpr ⟨?_, alike.expires ▸ within⟩
  exact Int.le_trans lasting (Int.add_le_add_right dated _)

-----------------------------------------------------------------------------------------
-- Consuming the old token
-----------------------------------------------------------------------------------------

/-- The row that the rotating UPDATE writes. -/
theorem consume_row {k session : UUID} {digest : RefreshTokenDigest} {generation : Nat}
    {rotatedAt : Timestamp} {replacement : UUID} {old row : RefreshTokenRecord}
    (changed
      : (RowUpdate.consumeRefreshToken k session digest generation rotatedAt
          replacement).change old = some row)
    : old.sessionId = session ∧ old.tokenDigest = digest ∧ old.generation = generation
      ∧ old.Live ∧ old.replacedByTokenId = none
      ∧ row = old.consumed rotatedAt replacement := by
  obtain ⟨⟨sibling, same, count, unused, unrevoked, unreplaced, _⟩, made⟩ :=
    Option.ite_none_right_eq_some.mp changed
  exact ⟨sibling, same, count, ⟨unused, unrevoked⟩, unreplaced, (Option.some.inj made).symm⟩

/-- The constraints let a rotation pass that is not dated before the token. -/
theorem Offered.consume_allowed {rotatedAt : Timestamp} {new old : RefreshTokenRecord} {k : UUID}
    (offered : Offered world i new) (invariant : Invariant services regime.toFlags world)
    (found : tokenAt (world.store.view i) k = some old)
    (known : tokenAt world.committed k = some old) (live : old.Live)
    (dated : old.issuedAt ≤ rotatedAt)
    : Store.duplicates (S := schema) (world.store.view i) TableName.refreshTokens
          (old.consumed rotatedAt new.id) = false
      ∧ rowSound (world.store.view i) .refreshTokens (old.consumed rotatedAt new.id) = true
      ∧ rowFits .refreshTokens (old.consumed rotatedAt new.id) = true := by
  obtain ⟨parent, owned, _⟩ := invariant.lineage.owned k old known
  have valid := invariant.lineage.validTokens k old known
  have home : hasSession (world.store.view i) old.sessionId = true := by
    rcases session_view offered.kept old.sessionId with ⟨same, _⟩ | ⟨row, _, _, visible⟩
    · exact hasSession_of_find (same.trans owned)
    · exact hasSession_of_find visible
  have replacement : hasRefreshToken (world.store.view i) new.id = true := by
    rcases token_view offered.kept new.id with ⟨_, untouched⟩ | ⟨row, _, here, visible⟩
    · exact absurd rfl (untouched new (by simp [offered.own]))
    · refine List.any_eq_true.mpr ⟨row, Db.mem_of_find? visible, ?_⟩
      simpa using here
  refine ⟨?_, ?_, ?_⟩
  · refine no_duplicates invariant.coherent found rfl ?_
    intro other
    rfl
  · simp [rowSound, RefreshTokenRecord.consumed, home, replacement, valid.expires, dated, live.2]
  · exact decide_eq_true (invariant.narrow k old known)

/-- The consumed row completes the transaction of a rotation. -/
theorem Offered.rotating {rotatedAt : Timestamp} {current new old : RefreshTokenRecord}
    {k : UUID} (offered : Offered world i new)
    (invariant : Invariant services regime.toFlags world)
    (replaces : Replaces services rotatedAt current new world) (id : old.id = k)
    (known : tokenAt world.committed k = some old) (sibling : old.sessionId = new.sessionId)
    (digest : old.tokenDigest = current.tokenDigest)
    (count : old.generation = current.generation) (live : old.Live)
    (unreplaced : old.replacedByTokenId = none) (dated : old.issuedAt ≤ rotatedAt)
    : Rotating services
        { world with store := world.store.stage i (putToken (old.consumed rotatedAt new.id)) }
        i old new rotatedAt := by
  have own : World.own { world with
        store := world.store.stage i (putToken (old.consumed rotatedAt new.id)) } i
      = [putToken new, putToken (old.consumed rotatedAt new.id)] := by
    rw [World.own, Store.stage_own_self]
    simp [show world.store.own i = [putToken new] from offered.own]
  obtain ⟨minted, alike, alike'⟩ := replaces.alike invariant.ledger known digest
  obtain ⟨j, parent, member, owner, expires⟩ := replaces.parent
  have valid := invariant.lineage.validTokens k old known
  exact {
    kept := fun t k => by rw [own]; simp
    sessions := fun row => by rw [own]; simp
    tokens := fun row => by rw [own]; simp
    known := by rw [id]; exact known
    live := live
    unreplaced := unreplaced
    fresh := offered.fresh
    minted := offered.minted
    session := sibling.symm
    family := replaces.family.trans (alike'.family.trans alike.family.symm)
    generation := count ▸ replaces.generation
    narrow := offered.narrow
    newLive := replaces.live
    newUnreplaced := replaces.unreplaced
    later := replaces.later invariant known sibling dated
    within := ⟨j, parent, member, owner, by rw [expires]; exact Int.min_le_right _ _⟩
    span := by rw [expires, replaces.issued]; exact Int.min_le_left _ _
    validOld := {
      id := valid.id
      session := valid.session
      family := valid.family
      expires := valid.expires
      used := fun stamp same => Option.some.inj same ▸ dated
      revoked := valid.revoked
    }
    validNew := replaces.valid
  }

/-- The old token is consumed, found stale, or dated after the rotation. -/
theorem consume_spec {k : UUID} {rotatedAt : Timestamp} {current new : RefreshTokenRecord}
    : Spec services regime i
        (fun world =>
          Offered world i new ∧ Replaces services rotatedAt current new world)
        (update (.consumeRefreshToken k new.sessionId current.tokenDigest current.generation
          rotatedAt new.id))
        (fun matched world =>
          if matched then
            ∃ old, Rotating services world i old new rotatedAt
              ∧ old.tokenDigest = current.tokenDigest
          else Offered world i new)
        (fun failure world =>
          failure.ofUpdate ∧ world.Withheld i ∧ ¬ regime.smooth) := by
  apply update_spec
  · exact (Offered.tame new).and (Replaces.tame rotatedAt current new)
  · intro matched
    cases matched with
    | true => exact Tame.ex fun old => (Rotating.tame old new rotatedAt).and (.const _)
    | false => exact Offered.tame new
  · exact Tame.withheld.and (.const _)
  · rintro world invariant ⟨offered, _⟩ _ _
    exact offered
  · rintro world invariant ⟨offered, _⟩ admitted deadlock
    exact ⟨offered.withheld invariant.ledger, regime.undisturbed_of_smooth admitted deadlock⟩
  · intro world (old : RefreshTokenRecord) (row : RefreshTokenRecord) invariant
    rintro ⟨offered, replaces⟩ admitted found changed why
    refine ⟨offered.withheld invariant.ledger, fun smooth => ?_⟩
    obtain ⟨_, digest, _, live, _, rfl⟩ := consume_row changed
    have known := offered.token_committed found (digest ▸ replaces.other)
    have dated : old.issuedAt ≤ rotatedAt := by
      have consumable := (regime.consumed smooth i _ _ admitted).2
      simp only [Identity.consumable] at consumable
      rw [show tokenAt (world.store.view i) k = some old from found] at consumable
      change decide (old.issuedAt ≤ rotatedAt) = true at consumable
      exact of_decide_eq_true consumable
    obtain ⟨distinct, sound, fits⟩ := offered.consume_allowed invariant found known live dated
    rcases why with moved | duplicate | unsound | wide
    · exact moved (Db.find?_key found)
    · exact absurd (distinct.symm.trans duplicate) (by decide)
    · exact absurd (sound.symm.trans unsound) (by decide)
    · exact absurd (fits.symm.trans wide) (by decide)
  · intro world (old : RefreshTokenRecord) (row : RefreshTokenRecord) invariant
    rintro ⟨offered, replaces⟩ _ found changed here sound
    obtain ⟨sibling, digest, count, live, unreplaced, rfl⟩ := consume_row changed
    have known := offered.token_committed found (digest ▸ replaces.other)
    have dated : old.issuedAt ≤ rotatedAt := by
      have checks : rowSound (world.store.view i) .refreshTokens
        (old.consumed rotatedAt new.id) = true := sound
      simp only [rowSound, Bool.and_eq_true] at checks
      exact of_decide_eq_true checks.1.2
    exact ⟨old, offered.rotating invariant replaces (Db.find?_key found) known sibling digest
      count live unreplaced dated, digest⟩

-----------------------------------------------------------------------------------------
-- rotate_refresh_token
-----------------------------------------------------------------------------------------

/-- The errors that a refused refresh is meant to raise. -/
def Fault.refusesRefresh : Fault → Bool
  | .refreshRotationConflict _ => true
  | .refreshTokenReplay _ => true
  | .invalidRefreshToken _ => true
  | .expiredRefreshToken _ => true
  | _ => false

/-- A refresh has failed with nothing of it committed; under the condition the error is one of
those that it is meant to raise. -/
structure Refused (condition : Prop) (i : Nat) (failure : Fault) (world : World) : Prop where
  withheld : world.Withheld i
  kind : condition → failure.refusesRefresh = true

theorem Refused.tame (condition : Prop) (failure : Fault)
    : Tame services regime i (Refused condition i failure) := by
  intro before after invariant keeps refused
  exact { refused with withheld := keeps.withheld refused.withheld }

theorem World.Withheld.retract (withheld : world.Withheld i) : (world.retract i).Withheld i :=
  withheld

theorem Rotating.withheld {old new : RefreshTokenRecord} {rotatedAt : Timestamp}
    (rotating : Rotating services world i old new rotatedAt) (ledger : Ledger services world)
    : world.Withheld i := by
  intro token member
  rw [ledger.oneToken i token new member rotating.minted]
  exact rotating.fresh

/-- The rows with a digest. -/
def withDigest (db : Database) (digest : RefreshTokenDigest) : List RefreshTokenRecord :=
  (db .refreshTokens).filter (fun row => row.tokenDigest == digest)

theorem mem_withDigest {db : Database} {digest : RefreshTokenDigest}
    {token : RefreshTokenRecord}
    : token ∈ withDigest db digest ↔ token ∈ db .refreshTokens ∧ token.tokenDigest = digest := by
  simp [withDigest]

/-- A digest belongs to one row. -/
theorem withDigest_length {db : Database} (keyed : db.Keyed) (unique : db.Unique)
    (digest : RefreshTokenDigest)
    : (withDigest db digest).length ≤ 1 := by
  have distinct : ((withDigest db digest).map RefreshTokenRecord.id).Nodup :=
    (keyed .refreshTokens).sublist (List.filter_sublist.map _)
  match rows : withDigest db digest with
  | [] => simp
  | [_] => simp
  | first :: second :: rest =>
      exfalso
      obtain ⟨member, digest₁⟩ :=
        mem_withDigest.mp (rows ▸ List.mem_cons_self (l := second :: rest))
      obtain ⟨member', digest₂⟩ :=
        mem_withDigest.mp (rows ▸ List.mem_cons_of_mem first (List.mem_cons_self (l := rest)))
      have different : first.id ≠ second.id := by
        rw [rows] at distinct
        simp only [List.map_cons, List.nodup_cons, List.mem_cons, not_or] at distinct
        exact distinct.1.1
      have clash := unique .refreshTokens first second member member' different
      simp [uniqueClash, digest₁, digest₂] at clash

theorem rotatable_length {db : Database} (keyed : db.Keyed) (unique : db.Unique)
    (session : UUID) (digest : RefreshTokenDigest) (generation : Nat) (rotatedAt : Timestamp)
    : (rotatable db session digest generation rotatedAt).length ≤ 1 := by
  have chosen : (rotatable db session digest generation rotatedAt).Sublist
      (withDigest db digest) := by
    apply List.monotone_filter_right
    intro token matched
    simp only [Bool.and_eq_true] at matched
    exact matched.1.1.1.1.1.1.2
  exact chosen.length_le.trans (withDigest_length keyed unique digest)

theorem Replaces.remembers {rotatedAt : Timestamp} {current new : RefreshTokenRecord}
    (replaces : Replaces services rotatedAt current new world)
    (remembers : Remembers i world after)
    : Replaces services rotatedAt current new after := by
  obtain ⟨j, minted, member, alike⟩ := replaces.known
  obtain ⟨j', minted', member', parent⟩ := replaces.parent
  exact { replaces with
    known := ⟨j, minted, remembers.mintedTokens member, alike⟩
    parent := ⟨j', minted', remembers.mintedSessions member', parent⟩ }

/-- The replacement is inserted, or refused as a conflict. -/
theorem offerReplacement_spec {condition : Prop} (smooth : condition → regime.smooth)
    {rotatedAt : Timestamp} {current new : RefreshTokenRecord}
    : Spec services regime i
        (fun world =>
          (Idle world i ∧ world.DrawnBy i new.id
            ∧ world.GeneratedBy services i new.tokenDigest)
          ∧ Replaces services rotatedAt current new world)
        (SessionRepository.insertOrReraise .refreshTokens new
          SessionRepository.refreshTokenIntegrityError)
        (fun _ world => Offered world i new ∧ Replaces services rotatedAt current new world)
        (Refused condition i) := by
  have offer : Spec services regime i
      (fun world =>
        Idle world i ∧ world.DrawnBy i new.id ∧ world.GeneratedBy services i new.tokenDigest)
      (SessionRepository.insertOrReraise .refreshTokens new
        SessionRepository.refreshTokenIntegrityError)
      (fun _ world => Offered world i new) (Refused condition i) := by
    apply insertOrReraise_spec insertReplacement_spec
    · intro answer
      exact (Tame.imp fun _ => Offered.tame new).and
        (Tame.all fun failure => Tame.imp fun _ => Idle.tame.and (.const _))
    · exact Refused.tame condition
    · exact fun world holds => holds.1 rfl
    · intro failure _ world _ holds
      obtain ⟨idle, hash, _⟩ := holds.2 failure rfl
      simp only [SessionRepository.refreshTokenIntegrityError, hash, Bool.false_eq_true, if_false]
      exact {
        withheld := idle.withheld.retract
        kind := fun _ => rfl
      }
    · intro failure data world holds
      obtain ⟨idle, _, refused⟩ := holds.2 failure rfl
      exact {
        withheld := idle.withheld
        kind := fun known => by simp [refused (smooth known)] at data
      }
    · intro failure deadlock world holds
      obtain ⟨idle, _, refused⟩ := holds.2 failure rfl
      exact {
        withheld := idle.withheld
        kind := fun known => by simp [refused (smooth known)] at deadlock
      }
  refine (Spec.frame (Replaces.tame rotatedAt current new) ?_ offer).weaken
    (fun _ holds => holds) (fun _ _ holds => holds) (fun _ _ failed => failed.1)
  intro op now answer after invariant ran replaces
  exact replaces.remembers (exec_remembers invariant.coherent ran)

/-- One row at most is consumed. -/
theorem consumeRows_spec {condition : Prop} (smooth : condition → regime.smooth)
    {rotatedAt : Timestamp} {current new : RefreshTokenRecord}
    (rows : List RefreshTokenRecord) (few : rows.length ≤ 1)
    : Spec services regime i
        (fun world => Offered world i new ∧ Replaces services rotatedAt current new world)
        (SessionRepository.consumeRefreshToken new.sessionId current.tokenDigest
          current.generation rotatedAt new.id rows)
        (fun rowcount world =>
          if rowcount = 1 then
            ∃ old, Rotating services world i old new rotatedAt
              ∧ old.tokenDigest = current.tokenDigest
          else Offered world i new)
        (Refused condition i) := by
  match rows with
  | [] =>
      apply Spec.pure ((Offered.tame new).and (Replaces.tame rotatedAt current new))
      exact fun world holds => holds.1
  | [token] =>
      unfold SessionRepository.consumeRefreshToken
      apply Spec.bind
      · apply consume_spec.weaken (fun _ holds => holds) (fun _ _ holds => holds)
        intro failure world ⟨_, withheld, rough⟩
        exact {
          withheld := withheld
          kind := fun known => absurd (smooth known) rough
        }
      · intro matched
        cases matched with
        | true =>
            apply Spec.pure (Tame.ex fun old => (Rotating.tame old new rotatedAt).and (.const _))
            exact fun world holds => holds
        | false =>
            apply Spec.pure (Offered.tame new)
            exact fun world holds => holds
  | _ :: _ :: _ => simp at few

/-- A rotation leaves the old token consumed and the new one inserted, or nothing. -/
theorem rotateRefreshToken_spec {condition : Prop} (smooth : condition → regime.smooth)
    {rotatedAt : Timestamp} {current new : RefreshTokenRecord}
    : Spec services regime i
        (fun world =>
          (Idle world i ∧ world.DrawnBy i new.id
            ∧ world.GeneratedBy services i new.tokenDigest)
          ∧ Replaces services rotatedAt current new world)
        (SessionRepository.rotateRefreshToken new.sessionId current.tokenDigest
          current.generation new rotatedAt)
        (fun _ world =>
          ∃ old, Rotating services world i old new rotatedAt
            ∧ old.tokenDigest = current.tokenDigest)
        (Refused condition i) := by
  have stable : Tame services regime i (fun world =>
      Offered world i new ∧ Replaces services rotatedAt current new world) :=
    (Offered.tame new).and (Replaces.tame rotatedAt current new)
  refine Spec.fact (fun world _ holds => holds.2.valid) (fun valid => ?_)
  have ok : refreshTokenFromRecord new = .ok new :=
    RefreshTokenRecord.postInit_eq_ok.mpr ⟨valid, rfl⟩
  unfold SessionRepository.rotateRefreshToken
  apply Spec.bind (offerReplacement_spec smooth)
  intro _
  refine Spec.bind (select_spec
    (fun db _ => (rotatable db new.sessionId current.tokenDigest current.generation
      rotatedAt).length ≤ 1) stable (fun _ => .const _) ?_) ?_
  · intro world invariant _ _ _
    exact rotatable_length (Store.view_keyed invariant.coherent i) (invariant.coherent.unique i)
      _ _ _ _
  · intro db
    refine Spec.fact (fun world _ holds => holds.2) (fun few => ?_)
    apply Spec.bind
    · exact (consumeRows_spec smooth _ few).weaken (fun _ holds => holds.1)
        (fun _ _ holds => holds) (fun _ _ failed => failed)
    · intro rowcount
      by_cases one : rowcount = 1
      · simp only [one, if_true, ok]
        apply Spec.pure (Tame.ex fun old => (Rotating.tame old new rotatedAt).and (.const _))
        exact fun world holds => holds
      · simp only [one, if_false]
        apply Spec.bind
        · apply rollback_spec (Offered.tame new) (Refused.tame condition
            (.refreshRotationConflict "Refresh token rotation state is stale or invalid."))
          intro world invariant offered
          exact {
            withheld := (offered.withheld invariant.ledger).retract
            kind := fun _ => rfl
          }
        · intro _
          exact Spec.throw (Refused.tame condition _) (fun _ holds => holds)

end WorkflowForge.Identity
