import WorkflowForge.Identity.Inserts

/-! Stamping sessions and refresh tokens, and ending a transaction. -/

namespace WorkflowForge.Identity

open Python Transactions Concurrency

variable {services : Services} {regime : Regime} {i : Nat} {world after : World}
variable {raised : Fault → World → Prop}

-----------------------------------------------------------------------------------------
-- What an UPDATE does
-----------------------------------------------------------------------------------------

theorem exec_update_cases {change : RowUpdate} {answer : Except StatementError Bool}
    (ran : exec i (.update change) world = some (answer, after))
    : (answer = .ok false
        ∧ ((world.store.view i).find? change.table change.key).bind change.change = none
        ∧ after
          = { world with
              store :=
                world.store.record i (fun h =>
                  { h with missed := h.missed ++ [(change.table, change.key)] }) })
      ∨ ((∃ violation, answer = .error violation)
          ∧ after = world
          ∧ (deadlocks i (.update change) world = true
              ∨ ∃ old row,
                  (world.store.view i).find? change.table change.key = some old
                  ∧ change.change old = some row
                  ∧ (primaryKey change.table row ≠ change.key
                      ∨ Store.duplicates (world.store.view i) change.table row = true
                      ∨ rowSound (world.store.view i) change.table row = false
                      ∨ rowFits change.table row = false)))
      ∨ (∃ old row,
          answer = .ok true
          ∧ (world.store.view i).find? change.table change.key = some old
          ∧ change.change old = some row
          ∧ primaryKey change.table row = change.key
          ∧ rowSound (world.store.view i) change.table row = true
          ∧ after = { world with store := world.store.stage i (.put change.table row) }
          ∧ world.store.Admissible i (.put change.table row)) := by
  simp only [exec] at ran
  split at ran
  · rename_i deadlock
    simp only [Option.some.injEq, Prod.mk.injEq] at ran
    obtain ⟨rfl, rfl⟩ := ran
    exact .inr (.inl ⟨⟨_, rfl⟩, rfl, .inl deadlock⟩)
  simp only [Option.map_eq_some_iff, Prod.mk.injEq] at ran
  obtain ⟨⟨answer', store⟩, updated, rfl, rfl⟩ := ran
  rcases Store.exec_update updated with ⟨rfl, missed, rfl⟩ | ⟨⟨violation, rfl⟩, rfl⟩ | hit
  · exact .inl ⟨rfl, missed, rfl⟩
  · exact .inr (.inl ⟨⟨_, rfl⟩, rfl, .inr (Store.exec_update_refused updated)⟩)
  · obtain ⟨old, row, rfl, found, changed, same, sound, rfl, admissible⟩ := hit
    exact .inr (.inr ⟨old, row, rfl, found, changed, same, sound, rfl, admissible⟩)

/-- A missed UPDATE writes nothing. -/
theorem quiet_missed (change : History schema → History schema)
    (same : ∀ h, (change h).opened = h.opened)
    : Quiet world { world with store := world.store.record i change } where
  committed := rfl
  pending := rfl
  locks := rfl
  opened j db found := by
    by_cases here : j = i
    · subst here
      simp only [Store.record_history_self, same]
      exact found
    · simp only [Store.record_history_other _ _ here]
      exact found
  ids := rfl
  tokens := rfl
  drawn := List.prefix_refl _
  generated := List.prefix_refl _
  mintedSessions := rfl
  mintedTokens := rfl

/-- The row of an UPDATE that revokes a session, or touches no session. -/
theorem update_stages {write : Write schema} (admissible : world.store.Admissible i write)
    (revoked : ∀ row, write = putSession row → row.revokedAt.isSome)
    (noEvent : ∀ event, write ≠ putEvent event)
    : Stages i world { world with store := world.store.stage i write } [write] where
  effect := stage_effect admissible
  committed := rfl
  own := Store.stage_own_self world.store i _
  ids := rfl
  tokens := rfl
  drawn := rfl
  generated := rfl
  mintedSessions := fun _ member => member
  mintedTokens := fun _ member => member
  newSessions _ _ member := .inl member
  newTokens _ _ member := .inl member
  revoked row member := .inl (revoked row (List.mem_singleton.mp member).symm)
  events event member := absurd (List.mem_singleton.mp member).symm (noEvent event)

theorem update_invariant (invariant : Invariant services regime.toFlags world)
    {write : Write schema}
    (stages : Stages i world { world with store := world.store.stage i write } [write])
    (untouched : write.target.1 ≠ .users)
    (revoked : ∀ row, write = putSession row → row.revokedAt.isSome)
    : Invariant services regime.toFlags { world with store := world.store.stage i write } := by
  apply stages.invariant invariant
  · exact invariant.ledger.same rfl rfl rfl rfl rfl rfl rfl
  · intro other member
    simp only [List.mem_singleton] at member
    exact member ▸ untouched
  · intro row member
    exact .inl (revoked row (List.mem_singleton.mp member).symm)

/-- A written session row is a revoked one. -/
theorem RowUpdate.revokes_session {change : RowUpdate} {old row : TableRow change.table}
    (changed : change.change old = some row) {session : AuthSession}
    (put : Write.put change.table row = putSession session)
    : session.revokedAt.isSome := by
  cases change with
  | revokeRefreshToken => cases put
  | consumeRefreshToken => cases put
  | revokeUserSession k user revokedAt =>
      cases put
      obtain ⟨_, same⟩ := Option.ite_none_right_eq_some.mp changed
      rw [← Option.some.inj same]
      rfl
  | saveSession k updatedAt revokedAt =>
      cases put
      rw [← Option.some.inj changed]
      rfl

theorem RowUpdate.table_ne_users (change : RowUpdate) : change.table ≠ .users := by
  cases change <;> simp [RowUpdate.table]

theorem RowUpdate.put_ne_event (change : RowUpdate) (row : TableRow change.table)
    (event : SecurityEvent)
    : Write.put change.table row ≠ putEvent event := by
  intro put
  cases change <;> cases put

/-- The error of a failed UPDATE. -/
def Fault.ofUpdate (failure : Fault) : Prop :=
  failure = .integrityError ∨ failure = .dataError ∨ failure = .dbapiError

/-- An UPDATE misses its row, fails, or leaves one uncommitted row. -/
theorem update_spec {pre : World → Prop} {change : RowUpdate}
    {answered : Bool → World → Prop} {refused : World → Prop}
    (tame : Tame services regime i pre)
    (tame' : ∀ matched, Tame services regime i (answered matched))
    (tame'' : Tame services regime i refused)
    (missed
      : ∀ world,
          Invariant services regime.toFlags world
          → pre world
          → regime.admits i (.update change) world
          → ((world.store.view i).find? change.table change.key).bind change.change = none
          → answered false world)
    (stopped
      : ∀ world,
          Invariant services regime.toFlags world
          → pre world
          → regime.admits i (.update change) world
          → deadlocks i (.update change) world = true
          → refused world)
    (refuse
      : ∀ world old row,
          Invariant services regime.toFlags world
          → pre world
          → regime.admits i (.update change) world
          → (world.store.view i).find? change.table change.key = some old
          → change.change old = some row
          → (primaryKey change.table row ≠ change.key
              ∨ Store.duplicates (world.store.view i) change.table row = true
              ∨ rowSound (world.store.view i) change.table row = false
              ∨ rowFits change.table row = false)
          → refused world)
    (hit
      : ∀ world old row,
          Invariant services regime.toFlags world
          → pre world
          → regime.admits i (.update change) world
          → (world.store.view i).find? change.table change.key = some old
          → change.change old = some row
          → primaryKey change.table row = change.key
          → rowSound (world.store.view i) change.table row = true
          → answered true { world with store := world.store.stage i (.put change.table row) })
    : Spec services regime i pre (update change) answered
        (fun failure world => Fault.ofUpdate failure ∧ refused world) := by
  have performed
      : Spec services regime i pre (perform (.update change))
          (fun answer world =>
            (∀ matched, answer = .ok matched → answered matched world)
            ∧ ∀ violation, answer = .error violation → refused world)
          (fun failure world => Fault.ofUpdate failure ∧ refused world) := by
    apply Spec.staging tame
    · intro answer
      exact (Tame.all fun matched => Tame.imp fun _ => tame' matched).and
        (Tame.all fun violation => Tame.imp fun _ => tame'')
    intro world answer after invariant _ holds admitted ran
    rcases exec_update_cases ran with
      ⟨rfl, missing, rfl⟩ | ⟨⟨violation, rfl⟩, rfl, failed⟩
      | ⟨old, row, rfl, found, changed, here, sound, rfl, admissible⟩
    · let note (h : History schema) : History schema :=
        { h with missed := h.missed ++ [(change.table, change.key)] }
      have quiet : Quiet world { world with store := world.store.record i note } :=
        quiet_missed note (fun _ => rfl)
      refine ⟨quiet.invariant invariant, ?_, ?_, ?_⟩
      · intro j different
        exact ⟨quiet.keeps j, Store.record_history_other world.store note different⟩
      · intro matched same
        rw [← Except.ok.inj same]
        exact tame' false world _ invariant (quiet.keeps i)
          (missed world invariant holds admitted missing)
      · intro violation impossible
        contradiction
    · refine ⟨invariant, fun j _ => ⟨Keeps.refl _ j _, rfl⟩, ?_, ?_⟩
      · intro matched impossible
        contradiction
      · intro _ _
        rcases failed with deadlock | ⟨old, row, found, changed, why⟩
        · exact stopped _ invariant holds admitted deadlock
        · exact refuse _ old row invariant holds admitted found changed why
    · have stages := update_stages admissible (fun session => RowUpdate.revokes_session changed)
        (change.put_ne_event row)
      refine ⟨?_, fun j different => stages.leaves invariant.coherent different, ?_, ?_⟩
      · exact update_invariant invariant stages change.table_ne_users
          (fun session => RowUpdate.revokes_session changed)
      · intro matched same
        rw [← Except.ok.inj same]
        exact hit world old row invariant holds admitted found changed here sound
      · intro violation impossible
        contradiction
  apply Spec.bind performed
  intro answer
  match answer with
  | .ok matched =>
      apply Spec.pure
      · exact (Tame.all fun matched' => Tame.imp fun _ => tame' matched').and
          (Tame.all fun violation => Tame.imp fun _ => tame'')
      · intro world holds
        exact holds.1 matched rfl
  | .error .integrity =>
      apply Spec.throw
      · exact (Tame.all fun matched' => Tame.imp fun _ => tame' matched').and
          (Tame.all fun violation => Tame.imp fun _ => tame'')
      · intro world holds
        exact ⟨.inl rfl, holds.2 _ rfl⟩
  | .error .data =>
      apply Spec.throw
      · exact (Tame.all fun matched' => Tame.imp fun _ => tame' matched').and
          (Tame.all fun violation => Tame.imp fun _ => tame'')
      · intro world holds
        exact ⟨.inr (.inl rfl), holds.2 _ rfl⟩
  | .error .deadlock =>
      apply Spec.throw
      · exact (Tame.all fun matched' => Tame.imp fun _ => tame' matched').and
          (Tame.all fun violation => Tame.imp fun _ => tame'')
      · intro world holds
        exact ⟨.inr (.inr rfl), holds.2 _ rfl⟩

-----------------------------------------------------------------------------------------
-- Frames
-----------------------------------------------------------------------------------------

/-- Call `i` has at most stamped more rows. -/
structure Grows (i : Nat) (before after : World) : Prop where
  committed : after.committed = before.committed
  sessions : ∀ row, putSession row ∈ before.own i → putSession row ∈ after.own i
  tokens : ∀ row, putToken row ∈ before.own i → putToken row ∈ after.own i
  revoked
    : ∀ row, putSession row ∈ after.own i
        → putSession row ∈ before.own i ∨ row.revokedAt.isSome
  others : ∀ j, j ≠ i → after.own j = before.own j
  mintedSessions : after.mintedSessions = before.mintedSessions
  mintedTokens : after.mintedTokens = before.mintedTokens
  opened : (after.store.history i).opened = (before.store.history i).opened

/-- An assertion that further stamps of the call do not falsify. -/
def Growing (i : Nat) (assertion : World → Prop) : Prop :=
  ∀ before after, Grows i before after → assertion before → assertion after

theorem Growing.and {first second : World → Prop} (left : Growing i first)
    (right : Growing i second)
    : Growing i (fun world => first world ∧ second world) :=
  fun before after grows holds =>
    ⟨left before after grows holds.1, right before after grows holds.2⟩

theorem Growing.const (fact : Prop) : Growing i (fun _ => fact) := fun _ _ _ holds => holds

theorem Growing.imp {fact : Prop} {assertion : World → Prop}
    (proof : fact → Growing i assertion)
    : Growing i (fun world => fact → assertion world) :=
  fun before after grows holds known => proof known before after grows (holds known)

theorem Growing.all {ι : Sort _} {assertion : ι → World → Prop}
    (proof : ∀ x, Growing i (assertion x))
    : Growing i (fun world => ∀ x, assertion x world) :=
  fun before after grows holds x => proof x before after grows (holds x)

theorem Growing.or {first second : World → Prop} (left : Growing i first)
    (right : Growing i second)
    : Growing i (fun world => first world ∨ second world) :=
  fun before after grows holds => holds.imp (left before after grows) (right before after grows)

theorem Growing.opened (db : Database)
    : Growing i (fun world => (world.store.history i).opened = some db) :=
  fun _ _ grows holds => grows.opened.trans holds

theorem Growing.noToken : Growing i (fun world => ∀ row, (i, row) ∉ world.mintedTokens) :=
  fun _ _ grows holds row member => holds row (grows.mintedTokens ▸ member)

theorem Growing.chased (session : UUID) (rest : List UUID)
    : Growing i (fun world => world.Chased i session rest) := by
  intro before after grows chased
  refine { present := grows.committed ▸ chased.present, chased := ?_ }
  rw [grows.committed]
  refine chased.chased.imp_left ?_
  intro every k token found sibling live
  refine (every k token found sibling live).imp_right ?_
  rintro ⟨row, put, here⟩
  exact ⟨row, grows.tokens row put, here⟩

theorem Growing.dead (k : UUID) : Growing i (fun world => world.Dead k) := by
  intro before after grows dead
  refine {
    minted := grows.mintedSessions ▸ dead.minted
    committed := grows.committed ▸ dead.committed
    pending := ?_
  }
  intro j row member here
  by_cases same : j = i
  · subst same
    exact (grows.revoked row member).elim (fun old => dead.pending j row old here) id
  · rw [grows.others j same] at member
    exact dead.pending j row member here

/-- The session is revoked for good, and still there unless rows are deleted. -/
structure World.Revoked (world : World) (deletes : Prop) (k : UUID) : Prop where
  dead : world.Dead k
  present : ¬ deletes → (sessionAt world.committed k).isSome

theorem Tame.present (lasting : ¬ regime.deletes) (k : UUID)
    : Tame services regime i (fun world => (sessionAt world.committed k).isSome) := by
  intro before after invariant keeps present
  obtain ⟨session, found⟩ := Option.isSome_iff_exists.mp present
  obtain ⟨later, found', _⟩ := keeps.sessions lasting k session found
  rw [found']
  rfl

theorem Tame.revoked (k : UUID)
    : Tame services regime i (fun world => world.Revoked regime.deletes k) := by
  intro before after invariant keeps revoked
  exact {
    dead := keeps.dead k revoked.dead
    present := fun lasting =>
      Tame.present lasting k before after invariant keeps (revoked.present lasting)
  }

theorem Growing.revoked {deletes : Prop} (k : UUID)
    : Growing i (fun world => world.Revoked deletes k) := by
  intro before after grows revoked
  exact {
    dead := Growing.dead k before after grows revoked.dead
    present := grows.committed ▸ revoked.present
  }

/-- The call will leave the session revoked, or it is already. -/
def World.Marks (world : World) (deletes : Prop) (i : Nat) (k : UUID) : Prop :=
  (∃ row, putSession row ∈ world.own i ∧ row.id = k ∧ row.revokedAt.isSome)
  ∨ world.Revoked deletes k

theorem Growing.marks {deletes : Prop} (k : UUID)
    : Growing i (fun world => world.Marks deletes i k) := by
  intro before after grows marks
  refine marks.imp ?_ (Growing.revoked k before after grows)
  rintro ⟨row, put, facts⟩
  exact ⟨row, grows.sessions row put, facts⟩

theorem Tame.marks (k : UUID)
    : Tame services regime i (fun world => world.Marks regime.deletes i k) := by
  intro before after invariant keeps marks
  refine marks.imp ?_ (Tame.revoked k before after invariant keeps)
  rintro ⟨row, put, facts⟩
  exact ⟨row, keeps.own ▸ put, facts⟩

theorem EventProof.marks {deletes : Prop} (k : UUID)
    : EventProof i (fun world => world.Marks deletes i k) := by
  intro before after besides marks
  refine marks.imp ?_ (fun revoked => ?_)
  · rintro ⟨row, put, facts⟩
    exact ⟨row, (besides.sessions row).mpr put, facts⟩
  · exact {
      dead := Dead.eventProof k before after besides revoked.dead
      present := besides.committed ▸ revoked.present
    }

/-- Every session that the call revokes is in `todo`, or all its live tokens are stamped. -/
def World.Covers (world : World) (settles : Prop) (i : Nat) (todo : List UUID) : Prop :=
  settles → ∀ row, putSession row ∈ world.own i → row.id ∈ todo ∨ world.Chased i row.id []

theorem Tame.covers (todo : List UUID)
    : Tame services regime i (fun world => world.Covers regime.settles i todo) := by
  intro before after invariant keeps covers settles row member
  rw [keeps.own] at member
  exact (covers settles row member).imp_right (keeps.chased settles row.id [])

theorem EventProof.covers {settles : Prop} (todo : List UUID)
    : EventProof i (fun world => world.Covers settles i todo) := by
  intro before after besides covers known row member
  exact (covers known row ((besides.sessions row).mp member)).imp_right
    (Chased.eventProof row.id [] before after besides)

theorem Stamping.tame : Tame services regime i (fun world => Stamping world i) := by
  intro before after invariant keeps stamping
  refine {
    kept := keeps.own ▸ stamping.kept
    sessions := ?_
    tokens := ?_
  }
  · intro row member
    rw [keeps.own] at member
    obtain ⟨old, known, stamps⟩ := stamping.sessions row member
    exact ⟨old, (keeps.written invariant member rfl).trans known, stamps⟩
  · intro row member
    rw [keeps.own] at member
    obtain ⟨old, known, stamps⟩ := stamping.tokens row member
    exact ⟨old, (keeps.written invariant member rfl).trans known, stamps⟩

theorem Idle.stamping (idle : Idle world i) : Stamping world i where
  kept t k := by simp [idle.own]
  sessions row member := by simp [idle.own] at member
  tokens row member := by simp [idle.own] at member

theorem Idle.covers (idle : Idle world i) (settles : Prop) (todo : List UUID)
    : world.Covers settles i todo := by
  intro _ row member
  simp [idle.own] at member

-----------------------------------------------------------------------------------------
-- The rows a revocation meets
-----------------------------------------------------------------------------------------

/-- A token that a revoking call sees unrevoked is committed like that. -/
theorem Stamping.token_committed (stamping : Stamping world i) {k : UUID}
    {token : RefreshTokenRecord} (found : tokenAt (world.store.view i) k = some token)
    (unrevoked : token.revokedAt = none)
    : tokenAt world.committed k = some token := by
  rcases token_view stamping.kept k with ⟨same, _⟩ | ⟨row, member, _, found'⟩
  · exact same.symm.trans found
  · rw [found, Option.some.injEq] at found'
    subst found'
    obtain ⟨_, _, stamps⟩ := stamping.tokens token member
    have stamped := stamps.stamped
    simp [unrevoked] at stamped

/-- The committed session behind one that a revoking call sees. -/
theorem Stamping.session_committed (stamping : Stamping world i) {k : UUID}
    {session : AuthSession} (found : sessionAt (world.store.view i) k = some session)
    : ∃ old,
        sessionAt world.committed k = some old
        ∧ session = { old with updatedAt := session.updatedAt, revokedAt := session.revokedAt }
        ∧ (session = old ∨ session.revokedAt.isSome) := by
  rcases session_view stamping.kept k with ⟨same, _⟩ | ⟨row, member, hit, found'⟩
  · exact ⟨session, same.symm.trans found, rfl, .inl rfl⟩
  · rw [found, Option.some.injEq] at found'
    subst found'
    obtain ⟨old, known, stamps⟩ := stamping.sessions session member
    exact ⟨old, hit ▸ known, stamps.same, .inr stamps.stamped⟩

/-- A committed session is visible to a revoking call. -/
theorem Stamping.session_visible (stamping : Stamping world i) {k : UUID}
    {session : AuthSession} (known : sessionAt world.committed k = some session)
    : ∃ row, sessionAt (world.store.view i) k = some row := by
  rcases session_view stamping.kept k with ⟨same, _⟩ | ⟨row, _, _, found⟩
  · exact ⟨session, same.trans known⟩
  · exact ⟨row, found⟩

theorem hasSession_of_find {db : Database} {k : UUID} {session : AuthSession}
    (found : sessionAt db k = some session)
    : hasSession db k = true := by
  refine List.any_eq_true.mpr ⟨session, Db.mem_of_find? found, ?_⟩
  have hit : session.id = k := Db.find?_key found
  simpa using hit

theorem Stamping.has_session (stamping : Stamping world i) {k : UUID} {session : AuthSession}
    (known : sessionAt world.committed k = some session)
    : hasSession (world.store.view i) k = true := by
  obtain ⟨row, found⟩ := stamping.session_visible known
  exact hasSession_of_find found

/-- Stamping a row repeats no unique columns. -/
theorem no_duplicates (coherent : world.store.Coherent) {t : TableName}
    {old row : TableRow t} {k : UUID}
    (found : (world.store.view i).find? t k = some old)
    (key : primaryKey t row = primaryKey t old)
    (clash : ∀ other, uniqueClash t row other = uniqueClash t old other)
    : Store.duplicates (world.store.view i) t row = false := by
  rw [Store.duplicates_eq_false]
  intro other member different
  change uniqueClash t row other = false
  rw [clash]
  refine coherent.unique i t old other (Db.mem_of_find? found) member ?_
  exact fun same => different (same.symm.trans key.symm)

theorem Stamping.stage_token (stamping : Stamping world i) {row old : RefreshTokenRecord}
    (known : tokenAt world.committed row.id = some old) (stamps : row.Stamps old)
    : Stamping { world with store := world.store.stage i (putToken row) } i := by
  have own : World.own { world with store := world.store.stage i (putToken row) } i
      = world.own i ++ [putToken row] := Store.stage_own_self world.store i _
  refine { kept := ?_, sessions := ?_, tokens := ?_ }
  · intro t k
    rw [own]
    simpa using stamping.kept t k
  · intro other member
    rw [own] at member
    exact stamping.sessions other (by simpa using member)
  · intro other member
    rw [own] at member
    simp only [List.mem_append, List.mem_singleton, Write.put.injEq, heq_eq_eq, true_and] at member
    rcases member with before | rfl
    · exact stamping.tokens other before
    · exact ⟨old, known, stamps⟩

theorem Stamping.stage_session (stamping : Stamping world i) {row old : AuthSession}
    (known : sessionAt world.committed row.id = some old) (stamps : row.Stamps old)
    : Stamping { world with store := world.store.stage i (putSession row) } i := by
  have own : World.own { world with store := world.store.stage i (putSession row) } i
      = world.own i ++ [putSession row] := Store.stage_own_self world.store i _
  refine { kept := ?_, sessions := ?_, tokens := ?_ }
  · intro t k
    rw [own]
    simpa using stamping.kept t k
  · intro other member
    rw [own] at member
    simp only [List.mem_append, List.mem_singleton, Write.put.injEq, heq_eq_eq, true_and] at member
    rcases member with before | rfl
    · exact stamping.sessions other before
    · exact ⟨old, known, stamps⟩
  · intro other member
    rw [own] at member
    exact stamping.tokens other (by simpa using member)

/-- Staging a stamp only grows what the call has written. -/
theorem grows_stage {write : Write schema}
    (revoked : ∀ row, write = putSession row → row.revokedAt.isSome)
    : Grows i world { world with store := world.store.stage i write } := by
  have own : World.own { world with store := world.store.stage i write } i
      = world.own i ++ [write] := Store.stage_own_self world.store i _
  refine {
    committed := rfl
    sessions := ?_
    tokens := ?_
    revoked := ?_
    others := fun j different => Store.stage_own_other world.store write different
    mintedSessions := rfl
    mintedTokens := rfl
    opened := rfl
  }
  · intro row member
    rw [own]
    exact List.mem_append_left _ member
  · intro row member
    rw [own]
    exact List.mem_append_left _ member
  · intro row member
    rw [own, List.mem_append, List.mem_singleton] at member
    exact member.imp_right (fun same => revoked row same.symm)

-----------------------------------------------------------------------------------------
-- Revoking a refresh token
-----------------------------------------------------------------------------------------

/-- The row that a revocation writes is a stamp of the committed one. -/
theorem revokeToken_row {k session : UUID} {revokedAt : Timestamp}
    {old row : RefreshTokenRecord}
    (changed
      : (RowUpdate.revokeRefreshToken k session revokedAt).change old = some row)
    : old.sessionId = session ∧ old.Live ∧ row = { old with revokedAt := some revokedAt } := by
  change (if old.sessionId = session ∧ old.usedAt = none ∧ old.revokedAt = none then
      some { old with revokedAt := some revokedAt } else none) = some row at changed
  split at changed
  · rename_i matched
    simp only [Option.some.injEq] at changed
    exact ⟨matched.1, matched.2, changed.symm⟩
  · contradiction

/-- The constraints let a revocation pass that is not dated before the token. -/
theorem Stamping.token_allowed (stamping : Stamping world i)
    (invariant : Invariant services regime.toFlags world) {k : UUID} {revokedAt : Timestamp}
    {old : RefreshTokenRecord} (found : tokenAt (world.store.view i) k = some old)
    (live : old.Live) (dated : old.issuedAt ≤ revokedAt)
    : Store.duplicates (S := schema) (world.store.view i) TableName.refreshTokens
          { old with revokedAt := some revokedAt } = false
      ∧ rowSound (world.store.view i) .refreshTokens { old with revokedAt := some revokedAt }
        = true
      ∧ rowFits .refreshTokens { old with revokedAt := some revokedAt } = true := by
  have known := stamping.token_committed found live.2
  obtain ⟨parent, owned, _⟩ := invariant.lineage.owned k old known
  have valid := invariant.lineage.validTokens k old known
  have unreplaced : old.replacedByTokenId = none := by
    have used := invariant.lineage.used k old known
    simpa [live.1] using used.symm
  refine ⟨?_, ?_, ?_⟩
  · refine no_duplicates invariant.coherent found rfl ?_
    intro other
    rfl
  · simp [rowSound, stamping.has_session owned, unreplaced, valid.expires, live.1, dated]
  · simpa [rowFits] using invariant.narrow k old known

-----------------------------------------------------------------------------------------
-- The end of a transaction
-----------------------------------------------------------------------------------------

/-- A transaction that is ready can be committed. -/
theorem commit_spec {pre value : World → Prop} (tame : Tame services regime i pre)
    (tame' : Tame services regime i value)
    (ready
      : ∀ world, Invariant services regime.toFlags world → pre world
          → Ready services regime.toFlags world i)
    (gives
      : ∀ world, Invariant services regime.toFlags world → pre world
          → value (world.publish i))
    : Spec services regime i pre commit (fun _ => value) raised := by
  unfold commit
  apply Spec.staging tame (fun _ => tame')
  intro world answer after invariant _ holds _ ran
  rw [exec_commit, Option.some.injEq, Prod.mk.injEq] at ran
  obtain ⟨_, rfl⟩ := ran
  have progress := (ready world invariant holds).progress invariant.ledger invariant.lineage
  refine ⟨progress.invariant invariant, ?_, gives world invariant holds⟩
  intro j different
  refine ⟨progress.keeps invariant regime.lasting different, ?_⟩
  exact ((world.publish_effect invariant.coherent).frame different).2.2

theorem rollback_spec {pre value : World → Prop} (tame : Tame services regime i pre)
    (tame' : Tame services regime i value)
    (gives
      : ∀ world, Invariant services regime.toFlags world → pre world
          → value (world.retract i))
    : Spec services regime i pre rollback (fun _ => value) raised := by
  unfold rollback
  apply Spec.staging tame (fun _ => tame')
  intro world answer after invariant _ holds _ ran
  rw [exec_rollback, Option.some.injEq, Prod.mk.injEq] at ran
  obtain ⟨_, rfl⟩ := ran
  refine ⟨World.retract_invariant invariant, ?_, gives world invariant holds⟩
  intro j different
  refine ⟨World.retract_keeps invariant.coherent different, ?_⟩
  exact ((World.retract_effect invariant.coherent).frame different).2.2

/-- An INSERT whose failure is translated. -/
theorem insertOrReraise_spec {t : TableName} {row : TableRow t}
    {reraise : InsertFailure → Fault} {pre value : World → Prop}
    {answered : Except InsertFailure Unit → World → Prop}
    (inserted : Spec services regime i pre (perform (.insert t row)) answered raised)
    (tame : ∀ answer, Tame services regime i (answered answer))
    (tame' : ∀ failure, Tame services regime i (raised failure))
    (accepted : ∀ world, answered (.ok ()) world → value world)
    (refused
      : ∀ failure, failure.violation = .integrity
          → ∀ world, Invariant services regime.toFlags world → answered (.error failure) world
          → raised (reraise failure) (world.retract i))
    (wide
      : ∀ failure, failure.violation = .data
          → ∀ world, answered (.error failure) world → raised .dataError world)
    (stopped
      : ∀ failure, failure.violation = .deadlock
          → ∀ world, answered (.error failure) world → raised .dbapiError world)
    : Spec services regime i pre (SessionRepository.insertOrReraise t row reraise)
        (fun _ => value) raised := by
  apply Spec.bind inserted
  intro answer
  match answer with
  | .ok () => exact Spec.pure (tame _) accepted
  | .error failure =>
      cases why : failure.violation with
      | integrity =>
          simp only [why]
          apply Spec.bind (rollback_spec (tame _) (tame' (reraise failure)) (refused failure why))
          intro _
          exact Spec.throw (tame' _) (fun _ holds => holds)
      | data =>
          simp only [why]
          exact Spec.throw (tame _) (wide failure why)
      | deadlock =>
          simp only [why]
          exact Spec.throw (tame _) (stopped failure why)

end WorkflowForge.Identity
