import WorkflowForge.Identity.Credentials

/-! Deleting expired and revoked sessions. A deletion cascades to the refresh tokens of a session
and is refused when a remaining token would refer to a deleted one.
-/

namespace WorkflowForge.Identity

open Python Transactions Concurrency

variable {services : Services} {regime : Regime} {i : Nat} {world after : World}
variable {raised : Fault → World → Prop}

-----------------------------------------------------------------------------------------
-- The effect of a deletion
-----------------------------------------------------------------------------------------

theorem stageAll_committed (i : Nat) (writes : List (Write schema)) (store : Store schema)
    : (stageAll store i writes).committed = store.committed := by
  induction writes generalizing store with
  | nil => rfl
  | cons write rest ih => exact (ih (store.stage i write)).trans rfl

theorem stageAll_own (i : Nat) (writes : List (Write schema)) (store : Store schema)
    : (stageAll store i writes).own i = store.own i ++ writes := by
  induction writes generalizing store with
  | nil => simp [stageAll]
  | cons write rest ih =>
      refine (ih (store.stage i write)).trans ?_
      simp

/-- The writes of a DELETE: rows that the call sees, each once. -/
structure Deletion (world : World) (i : Nat) (writes : List (Write schema)) : Prop where
  kinds
    : ∀ write ∈ writes,
        (∃ k, write = dropToken k) ∨ (∃ k, write = dropSession k) ∨ ∃ event, write = putEvent event
  visible
    : ∀ write ∈ writes, ((world.store.view i).find? write.target.1 write.target.2).isSome
  distinct : (writes.map Write.target).Nodup
  parents
    : ∀ k token,
        tokenAt world.committed k = some token
        → dropToken k ∉ world.own i ++ writes
        → dropSession token.sessionId ∉ world.own i ++ writes

/-- An uncontested write of a DELETE can be made. -/
theorem deletion_admissible {store : Store schema} (coherent : store.Coherent)
    {write : Write schema}
    (kind
      : (∃ k, write = dropToken k) ∨ (∃ k, write = dropSession k) ∨ ∃ event, write = putEvent event)
    (visible : ((store.view i).find? write.target.1 write.target.2).isSome)
    (free : store.heldByOther i write.target.1 write.target.2 = false)
    : store.Admissible i write := by
  refine ⟨free, ?_⟩
  rcases kind with ⟨k, rfl⟩ | ⟨k, rfl⟩ | ⟨event, rfl⟩
  · exact visible
  · exact visible
  · refine ⟨by simp [Store.duplicates, uniqueClash], ?_⟩
    exact Store.uncontested coherent free (fun _ => rfl)

/-- A deletion stages its writes one by one. -/
theorem stageAll_effect {store : Store schema} (writes : List (Write schema))
    {middle : Store schema} (earlier : Store.Effect i store middle) (coherent : middle.Coherent)
    (kinds
      : ∀ write ∈ writes,
          (∃ k, write = dropToken k) ∨ (∃ k, write = dropSession k)
          ∨ ∃ event, write = putEvent event)
    (visible : ∀ write ∈ writes, ((middle.view i).find? write.target.1 write.target.2).isSome)
    (free
      : ∀ write ∈ writes, middle.heldByOther i write.target.1 write.target.2 = false)
    (distinct : (writes.map Write.target).Nodup)
    : Store.Effect i store (stageAll middle i writes) := by
  induction writes generalizing middle with
  | nil => exact earlier
  | cons write rest ih =>
      have admissible := deletion_admissible coherent (kinds write List.mem_cons_self)
        (visible write List.mem_cons_self) (free write List.mem_cons_self)
      simp only [List.map_cons, List.nodup_cons] at distinct
      apply ih (.staged earlier write admissible) (coherent.stage schema_symmetric admissible)
      · exact fun other member => kinds other (List.mem_cons_of_mem _ member)
      · intro other member
        have differs : write.target ≠ (other.target.1, other.target.2) := by
          intro same
          exact distinct.1 (List.mem_map.mpr ⟨other, member, same.symm⟩)
        rw [Store.stage_view_self, Write.find?_apply_other _ _ differs]
        exact visible other (List.mem_cons_of_mem _ member)
      · intro other member
        rw [Store.heldByOther_eq_false]
        intro j lock
        simp only [Store.stage, List.mem_append, List.mem_singleton, Prod.mk.injEq] at lock
        rcases lock with old | ⟨same, _⟩
        · exact Store.heldByOther_eq_false.mp (free other (List.mem_cons_of_mem _ member)) j old
        · exact same
      · exact distinct.2

theorem contends_of_held {store : Store schema} {write : Write schema}
    (held : store.heldByOther i write.target.1 write.target.2 = true)
    : contends store i write = true := by
  cases write with
  | put t row => exact held
  | remove t k => exact Bool.or_eq_true_iff.mpr (.inl held)

/-- What a DELETE does. -/
theorem execDeletion_cases {writes : List (Write schema)} {answer : Except Violation Unit}
    (ran : execDeletion i writes world = some (answer, after))
    : (∀ write ∈ writes, world.store.heldByOther i write.target.1 write.target.2 = false)
      ∧ ((answer = .error .integrity ∧ after = world)
        ∨ (answer = .ok ()
            ∧ after = { world with store := stageAll world.store i writes }
            ∧ dangling ((stageAll world.store i writes).view i) = false)) := by
  unfold execDeletion at ran
  split at ran
  · contradiction
  · rename_i free
    refine ⟨fun write member => ?_, ?_⟩
    · by_contra held
      rw [Bool.not_eq_false] at held
      exact free (List.any_eq_true.mpr ⟨write, member, contends_of_held held⟩)
    simp only at ran
    split at ran
    · simp only [Option.some.injEq, Prod.mk.injEq] at ran
      exact .inl ⟨ran.1.symm, ran.2.symm⟩
    · rename_i sound
      simp only [Option.some.injEq, Prod.mk.injEq] at ran
      exact .inr ⟨ran.1.symm, ran.2.symm, by simpa using sound⟩

theorem Deletion.stages {writes : List (Write schema)} (deletion : Deletion world i writes)
    (coherent : world.store.Coherent)
    (free : ∀ write ∈ writes, world.store.heldByOther i write.target.1 write.target.2 = false)
    : Stages i world { world with store := stageAll world.store i writes } writes where
  effect :=
    stageAll_effect writes (.same i world.store) coherent deletion.kinds deletion.visible free
      deletion.distinct
  committed := stageAll_committed i writes world.store
  own := stageAll_own i writes world.store
  ids := rfl
  tokens := rfl
  drawn := rfl
  generated := rfl
  mintedSessions := fun _ member => member
  mintedTokens := fun _ member => member
  newSessions _ _ member := .inl member
  newTokens _ _ member := .inl member
  revoked row member := by
    rcases deletion.kinds _ member with ⟨_, same⟩ | ⟨_, same⟩ | ⟨_, same⟩ <;> cases same
  events event member := .inr (deletion.visible _ member)

/-- What a cleanup has done so far. -/
structure Cleaning (flags : Flags) (i : Nat) (world : World) : Prop where
  pruned : world.Pruned i
  lasting : ¬ flags.deletes → ∀ t k, Write.remove t k ∉ world.own i

theorem Cleaning.tame : Tame services regime i (Cleaning regime.toFlags i) := by
  intro before after invariant keeps cleaning
  exact {
    pruned := keeps.pruned cleaning.pruned
    lasting := fun lasting => keeps.own ▸ cleaning.lasting lasting
  }

theorem Idle.cleaning (idle : Idle world i) (flags : Flags) : Cleaning flags i world where
  pruned := {
    unputSessions := by simp [idle.own]
    unputTokens := by simp [idle.own]
    references := by simp [idle.own]
    parents := by simp [idle.own]
  }
  lasting := by simp [idle.own]

/-- After a deletion nothing refers to a deleted row. -/
theorem Deletion.pruned {writes : List (Write schema)} (deletion : Deletion world i writes)
    (pruned : world.Pruned i)
    (sound : dangling ((stageAll world.store i writes).view i) = false)
    : World.Pruned { world with store := stageAll world.store i writes } i := by
  have own : World.own { world with store := stageAll world.store i writes } i
      = world.own i ++ writes := stageAll_own i writes world.store
  have committed : World.committed { world with store := stageAll world.store i writes }
      = world.committed := stageAll_committed i writes world.store
  have unput : ∀ row, putToken row ∉ world.own i ++ writes := by
    intro row member
    rcases List.mem_append.mp member with old | new
    · exact pruned.unputTokens row old
    · rcases deletion.kinds _ new with ⟨_, same⟩ | ⟨_, same⟩ | ⟨_, same⟩ <;> cases same
  refine {
    unputSessions := ?_
    unputTokens := own ▸ unput
    references := ?_
    parents := ?_
  }
  · intro row member
    rw [own] at member
    rcases List.mem_append.mp member with old | new
    · exact pruned.unputSessions row old
    · rcases deletion.kinds _ new with ⟨_, same⟩ | ⟨_, same⟩ | ⟨_, same⟩ <;> cases same
  · intro k token replacement found kept pointed dropped
    let later : World := { world with store := stageAll world.store i writes }
    have noPut : ∀ row, putToken row ∉ later.own i := own ▸ unput
    rcases token_view_unput noPut k with ⟨gone, _⟩ | ⟨_, here⟩
    · exact kept gone
    rcases token_view_unput noPut replacement with ⟨_, missing⟩ | ⟨present, _⟩
    · have member : token ∈ later.store.view i .refreshTokens :=
        Db.mem_of_find? (here.trans found)
      have target := List.any_eq_false.mp sound token member
      rw [pointed] at target
      simp only [Option.any_some, Option.isNone_iff_eq_none] at target
      exact absurd missing (by simpa using target)
    · exact present dropped
  · rw [own, committed]
    exact deletion.parents

-----------------------------------------------------------------------------------------
-- Deleting tokens and sessions
-----------------------------------------------------------------------------------------

/-- Rows of a table have different targets. -/
theorem targets_nodup {t : TableName} {rows : List (TableRow t)}
    (distinct : (rows.map (primaryKey t)).Nodup) (chosen : TableRow t → Bool)
    : ((rows.filter chosen).map (fun row => (t, primaryKey t row))).Nodup := by
  have fewer := distinct.sublist (List.filter_sublist (p := chosen).map (primaryKey t))
  have apart := fewer.map (f := Prod.mk t) (fun _ _ same => (Prod.mk.inj same).2)
  rwa [List.map_map] at apart

theorem mem_tokenDeletion {db : Database} {ids : List UUID} {write : Write schema}
    : write ∈ tokenDeletion db ids
      ↔ ∃ token ∈ db .refreshTokens, token.id ∈ ids ∧ write = dropToken token.id := by
  simp only [tokenDeletion, List.mem_map, List.mem_filter, List.contains_iff_mem]
  constructor
  · rintro ⟨token, ⟨member, listed⟩, rfl⟩
    exact ⟨token, member, listed, rfl⟩
  · rintro ⟨token, member, listed, rfl⟩
    exact ⟨token, ⟨member, listed⟩, rfl⟩

theorem tokenDeletion_deletion (invariant : Invariant services regime.toFlags world)
    (pruned : world.Pruned i) (ids : List UUID)
    : Deletion world i (tokenDeletion (world.store.view i) ids) := by
  have keyed := Store.view_keyed invariant.coherent i
  refine { kinds := ?_, visible := ?_, distinct := ?_, parents := ?_ }
  · intro write member
    obtain ⟨token, _, _, rfl⟩ := mem_tokenDeletion.mp member
    exact .inl ⟨token.id, rfl⟩
  · intro write member
    obtain ⟨token, present, _, rfl⟩ := mem_tokenDeletion.mp member
    exact Option.isSome_iff_exists.mpr ⟨token, Db.find?_of_mem keyed present⟩
  · unfold tokenDeletion
    rw [List.map_map]
    exact targets_nodup (t := .refreshTokens) (keyed .refreshTokens) _
  · intro k token found kept dropped
    rw [List.mem_append, not_or] at kept
    rcases List.mem_append.mp dropped with old | new
    · exact pruned.parents k token found kept.1 old
    · obtain ⟨_, _, _, same⟩ := mem_tokenDeletion.mp new
      cases same

/-- What the writes of `DELETE FROM auth_sessions` are. -/
theorem sessionDeletion_cases {db : Database} {ids : List UUID} {write : Write schema}
    (member : write ∈ sessionDeletion db ids)
    : (∃ token ∈ db .refreshTokens, token.sessionId ∈ ids ∧ write = dropToken token.id)
      ∨ (∃ session ∈ db .authSessions, session.id ∈ ids ∧ write = dropSession session.id)
      ∨ ∃ event ∈ db .securityAuditEvents,
          write = putEvent { event with sessionId := none } := by
  simp only [sessionDeletion, List.mem_append, List.mem_map, List.mem_filter,
    List.contains_iff_mem] at member
  rcases member with (⟨token, ⟨member, listed⟩, rfl⟩ | ⟨session, ⟨member, listed⟩, rfl⟩)
    | ⟨event, ⟨member, _⟩, rfl⟩
  · exact .inl ⟨token, member, listed, rfl⟩
  · exact .inr (.inl ⟨session, member, listed, rfl⟩)
  · exact .inr (.inr ⟨event, member, rfl⟩)

theorem sessionDeletion_token {db : Database} {ids : List UUID} {token : RefreshTokenRecord}
    (member : token ∈ db .refreshTokens) (listed : token.sessionId ∈ ids)
    : dropToken token.id ∈ sessionDeletion db ids := by
  refine List.mem_append_left _ (List.mem_append_left _ (List.mem_map.mpr ⟨token, ?_, rfl⟩))
  simpa using ⟨member, listed⟩

theorem sessionDeletion_session {db : Database} {ids : List UUID} {session : AuthSession}
    (member : session ∈ db .authSessions) (listed : session.id ∈ ids)
    : dropSession session.id ∈ sessionDeletion db ids := by
  refine List.mem_append_left _ (List.mem_append_right _ (List.mem_map.mpr ⟨session, ?_, rfl⟩))
  simpa using ⟨member, listed⟩

theorem sessionDeletion_deletion (invariant : Invariant services regime.toFlags world)
    (pruned : world.Pruned i) (ids : List UUID)
    : Deletion world i (sessionDeletion (world.store.view i) ids) := by
  have keyed := Store.view_keyed invariant.coherent i
  refine { kinds := ?_, visible := ?_, distinct := ?_, parents := ?_ }
  · intro write member
    rcases sessionDeletion_cases member
      with ⟨token, _, _, rfl⟩ | ⟨session, _, _, rfl⟩ | ⟨event, _, rfl⟩
    · exact .inl ⟨token.id, rfl⟩
    · exact .inr (.inl ⟨session.id, rfl⟩)
    · exact .inr (.inr ⟨_, rfl⟩)
  · intro write member
    rcases sessionDeletion_cases member with
      ⟨token, present, _, rfl⟩ | ⟨session, present, _, rfl⟩ | ⟨event, present, rfl⟩
    · exact Option.isSome_iff_exists.mpr ⟨token, Db.find?_of_mem keyed present⟩
    · exact Option.isSome_iff_exists.mpr ⟨session, Db.find?_of_mem keyed present⟩
    · exact Option.isSome_iff_exists.mpr ⟨event, Db.find?_of_mem keyed present⟩
  · unfold sessionDeletion
    simp only [List.map_append, List.map_map]
    refine List.nodup_append'.mpr ⟨List.nodup_append'.mpr ⟨?_, ?_, ?_⟩, ?_, ?_⟩
    · exact targets_nodup (t := .refreshTokens) (keyed .refreshTokens) _
    · exact targets_nodup (t := .authSessions) (keyed .authSessions) _
    · intro target left right
      simp only [List.mem_map, Function.comp_apply] at left right
      obtain ⟨_, _, rfl⟩ := left
      obtain ⟨_, _, impossible⟩ := right
      cases impossible
    · exact targets_nodup (t := .securityAuditEvents) (keyed .securityAuditEvents) _
    · intro target left right
      simp only [List.mem_append, List.mem_map, Function.comp_apply] at left right
      obtain ⟨_, _, rfl⟩ := right
      rcases left with ⟨_, _, impossible⟩ | ⟨_, _, impossible⟩ <;> cases impossible
  · intro k token found kept dropped
    rw [List.mem_append, not_or] at kept
    rcases List.mem_append.mp dropped with old | new
    · exact pruned.parents k token found kept.1 old
    · rcases sessionDeletion_cases new
        with ⟨_, _, _, same⟩ | ⟨session, _, listed, same⟩ | ⟨_, _, same⟩
      · cases same
      · injection same with _ same
        rw [← same] at listed
        have id : token.id = k := Db.find?_key found
        rcases pruned.token_view k with ⟨gone, _⟩ | ⟨_, here⟩
        · exact kept.1 gone
        · refine kept.2 (id ▸ sessionDeletion_token ?_ listed)
          exact Db.mem_of_find? (here.trans found)
      · cases same

/-- A step of a deletion, in runs that delete. -/
theorem Cleaning.step {writes : List (Write schema)} {answer : Except Violation Unit}
    (cleaning : Cleaning regime.toFlags i world)
    (invariant : Invariant services regime.toFlags world)
    (deletion : Deletion world i writes) (deletes : ¬ ¬ regime.deletes)
    (ran : execDeletion i writes world = some (answer, after))
    : Invariant services regime.toFlags after
      ∧ (∀ j, j ≠ i → Leaves regime.toFlags j world after)
      ∧ Cleaning regime.toFlags i after := by
  obtain ⟨free, ⟨_, rfl⟩ | ⟨_, rfl, sound⟩⟩ := execDeletion_cases ran
  · exact ⟨invariant, fun j _ => ⟨Keeps.refl _ j _, rfl⟩, cleaning⟩
  · have stages := deletion.stages invariant.coherent free
    refine ⟨?_, fun j different => stages.leaves invariant.coherent different, ?_⟩
    · apply stages.invariant invariant
      · exact invariant.ledger.same stages.committed rfl rfl rfl rfl rfl rfl
      · intro write member
        rcases deletion.kinds write member with ⟨_, rfl⟩ | ⟨_, rfl⟩ | ⟨_, rfl⟩
          <;> simp [Write.target]
      · intro row member
        rcases deletion.kinds _ member with ⟨_, same⟩ | ⟨_, same⟩ | ⟨_, same⟩ <;> cases same
    · exact {
        pruned := deletion.pruned cleaning.pruned sound
        lasting := fun lasting => absurd lasting deletes
      }

theorem deleteRefreshTokens_spec {ids : List UUID}
    : Spec services regime i (Cleaning regime.toFlags i) (perform (.deleteRefreshTokens ids))
        (fun _ => Cleaning regime.toFlags i) raised := by
  apply Spec.staging Cleaning.tame (fun _ => Cleaning.tame)
  intro world answer after invariant _ cleaning admitted ran
  refine cleaning.step invariant (tokenDeletion_deletion invariant cleaning.pruned ids) ?_ ran
  exact fun lasting => (regime.undeleted lasting i _ world admitted).1 ids rfl

theorem deleteSessionRows_spec {ids : List UUID}
    : Spec services regime i (Cleaning regime.toFlags i) (perform (.deleteSessions ids))
        (fun _ => Cleaning regime.toFlags i) raised := by
  apply Spec.staging Cleaning.tame (fun _ => Cleaning.tame)
  intro world answer after invariant _ cleaning admitted ran
  refine cleaning.step invariant (sessionDeletion_deletion invariant cleaning.pruned ids) ?_ ran
  exact fun lasting => (regime.undeleted lasting i _ world admitted).2 ids rfl

-----------------------------------------------------------------------------------------
-- CleanupExpiredSessions
-----------------------------------------------------------------------------------------

theorem raiseDeletion_spec {pre : World → Prop} {answer : Except Violation Unit}
    (tame : Tame services regime i pre)
    : Spec services regime i pre (raiseDeletion answer) (fun _ => pre) (fun _ _ => True) := by
  match answer with
  | .ok () => exact Spec.pure tame (fun _ holds => holds)
  | .error _ => exact Spec.throw tame (fun _ _ => trivial)

theorem deleteExpiredRefreshTokens_spec {before : Timestamp} {limit : Nat}
    : Spec services regime i (Cleaning regime.toFlags i)
        (SessionCleanupRepository.deleteExpiredRefreshTokens before limit)
        (fun _ => Cleaning regime.toFlags i) (fun _ _ => True) := by
  unfold SessionCleanupRepository.deleteExpiredRefreshTokens
  apply Spec.bind (select_spec (fun _ _ => True) Cleaning.tame (fun _ => .const _)
    (fun _ _ _ _ _ => trivial))
  intro db
  have stable : Tame services regime i (fun world => Cleaning regime.toFlags i world ∧ True) :=
    Cleaning.tame.and (.const _)
  dsimp only
  split
  · exact Spec.pure stable (fun _ holds => holds.1)
  · apply Spec.bind (deleteRefreshTokens_spec.weaken (fun _ holds => holds.1)
      (fun _ _ holds => holds) (fun _ _ failed => failed))
    intro answer
    apply Spec.bind (raiseDeletion_spec Cleaning.tame)
    intro _
    exact Spec.pure Cleaning.tame (fun _ holds => holds)

theorem deleteSessions_spec {ids : List UUID}
    : Spec services regime i (Cleaning regime.toFlags i)
        (SessionCleanupRepository.deleteSessions ids)
        (fun _ => Cleaning regime.toFlags i) (fun _ _ => True) := by
  unfold SessionCleanupRepository.deleteSessions
  split
  · exact Spec.pure Cleaning.tame (fun _ holds => holds)
  · apply Spec.bind deleteSessionRows_spec
    intro answer
    apply Spec.bind (raiseDeletion_spec Cleaning.tame)
    intro _
    exact Spec.pure Cleaning.tame (fun _ holds => holds)

/-- A SELECT of ids followed by their deletion. -/
theorem deleteSelected_spec {query : Query} {ids : Database → List UUID}
    : Spec services regime i (Cleaning regime.toFlags i)
        (do
          let db ← select query
          SessionCleanupRepository.deleteSessions (ids db))
        (fun _ => Cleaning regime.toFlags i) (fun _ _ => True) := by
  apply Spec.bind (select_spec (fun _ _ => True) Cleaning.tame (fun _ => .const _)
    (fun _ _ _ _ _ => trivial))
  intro db
  exact deleteSessions_spec.weaken (fun _ holds => holds.1) (fun _ _ holds => holds)
    (fun _ _ failed => failed)

/-- A cleanup deletes whole sessions and chains of tokens, or nothing. -/
theorem cleanupExpiredSessions_spec (command : CleanupExpiredSessionsCommand)
    : Spec services regime i (fun world => Idle world i) (cleanupExpiredSessions command)
        (fun _ _ => True) (fun _ _ => True) := by
  suffices body : Spec services regime i (fun world => Idle world i) _ (fun _ _ => True)
      (fun _ _ => True) from
    orRollback_spec body (fun _ => .const _) (fun _ => .const _) (fun _ _ _ _ => trivial)
  apply Spec.bind (clockNow_spec Idle.tame)
  intro now
  apply Spec.bind (deleteExpiredRefreshTokens_spec.weaken (fun _ idle => idle.cleaning _)
    (fun _ _ holds => holds) (fun _ _ failed => failed))
  intro _
  apply Spec.bind deleteSelected_spec
  intro _
  apply Spec.bind deleteSelected_spec
  intro _
  apply Spec.bind (commit_spec Cleaning.tame (.const True)
    (fun _ _ cleaning => .pruning cleaning.pruned cleaning.lasting) (fun _ _ _ => trivial))
  intro _
  exact Spec.pure (.const True) (fun _ _ => trivial)

end WorkflowForge.Identity
