import Mathlib.Data.Prod.Lex
import WorkflowForge.Concurrency.Sequential
import WorkflowForge.Identity.SessionRuns
import WorkflowForge.Ordering.Ranks

/-! The batches of the session cleanup: when they are closed under references, and what a
cleanup that runs alone comes to.
-/

namespace WorkflowForge.Identity

open Python Transactions Concurrency

-----------------------------------------------------------------------------------------
-- The rows of a batch
-----------------------------------------------------------------------------------------

/-- The position of a row in `ORDER BY instant, id`. -/
def orderKey {α : Type} (instant : α → Timestamp) (id : α → UUID) (row : α)
    : Timestamp ×ₗ UUID :=
  toLex (instant row, id row)

theorem orderKey_le {α : Type} {instant : α → Timestamp} {id : α → UUID} {first second : α}
    : orderKey instant id first ≤ orderKey instant id second
      ↔ instant first < instant second
        ∨ instant first = instant second ∧ id first ≤ id second :=
  Prod.Lex.toLex_le_toLex

/-- A bounded batch has the rows of small rank. -/
theorem mem_boundedIds {α : Type} {instant : α → Timestamp} {id : α → UUID} {limit : Nat}
    {rows : List α} (distinct : (rows.map id).Nodup) {k : UUID}
    : k ∈ boundedIds instant id limit rows
      ↔ ∃ row ∈ rows, id row = k ∧ Ranks.rank (orderKey instant id) rows row < limit := by
  have keys : (rows.map (orderKey instant id)).Nodup := by
    refine List.Nodup.of_map (fun key => (ofLex key).2) ?_
    rw [List.map_map]
    exact distinct
  have order : (fun first second =>
      decide (instant first < instant second)
      || (decide (instant first = instant second) && decide (id first ≤ id second)))
      = fun first second =>
          decide (orderKey instant id first ≤ orderKey instant id second) := by
    funext first second
    rw [Bool.eq_iff_iff]
    simp [orderKey_le]
  unfold boundedIds
  rw [order]
  simp only [List.mem_map, Ranks.mem_take_mergeSort keys]
  constructor
  · rintro ⟨row, ⟨member, small⟩, same⟩
    exact ⟨row, member, same, small⟩
  · rintro ⟨row, member, same, small⟩
    exact ⟨row, ⟨member, small⟩, same⟩

/-- The refresh tokens that have expired. -/
def expiredBefore (db : Database) (before : Timestamp) : List RefreshTokenRecord :=
  (db .refreshTokens).filter (fun row => decide (row.expiresAt < before))

/-- How many expired refresh tokens come before a token in the order of the cleanup. -/
def expiryRank (db : Database) (before : Timestamp) (token : RefreshTokenRecord) : Nat :=
  Ranks.rank (orderKey RefreshTokenRecord.expiresAt RefreshTokenRecord.id)
    (expiredBefore db before) token

theorem mem_expiredBefore {db : Database} {before : Timestamp} {token : RefreshTokenRecord}
    : token ∈ expiredBefore db before
      ↔ token ∈ db .refreshTokens ∧ token.expiresAt < before := by
  simp [expiredBefore]

theorem mem_expiredRefreshTokens {db : Database} (keyed : db.Keyed) {before : Timestamp}
    {limit : Nat} {k : UUID}
    : k ∈ expiredRefreshTokens db before limit
      ↔ ∃ token ∈ db .refreshTokens,
          token.id = k ∧ token.expiresAt < before ∧ expiryRank db before token < limit := by
  have distinct : ((expiredBefore db before).map RefreshTokenRecord.id).Nodup :=
    (keyed .refreshTokens).sublist (List.filter_sublist.map _)
  change k ∈ boundedIds RefreshTokenRecord.expiresAt RefreshTokenRecord.id limit
    (expiredBefore db before) ↔ _
  rw [mem_boundedIds distinct]
  constructor
  · rintro ⟨token, member, same, small⟩
    obtain ⟨present, expired⟩ := mem_expiredBefore.mp member
    exact ⟨token, present, same, expired, small⟩
  · rintro ⟨token, present, same, expired, small⟩
    exact ⟨token, mem_expiredBefore.mpr ⟨present, expired⟩, same, small⟩

-----------------------------------------------------------------------------------------
-- Closed batches
-----------------------------------------------------------------------------------------

/-- No refresh token outside the batch points into it. -/
def ClosedBatch (db : Database) (ids : List UUID) : Prop :=
  ∀ token ∈ db .refreshTokens,
    token.id ∉ ids → ∀ k, token.replacedByTokenId = some k → k ∉ ids

/-- The limit falls between an expired token and its replacement: both expire at once, the
replacement has the smaller id, and it is the last to get into the batch. -/
def TieCut (db : Database) (before : Timestamp) (limit : Nat) : Prop :=
  ∃ token ∈ db .refreshTokens,
    ∃ next ∈ db .refreshTokens,
      token.replacedByTokenId = some next.id
      ∧ next.expiresAt = token.expiresAt
      ∧ next.id < token.id
      ∧ next.expiresAt < before
      ∧ expiryRank db before next < limit
      ∧ limit ≤ expiryRank db before token

instance (db : Database) (before : Timestamp) (limit : Nat) : Decidable (TieCut db before limit) :=
  inferInstanceAs (Decidable (∃ token ∈ db .refreshTokens, ∃ next ∈ db .refreshTokens, _))

/-- The batch is closed unless the limit cuts a token off from a replacement that expires at the
same instant. -/
theorem Lineage.closedBatch_iff {lifetime : Timedelta} {db : Database}
    (lineage : Lineage lifetime db) (keyed : db.Keyed) (before : Timestamp) (limit : Nat)
    : ClosedBatch db (expiredRefreshTokens db before limit) ↔ ¬ TieCut db before limit := by
  constructor
  · rintro closed ⟨token, member, next, member', pointed, _, _, expired, small, large⟩
    refine closed token member ?_ next.id pointed ?_
    · intro inside
      obtain ⟨other, present, same, _, small'⟩ := (mem_expiredRefreshTokens keyed).mp inside
      have one : other = token := by
        have here := Db.find?_of_mem keyed present
        have there := Db.find?_of_mem keyed member
        change tokenAt db other.id = some other at here
        rw [same] at here
        exact Option.some.inj (here.symm.trans there)
      rw [one] at small'
      omega
    · exact (mem_expiredRefreshTokens keyed).mpr ⟨next, member', rfl, expired, small⟩
  · intro uncut token member outside k pointed inside
    obtain ⟨next, member', rfl, expired, small⟩ := (mem_expiredRefreshTokens keyed).mp inside
    obtain ⟨other, found, _, _, generation, later⟩ :=
      lineage.replaced token.id token next.id (Db.find?_of_mem keyed member) pointed
    have one : other = next :=
      Option.some.inj (found.symm.trans (Db.find?_of_mem keyed member'))
    subst one
    have large : limit ≤ expiryRank db before token := by
      by_contra small'
      exact outside ((mem_expiredRefreshTokens keyed).mpr
        ⟨token, member, rfl, lt_of_le_of_lt later expired, Nat.not_le.mp small'⟩)
    -- The replacement is in the batch and the token is not, so the replacement comes first.
    have first : ¬ orderKey RefreshTokenRecord.expiresAt RefreshTokenRecord.id token
        ≤ orderKey RefreshTokenRecord.expiresAt RefreshTokenRecord.id other := by
      intro le
      have ranks := Ranks.rank_mono (expiredBefore db before) le
      change expiryRank db before token ≤ expiryRank db before other at ranks
      omega
    rw [orderKey_le, not_or, not_and] at first
    have tie : other.expiresAt = token.expiresAt := by
      exact le_antisymm (Int.not_lt.mp first.1) later
    exact uncut ⟨token, member, other, member', pointed, tie, Nat.not_le.mp (first.2 tie.symm),
      expired, small, large⟩

-----------------------------------------------------------------------------------------
-- What the deletions leave
-----------------------------------------------------------------------------------------

theorem view_stageAll (store : Store schema) (i : Nat) (writes : List (Write schema))
    : (stageAll store i writes).view i = Write.applyAll writes (store.view i) := by
  unfold Store.view
  rw [stageAll_own, stageAll_committed, Write.applyAll_append]

/-- What `DELETE FROM refresh_tokens` leaves. -/
def withoutTokens (db : Database) (ids : List UUID) : Database :=
  Write.applyAll (tokenDeletion db ids) db

/-- What `DELETE FROM auth_sessions` leaves. -/
def withoutSessions (db : Database) (ids : List UUID) : Database :=
  Write.applyAll (sessionDeletion db ids) db

section Lookups

variable {db : Database} {ids : List UUID} {k : UUID}

theorem tokenAt_withoutTokens
    : tokenAt (withoutTokens db ids) k = if k ∈ ids then none else tokenAt db k := by
  have unput : ∀ row, putToken row ∈ tokenDeletion db ids → row.id ≠ k := by
    intro row member
    obtain ⟨_, _, _, same⟩ := mem_tokenDeletion.mp member
    cases same
  rcases Write.find?_applyAll_remove db (t := .refreshTokens) (k := k) unput with
    ⟨dropped, gone⟩ | ⟨kept, same⟩
  · obtain ⟨token, _, listed, same⟩ := mem_tokenDeletion.mp dropped
    injection same with _ same
    rw [if_pos (same ▸ listed)]
    exact gone
  · split
    · rename_i listed
      refine same.trans ?_
      cases found : tokenAt db k with
      | none => exact found
      | some token =>
          have id : token.id = k := Db.find?_key found
          exact absurd (mem_tokenDeletion.mpr
            ⟨token, Db.mem_of_find? found, id ▸ listed, by rw [id]⟩) kept
    · exact same

theorem sessionAt_withoutTokens : sessionAt (withoutTokens db ids) k = sessionAt db k := by
  apply Write.find?_applyAll_other
  intro write member hit
  obtain ⟨token, _, _, rfl⟩ := mem_tokenDeletion.mp member
  cases hit

theorem sessionAt_withoutSessions
    : sessionAt (withoutSessions db ids) k = if k ∈ ids then none else sessionAt db k := by
  have unput : ∀ row, putSession row ∈ sessionDeletion db ids → row.id ≠ k := by
    intro row member
    rcases sessionDeletion_cases member with ⟨_, _, _, same⟩ | ⟨_, _, _, same⟩ | ⟨_, _, same⟩
      <;> cases same
  rcases Write.find?_applyAll_remove db (t := .authSessions) (k := k) unput with
    ⟨dropped, gone⟩ | ⟨kept, same⟩
  · rcases sessionDeletion_cases dropped with
      ⟨_, _, _, same⟩ | ⟨session, _, listed, same⟩ | ⟨_, _, same⟩
    · cases same
    · injection same with _ same
      rw [if_pos (same ▸ listed)]
      exact gone
    · cases same
  · split
    · rename_i listed
      refine same.trans ?_
      cases found : sessionAt db k with
      | none => exact found
      | some session =>
          have id : session.id = k := Db.find?_key found
          exact absurd (sessionDeletion_session (Db.mem_of_find? found) (id ▸ listed))
            (id ▸ kept)
    · exact same

/-- The deletion of sessions cascades to their tokens. -/
theorem tokenAt_withoutSessions (keyed : db.Keyed)
    : tokenAt (withoutSessions db ids) k
      = (tokenAt db k).filter (fun token => !ids.contains token.sessionId) := by
  have unput : ∀ row, putToken row ∈ sessionDeletion db ids → row.id ≠ k := by
    intro row member
    rcases sessionDeletion_cases member with ⟨_, _, _, same⟩ | ⟨_, _, _, same⟩ | ⟨_, _, same⟩
      <;> cases same
  rcases Write.find?_applyAll_remove db (t := .refreshTokens) (k := k) unput with
    ⟨dropped, gone⟩ | ⟨kept, same⟩
  · rcases sessionDeletion_cases dropped with
      ⟨token, member, listed, same⟩ | ⟨_, _, _, same⟩ | ⟨_, _, same⟩
    · injection same with _ same
      have found : tokenAt db k = some token := same ▸ Db.find?_of_mem keyed member
      rw [found, Option.filter_some, if_neg (by simpa using listed)]
      exact gone
    · cases same
    · cases same
  · refine same.trans ?_
    cases found : tokenAt db k with
    | none => exact found
    | some token =>
        have id : token.id = k := Db.find?_key found
        have unlisted : token.sessionId ∉ ids := fun listed =>
          kept (id ▸ sessionDeletion_token (Db.mem_of_find? found) listed)
        rw [Option.filter_some, if_pos (by simpa using unlisted)]
        exact found

end Lookups

section References

variable {lifetime : Timedelta} {db : Database} {ids : List UUID}

theorem not_dangling_iff (keyed : db.Keyed)
    : dangling db = false
      ↔ ∀ j token k,
          tokenAt db j = some token
          → token.replacedByTokenId = some k
          → (tokenAt db k).isSome := by
  unfold dangling
  rw [List.any_eq_false]
  constructor
  · intro sound j token k found pointed
    have target := sound token (Db.mem_of_find? found)
    simpa [pointed, Option.isSome_iff_ne_none] using target
  · intro sound token member
    have found := Db.find?_of_mem keyed member
    cases pointed : token.replacedByTokenId with
    | none => simp
    | some k => simpa [Option.isSome_iff_ne_none] using sound _ token k found pointed

theorem withoutTokens_keyed (keyed : db.Keyed) : (withoutTokens db ids).Keyed :=
  Write.applyAll_keyed keyed _

theorem withoutSessions_keyed (keyed : db.Keyed) : (withoutSessions db ids).Keyed :=
  Write.applyAll_keyed keyed _

/-- The self-referencing foreign key accepts exactly the closed batches. -/
theorem Lineage.dangling_withoutTokens (lineage : Lineage lifetime db) (keyed : db.Keyed)
    : dangling (withoutTokens db ids) = false ↔ ClosedBatch db ids := by
  rw [not_dangling_iff (withoutTokens_keyed keyed)]
  constructor
  · intro sound token member outside k pointed inside
    have found : tokenAt (withoutTokens db ids) token.id = some token := by
      rw [tokenAt_withoutTokens, if_neg outside]
      exact Db.find?_of_mem keyed member
    have present := sound token.id token k found pointed
    rw [tokenAt_withoutTokens, if_pos inside] at present
    contradiction
  · intro closed j token k found pointed
    rw [tokenAt_withoutTokens] at found
    split at found
    · contradiction
    · rename_i outside
      have id : token.id = j := Db.find?_key found
      obtain ⟨next, here, _⟩ := lineage.replaced j token k found pointed
      rw [tokenAt_withoutTokens,
        if_neg (closed token (Db.mem_of_find? found) (id ▸ outside) k pointed), here]
      rfl

theorem prunes_withoutTokens (closed : ClosedBatch db ids)
    : Prunes db (withoutTokens db ids) := by
  have kept {k : UUID} {token : RefreshTokenRecord}
      (found : tokenAt (withoutTokens db ids) k = some token)
      : k ∉ ids ∧ tokenAt db k = some token := by
    rw [tokenAt_withoutTokens] at found
    split at found
    · contradiction
    · rename_i outside
      exact ⟨outside, found⟩
  refine { sessions := ?_, tokens := ?_, parents := ?_, references := ?_ }
  · exact fun k => .inr sessionAt_withoutTokens
  · intro k
    rw [tokenAt_withoutTokens]
    split
    · exact .inl rfl
    · exact .inr rfl
  · exact fun _ _ _ => sessionAt_withoutTokens
  · intro k token replacement found pointed
    obtain ⟨outside, here⟩ := kept found
    have id : token.id = k := Db.find?_key here
    rw [tokenAt_withoutTokens,
      if_neg (closed token (Db.mem_of_find? here) (id ▸ outside) replacement pointed)]

/-- A token that is left belongs to a session that is left. -/
theorem left_withoutSessions (keyed : db.Keyed) {k : UUID} {token : RefreshTokenRecord}
    (found : tokenAt (withoutSessions db ids) k = some token)
    : tokenAt db k = some token ∧ token.sessionId ∉ ids := by
  rw [tokenAt_withoutSessions keyed, Option.filter_eq_some_iff] at found
  exact ⟨found.1, by simpa using found.2⟩

/-- Sessions are deleted together with their whole lines of tokens. -/
theorem Lineage.kept_withoutSessions (lineage : Lineage lifetime db) (keyed : db.Keyed)
    {k replacement : UUID} {token : RefreshTokenRecord}
    (found : tokenAt (withoutSessions db ids) k = some token)
    (pointed : token.replacedByTokenId = some replacement)
    : tokenAt (withoutSessions db ids) replacement = tokenAt db replacement
      ∧ (tokenAt db replacement).isSome := by
  obtain ⟨here, unlisted⟩ := left_withoutSessions keyed found
  obtain ⟨next, there, session, _⟩ := lineage.replaced k token replacement here pointed
  rw [tokenAt_withoutSessions keyed, there, Option.filter_some,
    if_pos (by simpa [session] using unlisted)]
  exact ⟨rfl, rfl⟩

theorem Lineage.dangling_withoutSessions (lineage : Lineage lifetime db) (keyed : db.Keyed)
    : dangling (withoutSessions db ids) = false := by
  rw [not_dangling_iff (withoutSessions_keyed keyed)]
  intro j token k found pointed
  obtain ⟨same, present⟩ := lineage.kept_withoutSessions keyed found pointed
  rw [same]
  exact present

theorem Lineage.prunes_withoutSessions (lineage : Lineage lifetime db) (keyed : db.Keyed)
    : Prunes db (withoutSessions db ids) := by
  refine { sessions := ?_, tokens := ?_, parents := ?_, references := ?_ }
  · intro k
    rw [sessionAt_withoutSessions]
    split
    · exact .inl rfl
    · exact .inr rfl
  · intro k
    rw [tokenAt_withoutSessions keyed]
    cases tokenAt db k with
    | none => exact .inl rfl
    | some token =>
        rw [Option.filter_some]
        split
        · exact .inr rfl
        · exact .inl rfl
  · intro k token found
    rw [sessionAt_withoutSessions, if_neg (left_withoutSessions keyed found).2]
  · intro k token replacement found pointed
    exact (lineage.kept_withoutSessions keyed found pointed).1

end References

-----------------------------------------------------------------------------------------
-- A cleanup that runs alone
-----------------------------------------------------------------------------------------

/-- Call `i` sees the tables `db`, and unless `waits` no other call holds locks or has
uncommitted writes. -/
structure Sees (lifetime : Timedelta) (waits : Prop) (i : Nat) (db : Database) (world : World)
    : Prop where
  view : world.store.view i = db
  lineage : Lineage lifetime db
  keyed : db.Keyed
  locks : ¬ waits → ∀ lock ∈ world.store.locks, lock.1 = i
  pending : ¬ waits → ∀ entry ∈ world.store.pending, entry.1 = i

section Alone

variable {lifetime : Timedelta} {waits : Prop} {i : Nat} {db : Database} {world : World}

theorem Sees.held {t : TableName} {k : UUID} (sees : Sees lifetime waits i db world)
    (held : world.store.heldByOther i t k = true)
    : waits := by
  by_contra moves
  obtain ⟨lock, member, other⟩ := List.any_eq_true.mp held
  simp [sees.locks moves lock member] at other

theorem Sees.shared {t : TableName} {k : UUID} (sees : Sees lifetime waits i db world)
    (shared : world.store.sharedByOther i t k = true)
    : waits := by
  by_contra moves
  obtain ⟨entry, member, other⟩ := List.any_eq_true.mp shared
  simp [sees.pending moves entry member] at other

theorem stageAll_locks (i : Nat) (writes : List (Write schema)) (store : Store schema)
    : (stageAll store i writes).locks
      = store.locks ++ writes.map (fun write => (i, write.target)) := by
  induction writes generalizing store with
  | nil => simp [stageAll]
  | cons write rest ih =>
      have step := ih (store.stage i write)
      simpa [stageAll, Store.stage] using step

theorem stageAll_pending (i : Nat) (writes : List (Write schema)) (store : Store schema)
    : (stageAll store i writes).pending = store.pending ++ writes.map (Prod.mk i) := by
  induction writes generalizing store with
  | nil => simp [stageAll]
  | cons write rest ih =>
      have step := ih (store.stage i write)
      simpa [stageAll, Store.stage] using step

/-- A deletion of the call itself is seen by the call. -/
theorem Sees.stageAll {after : Database} {writes : List (Write schema)}
    (sees : Sees lifetime waits i db world) (left : Write.applyAll writes db = after)
    (prunes : Prunes db after)
    : Sees lifetime waits i after
        { world with store := Identity.stageAll world.store i writes } where
  view := by
    change (Identity.stageAll world.store i writes).view i = after
    rw [view_stageAll, sees.view, left]
  lineage := sees.lineage.prunes prunes
  keyed := left ▸ Write.applyAll_keyed sees.keyed writes
  locks moves lock member := by
    simp only [stageAll_locks, List.mem_append, List.mem_map] at member
    rcases member with old | ⟨_, _, rfl⟩
    · exact sees.locks moves lock old
    · rfl
  pending moves entry member := by
    simp only [stageAll_pending, List.mem_append, List.mem_map] at member
    rcases member with old | ⟨_, _, rfl⟩
    · exact sees.pending moves entry old
    · rfl

/-- A SELECT answers what the call sees. -/
theorem select_ends {α : Type} {query : Query} {next : Database → App α}
    {post : Except Fault α → World → Prop} (sees : Sees lifetime waits i db world)
    (rest : ∀ after, Sees lifetime waits i db after → Ends (exec i) waits post (next db) after)
    : Ends (exec i) waits post (select query >>= next) world := by
  apply Ends.call
  · intro stuck
    simp [exec, Store.exec] at stuck
  · intro answer after ran
    simp only [exec, Store.exec, Option.map_some, Option.some.injEq, Prod.mk.injEq] at ran
    obtain ⟨rfl, rfl⟩ := ran
    have kept : Sees lifetime waits i db { world with store := world.store.opening i } :=
      { sees with view := sees.view }
    change Ends (exec i) waits post (next (world.store.view i)) _
    rw [sees.view]
    exact rest _ kept

theorem Sees.deletion_waits {writes : List (Write schema)}
    (sees : Sees lifetime waits i db world) (stuck : execDeletion i writes world = none)
    : waits := by
  unfold execDeletion at stuck
  split at stuck
  · rename_i contended
    obtain ⟨write, _, contended⟩ := List.any_eq_true.mp contended
    cases write with
    | put t row => exact sees.held contended
    | remove t k => exact (Bool.or_eq_true_iff.mp contended).elim sees.held sees.shared
  · dsimp only at stuck
    split at stuck <;> contradiction

/-- A deletion is refused when a reference would dangle, and carried out otherwise. -/
theorem Sees.deletion_cases {after : Database} {writes : List (Write schema)}
    {answer : Except Violation Unit} {later : World} (sees : Sees lifetime waits i db world)
    (left : Write.applyAll writes db = after)
    (ran : execDeletion i writes world = some (answer, later))
    : (dangling after = true ∧ answer = .error .integrity ∧ later = world)
      ∨ (dangling after = false ∧ answer = .ok ()
          ∧ later = { world with store := Identity.stageAll world.store i writes }) := by
  have seen : (Identity.stageAll world.store i writes).view i = after := by
    rw [view_stageAll, sees.view, left]
  unfold execDeletion at ran
  split at ran
  · contradiction
  · simp only [seen] at ran
    split at ran
    · rename_i broken
      cases ran
      exact .inl ⟨broken, rfl, rfl⟩
    · rename_i sound
      cases ran
      exact .inr ⟨by simpa using sound, rfl, rfl⟩

/-- The batch of refresh tokens is deleted if and only if it is closed. -/
theorem deleteExpiredRefreshTokens_ends (sees : Sees lifetime waits i db world)
    (before : Timestamp) (limit : Nat)
    : Ends (exec i) waits
        (fun result after =>
          (ClosedBatch db (expiredRefreshTokens db before limit)
            ∧ (∃ count, result = .ok count)
            ∧ Sees lifetime waits i
                (withoutTokens db (expiredRefreshTokens db before limit)) after)
          ∨ (¬ ClosedBatch db (expiredRefreshTokens db before limit)
              ∧ result = .error .integrityError))
        (SessionCleanupRepository.deleteExpiredRefreshTokens before limit) world := by
  unfold SessionCleanupRepository.deleteExpiredRefreshTokens
  apply select_ends sees
  intro world sees
  generalize expiredRefreshTokens db before limit = ids
  dsimp only
  split
  · rename_i empty
    subst empty
    refine Ends.done (.inl ⟨by simp [ClosedBatch], ⟨0, rfl⟩, ?_⟩)
    have same : withoutTokens db [] = db := by
      simp [withoutTokens, tokenDeletion, Write.applyAll]
    rw [same]
    exact sees
  · apply Ends.call
    · intro stuck
      simp only [exec, sees.view] at stuck
      exact sees.deletion_waits stuck
    · intro answer after ran
      simp only [exec, sees.view] at ran
      rcases sees.deletion_cases rfl ran with ⟨broken, rfl, rfl⟩ | ⟨sound, rfl, rfl⟩
      · refine Ends.done (.inr ⟨?_, rfl⟩)
        intro closed
        have sound := (sees.lineage.dangling_withoutTokens sees.keyed).mpr closed
        exact absurd (broken.symm.trans sound) (by decide)
      · have closed := (sees.lineage.dangling_withoutTokens sees.keyed).mp sound
        exact Ends.done (.inl ⟨closed, ⟨ids.length, rfl⟩,
          sees.stageAll rfl (prunes_withoutTokens closed)⟩)

/-- Chosen sessions are deleted. -/
theorem deleteSelected_ends {query : Query} (chosen : Database → List UUID)
    (sees : Sees lifetime waits i db world)
    : Ends (exec i) waits
        (fun result after =>
          (∃ count, result = .ok count)
          ∧ Sees lifetime waits i (withoutSessions db (chosen db)) after)
        (do
          let db ← select query
          SessionCleanupRepository.deleteSessions (chosen db))
        world := by
  apply select_ends sees
  intro world sees
  unfold SessionCleanupRepository.deleteSessions
  generalize chosen db = ids
  split
  · rename_i empty
    subst empty
    have same : withoutSessions db [] = db := by
      simp [withoutSessions, sessionDeletion, Write.applyAll]
    refine Ends.done ⟨⟨0, rfl⟩, ?_⟩
    rw [same]
    exact sees
  · apply Ends.call
    · intro stuck
      simp only [exec, sees.view] at stuck
      exact sees.deletion_waits stuck
    · intro answer after ran
      simp only [exec, sees.view] at ran
      rcases sees.deletion_cases rfl ran with ⟨broken, rfl, rfl⟩ | ⟨_, rfl, rfl⟩
      · have sound : dangling (withoutSessions db ids) = false :=
          sees.lineage.dangling_withoutSessions sees.keyed
        exact absurd (broken.symm.trans sound) (by decide)
      · exact Ends.done ⟨⟨ids.length, rfl⟩,
          sees.stageAll rfl (sees.lineage.prunes_withoutSessions sees.keyed)⟩

/-- What a cleanup at `now` leaves of the tables. -/
def cleaned (command : CleanupExpiredSessionsCommand) (now : Timestamp) (db : Database)
    : Database :=
  let tokensGone := withoutTokens db (expiredRefreshTokens db now command.batchLimit)
  let expiredGone :=
    withoutSessions tokensGone
      (expiredSessions tokensGone (now - command.expiredSessionRetention) command.batchLimit)
  withoutSessions expiredGone
    (revokedSessions expiredGone (now - command.revokedSessionRetention) command.batchLimit)

/-- How a cleanup at `now` ends that sees `db`: it fails if its batch of refresh tokens is not
closed, and otherwise commits all three batches. -/
def CleanupOutcome (command : CleanupExpiredSessionsCommand) (now : Timestamp) (db : Database)
    (result : Except Fault SessionCleanupResult) (after : World)
    : Prop :=
  (ClosedBatch db (expiredRefreshTokens db now command.batchLimit)
    ∧ (∃ counts, result = .ok counts)
    ∧ after.committed = cleaned command now db)
  ∨ (¬ ClosedBatch db (expiredRefreshTokens db now command.batchLimit)
      ∧ result = .error .integrityError)

/-- A cleanup that runs alone. -/
theorem cleanupExpiredSessions_ends (command : CleanupExpiredSessionsCommand)
    (sees : Sees lifetime waits i db world)
    : Ends (exec i) waits (CleanupOutcome command (world.clock world.ticks) db)
        (cleanupExpiredSessions command) world := by
  unfold cleanupExpiredSessions orRollback
  refine Ends.tryCatch
    (?_ : Ends (exec i) waits (CleanupOutcome command (world.clock world.ticks) db) _ _)
    (fun _ _ holds => holds) ?_
  · apply Ends.call (by simp [exec])
    intro now after ran
    simp only [exec, Option.some.injEq, Prod.mk.injEq] at ran
    obtain ⟨rfl, rfl⟩ := ran
    have sees : Sees lifetime waits i db { world with ticks := world.ticks + 1 } :=
      { sees with view := sees.view }
    generalize world.clock world.ticks = now at *
    apply Ends.bind (deleteExpiredRefreshTokens_ends sees now command.batchLimit)
    · rintro _ after (⟨closed, _, sees⟩ | ⟨_, impossible⟩)
      · apply Ends.bind (deleteSelected_ends (fun db =>
          expiredSessions db (now - command.expiredSessionRetention) command.batchLimit) sees)
        · rintro _ after ⟨_, sees⟩
          apply Ends.bind (deleteSelected_ends (fun db =>
            revokedSessions db (now - command.revokedSessionRetention) command.batchLimit) sees)
          · rintro _ after ⟨_, sees⟩
            apply Ends.call (by simp [exec, Store.exec])
            intro _ later ran
            simp only [exec, Store.exec, Option.map_some, Option.some.injEq, Prod.mk.injEq] at ran
            obtain ⟨_, rfl⟩ := ran
            exact Ends.done (.inl ⟨closed, ⟨_, rfl⟩, sees.view⟩)
          · rintro failure after ⟨⟨_, impossible⟩, _⟩
            contradiction
        · rintro failure after ⟨⟨_, impossible⟩, _⟩
          contradiction
      · contradiction
    · rintro failure after (⟨_, ⟨_, impossible⟩, _⟩ | ⟨broken, kind⟩)
      · contradiction
      · exact .inr ⟨broken, by rw [Except.error.inj kind]⟩
  · rintro failure after (⟨_, ⟨_, impossible⟩, _⟩ | ⟨broken, kind⟩)
    · contradiction
    · apply Ends.call (by simp [exec, Store.exec])
      intro _ later _
      exact Ends.done (.inr ⟨broken, kind⟩)

end Alone

-----------------------------------------------------------------------------------------
-- Progress
-----------------------------------------------------------------------------------------

/-- Some row has expired or was revoked, and is past its retention. -/
def PastRetention (command : CleanupExpiredSessionsCommand) (now : Timestamp) (db : Database)
    : Prop :=
  (∃ token ∈ db .refreshTokens, token.expiresAt < now)
  ∨ (∃ session ∈ db .authSessions, session.expiresAt < now - command.expiredSessionRetention)
  ∨ ∃ session ∈ db .authSessions,
      ∃ revokedAt,
        session.revokedAt = some revokedAt ∧ revokedAt < now - command.revokedSessionRetention

/-- Some session or refresh token is gone. -/
def RowsRemoved (db after : Database) : Prop :=
  (∃ token ∈ db .refreshTokens, token ∉ after .refreshTokens)
  ∨ ∃ session ∈ db .authSessions, session ∉ after .authSessions

/-- A batch with a positive limit is empty only when there is no row for it. -/
theorem exists_boundedIds {α : Type} (instant : α → Timestamp) (id : α → UUID) {limit : Nat}
    (positive : 0 < limit) {rows : List α} {row : α} (member : row ∈ rows)
    : ∃ other ∈ rows, id other ∈ boundedIds instant id limit rows := by
  unfold boundedIds
  generalize sorted : rows.mergeSort _ = ordered
  have same (other : α) : other ∈ ordered ↔ other ∈ rows := by
    rw [← sorted]
    exact List.mem_mergeSort
  cases ordered with
  | nil => exact absurd ((same row).mpr member) List.not_mem_nil
  | cons head tail =>
      obtain ⟨count, rfl⟩ := Nat.exists_eq_succ_of_ne_zero (Nat.ne_of_gt positive)
      exact ⟨head, (same head).mp List.mem_cons_self, by simp⟩

section Progress

variable {db after : Database} {command : CleanupExpiredSessionsCommand} {now : Timestamp}

theorem Prunes.token_gone (prunes : Prunes db after) {k : UUID} (gone : tokenAt db k = none)
    : tokenAt after k = none := by
  rcases prunes.tokens k with none | same
  · exact none
  · exact same.trans gone

theorem Prunes.session_gone (prunes : Prunes db after) {k : UUID}
    (gone : sessionAt db k = none)
    : sessionAt after k = none := by
  rcases prunes.sessions k with none | same
  · exact none
  · exact same.trans gone

theorem not_mem_of_find? {t : TableName} {row : TableRow t}
    (gone : after.find? t (primaryKey t row) = none)
    : row ∉ after t := by
  intro member
  have other := List.find?_eq_none.mp gone row member
  simp at other

/-- A batch of sessions with a positive limit removes one of them, if there is one to choose. -/
theorem withoutSessions_removes (instant : AuthSession → Timestamp)
    (chosen : AuthSession → Bool) {limit : Nat} (positive : 0 < limit) {session : AuthSession}
    (member : session ∈ db .authSessions) (isChosen : chosen session = true)
    : ∃ other ∈ db .authSessions,
        sessionAt
          (withoutSessions db
            (boundedIds instant AuthSession.id limit ((db .authSessions).filter chosen)))
          other.id
        = none := by
  obtain ⟨other, among, listed⟩ := exists_boundedIds instant AuthSession.id positive
    (List.mem_filter.mpr ⟨member, isChosen⟩)
  refine ⟨other, (List.mem_filter.mp among).1, ?_⟩
  rw [sessionAt_withoutSessions, if_pos listed]

/-- A cleanup with a closed batch makes progress. -/
theorem Lineage.cleaned_removes {lifetime : Timedelta} (lineage : Lineage lifetime db)
    (keyed : db.Keyed)
    (closed : ClosedBatch db (expiredRefreshTokens db now command.batchLimit))
    (past : PastRetention command now db)
    : RowsRemoved db (cleaned command now db) := by
  let tokensGone := withoutTokens db (expiredRefreshTokens db now command.batchLimit)
  let expiredGone :=
    withoutSessions tokensGone
      (expiredSessions tokensGone (now - command.expiredSessionRetention) command.batchLimit)
  have first : Prunes db tokensGone := prunes_withoutTokens closed
  have keyed' : tokensGone.Keyed := withoutTokens_keyed keyed
  have lineage' := lineage.prunes first
  have second : Prunes tokensGone expiredGone := lineage'.prunes_withoutSessions keyed'
  have keyed'' : expiredGone.Keyed := withoutSessions_keyed keyed'
  have third : Prunes expiredGone (cleaned command now db) :=
    (lineage'.prunes second).prunes_withoutSessions keyed''
  rcases past
    with ⟨token, member, late⟩ | ⟨session, member, late⟩ | ⟨session, member, revokedAt, stamp, late⟩
  · obtain ⟨other, among, listed⟩ := exists_boundedIds RefreshTokenRecord.expiresAt
      RefreshTokenRecord.id command.limit_pos (mem_expiredBefore.mpr ⟨member, late⟩)
    have gone : tokenAt tokensGone other.id = none := by
      rw [tokenAt_withoutTokens]
      exact if_pos listed
    exact .inl ⟨other, (mem_expiredBefore.mp among).1,
      not_mem_of_find? (third.token_gone (second.token_gone gone))⟩
  · have present : session ∈ tokensGone .authSessions :=
      Db.mem_of_find? (sessionAt_withoutTokens.trans (Db.find?_of_mem keyed member))
    obtain ⟨other, member', gone⟩ := withoutSessions_removes AuthSession.expiresAt
      (fun row => decide (row.expiresAt < now - command.expiredSessionRetention))
      command.limit_pos present (decide_eq_true late)
    have found := first.session_before (Db.find?_of_mem keyed' member')
    exact .inr ⟨other, Db.mem_of_find? found, not_mem_of_find? (third.session_gone gone)⟩
  · cases found : sessionAt expiredGone session.id with
    | none => exact .inr ⟨session, member, not_mem_of_find? (third.session_gone found)⟩
    | some row =>
        have before := first.session_before (second.session_before found)
        have here : some row = some session :=
          before.symm.trans (Db.find?_of_mem keyed member)
        rw [here] at found
        obtain ⟨other, member', gone⟩ :=
          withoutSessions_removes (fun row => row.revokedAt.getD 0)
            (fun row => row.revokedAt.any (fun revokedAt =>
              decide (revokedAt < now - command.revokedSessionRetention)))
            command.limit_pos (Db.mem_of_find? found) (by simpa [stamp] using late)
        have known :=
          first.session_before (second.session_before (Db.find?_of_mem keyed'' member'))
        exact .inr ⟨other, Db.mem_of_find? known, not_mem_of_find? gone⟩

end Progress

-----------------------------------------------------------------------------------------
-- Cleanups of reachable states
-----------------------------------------------------------------------------------------

/-- A cleanup has succeeded, and removed a row if there was one to remove. -/
structure CleanedUp (command : CleanupExpiredSessionsCommand) (now : Timestamp) (db : Database)
    (result : Except Fault SessionCleanupResult) (after : World)
    : Prop where
  succeeds : ∃ counts, result = .ok counts
  progress : PastRetention command now db → RowsRemoved db after.committed

section Reachable

variable {services : Services} {world : World} {config : SessionConfig}

/-- What a new call sees of a reachable state. -/
theorem reachable_sees (initial : world.Initial services)
    (run
      : Reaches exec (SessionCall.body services) (fun _ _ _ => True) (.idle world) config)
    {i : Nat} (unseen : config.threads.length ≤ i)
    : Sees services.policy.refreshTokenLifetime
        (¬ (config.shared.store.pending = [] ∧ config.shared.store.locks = [])) i
        config.shared.committed config.shared := by
  have sound := sessions_sound Regime.free initial trivial run
  have invariant := sound.inv.1
  refine {
    view := (sound.unseen i unseen).1.view
    lineage := invariant.lineage
    keyed := invariant.coherent.keyed
    locks := ?_
    pending := ?_
  }
  · intro quiet
    simp [(not_not.mp quiet).2]
  · intro quiet
    simp [(not_not.mp quiet).1]

/-- In every reachable state, for every instant and limit: the batch of refresh tokens is closed,
and a cleanup of the state succeeds and makes progress, if and only if the limit cuts no token
off from a replacement that expires at the same instant. -/
theorem reachable_cleanup_iff (initial : world.Initial services)
    (run
      : Reaches exec (SessionCall.body services) (fun _ _ _ => True) (.idle world) config)
    : (∀ before limit,
        ClosedBatch config.shared.committed
            (expiredRefreshTokens config.shared.committed before limit)
          ↔ ¬ TieCut config.shared.committed before limit)
      ∧ ∀ (i : Nat) (command : CleanupExpiredSessionsCommand),
          config.threads.length ≤ i
          → (∀ result after,
              (cleanupExpiredSessions command).run (exec i) config.shared
                = some (result, after)
              → (CleanedUp command (config.shared.clock config.shared.ticks)
                    config.shared.committed result after
                  ↔ ¬ TieCut config.shared.committed
                        (config.shared.clock config.shared.ticks) command.batchLimit))
            ∧ (config.shared.store.pending = []
              → config.shared.store.locks = []
              → ∃ result after,
                  (cleanupExpiredSessions command).run (exec i) config.shared
                  = some (result, after)) := by
  have closed_iff (before : Timestamp) (limit : Nat) :=
    (reachable_sees initial run (Nat.le_refl _)).lineage.closedBatch_iff
      (reachable_sees initial run (Nat.le_refl _)).keyed before limit
  refine ⟨closed_iff, ?_⟩
  intro i command unseen
  have sees := reachable_sees initial run unseen
  have ends := cleanupExpiredSessions_ends command sees
  refine ⟨?_, ?_⟩
  · intro result after ran
    rw [← closed_iff]
    rcases ends.post_of_run ran with ⟨closed, succeeds, left⟩ | ⟨broken, rfl⟩
    · refine iff_of_true ⟨succeeds, ?_⟩ closed
      intro past
      rw [left]
      exact sees.lineage.cleaned_removes sees.keyed closed past
    · refine iff_of_false ?_ broken
      rintro ⟨⟨_, impossible⟩, _⟩
      contradiction
  · intro pending locks
    obtain ⟨result, after, ran, _⟩ := ends.result (not_not.mpr ⟨pending, locks⟩)
    exact ⟨result, after, ran⟩

end Reachable

namespace Sample

/-- A cleanup of one row at a time, without retention. -/
def cleanupOne : CleanupExpiredSessionsCommand where
  batchLimit := 1
  expiredSessionRetention := 0
  revokedSessionRetention := 0
  limit_pos := by decide
  limit_le := by decide
  expired_nonneg := by decide
  revoked_nonneg := by decide

/-- The tokens of a login and a rotation have expired at the third reading. -/
def slow (n : Nat) : Timestamp := 51 * n

def rotated : List (Move SessionCall) := loggedIn ++ .start (refresh "alpha") :: acts 1 12

end Sample

/-- The replacement has the larger id: a cleanup of one row succeeds. -/
theorem ascending_ids_cleaned_up
    : ∃ (config : SessionConfig) (result : Except Fault SessionCleanupResult) (after : World),
        Reaches exec (SessionCall.body Sample.services) (fun _ _ _ => True)
          (.idle (Sample.world Sample.ascending Sample.slow)) config
        ∧ (cleanupExpiredSessions Sample.cleanupOne).run (exec config.threads.length)
            config.shared
          = some (result, after)
        ∧ CleanedUp Sample.cleanupOne (config.shared.clock config.shared.ticks)
            config.shared.committed result after := by
  have checked
      : (Sample.follow Sample.ascending Sample.slow (fun _ _ _ => true) Sample.rotated).any
          (fun config =>
            config.shared.store.pending.isEmpty && (config.shared.store.locks.isEmpty
            && !decide (TieCut config.shared.committed
                  (config.shared.clock config.shared.ticks) 1))) = true := by
    decide +kernel
  obtain ⟨config, run, found⟩ := Config.reaches_of_check (fun _ _ _ _ => trivial) checked
  simp only [Bool.and_eq_true, List.isEmpty_iff, Bool.not_eq_true', decide_eq_false_iff_not]
    at found
  obtain ⟨_, cleanups⟩ := reachable_cleanup_iff (Sample.world_initial _ _) run
  obtain ⟨outcome, moves⟩ := cleanups config.threads.length Sample.cleanupOne (Nat.le_refl _)
  obtain ⟨result, after, ran⟩ := moves found.1 found.2.1
  exact ⟨config, result, after, run, ran, (outcome result after ran).mpr found.2.2⟩

/-- The replacement has the smaller id and expires with its predecessor: a batch of one row is
the replacement alone. -/
theorem tied_batch_not_closed
    : ¬ ∀ (services : Services) (world : World) (config : SessionConfig) (before : Timestamp)
          (limit : Nat),
          world.Initial services
          → Reaches exec (SessionCall.body services) (fun _ _ _ => True) (.idle world) config
          → 0 < limit
          → ClosedBatch config.shared.committed
              (expiredRefreshTokens config.shared.committed before limit) := by
  intro claim
  have checked
      : (Sample.follow Sample.descending Sample.slow (fun _ _ _ => true) Sample.rotated).any
          (fun config => decide (TieCut config.shared.committed 102 1)) = true := by
    decide +kernel
  obtain ⟨config, run, cut⟩ := Config.reaches_of_check (fun _ _ _ _ => trivial) checked
  have sees := reachable_sees (Sample.world_initial _ _) run (Nat.le_refl _)
  have closed := claim Sample.services _ config 102 1 (Sample.world_initial _ _) run
    (by decide)
  exact (sees.lineage.closedBatch_iff sees.keyed 102 1).mp closed (of_decide_eq_true cut)

end WorkflowForge.Identity
