import WorkflowForge.Identity.Commits

/-! The steps of a call other than its commit, and specifications of programs.
A quiet step writes no row; a staging step adds uncommitted writes of the call that makes it.
-/

namespace WorkflowForge.Identity

open Python Transactions Concurrency

variable {services : Services} {flags : Flags} {world : World} {i : Nat}

-----------------------------------------------------------------------------------------
-- Quiet steps
-----------------------------------------------------------------------------------------

/-- Nothing but history, counters and draws differs. -/
structure Quiet (before after : World) : Prop where
  committed : after.committed = before.committed
  pending : after.store.pending = before.store.pending
  locks : after.store.locks = before.store.locks
  opened
    : ∀ j db, (before.store.history j).opened = some db
        → (after.store.history j).opened = some db
  ids : after.ids = before.ids
  tokens : after.tokens = before.tokens
  drawn : before.drawn <+: after.drawn
  generated : before.generated <+: after.generated
  mintedSessions : after.mintedSessions = before.mintedSessions
  mintedTokens : after.mintedTokens = before.mintedTokens

variable {before after : World}

theorem Quiet.own (quiet : Quiet before after) (j : Nat) : after.own j = before.own j := by
  simp only [World.own, Store.own, quiet.pending]

theorem Quiet.view (quiet : Quiet before after) (j : Nat)
    : after.store.view j = before.store.view j := by
  simp only [Store.view, Store.own, quiet.pending, quiet.committed]

/-- Draws and generated tokens stay with their calls. -/
theorem World.DrawnBy.mono (ids : after.ids = before.ids) (drawn : before.drawn <+: after.drawn)
    {j : Nat} {k : UUID} (known : before.DrawnBy j k)
    : after.DrawnBy j k := by
  obtain ⟨n, mine, same⟩ := known
  obtain ⟨rest, grown⟩ := drawn
  refine ⟨n, ?_, ids ▸ same⟩
  rw [← grown]
  exact (List.getElem?_append_left (List.getElem?_eq_some_iff.mp mine).1).trans mine

theorem World.GeneratedBy.mono (tokens : after.tokens = before.tokens)
    (generated : before.generated <+: after.generated) {j : Nat} {digest : RefreshTokenDigest}
    (known : before.GeneratedBy services j digest)
    : after.GeneratedBy services j digest := by
  obtain ⟨n, mine, same⟩ := known
  obtain ⟨rest, grown⟩ := generated
  refine ⟨n, ?_, by rw [World.digests, tokens]; exact same⟩
  rw [← grown]
  exact (List.getElem?_append_left (List.getElem?_eq_some_iff.mp mine).1).trans mine

theorem Quiet.keeps (quiet : Quiet before after) (j : Nat) : Keeps flags j before after := by
  have committed := quiet.committed
  have own := quiet.own j
  refine {
    own := own
    rows := fun t k _ => by rw [committed]
    locks := fun row lock => quiet.locks ▸ lock
    opened := quiet.opened j
    ids := quiet.ids
    tokens := quiet.tokens
    drawn := quiet.drawn
    generated := quiet.generated
    mintedSessions := fun _ member => quiet.mintedSessions ▸ member
    mintedTokens := fun _ member => quiet.mintedTokens ▸ member
    ownSessions := fun _ member => quiet.mintedSessions ▸ member
    ownTokens := fun _ member => quiet.mintedTokens ▸ member
    users := by rw [committed]
    pruned := ?_
    withheld := ?_
    dead := ?_
    untaken := ?_
    consumed := ?_
    sessions := ?_
    chased := ?_
  }
  · intro pruned
    refine {
      unputSessions := fun row => own ▸ pruned.unputSessions row
      unputTokens := fun row => own ▸ pruned.unputTokens row
      references := ?_
      parents := ?_
    }
    · rw [own, committed]
      exact pruned.references
    · rw [own, committed]
      exact pruned.parents
  · intro withheld
    simpa only [World.Withheld, committed, quiet.mintedTokens] using withheld
  · intro k dead
    refine { minted := quiet.mintedSessions ▸ dead.minted, committed := ?_, pending := ?_ }
    · rw [committed]
      exact dead.committed
    · intro j' row member
      rw [quiet.own j'] at member
      exact dead.pending j' row member
  · intro k untaken
    refine {
      drawn := untaken.drawn.mono quiet.ids quiet.drawn
      committed := by rw [committed]; exact untaken.committed
      pending := ?_
    }
    intro j' event member
    rw [quiet.own j'] at member
    exact untaken.pending j' event member
  · intro _ k token replacement found pointed
    rw [committed]
    exact ⟨token, found, .refl token, pointed⟩
  · intro _ k session found
    rw [committed]
    exact ⟨session, found, .refl session⟩
  · intro _ session rest chased
    refine { present := ?_, chased := ?_ }
    · rw [committed]
      exact chased.present
    · rw [committed, own]
      exact chased.chased

/-- The store discipline does not look at the history. -/
theorem Quiet.coherent (quiet : Quiet before after) (coherent : before.store.Coherent)
    : after.store.Coherent := by
  have committed : after.store.committed = before.store.committed := quiet.committed
  refine {
    keyed := committed ▸ coherent.keyed
    covered := ?_
    exclusive := ?_
    grounded := ?_
    unique := fun j => quiet.view j ▸ coherent.unique j
    apart := ?_
    settled := committed ▸ coherent.settled
  }
  · rw [quiet.pending, quiet.locks]
    exact coherent.covered
  · rw [quiet.locks]
    exact coherent.exclusive
  · rw [quiet.pending, quiet.locks, committed]
    exact coherent.grounded
  · rw [quiet.pending]
    exact coherent.apart

theorem Quiet.invariant (quiet : Quiet before after)
    (invariant : Invariant services flags before)
    : Invariant services flags after := by
  have committed := quiet.committed
  have ledger := invariant.ledger
  refine {
    coherent := quiet.coherent invariant.coherent
    untouched := fun j write member => invariant.untouched j write (quiet.own j ▸ member)
    lineage := committed ▸ invariant.lineage
    ledger := ?_
    homes := committed ▸ invariant.homes
    narrow := committed ▸ invariant.narrow
    newSessions := ?_
    events := ?_
    newEvents := ?_
    quenched := committed ▸ invariant.quenched
  }
  · refine {
      distinct := by rw [World.digests, quiet.tokens]; exact ledger.distinct
      oneSession := quiet.mintedSessions ▸ ledger.oneSession
      oneToken := quiet.mintedTokens ▸ ledger.oneToken
      drawnSession := ?_
      drawnToken := ?_
      generatedToken := ?_
      sessions := by rw [committed, quiet.mintedSessions]; exact ledger.sessions
      tokens := by rw [committed, quiet.mintedTokens]; exact ledger.tokens
    }
    · intro j session member
      exact (ledger.drawnSession j session (quiet.mintedSessions ▸ member)).mono quiet.ids
        quiet.drawn
    · intro j token member
      exact (ledger.drawnToken j token (quiet.mintedTokens ▸ member)).mono quiet.ids quiet.drawn
    · intro j token member
      exact (ledger.generatedToken j token (quiet.mintedTokens ▸ member)).mono quiet.tokens
        quiet.generated
  · intro j row member
    rw [quiet.own j] at member
    rw [committed]
    exact invariant.newSessions j row member
  · intro k visible
    rw [committed] at visible
    obtain ⟨j, drawn⟩ := invariant.events k visible
    exact ⟨j, drawn.mono quiet.ids quiet.drawn⟩
  · intro j event member
    rw [quiet.own j] at member
    obtain ⟨j', drawn⟩ := invariant.newEvents j event member
    exact ⟨j', drawn.mono quiet.ids quiet.drawn⟩

-----------------------------------------------------------------------------------------
-- Staging steps
-----------------------------------------------------------------------------------------

/-- Call `i` adds uncommitted writes. A session it puts is revoked, or was never inserted. -/
structure Stages (i : Nat) (before after : World) (writes : List (Write schema)) : Prop where
  effect : Store.Effect i before.store after.store
  committed : after.committed = before.committed
  own : after.own i = before.own i ++ writes
  ids : after.ids = before.ids
  tokens : after.tokens = before.tokens
  drawn : after.drawn = before.drawn
  generated : after.generated = before.generated
  mintedSessions : before.mintedSessions ⊆ after.mintedSessions
  mintedTokens : before.mintedTokens ⊆ after.mintedTokens
  newSessions
    : ∀ j row, (j, row) ∈ after.mintedSessions → (j, row) ∈ before.mintedSessions ∨ j = i
  newTokens : ∀ j row, (j, row) ∈ after.mintedTokens → (j, row) ∈ before.mintedTokens ∨ j = i
  revoked
    : ∀ row, putSession row ∈ writes
        → row.revokedAt.isSome ∨ ∀ j session, (j, session) ∈ before.mintedSessions
            → session.id ≠ row.id
  events
    : ∀ event, putEvent event ∈ writes
        → before.DrawnBy i event.id
          ∨ ((before.store.view i).find? .securityAuditEvents event.id).isSome

variable {writes : List (Write schema)}

theorem Stages.keeps (stages : Stages i before after writes) (coherent : before.store.Coherent)
    {j : Nat} (different : j ≠ i)
    : Keeps flags j before after := by
  have undisturbed := stages.effect.undisturbed coherent different
  have committed := stages.committed
  have own : after.own j = before.own j := undisturbed.own
  have mine {row} (member : (j, row) ∈ after.mintedTokens) : (j, row) ∈ before.mintedTokens :=
    (stages.newTokens j row member).resolve_right different
  refine {
    own := own
    rows := undisturbed.rows
    locks := fun row lock => (undisturbed.locks row).mpr lock
    opened := fun db found => undisturbed.history ▸ found
    ids := stages.ids
    tokens := stages.tokens
    drawn := stages.drawn ▸ List.prefix_refl _
    generated := stages.generated ▸ List.prefix_refl _
    mintedSessions := stages.mintedSessions
    mintedTokens := stages.mintedTokens
    ownSessions := fun row member => (stages.newSessions j row member).resolve_right different
    ownTokens := fun row member => mine member
    users := by rw [committed]
    pruned := ?_
    withheld := ?_
    dead := ?_
    untaken := ?_
    consumed := ?_
    sessions := ?_
    chased := ?_
  }
  · intro pruned
    refine {
      unputSessions := fun row => own ▸ pruned.unputSessions row
      unputTokens := fun row => own ▸ pruned.unputTokens row
      references := ?_
      parents := ?_
    }
    · rw [own, committed]
      exact pruned.references
    · rw [own, committed]
      exact pruned.parents
  · intro withheld token member
    rw [committed]
    exact withheld token (mine member)
  · intro k dead
    obtain ⟨j', session, member, same⟩ := dead.minted
    refine {
      minted := ⟨j', session, stages.mintedSessions member, same⟩
      committed := ?_
      pending := ?_
    }
    · rw [committed]
      exact dead.committed
    · intro j'' row put here
      by_cases writer : j'' = i
      · subst writer
        rw [stages.own, List.mem_append] at put
        rcases put with old | new
        · exact dead.pending j'' row old here
        · rcases stages.revoked row new with stamped | unborn
          · exact stamped
          · exact absurd (same.trans here.symm) (unborn j' session member)
      · have frame : after.own j'' = before.own j'' := (stages.effect.frame writer).1
        rw [frame] at put
        exact dead.pending j'' row put here
  · intro k untaken
    refine {
      drawn := untaken.drawn.mono stages.ids (stages.drawn ▸ List.prefix_refl _)
      committed := by rw [committed]; exact untaken.committed
      pending := ?_
    }
    intro j' event member same
    by_cases writer : j' = i
    · subst writer
      rw [stages.own, List.mem_append] at member
      rcases member with old | new
      · exact untaken.pending j' event old same
      · rcases stages.events event new with drawn | visible
        · rw [same] at drawn
          exact different (untaken.drawn.unique drawn)
        · obtain ⟨other, found⟩ := Option.isSome_iff_exists.mp visible
          rw [same] at found
          rcases before.store.find?_view_cases j' (t := TableName.securityAuditEvents) (k := k)
            with ⟨unchanged, _⟩ | ⟨_, puts⟩
          · rw [found] at unchanged
            have absent := untaken.committed
            rw [← unchanged] at absent
            contradiction
          · exact untaken.pending j' other (puts other found) (Db.find?_key found)
    · have frame : after.own j' = before.own j' := (stages.effect.frame writer).1
      rw [frame] at member
      exact untaken.pending j' event member same
  · intro _ k token replacement found pointed
    rw [committed]
    exact ⟨token, found, .refl token, pointed⟩
  · intro _ k session found
    rw [committed]
    exact ⟨session, found, .refl session⟩
  · intro _ session rest chased
    refine { present := ?_, chased := ?_ }
    · rw [committed]
      exact chased.present
    · rw [committed, own]
      exact chased.chased

theorem Stages.leaves (stages : Stages i before after writes)
    (coherent : before.store.Coherent) {j : Nat} (different : j ≠ i)
    : Leaves flags j before after :=
  ⟨stages.keeps coherent different, (stages.effect.undisturbed coherent different).history⟩

/-- Every audit event that a call sees has a drawn id. -/
theorem Invariant.visible_event (invariant : Invariant services flags world) {k : UUID}
    (visible : ((world.store.view i).find? .securityAuditEvents k).isSome)
    : ∃ j, world.DrawnBy j k := by
  rcases world.store.find?_view_cases i (t := TableName.securityAuditEvents) (k := k) with
    ⟨same, _⟩ | ⟨_, puts⟩
  · rw [same] at visible
    exact invariant.events k visible
  · obtain ⟨event, found⟩ := Option.isSome_iff_exists.mp visible
    obtain ⟨j, drawn⟩ := invariant.newEvents i event (puts event found)
    exact ⟨j, (show event.id = k from Db.find?_key found) ▸ drawn⟩

theorem Stages.invariant (stages : Stages i before after writes)
    (invariant : Invariant services flags before) (ledger : Ledger services after)
    (untouched : ∀ write ∈ writes, write.target.1 ≠ .users)
    (fresh
      : ∀ row, putSession row ∈ writes
          → row.revokedAt.isSome ∨ sessionAt before.committed row.id = none)
    : Invariant services flags after := by
  have committed := stages.committed
  have others {j} (other : j ≠ i) : after.own j = before.own j :=
    (stages.effect.frame other).1
  have mono {j k} (drawn : before.DrawnBy j k) : after.DrawnBy j k :=
    drawn.mono stages.ids (stages.drawn ▸ List.prefix_refl _)
  refine {
    coherent := stages.effect.coherent schema_symmetric invariant.coherent
    untouched := ?_
    lineage := committed ▸ invariant.lineage
    ledger := ledger
    homes := committed ▸ invariant.homes
    narrow := committed ▸ invariant.narrow
    newSessions := ?_
    events := ?_
    newEvents := ?_
    quenched := committed ▸ invariant.quenched
  }
  · intro j write member
    by_cases writer : j = i
    · subst writer
      rw [stages.own, List.mem_append] at member
      exact member.elim (invariant.untouched j write) (untouched write)
    · rw [others writer] at member
      exact invariant.untouched j write member
  · intro j row member
    rw [committed]
    by_cases writer : j = i
    · subst writer
      rw [stages.own, List.mem_append] at member
      exact member.elim (invariant.newSessions j row) (fresh row)
    · rw [others writer] at member
      exact invariant.newSessions j row member
  · intro k visible
    rw [committed] at visible
    obtain ⟨j, drawn⟩ := invariant.events k visible
    exact ⟨j, mono drawn⟩
  · intro j event member
    by_cases writer : j = i
    · subst writer
      rw [stages.own, List.mem_append] at member
      rcases member with old | new
      · obtain ⟨j', drawn⟩ := invariant.newEvents j event old
        exact ⟨j', mono drawn⟩
      · rcases stages.events event new with drawn | visible
        · exact ⟨j, mono drawn⟩
        · obtain ⟨j', drawn⟩ := invariant.visible_event visible
          exact ⟨j', mono drawn⟩
    · rw [others writer] at member
      obtain ⟨j', drawn⟩ := invariant.newEvents j event member
      exact ⟨j', mono drawn⟩

/-- A ledger is about the inserted and the committed rows. -/
theorem Ledger.same (ledger : Ledger services before)
    (committed : after.committed = before.committed) (ids : after.ids = before.ids)
    (tokens : after.tokens = before.tokens) (drawn : after.drawn = before.drawn)
    (generated : after.generated = before.generated)
    (mintedSessions : after.mintedSessions = before.mintedSessions)
    (mintedTokens : after.mintedTokens = before.mintedTokens)
    : Ledger services after where
  distinct := by rw [World.digests, tokens]; exact ledger.distinct
  oneSession := mintedSessions ▸ ledger.oneSession
  oneToken := mintedTokens ▸ ledger.oneToken
  drawnSession j session member :=
    (ledger.drawnSession j session (mintedSessions ▸ member)).mono ids
      (drawn ▸ List.prefix_refl _)
  drawnToken j token member :=
    (ledger.drawnToken j token (mintedTokens ▸ member)).mono ids (drawn ▸ List.prefix_refl _)
  generatedToken j token member :=
    (ledger.generatedToken j token (mintedTokens ▸ member)).mono tokens
      (generated ▸ List.prefix_refl _)
  sessions := by
    rw [committed, mintedSessions]
    exact ledger.sessions
  tokens := by
    rw [committed, mintedTokens]
    exact ledger.tokens

/-- The first session that a call inserts is noted under its id. -/
theorem Ledger.mintSession (ledger : Ledger services world) {session : AuthSession}
    (first : ∀ row, (i, row) ∉ world.mintedSessions) (drawn : world.DrawnBy i session.id)
    : Ledger services { world with mintedSessions := world.mintedSessions ++ [(i, session)] } := by
  refine { ledger with oneSession := ?_, drawnSession := ?_, sessions := ?_ }
  · intro j one two left right
    simp only [List.mem_append, List.mem_singleton, Prod.mk.injEq] at left right
    rcases left with old | ⟨rfl, rfl⟩
    · rcases right with old' | ⟨rfl, rfl⟩
      · exact ledger.oneSession j one two old old'
      · exact absurd old (first one)
    · rcases right with old' | ⟨_, rfl⟩
      · exact absurd old' (first two)
      · rfl
  · intro j row member
    simp only [List.mem_append, List.mem_singleton, Prod.mk.injEq] at member
    rcases member with old | ⟨rfl, rfl⟩
    · exact ledger.drawnSession j row old
    · exact drawn
  · intro k row found
    obtain ⟨j, minted, member, alike⟩ := ledger.sessions k row found
    exact ⟨j, minted, List.mem_append_left _ member, alike⟩

/-- The first refresh token that a call inserts is noted under its id and digest. -/
theorem Ledger.mintToken (ledger : Ledger services world) {token : RefreshTokenRecord}
    (first : ∀ row, (i, row) ∉ world.mintedTokens) (drawn : world.DrawnBy i token.id)
    (generated : world.GeneratedBy services i token.tokenDigest)
    : Ledger services { world with mintedTokens := world.mintedTokens ++ [(i, token)] } := by
  refine { ledger with oneToken := ?_, drawnToken := ?_, generatedToken := ?_, tokens := ?_ }
  · intro j one two left right
    simp only [List.mem_append, List.mem_singleton, Prod.mk.injEq] at left right
    rcases left with old | ⟨rfl, rfl⟩
    · rcases right with old' | ⟨rfl, rfl⟩
      · exact ledger.oneToken j one two old old'
      · exact absurd old (first one)
    · rcases right with old' | ⟨_, rfl⟩
      · exact absurd old' (first two)
      · rfl
  · intro j row member
    simp only [List.mem_append, List.mem_singleton, Prod.mk.injEq] at member
    rcases member with old | ⟨rfl, rfl⟩
    · exact ledger.drawnToken j row old
    · exact drawn
  · intro j row member
    simp only [List.mem_append, List.mem_singleton, Prod.mk.injEq] at member
    rcases member with old | ⟨rfl, rfl⟩
    · exact ledger.generatedToken j row old
    · exact generated
  · intro k row found
    obtain ⟨j, minted, member, alike⟩ := ledger.tokens k row found
    exact ⟨j, minted, List.mem_append_left _ member, alike⟩

-----------------------------------------------------------------------------------------
-- Rollback
-----------------------------------------------------------------------------------------

/-- The state after call `i` drops its writes. -/
def World.retract (world : World) (i : Nat) : World :=
  { world with store := world.store.release i }

theorem exec_rollback (i : Nat) (world : World)
    : exec i .rollback world = some ((), world.retract i) :=
  rfl

theorem World.retract_effect (coherent : world.store.Coherent)
    : Store.Effect i world.store (world.retract i).store := by
  have ran : Store.exec i .rollback world.store = some ((), (world.retract i).store) := rfl
  exact Store.exec_effect coherent ran

theorem World.retract_member {j : Nat} {write : Write schema}
    (member : write ∈ (world.retract i).own j)
    : write ∈ world.own j := by
  have entry := Store.mem_own.mp member
  exact Store.mem_own.mpr (Store.mem_release_pending.mp entry).1

theorem World.retract_keeps (coherent : world.store.Coherent) {j : Nat} (different : j ≠ i)
    : Keeps flags j world (world.retract i) := by
  have undisturbed := (World.retract_effect (i := i) coherent).undisturbed coherent different
  have own : (world.retract i).own j = world.own j := undisturbed.own
  refine {
    own := own
    rows := undisturbed.rows
    locks := fun row lock => (undisturbed.locks row).mpr lock
    opened := fun db found => undisturbed.history ▸ found
    ids := rfl
    tokens := rfl
    drawn := List.prefix_refl _
    generated := List.prefix_refl _
    mintedSessions := fun _ member => member
    mintedTokens := fun _ member => member
    ownSessions := fun _ member => member
    ownTokens := fun _ member => member
    users := rfl
    pruned := ?_
    withheld := id
    dead := ?_
    untaken := ?_
    consumed := fun _ _ token _ found pointed => ⟨token, found, .refl token, pointed⟩
    sessions := fun _ _ session found => ⟨session, found, .refl session⟩
    chased := ?_
  }
  · intro pruned
    exact {
      unputSessions := fun row => own ▸ pruned.unputSessions row
      unputTokens := fun row => own ▸ pruned.unputTokens row
      references := own ▸ pruned.references
      parents := own ▸ pruned.parents
    }
  · intro k dead
    exact {
      minted := dead.minted
      committed := dead.committed
      pending := fun j' row member => dead.pending j' row (World.retract_member member)
    }
  · intro k untaken
    exact {
      drawn := untaken.drawn
      committed := untaken.committed
      pending := fun j' event member => untaken.pending j' event (World.retract_member member)
    }
  · intro _ session rest chased
    exact { present := chased.present, chased := own ▸ chased.chased }

theorem World.retract_invariant (invariant : Invariant services flags world)
    : Invariant services flags (world.retract i) where
  coherent :=
    (World.retract_effect invariant.coherent).coherent schema_symmetric invariant.coherent
  untouched j write member := invariant.untouched j write (World.retract_member member)
  lineage := invariant.lineage
  ledger := { invariant.ledger with }
  homes := invariant.homes
  narrow := invariant.narrow
  newSessions j row member := invariant.newSessions j row (World.retract_member member)
  events := invariant.events
  newEvents j event member := invariant.newEvents j event (World.retract_member member)
  quenched := invariant.quenched

end WorkflowForge.Identity
