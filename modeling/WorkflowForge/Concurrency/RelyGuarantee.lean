import WorkflowForge.Concurrency.Interleaving

/-! Rely-guarantee reasoning for programs over a shared state.
A thread is verified alone: between any two of its operations the others may do whatever
its rely allows, and each of its own operations must keep the invariant and its guarantee.
-/

namespace Concurrency

variable {Op : Type} {Res : Op → Type} {ε α β σ C : Type}

/-- What thread `i` may assume and what it promises.
`admits` is a side condition on the operations of the runs that are considered.
-/
structure Discipline (Op : Type) (σ : Type) where
  inv : σ → Prop
  rely : Nat → σ → σ → Prop
  guar : Nat → σ → σ → Prop
  admits : Nat → Op → σ → Prop

/-- `Safe exec d i post program state`: from `state`, every run of `program` as thread `i`
among threads that respect its rely keeps the discipline and ends in `post`.
-/
def Safe (exec : Environment Op Res σ) (d : Discipline Op σ) (i : Nat)
    (post : Except ε α → σ → Prop)
    : Program Op Res ε α → σ → Prop
  | .done result, state => ∀ now, d.inv now → d.rely i state now → post result now
  | .call op next, state =>
      ∀ now,
        d.inv now
        → d.rely i state now
        → d.admits i op now
        → ∀ answer after,
            exec i op now = some (answer, after)
            → d.inv after ∧ d.guar i now after ∧ Safe exec d i post (next answer) after

/-- The rely conditions are preorders. -/
structure Discipline.Ordered (d : Discipline Op σ) : Prop where
  refl : ∀ i state, d.rely i state state
  trans
    : ∀ i first second third,
        d.rely i first second → d.rely i second third → d.rely i first third

/-- The rely conditions are preorders and every guarantee is part of the others' rely. -/
structure Discipline.Coherent (d : Discipline Op σ) : Prop extends d.Ordered where
  compatible
    : ∀ i j, i ≠ j → ∀ before after, d.guar j before after → d.rely i before after

section Rules

variable {exec : Environment Op Res σ} {d : Discipline Op σ} {i : Nat}

/-- Safety may be established after the interference that precedes the next operation. -/
theorem Safe.of_rely (ordered : d.Ordered) {post : Except ε α → σ → Prop}
    {program : Program Op Res ε α} {state : σ}
    (later : ∀ now, d.inv now → d.rely i state now → Safe exec d i post program now)
    : Safe exec d i post program state := by
  cases program with
  | done result =>
      intro now invariant interference
      exact later now invariant interference now invariant (ordered.refl i now)
  | call op next =>
      intro now invariant interference
      exact later now invariant interference now invariant (ordered.refl i now)

/-- Safety survives interference, by transitivity of the rely. -/
theorem Safe.stable (ordered : d.Ordered) {post : Except ε α → σ → Prop}
    {program : Program Op Res ε α} {state now : σ} (safe : Safe exec d i post program state)
    (interference : d.rely i state now)
    : Safe exec d i post program now := by
  cases program with
  | done result =>
      intro later invariant more
      exact safe later invariant (ordered.trans i _ _ _ interference more)
  | call op next =>
      intro later invariant more
      exact safe later invariant (ordered.trans i _ _ _ interference more)

/-- The postcondition may be weakened under the invariant, by induction on the program. -/
theorem Safe.mono {post weaker : Except ε α → σ → Prop} {program : Program Op Res ε α}
    {state : σ} (safe : Safe exec d i post program state)
    (implies : ∀ result now, d.inv now → post result now → weaker result now)
    : Safe exec d i weaker program state := by
  induction program generalizing state with
  | done result =>
      intro now invariant interference
      exact implies result now invariant (safe now invariant interference)
  | call op next ih =>
      intro now invariant interference admitted answer after answered
      obtain ⟨kept, promised, rest⟩ :=
        safe now invariant interference admitted answer after answered
      exact ⟨kept, promised, ih answer rest⟩

/-- Two postconditions may be established one by one, by induction on the program. -/
theorem Safe.and {first second : Except ε α → σ → Prop} {program : Program Op Res ε α}
    {state : σ} (left : Safe exec d i first program state)
    (right : Safe exec d i second program state)
    : Safe exec d i (fun result now => first result now ∧ second result now) program state := by
  induction program generalizing state with
  | done result =>
      intro now invariant interference
      exact ⟨left now invariant interference, right now invariant interference⟩
  | call op next ih =>
      intro now invariant interference admitted answer after answered
      obtain ⟨kept, promised, rest⟩ :=
        left now invariant interference admitted answer after answered
      obtain ⟨-, -, rest'⟩ := right now invariant interference admitted answer after answered
      exact ⟨kept, promised, ih answer rest rest'⟩

/-- Sequencing: the first program ends where the second one is safe.
Witness: induction on the first program; an exception skips the second.
-/
theorem Safe.bind (ordered : d.Ordered) {post : Except ε β → σ → Prop}
    {program : Program Op Res ε α} {next : α → Program Op Res ε β} {state : σ}
    (safe
      : Safe exec d i
          (fun result now =>
            match result with
            | .ok value => Safe exec d i post (next value) now
            | .error failure => post (.error failure) now)
          program state)
    : Safe exec d i post (program >>= next) state := by
  induction program generalizing state with
  | done result =>
      cases result with
      | ok value => exact Safe.of_rely ordered safe
      | error failure => exact safe
  | call op rest ih =>
      intro now invariant interference admitted answer after answered
      obtain ⟨kept, promised, more⟩ :=
        safe now invariant interference admitted answer after answered
      exact ⟨kept, promised, ih answer more⟩

/-- Handling: an exception of the body ends where the handler is safe. -/
theorem Safe.tryCatch (ordered : d.Ordered) {post : Except ε α → σ → Prop}
    {program : Program Op Res ε α} {handler : ε → Program Op Res ε α} {state : σ}
    (safe
      : Safe exec d i
          (fun result now =>
            match result with
            | .ok value => post (.ok value) now
            | .error failure => Safe exec d i post (handler failure) now)
          program state)
    : Safe exec d i post (MonadExcept.tryCatch program handler) state := by
  induction program generalizing state with
  | done result =>
      cases result with
      | ok value => exact safe
      | error failure => exact Safe.of_rely ordered safe
  | call op rest ih =>
      intro now invariant interference admitted answer after answered
      obtain ⟨kept, promised, more⟩ :=
        safe now invariant interference admitted answer after answered
      exact ⟨kept, promised, ih answer more⟩

/-- Where nothing is promised and nothing is asked, by induction on the program. -/
theorem Safe.unconstrained {post : Except ε α → σ → Prop} (invs : ∀ state, d.inv state)
    (promises : ∀ before after, d.guar i before after) (always : ∀ result state, post result state)
    (program : Program Op Res ε α) (state : σ)
    : Safe exec d i post program state := by
  induction program generalizing state with
  | done result => exact fun now _ _ => always result now
  | call op next ih =>
      intro now _ _ _ answer after _
      exact ⟨invs after, promises now after, ih answer after⟩

end Rules

-----------------------------------------------------------------------------------------
-- Soundness for interleaved runs
-----------------------------------------------------------------------------------------

/-- The invariant of interleaved runs: the shared invariant holds, every started call is
safe from here on, and the environment has not seen the identities still to come.
-/
structure Sound (exec : Environment Op Res σ) (d : Discipline Op σ)
    (fresh : Nat → σ → Prop) (post : Nat → C → Except ε α → σ → Prop)
    (config : Config Op Res ε α σ C)
    : Prop where
  inv : d.inv config.shared
  safe
    : ∀ i thread,
        config.threads[i]? = some thread
        → Safe exec d i (post i thread.origin) thread.program config.shared
  unseen : ∀ i, config.threads.length ≤ i → fresh i config.shared

/-- Each step of the system preserves soundness.
Witness: the acting thread keeps its guarantee, which every other thread relies on.
-/
theorem Sound.step {exec : Environment Op Res σ} {d : Discipline Op σ}
    {fresh : Nat → σ → Prop} {post : Nat → C → Except ε α → σ → Prop}
    {body : C → Program Op Res ε α} {config after : Config Op Res ε α σ C}
    (coherent : d.Coherent)
    (stays : ∀ i before now, fresh i before → d.rely i before now → fresh i now)
    (bodies
      : ∀ i origin state,
          d.inv state → fresh i state → Safe exec d i (post i origin) (body origin) state)
    (sound : Sound exec d fresh post config)
    (step : Step exec body d.admits config after)
    : Sound exec d fresh post after := by
  cases step with
  | start origin =>
      refine ⟨sound.inv, ?_, ?_⟩
      · intro i thread found
        rcases Nat.lt_trichotomy i config.threads.length with earlier | same | later
        · rw [List.getElem?_append_left earlier] at found
          exact sound.safe i thread found
        · subst same
          simp only [List.getElem?_concat_length, Option.some.injEq] at found
          subst found
          exact bodies _ origin _ sound.inv (sound.unseen _ (Nat.le_refl _))
        · have none : (config.threads ++ [⟨origin, body origin⟩])[i]? = none := by
            apply List.getElem?_eq_none
            simp only [List.length_append, List.length_singleton]
            omega
          simp [none] at found
      · intro i bound
        simp only [List.length_append, List.length_singleton] at bound
        exact sound.unseen i (by omega)
  | @act j origin op next answer shared active admitted answered =>
      obtain ⟨kept, promised, rest⟩ :=
        sound.safe j _ active _ sound.inv (coherent.refl j _) admitted answer shared answered
      have inside : j < config.threads.length := (List.getElem?_eq_some_iff.mp active).1
      refine ⟨kept, ?_, ?_⟩
      · intro i thread found
        by_cases same : i = j
        · subst same
          simp only [List.getElem?_set_self inside, Option.some.injEq] at found
          subst found
          exact rest
        · rw [List.getElem?_set_ne (Ne.symm same)] at found
          exact (sound.safe i thread found).stable coherent.toOrdered
            (coherent.compatible i j same _ _ promised)
      · intro i bound
        simp only [List.length_set] at bound
        exact stays i _ _ (sound.unseen i bound)
          (coherent.compatible i j (by omega) _ _ promised)

/-- Soundness holds in every configuration of every run, by induction on the run. -/
theorem Sound.reaches {exec : Environment Op Res σ} {d : Discipline Op σ}
    {fresh : Nat → σ → Prop} {post : Nat → C → Except ε α → σ → Prop}
    {body : C → Program Op Res ε α} {config after : Config Op Res ε α σ C}
    (coherent : d.Coherent)
    (stays : ∀ i before now, fresh i before → d.rely i before now → fresh i now)
    (bodies
      : ∀ i origin state,
          d.inv state → fresh i state → Safe exec d i (post i origin) (body origin) state)
    (sound : Sound exec d fresh post config)
    (run : Reaches exec body d.admits config after)
    : Sound exec d fresh post after := by
  induction run with
  | refl => exact sound
  | tail _ step ih => exact ih.step coherent stays bodies step

/-- What every guarantee gives relates the shared states along a run.
Witness: induction on the run; starting a call leaves the shared state alone.
-/
theorem Sound.relates {exec : Environment Op Res σ} {d : Discipline Op σ}
    {fresh : Nat → σ → Prop} {post : Nat → C → Except ε α → σ → Prop}
    {body : C → Program Op Res ε α} {config after : Config Op Res ε α σ C}
    (coherent : d.Coherent)
    (stays : ∀ i before now, fresh i before → d.rely i before now → fresh i now)
    (bodies
      : ∀ i origin state,
          d.inv state → fresh i state → Safe exec d i (post i origin) (body origin) state)
    {relation : σ → σ → Prop} (refl : ∀ state, relation state state)
    (trans
      : ∀ first second third,
          relation first second → relation second third → relation first third)
    (guaranteed : ∀ i before now, d.guar i before now → relation before now)
    (sound : Sound exec d fresh post config)
    (run : Reaches exec body d.admits config after)
    : relation config.shared after.shared := by
  induction run with
  | refl => exact refl _
  | @tail middle last earlier step ih =>
      have here := sound.reaches coherent stays bodies earlier
      refine trans _ _ _ ih ?_
      cases step with
      | start origin => exact refl _
      | @act j origin op next answer shared active admitted answered =>
          obtain ⟨-, promised, -⟩ :=
            here.safe j _ active _ here.inv (coherent.refl j _) admitted answer shared answered
          exact guaranteed j _ _ promised

/-- A finished call of a sound configuration satisfies its postcondition. -/
theorem Sound.finished {exec : Environment Op Res σ} {d : Discipline Op σ}
    {fresh : Nat → σ → Prop} {post : Nat → C → Except ε α → σ → Prop}
    {config : Config Op Res ε α σ C} (coherent : d.Coherent)
    (sound : Sound exec d fresh post config) {i : Nat} {origin : C} {result : Except ε α}
    (found : config.threads[i]? = some ⟨origin, .done result⟩)
    : post i origin result config.shared :=
  sound.safe i _ found _ sound.inv (coherent.refl i _)

/-- The invariant holds wherever an operation of the run is made. -/
theorem Sound.admitted {exec : Environment Op Res σ} {d : Discipline Op σ}
    {fresh : Nat → σ → Prop} {post : Nat → C → Except ε α → σ → Prop}
    {body : C → Program Op Res ε α} {config after : Config Op Res ε α σ C}
    (coherent : d.Coherent)
    (stays : ∀ i before now, fresh i before → d.rely i before now → fresh i now)
    (bodies
      : ∀ i origin state,
          d.inv state → fresh i state → Safe exec d i (post i origin) (body origin) state)
    (sound : Sound exec d fresh post config)
    (run : Reaches exec body d.admits config after)
    : Reaches exec body (fun i op state => d.admits i op state ∧ d.inv state) config after := by
  induction run with
  | refl => exact .refl
  | tail earlier step ih =>
      have here := sound.reaches coherent stays bodies earlier
      cases step with
      | start origin => exact ih.tail (.start _ origin)
      | act active admitted answered =>
          exact ih.tail (.act active ⟨admitted, here.inv⟩ answered)

/-- What one thread achieves among threads that keep a discipline: `w` is how that thread
alone is verified, and its steps owe the others nothing.
Witness: induction on the run; the steps of the others are interference.
-/
theorem Sound.thread {exec : Environment Op Res σ} {d w : Discipline Op σ}
    {fresh : Nat → σ → Prop} {post : Nat → C → Except ε α → σ → Prop}
    {body : C → Program Op Res ε α} {config after : Config Op Res ε α σ C}
    (coherent : d.Coherent) (ordered : w.Ordered)
    (stays : ∀ i before now, fresh i before → d.rely i before now → fresh i now)
    (bodies
      : ∀ i origin state,
          d.inv state → fresh i state → Safe exec d i (post i origin) (body origin) state)
    (sound : Sound exec d fresh post config) {i : Nat}
    (invs : ∀ state, d.inv state → w.inv state)
    (relies : ∀ before now, d.rely i before now → w.rely i before now)
    (admitted : ∀ op state, d.inv state → d.admits i op state → w.admits i op state)
    {achieves : C → Except ε α → σ → Prop}
    (mine
      : ∀ origin state,
          d.inv state → fresh i state → Safe exec w i (achieves origin) (body origin) state)
    (unstarted : config.threads.length ≤ i) (run : Reaches exec body d.admits config after)
    {thread : Thread Op Res ε α C} (found : after.threads[i]? = some thread)
    : Safe exec w i (achieves thread.origin) thread.program after.shared := by
  induction run generalizing thread with
  | refl => exact absurd (List.getElem?_eq_some_iff.mp found).1 (Nat.not_lt.mpr unstarted)
  | tail earlier step ih =>
      have here := sound.reaches coherent stays bodies earlier
      cases step with
      | start origin =>
          rw [List.getElem?_append] at found
          split at found
          · exact ih found
          · rename_i later
            rw [List.getElem?_singleton] at found
            split at found
            · cases found
              exact mine origin _ here.inv (here.unseen i (by omega))
            · cases found
      | @act j origin op next answer shared active admits answered =>
          obtain ⟨kept, promised, -⟩ :=
            here.safe j _ active _ here.inv (coherent.refl j _) admits answer shared answered
          by_cases same : i = j
          · subst same
            have inside := (List.getElem?_eq_some_iff.mp active).1
            simp only [List.getElem?_set_self inside, Option.some.injEq] at found
            subst found
            exact (ih active _ (invs _ here.inv) (ordered.refl i _)
              (admitted op _ here.inv admits) answer shared answered).2.2
          · rw [List.getElem?_set_ne (Ne.symm same)] at found
            exact (ih found).stable ordered
              (relies _ _ (coherent.compatible i j same _ _ promised))

-----------------------------------------------------------------------------------------
-- Changing the discipline
-----------------------------------------------------------------------------------------

/-- A discipline that allows less interference and keeps its own invariant is enough.
Witness: induction on the program.
-/
theorem Safe.under {exec : Environment Op Res σ} {d stricter : Discipline Op σ} {i : Nat}
    {post : Except ε α → σ → Prop} {program : Program Op Res ε α} {state : σ}
    (invs : ∀ now, stricter.inv now → d.inv now)
    (relies : ∀ before now, stricter.rely i before now → d.rely i before now)
    (admitted : ∀ op now, stricter.admits i op now → d.admits i op now)
    (keeps
      : ∀ now after, stricter.inv now → d.inv after → d.guar i now after
          → stricter.inv after ∧ stricter.guar i now after)
    (safe : Safe exec d i post program state)
    : Safe exec stricter i post program state := by
  induction program generalizing state with
  | done result =>
      intro now invariant interference
      exact safe now (invs now invariant) (relies state now interference)
  | call op next ih =>
      intro now invariant interference admits answer after answered
      obtain ⟨sound, promised, rest⟩ := safe now (invs now invariant)
        (relies state now interference) (admitted op now admits) answer after answered
      obtain ⟨sound', promised'⟩ := keeps now after invariant sound promised
      exact ⟨sound', promised', ih answer rest⟩

/-- From a configuration on, the calls that start later may be held to another postcondition,
under a stricter discipline. -/
theorem Sound.later {exec : Environment Op Res σ} {d stricter : Discipline Op σ}
    {fresh : Nat → σ → Prop} {post : Nat → C → Except ε α → σ → Prop}
    {config : Config Op Res ε α σ C} (sound : Sound exec d fresh post config)
    (invs : ∀ now, stricter.inv now → d.inv now)
    (relies : ∀ i before now, stricter.rely i before now → d.rely i before now)
    (admitted : ∀ i op now, stricter.admits i op now → d.admits i op now)
    (keeps
      : ∀ i now after, stricter.inv now → d.inv after → d.guar i now after
          → stricter.inv after ∧ stricter.guar i now after)
    (invariant : stricter.inv config.shared)
    (required : Nat → C → Except ε α → σ → Prop)
    : Sound exec stricter fresh
        (fun i origin result now => config.threads.length ≤ i → required i origin result now)
        config where
  inv := invariant
  safe i thread found := by
    have started : i < config.threads.length := (List.getElem?_eq_some_iff.mp found).1
    have safe := (sound.safe i thread found).under invs (relies i) (admitted i) (keeps i)
    exact safe.mono (fun _ _ _ _ late => absurd started (Nat.not_lt.mpr late))
  unseen := sound.unseen

end Concurrency
