import WorkflowForge.Uploads.TemporaryObjects

/-! When an upload deletes its temporary object.
Until its second commit an upload deletes the object whatever fails. From then on it deletes
the object only on the ways through the duplicate and through the promotion, so the object
stays behind when anything before them fails.
-/

namespace WorkflowForge

open Python Transactions Concurrency

-----------------------------------------------------------------------------------------
-- The condition
-----------------------------------------------------------------------------------------

/-- A call of `delete_object`, and of the client behind it, succeeds. -/
def deletesObject (op : Op) (world : World) : Bool :=
  match op with
  | .enter port => port != .deleteObject || !world.refuses port
  | .deleteObject _ => world.outcomes world.clientCalls == .ok
  | _ => true

/-- The session has its temporary object, and its second transaction is committed. -/
def World.storedTemporary (world : World) (organizationId : UUID) (i : Nat) : Bool :=
  2 ≤ (world.store.history i).log.length && !(world.temporaries organizationId i).isEmpty

/-- The session drew ids after the one of its temporary object: those of its document. -/
def World.drafted (world : World) (organizationId : UUID) (i : Nat) : Bool :=
  (world.temporaries organizationId i).any (fun entry =>
    (world.drawings i).any (fun n => entry.1 < n))

/-- The operation does not fail a staged upload: no port raises, the final key is free or
has an object of the same size, the copy succeeds, and after its document was refused the
lookup finds the content. -/
def proceeds (organizationId : UUID) (i : Nat) (op : Op) (world : World) : Bool :=
  match op with
  | .enter port => !world.refuses port
  | .headObject key =>
      match world.outcomes world.clientCalls, world.object? key with
      | .ok, some existing =>
          (world.temporaries organizationId i).all (fun entry =>
            existing.body.length == entry.2.body.length)
      | .ok, none => true
      | .fails _ missing, _ => missing
  | .copyObject _ _ _ => world.outcomes world.clientCalls == .ok
  | .sql (.select (.documentByContentHash owner hash)) =>
      !world.drafted organizationId i
      || !(documentsByContentHash (world.store.view i) owner hash).isEmpty
  | _ => true

/-- Deletions succeed, and a staged upload is not failed. -/
structure Cleans (organizationId : UUID) (i : Nat) (op : Op) (world : World) : Prop where
  deletes : deletesObject op world = true
  proceeds
    : world.storedTemporary organizationId i = true
      → proceeds organizationId i op world = true

-----------------------------------------------------------------------------------------
-- What quiet steps keep
-----------------------------------------------------------------------------------------

variable {u : Unicode} {organizationId : UUID} {i : Nat}

/-- A step of another session, or an own step that writes no temporary object. -/
structure Quiet (organizationId : UUID) (i : Nat) (before after : World) : Prop where
  ids : after.ids = before.ids
  drawn : before.drawn <+: after.drawn
  log : (before.store.history i).log <+: (after.store.history i).log
  temporaries
    : ∀ entry,
        entry ∈ after.temporaries organizationId i ↔ entry ∈ before.temporaries organizationId i

theorem Apart.quiet {before after : World} (apart : Apart i before after)
    : Quiet organizationId i before after where
  ids := apart.ids
  drawn := apart.drawn
  log := by rw [apart.history]
  temporaries := by
    intro entry
    rw [World.mem_temporaries, World.mem_temporaries, World.temporaryKey_of_ids apart.ids]
    constructor
    · rintro ⟨drawn, present⟩
      have mine := apart.mine _ drawn
      exact ⟨mine, (apart.objects _ _ mine).symm.trans present⟩
    · rintro ⟨drawn, present⟩
      exact ⟨getElem?_of_extends apart.drawn drawn, (apart.objects _ _ drawn).trans present⟩

theorem exec_history {op : Op} {now after : World} {answer : op.Answer}
    (coherent : now.store.Coherent) (ran : exec i op now = some (answer, after))
    : (now.store.history i).log <+: (after.store.history i).log := by
  by_cases sql : ∃ statement, op = .sql statement
  · obtain ⟨statement, rfl⟩ := sql
    exact Store.exec_log coherent (exec_sql ran).1
  · rw [(exec_outside ran (fun statement same => sql ⟨statement, same⟩)).1.store]

/-- An own step that writes no temporary object; ids that it draws have none. -/
theorem World.Unclaimed.quiet {op : Op} {now after : World} {answer : op.Answer}
    (unclaimed : now.Unclaimed) (coherent : now.store.Coherent)
    (away : ∀ key, op.Touches key → ∀ n, key ≠ now.temporaryKey organizationId n)
    (ran : exec i op now = some (answer, after))
    : Quiet organizationId i now after := by
  obtain ⟨ids, more, objects⟩ := exec_leaves ran
  refine ⟨ids, more, exec_history coherent ran, fun entry => ?_⟩
  rw [World.mem_temporaries, World.mem_temporaries, World.temporaryKey_of_ids ids,
    objects _ (fun touches => away _ touches entry.1 rfl)]
  refine and_congr_left fun present => ⟨fun drawn => ?_, getElem?_of_extends more⟩
  by_cases old : entry.1 < now.drawn.length
  · obtain ⟨rest, same⟩ := more
    rwa [← same, List.getElem?_append_left old] at drawn
  · rw [unclaimed organizationId entry.1 (Nat.not_lt.mp old)] at present
    cases present

theorem World.Unclaimed.quiet_plain {op : Op} {now after : World} {answer : op.Answer}
    (unclaimed : now.Unclaimed) (coherent : now.store.Coherent)
    (ran : exec i op now = some (answer, after)) (plain : ∀ key, ¬ op.Touches key)
    : Quiet organizationId i now after :=
  unclaimed.quiet coherent (fun key touches => absurd touches (plain key)) ran

/-- Knowledge that quiet steps do not destroy. -/
def Retained (organizationId : UUID) (i : Nat) (known : World → Prop) : Prop :=
  ∀ before after, Quiet organizationId i before after → known before → known after

theorem Retained.and {first second : World → Prop} (left : Retained organizationId i first)
    (right : Retained organizationId i second)
    : Retained organizationId i (fun world => first world ∧ second world) :=
  fun before after quiet known =>
    ⟨left before after quiet known.1, right before after quiet known.2⟩

/-- The session has no temporary object. -/
def Swept (organizationId : UUID) (i : Nat) (world : World) : Prop :=
  ∀ entry, entry ∉ world.temporaries organizationId i

/-- The upload's id was drawn at this position, and no other temporary object is there. -/
structure Loose (organizationId : UUID) (i n : Nat) (uploadId : UUID) (world : World) : Prop
    where
  drawn : world.drawn[n]? = some i
  id : world.ids.get n = uploadId
  only : ∀ entry ∈ world.temporaries organizationId i, entry.1 = n

/-- The upload has its temporary object. -/
structure Carries (organizationId : UUID) (i n : Nat) (uploadId : UUID)
    (object : StoredObject) (world : World)
    : Prop extends Loose organizationId i n uploadId world where
  present : (n, object) ∈ world.temporaries organizationId i

/-- The session has committed at least this often. -/
def CommittedTimes (i count : Nat) (world : World) : Prop :=
  count ≤ (world.store.history i).log.length

/-- The session drew an id after this position. -/
def DrewAfter (i n : Nat) (world : World) : Prop :=
  ∃ m, n < m ∧ world.drawn[m]? = some i

theorem Swept.kept : Retained organizationId i (Swept organizationId i) :=
  fun _ _ quiet swept entry member => swept entry ((quiet.temporaries entry).mp member)

theorem Loose.kept {n : Nat} {uploadId : UUID}
    : Retained organizationId i (Loose organizationId i n uploadId) :=
  fun _ _ quiet loose => {
    drawn := getElem?_of_extends quiet.drawn loose.drawn
    id := by rw [quiet.ids, loose.id]
    only := fun entry member => loose.only entry ((quiet.temporaries entry).mp member)
  }

theorem Carries.kept {n : Nat} {uploadId : UUID} {object : StoredObject}
    : Retained organizationId i (Carries organizationId i n uploadId object) :=
  fun before after quiet carries => {
    toLoose := Loose.kept before after quiet carries.toLoose
    present := (quiet.temporaries _).mpr carries.present
  }

theorem CommittedTimes.kept {count : Nat} : Retained organizationId i (CommittedTimes i count) :=
  fun _ _ quiet known => Nat.le_trans known quiet.log.length_le

theorem DrewAfter.kept {n : Nat} : Retained organizationId i (DrewAfter i n) :=
  fun _ _ quiet ⟨m, later, drawn⟩ => ⟨m, later, getElem?_of_extends quiet.drawn drawn⟩

theorem Retained.const (fact : Prop) : Retained organizationId i (fun _ => fact) :=
  fun _ _ _ holds => holds

/-- A swept session with its upload's id is loose. -/
theorem Swept.loose {world : World} (swept : Swept organizationId i world) {n : Nat}
    {uploadId : UUID} (drawn : world.drawn[n]? = some i) (id : world.ids.get n = uploadId)
    : Loose organizationId i n uploadId world :=
  ⟨drawn, id, fun entry member => absurd member (swept entry)⟩

-----------------------------------------------------------------------------------------
-- One session on its own account
-----------------------------------------------------------------------------------------

/-- How the session of an upload is verified: the others stay apart, and each of its
operations is clean and made in a sound state. It owes the others nothing. -/
def cleaning (u : Unicode) (organizationId : UUID) : Discipline Op World where
  inv _ := True
  rely := Apart
  guar _ _ _ := True
  admits i op world :=
    Cleans organizationId i op world
    ∧ world.store.Coherent
    ∧ Consistent u world.store.committed
    ∧ world.Unclaimed

theorem cleaning_ordered (u : Unicode) (organizationId : UUID)
    : (cleaning u organizationId).Ordered where
  refl := Apart.refl
  trans _ _ _ _ := Apart.trans

theorem Retained.stable {known : World → Prop} (kept : Retained organizationId i known)
    : (cleaning u organizationId).Stable i known :=
  fun before now _ _ apart holds => kept before now (Apart.quiet apart) holds

/-- Triples of the session. -/
abbrev Cleaning (u : Unicode) (organizationId : UUID) (i : Nat) {α : Type}
    (before : World → Prop) (program : App α) (value : α → World → Prop)
    (raised : Exn → World → Prop)
    : Prop :=
  Triple exec (cleaning u organizationId) i before program (returns value raised)

variable {α β : Type}

namespace Cleaning

/-- A program that leaves the objects alone. By induction on the program. -/
theorem frame {known : World → Prop} (kept : Retained organizationId i known) {program : App α}
    (untouching : Untouching program)
    : Cleaning u organizationId i known program (fun _ => known) (fun _ => known) := by
  intro state _ holds
  induction program generalizing state with
  | done result =>
      intro now _ apart
      cases result <;> exact kept _ _ (Apart.quiet apart) holds
  | call op next ih =>
      intro now _ apart admitted answer after ran
      have here := kept _ _ (Apart.quiet apart) holds
      have quiet : Quiet organizationId i now after :=
        admitted.2.2.2.quiet_plain admitted.2.1 ran untouching.1
      exact ⟨trivial, trivial, ih answer (untouching.2 answer trivial) _ trivial
        (kept _ _ quiet here)⟩

theorem andThen {before : World → Prop} {middle : α → World → Prop}
    {value : β → World → Prop} {raised : Exn → World → Prop} {program : App α}
    {next : α → App β} (first : Cleaning u organizationId i before program middle raised)
    (second : ∀ result, Cleaning u organizationId i (middle result) (next result) value raised)
    : Cleaning u organizationId i before (program >>= next) value raised :=
  Triple.bind (cleaning_ordered u organizationId) first second (fun _ _ _ failed => failed)

theorem tryCatch {before : World → Prop} {value : α → World → Prop}
    {raised failed : Exn → World → Prop} {program : App α} {handler : Exn → App α}
    (body : Cleaning u organizationId i before program value raised)
    (handled
      : ∀ failure, Cleaning u organizationId i (raised failure) (handler failure) value failed)
    : Cleaning u organizationId i before (MonadExcept.tryCatch program handler) value failed :=
  Triple.tryCatch (cleaning_ordered u organizationId) body handled (fun _ _ _ holds => holds)

theorem mono {before stronger : World → Prop} {value weaker : α → World → Prop}
    {raised failed : Exn → World → Prop} {program : App α}
    (triple : Cleaning u organizationId i before program value raised)
    (pre : ∀ world, stronger world → before world)
    (post : ∀ result world, value result world → weaker result world)
    (fails : ∀ failure world, raised failure world → failed failure world)
    : Cleaning u organizationId i stronger program weaker failed := by
  refine Triple.consequence triple (fun world _ => pre world) ?_
  intro result world _ reached
  cases result with
  | ok value => exact post value world reached
  | error failure => exact fails failure world reached

/-- Sequencing after a program that does not raise. -/
theorem andNext {before : World → Prop} {middle : α → World → Prop}
    {value : β → World → Prop} {raised : Exn → World → Prop} {program : App α}
    {next : α → App β}
    (first : Cleaning u organizationId i before program middle (fun _ _ => False))
    (second : ∀ result, Cleaning u organizationId i (middle result) (next result) value raised)
    : Cleaning u organizationId i before (program >>= next) value raised :=
  andThen (first.mono (fun _ holds => holds) (fun _ _ holds => holds)
    (fun _ _ never => never.elim)) second

theorem pure {known : World → Prop} (kept : Retained organizationId i known) {value : α}
    {after : α → World → Prop} {raised : Exn → World → Prop}
    (holds : ∀ world, known world → after value world)
    : Cleaning u organizationId i known (Pure.pure value) after raised :=
  Triple.done kept.stable (fun world _ => holds world)

theorem throw {known : World → Prop} (kept : Retained organizationId i known) {failure : Exn}
    {after : α → World → Prop} {raised : Exn → World → Prop}
    (holds : ∀ world, known world → raised failure world)
    : Cleaning u organizationId i known (MonadExcept.throw failure) after raised :=
  Triple.done kept.stable (fun world _ => holds world)

/-- A pure computation that succeeds. -/
theorem lift {known : World → Prop} (kept : Retained organizationId i known)
    {result : Except Exn α} {value : α} (succeeds : result = .ok value)
    {after : α → World → Prop} {raised : Exn → World → Prop}
    (holds : ∀ world, known world → after value world)
    : Cleaning u organizationId i known (liftExcept result) after raised := by
  subst succeeds
  exact Triple.done kept.stable (fun world _ => holds world)

end Cleaning

end WorkflowForge
