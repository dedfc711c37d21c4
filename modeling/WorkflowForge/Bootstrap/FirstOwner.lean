import WorkflowForge.Bootstrap.Runs
import WorkflowForge.Python.Ascii

/-! The first owner: concurrent bootstrap runs found the identity tables once, or not at all. -/

namespace WorkflowForge.Bootstrap

open Python Transactions Concurrency

/-- Empty identity tables, and nobody at work. -/
structure World.Initial (world : World) : Prop where
  identity : world.identity = .empty
  own : ∀ i, world.store.own i = []
  advisory : world.advisory = none
  drawn : world.drawn = []

abbrev BootstrapConfig :=
  Config Op Op.Answer AccountExn BootstrapOwnerResult World BootstrapOwnerCommand

/-- The primary keys of the rows. -/
def IdentityTables.keys (tables : IdentityTables) : List UUID :=
  tables.users.map UserRecord.id ++ tables.organizations.map OrganizationRecord.id
    ++ tables.memberships.map Membership.id ++ tables.credentials.map PasswordCredential.userId

/-- A row of the identity tables under an identifier of session `i`, or anything staged by it. -/
def World.HasRowOf (world : World) (i : Nat) : Prop :=
  (∃ id ∈ world.identity.keys, world.DrawnBy i id) ∨ world.store.own i ≠ []

section

/-- Nothing is known of the run yet. -/
structure Fresh (i : Nat) (world : World) : Prop where
  own : world.store.own i = []
  undrawn : ∀ id, ¬ world.DrawnBy i id

theorem Fresh.stays (i : Nat) (before now : World) (fresh : Fresh i before)
    (rely : Rely i before now)
    : Fresh i now where
  own := rely.own.trans fresh.own
  undrawn id drawn := fresh.undrawn id ((rely.drew id).mp drawn)

theorem Fresh.idle {i : Nat} {world : World} (fresh : Fresh i world) : Idle i world := by
  refine ⟨fresh.own, ?_⟩
  rintro ⟨founding, founded⟩
  exact fresh.undrawn _ founded.user

theorem World.Initial.fresh {world : World} (initial : world.Initial) (i : Nat)
    : Fresh i world := by
  refine { own := initial.own i, undrawn := ?_ }
  rintro id ⟨n, drawn, -⟩
  rw [initial.drawn] at drawn
  exact nomatch drawn

theorem World.Initial.invariant {world : World} (initial : world.Initial) : Invariant world where
  exclusive i := by
    refine .inl fun write member => ?_
    rw [initial.own i] at member
    cases member
  settled := .inl initial.identity

variable {services : Services} {world : World} {config : BootstrapConfig}

/-- Every run ends in its outcome, whatever the others do. -/
theorem runs_sound (initial : world.Initial)
    (run
      : Reaches exec (BootstrapOwnerCommand.run services) (fun _ _ _ => True) (.idle world)
          config)
    : Sound exec discipline Fresh (fun i _ => Outcome i) config := by
  refine Sound.reaches discipline_coherent Fresh.stays
    (fun i command state inv fresh => run_spec state inv fresh.idle) ?_ run
  exact {
    inv := initial.invariant
    safe := fun i thread found => nomatch found
    unseen := fun i _ => initial.fresh i }

theorem World.FoundedBy.keys {i : Nat} {founding : Founding} (founded : world.FoundedBy i founding)
    {id : UUID} (member : id ∈ world.identity.keys)
    : world.DrawnBy i id := by
  rw [founded.tables] at member
  have known : id = founding.user.id ∨ id = founding.organization.id
      ∨ id = founding.membership.id ∨ id = founding.credential.userId := by
    simpa [IdentityTables.keys, Founding.tables] using member
  rcases known with rfl | rfl | rfl | rfl
  · exact founded.user
  · exact founded.organization
  · exact founded.membership
  · rw [founding.credited]
    exact founded.user

/-- In every reachable state the identity tables are empty or hold the founding rows of one
run. At most one run succeeds, and its result names those rows. Of a run that has raised no
row of the identity tables is there, and nothing is left open. -/
theorem identity_founded_once (initial : world.Initial)
    (run
      : Reaches exec (BootstrapOwnerCommand.run services) (fun _ _ _ => True) (.idle world)
          config)
    : (config.shared.identity = .empty
        ∨ ∃ i founding, config.shared.FoundedBy i founding)
      ∧ (∀ i command result,
          config.ended i = some (command, .ok result) → Founds i result config.shared)
      ∧ (∀ i j command command' result result',
          config.ended i = some (command, .ok result)
          → config.ended j = some (command', .ok result')
          → i = j)
      ∧ ∀ i command failure,
          config.ended i = some (command, .error failure) → ¬ config.shared.HasRowOf i := by
  have sound := runs_sound initial run
  have outcome {i : Nat} {command : BootstrapOwnerCommand}
      {result : Except AccountExn BootstrapOwnerResult}
      (ended : config.ended i = some (command, result))
      : Outcome i result config.shared :=
    sound.finished discipline_coherent (Config.ended_eq_some.mp ended)
  have settled := sound.inv.settled
  refine ⟨settled, fun i command result ended => (outcome ended).reached, ?_, ?_⟩
  · intro i j command command' result result' first second
    obtain ⟨founding, founded, -⟩ : Founds i result config.shared := (outcome first).reached
    obtain ⟨founding', founded', -⟩ : Founds j result' config.shared := (outcome second).reached
    exact World.Founded.unique ⟨founding, founded⟩ ⟨founding', founded'⟩
  · intro i command failure ended
    have unfounded : Unfounded i config.shared := (outcome ended).reached
    rintro (⟨id, member, drawn⟩ | staged)
    · rcases settled with empty | ⟨j, founding, founded⟩
      · rw [empty] at member
        exact nomatch member
      · obtain rfl := drawn.unique (founded.keys member)
        exact unfounded ⟨founding, founded⟩
    · exact staged (outcome ended).own

end

-----------------------------------------------------------------------------------------
-- Two owners at once
-----------------------------------------------------------------------------------------

namespace Sample

def services : Services where
  unicode := asciiUnicode
  hashPassword password := .ok password

def world : World where
  store := { committed := fun _ => [] }
  advisory := none
  ids := {
    get := fun n => n + 1
    injective := fun _ _ same => Nat.succ.inj same
    ne_nil := fun n => Nat.succ_ne_zero n
  }
  drawn := []
  clock := { reading := fun n => n }
  ticks := 0
  raises _ _ := false
  entered := []
  duplicateNamed _ := false

/-- The first run has succeeded with these ids and the second was refused. -/
def settled (config : BootstrapConfig) : Bool :=
  match config.ended 0, config.ended 1 with
  | some (_, .ok result), some (_, .error _) => result == ⟨1, 2, 3⟩
  | _, _ => false

theorem world_initial : world.Initial where
  identity := rfl
  own _ := rfl
  advisory := rfl
  drawn := rfl

def command (name : String) : BootstrapOwnerCommand where
  email := (name ++ "@example.org").toList
  displayName := name.toList
  password := "correct horse battery".toList
  organizationName := name.toList
  organizationSlug := name.toList

def acts (i count : Nat) : List (Move BootstrapOwnerCommand) := List.replicate count (.act i)

/-- Two runs start; the second waits for the lock while the first founds. -/
def schedule : List (Move BootstrapOwnerCommand) :=
  [.start (command "first"), .start (command "second")] ++ acts 0 3 ++ acts 1 2 ++ acts 0 30
    ++ acts 1 11

end Sample

/-- The first of two concurrent runs succeeds, the second is refused. -/
theorem first_of_two_founded
    : ∃ config : BootstrapConfig,
        Reaches exec (BootstrapOwnerCommand.run Sample.services) (fun _ _ _ => True)
          (.idle Sample.world) config
        ∧ Founds 0 ⟨1, 2, 3⟩ config.shared
        ∧ ¬ config.shared.HasRowOf 1 := by
  have checked
      : (Config.follow exec (BootstrapOwnerCommand.run Sample.services) (fun _ _ _ => true)
            Sample.schedule (.idle Sample.world)).any Sample.settled = true := by
    decide +kernel
  obtain ⟨config, run, found⟩ := Config.reaches_of_check (fun _ _ _ _ => trivial) checked
  obtain ⟨-, named, -, cleared⟩ := identity_founded_once Sample.world_initial run
  refine ⟨config, run, ?_⟩
  unfold Sample.settled at found
  split at found
  · rename_i command result command' failure first second
    obtain rfl := beq_iff_eq.mp found
    exact ⟨named 0 command _ first, cleared 1 command' failure second⟩
  · cases found

end WorkflowForge.Bootstrap
