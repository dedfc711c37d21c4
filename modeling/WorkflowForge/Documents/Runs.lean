import WorkflowForge.Documents.UploadCalls
import WorkflowForge.Python.Ascii

/-! Interleaved runs of document calls from an empty store. -/

namespace WorkflowForge

open Python Transactions Concurrency

/-- Users and organizations exist, and nothing has happened yet. -/
structure World.Initial (world : World) : Prop where
  tables
    : ∀ t : TableName, t ≠ .users → t ≠ .organizations → world.store.committed t = []
  users : (world.store.committed .users).Nodup
  organizations : (world.store.committed .organizations).Nodup
  pending : world.store.pending = []
  locks : world.store.locks = []
  history : ∀ i, world.store.history i = {}

namespace World.Initial

variable {world : World} (initial : world.Initial)
include initial

theorem written_empty {t : TableName} (written : t.written = true)
    : world.store.committed t = [] := by
  apply initial.tables
  · rintro rfl
    cases written
  · rintro rfl
    cases written

theorem keyed : world.store.committed.Keyed := by
  intro t
  by_cases users : t = .users
  · subst users
    have same : (world.store.committed .users).map (schema.key .users)
        = world.store.committed .users := List.map_id _
    rw [same]
    exact initial.users
  · by_cases organizations : t = .organizations
    · subst organizations
      have same : (world.store.committed .organizations).map (schema.key .organizations)
          = world.store.committed .organizations := List.map_id _
      rw [same]
      exact initial.organizations
    · rw [initial.tables t users organizations]
      exact List.nodup_nil

theorem own (i : Nat) : world.store.own i = [] := by
  simp [Store.own, initial.pending]

theorem unique : world.store.committed.Unique := by
  intro t first second left _ _
  by_cases users : t = .users
  · subst users
    rfl
  · by_cases organizations : t = .organizations
    · subst organizations
      rfl
    · rw [initial.tables t users organizations] at left
      cases left

theorem coherent : world.store.Coherent where
  keyed := initial.keyed
  covered := by simp [initial.pending]
  exclusive := by simp [initial.locks]
  grounded := by simp [initial.locks]
  unique i := by
    rw [Store.view_of_own_nil (initial.own i)]
    exact initial.unique
  apart := by simp [initial.pending]
  settled := initial.unique

theorem consistent (u : Unicode) : Consistent u world.store.committed := by
  have documents := initial.written_empty (t := .documents) rfl
  have versions := initial.written_empty (t := .documentVersions) rfl
  have records := initial.written_empty (t := .uploadIdempotency) rfl
  refine {
    numbered := ?_
    current := ?_
    owned := ?_
    keys := ?_
    locks := ?_
    documents := ?_
    versions := ?_
    resolved := ?_
  }
  all_goals
    intro row member
    first
      | rw [documents] at member
        cases member
      | rw [versions] at member
        cases member
      | rw [records] at member
        cases member

/-- The empty store satisfies the invariant of every regime with its port failures. -/
theorem sane {regime : Regime} (u : Unicode) (raises : world.raises = regime.raises)
    : Sane u regime world where
  coherent := initial.coherent
  consistent := initial.consistent u
  committed_issued := by
    intro t k written found
    rw [Db.find?, initial.written_empty written] at found
    cases found
  pending_issued := by simp [initial.pending]
  raises := raises
  stored := by
    intro _ version member
    rw [initial.written_empty (t := .documentVersions) rfl] at member
    cases member
  backed := by
    intro _ record member
    rw [initial.written_empty (t := .uploadIdempotency) rfl] at member
    cases member

end World.Initial

-----------------------------------------------------------------------------------------
-- Sessions of calls
-----------------------------------------------------------------------------------------

/-- The session has not been used. -/
def Untouched (i : Nat) (world : World) : Prop :=
  world.store.own i = [] ∧ world.store.history i = {}

theorem Untouched.stays {strict : Prop} (i : Nat) (before now : World)
    (untouched : Untouched i before) (interference : Interference strict i before now)
    : Untouched i now :=
  ⟨interference.store.own.trans untouched.1, interference.store.history.trans untouched.2⟩

variable {u : Unicode} {regime : Regime} {i : Nat}

/-- A specification makes the call safe from every state with what it needs. -/
theorem Spec.safe {α : Type} {method : App α} {facts left : α → World → Prop}
    {needs shape failed : World → Prop}
    (spec : Spec u regime i needs shape method facts left failed)
    (lasting : Durable regime i needs) {world : World} (sane : Sane u regime world)
    (known : needs world) (holds : shape world)
    : Safe exec (sessions u regime) i
        (returns (fun result world => facts result world) (fun _ world => failed world))
        method world := by
  refine (spec needs lasting (fun _ given => given) world sane ⟨known, holds⟩).mono ?_
  intro result now _ reached
  cases result with
  | ok value => exact reached.1.2
  | error failure => exact reached.2

namespace DocumentCall

/-- What the committed states of the session say about a reply. -/
def Replied (regime : Regime) (i : Nat) : DocumentCall → DocumentReply → World → Prop
  | uploadDocument _ _ _, .upload result, world => Reported regime i result world
  | createVersion _ _ _, .version saved, world => Logged i (MakesCurrent saved) world
  | archiveDocument _ _ _ _, .document saved, world => Logged i (Saves regime i saved) world
  | archiveDocumentWithLock _ _ _, .document saved, world =>
      Logged i (Saves regime i saved) world
  | _, _, _ => True

theorem Replied.durable (call : DocumentCall) (reply : DocumentReply)
    : Durable regime i (call.Replied regime i reply) := by
  cases call <;> cases reply <;>
    first
      | exact Durable.const regime i True
      | exact Durable.logged _
      | exact Durable.reported _

/-- Every call keeps the discipline; versions can only be added without a byte behind them
when the regime is not strict. -/
theorem body_spec {services : Services} {needs : World → Prop} (call : DocumentCall)
    (lax : ¬ regime.strict)
    : Spec services.platform.unicode regime i needs (Clean i) (call.body services)
        (call.Replied regime i) (fun _ _ => True) (fun _ => True) := by
  refine request_spec (Replied.durable call) ?_
  cases call with
  | registerDocument command tenant now =>
      refine Spec.bind (fun _ => Durable.const regime i True)
        DocumentService.registerDocument_spec ?_
      exact fun _ => Spec.finished (fun _ _ => trivial)
  | uploadDocument command tenant now =>
      refine Spec.bind Durable.reported UploadDocument.upload_spec ?_
      exact fun _ => Spec.finished (fun _ known => known.2)
  | createVersion command tenant now =>
      refine Spec.bind (fun _ => Durable.logged _) (DocumentService.createVersion_spec lax) ?_
      exact fun _ => Spec.finished (fun _ known => known.2)
  | archiveDocument documentId tenant now auditContext =>
      refine Spec.bind (fun _ => Durable.logged _) DocumentService.archiveDocument_spec ?_
      exact fun _ => Spec.finished (fun _ known => known.2)
  | archiveDocumentWithLock command tenant now =>
      refine Spec.bind (fun _ => Durable.logged _)
        DocumentService.archiveDocumentWithLock_spec ?_
      exact fun _ => Spec.finished (fun _ known => known.2)

end DocumentCall

/-- The regime of runs without a side condition. -/
def Regime.free (raises : Port → Nat → Bool) : Regime where
  raises := raises
  admits _ _ _ := True
  strict := False
  reliable := False.elim
  lookups := False.elim
  matched _ := False
  matching _ := False.elim

/-- The postcondition of a document call. -/
def DocumentCall.post (regime : Regime) (i : Nat) (call : DocumentCall)
    : Except Exn DocumentReply → World → Prop :=
  returns (call.Replied regime i) (fun _ _ => True)

abbrev DocumentConfig := Config Op Op.Answer Exn DocumentReply World DocumentCall

theorem documents_safe {services : Services} (lax : ¬ regime.strict) (i : Nat)
    (call : DocumentCall) (world : World) (sane : Sane services.platform.unicode regime world)
    (untouched : Untouched i world)
    : Safe exec (sessions services.platform.unicode regime) i (call.post regime i)
        (call.body services) world :=
  Spec.safe (call.body_spec lax) (Durable.const regime i True) sane trivial untouched.1

/-- Soundness of every configuration of a run from the empty store. -/
theorem documents_sound {services : Services} {initial : World} {config : DocumentConfig}
    (regime : Regime) (lax : ¬ regime.strict) (start : initial.Initial)
    (raises : initial.raises = regime.raises)
    (run : Reaches exec (DocumentCall.body services) regime.admits (.idle initial) config)
    : Sound exec (sessions services.platform.unicode regime) Untouched
        (fun i call => call.post regime i) config := by
  refine Sound.reaches (sessions_coherent _ regime) Untouched.stays (documents_safe lax) ?_ run
  refine ⟨start.sane _ raises, ?_, ?_⟩
  · intro i thread found
    simp [Config.idle] at found
  · intro i _
    exact ⟨start.own i, start.history i⟩

-----------------------------------------------------------------------------------------
-- A small installation for concrete runs
-----------------------------------------------------------------------------------------

namespace Sample

def pdf : Bytes := ascii "%PDF-1.7"

/-- SHA-256 of the sample file, and of the fingerprint text of its upload. -/
def sha256 (data : Bytes) : ContentHash :=
  if data = pdf then
    ⟨"86edbaa24831badfa0a8b04bb410141e2ee4182b6d0014493fe262a7a331c20b".toList, by decide⟩
  else
    ⟨"27a985dfd5a44a8ff8c9024a9cf30b13209e4e49e0b97108da60b90ec9ba5c0e".toList, by decide⟩

def services : Services where
  platform := { unicode := asciiUnicode, sha256, readZip := fun _ => .badZipFile }
  maxBytes := 1000
  idempotencyTtl := 1000
  audited := true

def tenant : TenantContext where
  userId := 7
  organizationId := 5
  membershipId := 9
  role := .owner
  permissions := [.documentRead, .documentWrite, .documentVersionCreate, .documentArchive]
  user_ne_nil := by decide
  organization_ne_nil := by decide
  membership_ne_nil := by decide
  organization_lt := by decide

/-- One user and one organization; the S3 client ends its calls as `outcomes` says. -/
def world (outcomes : Nat → ClientOutcome) : World where
  store := {
    committed := fun
      | .users => [(7 : UUID)]
      | .organizations => [(5 : UUID)]
      | _ => []
  }
  objects := []
  ids := {
    get := fun n => n + 100
    injective := fun _ _ same => Nat.add_right_cancel same
    ne_nil := fun n => Nat.succ_ne_zero (n + 99)
  }
  drawn := []
  clock := { reading := fun n => n }
  ticks := 0
  outcomes := outcomes
  clientCalls := 0
  presigned := fun key _ _ => key
  raises := fun _ _ => false
  entered := []

theorem world_initial (outcomes : Nat → ClientOutcome) : (world outcomes).Initial where
  tables := by
    intro t users organizations
    cases t <;> first | rfl | contradiction
  users := List.nodup_singleton 7
  organizations := List.nodup_singleton 5
  pending := rfl
  locks := rfl
  history _ := rfl

/-- An upload of the sample file under an idempotency key. -/
def upload (key : String) : UploadDocumentCommand where
  filename := some "a.pdf".toList
  declaredMediaType := some "application/pdf".toList
  stream := [.chunk pdf]
  idempotencyKey := key.toList

end Sample

end WorkflowForge
