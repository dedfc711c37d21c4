import WorkflowForge.Documents.Runs

/-! What a call returns is what it committed, as long as its swaps of document rows match. -/

namespace WorkflowForge

open Python Transactions Concurrency

/-- A commit of the session wrote the document row, and left it as it is. -/
def CommittedAs (i : Nat) (document : Document) (world : World) : Prop :=
  ∃ commit ∈ (world.store.history i).log,
    (Write.put .documents document : Write schema) ∈ commit.1
    ∧ commit.2.find? .documents document.id = some document

/-- The committed rows behind a reply: a created or archived document is as it was returned,
and a new version is the current one of its document. -/
def DocumentCall.Kept (i : Nat) : DocumentCall → DocumentReply → World → Prop
  | uploadDocument _ _ _, .upload result, world =>
      result.outcome = .created → CommittedAs i result.document world
  | createVersion _ _ _, .version saved, world =>
      ∃ document,
        CommittedAs i document world
        ∧ document.id = saved.documentId
        ∧ document.currentVersionId = saved.id
  | archiveDocument _ _ _ _, .document saved, world => CommittedAs i saved world
  | archiveDocumentWithLock _ _ _, .document saved, world => CommittedAs i saved world
  | _, _, _ => True

/-- The UPDATE of a document row finds a row that its WHERE clause matches. -/
def SwapMatches (i : Nat) (op : Op) (world : World) : Prop :=
  ∀ id change,
    op = .sql (.update .documents id change)
    → ((world.store.view i).find? .documents id).bind change ≠ none

theorem Regime.swaps_reliable (raises : Port → Nat → Bool)
    : False → ∀ port n, port.ofStorage = false → raises port n = false :=
  False.elim

/-- The regime of runs in which the swaps of session `i` match. -/
def Regime.swaps (raises : Port → Nat → Bool) (i : Nat) : Regime where
  raises := raises
  admits j op world := j = i → SwapMatches j op world
  strict := False
  reliable := swaps_reliable raises
  lookups := False.elim
  matched j := j = i
  matching _ mine id change _ admitted := admitted mine id change rfl

theorem Leaves.put_mem {writes : List (Write schema)} {t : TableName} {row : TableRow t}
    (leaves : Leaves writes t row)
    : Write.put t row ∈ writes := by
  have found := leaves (fun _ => [])
  refine Write.put_of_find?_applyAll ?_ found
  by_contra missing
  have other : ∀ write ∈ writes, write.target ≠ (t, primaryKey t row) :=
    fun write member same => missing ⟨write, member, same⟩
  rw [Write.find?_applyAll_other _ _ other] at found
  cases found

theorem Logged.committedAs {i : Nat} {document : Document} {world : World}
    {pending : List (Write schema) → Prop} (logged : Logged i pending world)
    (leaves : ∀ writes, pending writes → Leaves writes .documents document)
    : CommittedAs i document world := by
  obtain ⟨entry, member, here, rows⟩ := logged
  have left := leaves entry.1 here
  exact ⟨entry, member, left.put_mem, rows .documents document left⟩

theorem DocumentCall.Replied.kept {raises : Port → Nat → Bool} {i : Nat}
    {call : DocumentCall} {reply : DocumentReply} {world : World}
    (replied : call.Replied (.swaps raises i) i reply world)
    : call.Kept i reply world := by
  have saved
      : ∀ {document : Document},
          Logged i (Saves (.swaps raises i) i document) world → CommittedAs i document world :=
    fun logged => logged.committedAs (fun _ saves => saves rfl)
  cases call <;> cases reply
  case uploadDocument.upload result => exact fun created => saved (replied created)
  case createVersion.version version =>
      obtain ⟨entry, member, ⟨document, leaves, id, current⟩, rows⟩ := replied
      refine ⟨document, ⟨entry, member, leaves.put_mem, ?_⟩, id, current⟩
      exact rows .documents document leaves
  case archiveDocument.document archived => exact saved replied
  case archiveDocumentWithLock.document archived => exact saved replied
  all_goals trivial

/-- A finished call committed the document it returned, in every run in which the document
updates of its own session match a row. -/
theorem replies_kept {services : Services} {initial : World} {config : DocumentConfig}
    (start : initial.Initial) {i : Nat}
    (run
      : Reaches exec (DocumentCall.body services)
          (fun j op world => j = i → SwapMatches j op world) (.idle initial) config)
    {call : DocumentCall} {reply : DocumentReply}
    (finished : config.threads[i]? = some ⟨call, .done (.ok reply)⟩)
    : call.Kept i reply config.shared := by
  have sound := documents_sound (.swaps initial.raises i) id start rfl run
  have replied : call.Replied (.swaps initial.raises i) i reply config.shared :=
    sound.finished (sessions_coherent _ _) finished
  exact replied.kept

namespace Sample

/-- Whether an UPDATE is one that `SwapMatches` admits. -/
def swapMatches (i : Nat) (op : Op) (world : World) : Bool :=
  match op with
  | .sql (.update .documents id change) =>
      (((world.store.view i).find? .documents id).bind change).isSome
  | _ => true

theorem swapMatches_sound (i : Nat) (op : Op) (world : World)
    (checked : swapMatches i op world = true)
    : SwapMatches i op world := by
  rintro id change rfl missed
  simp only [swapMatches] at checked
  rw [missed] at checked
  cases checked

def uploadCall : DocumentCall := .uploadDocument (upload "k1") tenant none

/-- Archive the document that the sample upload creates. -/
def archiveCall : DocumentCall := .archiveDocument 103 tenant none none

/-- The result of the first call, when it is an upload that created a document. -/
def created (config : DocumentConfig) : Option UploadDocumentResult :=
  config.threads[0]?.bind (fun thread =>
    match thread.origin, thread.program with
    | .uploadDocument _ _ _, .done (.ok (.upload result)) =>
        if result.outcome = .created then some result else none
    | _, _ => none)

theorem created_cases {config : DocumentConfig} {result : UploadDocumentResult}
    (found : created config = some result)
    : ∃ command tenant now,
        config.threads[0]?
          = some ⟨.uploadDocument command tenant now, .done (.ok (.upload result))⟩
        ∧ result.outcome = .created := by
  obtain ⟨thread, active, shape⟩ := Option.bind_eq_some_iff.mp found
  obtain ⟨origin, program⟩ := thread
  dsimp only at shape
  split at shape
  · rename_i command tenant now reply
    split at shape
    · rename_i isCreated
      cases shape
      exact ⟨command, tenant, now, active, isCreated⟩
    · cases shape
  · cases shape

end Sample

/-- An undisturbed upload commits the document that it reports. -/
theorem replies_kept_created
    : ∃ config : DocumentConfig,
        Reaches exec (DocumentCall.body Sample.services)
            (fun j op world => j = 0 → SwapMatches j op world)
            (.idle (Sample.world fun _ => .ok)) config
        ∧ ∃ result : UploadDocumentResult,
            result.outcome = .created ∧ CommittedAs 0 result.document config.shared := by
  have checked
      : ((Config.idle (Sample.world fun _ => .ok)).follow exec
            (DocumentCall.body Sample.services) Sample.swapMatches
            (.start Sample.uploadCall :: List.replicate 54 (.act 0))).any
          (fun config => (Sample.created config).isSome) = true := by
    decide +kernel
  obtain ⟨config, run, found⟩ :=
    Config.reaches_of_check
      (fun j op world holds (_ : j = 0) => Sample.swapMatches_sound j op world holds) checked
  obtain ⟨result, isResult⟩ := Option.isSome_iff_exists.mp found
  obtain ⟨command, tenant, now, finished, isCreated⟩ := Sample.created_cases isResult
  exact ⟨config, run, result, isCreated,
    replies_kept (Sample.world_initial _) run finished isCreated⟩

/-- The document is archived between two commits of its upload: the upload's update is
dropped, and the upload still reports a stored document. -/
theorem dropped_update_reported
    : ∃ (config : DocumentConfig) (call : DocumentCall) (reply : DocumentReply),
        Reaches exec (DocumentCall.body Sample.services) (fun _ _ _ => True)
          (.idle (Sample.world fun _ => .ok)) config
        ∧ config.threads[0]? = some ⟨call, .done (.ok reply)⟩
        ∧ ¬ call.Kept 0 reply config.shared := by
  have checked
      : ((Config.idle (Sample.world fun _ => .ok)).follow exec
            (DocumentCall.body Sample.services) (fun _ _ _ => true)
            (.start Sample.uploadCall :: List.replicate 31 (.act 0)
              ++ .start Sample.archiveCall :: List.replicate 13 (.act 1)
              ++ List.replicate 23 (.act 0))).any
          (fun config => (Sample.created config).any (fun result =>
            (config.shared.store.history 0).log.all (fun commit =>
              commit.2.find? .documents result.document.id != some result.document))) = true := by
    decide +kernel
  obtain ⟨config, run, found⟩ := Config.reaches_of_check (fun _ _ _ _ => trivial) checked
  obtain ⟨result, isResult, lost⟩ := Option.any_eq_true _ _ |>.mp found
  obtain ⟨command, tenant, now, finished, isCreated⟩ := Sample.created_cases isResult
  refine ⟨config, _, _, run, finished, ?_⟩
  intro kept
  obtain ⟨commit, member, -, row⟩ := kept isCreated
  have other := List.all_eq_true.mp lost commit member
  simp [row] at other

end WorkflowForge
