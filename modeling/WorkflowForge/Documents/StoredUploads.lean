import WorkflowForge.Documents.Runs

/-! Completed uploads and the bytes behind them. -/

namespace WorkflowForge

open Python Transactions Concurrency

/-- One call of `UploadDocument`. -/
structure UploadCall where
  command : UploadDocumentCommand
  tenant : TenantContext
  now : Option Datetime

/-- An upload as one request with its own session. -/
def UploadCall.body (services : Services) (call : UploadCall) : App UploadDocumentResult :=
  request (UploadDocument.upload services call.command call.tenant call.now)

abbrev UploadConfig := Config Op Op.Answer Exn UploadDocumentResult World UploadCall

/-- The document found by a content hash has a stored current version. -/
def FindsStored (i : Nat) (op : Op) (world : World) : Prop :=
  ∀ organizationId contentHash,
    op = .sql (.select (.documentByContentHash organizationId contentHash))
    → StoredLookup (world.store.view i) organizationId contentHash

/-- The regime of uploads in which only the object storage fails. -/
def Regime.stored (raises : Port → Nat → Bool)
    (storage : ∀ port n, port.ofStorage = false → raises port n = false)
    : Regime where
  raises := raises
  admits := FindsStored
  strict := True
  reliable _ := storage
  lookups _ _ organizationId contentHash _ admitted :=
    admitted organizationId contentHash rfl
  matched _ := False
  matching _ := False.elim

theorem uploads_safe {regime : Regime} {services : Services} (i : Nat) (call : UploadCall)
    (world : World) (sane : Sane services.platform.unicode regime world)
    (untouched : Untouched i world)
    : Safe exec (sessions services.platform.unicode regime) i
        (returns (fun result world => Reported regime i result world) (fun _ _ => True))
        (call.body services) world :=
  Spec.safe (request_spec Durable.reported UploadDocument.upload_spec)
    (Durable.const regime i True) sane trivial untouched.1

theorem uploads_sound {services : Services} {initial : World} {config : UploadConfig}
    (regime : Regime) (start : initial.Initial) (raises : initial.raises = regime.raises)
    (run : Reaches exec (UploadCall.body services) regime.admits (.idle initial) config)
    : Sound exec (sessions services.platform.unicode regime) Untouched
        (fun i _ => returns (fun result world => Reported regime i result world)
          (fun _ _ => True))
        config := by
  refine Sound.reaches (sessions_coherent _ regime) Untouched.stays uploads_safe ?_ run
  refine ⟨start.sane _ raises, ?_, ?_⟩
  · intro i thread found
    simp [Config.idle] at found
  · intro i _
    exact ⟨start.own i, start.history i⟩

/-- A completed record points to a stored version whose bytes are at its final key. -/
def UploadIdempotencyRecord.Delivered (world : World) (record : UploadIdempotencyRecord)
    : Prop :=
  ∃ version ∈ world.store.committed .documentVersions,
    record.documentVersionId = some version.id
    ∧ version.storageState = .stored
    ∧ version.storageObjectKey
      = documentContentKeyText version.organizationId version.contentHash
    ∧ ∃ object,
        world.object? version.storageObjectKey = some object
        ∧ (object.body.length : Int) = version.byteSize

/-- In every run of uploads whose content lookups only find documents with a stored current
version, every completed record is delivered. -/
theorem completed_delivered {services : Services} {initial : World} {config : UploadConfig}
    (start : initial.Initial)
    (storage : ∀ port n, port.ofStorage = false → initial.raises port n = false)
    (run : Reaches exec (UploadCall.body services) FindsStored (.idle initial) config)
    : ∀ record ∈ config.shared.store.committed .uploadIdempotency,
        record.status = .completed → record.Delivered config.shared := by
  intro record member completed
  have sound := uploads_sound (.stored initial.raises storage) start rfl run
  obtain ⟨version, found, points, stored⟩ := sound.inv.backed trivial record member completed
  have inVersions := Db.mem_of_find? found
  obtain ⟨-, object, here, size⟩ := sound.inv.stored trivial version inVersions stored
  exact ⟨version, inVersions, points, stored, sound.inv.consistent.keys version inVersions,
    object, here, size⟩

namespace Sample

/-- Whether a lookup by content hash is one that `FindsStored` admits. -/
def findsStored (i : Nat) (op : Op) (world : World) : Bool :=
  match op with
  | .sql (.select (.documentByContentHash organizationId contentHash)) =>
      (documentsByContentHash (world.store.view i) organizationId contentHash).all
        (fun document =>
          ((world.store.view i).find? .documentVersions document.currentVersionId).all
            (fun version => version.storageState == .stored))
  | _ => true

theorem findsStored_sound (i : Nat) (op : Op) (world : World)
    (checked : findsStored i op world = true)
    : FindsStored i op world := by
  rintro organizationId contentHash rfl document member version found
  simp only [findsStored, List.all_eq_true] at checked
  have here := checked document member
  rw [found] at here
  simpa using here

def uploads (key : String) : UploadCall := ⟨upload key, tenant, none⟩

end Sample

/-- One upload on its own completes and is delivered. -/
theorem completed_delivered_created
    : ∃ config : UploadConfig,
        Reaches exec (UploadCall.body Sample.services) FindsStored
          (.idle (Sample.world fun _ => .ok)) config
        ∧ ∃ record ∈ config.shared.store.committed .uploadIdempotency,
            record.status = .completed ∧ record.Delivered config.shared := by
  have checked
      : ((Config.idle (Sample.world fun _ => .ok)).follow exec
            (UploadCall.body Sample.services) Sample.findsStored
            (.start (Sample.uploads "k1") :: List.replicate 53 (.act 0))).any
          (fun config => (config.shared.store.committed .uploadIdempotency).any
            (fun record => record.status == .completed)) = true := by
    decide +kernel
  obtain ⟨config, run, found⟩ := Config.reaches_of_check Sample.findsStored_sound checked
  obtain ⟨record, member, completed⟩ := List.any_eq_true.mp found
  have completed' : record.status = .completed := by simpa using completed
  exact ⟨config, run, record, member, completed',
    completed_delivered (Sample.world_initial _) (fun _ _ _ => rfl) run record member completed'⟩

/-- An upload whose promotion fails, and then the same file under another key: the second
record is completed on the failed version. -/
theorem duplicate_not_delivered
    : ∃ config : UploadConfig,
        (Sample.world fun n => if n = 3 then .fails false false else .ok).Initial
        ∧ Reaches exec (UploadCall.body Sample.services) (fun _ _ _ => True)
            (.idle (Sample.world fun n => if n = 3 then .fails false false else .ok)) config
        ∧ ∃ record ∈ config.shared.store.committed .uploadIdempotency,
            record.status = .completed ∧ ¬ record.Delivered config.shared := by
  have checked
      : ((Config.idle (Sample.world fun n => if n = 3 then .fails false false else .ok)).follow
            exec (UploadCall.body Sample.services) (fun _ _ _ => true)
            (.start (Sample.uploads "k1") :: List.replicate 52 (.act 0)
              ++ .start (Sample.uploads "k2") :: List.replicate 38 (.act 1))).any
          (fun config =>
            (config.shared.store.committed .uploadIdempotency).any
              (fun record => record.status == .completed)
            && (config.shared.store.committed .documentVersions).all
              (fun version => version.storageState != .stored)) = true := by
    decide +kernel
  obtain ⟨config, run, found⟩ :=
    Config.reaches_of_check (fun _ _ _ _ => trivial) checked
  rw [Bool.and_eq_true] at found
  obtain ⟨record, member, completed⟩ := List.any_eq_true.mp found.1
  refine ⟨config, Sample.world_initial _, run, record, member, by simpa using completed, ?_⟩
  rintro ⟨version, inVersions, -, stored, -⟩
  have unstored := List.all_eq_true.mp found.2 version inVersions
  simp [stored] at unstored

end WorkflowForge
