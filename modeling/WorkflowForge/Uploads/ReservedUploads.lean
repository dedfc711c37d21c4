import WorkflowForge.Uploads.DeletedUploads
import WorkflowForge.Application.Streaming
import WorkflowForge.Documents.Writes

/-! A reserved upload up to its second commit.
Whatever fails here is handled by the deletion of the temporary object. -/

namespace WorkflowForge

open Python Transactions Concurrency

variable {u : Unicode} {organizationId uploadId : UUID} {i n : Nat} {object : StoredObject}
  {services : Services} {tenant : TenantContext} {command : UploadDocumentCommand} {key : Text}

/-- The upload has its id and its reservation, and no temporary object. -/
structure Reserved (organizationId : UUID) (i n : Nat) (uploadId : UUID) (world : World) : Prop
    where
  loose : Loose organizationId i n uploadId world
  swept : Swept organizationId i world
  committed : CommittedTimes i 1 world

theorem Reserved.kept : Retained organizationId i (Reserved organizationId i n uploadId) :=
  fun before after quiet reserved => {
    loose := Loose.kept before after quiet reserved.loose
    swept := Swept.kept before after quiet reserved.swept
    committed := CommittedTimes.kept before after quiet reserved.committed
  }

/-- What the handler of a failure finds: only validation errors skip the deletion. -/
structure Abandoned (organizationId : UUID) (i n : Nat) (uploadId : UUID) (failure : Exn)
    (world : World)
    : Prop where
  loose : Loose organizationId i n uploadId world
  rejected
    : (∃ code message, failure = .uploadValidation code message) → Swept organizationId i world

theorem Abandoned.kept {failure : Exn}
    : Retained organizationId i (Abandoned organizationId i n uploadId failure) :=
  fun before after quiet abandoned => {
    loose := Loose.kept before after quiet abandoned.loose
    rejected := fun validation =>
      Swept.kept before after quiet (abandoned.rejected validation)
  }

theorem Reserved.abandoned {world : World} (reserved : Reserved organizationId i n uploadId world)
    (failure : Exn)
    : Abandoned organizationId i n uploadId failure world :=
  ⟨reserved.loose, fun _ => reserved.swept⟩

/-- A failure of a port or of the client. -/
theorem Loose.abandoned {world : World} (loose : Loose organizationId i n uploadId world)
    {failure : Exn} (other : ∀ code message, failure ≠ .uploadValidation code message)
    : Abandoned organizationId i n uploadId failure world :=
  ⟨loose, fun ⟨code, message, same⟩ => absurd same (other code message)⟩

/-- Entering a port of an upload with a temporary object. -/
theorem enter_abandoned {known : World → Prop} (kept : Retained organizationId i known)
    (loose : ∀ world, known world → Loose organizationId i n uploadId world) (port : Port)
    : Cleaning u organizationId i known (enter port) (fun _ => known)
        (fun failure => Abandoned organizationId i n uploadId failure) := by
  refine Cleaning.andThen (Cleaning.plain kept (fun _ => id)) (fun raised => ?_)
  cases raised
  · exact Cleaning.pure kept (fun _ holds => holds)
  · exact Cleaning.throw kept (fun world holds =>
      (loose world holds).abandoned (fun _ _ same => by cases same))

/-- The client writes the temporary object, or reports a failure and may have written it. -/
theorem putObject_reserved {body : Bytes} {mediaType : Text}
    : Cleaning u organizationId i (Reserved organizationId i n uploadId)
        (perform (.putObject (temporaryUploadKey organizationId uploadId).value body mediaType))
        (fun (written : Bool) world =>
          (written = true
            → Carries organizationId i n uploadId ⟨body, some mediaType⟩ world)
          ∧ Loose organizationId i n uploadId world
          ∧ CommittedTimes i 1 world)
        (fun _ _ => False) := by
  have known
      : ∀ written : Bool,
          Retained organizationId i (fun world =>
            (written = true
              → Carries organizationId i n uploadId ⟨body, some mediaType⟩ world)
            ∧ Loose organizationId i n uploadId world
            ∧ CommittedTimes i 1 world) :=
    fun _ before after quiet holds =>
      ⟨fun wrote => Carries.kept before after quiet (holds.1 wrote),
        Loose.kept before after quiet holds.2.1,
        CommittedTimes.kept before after quiet holds.2.2⟩
  refine Triple.perform Reserved.kept.stable (fun written => (known written).stable) ?_
    (fun _ _ _ reached => reached)
  intro now written after _ reserved admitted ran
  have loose : Loose organizationId i n uploadId after :=
    reserved.loose.written admitted.2.2.2 (by rintro key ⟨⟩; rfl) ran
  refine ⟨trivial, trivial, ?_, loose,
    Nat.le_trans reserved.committed (exec_history admitted.2.1 ran).length_le⟩
  rintro rfl
  refine ⟨loose, World.mem_temporaries.mpr ⟨loose.drawn, ?_⟩⟩
  rw [World.temporaryKey, loose.id, clientEffect_true (Option.some.inj ran)]
  simp [World.object?, World.storeObject]

/-- `put_temp_stream` writes the object, or raises an error of a port or of the client. -/
theorem putTempStream_reserved {body : Bytes} {mediaType : Text}
    : Cleaning u organizationId i (Reserved organizationId i n uploadId)
        (ObjectStorage.putTempStream {
          key := temporaryUploadKey organizationId uploadId
          body
          mediaType
        })
        (fun _ world =>
          Carries organizationId i n uploadId ⟨body, some mediaType⟩ world
          ∧ CommittedTimes i 1 world)
        (fun failure => Abandoned organizationId i n uploadId failure) := by
  refine Cleaning.andThen (enter_abandoned Reserved.kept (fun _ reserved => reserved.loose) _)
    (fun _ => ?_)
  simp only [liftExcept, requireTempPrefix_temporary, Program.ofExcept, Program.bind_ok]
  refine Cleaning.andNext putObject_reserved (fun written => ?_)
  have carried
      : Retained organizationId i (fun world =>
          Carries organizationId i n uploadId ⟨body, some mediaType⟩ world
          ∧ CommittedTimes i 1 world) :=
    Carries.kept.and CommittedTimes.kept
  cases written
  · have thrown
        : Cleaning u organizationId i (Loose organizationId i n uploadId)
            (throw (.objectStorageError "Temporary object write failed.")
              : App StoredObjectMetadata)
            (fun _ world =>
              Carries organizationId i n uploadId ⟨body, some mediaType⟩ world
              ∧ CommittedTimes i 1 world)
            (fun failure => Abandoned organizationId i n uploadId failure) :=
      Cleaning.throw Loose.kept (fun _ loose =>
        loose.abandoned (fun _ _ same => by cases same))
    exact thrown.mono (fun _ holds => holds.2.1) (fun _ _ reached => reached)
      (fun _ _ failed => failed)
  · have looked
        : Cleaning u organizationId i (fun world =>
            Carries organizationId i n uploadId ⟨body, some mediaType⟩ world
            ∧ CommittedTimes i 1 world)
          (ObjectStorage.lookup (temporaryUploadKey organizationId uploadId))
          (fun _ world =>
            Carries organizationId i n uploadId ⟨body, some mediaType⟩ world
            ∧ CommittedTimes i 1 world)
          (fun failure => Abandoned organizationId i n uploadId failure) := by
      refine Cleaning.andThen (Cleaning.plain carried (fun _ => id)) (fun answer => ?_)
      cases answer with
      | found byteSize mediaType => exact Cleaning.pure carried (fun _ holds => holds)
      | missing => exact Cleaning.pure carried (fun _ holds => holds)
      | failed =>
          exact Cleaning.throw carried (fun _ holds =>
            holds.1.toLoose.abandoned (fun _ _ same => by cases same))
    refine (Cleaning.andThen looked (fun found => ?_)).mono
      (fun _ holds => ⟨holds.1 rfl, holds.2.2⟩) (fun _ _ reached => reached)
      (fun _ _ failed => failed)
    cases found with
    | some metadata => exact Cleaning.pure carried (fun _ holds => holds)
    | none => exact Cleaning.pure carried (fun _ holds => holds)

/-- A commit of the session is counted. -/
theorem commit_counted {known : World → Prop} (kept : Retained organizationId i known)
    {count : Nat}
    : Cleaning u organizationId i (fun world => known world ∧ CommittedTimes i count world)
        (perform (.sql .commit))
        (fun _ world =>
          (known world ∧ CommittedTimes i (count + 1) world) ∧ world.store.own i = [])
        (fun _ _ => False) := by
  refine Triple.perform (kept.and CommittedTimes.kept).stable
    (fun _ => (kept.and CommittedTimes.kept).stable_own (· = [])) ?_
    (fun _ _ _ reached => reached)
  intro now answer after _ holds admitted ran
  have quiet : Quiet organizationId i now after :=
    admitted.2.2.2.quiet_plain admitted.2.1 ran (fun _ => id)
  have commits := exec_commits ran
  refine ⟨trivial, trivial, ⟨kept _ _ quiet holds.1, ?_⟩, commits.own⟩
  rw [CommittedTimes, commits.log, List.length_append]
  exact Nat.succ_le_succ holds.2

/-- The `try` around the temporary object: it stages the upload or leaves it to the handler. -/
theorem storeTemp_reserved {upload : PreparedUpload}
    : Cleaning u organizationId i (Reserved organizationId i n uploadId)
        (tryCatch (do
          let now ← nowOr none
          let _ ← UploadIdempotencyRepository.finalizeFingerprint organizationId key
            upload.fingerprint now
          let _ ← ObjectStorage.putTempStream {
            key := temporaryUploadKey organizationId uploadId
            body := upload.streamed.body
            mediaType := upload.metadata.mediaType
          }
          commit
          return .ok ())
          (fun failure => return .error failure) : App (Except Exn Unit))
        (fun stored world =>
          match stored with
          | .ok () =>
              Staged organizationId i n uploadId
                  ⟨upload.streamed.body, some upload.metadata.mediaType⟩ world
                ∧ world.store.own i = []
          | .error failure => Abandoned organizationId i n uploadId failure world)
        (fun _ _ => False) := by
  have carried
      : Retained organizationId i (fun world =>
          Carries organizationId i n uploadId
              ⟨upload.streamed.body, some upload.metadata.mediaType⟩ world
          ∧ CommittedTimes i 1 world) :=
    Carries.kept.and CommittedTimes.kept
  have finalized (now : Timestamp)
      : Cleaning u organizationId i (Reserved organizationId i n uploadId)
          (UploadIdempotencyRepository.finalizeFingerprint organizationId key
            upload.fingerprint now)
          (fun _ => Reserved organizationId i n uploadId)
          (fun failure => Abandoned organizationId i n uploadId failure) :=
    (Cleaning.frame Reserved.kept (.of_commitless
      (UploadIdempotencyRepository.assigning_commitless _ _ _ _))).mono
        (fun _ holds => holds) (fun _ _ reached => reached)
        (fun failure _ reserved => reserved.abandoned failure)
  have committed
      : Cleaning u organizationId i (fun world =>
          Carries organizationId i n uploadId
              ⟨upload.streamed.body, some upload.metadata.mediaType⟩ world
          ∧ CommittedTimes i 1 world) commit
        (fun _ world =>
          Staged organizationId i n uploadId
              ⟨upload.streamed.body, some upload.metadata.mediaType⟩ world
          ∧ world.store.own i = [])
        (fun failure => Abandoned organizationId i n uploadId failure) := by
    refine Cleaning.andThen
      (enter_abandoned carried (fun _ holds => holds.1.toLoose) _) (fun _ => ?_)
    exact (commit_counted Carries.kept).mono (fun _ holds => holds)
      (fun _ _ reached => ⟨⟨reached.1.1, reached.1.2⟩, reached.2⟩)
      (fun _ _ never => never.elim)
  refine Cleaning.tryCatch (Cleaning.andThen (Cleaning.plain Reserved.kept (fun _ => id))
    (fun now => Cleaning.andThen (finalized now) (fun _ =>
      Cleaning.andThen putTempStream_reserved (fun _ => Cleaning.andThen committed (fun _ => ?_)))))
    (fun failure => Cleaning.pure Abandoned.kept (fun _ abandoned => abandoned))
  exact Triple.done (Staged.retained.stable_own (· = [])) (fun _ _ holds => holds)

/-- The handlers of the preparation leave no temporary object. -/
theorem abandonUpload_swept {fingerprint : Option Text} {failure : Exn}
    : Cleaning u organizationId i (Abandoned organizationId i n uploadId failure)
        (UploadDocument.abandonUpload services command tenant key
          (temporaryUploadKey organizationId uploadId) fingerprint failure)
        (fun _ => Swept organizationId i) (fun _ => Swept organizationId i) := by
  unfold UploadDocument.abandonUpload
  split
  · rename_i code message
    exact (Cleaning.swept UploadDocument.failUpload_untouching).mono
      (fun _ abandoned => abandoned.rejected ⟨code, message, rfl⟩)
      (fun _ _ reached => reached) (fun _ _ failed => failed)
  · refine Cleaning.andThen (deleteTempBestEffort_loose.mono
      (fun _ abandoned => abandoned.loose) (fun _ _ reached => reached)
      (fun _ _ failed => failed)) (fun _ => ?_)
    exact Cleaning.swept UploadDocument.failUpload_untouching

/-- The id of an upload is new, so nothing is stored under its key. -/
theorem newUuid_reserved
    : Cleaning u organizationId i
        (fun world => Swept organizationId i world ∧ CommittedTimes i 1 world) newUuid
        (fun uploadId world => ∃ n, Reserved organizationId i n uploadId world)
        (fun _ _ => False) := by
  refine Triple.perform (Swept.kept.and CommittedTimes.kept).stable ?_ ?_
    (fun _ _ _ reached => reached)
  · rintro uploadId before now - - apart ⟨n, reserved⟩
    exact ⟨n, Reserved.kept _ _ (Apart.quiet apart) reserved⟩
  · intro now uploadId after _ holds admitted ran
    have quiet : Quiet organizationId i now after :=
      admitted.2.2.2.quiet_plain admitted.2.1 ran (fun _ => id)
    have swept := Swept.kept _ _ quiet holds.1
    have committed := CommittedTimes.kept _ _ quiet holds.2
    cases ran
    exact ⟨trivial, trivial, now.drawn.length, swept.loose (by simp) rfl, swept, committed⟩

theorem processReservedUpload_swept (renames : Renames services.platform.unicode command.filename)
    (countable : Countable services command)
    : Cleaning services.platform.unicode tenant.organizationId i
        (fun world =>
          Swept tenant.organizationId i world ∧ CommittedTimes i 1 world)
        (UploadDocument.processReservedUpload services command tenant key)
        (fun _ => Swept tenant.organizationId i) (fun _ => Swept tenant.organizationId i) := by
  refine Cleaning.andNext newUuid_reserved (fun uploadId => ?_)
  rintro world inv ⟨n, reserved⟩
  revert reserved inv world
  refine Triple.of_state (fun world _ reserved => ?_)
  have drawn : uploadId ≠ 0 := reserved.loose.id ▸ world.ids.ne_nil n
  rw [StorageObjectKey.forTemporaryUpload_eq tenant.organization_ne_nil drawn]
  simp only [liftExcept, Program.ofExcept, Program.bind_ok]
  rcases prepared : (UploadDocument.prepareUpload services command).1 with failure | upload
  · exact abandonUpload_swept.mono (fun _ reserved => reserved.abandoned failure)
      (fun _ _ reached => reached) (fun _ _ failed => failed)
  · refine Cleaning.andNext storeTemp_reserved (fun stored => ?_)
    cases stored with
    | ok stored =>
        exact processStoredUpload_staged prepared renames countable
          (UploadDocument.prepareUpload_ok prepared).1
    | error failure => exact abandonUpload_swept

-----------------------------------------------------------------------------------------
-- The use case
-----------------------------------------------------------------------------------------

theorem commit_swept
    : Cleaning u organizationId i (Swept organizationId i) commit
        (fun _ world => Swept organizationId i world ∧ CommittedTimes i 1 world)
        (fun _ => Swept organizationId i) := by
  refine Cleaning.andThen
    (Cleaning.swept (.of_commitless (Commitless.enter .commit))) (fun _ => ?_)
  exact (commit_counted Swept.kept).mono (fun _ swept => ⟨swept, Nat.zero_le _⟩)
    (fun _ _ reached => reached.1) (fun _ _ never => never.elim)

/-- The commit of the reservation, and the upload behind it. -/
theorem beginUpload_swept {command' : UploadDocumentCommand} {timestamp : Timestamp}
    {metadata : List (String × AuditValue)}
    (renames : Renames services.platform.unicode command'.filename)
    (countable : Countable services command')
    : Cleaning services.platform.unicode tenant.organizationId i
        (Swept tenant.organizationId i)
        (do
          commit
          UploadDocument.recordUploadEvent services .documentUploadStarted command tenant
            timestamp metadata
          UploadDocument.processReservedUpload services command' tenant key)
        (fun _ => Swept tenant.organizationId i) (fun _ => Swept tenant.organizationId i) := by
  refine Cleaning.andThen commit_swept (fun _ => ?_)
  refine Cleaning.andThen ((Cleaning.frame (Swept.kept.and CommittedTimes.kept)
    (.of_commitless (Commitless.recordEvent _ _ _ _ _))).mono (fun _ holds => holds)
    (fun _ _ reached => reached) (fun _ _ failed => failed.1)) (fun _ => ?_)
  exact processReservedUpload_swept renames countable

theorem retryUpload_swept {record : UploadIdempotencyRecord}
    (renames : Renames services.platform.unicode command.filename)
    (countable : Countable services command)
    : Cleaning services.platform.unicode tenant.organizationId i
        (Swept tenant.organizationId i)
        (UploadDocument.retryUpload services command tenant record)
        (fun _ => Swept tenant.organizationId i) (fun _ => Swept tenant.organizationId i) := by
  have restarted
      : ∀ stream : UploadStream,
          Countable services { command with stream }
          → Cleaning services.platform.unicode tenant.organizationId i
            (Swept tenant.organizationId i)
            (do
              let timestamp ← nowOr none
              let _ ← UploadIdempotencyRepository.markInProgress tenant.organizationId
                record.idempotencyKey timestamp (timestamp + services.idempotencyTtl)
              commit
              UploadDocument.recordUploadEvent services .documentUploadStarted command tenant
                timestamp [("idempotency_replay", .bool true)]
              UploadDocument.processReservedUpload services { command with stream } tenant
                record.idempotencyKey)
            (fun _ => Swept tenant.organizationId i)
            (fun _ => Swept tenant.organizationId i) := by
    intro stream countable
    refine Cleaning.andThen
      (Cleaning.swept (.of_commitless (Commitless.nowOr _))) (fun timestamp => ?_)
    refine Cleaning.andThen (Cleaning.swept (.of_commitless
      (UploadIdempotencyRepository.markInProgress_commitless _ _ _ _))) (fun _ => ?_)
    exact beginUpload_swept renames countable
  unfold UploadDocument.retryUpload
  dsimp only
  split
  · exact restarted _ countable
  · exact Cleaning.andThen
      (Cleaning.swept (.of_commitless (Commitless.liftExcept _)))
      (fun _ => restarted _ countable.rest)

theorem handleExistingRecord_swept {record : UploadIdempotencyRecord}
    (renames : Renames services.platform.unicode command.filename)
    (countable : Countable services command)
    : Cleaning services.platform.unicode tenant.organizationId i
        (Swept tenant.organizationId i)
        (UploadDocument.handleExistingRecord services command tenant record)
        (fun _ => Swept tenant.organizationId i) (fun _ => Swept tenant.organizationId i) := by
  by_cases retried : record.status = .failed ∧ record.retryable = true
  · unfold UploadDocument.handleExistingRecord
    simp only [retried, if_true]
    exact retryUpload_swept renames countable
  · exact Cleaning.swept
      (.of_commitless (UploadDocument.handleExistingRecord_commitless retried))

theorem upload_swept {now : Option Datetime}
    (renames : Renames services.platform.unicode command.filename)
    (countable : Countable services command)
    : Cleaning services.platform.unicode tenant.organizationId i
        (Swept tenant.organizationId i)
        (UploadDocument.upload services command tenant now)
        (fun _ => Swept tenant.organizationId i) (fun _ => Swept tenant.organizationId i) := by
  unfold UploadDocument.upload
  refine Cleaning.andThen
    (Cleaning.swept (.of_commitless (Commitless.liftExcept _))) (fun _ => ?_)
  refine Cleaning.andThen
    (Cleaning.swept (.of_commitless (Commitless.nowOr _))) (fun timestamp => ?_)
  refine Cleaning.andThen
    (Cleaning.swept (.of_commitless (Commitless.liftExcept _))) (fun key => ?_)
  refine Cleaning.andThen (Cleaning.swept (.of_commitless
    (UploadIdempotencyRepository.get_commitless _ _))) (fun found => ?_)
  cases found with
  | some existing => exact handleExistingRecord_swept renames countable
  | none =>
      refine Cleaning.andThen (Cleaning.swept (.of_commitless
        (UploadIdempotencyRepository.reserve_commitless _ _ _ _))) (fun _ => ?_)
      exact beginUpload_swept renames countable

/-- A request that swept its temporary object stays swept when its session is closed. -/
theorem request_swept {α : Type} {call : App α}
    (swept
      : Cleaning u organizationId i (Swept organizationId i) call
          (fun _ => Swept organizationId i) (fun _ => Swept organizationId i))
    : Cleaning u organizationId i (Swept organizationId i) (request call)
        (fun _ => Swept organizationId i) (fun _ => Swept organizationId i) := by
  have ended
      : Cleaning u organizationId i (Swept organizationId i)
          (tryCatch (do return Except.ok (← call)) (fun failure => return .error failure))
          (fun (_ : Except Exn α) => Swept organizationId i)
          (fun _ => Swept organizationId i) :=
    Cleaning.tryCatch
      (Cleaning.andThen swept (fun _ => Cleaning.pure Swept.kept (fun _ holds => holds)))
      (fun _ => Cleaning.pure Swept.kept (fun _ holds => holds))
  exact Cleaning.andThen ended (fun result => Cleaning.swept (.of_commitless
    (Commitless.andThen Commitless.sessionRollback (fun _ => Commitless.liftExcept _))))

/-- Whatever a request of the upload use case answers, it has no temporary object then. -/
theorem DocumentCall.uploadDocument_swept {now : Option Datetime}
    (renames : Renames services.platform.unicode command.filename)
    (countable : Countable services command)
    : Cleaning services.platform.unicode tenant.organizationId i
        (Swept tenant.organizationId i)
        ((DocumentCall.uploadDocument command tenant now).body services)
        (fun _ => Swept tenant.organizationId i) (fun _ => Swept tenant.organizationId i) :=
  request_swept (Cleaning.andThen (upload_swept renames countable) (fun _ =>
    Cleaning.pure Swept.kept (fun _ holds => holds)))

end WorkflowForge
