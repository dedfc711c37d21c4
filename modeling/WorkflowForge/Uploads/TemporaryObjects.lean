import WorkflowForge.Uploads.ObjectKeys

/-! The temporary objects of concurrent document sessions.
A session writes the temporary keys of the ids it drew itself, so the others leave its
temporary objects alone, and the keys of ids that are still to come hold nothing.
-/

namespace WorkflowForge

open Python Transactions Concurrency

/-- The positions of the ids that a session drew. -/
def World.drawings (world : World) (i : Nat) : List Nat :=
  (List.range world.drawn.length).filter (fun n => world.drawn[n]? == some i)

/-- The temporary key of an upload of the organization with the id drawn at a position. -/
def World.temporaryKey (world : World) (organizationId : UUID) (n : Nat) : Text :=
  (temporaryUploadKey organizationId (world.ids.get n)).value

/-- The temporary objects of a session's uploads in an organization, with the positions of
their ids. -/
def World.temporaries (world : World) (organizationId : UUID) (i : Nat)
    : List (Nat × StoredObject) :=
  (world.drawings i).filterMap (fun n =>
    (world.object? (world.temporaryKey organizationId n)).map (Prod.mk n))

theorem World.mem_drawings {world : World} {i n : Nat}
    : n ∈ world.drawings i ↔ world.drawn[n]? = some i := by
  simp only [World.drawings, List.mem_filter, List.mem_range, beq_iff_eq, and_iff_right_iff_imp]
  exact fun drawn => (List.getElem?_eq_some_iff.mp drawn).1

theorem World.mem_temporaries {world : World} {organizationId : UUID} {i : Nat}
    {entry : Nat × StoredObject}
    : entry ∈ world.temporaries organizationId i
      ↔ world.drawn[entry.1]? = some i
        ∧ world.object? (world.temporaryKey organizationId entry.1) = some entry.2 := by
  obtain ⟨n, object⟩ := entry
  simp only [World.temporaries, List.mem_filterMap, World.mem_drawings, Option.map_eq_some_iff,
    Prod.mk.injEq]
  constructor
  · rintro ⟨m, drawn, found, present, rfl, rfl⟩
    exact ⟨drawn, present⟩
  · rintro ⟨drawn, present⟩
    exact ⟨n, drawn, object, present, rfl, rfl⟩

/-- Temporary keys tell the positions of their ids. -/
theorem World.temporaryKey_position {world : World} {organizationId owner : UUID} {m n : Nat}
    (same : world.temporaryKey organizationId m = world.temporaryKey owner n)
    : m = n :=
  world.ids.injective m n (temporaryUploadKey_upload same)

-----------------------------------------------------------------------------------------
-- The discipline
-----------------------------------------------------------------------------------------

/-- No object lies under the temporary key of an id that is still to come. -/
def World.Unclaimed (world : World) : Prop :=
  ∀ organizationId n,
    world.drawn.length ≤ n → world.object? (world.temporaryKey organizationId n) = none

/-- What a session keeps while only the others act. -/
structure Apart (i : Nat) (before after : World) : Prop where
  ids : after.ids = before.ids
  drawn : before.drawn <+: after.drawn
  mine : ∀ n : Nat, after.drawn[n]? = some i → before.drawn[n]? = some i
  own : after.store.own i = before.store.own i
  history : after.store.history i = before.store.history i
  objects
    : ∀ organizationId n,
        before.drawn[n]? = some i
        → after.object? (before.temporaryKey organizationId n)
          = before.object? (before.temporaryKey organizationId n)

theorem getElem?_of_extends {α : Type} {first second : List α} (more : first <+: second)
    {n : Nat} {value : α} (found : first[n]? = some value)
    : second[n]? = some value := by
  obtain ⟨rest, rfl⟩ := more
  rw [List.getElem?_append_left (List.getElem?_eq_some_iff.mp found).1]
  exact found

theorem World.temporaryKey_of_ids {before after : World} (ids : after.ids = before.ids)
    : after.temporaryKey = before.temporaryKey := by
  funext organizationId n
  simp only [World.temporaryKey, ids]

theorem Apart.refl (i : Nat) (world : World) : Apart i world world where
  ids := rfl
  drawn := List.prefix_rfl
  mine _ drawn := drawn
  own := rfl
  history := rfl
  objects _ _ _ := rfl

theorem Apart.trans {i : Nat} {first second third : World} (early : Apart i first second)
    (late : Apart i second third)
    : Apart i first third where
  ids := late.ids.trans early.ids
  drawn := early.drawn.trans late.drawn
  mine n drawn := early.mine n (late.mine n drawn)
  own := late.own.trans early.own
  history := late.history.trans early.history
  objects organizationId n drawn := by
    have later := late.objects organizationId n (getElem?_of_extends early.drawn drawn)
    rw [World.temporaryKey_of_ids early.ids] at later
    exact later.trans (early.objects organizationId n drawn)

/-- The keys that a session may write: temporary keys of ids it drew, and final keys. -/
def World.MayWrite (world : World) (i : Nat) (key : Text) : Prop :=
  ∃ uploadId, world.DrawnBy i uploadId ∧ UploadKey uploadId key

/-- A key that a session may write is no temporary key of an id it did not draw. -/
theorem World.MayWrite.away {world : World} {i n : Nat} {key : Text} (may : world.MayWrite i key)
    (foreign : world.drawn[n]? ≠ some i) (organizationId : UUID)
    : key ≠ world.temporaryKey organizationId n := by
  rintro rfl
  obtain ⟨uploadId, ⟨m, drawn, rfl⟩, ⟨owner, same⟩ | ⟨owner, digest, same⟩⟩ := may
  · exact foreign (World.temporaryKey_position same ▸ drawn)
  · exact temporaryUploadKey_ne_documentContent _ _ _ _ same

/-- Only drawing an id changes the drawn ids, by cases on the operation. -/
theorem exec_drawn {i : Nat} {op : Op} {world after : World} {answer : op.Answer}
    (ran : exec i op world = some (answer, after))
    : after.drawn = world.drawn ∨ after.drawn = world.drawn ++ [i] := by
  have effect
      : ∀ change : World → World,
          (∀ w, (change w).drawn = w.drawn)
          → (world.clientEffect change).2.drawn = world.drawn := by
    intro change same
    simp only [World.clientEffect, World.clientCall]
    split
    · rename_i counted
      obtain ⟨-, rfl⟩ := Prod.mk.inj counted
      exact same _
    · rename_i counted
      obtain ⟨-, rfl⟩ := Prod.mk.inj counted
      split
      · exact same _
      · rfl
  cases op with
  | sql statement => rw [(exec_sql ran).2]; exact .inl rfl
  | enter port => cases ran; exact .inl rfl
  | now => cases ran; exact .inl rfl
  | newUuid => cases ran; exact .inr rfl
  | putObject key body mediaType =>
      have kept := effect (fun w => w.storeObject key ⟨body, some mediaType⟩) (fun _ => rfl)
      rw [Option.some.inj ran] at kept
      exact .inl kept
  | copyObject source destination mediaType =>
      simp only [exec] at ran
      split at ran
      · cases ran
        exact .inl rfl
      · have kept := effect (World.copyEffect source destination mediaType) (fun w => by
          unfold World.copyEffect
          split <;> rfl)
        rw [Option.some.inj ran] at kept
        exact .inl kept
  | deleteObject key =>
      have kept := effect (fun w => w.eraseObject key) (fun _ => rfl)
      rw [Option.some.inj ran] at kept
      exact .inl kept
  | headObject key =>
      simp only [exec, World.clientCall] at ran
      split at ran <;> rename_i counted <;> obtain ⟨-, rfl⟩ := Prod.mk.inj counted
      · split at ran <;> cases ran <;> exact .inl rfl
      · cases ran
        exact .inl rfl
  | presignUrl key expiresInSeconds =>
      simp only [exec, World.clientCall] at ran
      split at ran <;> rename_i counted <;> obtain ⟨-, rfl⟩ := Prod.mk.inj counted
      all_goals
        cases ran
        exact .inl rfl

/-- What an operation leaves alone: ids, drawn ids up to one more, and all objects that it
does not write. -/
theorem exec_leaves {i : Nat} {op : Op} {world after : World} {answer : op.Answer}
    (ran : exec i op world = some (answer, after))
    : after.ids = world.ids
      ∧ world.drawn <+: after.drawn
      ∧ ∀ key, ¬ op.Touches key → after.object? key = world.object? key := by
  by_cases sql : ∃ statement, op = .sql statement
  · obtain ⟨statement, rfl⟩ := sql
    rw [(exec_sql ran).2]
    exact ⟨rfl, List.prefix_rfl, fun _ _ => rfl⟩
  · obtain ⟨outside, objects⟩ := exec_outside ran (fun statement same => sql ⟨statement, same⟩)
    exact ⟨outside.ids, outside.drawn, objects⟩

/-- The writes and the history of the other sessions stay as they are. -/
theorem exec_others {i j : Nat} {op : Op} {world after : World} {answer : op.Answer}
    (coherent : world.store.Coherent) (ran : exec i op world = some (answer, after))
    (other : j ≠ i)
    : after.store.own j = world.store.own j ∧ after.store.history j = world.store.history j := by
  by_cases sql : ∃ statement, op = .sql statement
  · obtain ⟨statement, rfl⟩ := sql
    obtain ⟨own, -, history⟩ :=
      (Store.exec_effect coherent (exec_sql ran).1).frame other
    exact ⟨own, history⟩
  · have outside := (exec_outside ran (fun statement same => sql ⟨statement, same⟩)).1
    rw [outside.store]
    exact ⟨rfl, rfl⟩

/-- A step that writes only what the session may write. -/
theorem World.Unclaimed.step {i : Nat} {op : Op} {now after : World} {answer : op.Answer}
    (unclaimed : now.Unclaimed) (coherent : now.store.Coherent)
    (may : ∀ key, op.Touches key → now.MayWrite i key)
    (ran : exec i op now = some (answer, after))
    : after.Unclaimed ∧ ∀ j, j ≠ i → Apart j now after := by
  obtain ⟨ids, more, objects⟩ := exec_leaves ran
  have kept
      : ∀ organizationId n,
          now.drawn[n]? ≠ some i
          → after.object? (now.temporaryKey organizationId n)
            = now.object? (now.temporaryKey organizationId n) := by
    intro organizationId n foreign
    exact objects _ (fun touches => (may _ touches).away foreign organizationId rfl)
  refine ⟨?_, fun j other => ?_⟩
  · intro organizationId n later
    have before := Nat.le_trans more.length_le later
    rw [World.temporaryKey_of_ids ids, kept organizationId n (by simp [before])]
    exact unclaimed organizationId n before
  · obtain ⟨own, history⟩ := exec_others coherent ran other
    refine {
      ids := ids
      drawn := more
      mine := ?_
      own := own
      history := history
      objects := ?_
    }
    · intro n drawn
      rcases exec_drawn ran with same | same
      · rwa [same] at drawn
      · rw [same, List.getElem?_append] at drawn
        split at drawn
        · exact drawn
        · rw [List.getElem?_singleton] at drawn
          split at drawn
          · exact absurd (Option.some.inj drawn).symm other
          · cases drawn
    · intro organizationId n drawn
      exact kept organizationId n (by rw [drawn]; exact fun same => other (Option.some.inj same))

/-- The discipline of the bucket, for runs whose operations are made in coherent stores. -/
def bucket (admits : Nat → Op → World → Prop) : Discipline Op World where
  inv := World.Unclaimed
  rely := Apart
  guar i before after := ∀ j, j ≠ i → Apart j before after
  admits i op world := admits i op world ∧ world.store.Coherent

theorem bucket_coherent (admits : Nat → Op → World → Prop) : (bucket admits).Coherent where
  refl := Apart.refl
  trans _ _ _ _ := Apart.trans
  compatible i _ different _ _ promised := promised i different

variable {α : Type} {admits : Nat → Op → World → Prop} {i : Nat}

/-- A program that writes the objects of an upload keeps the discipline in the session that
drew the upload's id. By induction on the program. -/
theorem Uploading.safe {uploadId : UUID} {program : App α} (uploading : Uploading uploadId program)
    {world : World} (drawn : world.DrawnBy i uploadId)
    : Safe exec (bucket admits) i (fun _ _ => True) program world := by
  induction program generalizing world with
  | done result => exact fun _ _ _ => trivial
  | call op next ih =>
      intro now unclaimed interference admitted answer after ran
      have mine := drawn.mono interference.ids interference.drawn
      have may : ∀ key, op.Touches key → now.MayWrite i key :=
        fun key touches => ⟨uploadId, mine, uploading.1 key touches⟩
      obtain ⟨kept, promised⟩ := unclaimed.step admitted.2 may ran
      obtain ⟨ids, more, -⟩ := exec_leaves ran
      exact ⟨kept, promised, ih answer (uploading.2 answer trivial) (mine.mono ids more)⟩

/-- A program that leaves the objects alone keeps the discipline. By induction on it. -/
theorem Untouching.safe {program : App α} (untouching : Untouching program) {world : World}
    : Safe exec (bucket admits) i (fun _ _ => True) program world := by
  induction program generalizing world with
  | done result => exact fun _ _ _ => trivial
  | call op next ih =>
      intro now unclaimed interference admitted answer after ran
      obtain ⟨kept, promised⟩ :=
        unclaimed.step admitted.2 (fun key touches => absurd touches (untouching.1 key)) ran
      exact ⟨kept, promised, ih answer (untouching.2 answer trivial)⟩

-----------------------------------------------------------------------------------------
-- The document calls keep the discipline
-----------------------------------------------------------------------------------------

/-- The program keeps the discipline of the bucket from every state. -/
def Tidy (admits : Nat → Op → World → Prop) (i : Nat) {α : Type} (program : App α) : Prop :=
  ∀ world, Safe exec (bucket admits) i (fun _ _ => True) program world

namespace Tidy

variable {β : Type} {services : Services} {tenant : TenantContext}

theorem of_untouching {program : App α} (untouching : Untouching program)
    : Tidy admits i program :=
  fun _ => untouching.safe

theorem of_commitless {program : App α} (commitless : Commitless program)
    : Tidy admits i program :=
  of_untouching (.of_commitless commitless)

theorem andThen {program : App α} {next : α → App β} (first : Tidy admits i program)
    (second : ∀ value, Tidy admits i (next value))
    : Tidy admits i (program >>= next) := by
  intro world
  refine Safe.bind (bucket_coherent admits).toOrdered ((first world).mono ?_)
  intro result now _ _
  cases result with
  | ok value => exact second value now
  | error failure => trivial

theorem tryCatch {program : App α} {handler : Exn → App α} (body : Tidy admits i program)
    (handled : ∀ failure, Tidy admits i (handler failure))
    : Tidy admits i (MonadExcept.tryCatch program handler) := by
  intro world
  refine Safe.tryCatch (bucket_coherent admits).toOrdered ((body world).mono ?_)
  intro result now _ _
  cases result with
  | ok value => trivial
  | error failure => exact handled failure now

/-- After drawing the id of an upload the session may write its objects. -/
theorem newUuid {next : UUID → App α}
    (uploading : ∀ uploadId, Uploading uploadId (next uploadId))
    : Tidy admits i (newUuid >>= next) := by
  intro world now unclaimed _ admitted answer after ran
  have writes : ∀ key, Op.newUuid.Touches key → now.MayWrite i key :=
    fun _ touches => False.elim touches
  obtain ⟨kept, promised⟩ := unclaimed.step admitted.2 writes ran
  refine ⟨kept, promised, (uploading answer).safe ?_⟩
  cases ran
  exact ⟨now.drawn.length, by simp, rfl⟩

theorem processReservedUpload {command : UploadDocumentCommand} {key : Text}
    : Tidy admits i (UploadDocument.processReservedUpload services command tenant key) := by
  refine newUuid (fun uploadId => ?_)
  by_cases drawn : uploadId = 0
  · have refused
        : ∃ failure, StorageObjectKey.forTemporaryUpload tenant.organizationId uploadId
            = .error failure := by
      unfold StorageObjectKey.forTemporaryUpload validateUuid
      rw [if_neg tenant.organization_ne_nil, if_pos drawn]
      exact ⟨_, rfl⟩
    obtain ⟨failure, refused⟩ := refused
    rw [refused]
    exact Keeps.throw failure
  · rw [StorageObjectKey.forTemporaryUpload_eq tenant.organization_ne_nil drawn]
    simp only [liftExcept, Program.ofExcept, Program.bind_ok]
    split
    · exact UploadDocument.abandonUpload_uploading
    · refine Uploading.andThen UploadDocument.storeTemp_uploading (fun stored => ?_)
      cases stored with
      | ok stored => exact UploadDocument.processStoredUpload_uploading
      | error failure => exact UploadDocument.abandonUpload_uploading

theorem beginUpload {command command' : UploadDocumentCommand} {key : Text}
    {timestamp : Timestamp} {metadata : List (String × AuditValue)}
    : Tidy admits i (do
        commit
        UploadDocument.recordUploadEvent services .documentUploadStarted command tenant timestamp
          metadata
        UploadDocument.processReservedUpload services command' tenant key) := by
  refine andThen (of_untouching .commit) (fun _ => ?_)
  refine andThen (of_commitless (Commitless.recordEvent _ _ _ _ _)) (fun _ => ?_)
  exact processReservedUpload

theorem retryUpload {command : UploadDocumentCommand} {record : UploadIdempotencyRecord}
    : Tidy admits i (UploadDocument.retryUpload services command tenant record) := by
  have restarted
      : ∀ stream : UploadStream,
          Tidy admits i (do
            let timestamp ← nowOr none
            let _ ← UploadIdempotencyRepository.markInProgress tenant.organizationId
              record.idempotencyKey timestamp (timestamp + services.idempotencyTtl)
            commit
            UploadDocument.recordUploadEvent services .documentUploadStarted command tenant
              timestamp [("idempotency_replay", .bool true)]
            UploadDocument.processReservedUpload services { command with stream } tenant
              record.idempotencyKey) := by
    intro stream
    refine andThen (of_commitless (Commitless.nowOr _)) (fun timestamp => ?_)
    refine andThen (of_commitless
      (UploadIdempotencyRepository.markInProgress_commitless _ _ _ _)) (fun _ => ?_)
    exact beginUpload
  unfold UploadDocument.retryUpload
  dsimp only
  split
  · exact restarted _
  · exact andThen (of_commitless (Commitless.liftExcept _)) (fun _ => restarted _)

theorem handleExistingRecord {command : UploadDocumentCommand}
    {record : UploadIdempotencyRecord}
    : Tidy admits i (UploadDocument.handleExistingRecord services command tenant record) := by
  by_cases retried : record.status = .failed ∧ record.retryable = true
  · unfold UploadDocument.handleExistingRecord
    simp only [retried, if_true]
    exact retryUpload
  · exact of_commitless (UploadDocument.handleExistingRecord_commitless retried)

theorem upload {command : UploadDocumentCommand} {now : Option Datetime}
    : Tidy admits i (UploadDocument.upload services command tenant now) := by
  unfold UploadDocument.upload
  refine andThen (of_commitless (Commitless.liftExcept _)) (fun _ => ?_)
  refine andThen (of_commitless (Commitless.nowOr _)) (fun timestamp => ?_)
  refine andThen (of_commitless (Commitless.liftExcept _)) (fun key => ?_)
  refine andThen (of_commitless (UploadIdempotencyRepository.get_commitless _ _)) (fun found => ?_)
  cases found with
  | some existing => exact handleExistingRecord
  | none =>
      refine andThen (of_commitless
        (UploadIdempotencyRepository.reserve_commitless _ _ _ _)) (fun _ => ?_)
      exact beginUpload

theorem useCase (call : DocumentCall) : Tidy admits i (call.useCase services) := by
  cases call with
  | registerDocument command tenant now =>
      exact andThen (of_untouching (DocumentService.registerDocument_untouching _ _))
        (fun _ => of_commitless (Commitless.pure _))
  | uploadDocument command tenant now =>
      exact andThen upload (fun _ => of_commitless (Commitless.pure _))
  | createVersion command tenant now =>
      exact andThen (of_untouching (DocumentService.createVersion_untouching _ _))
        (fun _ => of_commitless (Commitless.pure _))
  | archiveDocument documentId tenant now auditContext =>
      exact andThen (of_untouching (DocumentService.archiveDocument_untouching _ _ _))
        (fun _ => of_commitless (Commitless.pure _))
  | archiveDocumentWithLock command tenant now =>
      exact andThen (of_untouching (DocumentService.archiveDocumentWithLock_untouching _ _))
        (fun _ => of_commitless (Commitless.pure _))

theorem body (call : DocumentCall) : Tidy admits i (call.body services) := by
  have ended
      : Tidy admits i (MonadExcept.tryCatch
          (do return Except.ok (← call.useCase services)) (fun failure => return .error failure)) :=
    tryCatch (andThen (useCase call) (fun _ => of_commitless (Commitless.pure _)))
      (fun _ => of_commitless (Commitless.pure _))
  exact andThen ended (fun result => of_commitless
    (Commitless.andThen Commitless.sessionRollback (fun _ => Commitless.liftExcept _)))

end Tidy

end WorkflowForge
