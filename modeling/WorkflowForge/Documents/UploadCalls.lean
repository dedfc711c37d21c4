import WorkflowForge.Application.Streaming
import WorkflowForge.Documents.ServiceCalls

/-! The upload use case as a session. -/

namespace WorkflowForge

open Python Transactions Concurrency

variable {regime : Regime} {i : Nat} {needs frame : World → Prop}
  {pending : List (Write schema) → Prop}

/-- A created document was committed as it is reported. -/
def Reported (regime : Regime) (i : Nat) (result : UploadDocumentResult) (world : World)
    : Prop :=
  result.outcome = .created → Logged i (Saves regime i result.document) world

theorem Durable.reported (result : UploadDocumentResult)
    : Durable regime i (Reported regime i result) :=
  (Durable.logged _).implies

/-- `mark_stored` and `mark_failed` of a document that was just added. -/
theorem follows_of_transition {u : Unicode} {base document result : Document}
    {status : DocumentStatus} {actorUserId : UUID} {timestamp : Timestamp}
    (loaded : documentFromRecord u base = .ok document) (settled : document.Settled u)
    (moved : document.transitionTo u status actorUserId timestamp = .ok result)
    : Follows u base result ∧ result.currentVersionId = base.currentVersionId
      ∧ result.id = base.id := by
  obtain ⟨movable, rfl, settled'⟩ := Document.transitionTo_eq_ok settled moved
  have fields := documentFromRecord_fields loaded
  have active : document.status ≠ .archived := by
    rcases movable with registered | failed
    · rw [registered]
      decide
    · rw [failed]
      decide
  exact ⟨.of_loaded loaded ⟨rfl, rfl, rfl, rfl, rfl, active, settled'⟩, by rw [fields],
    by rw [fields]⟩

/-- What is uncommitted once the version and its document are marked as stored. -/
def Promoted (regime : Regime) (i : Nat) (row : DocumentVersionRecord) (document : Document)
    (writes : List (Write schema))
    : Prop :=
  (Uncompleted writes ∧ Leaves writes .documentVersions { row with storageState := .stored })
  ∧ Saves regime i document writes

namespace UploadDocument

variable {services : Services}

/-- The record of a failed upload. -/
theorem recordFailedUpload_spec {command : UploadDocumentCommand} {tenant : TenantContext}
    {errorCode : String} {documentId : Option UUID}
    (framed : Framed services.platform.unicode regime i frame) (lenient : Lenient pending)
    : Spec services.platform.unicode regime i needs
        (fun world => Mildly services.platform.unicode regime i pending world ∧ frame world)
        (recordFailedUpload services command tenant errorCode documentId)
        (fun _ _ => True)
        (fun _ world =>
          Mildly services.platform.unicode regime i pending world ∧ frame world)
        (fun _ => True) := by
  refine Silent.before (Mildly.steady framed) now_silent ?_ (fun _ _ => trivial)
  intro now
  exact (recordEvent_spec framed lenient).mono (fun _ known => known) (fun _ _ _ holds => holds)
    (fun _ _ _ _ fact holds => ⟨fact, holds⟩) (fun _ _ _ => trivial)

theorem deleteTempBestEffort_spec {organizationId uploadId : UUID} {shape : World → Prop}
    {failed : World → Prop} (firm : Firm services.platform.unicode regime i shape)
    (drawn : ∀ world, needs world → world.DrawnBy i uploadId)
    : Spec services.platform.unicode regime i needs shape
        (deleteTempBestEffort (temporaryUploadKey organizationId uploadId))
        (fun _ _ => True) (fun _ => shape) failed :=
  Spec.tryCatch shape (ObjectStorage.deleteObject_spec firm drawn)
    (fun _ => Spec.pure firm.steady (fun _ _ => trivial))

theorem newDocumentPair_silent {tenant : TenantContext} {metadata : NormalizedUploadMetadata}
    {contentHash : ContentHash} {byteSize : Nat} {now : Timestamp}
    : Silent services.platform.unicode regime i needs
        (newDocumentPair services tenant metadata contentHash byteSize now)
        (fun pair world =>
          (Drafted services.platform.unicode tenant pair.1 pair.2
            ∧ pair.2.byteSize = byteSize
            ∧ pair.2.contentHash = contentHash)
          ∧ world.DrawnBy i pair.1.id
          ∧ world.DrawnBy i pair.2.id) :=
  draft_silent

/-- Marking the record as failed and committing, whatever came before. -/
theorem failUpload_spec {command : UploadDocumentCommand} {tenant : TenantContext}
    {key : Text} {fingerprint : Option Text} {code : String} {status : Nat}
    {retryable : Bool} {failure : Exn} {documentId : Option UUID}
    {facts : UploadDocumentResult → World → Prop}
    : Spec services.platform.unicode regime i needs
        (fun world =>
          Mildly services.platform.unicode regime i (fun _ => True) world ∧ True)
        (do
          let now ← nowOr none
          let _ ← UploadIdempotencyRepository.fail tenant.organizationId key fingerprint code
            status retryable now
          commit
          recordFailedUpload services command tenant code documentId
          throw failure)
        facts (fun _ _ => True) (fun _ => True) := by
  have steady
      : Steady services.platform.unicode regime i (fun world =>
          Mildly services.platform.unicode regime i (fun _ => True) world ∧ True) :=
    Mildly.steady (Framed.const True)
  refine Silent.before steady nowOr_silent ?_ (fun _ _ => trivial)
  intro now
  refine Spec.bind_loose (fun _ => Durable.const regime i True)
    (UploadIdempotencyRepository.fail_spec (Framed.const True) Lenient.true) ?_
  intro _
  refine Spec.bind_loose (fun _ => Durable.logged _)
    (commit_mild (Framed.const True) (fun _ _ _ _ _ holds => holds)) ?_
  intro _
  refine Spec.bind_loose (fun _ => Durable.const regime i True)
    (Spec.mono (recordFailedUpload_spec (Framed.const True) Lenient.true)
      (fun _ known => known) (fun _ _ _ holds => ⟨holds.1.mildly trivial, trivial⟩)
      (fun _ _ _ _ fact holds => ⟨fact, holds⟩) (fun _ _ holds => holds)) ?_
  exact fun _ => Spec.abandon

theorem abandonUpload_spec {command : UploadDocumentCommand} {tenant : TenantContext}
    {key : Text} {organizationId uploadId : UUID} {fingerprint : Option Text} {failure : Exn}
    {facts : UploadDocumentResult → World → Prop}
    (drawn : ∀ world, needs world → world.DrawnBy i uploadId)
    : Spec services.platform.unicode regime i needs
        (fun world =>
          Mildly services.platform.unicode regime i (fun _ => True) world ∧ True)
        (abandonUpload services command tenant key
          (temporaryUploadKey organizationId uploadId) fingerprint failure)
        facts (fun _ _ => True) (fun _ => True) := by
  have unavailable
      : Spec services.platform.unicode regime i needs
          (fun world =>
            Mildly services.platform.unicode regime i (fun _ => True) world ∧ True)
          (do
            deleteTempBestEffort (temporaryUploadKey organizationId uploadId)
            let now ← nowOr none
            let _ ← UploadIdempotencyRepository.fail tenant.organizationId key fingerprint
              "object_storage_unavailable" 503 true now
            commit
            recordFailedUpload services command tenant "object_storage_unavailable" none
            throw (.objectStorageUnavailable "Object storage is unavailable."))
          facts (fun _ _ => True) (fun _ => True) :=
    Spec.bind (fun _ => Durable.const regime i True)
      (deleteTempBestEffort_spec (Mildly.firm.and (Firm.const True)) drawn)
      (fun _ => failUpload_spec)
  cases failure with
  | uploadValidation code message => exact failUpload_spec
  | _ => exact unavailable

theorem requireCurrentVersion_spec {document : Document}
    (framed : Framed services.platform.unicode regime i frame)
    : Spec services.platform.unicode regime i needs
        (fun world => Mildly services.platform.unicode regime i pending world ∧ frame world)
        (requireCurrentVersion services document)
        (fun version world => version.id = document.currentVersionId
          ∧ HasVersion document.id document.currentVersionId world)
        (fun _ world =>
          Mildly services.platform.unicode regime i pending world ∧ frame world)
        (fun _ => True) := by
  refine Spec.bind_loose
    (fun result => Durable.forall fun version =>
      ((Durable.const regime i _).and (Durable.hasVersion _ _)).implies)
    (DocumentRepository.getVersion_spec framed) ?_
  intro result
  cases result with
  | none => exact Spec.abandon
  | some version => exact Spec.pure (Mildly.steady framed) (fun _ known => known.2 version rfl)

theorem completeDuplicate_spec {command : UploadDocumentCommand} {tenant : TenantContext}
    {key fingerprint : Text} {uploadId : UUID} {duplicate : Document} {byteSize : Nat}
    (drawn : ∀ world, needs world → world.DrawnBy i uploadId)
    (found : ∀ world, needs world → Found regime tenant.organizationId duplicate world)
    : Spec services.platform.unicode regime i needs (Clean i)
        (completeDuplicate services command tenant key fingerprint
          (temporaryUploadKey tenant.organizationId uploadId) duplicate byteSize)
        (Reported regime i) (fun _ _ => True) (fun _ => True) := by
  refine Spec.bind (fun _ => Durable.const regime i True)
    (deleteTempBestEffort_spec Clean.firm drawn) ?_
  intro _
  have start
      : ∀ world, Clean i world
        → Mildly services.platform.unicode regime i (fun _ => True) world ∧ True :=
    fun _ clean => ⟨clean.mildly trivial, trivial⟩
  refine Spec.bind_loose (fun _ => (Durable.const regime i _).and (Durable.hasVersion _ _))
    (Spec.mono (requireCurrentVersion_spec (Framed.const True)) (fun _ known => known)
      (fun world _ _ holds => start world holds)
      (fun _ _ _ _ fact holds => ⟨fact, holds⟩) (fun _ _ holds => holds)) ?_
  intro version
  refine Silent.leads (Mildly.steady (Framed.const True)) (fun _ => Durable.const regime i True)
    now_silent ?_
  intro now
  refine Spec.of_state _ (fun world _ known _ => known.1.2.1) ?_
  intro current
  refine Spec.bind_loose (fun _ => Durable.const regime i True)
    (UploadIdempotencyRepository.complete_spec (Framed.const True) Lenient.true (fun _ _ => trivial)
      (.inl rfl)
      (fun world known => by rw [current]; exact known.1.2.2) ?_) ?_
  · intro world sane known mildly _ strict
    rw [current]
    exact Mildly.kept_view mildly sane strict ((found world known.1.1.1).2.2 strict)
  intro _
  refine Spec.bind_loose (fun _ => Durable.logged _)
    (commit_mild (Framed.const True) (fun _ _ _ _ _ holds => holds)) ?_
  intro _
  have clean
      : Steady services.platform.unicode regime i (fun world => Clean i world ∧ True) :=
    Clean.firm.steady.and (Firm.const True).steady
  refine Silent.leads clean (fun _ => Durable.const regime i True) now_silent ?_
  intro later
  refine Spec.bind_loose (fun _ => Durable.const regime i True)
    (Spec.mono (recordEvent_spec (Framed.const True) Lenient.true)
      (fun _ known => known) (fun _ _ _ holds => ⟨holds.1.mildly trivial, trivial⟩)
      (fun _ _ _ _ fact holds => ⟨fact, holds⟩) (fun _ _ holds => holds)) ?_
  intro _
  exact Spec.finished (fun _ _ created => by cases created)

-----------------------------------------------------------------------------------------
-- Promotion of new content
-----------------------------------------------------------------------------------------

/-- The object is at the final key of the version that the session just added. -/
theorem placeObject_spec {row : DocumentVersionRecord} {organizationId uploadId : UUID}
    {finalKey : StorageObjectKey} {mediaType : Text} {body : Bytes} {byteSize : Nat}
    (unstored : row.storageState ≠ .stored) (final : finalKey.value = row.storageObjectKey)
    (size : (body.length : Int) = row.byteSize) (counted : byteSize = body.length)
    (drawn : ∀ world, needs world → world.DrawnBy i uploadId)
    : Spec services.platform.unicode regime i needs
        (fun world => Clean i world ∧ Fresh i row world
          ∧ TempHas i organizationId uploadId body world)
        (placeObject (temporaryUploadKey organizationId uploadId) finalKey mediaType byteSize)
        (fun _ _ => True) (fun _ world => Clean i world ∧ Fresh i row world ∧ Sized row world)
        (fun world => Clean i world ∧ Fresh i row world) := by
  have start
      : Steady services.platform.unicode regime i (fun world => Clean i world ∧ Fresh i row world
          ∧ TempHas i organizationId uploadId body world) :=
    Clean.firm.steady.and ((Fresh.framed row).steady.and
      (TempHas.framed organizationId uploadId body).steady)
  have sized
      : Firm services.platform.unicode regime i (fun world =>
          Clean i world ∧ Fresh i row world ∧ Sized row world) :=
    Clean.firm.and (fun _ _ _ _ calm _ holds => holds.1.sized calm holds.2)
  have plain
      : Steady services.platform.unicode regime i (fun world =>
          Clean i world ∧ Fresh i row world) :=
    Clean.firm.steady.and (Fresh.framed row).steady
  refine Spec.bind (fun _ => Durable.const regime i True)
    (Spec.mono (ObjectStorage.headObject_spec start
        (fun world holds => by rw [final]; exact holds.2.1.owns))
      (fun _ known => known) (fun _ _ _ holds => holds)
      (fun _ _ _ _ fact holds => ⟨fact, holds⟩) (fun _ _ holds => ⟨holds.1, holds.2.1⟩)) ?_
  intro result
  cases result with
  | none =>
      refine Spec.bind (fun _ => Durable.const regime i True)
        (Spec.mono (ObjectStorage.promoteTempObject_spec unstored final size
            (fun world known => drawn world known.1))
          (fun _ known => known) (fun _ _ _ holds => holds.1)
          (fun _ _ _ _ fact holds => ⟨fact, holds⟩) (fun _ _ holds => holds)) ?_
      exact fun _ => Spec.pure sized.steady (fun _ _ => trivial)
  | some existing =>
      dsimp only
      split
      · exact Spec.mono (Spec.throw plain) (fun _ known => known)
          (fun _ _ _ holds => ⟨holds.1.1, holds.1.2.1⟩)
          (fun _ _ _ _ fact holds => ⟨fact, holds⟩) (fun _ _ holds => holds)
      · rename_i equal
        have same : existing.byteSize = byteSize := Decidable.not_not.mp equal
        refine Spec.mono (deleteTempBestEffort_spec sized
            (fun world known => drawn world known.1))
          (fun _ known => known) ?_ (fun _ _ _ _ fact holds => ⟨fact, holds⟩)
          (fun _ _ holds => holds)
        intro world _ _ holds
        obtain ⟨object, found, length⟩ := holds.2 existing rfl
        refine ⟨holds.1.1, holds.1.2.1, object, by rw [← final]; exact found, ?_⟩
        rw [length, same, counted]
        exact size

/-- Promotion marks the version and its document as stored, or leaves both alone. -/
theorem promoteNewDocument_spec {tenant : TenantContext} {base document : Document}
    {version : DocumentVersion} {uploadId : UUID} {mediaType : Text} {body : Bytes}
    {byteSize : Nat} {contentHash : ContentHash}
    (draft : Drafted services.platform.unicode tenant base version)
    (loaded : documentFromRecord services.platform.unicode base = .ok document)
    (size : version.byteSize = byteSize) (counted : byteSize = body.length)
    (hash : version.contentHash = contentHash)
    (drawn : ∀ world, needs world → world.DrawnBy i uploadId)
    (descends : ∀ world, needs world → Descends base world)
    : Spec services.platform.unicode regime i needs
        (fun world => Clean i world ∧ Fresh i (recordFromVersion version) world
          ∧ TempHas i tenant.organizationId uploadId body world)
        (promoteNewDocument services tenant document version
          (temporaryUploadKey tenant.organizationId uploadId) mediaType byteSize contentHash)
        (fun pair _ => pair.1.id = base.id ∧ pair.2.id = version.id)
        (fun pair world =>
          Mildly services.platform.unicode regime i
            (Promoted regime i (recordFromVersion version) pair.1) world
          ∧ Fresh i (recordFromVersion version) world
          ∧ Sized (recordFromVersion version) world)
        (fun world =>
          Mildly services.platform.unicode regime i Uncompleted world
          ∧ Fresh i (recordFromVersion version) world) := by
  have unstored : (recordFromVersion version).storageState ≠ .stored := by
    have pending : (recordFromVersion version).storageState = .pending := draft.pending
    rw [pending]
    decide
  have settled := (draft.loads loaded).1.settled loaded
  have start
      : Steady services.platform.unicode regime i (fun world =>
          Clean i world ∧ Fresh i (recordFromVersion version) world
          ∧ TempHas i tenant.organizationId uploadId body world) :=
    Clean.firm.steady.and ((Fresh.framed _).steady.and (TempHas.framed _ _ _).steady)
  have framed
      : Framed services.platform.unicode regime i (fun world =>
          Fresh i (recordFromVersion version) world
          ∧ Sized (recordFromVersion version) world) :=
    Sized.framed _
  have backOut
      : ∀ world,
          Clean i world ∧ Fresh i (recordFromVersion version) world
          → Mildly services.platform.unicode regime i Uncompleted world
            ∧ Fresh i (recordFromVersion version) world :=
    fun _ holds => ⟨holds.1.mildly .nil, holds.2⟩
  simp only [promoteNewDocument,
    StorageObjectKey.forDocumentContent_eq tenant.organization_ne_nil contentHash]
  refine Spec.bind (fun _ => Durable.const regime i _)
    (Spec.mono (Spec.lift start (fun finalKey same _ _ => (Except.ok.inj same).symm))
      (fun _ known => known) (fun _ _ _ holds => holds)
      (fun _ _ _ _ fact holds => ⟨fact, holds⟩)
      (fun world _ holds => backOut world ⟨holds.1, holds.2.1⟩)) ?_
  intro finalKey
  refine Spec.of_state _ (fun world _ known _ => known.2) ?_
  rintro rfl
  refine Spec.bind (fun _ => Durable.const regime i True)
    (Spec.mono (placeObject_spec unstored ?_ ?_ counted (fun world known => drawn world known.1))
      (fun _ known => known) (fun _ _ _ holds => holds)
      (fun _ _ _ _ fact holds => ⟨fact, holds⟩) (fun world _ holds => backOut world holds)) ?_
  · have key := draft.key
    rw [draft.organization, draft.tenancy, hash] at key
    exact key.symm
  · rw [← counted, ← size]
    rfl
  intro _
  have marked
      : Spec services.platform.unicode regime i needs
          (fun world =>
            Mildly services.platform.unicode regime i Uncompleted world
            ∧ Fresh i (recordFromVersion version) world
            ∧ Sized (recordFromVersion version) world)
          (DocumentRepository.markVersionStored services.platform.unicode
            tenant.organizationId document.id version.id)
          (fun stored _ => stored.id = version.id)
          (fun _ world =>
            Mildly services.platform.unicode regime i
              (fun writes => Uncompleted writes
                ∧ Leaves writes .documentVersions
                    { recordFromVersion version with storageState := .stored })
              world
            ∧ Fresh i (recordFromVersion version) world
            ∧ Sized (recordFromVersion version) world)
          (fun world =>
            Mildly services.platform.unicode regime i Uncompleted world
            ∧ Fresh i (recordFromVersion version) world
            ∧ Sized (recordFromVersion version) world) := by
    refine Silent.before (Mildly.steady framed) enter_silent ?_ (fun _ holds => holds)
    intro _
    exact DocumentRepository.markVersionStorageState_spec framed (fun _ holds => holds.1)
      (fun _ => unstored) (fun _ holds _ => holds.2) (fun _ here _ => here)
      (fun _ _ here => here.concat (by decide))
  refine Spec.bind (fun _ => Durable.const regime i _)
    (Spec.mono marked (fun _ known => known.1.1)
      (fun _ _ _ holds => ⟨holds.1.mildly .nil, holds.2⟩)
      (fun _ _ _ _ fact holds => ⟨fact, holds⟩) (fun _ _ holds => ⟨holds.1, holds.2.1⟩)) ?_
  intro storedVersion
  have givesUp
      : ∀ world,
          Mildly services.platform.unicode regime i
              (fun writes => Uncompleted writes
                ∧ Leaves writes .documentVersions
                    { recordFromVersion version with storageState := .stored })
              world
            ∧ Fresh i (recordFromVersion version) world
            ∧ Sized (recordFromVersion version) world
          → Mildly services.platform.unicode regime i Uncompleted world
            ∧ Fresh i (recordFromVersion version) world :=
    fun _ holds => ⟨holds.1.weaken (fun here => here.1), holds.2.1⟩
  refine Silent.before (Mildly.steady framed) now_silent ?_ givesUp
  intro now
  refine Spec.bind (fun _ => Durable.const regime i _)
    (Spec.mono (Spec.lift (Mildly.steady framed) (fun stored moved _ _ => moved))
      (fun _ known => known) (fun _ _ _ holds => holds)
      (fun _ _ _ _ fact holds => ⟨fact, holds⟩) (fun world _ holds => givesUp world holds)) ?_
  intro storedDocument
  refine Spec.of_state _ (fun world _ known _ => known.2) ?_
  intro moved
  obtain ⟨follows, current, id⟩ := follows_of_transition loaded settled moved
  refine Spec.bind (fun _ => Durable.const regime i True)
    (Spec.mono (DocumentRepository.archiveDocument_spec framed follows current
        (fun world known => descends world known.1.1.1.1)
        (fun _ here => ⟨here.1.concat (by decide), here.2.concat (by simp [Write.target])⟩))
      (fun _ known => known) (fun _ _ _ holds => holds)
      (fun _ _ _ _ _ holds => ⟨trivial, holds⟩) (fun world _ holds => givesUp world holds)) ?_
  intro _
  exact Spec.gives (Mildly.steady framed) (fun _ _ known holds => ⟨⟨id, known.1.1.2⟩, holds⟩)

/-- What a failed promotion or completion leaves: the session's version row, and no
uncommitted completion as long as only the object storage fails. -/
def Unfinished (u : Unicode) (regime : Regime) (i : Nat) (id : UUID) (world : World) : Prop :=
  ∃ row : DocumentVersionRecord,
    (row.id = id ∧ (regime.strict → row.storageState ≠ .stored))
    ∧ Mildly u regime i (fun writes => regime.strict → Uncompleted writes) world
    ∧ Fresh i row world

theorem markUploadStorageFailed_spec {command : UploadDocumentCommand}
    {tenant : TenantContext} {key fingerprint : Text} {base document : Document}
    {version : DocumentVersion}
    (loaded : documentFromRecord services.platform.unicode base = .ok document)
    (settled : document.Settled services.platform.unicode)
    (descends : ∀ world, needs world → Descends base world)
    : Spec services.platform.unicode regime i needs
        (Unfinished services.platform.unicode regime i version.id)
        (markUploadStorageFailed services command tenant key fingerprint document version)
        (fun _ _ => True) (fun _ _ => True) (fun _ => True) := by
  refine Spec.exists fun row => ?_
  refine Spec.of_state _ (fun world _ _ holds => holds.1) ?_
  rintro ⟨id, unstored⟩
  have framed : Framed services.platform.unicode regime i (Fresh i row) := Fresh.framed row
  have marked
      : Spec services.platform.unicode regime i needs
          (fun world =>
            Mildly services.platform.unicode regime i
              (fun writes => regime.strict → Uncompleted writes) world
            ∧ Fresh i row world)
          (DocumentRepository.markVersionFailed services.platform.unicode
            tenant.organizationId document.id version.id)
          (fun _ _ => True)
          (fun _ world =>
            Mildly services.platform.unicode regime i (fun _ => True) world ∧ Fresh i row world)
          (fun _ => True) := by
    refine Silent.before (Mildly.steady framed) enter_silent ?_ (fun _ _ => trivial)
    intro _
    rw [← id]
    refine Spec.mono (DocumentRepository.markVersionStorageState_spec framed
        (fun _ holds => holds) unstored (fun _ _ never => by cases never)
        (fun _ here strict => here strict)
        (fun _ _ here strict => (here strict).concat (by decide)))
      (fun _ known => known) (fun _ _ _ holds => holds)
      (fun _ _ _ _ _ holds => ⟨trivial, holds.1.weaken (fun _ => trivial), holds.2⟩)
      (fun _ _ _ => trivial)
  refine Spec.bind (fun _ => Durable.const regime i True)
    (Spec.mono marked (fun _ known => known) (fun _ _ _ holds => holds.2)
      (fun _ _ _ _ fact holds => ⟨fact, holds⟩) (fun _ _ holds => holds)) ?_
  intro _
  refine Silent.before (Mildly.steady framed) now_silent ?_ (fun _ _ => trivial)
  intro now
  refine Silent.leads (Mildly.steady framed) (fun _ => Durable.const regime i _)
    (Silent.lift (fun failed moved _ _ => moved)) ?_
  intro failedDocument
  refine Spec.of_state _ (fun world _ known _ => known.2) ?_
  intro moved
  obtain ⟨follows, current, -⟩ := follows_of_transition loaded settled moved
  refine Spec.bind_loose (fun _ => Durable.const regime i _)
    (DocumentRepository.archiveDocument_spec framed follows current
      (fun world known => descends world known.1.1) (fun _ _ => trivial)) ?_
  intro _
  refine Silent.leads (Mildly.steady framed) (fun _ => Durable.const regime i True)
    now_silent ?_
  intro later
  refine Spec.bind_loose (fun _ => Durable.const regime i True)
    (UploadIdempotencyRepository.fail_spec framed
      (Lenient.true.and (Saves.lenient failedDocument))) ?_
  intro _
  refine Spec.bind_loose (fun _ => Durable.logged _)
    (Spec.mono (commit_mild (Framed.const True) (fun _ _ _ _ _ holds => holds))
      (fun _ known => known) (fun _ _ _ holds => ⟨holds.1, trivial⟩)
      (fun _ _ _ _ fact holds => ⟨fact, holds⟩) (fun _ _ holds => holds)) ?_
  intro _
  exact (Spec.mono (recordFailedUpload_spec (Framed.const True) Lenient.true)
    (fun _ known => known) (fun _ _ _ holds => ⟨holds.1.mildly trivial, trivial⟩)
    (fun _ _ _ _ fact holds => ⟨fact, holds⟩) (fun _ _ holds => holds)).loosely

/-- The commit that completes a new document. -/
theorem commit_promoted {row : DocumentVersionRecord} {document : Document}
    (frames : ∀ world, frame world → Fresh i row world)
    (framed : Framed services.platform.unicode regime i frame)
    : Spec services.platform.unicode regime i needs
        (fun world =>
          Mildly services.platform.unicode regime i
            (fun writes =>
              Leaves writes .documentVersions { row with storageState := .stored }
              ∧ Saves regime i document writes)
            world
          ∧ frame world)
        commit (fun _ => Logged i (Saves regime i document))
        (fun _ world => Clean i world ∧ Fresh i { row with storageState := .stored } world)
        (fun world =>
          (Mildly services.platform.unicode regime i
              (fun writes =>
                Leaves writes .documentVersions { row with storageState := .stored }
                ∧ Saves regime i document writes)
              world
            ∧ frame world)
          ∧ ¬ regime.strict) := by
  refine commit_spec (Mildly.steady framed) (Durable.logged _)
    (Clean.firm.steady.and (Fresh.framed _).steady)
    (fun now sane _ holds => holds.1.publishes sane) ?_
  intro now after _ _ advances _ ⟨mildly, held⟩ commits
  refine ⟨commits.logged mildly.pending.2, commits.own, ?_, ?_⟩
  · exact (frames now held).1.mono advances.ids advances.drawn
  · rw [commits.committed]
    exact mildly.pending.1 now.store.committed

theorem storeNewDocument_spec {command : UploadDocumentCommand} {tenant : TenantContext}
    {key : Text} {uploadId : UUID} {upload : PreparedUpload} {base document : Document}
    {version : DocumentVersion}
    (draft : Drafted services.platform.unicode tenant base version)
    (loaded : documentFromRecord services.platform.unicode base = .ok document)
    (size : version.byteSize = upload.streamed.byteSize)
    (counted : upload.streamed.byteSize = upload.streamed.body.length)
    (hash : version.contentHash = upload.streamed.contentHash)
    (drawn : ∀ world, needs world → world.DrawnBy i uploadId)
    (descends : ∀ world, needs world → Descends base world)
    (present : ∀ world, needs world → HasVersion base.id version.id world)
    (account : ∀ world, needs world → Account tenant world)
    : Spec services.platform.unicode regime i needs
        (fun world => Clean i world ∧ Fresh i (recordFromVersion version) world
          ∧ TempHas i tenant.organizationId uploadId upload.streamed.body world)
        (storeNewDocument services command tenant key
          (temporaryUploadKey tenant.organizationId uploadId) upload document version)
        (Reported regime i) (fun _ _ => True) (fun _ => True) := by
  have settled := (draft.loads loaded).1.settled loaded
  have unstored : (recordFromVersion version).storageState ≠ .stored := by
    have pending : (recordFromVersion version).storageState = .pending := draft.pending
    rw [pending]
    decide
  have framed
      : Framed services.platform.unicode regime i (fun world =>
          Fresh i (recordFromVersion version) world
          ∧ Sized (recordFromVersion version) world) :=
    Sized.framed _
  -- Every failure of the body leaves what the handler starts from.
  have unfinished
      : ∀ world,
          Mildly services.platform.unicode regime i Uncompleted world
            ∧ Fresh i (recordFromVersion version) world
          → Unfinished services.platform.unicode regime i version.id world :=
    fun _ holds => ⟨recordFromVersion version, ⟨rfl, fun _ => unstored⟩,
      holds.1.weaken (fun here _ => here), holds.2⟩
  refine Spec.tryCatch (Unfinished services.platform.unicode regime i version.id) ?_ ?_
  · refine Spec.bind (fun _ => Durable.const regime i _)
      (Spec.mono (promoteNewDocument_spec draft loaded size counted hash drawn descends)
        (fun _ known => known) (fun _ _ _ holds => holds)
        (fun _ _ _ _ fact holds => ⟨fact, holds⟩) (fun world _ holds => unfinished world holds)) ?_
    rintro ⟨storedDocument, storedVersion⟩
    refine Spec.of_state _ (fun world _ known _ => known.2) ?_
    rintro ⟨documentId, versionId⟩
    have backOut
        : ∀ world,
            Mildly services.platform.unicode regime i
                (Promoted regime i (recordFromVersion version) storedDocument) world
              ∧ Fresh i (recordFromVersion version) world
              ∧ Sized (recordFromVersion version) world
            → Unfinished services.platform.unicode regime i version.id world :=
      fun world holds => unfinished world ⟨holds.1.weaken (fun here => here.1.1), holds.2.1⟩
    refine Silent.before (Mildly.steady framed) now_silent ?_ backOut
    intro now
    have completed
        : Spec services.platform.unicode regime i needs
            (fun world =>
              Mildly services.platform.unicode regime i
                (Promoted regime i (recordFromVersion version) storedDocument) world
              ∧ Fresh i (recordFromVersion version) world
              ∧ Sized (recordFromVersion version) world)
            (UploadIdempotencyRepository.complete tenant.organizationId key upload.fingerprint
              storedDocument.id storedVersion.id 201 .created now)
            (fun _ _ => True)
            (fun _ world =>
              Mildly services.platform.unicode regime i
                (fun writes =>
                  Leaves writes .documentVersions
                    { recordFromVersion version with storageState := .stored }
                  ∧ Saves regime i storedDocument writes)
                world
              ∧ Fresh i (recordFromVersion version) world
              ∧ Sized (recordFromVersion version) world)
            (fun world =>
              Mildly services.platform.unicode regime i
                (Promoted regime i (recordFromVersion version) storedDocument) world
              ∧ Fresh i (recordFromVersion version) world
              ∧ Sized (recordFromVersion version) world) := by
      refine UploadIdempotencyRepository.complete_spec framed
        ((Lenient.leaves_version _).and (Saves.lenient storedDocument))
        (fun _ here => ⟨here.1.2, here.2⟩) (.inr rfl) ?_ ?_
      · intro world known
        rw [documentId, versionId]
        exact present world known
      · intro world _ _ mildly _ _
        refine ⟨{ recordFromVersion version with storageState := .stored }, versionId.symm, ?_, rfl⟩
        exact mildly.pending.1.2 world.store.committed
    refine Spec.bind (fun _ => Durable.const regime i True)
      (Spec.mono completed (fun _ known => known.1) (fun _ _ _ holds => holds)
        (fun _ _ _ _ fact holds => ⟨fact, holds⟩) (fun world _ holds => backOut world holds)) ?_
    intro _
    refine Spec.bind (fun _ => Durable.logged _)
      (Spec.mono (commit_promoted (fun _ holds => holds.1) framed)
        (fun _ known => known) (fun _ _ _ holds => holds)
        (fun _ _ _ _ fact holds => ⟨fact, holds⟩) ?_) ?_
    · intro world _ holds
      exact ⟨recordFromVersion version, ⟨rfl, fun _ => unstored⟩,
        holds.1.1.weaken (fun _ strict => absurd strict holds.2), holds.1.2.1⟩
    intro _
    have stored
        : Framed services.platform.unicode regime i
            (Fresh i { recordFromVersion version with storageState := .stored }) :=
      Fresh.framed _
    have clean
        : ∀ world,
            Clean i world
              ∧ Fresh i { recordFromVersion version with storageState := .stored } world
            → Mildly services.platform.unicode regime i (fun _ => True) world
              ∧ Fresh i { recordFromVersion version with storageState := .stored } world :=
      fun _ holds => ⟨holds.1.mildly trivial, holds.2⟩
    refine Spec.bind (fun _ => Durable.const regime i True)
      (now_spec (Clean.firm.steady.and stored.steady)) ?_
    intro later
    refine Spec.bind (fun _ => Durable.const regime i True)
      (Spec.mono (recordEvent_spec stored Lenient.true)
        (fun _ known => known) (fun world _ _ holds => clean world holds)
        (fun _ _ _ _ fact holds => ⟨fact, holds⟩) ?_) ?_
    · intro world _ holds
      have lax : ¬ regime.strict :=
        holds.2 (fun now known => account now known.1.1.1.1)
      exact ⟨{ recordFromVersion version with storageState := .stored },
        ⟨rfl, fun strict => absurd strict lax⟩,
        holds.1.1.weaken (fun _ strict => absurd strict lax), holds.1.2⟩
    intro _
    refine Spec.mono (Spec.pure (Mildly.steady stored) (fun _ known _ => known.1.1.2))
      (fun _ known => known) (fun _ _ _ holds => holds)
      (fun _ _ _ _ fact _ => ⟨fact, trivial⟩) (fun _ _ holds => holds)
  · intro failure
    refine Spec.bind (fun _ => Durable.const regime i True)
      (markUploadStorageFailed_spec loaded settled descends) ?_
    exact fun _ => Spec.abandon

-----------------------------------------------------------------------------------------
-- The whole upload
-----------------------------------------------------------------------------------------

theorem found_lasting (organizationId : UUID) (result : Option Document)
    : Durable regime i (fun world => ∀ document, result = some document
        → Found regime organizationId document world) :=
  Durable.forall fun document => (Found.durable organizationId document).implies

theorem resolveRefusedContent_spec {command : UploadDocumentCommand} {tenant : TenantContext}
    {key : Text} {uploadId : UUID} {upload : PreparedUpload} {refusal : Exn}
    (drawn : ∀ world, needs world → world.DrawnBy i uploadId)
    : Spec services.platform.unicode regime i needs (fun _ => True)
        (resolveRefusedContent services command tenant key
          (temporaryUploadKey tenant.organizationId uploadId) upload refusal)
        (Reported regime i) (fun _ _ => True) (fun _ => True) := by
  refine Spec.bind (fun _ => Durable.const regime i True) rollback_spec ?_
  intro _
  refine Spec.bind_loose (found_lasting tenant.organizationId)
    (DocumentRepository.findDocumentByTenantContentHash_spec Clean.firm.steady
      (fun _ holds => holds)) ?_
  intro result
  cases result with
  | none => exact Spec.abandon
  | some duplicate =>
      exact completeDuplicate_spec (fun world known => drawn world known.1.1)
        (fun _ known => known.2 duplicate rfl)

/-- The rows of new content as the upload commits them. -/
def Added (tenant : TenantContext) (base document : Document) (version : DocumentVersion)
    (u : Unicode) (world : World)
    : Prop :=
  documentFromRecord u base = .ok document
  ∧ Account tenant world
  ∧ Descends base world
  ∧ HasVersion base.id version.id world

theorem Added.durable (tenant : TenantContext) (base document : Document)
    (version : DocumentVersion) (u : Unicode)
    : Durable regime i (Added tenant base document version u) :=
  (Durable.const regime i _).and ((Durable.account tenant).and
    ((Durable.descends base).and (Durable.hasVersion base.id version.id)))

/-- Adding the rows, or learning that the content is already there. -/
theorem addNewDocument_spec {tenant : TenantContext} {base : Document}
    {version : DocumentVersion} {organizationId uploadId : UUID} {body : Bytes}
    (draft : Drafted services.platform.unicode tenant base version)
    (drawn
      : ∀ world, needs world → world.DrawnBy i base.id ∧ world.DrawnBy i version.id)
    : Spec services.platform.unicode regime i needs
        (fun world => Clean i world ∧ TempHas i organizationId uploadId body world)
        (tryCatch (do
          let document ←
            DocumentRepository.addDocument services.platform.unicode base version
          commit
          return .ok document)
          (fun failure =>
            match failure with
            | .duplicateDocumentContent message =>
                return .error (.duplicateDocumentContent message)
            | other => throw other))
        (fun (result : Except Exn Document) world => ∀ document, result = .ok document
          → Added tenant base document version services.platform.unicode world)
        (fun (result : Except Exn Document) world => ∀ document, result = .ok document
          → Clean i world ∧ TempHas i organizationId uploadId body world
            ∧ Fresh i (recordFromVersion version) world)
        (fun _ => True) := by
  refine Spec.tryCatch (fun _ => True) ?_ ?_
  · refine Spec.bind (fun loaded => (Durable.const regime i _).and (Durable.account tenant))
      (addDocument_spec (TempHas.framed organizationId uploadId body) draft drawn) ?_
    intro document
    refine Spec.of_state _ (fun world _ known _ => known.2.1) ?_
    intro loaded
    refine Spec.bind
      (fun _ => (Durable.descends base).and (Durable.hasVersion base.id version.id))
      (commit_new (TempHas.framed organizationId uploadId body)
        (TempHas.bytes organizationId uploadId body) draft loaded) ?_
    intro _
    refine Spec.gives (Clean.firm.steady.and
      ((TempHas.framed organizationId uploadId body).steady.and (Fresh.framed _).steady)) ?_
    intro world _ known holds
    refine ⟨?_, ?_⟩
    · intro _ same
      cases same
      exact ⟨loaded, known.1.2.2, known.2⟩
    · exact fun _ _ => holds
  · intro failure
    cases failure with
    | duplicateDocumentContent message =>
        refine Spec.gives (Firm.const True).steady (fun _ _ _ _ => ⟨?_, ?_⟩)
        · exact fun _ same => by cases same
        · exact fun _ same => by cases same
    | _ => exact Spec.abandon

theorem processStoredUpload_spec {command : UploadDocumentCommand} {tenant : TenantContext}
    {key : Text} {uploadId : UUID} {upload : PreparedUpload}
    (counted : upload.streamed.byteSize = upload.streamed.body.length)
    (drawn : ∀ world, needs world → world.DrawnBy i uploadId)
    : Spec services.platform.unicode regime i needs
        (fun world => Clean i world
          ∧ TempHas i tenant.organizationId uploadId upload.streamed.body world)
        (processStoredUpload services command tenant key
          (temporaryUploadKey tenant.organizationId uploadId) upload)
        (Reported regime i) (fun _ _ => True) (fun _ => True) := by
  have start
      : Steady services.platform.unicode regime i (fun world => Clean i world
          ∧ TempHas i tenant.organizationId uploadId upload.streamed.body world) :=
    Clean.firm.steady.and (TempHas.framed _ _ _).steady
  refine Spec.bind_loose (found_lasting tenant.organizationId)
    (DocumentRepository.findDocumentByTenantContentHash_spec start (fun _ holds => holds.1)) ?_
  intro result
  cases result with
  | some existing =>
      exact Spec.mono (completeDuplicate_spec (fun world known => drawn world known.1)
          (fun _ known => known.2 existing rfl))
        (fun _ known => known) (fun _ _ _ holds => holds.1)
        (fun _ _ _ _ fact holds => ⟨fact, holds⟩) (fun _ _ holds => holds)
  | none =>
      refine Silent.leads start (fun _ => Durable.const regime i True) now_silent ?_
      intro now
      refine Silent.leads start
        (fun pair => (Durable.const regime i _).and
          ((Durable.drawnBy pair.1.id).and (Durable.drawnBy pair.2.id)))
        newDocumentPair_silent ?_
      rintro ⟨base, version⟩
      refine Spec.of_state _ (fun world _ known _ => known.2.1) ?_
      rintro ⟨draft, size, hash⟩
      refine Spec.bind
        (fun result => Durable.forall fun document =>
          (Added.durable tenant base document version _).implies)
        (addNewDocument_spec draft (fun _ known => known.2.2)) ?_
      intro added
      cases added with
      | ok document =>
          refine Spec.of_state _ (fun world _ known _ => (known.2 document rfl).1) ?_
          intro loaded
          refine Spec.mono (storeNewDocument_spec draft loaded size counted hash
              (fun world known => drawn world known.1.1.1.1)
              (fun _ known => (known.2 document rfl).2.2.1)
              (fun _ known => (known.2 document rfl).2.2.2)
              (fun _ known => (known.2 document rfl).2.1))
            (fun _ known => known) ?_
            (fun _ _ _ _ fact holds => ⟨fact, holds⟩) (fun _ _ holds => holds)
          intro world _ _ holds
          obtain ⟨clean, temp, fresh⟩ := holds document rfl
          exact ⟨clean, fresh, temp⟩
      | error refusal =>
          exact Spec.mono (resolveRefusedContent_spec
              (fun world known => drawn world known.1.1.1.1))
            (fun _ known => known) (fun _ _ _ _ => trivial)
            (fun _ _ _ _ fact holds => ⟨fact, holds⟩) (fun _ _ holds => holds)

/-- Storing the body under the temporary key, or what is left when that fails. -/
theorem storeTemp_spec {tenant : TenantContext} {key : Text} {uploadId : UUID}
    {upload : PreparedUpload} (drawn : ∀ world, needs world → world.DrawnBy i uploadId)
    : Spec services.platform.unicode regime i needs
        (fun world =>
          Mildly services.platform.unicode regime i (fun _ => True) world ∧ True)
        (tryCatch (do
          let now ← nowOr none
          let _ ← UploadIdempotencyRepository.finalizeFingerprint tenant.organizationId key
            upload.fingerprint now
          let _ ← ObjectStorage.putTempStream {
            key := temporaryUploadKey tenant.organizationId uploadId
            body := upload.streamed.body
            mediaType := upload.metadata.mediaType
          }
          commit
          return .ok ())
          (fun failure => return .error failure))
        (fun (_ : Except Exn Unit) _ => True)
        (fun (result : Except Exn Unit) world =>
          match result with
          | .ok () => Clean i world
              ∧ TempHas i tenant.organizationId uploadId upload.streamed.body world
          | .error _ =>
              Mildly services.platform.unicode regime i (fun _ => True) world ∧ True)
        (fun _ => True) := by
  have mild
      : Firm services.platform.unicode regime i (fun world =>
          Mildly services.platform.unicode regime i (fun _ => True) world ∧ True) :=
    Mildly.firm.and (Firm.const True)
  have temp
      : Framed services.platform.unicode regime i
          (TempHas i tenant.organizationId uploadId upload.streamed.body) :=
    TempHas.framed _ _ _
  refine Spec.tryCatch (fun world =>
    Mildly services.platform.unicode regime i (fun _ => True) world ∧ True) ?_ ?_
  · refine Silent.before mild.steady now_silent ?_ (fun _ holds => holds)
    intro now
    refine Spec.bind (fun _ => Durable.const regime i True)
      (UploadIdempotencyRepository.finalizeFingerprint_spec (Framed.const True)
        Lenient.true) ?_
    intro _
    refine Spec.bind (fun _ => Durable.const regime i True)
      (ObjectStorage.putTempStream_spec mild (fun world known => drawn world known.1)) ?_
    intro _
    refine Spec.bind (fun _ => Durable.logged _)
      (Spec.mono (commit_mild temp (TempHas.bytes _ _ _))
        (fun _ known => known) (fun _ _ _ holds => ⟨holds.1.1, holds.2⟩)
        (fun _ _ _ _ fact holds => ⟨fact, holds⟩) (fun _ _ holds => ⟨holds.1.1, trivial⟩)) ?_
    intro _
    exact Spec.gives (Clean.firm.steady.and temp.steady) (fun _ _ _ holds => ⟨trivial, holds⟩)
  · intro failure
    exact Spec.gives mild.steady (fun _ _ _ holds => ⟨trivial, holds⟩)

theorem processReservedUpload_spec {command : UploadDocumentCommand} {tenant : TenantContext}
    {key : Text}
    : Spec services.platform.unicode regime i needs
        (fun world =>
          Mildly services.platform.unicode regime i (fun _ => True) world ∧ True)
        (processReservedUpload services command tenant key)
        (Reported regime i) (fun _ _ => True) (fun _ => True) := by
  have mild
      : Steady services.platform.unicode regime i (fun world =>
          Mildly services.platform.unicode regime i (fun _ => True) world ∧ True) :=
    Mildly.steady (Framed.const True)
  refine Silent.leads mild
    (fun id => (Durable.const regime i _).and (Durable.drawnBy id)) newUuid_silent ?_
  intro uploadId
  refine Spec.of_state _ (fun world _ known _ => known.2.1) ?_
  intro some
  rw [StorageObjectKey.forTemporaryUpload_eq tenant.organization_ne_nil some]
  refine Silent.leads mild (fun _ => Durable.const regime i _)
    (Silent.lift (fun tempKey same _ _ => (Except.ok.inj same).symm)) ?_
  intro tempKey
  refine Spec.of_state _ (fun world _ known _ => known.2) ?_
  rintro rfl
  cases prepared : (prepareUpload services command).1 with
  | error failure =>
      exact abandonUpload_spec (fun _ known => known.1.2.2)
  | ok upload =>
      obtain ⟨counted, -⟩ := prepareUpload_ok prepared
      refine Spec.bind (fun _ => Durable.const regime i True)
        (storeTemp_spec (fun _ known => known.1.2.2)) ?_
      intro stored
      cases stored with
      | ok done => exact processStoredUpload_spec counted (fun _ known => known.1.1.2.2)
      | error failure => exact abandonUpload_spec (fun _ known => known.1.1.2.2)

theorem replayCompleted_silent {record : UploadIdempotencyRecord} {tenant : TenantContext}
    : Silent services.platform.unicode regime i needs (replayCompleted services record tenant)
        (fun result _ => result.outcome = .idempotentReplay) := by
  unfold replayCompleted
  split
  · rename_i documentId versionId _ _
    refine Silent.bind (fun _ => Durable.const regime i True)
      DocumentRepository.getDocument_silent ?_
    intro result
    cases result with
    | none => exact Silent.throw
    | some document =>
        refine Silent.bind (fun _ => Durable.const regime i True)
          DocumentRepository.getVersion_silent ?_
        intro result
        cases result with
        | none => exact Silent.throw
        | some version => exact Silent.pure (fun _ _ => rfl)
  · exact Silent.throw

/-- What `mark_in_progress` or `reserve` staged is committed, and the upload begins. -/
theorem beginUpload_spec {command command' : UploadDocumentCommand} {tenant : TenantContext}
    {key : Text} {timestamp : Timestamp} {metadata : List (String × AuditValue)}
    : Spec services.platform.unicode regime i needs
        (fun world =>
          Mildly services.platform.unicode regime i (fun _ => True) world ∧ True)
        (do
          commit
          recordUploadEvent services .documentUploadStarted command tenant timestamp metadata
          processReservedUpload services command' tenant key)
        (Reported regime i) (fun _ _ => True) (fun _ => True) := by
  refine Spec.bind_loose (fun _ => Durable.logged _)
    (commit_mild (Framed.const True) (fun _ _ _ _ _ holds => holds)) ?_
  intro _
  refine Spec.bind_loose (fun _ => Durable.const regime i True)
    (Spec.mono (recordEvent_spec (Framed.const True) Lenient.true)
      (fun _ known => known) (fun _ _ _ holds => ⟨holds.1.mildly trivial, trivial⟩)
      (fun _ _ _ _ fact holds => ⟨fact, holds⟩) (fun _ _ holds => holds)) ?_
  exact fun _ => processReservedUpload_spec

theorem retryUpload_spec {command : UploadDocumentCommand} {tenant : TenantContext}
    {record : UploadIdempotencyRecord}
    : Spec services.platform.unicode regime i needs (Clean i)
        (retryUpload services command tenant record)
        (Reported regime i) (fun _ _ => True) (fun _ => True) := by
  have clean : Steady services.platform.unicode regime i (Clean i) := Clean.firm.steady
  have retried
      : ∀ stream,
          Spec services.platform.unicode regime i needs (Clean i)
            (do
              let timestamp ← nowOr none
              let _ ← UploadIdempotencyRepository.markInProgress tenant.organizationId
                record.idempotencyKey timestamp (timestamp + services.idempotencyTtl)
              commit
              recordUploadEvent services .documentUploadStarted command tenant timestamp
                [("idempotency_replay", .bool true)]
              processReservedUpload services { command with stream } tenant
                record.idempotencyKey)
            (Reported regime i) (fun _ _ => True) (fun _ => True) := by
    intro stream
    refine Silent.leads clean (fun _ => Durable.const regime i True) now_silent ?_
    intro timestamp
    refine Spec.bind_loose (fun _ => Durable.const regime i True)
      (Spec.mono (UploadIdempotencyRepository.markInProgress_spec (Framed.const True)
          Lenient.true)
        (fun _ known => known) (fun _ _ _ holds => ⟨holds.mildly trivial, trivial⟩)
        (fun _ _ _ _ fact holds => ⟨fact, holds⟩) (fun _ _ holds => holds)) ?_
    exact fun _ => beginUpload_spec
  unfold retryUpload
  cases record.requestFingerprint with
  | none => exact retried command.stream
  | some recorded =>
      refine Silent.before clean (Silent.lift (fun _ _ _ _ => trivial)) ?_ (fun _ _ => trivial)
      exact fun _ => retried _

theorem handleExistingRecord_spec {command : UploadDocumentCommand} {tenant : TenantContext}
    {record : UploadIdempotencyRecord}
    : Spec services.platform.unicode regime i needs (Clean i)
        (handleExistingRecord services command tenant record)
        (Reported regime i) (fun _ _ => True) (fun _ => True) := by
  have clean : Steady services.platform.unicode regime i (Clean i) := Clean.firm.steady
  unfold handleExistingRecord
  cases record.status with
  | inProgress => exact Spec.abandon
  | completed =>
      refine Silent.leads clean (fun _ => Durable.const regime i True)
        (Silent.lift (fun _ _ _ _ => trivial)) ?_
      intro _
      refine (replayCompleted_silent (Clean i) clean).mono (fun _ known => known)
        (fun _ _ _ holds => holds) ?_ (fun _ _ _ => trivial)
      intro result world _ _ replayed _
      refine ⟨fun created => ?_, trivial⟩
      rw [replayed] at created
      cases created
  | failed =>
      dsimp only
      split
      · exact retryUpload_spec
      · split
        · refine Silent.leads clean (fun _ => Durable.const regime i True)
            (Silent.lift (fun _ _ _ _ => trivial)) ?_
          exact fun _ => Spec.abandon
        · exact Spec.abandon

theorem upload_spec {command : UploadDocumentCommand} {tenant : TenantContext}
    {now : Option Datetime}
    : Spec services.platform.unicode regime i needs (Clean i)
        (upload services command tenant now)
        (Reported regime i) (fun _ _ => True) (fun _ => True) := by
  have clean : Steady services.platform.unicode regime i (Clean i) := Clean.firm.steady
  refine Silent.leads clean (fun _ => Durable.const regime i True)
    (Silent.lift (fun _ _ _ _ => trivial)) ?_
  intro _
  refine Silent.leads clean (fun _ => Durable.const regime i True) nowOr_silent ?_
  intro timestamp
  refine Silent.leads clean (fun _ => Durable.const regime i True)
    (Silent.lift (fun _ _ _ _ => trivial)) ?_
  intro key
  refine Silent.leads clean (fun _ => Durable.const regime i True)
    UploadIdempotencyRepository.get_silent ?_
  intro existing
  cases existing with
  | some existing => exact handleExistingRecord_spec
  | none =>
      refine Spec.bind_loose (fun _ => Durable.const regime i True)
        UploadIdempotencyRepository.reserve_spec ?_
      intro _
      exact Spec.mono beginUpload_spec (fun _ known => known)
        (fun _ _ _ holds => ⟨holds, trivial⟩)
        (fun _ _ _ _ fact holds => ⟨fact, holds⟩) (fun _ _ holds => holds)

end UploadDocument

end WorkflowForge
