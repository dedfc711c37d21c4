import WorkflowForge.Uploads.StagedUploads

/-! The ways of an upload to the end, each through the deletion of its temporary object. -/

namespace WorkflowForge

open Python Transactions Concurrency

variable {u : Unicode} {organizationId uploadId : UUID} {i n : Nat} {object : StoredObject}
  {services : Services} {tenant : TenantContext} {command : UploadDocumentCommand} {key : Text}

-----------------------------------------------------------------------------------------
-- The final key
-----------------------------------------------------------------------------------------

/-- `head_object` of a staged upload answers, with the size of the upload if at all. -/
theorem headObject_staged (finalKey : StorageObjectKey)
    : Cleaning u organizationId i (Staged organizationId i n uploadId object)
        (ObjectStorage.headObject finalKey)
        (fun found world =>
          (∀ existing, found = some existing → existing.byteSize = object.body.length)
          ∧ Staged organizationId i n uploadId object world)
        (fun _ _ => False) := by
  have answered
      : Cleaning u organizationId i (Staged organizationId i n uploadId object)
          (perform (.headObject finalKey.value))
          (fun (answer : HeadAnswer) world =>
            (answer ≠ .failed
              ∧ ∀ byteSize mediaType,
                  answer = .found byteSize mediaType → byteSize = object.body.length)
            ∧ Staged organizationId i n uploadId object world)
          (fun _ _ => False) := by
    refine Triple.perform Staged.retained.stable
      (fun _ => ((Retained.const _).and Staged.retained).stable) ?_ (fun _ _ _ reached => reached)
    intro now answer after _ staged admitted ran
    refine ⟨trivial, trivial, ?_, Staged.retained _ _
      (admitted.2.2.2.quiet_plain admitted.2.1 ran (fun _ => id)) staged⟩
    have proceeds := staged.proceeds admitted.1
    simp only [exec, World.clientCall] at ran
    rcases outcome : now.outcomes now.clientCalls with _ | ⟨applied, missing⟩
    · rcases present : now.object? finalKey.value with _ | existing
      · simp only [outcome, present, Option.some.injEq, Prod.mk.injEq] at ran
        simp [← ran.1]
      · simp only [WorkflowForge.proceeds, outcome, present, List.all_eq_true] at proceeds
        have same := proceeds _ staged.present
        simp only [outcome, present, Option.some.injEq, Prod.mk.injEq] at ran
        simpa [← ran.1] using same
    · simp only [WorkflowForge.proceeds, outcome] at proceeds
      simp only [outcome, proceeds, Option.some.injEq, Prod.mk.injEq] at ran
      simp [← ran.1]
  refine Cleaning.andThen (enter_proceeds Staged.retained (fun _ holds => holds) _) (fun _ => ?_)
  refine Cleaning.andThen answered (fun answer => ?_)
  have remains
      : Retained organizationId i (fun world =>
          (answer ≠ .failed
            ∧ ∀ byteSize mediaType,
                answer = .found byteSize mediaType → byteSize = object.body.length)
          ∧ Staged organizationId i n uploadId object world) :=
    (Retained.const _).and Staged.retained
  cases answer with
  | found byteSize mediaType =>
      refine Cleaning.pure remains (fun world holds => ⟨?_, holds.2⟩)
      rintro existing ⟨⟩
      exact holds.1.2 byteSize mediaType rfl
  | missing =>
      refine Cleaning.pure remains (fun world holds => ⟨?_, holds.2⟩)
      rintro existing ⟨⟩
  | failed => exact fun world _ holds => absurd rfl holds.1.1

/-- The copy of a staged upload succeeds, and leaves the temporary object. -/
theorem copyObject_staged {finalKey : StorageObjectKey} {mediaType : Option Text}
    (final : ∃ owner digest, finalKey.value = documentContentKeyText owner digest)
    : Cleaning u organizationId i (Staged organizationId i n uploadId object)
        (perform (.copyObject (temporaryUploadKey organizationId uploadId).value finalKey.value
          mediaType))
        (fun (copied : Bool) world =>
          copied = true ∧ Staged organizationId i n uploadId object world)
        (fun _ _ => False) := by
  refine Triple.perform Staged.retained.stable
    (fun _ => ((Retained.const _).and Staged.retained).stable) ?_ (fun _ _ _ reached => reached)
  intro now copied after _ staged admitted ran
  have quiet : Quiet organizationId i now after := by
    refine admitted.2.2.2.quiet admitted.2.1 ?_ ran
    rintro written rfl m
    obtain ⟨owner, digest, same⟩ := final
    rw [same]
    exact fun clash => temporaryUploadKey_ne_documentContent _ _ _ _ clash.symm
  refine ⟨trivial, trivial, ?_, Staged.retained _ _ quiet staged⟩
  have outcome : now.outcomes now.clientCalls = .ok := by
    simpa [WorkflowForge.proceeds] using staged.proceeds admitted.1
  simp only [exec, staged.object?, World.clientEffect, World.clientCall, outcome,
    Option.some.injEq, Prod.mk.injEq] at ran
  exact ran.1.symm

theorem requireTempPrefix_temporary (owner uploadId : UUID)
    : requireTempPrefix (temporaryUploadKey owner uploadId) = .ok () := by
  have start
      : "tmp/".toList.isPrefixOf (temporaryUploadKey owner uploadId).value = true := by
    rw [List.isPrefixOf_iff_prefix]
    exact ⟨uuidText owner ++ '/' :: uuidText uploadId, by
      simp only [temporaryUploadKey, List.append_assoc]⟩
  rw [requireTempPrefix, if_pos start]

theorem documentContentKeyText_area (owner : UUID) (digest : Text)
    : "documents/".toList <+: documentContentKeyText owner digest := by
  unfold documentContentKeyText documentContentPrefix
  generalize "documents/".toList = area
  generalize "/sha256/".toList = middle
  simp only [List.append_assoc]
  exact List.prefix_append _ _

theorem requireFinalKey_documentContent (owner : UUID) (hash : ContentHash)
    : requireFinalKey (documentContentKey owner hash) = .ok () :=
  if_pos (Bool.or_eq_true_iff.mpr (.inl
    (List.isPrefixOf_iff_prefix.mpr (documentContentKeyText_area owner hash.value))))

/-- The promotion of a staged upload deletes its temporary object, whatever fails after. -/
theorem promoteTempObject_staged {hash : ContentHash} {owner : UUID} {mediaType : Option Text}
    : Cleaning u organizationId i (Staged organizationId i n uploadId object)
        (ObjectStorage.promoteTempObject {
          sourceKey := temporaryUploadKey organizationId uploadId
          destinationKey := documentContentKey owner hash
          mediaType
        })
        (fun _ => Swept organizationId i) (fun _ => Swept organizationId i) := by
  refine Cleaning.andNext (enter_proceeds Staged.retained (fun _ holds => holds) _) (fun _ => ?_)
  simp only [liftExcept, requireTempPrefix_temporary, requireFinalKey_documentContent,
    Program.ofExcept, Program.bind_ok]
  refine Cleaning.andNext (copyObject_staged ⟨_, _, rfl⟩) (fun copied => ?_)
  cases copied
  · exact fun world _ holds => by cases holds.1
  have deleted
      : Cleaning u organizationId i
          (fun world => true = true ∧ Staged organizationId i n uploadId object world)
          (perform (.deleteObject (temporaryUploadKey organizationId uploadId).value))
          (fun (deleted : Bool) world => deleted = true ∧ Swept organizationId i world)
          (fun _ _ => False) :=
    deleteTemp_loose.mono (fun _ holds => holds.2.toLoose) (fun _ _ reached => reached)
      (fun _ _ failed => failed)
  refine Cleaning.andNext deleted (fun deleted => ?_)
  cases deleted
  · exact fun world _ holds => by cases holds.1
  refine (Cleaning.frame Swept.kept (Untouching.of_commitless
    (Commitless.andThen (ObjectStorage.lookup_commitless _) (fun found => ?_)))).mono
    (fun _ holds => holds.2) (fun _ _ reached => reached) (fun _ _ failed => failed)
  cases found with
  | some metadata => exact Commitless.pure _
  | none => exact Commitless.throw _

theorem placeObject_staged {hash : ContentHash} {owner : UUID} {mediaType : Text}
    {byteSize : Nat} (size : byteSize = object.body.length)
    : Cleaning u organizationId i (Staged organizationId i n uploadId object)
        (UploadDocument.placeObject (temporaryUploadKey organizationId uploadId)
          (documentContentKey owner hash) mediaType byteSize)
        (fun _ => Swept organizationId i) (fun _ => Swept organizationId i) := by
  refine Cleaning.andNext (headObject_staged _) (fun found => ?_)
  refine Triple.of_state (fun world _ holds => ?_)
  cases found with
  | none =>
      refine Cleaning.andThen (promoteTempObject_staged.mono (fun _ holds => holds.2)
        (fun _ _ reached => reached) (fun _ _ failed => failed)) (fun _ => ?_)
      exact Cleaning.pure Swept.kept (fun _ swept => swept)
  | some existing =>
      have same : ¬ existing.byteSize ≠ byteSize := by
        rw [size]
        exact not_not.mpr (holds.1 existing rfl)
      simp only [if_neg same]
      exact deleteTempBestEffort_loose.mono (fun _ holds => holds.2.toLoose)
        (fun _ _ reached => reached) (fun _ _ failed => failed)

-----------------------------------------------------------------------------------------
-- The ends of an upload
-----------------------------------------------------------------------------------------

/-- What a swept upload does without touching objects. -/
theorem Cleaning.swept {α : Type} {program : App α} (untouching : Untouching program)
    : Cleaning u organizationId i (Swept organizationId i) program
        (fun _ => Swept organizationId i) (fun _ => Swept organizationId i) :=
  Cleaning.frame Swept.kept untouching

theorem promoteNewDocument_staged {document : Document} {version : DocumentVersion}
    {mediaType : Text} {byteSize : Nat} {hash : ContentHash}
    (size : byteSize = object.body.length)
    : Cleaning u tenant.organizationId i (Staged tenant.organizationId i n uploadId object)
        (UploadDocument.promoteNewDocument services tenant document version
          (temporaryUploadKey tenant.organizationId uploadId) mediaType byteSize hash)
        (fun _ => Swept tenant.organizationId i) (fun _ => Swept tenant.organizationId i) := by
  simp only [UploadDocument.promoteNewDocument, liftExcept, Program.ofExcept, Program.bind_ok,
    StorageObjectKey.forDocumentContent_eq tenant.organization_ne_nil hash]
  exact Cleaning.andThen (placeObject_staged size) (fun _ =>
    Cleaning.swept UploadDocument.markStored_untouching)

theorem storeNewDocument_staged {upload : PreparedUpload} {document : Document}
    {version : DocumentVersion} (size : upload.streamed.byteSize = object.body.length)
    : Cleaning u tenant.organizationId i (Staged tenant.organizationId i n uploadId object)
        (UploadDocument.storeNewDocument services command tenant key
          (temporaryUploadKey tenant.organizationId uploadId) upload document version)
        (fun _ => Swept tenant.organizationId i) (fun _ => Swept tenant.organizationId i) := by
  refine Cleaning.tryCatch ?_ (fun _ =>
    Cleaning.swept UploadDocument.storageFailure_untouching)
  exact Cleaning.andThen (promoteNewDocument_staged size) (fun _ =>
    Cleaning.swept UploadDocument.completeUpload_untouching)

theorem completeDuplicate_loose {fingerprint : Text} {duplicate : Document} {byteSize : Nat}
    : Cleaning u organizationId i (Loose organizationId i n uploadId)
        (UploadDocument.completeDuplicate services command tenant key fingerprint
          (temporaryUploadKey organizationId uploadId) duplicate byteSize)
        (fun _ => Swept organizationId i) (fun _ => Swept organizationId i) :=
  Cleaning.andThen deleteTempBestEffort_loose (fun _ =>
    Cleaning.swept UploadDocument.duplicateCompletion_untouching)

/-- After a refusal the content is found, so the upload ends as a duplicate. -/
theorem resolveRefusedContent_staged {upload : PreparedUpload} {refusal : Exn}
    : Cleaning services.platform.unicode organizationId i
        (Drafting organizationId i n uploadId object)
        (UploadDocument.resolveRefusedContent services command tenant key
          (temporaryUploadKey organizationId uploadId) upload refusal)
        (fun _ => Swept organizationId i) (fun _ => Swept organizationId i) := by
  refine Cleaning.andNext rollback_staged (fun _ => ?_)
  refine Cleaning.andNext ((findDocument_staged True _ _).mono
    (fun _ holds => ⟨⟨holds.1.1, fun _ => holds.1.2⟩, holds.2⟩) (fun _ _ reached => reached)
    (fun _ _ failed => failed)) (fun found => ?_)
  cases found with
  | none => exact fun world _ holds => absurd rfl (holds.1 trivial)
  | some duplicate =>
      exact completeDuplicate_loose.mono (fun _ holds => holds.2.toLoose)
        (fun _ _ reached => reached) (fun _ _ failed => failed)

theorem processStoredUpload_staged {upload : PreparedUpload}
    (prepared : (UploadDocument.prepareUpload services command).1 = .ok upload)
    (renames : Renames services.platform.unicode command.filename)
    (countable : Countable services command) (size : upload.streamed.byteSize = object.body.length)
    : Cleaning services.platform.unicode tenant.organizationId i
        (fun world =>
          Staged tenant.organizationId i n uploadId object world ∧ world.store.own i = [])
        (UploadDocument.processStoredUpload services command tenant key
          (temporaryUploadKey tenant.organizationId uploadId) upload)
        (fun _ => Swept tenant.organizationId i) (fun _ => Swept tenant.organizationId i) := by
  refine Cleaning.andNext ((findDocument_staged False _ _).mono
    (fun _ holds => ⟨⟨holds.1, False.elim⟩, holds.2⟩) (fun _ _ reached => reached.2)
    (fun _ _ failed => failed)) (fun found => ?_)
  cases found with
  | some existing =>
      exact completeDuplicate_loose.mono (fun _ staged => staged.toLoose)
        (fun _ _ reached => reached) (fun _ _ failed => failed)
  | none =>
      refine Cleaning.andNext (Cleaning.plain Staged.retained (fun _ => id)) (fun now => ?_)
      refine Cleaning.andNext (newDocumentPair_staged (prepareUpload_accepted prepared) renames
        _ (countable.byteSize prepared) _) (fun pair => ?_)
      refine Triple.of_state (fun world _ holds => ?_)
      refine Cleaning.andNext ((addNewDocument_staged holds.1).mono (fun _ holds => holds.2)
        (fun _ _ reached => reached) (fun _ _ failed => failed)) (fun answer => ?_)
      cases answer with
      | ok document =>
          exact (storeNewDocument_staged size).mono (fun _ holds => holds.1)
            (fun _ _ reached => reached) (fun _ _ failed => failed)
      | error refusal => exact resolveRefusedContent_staged

end WorkflowForge
