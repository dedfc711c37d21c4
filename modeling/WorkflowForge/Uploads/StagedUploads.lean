import WorkflowForge.Uploads.Deletion
import WorkflowForge.Uploads.Drafts

/-! A staged upload on its way to the deletion of its temporary object.
While the session's operations proceed nothing is raised until the object is deleted. -/

namespace WorkflowForge

open Python Transactions Concurrency

variable {u : Unicode} {organizationId uploadId : UUID} {i n : Nat} {object : StoredObject}
  {services : Services} {tenant : TenantContext}

/-- The upload has its temporary object and has committed twice. -/
structure Staged (organizationId : UUID) (i n : Nat) (uploadId : UUID) (object : StoredObject)
    (world : World)
    : Prop extends Carries organizationId i n uploadId object world where
  committed : CommittedTimes i 2 world

theorem Staged.retained
    : Retained organizationId i (Staged organizationId i n uploadId object) :=
  fun before after quiet staged => {
    toCarries := Carries.kept before after quiet staged.toCarries
    committed := CommittedTimes.kept before after quiet staged.committed
  }

theorem Staged.stored {world : World} (staged : Staged organizationId i n uploadId object world)
    : world.storedTemporary organizationId i = true := by
  have some : world.temporaries organizationId i ≠ [] := List.ne_nil_of_mem staged.present
  simpa [World.storedTemporary, staged.committed] using ⟨staged.committed, some⟩

/-- While the upload is staged, its operations proceed. -/
theorem Staged.proceeds {op : Op} {world : World}
    (staged : Staged organizationId i n uploadId object world)
    (cleans : Cleans organizationId i op world)
    : proceeds organizationId i op world = true :=
  cleans.proceeds staged.stored

/-- The other sessions keep a retained assertion and the writes of the session. -/
theorem Retained.stable_own {known : World → Prop} (retained : Retained organizationId i known)
    (pending : List (Write schema) → Prop)
    : (cleaning u organizationId).Stable i
        (fun world => known world ∧ pending (world.store.own i)) := by
  intro before now _ _ apart holds
  refine ⟨retained before now (Apart.quiet apart) holds.1, ?_⟩
  have same : now.store.own i = before.store.own i := Apart.own apart
  simp only [same]
  exact holds.2

theorem Staged.object? {world : World} (staged : Staged organizationId i n uploadId object world)
    : world.object? (temporaryUploadKey organizationId uploadId).value = some object := by
  have found := (World.mem_temporaries.mp staged.present).2
  rwa [World.temporaryKey, staged.id] at found

-----------------------------------------------------------------------------------------
-- Operations before the deletion
-----------------------------------------------------------------------------------------

/-- Entering a port does not raise, and leaves the session's writes. -/
theorem enter_staged {known : World → Prop} (retained : Retained organizationId i known)
    (staged : ∀ world, known world → Staged organizationId i n uploadId object world)
    (pending : List (Write schema) → Prop) (port : Port)
    : Cleaning u organizationId i (fun world => known world ∧ pending (world.store.own i))
        (enter port) (fun _ world => known world ∧ pending (world.store.own i))
        (fun _ _ => False) := by
  have entered
      : Cleaning u organizationId i (fun world => known world ∧ pending (world.store.own i))
          (perform (.enter port))
          (fun (raised : Bool) world =>
            raised = false ∧ (known world ∧ pending (world.store.own i)))
          (fun _ _ => False) := by
    refine Triple.perform (retained.stable_own pending) ?_ ?_ (fun _ _ _ reached => reached)
    · intro raised before now start later apart holds
      exact ⟨holds.1, retained.stable_own pending before now start later apart holds.2⟩
    · intro now raised after _ holds admitted ran
      have quiet : Quiet organizationId i now after :=
        admitted.2.2.2.quiet_plain admitted.2.1 ran (fun _ => id)
      have proceeds := (staged now holds.1).proceeds admitted.1
      obtain ⟨rfl, rfl⟩ := Prod.mk.inj (Option.some.inj ran)
      refine ⟨trivial, trivial, ?_, retained _ _ quiet holds.1, holds.2⟩
      simpa [WorkflowForge.proceeds, World.refuses] using proceeds
  refine Cleaning.andThen entered (fun raised => ?_)
  cases raised
  · exact Triple.done
      (fun before now start later apart holds =>
        ⟨rfl, retained.stable_own pending before now start later apart holds.2⟩)
      (fun _ _ holds => holds.2)
  · intro world _ holds
    cases holds.1

/-- A lookup by content hash in a sound database finds nothing or one row that loads. -/
theorem documentsByContentHash_loads {db : Database} (consistent : Consistent u db)
    (unique : db.Unique) (keyed : db.Keyed) (owner : UUID) (hash : ContentHash)
    : documentsByContentHash db owner hash = []
      ∨ ∃ row document,
          documentsByContentHash db owner hash = [row]
          ∧ documentFromRecord u row = .ok document := by
  rcases found : documentsByContentHash db owner hash with _ | ⟨row, rest⟩
  · exact .inl rfl
  · have member : row ∈ documentsByContentHash db owner hash := by
      rw [found]
      exact List.mem_cons_self
    obtain ⟨inside, joined⟩ := List.mem_filter.mp member
    simp only [Bool.and_eq_true, beq_iff_eq, List.any_eq_true] at joined
    obtain ⟨-, version, version_mem, ⟨current, same⟩, hashed⟩ := joined
    have single :=
      documentsByContentHash_owner consistent unique keyed version_mem hashed inside current.symm
    rw [same, found] at single
    obtain ⟨-, document, loads⟩ := consistent.documents row inside
    exact .inr ⟨row, document, single, loads⟩

/-- Ids drawn after the one of the temporary object. -/
theorem Staged.drafted {world : World}
    (staged : Staged organizationId i n uploadId object world) (later : DrewAfter i n world)
    : world.drafted organizationId i = true := by
  obtain ⟨m, after, drawn⟩ := later
  refine List.any_eq_true.mpr ⟨(n, object), staged.present, ?_⟩
  exact List.any_eq_true.mpr ⟨m, World.mem_drawings.mpr drawn, by simpa using after⟩

/-- The lookup by content hash does not raise; after a refusal it finds a document. -/
theorem findDocument_staged (refused : Prop) (owner : UUID) (hash : ContentHash)
    : Cleaning u organizationId i
        (fun world =>
          (Staged organizationId i n uploadId object world ∧ (refused → DrewAfter i n world))
          ∧ world.store.own i = [])
        (DocumentRepository.findDocumentByTenantContentHash u owner hash)
        (fun found world =>
          (refused → found ≠ none) ∧ Staged organizationId i n uploadId object world)
        (fun _ _ => False) := by
  have retained
      : Retained organizationId i (fun world =>
          Staged organizationId i n uploadId object world ∧ (refused → DrewAfter i n world)) :=
    Staged.retained.and (fun before after quiet known given =>
      DrewAfter.kept before after quiet (known given))
  refine Cleaning.andThen
    (enter_staged retained (fun _ holds => holds.1) (· = []) _) (fun _ => ?_)
  have selected
      : Cleaning u organizationId i
          (fun world =>
            (Staged organizationId i n uploadId object world ∧ (refused → DrewAfter i n world))
            ∧ world.store.own i = [])
          (select (.documentByContentHash owner hash))
          (fun (db : Database) world =>
            ((refused → documentsByContentHash db owner hash ≠ [])
              ∧ (documentsByContentHash db owner hash = []
                ∨ ∃ row document,
                    documentsByContentHash db owner hash = [row]
                    ∧ documentFromRecord u row = .ok document))
            ∧ Staged organizationId i n uploadId object world)
          (fun _ _ => False) := by
    refine Triple.perform (retained.stable_own (· = [])) ?_ ?_ (fun _ _ _ reached => reached)
    · intro db
      exact ((Retained.const _).and Staged.retained).stable
    · intro now db after _ holds admitted ran
      obtain ⟨cleans, coherent, consistent, unclaimed⟩ := admitted
      have quiet : Quiet organizationId i now after :=
        unclaimed.quiet_plain coherent ran (fun _ => id)
      obtain ⟨rfl, -⟩ := exec_select_still ran
      have committed : now.store.view i = now.store.committed :=
        Store.view_of_own_nil holds.2
      refine ⟨trivial, trivial, ⟨?_, ?_⟩, Staged.retained _ _ quiet holds.1.1⟩
      · intro given
        have proceeds := holds.1.1.proceeds cleans
        simpa [WorkflowForge.proceeds, holds.1.1.drafted (holds.1.2 given)] using proceeds
      · rw [committed]
        exact documentsByContentHash_loads consistent coherent.settled coherent.keyed owner hash
  refine Cleaning.andThen selected (fun db => ?_)
  rcases found : documentsByContentHash db owner hash with _ | ⟨row, _ | ⟨other, rest⟩⟩
  · refine Cleaning.pure ((Retained.const _).and Staged.retained) (fun world holds => ?_)
    exact ⟨fun given => absurd rfl (holds.1.1 given), holds.2⟩
  · refine Triple.of_state (fun world _ holds => ?_)
    obtain ⟨⟨-, none | ⟨only, document, same, loads⟩⟩, -⟩ := holds
    · cases none
    · cases same
      have lifted
          : Cleaning u organizationId i (Staged organizationId i n uploadId object)
              (liftExcept (documentFromRecord u row))
              (fun _ => Staged organizationId i n uploadId object) (fun _ _ => False) :=
        Cleaning.lift Staged.retained loads (fun _ staged => staged)
      have wrapped
          : Cleaning u organizationId i (Staged organizationId i n uploadId object)
              (do return some (← liftExcept (documentFromRecord u row)))
              (fun found world =>
                (refused → found ≠ none) ∧ Staged organizationId i n uploadId object world)
              (fun _ _ => False) :=
        Cleaning.andThen lifted (fun _ =>
          Cleaning.pure Staged.retained (fun _ staged => ⟨fun _ => by simp, staged⟩))
      exact wrapped.mono (fun _ holds => holds.2) (fun _ _ reached => reached)
        (fun _ _ failed => failed)
  · intro world _ holds
    obtain ⟨⟨-, none | ⟨only, document, same, -⟩⟩, -⟩ := holds
    · cases none
    · cases same

-----------------------------------------------------------------------------------------
-- The new document
-----------------------------------------------------------------------------------------

/-- An operation that touches no object. -/
theorem Cleaning.plain {known : World → Prop} (retained : Retained organizationId i known)
    {op : Op} {raised : Exn → World → Prop} (plain : ∀ key, ¬ op.Touches key)
    : Cleaning u organizationId i known (perform op) (fun _ => known) raised := by
  refine Triple.perform retained.stable (fun _ => retained.stable) ?_
    (fun _ _ _ reached => reached)
  intro now answer after _ holds admitted ran
  exact ⟨trivial, trivial,
    retained _ _ (admitted.2.2.2.quiet_plain admitted.2.1 ran plain) holds⟩

theorem enter_proceeds {known : World → Prop} (retained : Retained organizationId i known)
    (staged : ∀ world, known world → Staged organizationId i n uploadId object world)
    (port : Port)
    : Cleaning u organizationId i known (enter port) (fun _ => known) (fun _ _ => False) :=
  (enter_staged retained staged (fun _ => True) port).mono (fun _ holds => ⟨holds, trivial⟩)
    (fun _ _ holds => holds.1) (fun _ _ failed => failed)

/-- The staged upload, with the ids of its document drawn. -/
def Drafting (organizationId : UUID) (i n : Nat) (uploadId : UUID) (object : StoredObject)
    (world : World)
    : Prop :=
  Staged organizationId i n uploadId object world ∧ DrewAfter i n world

theorem Drafting.retained
    : Retained organizationId i (Drafting organizationId i n uploadId object) :=
  Staged.retained.and DrewAfter.kept

/-- The first id of the new document. -/
theorem newUuid_staged
    : Cleaning u organizationId i (Staged organizationId i n uploadId object) newUuid
        (fun _ => Drafting organizationId i n uploadId object) (fun _ _ => False) := by
  refine Triple.perform Staged.retained.stable (fun _ => Drafting.retained.stable) ?_
    (fun _ _ _ reached => reached)
  intro now answer after _ staged admitted ran
  have quiet : Quiet organizationId i now after :=
    admitted.2.2.2.quiet_plain admitted.2.1 ran (fun _ => id)
  refine ⟨trivial, trivial, Staged.retained _ _ quiet staged, now.drawn.length,
    (List.getElem?_eq_some_iff.mp staged.drawn).1, ?_⟩
  cases ran
  simp

theorem newDocumentPair_staged {filename : Option Text} {metadata : NormalizedUploadMetadata}
    (accepted : AcceptedMetadata services.platform.unicode filename metadata)
    (renames : Renames services.platform.unicode filename) (hash : ContentHash)
    {byteSize : Nat} (small : byteSize < 2 ^ 63) (now : Timestamp)
    : Cleaning u organizationId i (Staged organizationId i n uploadId object)
        (UploadDocument.newDocumentPair services tenant metadata hash byteSize now)
        (fun pair world =>
          DraftRows services.platform.unicode pair.1 pair.2
          ∧ Drafting organizationId i n uploadId object world)
        (fun _ _ => False) := by
  refine Cleaning.andThen newUuid_staged (fun documentId => ?_)
  refine Cleaning.andThen (Cleaning.plain Drafting.retained (fun _ => id)) (fun versionId => ?_)
  obtain ⟨version, document, created, registered, rows⟩ :=
    newDocument_built accepted renames tenant documentId versionId hash small now
  simp only [liftExcept, Program.ofExcept, created, Program.bind_ok, registered]
  exact Cleaning.pure Drafting.retained (fun _ holds => ⟨rows, holds⟩)

/-- Inserting a row that fits its columns. -/
theorem insert_fitting {known : World → Prop} (retained : Retained organizationId i known)
    {t : TableName} {row : TableRow t} (fits : rowFits t row = true)
    : Cleaning u organizationId i known (insert t row) (fun _ => known)
        (fun failure world => failure = .integrityError ∧ known world) := by
  have answered
      : Cleaning u organizationId i known (perform (.sql (.insert t row)))
          (fun (answer : Except Violation Unit) world => answer ≠ .error .data ∧ known world)
          (fun failure world => failure = .integrityError ∧ known world) := by
    refine Triple.perform retained.stable
      (fun _ => ((Retained.const _).and retained).stable) ?_ (fun _ _ _ reached => reached)
    intro now answer after _ holds admitted ran
    refine ⟨trivial, trivial, ?_,
      retained _ _ (admitted.2.2.2.quiet_plain admitted.2.1 ran (fun _ => id)) holds⟩
    rintro rfl
    have wide := Store.exec_insert_wide (exec_sql ran).1
    exact absurd fits (by simpa using wide)
  refine Cleaning.andThen answered (fun answer => ?_)
  have remains
      : Retained organizationId i (fun world => answer ≠ .error .data ∧ known world) :=
    (Retained.const _).and retained
  rcases answer with (_ | _) | ⟨⟨⟩⟩
  · exact Cleaning.throw remains (fun _ holds => ⟨rfl, holds.2⟩)
  · exact fun _ _ holds => absurd rfl holds.1
  · exact Cleaning.pure remains (fun _ holds => holds.2)

/-- Adding the draft either succeeds or reports duplicate content. -/
theorem addDocument_staged {document : Document} {version : DocumentVersion}
    (rows : DraftRows u document version)
    : Cleaning u organizationId i (Drafting organizationId i n uploadId object)
        (DocumentRepository.addDocument u document version)
        (fun _ => Drafting organizationId i n uploadId object)
        (fun failure world =>
          (∃ message, failure = .duplicateDocumentContent message)
          ∧ Drafting organizationId i n uploadId object world) := by
  have flushed
      : Cleaning u organizationId i (Drafting organizationId i n uploadId object)
          (do
            insert .documents document
            insert .documentVersions (recordFromVersion version))
          (fun _ => Drafting organizationId i n uploadId object)
          (fun failure world =>
            failure = .integrityError ∧ Drafting organizationId i n uploadId object world) :=
    Cleaning.andThen (insert_fitting Drafting.retained rows.document_fits)
      (fun _ => insert_fitting Drafting.retained rows.version_fits)
  have refused
      : Cleaning u organizationId i (Drafting organizationId i n uploadId object)
          (orDuplicateContent (do
            insert .documents document
            insert .documentVersions (recordFromVersion version)))
          (fun _ => Drafting organizationId i n uploadId object)
          (fun failure world =>
            (∃ message, failure = .duplicateDocumentContent message)
            ∧ Drafting organizationId i n uploadId object world) := by
    refine Cleaning.tryCatch flushed (fun failure => ?_)
    by_cases integrity : failure = .integrityError
    · subst integrity
      refine Cleaning.mono (Cleaning.andThen (Cleaning.plain Drafting.retained (fun _ => id))
        (fun _ => Cleaning.throw Drafting.retained (fun _ holds => ⟨⟨_, rfl⟩, holds⟩)))
        (fun _ holds => holds.2) (fun _ _ reached => reached) (fun _ _ failed => failed)
    · exact fun _ _ holds => absurd holds.1 integrity
  obtain ⟨loaded, loads⟩ := rows.loads
  refine Cleaning.andNext
    (enter_proceeds Drafting.retained (fun _ holds => holds.1) _) (fun _ => ?_)
  refine Cleaning.andThen refused (fun _ => ?_)
  exact Cleaning.lift Drafting.retained loads (fun _ holds => holds)

theorem commit_staged {known : World → Prop} (retained : Retained organizationId i known)
    (staged : ∀ world, known world → Staged organizationId i n uploadId object world)
    : Cleaning u organizationId i known commit (fun _ => known) (fun _ _ => False) :=
  Cleaning.andThen (enter_proceeds retained staged _) (fun _ =>
    Cleaning.plain retained (fun _ => id))

/-- The rows of the new document are committed or refused as duplicate content. -/
theorem addNewDocument_staged {document : Document} {version : DocumentVersion}
    (rows : DraftRows u document version)
    : Cleaning u organizationId i (Drafting organizationId i n uploadId object)
        (tryCatch (do
          let document ← DocumentRepository.addDocument u document version
          commit
          return .ok document)
          (fun failure =>
            match failure with
            | .duplicateDocumentContent message =>
                return .error (.duplicateDocumentContent message)
            | other => throw other) : App (Except Exn Document))
        (fun _ => Drafting organizationId i n uploadId object) (fun _ _ => False) := by
  have added
      : Cleaning u organizationId i (Drafting organizationId i n uploadId object)
          (do
            let document ← DocumentRepository.addDocument u document version
            commit
            return .ok document : App (Except Exn Document))
          (fun _ => Drafting organizationId i n uploadId object)
          (fun failure world =>
            (∃ message, failure = .duplicateDocumentContent message)
            ∧ Drafting organizationId i n uploadId object world) := by
    refine Cleaning.andThen (addDocument_staged rows) (fun document => ?_)
    refine Cleaning.andNext
      (commit_staged Drafting.retained (fun _ holds => holds.1)) (fun _ => ?_)
    exact Cleaning.pure Drafting.retained (fun _ holds => holds)
  refine Cleaning.tryCatch added (fun failure => Triple.of_state (fun world _ holds => ?_))
  obtain ⟨⟨message, rfl⟩, -⟩ := holds
  exact Cleaning.pure ((Retained.const _).and Drafting.retained) (fun _ holds => holds.2)

/-- Rolling back drops the session's writes. -/
theorem rollback_staged
    : Cleaning u organizationId i (Drafting organizationId i n uploadId object) rollback
        (fun _ world =>
          Drafting organizationId i n uploadId object world ∧ world.store.own i = [])
        (fun _ _ => False) := by
  refine Cleaning.andThen
    (enter_proceeds Drafting.retained (fun _ holds => holds.1) _) (fun _ => ?_)
  refine Triple.perform Drafting.retained.stable
    (fun _ => Drafting.retained.stable_own (· = [])) ?_ (fun _ _ _ reached => reached)
  intro now answer after _ holds admitted ran
  have quiet : Quiet organizationId i now after :=
    admitted.2.2.2.quiet_plain admitted.2.1 ran (fun _ => id)
  refine ⟨trivial, trivial, Drafting.retained _ _ quiet holds, ?_⟩
  have released := (exec_sql ran).1
  simp only [Store.exec, Option.some.injEq, Prod.mk.injEq] at released
  rw [← released.2]
  exact Store.release_own_self _ i

-----------------------------------------------------------------------------------------
-- The deletion
-----------------------------------------------------------------------------------------

/-- An operation on the temporary object of a loose upload. -/
theorem Loose.written {op : Op} {now after : World} {answer : op.Answer}
    (loose : Loose organizationId i n uploadId now) (unclaimed : now.Unclaimed)
    (only
      : ∀ key, op.Touches key → key = (temporaryUploadKey organizationId uploadId).value)
    (ran : exec i op now = some (answer, after))
    : Loose organizationId i n uploadId after := by
  obtain ⟨ids, more, objects⟩ := exec_leaves ran
  refine ⟨getElem?_of_extends more loose.drawn, by rw [ids, loose.id], fun entry member => ?_⟩
  obtain ⟨drawn, present⟩ := World.mem_temporaries.mp member
  rw [World.temporaryKey_of_ids ids] at present
  by_contra elsewhere
  have away : ¬ op.Touches (now.temporaryKey organizationId entry.1) := by
    intro touches
    have key : now.temporaryKey organizationId entry.1 = now.temporaryKey organizationId n := by
      rw [World.temporaryKey.eq_def now organizationId n, loose.id]
      exact only _ touches
    exact elsewhere (World.temporaryKey_position key)
  rw [objects _ away] at present
  by_cases old : entry.1 < now.drawn.length
  · obtain ⟨rest, same⟩ := more
    rw [← same, List.getElem?_append_left old] at drawn
    exact elsewhere (loose.only entry (World.mem_temporaries.mpr ⟨drawn, present⟩))
  · rw [unclaimed organizationId entry.1 (Nat.not_lt.mp old)] at present
    cases present

/-- Erasing the object of a loose upload. -/
theorem Loose.erased {now after : World} (loose : Loose organizationId i n uploadId now)
    (unclaimed : now.Unclaimed)
    (ran
      : exec i (.deleteObject (temporaryUploadKey organizationId uploadId).value) now
        = some (true, after))
    : Swept organizationId i after := by
  intro entry member
  have still : Loose organizationId i n uploadId after :=
    loose.written unclaimed (by rintro key ⟨⟩; rfl) ran
  have here := still.only entry member
  have present := (World.mem_temporaries.mp member).2
  rw [here, World.temporaryKey_of_ids (exec_leaves ran).1, World.temporaryKey, loose.id,
    clientEffect_true (Option.some.inj ran)] at present
  obtain ⟨_, found⟩ : ∃ a, List.find? (fun _ => false) now.objects = some (a, entry.2) := by
    simpa [World.object?, World.eraseObject] using present
  exact absurd (List.find?_some found) Bool.false_ne_true

/-- The client deletes the object of a loose upload. -/
theorem deleteTemp_loose
    : Cleaning u organizationId i (Loose organizationId i n uploadId)
        (perform (.deleteObject (temporaryUploadKey organizationId uploadId).value))
        (fun (deleted : Bool) world => deleted = true ∧ Swept organizationId i world)
        (fun _ _ => False) := by
  refine Triple.perform Loose.kept.stable
    (fun _ => ((Retained.const _).and Swept.kept).stable) ?_ (fun _ _ _ reached => reached)
  intro now deleted after _ loose admitted ran
  have reliable := admitted.1.deletes
  have succeeds : deleted = true := by
    have outcome : now.outcomes now.clientCalls = .ok := by
      simpa [deletesObject] using reliable
    simp only [exec, World.clientEffect, World.clientCall, outcome, Option.some.injEq,
      Prod.mk.injEq] at ran
    exact ran.1.symm
  subst succeeds
  exact ⟨trivial, trivial, rfl, loose.erased admitted.2.2.2 ran⟩

/-- `_delete_temp_best_effort` deletes the object. -/
theorem deleteTempBestEffort_loose {raised : Exn → World → Prop}
    : Cleaning u organizationId i (Loose organizationId i n uploadId)
        (UploadDocument.deleteTempBestEffort (temporaryUploadKey organizationId uploadId))
        (fun _ => Swept organizationId i) raised := by
  have entered
      : Cleaning u organizationId i (Loose organizationId i n uploadId) (enter .deleteObject)
          (fun _ => Loose organizationId i n uploadId) (fun _ _ => False) := by
    have answered
        : Cleaning u organizationId i (Loose organizationId i n uploadId)
            (perform (.enter .deleteObject))
            (fun (raised : Bool) world =>
              raised = false ∧ Loose organizationId i n uploadId world)
            (fun _ _ => False) := by
      refine Triple.perform Loose.kept.stable
        (fun _ => ((Retained.const _).and Loose.kept).stable) ?_ (fun _ _ _ reached => reached)
      intro now raised after _ loose admitted ran
      have quiet : Quiet organizationId i now after :=
        admitted.2.2.2.quiet_plain admitted.2.1 ran (fun _ => id)
      have reliable := admitted.1.deletes
      obtain ⟨rfl, rfl⟩ := Prod.mk.inj (Option.some.inj ran)
      refine ⟨trivial, trivial, ?_, Loose.kept _ _ quiet loose⟩
      simpa [deletesObject, World.refuses] using reliable
    refine Cleaning.andThen answered (fun raised => ?_)
    cases raised
    · exact Cleaning.pure ((Retained.const _).and Loose.kept) (fun _ holds => holds.2)
    · intro world _ holds
      cases holds.1
  have deleted
      : Cleaning u organizationId i (Loose organizationId i n uploadId)
          (ObjectStorage.deleteObject (temporaryUploadKey organizationId uploadId))
          (fun _ => Swept organizationId i) (fun _ _ => False) := by
    refine Cleaning.andThen entered (fun _ => ?_)
    refine Cleaning.andThen deleteTemp_loose (fun deleted => ?_)
    cases deleted
    · intro world _ holds
      cases holds.1
    · exact Cleaning.pure ((Retained.const _).and Swept.kept) (fun _ holds => holds.2)
  exact Cleaning.tryCatch deleted (fun _ _ _ never => never.elim)

end WorkflowForge
