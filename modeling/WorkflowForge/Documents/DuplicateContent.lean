import WorkflowForge.Documents.VersionHistory
import WorkflowForge.Infrastructure.Commitless
import WorkflowForge.Infrastructure.Returns

/-! Registering content that a version of the tenant already has.
The lookup joins documents with their current versions, while the database keeps the hashes
of all versions apart. So the owner is found exactly while the version is its current one.
-/

namespace WorkflowForge

open Python Transactions Concurrency

section

variable {services : Services} {tenant : TenantContext} {command : DocumentRegistrationCommand}
  {now : Option Datetime} {i : Nat} {world after : World} {u : Unicode}

/-- `register_document` returns the owner of the version and changes no table. -/
def ReturnsOwner (services : Services) (tenant : TenantContext)
    (command : DocumentRegistrationCommand) (now : Option Datetime) (i : Nat) (world : World)
    (version : DocumentVersionRecord)
    : Prop :=
  ∃ row ∈ world.store.committed .documents, ∃ document after,
    row.id = version.documentId
    ∧ documentFromRecord services.platform.unicode row = .ok document
    ∧ App.run i (DocumentCall.body services (.registerDocument command tenant now)) world
      = some (.ok (.document document), after)
    ∧ after.store.committed = world.store.committed

/-- The call gets to its lookup, and the version is the current one of its document. -/
structure FindsOwner (tenant : TenantContext) (now : Option Datetime) (world : World)
    (version : DocumentVersionRecord)
    : Prop where
  allowed : require tenant .documentWrite = .ok ()
  timed : (world.timeFor now).isSome
  quiet : world.refuses .findDocumentByTenantContentHash = false
  current
    : ∃ row ∈ world.store.committed .documents,
        row.id = version.documentId ∧ row.currentVersionId = version.id

-----------------------------------------------------------------------------------------
-- The lookup by content hash
-----------------------------------------------------------------------------------------

/-- A lookup returns a document when exactly one row is found and loads. -/
theorem findDocumentByTenantContentHash_yields {organizationId : UUID} {hash : ContentHash}
    {found : Option Document}
    : Yields i (DocumentRepository.findDocumentByTenantContentHash u organizationId hash) world
          found after
      ↔ world.refuses .findDocumentByTenantContentHash = false
        ∧ (match documentsByContentHash (world.store.view i) organizationId hash with
            | [] => found = none
            | [row] => ∃ document, documentFromRecord u row = .ok document ∧ found = some document
            | _ :: _ :: _ => False)
        ∧ (world.entering .findDocumentByTenantContentHash).selecting i = after := by
  refine Yields.selected_iff.trans (and_congr_right fun _ => ?_)
  rcases documentsByContentHash (world.store.view i) organizationId hash with
    _ | ⟨row, _ | ⟨other, rest⟩⟩
  · simp [scalarOneOrNone, DocumentRepository.loaded, Yields, Returns, Program.run, eq_comm]
  · constructor
    · intro returned
      obtain ⟨_, _, scalar, returned⟩ := Returns.bind_iff.mp returned
      obtain ⟨rfl, rfl⟩ := Returns.pure_iff.mp scalar
      obtain ⟨document, _, lifted, wrapped⟩ := Returns.bind_iff.mp returned
      obtain ⟨loads, rfl⟩ := Yields.liftExcept_iff.mp lifted
      obtain ⟨rfl, rfl⟩ := Returns.pure_iff.mp wrapped
      exact ⟨⟨document, loads, rfl⟩, rfl⟩
    · rintro ⟨⟨document, loads, rfl⟩, rfl⟩
      exact Returns.bind_iff.mpr ⟨some row, _, Returns.pure_iff.mpr ⟨rfl, rfl⟩,
        Returns.bind_iff.mpr ⟨document, _, Yields.liftExcept_iff.mpr ⟨loads, rfl⟩,
          Returns.pure_iff.mpr ⟨rfl, rfl⟩⟩⟩
  · simp [scalarOneOrNone, Yields, Returns, Program.run]

-----------------------------------------------------------------------------------------
-- Content that a version has
-----------------------------------------------------------------------------------------

/-- A committed version of the organization has the hash. -/
structure HasContent (world : World) (organizationId : UUID) (hash : ContentHash)
    (version : DocumentVersionRecord)
    : Prop where
  member : version ∈ world.store.committed .documentVersions
  owned : version.organizationId = organizationId
  same : version.contentHash = hash.value

/-- What the join finds: documents whose current version is the one with the hash. -/
theorem documentsByContentHash_current {db : Database} (unique : db.Unique)
    {version : DocumentVersionRecord} (member : version ∈ db .documentVersions)
    {hash : ContentHash} (same : version.contentHash = hash.value) {row : Document}
    : row ∈ documentsByContentHash db version.organizationId hash
      ↔ row ∈ db .documents
        ∧ row.organizationId = version.organizationId
        ∧ row.currentVersionId = version.id := by
  unfold documentsByContentHash
  rw [List.mem_filter]
  refine and_congr_right fun _ => ?_
  simp only [Bool.and_eq_true, beq_iff_eq, List.any_eq_true]
  refine and_congr_right fun _ => ?_
  constructor
  · rintro ⟨other, found, ⟨current, tenant⟩, hashed⟩
    rw [← current]
    by_contra different
    have apart := unique .documentVersions version other member found (fun same =>
      different same.symm)
    simp [uniqueClash, tenant, same, hashed] at apart
  · intro current
    exact ⟨version, member, ⟨current.symm, rfl⟩, same⟩

/-- Only its owner has a version as its current one. -/
theorem owner_of_current {db : Database} (consistent : Consistent u db) (keyed : db.Keyed)
    {version : DocumentVersionRecord} (member : version ∈ db .documentVersions) {row : Document}
    (found : row ∈ db .documents) (current : row.currentVersionId = version.id)
    : row.id = version.documentId ∧ row.organizationId = version.organizationId := by
  obtain ⟨other, other_mem, same, owner, -⟩ := consistent.current row found
  obtain rfl : other = version := Db.eq_of_key keyed other_mem member (same.trans current)
  refine ⟨owner.symm, ?_⟩
  obtain ⟨document, document_mem, id, organization⟩ := consistent.owned other member
  obtain rfl : document = row := Db.eq_of_key keyed document_mem found (id.trans owner)
  exact organization

/-- The lookup finds the owner alone. -/
theorem documentsByContentHash_owner {db : Database} (consistent : Consistent u db)
    (unique : db.Unique) (keyed : db.Keyed) {version : DocumentVersionRecord}
    (member : version ∈ db .documentVersions) {hash : ContentHash}
    (same : version.contentHash = hash.value) {row : Document} (found : row ∈ db .documents)
    (current : row.currentVersionId = version.id)
    : documentsByContentHash db version.organizationId hash = [row] := by
  have owner := owner_of_current consistent keyed member found current
  have listed := (documentsByContentHash_current unique member same).mpr
    ⟨found, owner.2, current⟩
  have alone {other : Document}
      (listed : other ∈ documentsByContentHash db version.organizationId hash)
      : other = row := by
    obtain ⟨other_mem, -, other_current⟩ :=
      (documentsByContentHash_current unique member same).mp listed
    have other_owner := owner_of_current consistent keyed member other_mem other_current
    exact Db.eq_of_key keyed other_mem found (other_owner.1.trans owner.1.symm)
  have distinct : (documentsByContentHash db version.organizationId hash).Nodup :=
    (List.Nodup.of_map _ (keyed .documents)).filter _
  rcases rows : documentsByContentHash db version.organizationId hash with
    _ | ⟨first, _ | ⟨second, rest⟩⟩
  · rw [rows] at listed
    cases listed
  · have first_eq : first = row := alone (by simp [rows])
    rw [first_eq]
  · have first_eq : first = row := alone (by simp [rows])
    have second_eq : second = row := alone (by simp [rows])
    rw [rows, first_eq, second_eq] at distinct
    simp at distinct

-----------------------------------------------------------------------------------------
-- The early lookup
-----------------------------------------------------------------------------------------

/-- The call returns what its lookup finds. -/
theorem registerDocument_finds {hash : ContentHash}
    (parsed : ContentHash.parse services.platform.unicode command.contentHash = .ok hash)
    (allowed : require tenant .documentWrite = .ok ()) {timestamp : Timestamp}
    (timed : world.timeFor now = some timestamp) {document : Document}
    (looked
      : Yields i (DocumentRepository.findDocumentByTenantContentHash services.platform.unicode
          tenant.organizationId hash) (world.timing now) (some document) after)
    : Yields i (DocumentService.registerDocument services command tenant now) world document
        after :=
  Returns.bind_iff.mpr ⟨(), _, Yields.liftExcept_iff.mpr ⟨allowed, rfl⟩,
    Returns.bind_iff.mpr ⟨timestamp, _, Yields.nowOr_iff.mpr ⟨timed, rfl⟩,
      Returns.bind_iff.mpr ⟨hash, _, Yields.liftExcept_iff.mpr ⟨parsed, rfl⟩,
        Returns.bind_iff.mpr ⟨some document, _, looked, Returns.pure_iff.mpr ⟨rfl, rfl⟩⟩⟩⟩⟩

/-- The request around `register_document`. -/
theorem registration_body
    : App.run i (DocumentCall.body services (.registerDocument command tenant now)) world
      = (App.run i (DocumentService.registerDocument services command tenant now) world).map
          (fun ended =>
            (ended.1.map DocumentReply.document,
              { ended.2 with store := ended.2.store.release i })) := by
  unfold DocumentCall.body DocumentCall.useCase
  rw [run_request]
  unfold App.run
  rw [Program.run_map, Option.map_map]
  rfl

/-- A current version is found with its owner, and nothing changes. -/
theorem FindsOwner.returns {version : DocumentVersionRecord} {hash : ContentHash}
    (finds : FindsOwner tenant now world version)
    (parsed : ContentHash.parse services.platform.unicode command.contentHash = .ok hash)
    (content : HasContent world tenant.organizationId hash version)
    (sane : Consistent services.platform.unicode world.store.committed)
    (unique : world.store.committed.Unique) (keyed : world.store.committed.Keyed)
    (fresh : world.store.own i = [])
    : ReturnsOwner services tenant command now i world version := by
  obtain ⟨row, found, owner, current⟩ := finds.current
  obtain ⟨timestamp, timed⟩ := Option.isSome_iff_exists.mp finds.timed
  obtain ⟨-, document, loads⟩ := sane.documents row found
  have alone := documentsByContentHash_owner sane unique keyed content.member content.same found
    current
  rw [content.owned] at alone
  have looked
      : Yields i (DocumentRepository.findDocumentByTenantContentHash services.platform.unicode
          tenant.organizationId hash) (world.timing now) (some document)
          (((world.timing now).entering .findDocumentByTenantContentHash).selecting i) := by
    refine findDocumentByTenantContentHash_yields.mpr ⟨by simpa using finds.quiet, ?_, rfl⟩
    rw [World.timing_store, Store.view_of_own_nil fresh, alone]
    exact ⟨document, loads, rfl⟩
  have returned
      : App.run i (DocumentService.registerDocument services command tenant now) world
        = some (.ok document, _) :=
    registerDocument_finds parsed finds.allowed timed looked
  have ran := (registration_body (i := i)).trans (congrArg (Option.map _) returned)
  refine ⟨row, found, document, _, owner, loads, ran, ?_⟩
  cases now <;> rfl

-----------------------------------------------------------------------------------------
-- The insert conflict
-----------------------------------------------------------------------------------------

/-- The database keeps a second version with the hash out. -/
theorem HasContent.refuses {hash : ContentHash} {version row : DocumentVersionRecord}
    (content : HasContent world row.organizationId hash version)
    (same : row.contentHash = hash.value)
    (kept : world.store.view i .documentVersions = world.store.committed .documentVersions)
    : ¬ world.store.Accepts i .documentVersions row := by
  intro accepts
  have member : version ∈ world.store.view i .documentVersions := kept ▸ content.member
  by_cases key : version.id = row.id
  · have new := accepts.new
    rw [Db.find?, List.find?_eq_none] at new
    exact new version member (beq_iff_eq.mpr key)
  · have single := accepts.single
    rw [Store.duplicates, List.any_eq_false] at single
    refine single version member ?_
    rw [Bool.and_eq_true, decide_eq_true_eq]
    refine ⟨key, ?_⟩
    simp only [uniqueClash, Bool.or_eq_true, Bool.and_eq_true, beq_iff_eq]
    exact .inl (.inr ⟨content.owned.symm, same.trans content.same.symm⟩)

/-- So a document with such a version is not added. -/
theorem addDocument_conflicts {document saved : Document} {draft : DocumentVersion}
    {version : DocumentVersionRecord}
    (content : HasContent world draft.organizationId draft.contentHash version)
    (fresh : world.store.own i = [])
    : ¬ Yields i (DocumentRepository.addDocument u document draft) world saved after := by
  intro returned
  obtain ⟨_, _, entered, returned⟩ := Returns.bind_iff.mp returned
  obtain ⟨-, rfl⟩ := Yields.enter_iff.mp entered
  obtain ⟨_, _, flushed, -⟩ := Returns.bind_iff.mp returned
  rcases Returns.tryCatch_cases flushed with inserted | ⟨failure, middle, -, handled⟩
  · obtain ⟨_, _, first, second⟩ := Returns.bind_iff.mp inserted
    obtain ⟨-, rfl⟩ := Yields.insert_iff.mp first
    obtain ⟨accepts, -⟩ := Yields.insert_iff.mp second
    have conflict
        : HasContent ((world.entering .addDocument).inserting i .documents document)
            (recordFromVersion draft).organizationId draft.contentHash version :=
      ⟨content.member, content.owned, content.same⟩
    refine conflict.refuses rfl ?_ accepts
    refine Store.view_table _ i fun write member => ?_
    rw [World.inserting, Store.stage_own_self, World.entering_store, fresh, List.nil_append,
      List.mem_singleton] at member
    subst member
    exact fun impossible => by cases impossible
  · split at handled
    · obtain ⟨_, _, -, thrown⟩ := Returns.bind_iff.mp handled
      exact Returns.throw_iff.mp thrown
    · exact Returns.throw_iff.mp handled

theorem addDocument_commitless (document : Document) (draft : DocumentVersion)
    : Commitless (DocumentRepository.addDocument u document draft) := by
  refine Commitless.andThen (Commitless.enter _) (fun _ => ?_)
  refine Commitless.andThen (Keeps.tryCatch ?_ fun failure => ?_)
    (fun _ => Commitless.liftExcept _)
  · exact Commitless.andThen (Commitless.insert _ _) (fun _ => Commitless.insert _ _)
  · split
    · exact Commitless.andThen (Keeps.perform trivial) (fun _ => Commitless.throw _)
    · exact Commitless.throw _

/-- The rows that a new registration builds carry the tenant and the hash. -/
theorem newRegistration_yields {hash : ContentHash} {timestamp : Timestamp}
    {rows : Document × DocumentVersion}
    (returned
      : Yields i (DocumentService.newRegistration services command tenant hash timestamp) world
          rows after)
    : rows.2.organizationId = tenant.organizationId
      ∧ rows.2.contentHash = hash
      ∧ after.store = world.store := by
  obtain ⟨_, _, drawn, returned⟩ := Returns.bind_iff.mp returned
  obtain ⟨rfl, rfl⟩ := Yields.newUuid_iff.mp drawn
  obtain ⟨_, _, drawn, returned⟩ := Returns.bind_iff.mp returned
  obtain ⟨rfl, rfl⟩ := Yields.newUuid_iff.mp drawn
  obtain ⟨draft, _, ran, returned⟩ := Returns.bind_iff.mp returned
  obtain ⟨created, rfl⟩ := Yields.liftExcept_iff.mp ran
  obtain ⟨document, _, ran, returned⟩ := Returns.bind_iff.mp returned
  obtain ⟨-, rfl⟩ := Yields.liftExcept_iff.mp ran
  obtain ⟨rfl, rfl⟩ := Returns.pure_iff.mp returned
  obtain ⟨_, _, -, -, -, -, -, -, rfl⟩ := DocumentVersion.create_eq_ok.mp created
  exact ⟨rfl, rfl, rfl⟩

/-- Where a version of the tenant has the hash, a call that returns has found a document with
it: adding one fails, and the second lookup finds no more than the first. -/
theorem registerDocument_found {hash : ContentHash} {document : Document}
    {version : DocumentVersionRecord}
    (parsed : ContentHash.parse services.platform.unicode command.contentHash = .ok hash)
    (content : HasContent world tenant.organizationId hash version)
    (fresh : world.store.own i = [])
    (returned
      : Yields i (DocumentService.registerDocument services command tenant now) world document
          after)
    : require tenant .documentWrite = .ok ()
      ∧ (world.timeFor now).isSome
      ∧ world.refuses .findDocumentByTenantContentHash = false
      ∧ documentsByContentHash world.store.committed tenant.organizationId hash ≠ [] := by
  unfold DocumentService.registerDocument at returned
  obtain ⟨_, _, ran, returned⟩ := Returns.bind_iff.mp returned
  obtain ⟨allowed, rfl⟩ := Yields.liftExcept_iff.mp ran
  obtain ⟨timestamp, _, ran, returned⟩ := Returns.bind_iff.mp returned
  obtain ⟨timed, rfl⟩ := Yields.nowOr_iff.mp ran
  obtain ⟨_, _, ran, returned⟩ := Returns.bind_iff.mp returned
  obtain ⟨parsed', rfl⟩ := Yields.liftExcept_iff.mp ran
  obtain rfl := Except.ok.inj (parsed.symm.trans parsed')
  obtain ⟨found, middle, looked, returned⟩ := Returns.bind_iff.mp returned
  obtain ⟨quiet, rows, rfl⟩ := findDocumentByTenantContentHash_yields.mp looked
  rw [World.timing_refuses] at quiet
  rw [World.timing_store, Store.view_of_own_nil fresh] at rows
  refine ⟨allowed, Option.isSome_iff_exists.mpr ⟨timestamp, timed⟩, quiet, ?_⟩
  cases found with
  | some existing =>
      intro nothing
      rw [nothing] at rows
      cases rows
  | none =>
      obtain ⟨⟨document', draft⟩, built, registered, returned⟩ := Returns.bind_iff.mp returned
      obtain ⟨tenanted, hashed, store⟩ := newRegistration_yields registered
      have committed : built.store.committed = world.store.committed := by
        rw [store]
        cases now <;> rfl
      have conflict : HasContent built draft.organizationId draft.contentHash version := by
        refine ⟨committed ▸ content.member, ?_, ?_⟩
        · exact content.owned.trans tenanted.symm
        · exact content.same.trans (congrArg ContentHash.value hashed.symm)
      have idle : built.store.own i = [] := by
        rw [store, ← fresh]
        cases now <;> rfl
      rcases Returns.tryCatch_cases returned with inserted | ⟨failure, failed, raised, handled⟩
      · obtain ⟨_, _, added, -⟩ := Returns.bind_iff.mp inserted
        exact absurd added (addDocument_conflicts conflict idle)
      rcases Returns.bind_raises raised with raised | ⟨_, _, added, -⟩
      · have kept := ((addDocument_commitless _ _).kept raised).1.trans committed
        split at handled
        · obtain ⟨_, _, rolled, handled⟩ := Returns.bind_iff.mp handled
          obtain ⟨-, rfl⟩ := Yields.rollback_iff.mp rolled
          obtain ⟨again, _, looked, handled⟩ := Returns.bind_iff.mp handled
          obtain ⟨-, rows, -⟩ := findDocumentByTenantContentHash_yields.mp looked
          rw [Store.view_of_own_nil (Store.release_own_self _ i)] at rows
          intro nothing
          rw [show (failed.store.release i).committed = world.store.committed from kept,
            nothing] at rows
          subst rows
          exact Returns.throw_iff.mp handled
        · obtain ⟨_, _, -, thrown⟩ := Returns.bind_iff.mp handled
          exact (Returns.throw_iff.mp thrown).elim
      · exact absurd added (addDocument_conflicts conflict idle)

-----------------------------------------------------------------------------------------
-- Registration by content in reachable states
-----------------------------------------------------------------------------------------

/-- In every reachable state, for every version of the tenant, a new call with its hash
returns the owner and changes no table exactly when it gets to its lookup and the version is
the current one of its document. -/
theorem returns_owner_iff {initial : World} {config : DocumentConfig} (start : initial.Initial)
    (run
      : Reaches exec (DocumentCall.body services) (fun _ _ _ => True) (.idle initial) config)
    {hash : ContentHash} {version : DocumentVersionRecord}
    (parsed : ContentHash.parse services.platform.unicode command.contentHash = .ok hash)
    (content : HasContent config.shared tenant.organizationId hash version)
    : ReturnsOwner services tenant command now config.threads.length config.shared version
      ↔ FindsOwner tenant now config.shared version := by
  have sound := documents_sound (.free initial.raises) id start rfl run
  have consistent := sound.inv.consistent
  have unique := sound.inv.coherent.settled
  have keyed := sound.inv.coherent.keyed
  have fresh := (sound.unseen config.threads.length (Nat.le_refl _)).1
  constructor
  · rintro ⟨row, found, document, after, owner, loads, ran, -⟩
    rw [registration_body, Option.map_eq_some_iff] at ran
    obtain ⟨⟨result, middle⟩, ran, same⟩ := ran
    cases result with
    | error failure => cases (Prod.mk.inj same).1
    | ok returned =>
        obtain ⟨allowed, timed, quiet, listed⟩ :=
          registerDocument_found parsed content fresh ran
        refine { allowed, timed, quiet, current := ?_ }
        obtain ⟨other, member⟩ := List.exists_mem_of_ne_nil _ listed
        rw [← content.owned] at member
        obtain ⟨other_mem, -, current⟩ :=
          (documentsByContentHash_current unique content.member content.same).mp member
        exact ⟨other, other_mem,
          (owner_of_current consistent keyed content.member other_mem current).1, current⟩
  · exact fun finds => finds.returns parsed content consistent unique keyed fresh

end

namespace Sample

/-- The registration of the sample file. -/
def registrationCommand : DocumentRegistrationCommand where
  displayFilename := "a.pdf".toList
  mediaType := "application/pdf".toList
  byteSize := 8
  contentHash := (sha256 pdf).value

theorem registrationCommand_parsed
    : ContentHash.parse services.platform.unicode registrationCommand.contentHash
      = .ok (sha256 pdf) := by
  decide +kernel

/-- Whether a call raised `DuplicateDocumentContentError`. -/
def duplicated {α : Type} : Option (Except Exn α × World) → Bool
  | some (.error (.duplicateDocumentContent _), _) => true
  | _ => false

end Sample

/-- The sample file is registered, and its document gets a second version. Registering the
file again then raises `DuplicateDocumentContentError`. -/
theorem owner_not_returned
    : ∃ (config : DocumentConfig) (version : DocumentVersionRecord),
        (Sample.world fun _ => .ok).Initial
        ∧ Reaches exec (DocumentCall.body Sample.services) (fun _ _ _ => True)
            (.idle (Sample.world fun _ => .ok)) config
        ∧ HasContent config.shared Sample.tenant.organizationId (Sample.sha256 Sample.pdf) version
        ∧ (∃ message after,
            App.run config.threads.length (DocumentCall.body Sample.services
                (.registerDocument Sample.registrationCommand Sample.tenant none)) config.shared
              = some (.error (.duplicateDocumentContent message), after))
        ∧ ¬ ReturnsOwner Sample.services Sample.tenant Sample.registrationCommand none
            config.threads.length config.shared version := by
  have checked
      : ((Config.idle (Sample.world fun _ => .ok)).follow exec
            (DocumentCall.body Sample.services) (fun _ _ _ => true)
            (.start Sample.registerCall :: List.replicate 14 (.act 0)
              ++ .start Sample.versionCall :: List.replicate 16 (.act 1))).any
          (fun config =>
            (config.shared.store.committed .documentVersions).any (fun version =>
              version.organizationId == Sample.tenant.organizationId
              && version.contentHash == (Sample.sha256 Sample.pdf).value)
            && Sample.duplicated (App.run config.threads.length
              (DocumentCall.body Sample.services
                (.registerDocument Sample.registrationCommand Sample.tenant none))
              config.shared)) = true := by
    decide +kernel
  obtain ⟨config, run, found⟩ :=
    Config.reaches_of_check (fun _ _ _ _ => trivial) checked
  rw [Bool.and_eq_true] at found
  obtain ⟨version, member, content⟩ := List.any_eq_true.mp found.1
  rw [Bool.and_eq_true, beq_iff_eq, beq_iff_eq] at content
  obtain ⟨message, after, raised⟩
      : ∃ message after,
          App.run config.threads.length (DocumentCall.body Sample.services
              (.registerDocument Sample.registrationCommand Sample.tenant none)) config.shared
            = some (.error (.duplicateDocumentContent message), after) := by
    have raises := found.2
    unfold Sample.duplicated at raises
    split at raises
    · exact ⟨_, _, ‹_›⟩
    · cases raises
  refine ⟨config, version, Sample.world_initial _, run, ⟨member, content.1, content.2⟩,
    ⟨message, after, raised⟩, ?_⟩
  rintro ⟨row, -, document, after', -, -, returned, -⟩
  cases raised.symm.trans returned

/-- The document of the sample file is found again right after its registration. -/
theorem returns_owner_registered
    : ∃ (config : DocumentConfig) (version : DocumentVersionRecord),
        HasContent config.shared Sample.tenant.organizationId (Sample.sha256 Sample.pdf) version
        ∧ (ReturnsOwner Sample.services Sample.tenant Sample.registrationCommand none
              config.threads.length config.shared version
            ↔ FindsOwner Sample.tenant none config.shared version)
        ∧ FindsOwner Sample.tenant none config.shared version := by
  have checked
      : ((Config.idle (Sample.world fun _ => .ok)).follow exec
            (DocumentCall.body Sample.services) (fun _ _ _ => true)
            (.start Sample.registerCall :: List.replicate 14 (.act 0))).any
          (fun config =>
            (config.shared.store.committed .documentVersions).any (fun version =>
              version.organizationId == Sample.tenant.organizationId
              && version.contentHash == (Sample.sha256 Sample.pdf).value
              && (config.shared.store.committed .documents).any (fun row =>
                  row.id == version.documentId && row.currentVersionId == version.id))
            && !config.shared.refuses .findDocumentByTenantContentHash) = true := by
    decide +kernel
  obtain ⟨config, run, found⟩ :=
    Config.reaches_of_check (fun _ _ _ _ => trivial) checked
  rw [Bool.and_eq_true, Bool.not_eq_true'] at found
  obtain ⟨version, member, holds⟩ := List.any_eq_true.mp found.1
  simp only [Bool.and_eq_true, beq_iff_eq] at holds
  obtain ⟨row, row_mem, current⟩ := List.any_eq_true.mp holds.2
  simp only [Bool.and_eq_true, beq_iff_eq] at current
  have content
      : HasContent config.shared Sample.tenant.organizationId (Sample.sha256 Sample.pdf) version :=
    ⟨member, holds.1.1, holds.1.2⟩
  exact ⟨config, version, content,
    returns_owner_iff (Sample.world_initial _) run Sample.registrationCommand_parsed content,
    { allowed := rfl, timed := rfl, quiet := found.2, current := ⟨row, row_mem, current⟩ }⟩

end WorkflowForge
