import WorkflowForge.Documents.Runs

/-! Version histories over all interleavings: they have no gaps, and archiving ends them. -/

namespace WorkflowForge

open Python Transactions Concurrency

/-- The versions of every document are numbered 1..n, the last one is current, and content
hashes and storage keys are as the tenant's content determines them. -/
structure WellVersioned (db : Database) : Prop where
  numbers
    : ∀ document ∈ db .documents,
        (versionNumbers db document.id).Perm
          (List.range' 1 (versionNumbers db document.id).length)
  current
    : ∀ document ∈ db .documents,
        ∃ version ∈ db .documentVersions,
          version.id = document.currentVersionId
          ∧ version.documentId = document.id
          ∧ version.versionNumber = (versionNumbers db document.id).length
  organizations
    : ∀ version ∈ db .documentVersions,
        ∃ document ∈ db .documents,
          document.id = version.documentId ∧ document.organizationId = version.organizationId
  hashes
    : ∀ first ∈ db .documentVersions,
        ∀ second ∈ db .documentVersions,
          first.organizationId = second.organizationId
          → first.contentHash = second.contentHash
          → first = second
  keys
    : ∀ version ∈ db .documentVersions,
        ∃ contentHash key,
          contentHash.value = version.contentHash
          ∧ StorageObjectKey.forDocumentContent version.organizationId contentHash = .ok key
          ∧ version.storageObjectKey = key.value

/-- Rows with the same tenant and content hash violate a unique constraint. -/
theorem Sane.version_of_hash {u : Unicode} {regime : Regime} {world : World}
    (sane : Sane u regime world) {first second : DocumentVersionRecord}
    (left : first ∈ world.store.committed .documentVersions)
    (right : second ∈ world.store.committed .documentVersions)
    (tenant : first.organizationId = second.organizationId)
    (hash : first.contentHash = second.contentHash)
    : first = second := by
  by_cases same : first.id = second.id
  · have here := Db.find?_of_mem sane.coherent.keyed left
    have there := Db.find?_of_mem sane.coherent.keyed right
    change world.store.committed.find? .documentVersions first.id = some first at here
    rw [same] at here
    exact Option.some.inj (here.symm.trans there)
  · have apart := sane.coherent.settled .documentVersions first second left right same
    simp [uniqueClash, tenant, hash] at apart

/-- A digest inside a valid storage key has no capitals to fold. -/
theorem lower_of_storageKey {u : Unicode} {organizationId : UUID} {digest : Text}
    (valid : isStorageKey (documentContentKeyText organizationId digest) = true)
    : u.lower digest = digest := by
  apply u.lower_ascii
  intro c member
  have inKey : c ∈ documentContentKeyText organizationId digest := by
    simp [documentContentKeyText, member]
  simp only [isStorageKey, isKeyText, Bool.and_eq_true, List.all_eq_true] at valid
  have allowed := valid.1.2.2 c inKey
  simp only [isKeyEdge, Bool.or_eq_true, beq_iff_eq] at allowed
  rcases allowed with (((((lower | digit) | rfl) | rfl) | rfl) | rfl)
  · exact ascii_of_lower lower
  · exact ascii_of_digit digit
  all_goals decide

/-- The stored key of a version that loads is the deterministic final key. -/
theorem Sane.key_of_version {u : Unicode} {regime : Regime} {world : World}
    (sane : Sane u regime world) {version : DocumentVersionRecord}
    (member : version ∈ world.store.committed .documentVersions)
    : ∃ contentHash key,
        contentHash.value = version.contentHash
        ∧ StorageObjectKey.forDocumentContent version.organizationId contentHash = .ok key
        ∧ version.storageObjectKey = key.value := by
  have final := sane.consistent.keys version member
  obtain ⟨loaded, loads⟩ := sane.consistent.versions version member
  simp only [versionFromRecord, bind, Except.bind] at loads
  split at loads
  · contradiction
  rename_i contentHash parsed
  split at loads
  · contradiction
  rename_i key keyParsed
  obtain ⟨name, media, accepted, -⟩ := DocumentVersion.postInit_eq_ok.mp loads
  have same : contentHash.value = version.contentHash := by
    rw [ContentHash.value_of_parse parsed]
    apply lower_of_storageKey
    rw [← final, ← StorageObjectKey.value_of_parse keyParsed]
    exact key.valid
  refine ⟨contentHash, documentContentKey version.organizationId contentHash, same,
    StorageObjectKey.forDocumentContent_eq accepted.organization contentHash, ?_⟩
  rw [final, ← same]
  rfl

theorem Sane.wellVersioned {u : Unicode} {regime : Regime} {world : World}
    (sane : Sane u regime world)
    : WellVersioned world.store.committed where
  numbers := sane.consistent.numbered
  current := sane.consistent.current
  organizations := sane.consistent.owned
  hashes _ left _ right := sane.version_of_hash left right
  keys _ := sane.key_of_version

/-- Every committed state of every run of document calls is well versioned. -/
theorem reachable_wellVersioned {services : Services} {initial : World}
    {config : DocumentConfig} (start : initial.Initial)
    (run
      : Reaches exec (DocumentCall.body services) (fun _ _ _ => True) (.idle initial) config)
    : WellVersioned config.shared.store.committed := by
  have sound := documents_sound (.free initial.raises) id start rfl run
  exact sound.inv.wellVersioned

namespace Sample

def registerCall : DocumentCall :=
  .registerDocument {
    displayFilename := "a.pdf".toList
    mediaType := "application/pdf".toList
    byteSize := 8
    contentHash := (sha256 pdf).value
  } tenant none

def versionCall : DocumentCall :=
  .createVersion {
    documentId := 100
    originalFilename := "b.pdf".toList
    mediaType := "application/pdf".toList
    byteSize := 9
    contentHash := (sha256 []).value
  } tenant none

end Sample

/-- A registered document with a second version. -/
theorem reachable_wellVersioned_second
    : ∃ config : DocumentConfig,
        Reaches exec (DocumentCall.body Sample.services) (fun _ _ _ => True)
          (.idle (Sample.world fun _ => .ok)) config
        ∧ versionNumbers config.shared.store.committed 100 = [1, 2]
        ∧ WellVersioned config.shared.store.committed := by
  have checked
      : ((Config.idle (Sample.world fun _ => .ok)).follow exec
            (DocumentCall.body Sample.services) (fun _ _ _ => true)
            (.start Sample.registerCall :: List.replicate 14 (.act 0)
              ++ .start Sample.versionCall :: List.replicate 16 (.act 1))).any
          (fun config => versionNumbers config.shared.store.committed 100 == [1, 2]) = true := by
    decide +kernel
  obtain ⟨config, run, found⟩ := Config.reaches_of_check (fun _ _ _ _ => trivial) checked
  exact ⟨config, run, by simpa using found,
    reachable_wellVersioned (Sample.world_initial _) run⟩

-----------------------------------------------------------------------------------------
-- Archived documents
-----------------------------------------------------------------------------------------

variable {regime : Regime} {i : Nat} {needs : World → Prop}

theorem sessionRollback_uncommitted {u : Unicode} {failed : World → Prop}
    : Spec u regime i needs (Uncommitted i) sessionRollback (fun _ _ => True)
        (fun _ => Uncommitted i) failed := by
  have steady : Steady u regime i (Uncommitted i) := Uncommitted.framed.steady
  refine Spec.perform steady (fun _ => Durable.const regime i True) (fun _ => steady)
    (fun _ _ _ _ => .nothing (by simp) (by simp [Op.Touches]) (by simp)) ?_
  intro now _ after _ _ _ _ holds _ ran
  have log := (exec_rollback ran).2
  exact ⟨by rw [log], trivial, log.trans holds⟩

/-- As one request, creating a version of an archived document raises and commits nothing. -/
theorem createVersion_refused {services : Services} {command : DocumentVersionCreationCommand}
    {tenant : TenantContext} {now : Option Datetime}
    : Spec services.platform.unicode regime i (Archived command.documentId)
        (fun world => Clean i world ∧ Uncommitted i world)
        ((DocumentCall.createVersion command tenant now).body services) (fun _ _ => False)
        (fun _ _ => True) (Uncommitted i) := by
  have steady : Steady services.platform.unicode regime i (Uncommitted i) :=
    Uncommitted.framed.steady
  have refused
      : Spec services.platform.unicode regime i (Archived command.documentId)
          (fun world => Clean i world ∧ Uncommitted i world)
          ((DocumentCall.createVersion command tenant now).useCase services)
          (fun _ _ => False) (fun _ _ => True) (Uncommitted i) := by
    refine Spec.bind (fun _ => Durable.const regime i False)
      (DocumentService.createVersion_archived (fun _ known => known)) ?_
    intro saved
    exact Spec.of_state False (fun _ _ known _ => known.2) False.elim
  have caught
      : Spec services.platform.unicode regime i (Archived command.documentId)
          (fun world => Clean i world ∧ Uncommitted i world)
          (tryCatch
            (do
              let reply ← (DocumentCall.createVersion command tenant now).useCase services
              return Except.ok reply)
            (fun failure => return .error failure))
          (fun (result : Except Exn DocumentReply) _ => ∃ failure, result = .error failure)
          (fun _ => Uncommitted i) (Uncommitted i) := by
    refine Spec.tryCatch (Uncommitted i) ?_ ?_
    · refine Spec.bind (fun _ => Durable.const regime i False) refused ?_
      intro reply
      exact Spec.of_state False (fun _ _ known _ => known.2) False.elim
    · exact fun failure => Spec.pure steady (fun _ _ => ⟨failure, rfl⟩)
  refine Spec.bind (fun _ => Durable.const regime i _) caught ?_
  intro result
  refine Spec.of_state _ (fun _ _ known _ => known.2) ?_
  rintro ⟨failure, rfl⟩
  refine Spec.bind (fun _ => Durable.const regime i True) sessionRollback_uncommitted ?_
  exact fun _ => Spec.throw steady

/-- The postcondition of calls that start after a document was archived. -/
def refusedPost (regime : Regime) (started : Nat) (id : UUID) (i : Nat) (call : DocumentCall)
    (result : Except Exn DocumentReply) (world : World)
    : Prop :=
  call.post regime i result world
  ∧ (started ≤ i
      → ∀ command tenant now,
          call = .createVersion command tenant now
          → command.documentId = id
          → (∃ failure, result = .error failure) ∧ Uncommitted i world)

theorem Archived.stays {strict : Prop} {id : UUID} {before now : World}
    (archived : Archived id before) (advances : Advances strict before now)
    : Archived id now := by
  obtain ⟨row, found, status⟩ := archived
  obtain ⟨row', found', becomes⟩ := advances.evolves.documents id row found
  rcases becomes with rfl | ⟨-, active, -⟩
  · exact ⟨_, found', status⟩
  · exact absurd status active

/-- Calls that start after a document was archived. -/
theorem archived_safe {services : Services} (lax : ¬ regime.strict) (started : Nat)
    (id : UUID) (i : Nat) (call : DocumentCall) (world : World)
    (sane : Sane services.platform.unicode regime world)
    (fresh : Untouched i world ∧ Archived id world)
    : Safe exec (sessions services.platform.unicode regime) i
        (refusedPost regime started id i call) (call.body services) world := by
  refine (documents_safe lax i call world sane fresh.1).and ?_
  by_cases refused
      : ∃ command tenant now,
          call = .createVersion command tenant now ∧ command.documentId = id
  · obtain ⟨command, tenant, now, rfl, rfl⟩ := refused
    have clean : Clean i world ∧ Uncommitted i world := by
      refine ⟨fresh.1.1, ?_⟩
      rw [Uncommitted, fresh.1.2]
    refine (createVersion_refused.safe (Durable.archived _) sane fresh.2 clean).mono ?_
    intro result after _ reached _ command' tenant' now' same _
    cases result with
    | ok reply => exact reached.elim
    | error failure => exact ⟨⟨failure, rfl⟩, reached⟩
  · refine (documents_safe lax i call world sane fresh.1).mono ?_
    intro result after _ _ _ command tenant now same target
    exact absurd ⟨command, tenant, now, same, target⟩ refused

/-- Once a document is committed as archived, its row and its versions never change, and
creating a version of it raises and commits nothing. -/
theorem archived_document_final {services : Services} {initial : World}
    {earlier later : DocumentConfig} {row : Document} (start : initial.Initial)
    (before
      : Reaches exec (DocumentCall.body services) (fun _ _ _ => True) (.idle initial) earlier)
    (run : Reaches exec (DocumentCall.body services) (fun _ _ _ => True) earlier later)
    (committed : row ∈ earlier.shared.store.committed .documents)
    (archived : row.status = .archived)
    : row ∈ later.shared.store.committed .documents
      ∧ (∀ other ∈ later.shared.store.committed .documents, other.id = row.id → other = row)
      ∧ (∀ version ∈ later.shared.store.committed .documentVersions,
          version.documentId = row.id
          → ∃ old ∈ earlier.shared.store.committed .documentVersions, old.id = version.id)
      ∧ ∀ i command tenant now result,
          earlier.threads.length ≤ i
          → later.threads[i]? = some ⟨.createVersion command tenant now, .done result⟩
          → command.documentId = row.id
          → (∃ failure, result = .error failure)
            ∧ (later.shared.store.history i).log = [] := by
  let regime := Regime.free initial.raises
  have lax : ¬ regime.strict := id
  have sound := documents_sound regime lax start rfl before
  have coherent := sessions_coherent services.platform.unicode regime
  have found : earlier.shared.store.committed.find? .documents row.id = some row :=
    Db.find?_of_mem sound.inv.coherent.keyed committed
  have advances : Advances regime.strict earlier.shared later.shared :=
    sound.relates coherent Untouched.stays (documents_safe lax) (Advances.refl _)
      (fun _ _ _ => Advances.trans)
      (fun i _ _ promised => (promised (i + 1) (Nat.succ_ne_self i)).toAdvances) run
  have stays : later.shared.store.committed.find? .documents row.id = some row := by
    obtain ⟨row', found', becomes⟩ := advances.evolves.documents row.id row found
    rcases becomes with rfl | ⟨-, active, -⟩
    · exact found'
    · exact absurd archived active
  -- From here on every call starts with the document archived.
  have ready
      : Sound exec (sessions services.platform.unicode regime)
          (fun i world => Untouched i world ∧ Archived row.id world)
          (refusedPost regime earlier.threads.length row.id) earlier := by
    refine ⟨sound.inv, ?_, ?_⟩
    · intro i thread active
      refine (sound.safe i thread active).mono ?_
      intro result world _ reached
      refine ⟨reached, fun later => ?_⟩
      have inside := (List.getElem?_eq_some_iff.mp active).1
      omega
    · exact fun i bound => ⟨sound.unseen i bound, row, found, archived⟩
  have sound' := ready.reaches coherent
    (fun i before now fresh interference =>
      ⟨Untouched.stays i before now fresh.1 interference, fresh.2.stays interference.toAdvances⟩)
    (archived_safe lax earlier.threads.length row.id) run
  refine ⟨Db.mem_of_find? stays, ?_, ?_, ?_⟩
  · intro other member same
    have there := Db.find?_of_mem sound'.inv.coherent.keyed member
    change later.shared.store.committed.find? .documents other.id = some other at there
    rw [same, stays] at there
    exact (Option.some.inj there).symm
  · intro version member owner
    have there := Db.find?_of_mem sound'.inv.coherent.keyed member
    have known := advances.evolves.additions row.id row found stays version.id version there owner
    obtain ⟨old, old_found⟩ := Option.isSome_iff_exists.mp known
    exact ⟨old, Db.mem_of_find? old_found, Db.find?_key old_found⟩
  · intro i command tenant now result bound active target
    exact (sound'.finished coherent active).2 bound command tenant now rfl target

/-- A document that is registered and archived, and then asked for a second version. -/
theorem archived_document_final_version
    : ∃ (earlier later : DocumentConfig) (row : Document),
        Reaches exec (DocumentCall.body Sample.services) (fun _ _ _ => True)
          (.idle (Sample.world fun _ => .ok)) earlier
        ∧ Reaches exec (DocumentCall.body Sample.services) (fun _ _ _ => True) earlier later
        ∧ row.status = .archived
        ∧ row ∈ earlier.shared.store.committed .documents
        ∧ later.threads.length = 3
        ∧ row ∈ later.shared.store.committed .documents := by
  have checked
      : ((Config.idle (Sample.world fun _ => .ok)).follow exec
            (DocumentCall.body Sample.services) (fun _ _ _ => true)
            (.start Sample.registerCall :: List.replicate 14 (.act 0)
              ++ .start (.archiveDocument 100 Sample.tenant none none)
              :: List.replicate 13 (.act 1))).any
          (fun earlier =>
            (earlier.follow exec (DocumentCall.body Sample.services) (fun _ _ _ => true)
              (.start Sample.versionCall :: List.replicate 7 (.act 2))).any
            (fun later =>
              (earlier.shared.store.committed .documents).any
                (fun row => row.status == .archived)
              && later.threads.length == 3)) = true := by
    decide +kernel
  obtain ⟨earlier, later, before, run, found⟩ :=
    Config.reaches_of_checks (fun _ _ _ _ => trivial) checked
  rw [Bool.and_eq_true] at found
  obtain ⟨row, member, archived⟩ := List.any_eq_true.mp found.1
  have status : row.status = .archived := by simpa using archived
  exact ⟨earlier, later, row, before, run, status, member, by simpa using found.2,
    (archived_document_final (Sample.world_initial _) before run member status).1⟩

end WorkflowForge
