import WorkflowForge.Application.DocumentService
import WorkflowForge.Documents.Writes

/-! Specifications of the repository methods in a session with mild writes. -/

namespace WorkflowForge

open Python Transactions Concurrency

variable {u : Unicode} {regime : Regime} {i : Nat} {needs frame : World → Prop}
  {pending : List (Write schema) → Prop}

-----------------------------------------------------------------------------------------
-- Durable knowledge about rows
-----------------------------------------------------------------------------------------

/-- The document has a version with this id. -/
def HasVersion (documentId id : UUID) (world : World) : Prop :=
  ∃ row : DocumentVersionRecord,
    world.store.committed.find? .documentVersions id = some row ∧ row.documentId = documentId

/-- The document row was once `base`. -/
def Descends (base : Document) (world : World) : Prop :=
  ∃ row : Document,
    world.store.committed.find? .documents base.id = some row ∧ base.Becomes row

/-- The version is stored with its bytes. -/
def Kept (id : UUID) (world : World) : Prop :=
  ∃ row : DocumentVersionRecord,
    row.id = id
    ∧ world.store.committed.find? .documentVersions row.id = some row
    ∧ world.Holds row

/-- The tenant's user and organization exist. -/
def Account (tenant : TenantContext) (world : World) : Prop :=
  hasUser world.store.committed tenant.userId = true
  ∧ hasOrganization world.store.committed tenant.organizationId = true

theorem Durable.hasVersion (documentId id : UUID)
    : Durable regime i (HasVersion documentId id) := by
  rintro before after progress ⟨row, found, owner⟩
  obtain ⟨row', found', core⟩ := progress.evolves.versions id row found
  exact ⟨row', found', (DocumentVersionRecord.core_fields core).2.1.trans owner⟩

theorem Durable.descends (base : Document) : Durable regime i (Descends base) := by
  rintro before after progress ⟨row, found, becomes⟩
  obtain ⟨row', found', becomes'⟩ := progress.evolves.documents base.id row found
  exact ⟨row', found', becomes.trans becomes'⟩

theorem Durable.kept (strict : regime.strict) (id : UUID) : Durable regime i (Kept id) := by
  rintro before after progress ⟨row, same, found, holds⟩
  obtain ⟨found', holds'⟩ := progress.holds strict row found holds
  exact ⟨row, same, found', holds'⟩

theorem Durable.strictly_kept (id : UUID)
    : Durable regime i (fun world => regime.strict → Kept id world) :=
  fun before after progress holds strict =>
    Durable.kept strict id before after progress (holds strict)

theorem Durable.account (tenant : TenantContext) : Durable regime i (Account tenant) :=
  fun _ _ progress holds =>
    ⟨progress.users _ holds.1, progress.organizations _ holds.2⟩

-----------------------------------------------------------------------------------------
-- Idempotency records
-----------------------------------------------------------------------------------------

theorem scalarOneOrNone_silent {α : Type} {rows : List α}
    : Silent u regime i needs (scalarOneOrNone rows)
        (fun row _ => ∀ value, row = some value → rows = [value]) := by
  match rows with
  | [] => exact Silent.pure (fun _ _ _ same => by cases same)
  | [row] =>
      refine Silent.pure (fun _ _ value same => ?_)
      cases same
      rfl
  | _ :: _ :: _ => exact Silent.throw

/-- Closed under writes to tables other than documents and versions. -/
def Lenient (pending : List (Write schema) → Prop) : Prop :=
  ∀ writes (t : TableName) (row : TableRow t),
    t ≠ .documents
    → t ≠ .documentVersions
    → pending writes
    → pending (writes ++ [.put t row])

theorem Lenient.true : Lenient (fun _ => True) := fun _ _ _ _ _ _ => trivial

theorem Lenient.and {first second : List (Write schema) → Prop} (left : Lenient first)
    (right : Lenient second)
    : Lenient (fun writes => first writes ∧ second writes) :=
  fun writes t row noDocument noVersion holds =>
    ⟨left writes t row noDocument noVersion holds.1,
      right writes t row noDocument noVersion holds.2⟩

theorem Lenient.implies {fact : Prop} (lenient : Lenient pending)
    : Lenient (fun writes => fact → pending writes) :=
  fun writes t row noDocument noVersion holds given =>
    lenient writes t row noDocument noVersion (holds given)

theorem Lenient.record (lenient : Lenient pending) (writes : List (Write schema))
    (record : UploadIdempotencyRecord) (holds : pending writes)
    : pending (writes ++ [.put .uploadIdempotency record]) :=
  lenient writes .uploadIdempotency record (by decide) (by decide) holds

theorem Lenient.leaves_document (document : Document)
    : Lenient (fun writes => Leaves writes .documents document) := by
  intro writes t row noDocument _ leaves
  apply Leaves.concat leaves
  simp only [Write.target, ne_eq, Prod.mk.injEq, not_and]
  exact fun same => absurd same noDocument

theorem Lenient.leaves_version (version : DocumentVersionRecord)
    : Lenient (fun writes => Leaves writes .documentVersions version) := by
  intro writes t row _ noVersion leaves
  apply Leaves.concat leaves
  simp only [Write.target, ne_eq, Prod.mk.injEq, not_and]
  exact fun same => absurd same noVersion

/-- Visible versions are committed up to their storage state. -/
theorem Mildly.view_version {world : World} (mildly : Mildly u regime i pending world)
    {id : UUID} {row : DocumentVersionRecord}
    (found : (world.store.view i).find? .documentVersions id = some row)
    : ∃ old : DocumentVersionRecord,
        world.store.committed.find? .documentVersions id = some old ∧ row.core = old.core := by
  rcases world.store.find?_view_cases i (t := TableName.documentVersions) (k := id)
    with ⟨same, -⟩ | ⟨-, puts⟩
  · rw [same] at found
    exact ⟨row, found, rfl⟩
  · obtain ⟨old, old_found, core⟩ := mildly.mild _ (puts row found)
    have key : row.id = id := Db.find?_key found
    rw [key] at old_found
    exact ⟨old, old_found, core⟩

/-- Visible records that are completed resolve. -/
theorem Mildly.view_resolves {world : World} (mildly : Mildly u regime i pending world)
    (sane : Sane u regime world) {id : UUID} {record : UploadIdempotencyRecord}
    (found : (world.store.view i).find? .uploadIdempotency id = some record)
    (completed : record.status = .completed)
    : record.Resolves world.store.committed := by
  rcases world.store.find?_view_cases i (t := TableName.uploadIdempotency) (k := id)
    with ⟨same, -⟩ | ⟨-, puts⟩
  · rw [same] at found
    exact sane.consistent.resolved record (Db.mem_of_find? found) completed
  · exact mildly.mild _ (puts record found) completed

/-- A stored version is not among the uncommitted writes. -/
theorem Mildly.kept_view {world : World} {id : UUID}
    (mildly : Mildly u regime i pending world) (sane : Sane u regime world)
    (strict : regime.strict) (kept : Kept id world)
    : ∃ version : DocumentVersionRecord,
        version.id = id
        ∧ (world.store.view i).find? .documentVersions version.id = some version
        ∧ version.storageState = .stored := by
  obtain ⟨row, rfl, found, stored, -⟩ := kept
  refine ⟨row, rfl, ?_, stored⟩
  obtain ⟨now, seen, -⟩ := (mildly.publishes sane).evolves.versions row.id row found
  rcases world.store.find?_view_cases i (t := TableName.documentVersions) (k := row.id)
    with ⟨same, -⟩ | ⟨-, puts⟩
  · rw [same]
    exact found
  · have key : now.id = row.id := Db.find?_key seen
    exact absurd stored
      (mildly.unstored strict now (puts now seen) row (by rw [key]; exact found))

namespace UploadIdempotencyRepository

theorem record_silent {organizationId : UUID} {idempotencyKey : Text}
    : Silent u regime i needs (record organizationId idempotencyKey) (fun _ _ => True) := by
  refine Silent.bind (fun _ => Durable.const regime i True) select_silent ?_
  intro db
  exact scalarOneOrNone_silent.mono (fun _ known => known) (fun _ _ _ _ _ => trivial)

theorem requiredRecord_silent {organizationId : UUID} {idempotencyKey : Text}
    : Silent u regime i needs (requiredRecord organizationId idempotencyKey)
        (fun _ _ => True) := by
  refine Silent.bind (fun _ => Durable.const regime i True) record_silent ?_
  intro row
  cases row with
  | none => exact Silent.throw
  | some row => exact Silent.pure (fun _ _ => trivial)

theorem get_silent {organizationId : UUID} {idempotencyKey : Text}
    : Silent u regime i needs (get organizationId idempotencyKey) (fun _ _ => True) := by
  refine Silent.bind (fun _ => Durable.const regime i True) enter_silent ?_
  exact fun _ => record_silent

/-- Assigning columns of a record; a record that is completed afterwards has to resolve. -/
theorem assign_spec {loaded : UploadIdempotencyRecord}
    {columns : UploadIdempotencyRecord → UploadIdempotencyRecord}
    {pending' : List (Write schema) → Prop} (framed : Framed u regime i frame)
    (resolves
      : ∀ now old,
          Sane u regime now
          → needs now
          → Mildly u regime i pending now
          → frame now
          → (now.store.view i).find? .uploadIdempotency loaded.id = some old
          → rowSound (now.store.view i) .uploadIdempotency (columns old) = true
          → (columns old).status = .completed
          → (columns old).Resolves now.store.committed
            ∧ (regime.strict → (columns old).Backed (now.store.view i)))
    (keeps
      : ∀ writes record,
          pending writes → pending' (writes ++ [.put .uploadIdempotency record]))
    (weaker : ∀ writes, pending writes → pending' writes)
    : Spec u regime i needs (fun world => Mildly u regime i pending world ∧ frame world)
        (assign loaded columns) (fun _ _ => True)
        (fun _ world => Mildly u regime i pending' world ∧ frame world)
        (fun world => Mildly u regime i pending world ∧ frame world) := by
  have updated
      : Spec u regime i needs (fun world => Mildly u regime i pending world ∧ frame world)
          (update .uploadIdempotency loaded.id (fun row => some (columns row)))
          (fun found _ => False → found = true)
          (Updated u regime i pending pending' frame)
          (fun world => Mildly u regime i pending world ∧ frame world) := by
    refine update_spec False pending' framed (fun never => never.elim) ?_
    intro now old row sane known mildly holds found changed key sound
    simp only [Option.some.injEq] at changed
    subst changed
    refine mildly.stage_light (by decide) ?_ ?_ ?_ (keeps _ _)
    · exact fun completed =>
        (resolves now old sane known mildly holds found sound completed).1
    · intro none
      rw [key] at none ⊢
      rcases now.store.find?_view_cases i (t := TableName.uploadIdempotency) (k := loaded.id)
        with ⟨same, -⟩ | ⟨-, puts⟩
      · rw [same, none] at found
        cases found
      · have oldKey : primaryKey .uploadIdempotency old = loaded.id := Db.find?_key found
        have drawn := mildly.drawn .uploadIdempotency old rfl (puts old found)
        rw [oldKey] at drawn
        exact drawn none
    · intro strict record same completed
      cases same
      exact (resolves now old sane known mildly holds found sound completed).2 strict
  refine Spec.bind (fun _ => Durable.const regime i _) updated ?_
  intro found
  refine Spec.mono (Spec.pure (Mildly.steady framed) (fun _ _ => trivial))
    (fun _ known => known) ?_ (fun _ _ _ _ fact holds => ⟨fact, holds⟩) (fun _ _ holds => holds)
  intro world _ _ holds
  refine ⟨holds.1.weaken ?_, holds.2⟩
  cases found with
  | true => exact fun here => here
  | false => exact weaker _

/-- Methods that assign columns of the required record. -/
theorem assignRequired_spec {port : Port} {organizationId : UUID} {idempotencyKey : Text}
    {next : UploadIdempotencyRecord → App UploadIdempotencyRecord}
    {pending' : List (Write schema) → Prop} (framed : Framed u regime i frame)
    (rest
      : ∀ loaded,
          Spec u regime i needs (fun world => Mildly u regime i pending world ∧ frame world)
            (next loaded) (fun _ _ => True)
            (fun _ world => Mildly u regime i pending' world ∧ frame world)
            (fun world => Mildly u regime i pending world ∧ frame world))
    : Spec u regime i needs (fun world => Mildly u regime i pending world ∧ frame world)
        (do
          enter port
          let loaded ← requiredRecord organizationId idempotencyKey
          next loaded)
        (fun _ _ => True) (fun _ world => Mildly u regime i pending' world ∧ frame world)
        (fun world => Mildly u regime i pending world ∧ frame world) := by
  refine Silent.before (Mildly.steady framed) enter_silent ?_ (fun _ holds => holds)
  intro _
  exact Silent.before (Mildly.steady framed) requiredRecord_silent rest (fun _ holds => holds)

theorem markInProgress_spec {organizationId : UUID} {idempotencyKey : Text}
    {now expiresAt : Timestamp} (framed : Framed u regime i frame) (lenient : Lenient pending)
    : Spec u regime i needs (fun world => Mildly u regime i pending world ∧ frame world)
        (markInProgress organizationId idempotencyKey now expiresAt) (fun _ _ => True)
        (fun _ world => Mildly u regime i pending world ∧ frame world)
        (fun world => Mildly u regime i pending world ∧ frame world) := by
  refine assignRequired_spec framed ?_
  intro loaded
  by_cases refused : loaded.status ≠ .failed ∨ !loaded.retryable
  · simp only [if_pos refused, Program.throw_eq, Program.bind_error]
    exact Spec.throw (Mildly.steady framed)
  · simp only [if_neg refused]
    exact assign_spec framed (fun _ _ _ _ _ _ _ _ completed => by cases completed)
      lenient.record (fun _ here => here)

theorem fail_spec {organizationId : UUID} {idempotencyKey : Text}
    {requestFingerprint : Option Text} {errorCode : String} {responseStatus : Nat}
    {retryable : Bool} {now : Timestamp} (framed : Framed u regime i frame)
    (lenient : Lenient pending)
    : Spec u regime i needs (fun world => Mildly u regime i pending world ∧ frame world)
        (fail organizationId idempotencyKey requestFingerprint errorCode responseStatus
          retryable now)
        (fun _ _ => True) (fun _ world => Mildly u regime i pending world ∧ frame world)
        (fun world => Mildly u regime i pending world ∧ frame world) := by
  refine assignRequired_spec framed ?_
  intro loaded
  exact assign_spec framed (fun _ _ _ _ _ _ _ _ completed => by cases completed)
    lenient.record (fun _ here => here)

theorem finalizeFingerprint_spec {organizationId : UUID}
    {idempotencyKey requestFingerprint : Text} {now : Timestamp}
    (framed : Framed u regime i frame) (lenient : Lenient pending)
    : Spec u regime i needs (fun world => Mildly u regime i pending world ∧ frame world)
        (finalizeFingerprint organizationId idempotencyKey requestFingerprint now)
        (fun _ _ => True) (fun _ world => Mildly u regime i pending world ∧ frame world)
        (fun world => Mildly u regime i pending world ∧ frame world) := by
  refine assignRequired_spec framed ?_
  intro loaded
  refine assign_spec framed ?_
    lenient.record (fun _ here => here)
  intro now old sane _ mildly _ found _ completed
  have resolves : old.Resolves now.store.committed :=
    mildly.view_resolves sane found completed
  refine ⟨resolves, ?_⟩
  intro strict
  exact (mildly.publishes sane).backed strict old (Db.mem_of_find? found) completed

/-- Completing a record for a version that exists. -/
theorem complete_spec {organizationId : UUID} {idempotencyKey requestFingerprint : Text}
    {documentId documentVersionId : UUID} {responseStatus : Nat}
    {outcome : UploadDocumentOutcome} {now : Timestamp}
    {pending' : List (Write schema) → Prop} (framed : Framed u regime i frame)
    (lenient : Lenient pending') (weaker : ∀ writes, pending writes → pending' writes)
    (status : responseStatus = 200 ∨ responseStatus = 201)
    (version : ∀ world, needs world → HasVersion documentId documentVersionId world)
    (backs
      : ∀ now,
          Sane u regime now
          → needs now
          → Mildly u regime i pending now
          → frame now
          → regime.strict
          → ∃ version : DocumentVersionRecord,
              version.id = documentVersionId
              ∧ (now.store.view i).find? .documentVersions version.id = some version
              ∧ version.storageState = .stored)
    : Spec u regime i needs (fun world => Mildly u regime i pending world ∧ frame world)
        (complete organizationId idempotencyKey requestFingerprint documentId
          documentVersionId responseStatus outcome now)
        (fun _ _ => True) (fun _ world => Mildly u regime i pending' world ∧ frame world)
        (fun world => Mildly u regime i pending world ∧ frame world) := by
  refine assignRequired_spec framed ?_
  intro loaded
  refine assign_spec framed ?_
    (fun writes record here => lenient.record writes record (weaker writes here)) weaker
  intro now old sane known mildly holds _ sound _
  refine ⟨?_, ?_⟩
  · obtain ⟨row, found, owner⟩ := version now known
    have rowId : row.id = documentVersionId := Db.find?_key found
    obtain ⟨document, inDocuments, documentKey, tenant⟩ :=
      sane.consistent.owned row (Db.mem_of_find? found)
    have referenced : row.organizationId = old.organizationId := by
      simp only [rowSound, Bool.and_eq_true, Option.all_some, hasVersion, List.any_eq_true,
        beq_iff_eq] at sound
      obtain ⟨⟨-, seen, inView, seenTenant, seenId⟩, -⟩ := sound
      have seen_found : (now.store.view i).find? .documentVersions seen.id = some seen :=
        Db.find?_of_mem (Store.view_keyed sane.coherent i) inView
      rw [seenId] at seen_found
      obtain ⟨committed, committed_found, core⟩ := mildly.view_version seen_found
      rw [found] at committed_found
      cases committed_found
      exact (DocumentVersionRecord.core_fields core).2.2.1.symm.trans seenTenant
    have found_document : now.store.committed.find? .documents document.id = some document :=
      Db.find?_of_mem sane.coherent.keyed inDocuments
    refine ⟨by simpa using status, document, row, found_document, ?_, ?_, ?_, ?_, ?_, ?_⟩
    · rw [rowId]
      exact found
    · simp only [Option.some.injEq]
      exact (documentKey.trans owner).symm
    · simp only [Option.some.injEq]
      exact rowId.symm
    · exact tenant.trans referenced
    · exact referenced
    · exact documentKey.symm
  · intro strict
    obtain ⟨version, isVersion, found, stored⟩ := backs now sane known mildly holds strict
    exact ⟨version, found, by simp [isVersion], stored⟩

/-- Reserving a key: one uncommitted record, or the record that is there. -/
theorem reserve_spec {organizationId : UUID} {idempotencyKey : Text} {now expiresAt : Timestamp}
    : Spec u regime i needs (Clean i) (reserve organizationId idempotencyKey now expiresAt)
        (fun _ _ => True) (fun _ => Mildly u regime i (fun _ => True)) (fun _ => True) := by
  refine Silent.before Clean.firm.steady enter_silent ?_ (fun _ _ => trivial)
  intro _
  refine Spec.bind (fun id => (Durable.const regime i _).and (Durable.drawnBy id))
    (newUuid_spec Clean.firm.steady) ?_
  intro id
  refine Spec.tryCatch (fun _ => True) ?_ ?_
  · have inserted
        : Spec u regime i (fun world => needs world ∧ id ≠ 0 ∧ world.DrawnBy i id)
            (fun world => Mildly u regime i (fun _ => True) world ∧ True)
            (insert .uploadIdempotency
              (reservation id organizationId idempotencyKey now expiresAt))
            (fun _ _ => True)
            (fun _ world => Mildly u regime i (fun _ => True) world ∧ True)
            (fun world => (Mildly u regime i (fun _ => True) world ∧ True) ∧ True) := by
      refine insert_spec (Framed.const True) (fun _ known _ => ⟨i, known.2.2⟩) ?_
        (fun _ _ _ _ _ _ _ _ => trivial) (Durable.const regime i True)
      intro world sane known mildly _
      refine mildly.stage_light (by decide) ?_ (fun _ => known.2.2) ?_ (fun _ => trivial)
      · exact fun completed => by cases completed
      · intro _ record same completed
        cases same
        cases completed
    refine Spec.bind (fun _ => Durable.const regime i True)
      (inserted.mono (fun _ known => known)
        (fun _ _ _ holds => ⟨holds.1.mildly trivial, trivial⟩)
        (fun _ _ _ _ fact holds => ⟨fact, holds.1⟩) (fun _ _ _ => trivial)) ?_
    exact fun _ => Spec.pure Mildly.firm.steady (fun _ _ => trivial)
  · intro failure
    cases failure with
    | integrityError =>
        refine Spec.bind (fun _ => Durable.const regime i True) sessionRollback_spec ?_
        intro _
        refine Silent.before Clean.firm.steady record_silent ?_ (fun _ _ => trivial)
        intro row
        cases row with
        | none => exact Spec.abandon
        | some existing =>
            exact (Spec.pure Clean.firm.steady (fun _ _ => trivial)).mono
              (fun _ known => known) (fun _ _ _ holds => holds)
              (fun _ _ _ _ fact holds => ⟨fact, holds.mildly trivial⟩) (fun _ _ holds => holds)
    | _ => exact Spec.abandon

end UploadIdempotencyRepository

-----------------------------------------------------------------------------------------
-- Audit events
-----------------------------------------------------------------------------------------

/-- An id of the session that no committed row uses. -/
def Absent (i : Nat) (id : UUID) (world : World) : Prop :=
  world.DrawnBy i id
  ∧ ∀ t, t.written = true → world.store.committed.find? t id = none

theorem Absent.framed (id : UUID) : Framed u regime i (Absent i id) := by
  intro before after _ _ calm _ ⟨drawn, absent⟩
  exact ⟨drawn.mono calm.ids calm.drawn,
    fun t written => calm.absent t id written drawn (absent t written)⟩

theorem Framed.and {first second : World → Prop} (left : Framed u regime i first)
    (right : Framed u regime i second)
    : Framed u regime i (fun world => first world ∧ second world) :=
  fun before after sane sane' calm temps holds =>
    ⟨left before after sane sane' calm temps holds.1,
      right before after sane sane' calm temps holds.2⟩

/-- None of the writes is about this id. -/
def Avoids (id : UUID) (writes : List (Write schema)) : Prop :=
  ∀ write ∈ writes, write.target.2 ≠ id

theorem Mildly.avoids {world : World} {id : UUID} (mildly : Mildly u regime i pending world)
    (unused : Unused i id world)
    : Avoids id (world.store.own i) := by
  intro write member same
  obtain ⟨t, row, rfl, written⟩ := (mildly.mild write member).cases
  exact (unused.2 t written).2 _ member (by rw [← same]; rfl)

/-- An event of a known tenant with an unused id is accepted. -/
theorem insert_event_accepted {event : AuditEvent} {world : World} {violation : Violation}
    {store : Store schema} (sane : Sane u regime world)
    (mildly : Mildly u regime i (fun writes => pending writes ∧ Avoids event.id writes) world)
    (absent : Absent i event.id world)
    (user : hasUser world.store.committed event.actorUserId = true)
    (organization : hasOrganization world.store.committed event.organizationId = true)
    (refused
      : Store.exec (S := schema) i (.insert TableName.securityAuditEvents event) world.store
        = some (.error violation, store))
    : False := by
  have publishes := mildly.publishes sane
  have nowhere
      : (world.store.view i).find? .securityAuditEvents event.id = none := by
    refine (Write.find?_applyAll_other _ _ ?_).trans (absent.2 .securityAuditEvents rfl)
    intro write member same
    exact mildly.pending.2 write member (by rw [same])
  rcases Store.exec_insert_refused refused with present | duplicate | unsound | wide
  · change ((world.store.view i).find? .securityAuditEvents event.id).isSome = true at present
    rw [nowhere] at present
    cases present
  · simp [Store.duplicates, uniqueClash] at duplicate
  · simp only [rowSound, publishes.users _ user, publishes.organizations _ organization] at unsound
    cases unsound
  · cases wide

/-- What is known implies that the user and the organization exist. -/
def Vouched (needs : World → Prop) (userId organizationId : UUID) : Prop :=
  ∀ world,
    needs world
    → hasUser world.store.committed userId = true
      ∧ hasOrganization world.store.committed organizationId = true

/-- Audit events are recorded unless the port raises or the tenant is unknown. -/
theorem AuditRepository.record_spec {event : AuditEvent} (framed : Framed u regime i frame)
    (lenient : Lenient pending)
    : Spec u regime i needs
        (fun world => (Mildly u regime i pending world ∧ frame world) ∧ Unused i event.id world)
        (AuditRepository.record event)
        (fun _ _ => True) (fun _ world => Mildly u regime i pending world ∧ frame world)
        (fun world => (Mildly u regime i pending world ∧ frame world)
          ∧ (Vouched needs event.actorUserId event.organizationId → ¬ regime.strict)) := by
  have steady
      : Steady u regime i
          (fun world => (Mildly u regime i pending world ∧ frame world)
            ∧ Unused i event.id world) :=
    (Mildly.steady framed).and (Unused.firm event.id).steady
  have entered
      : Spec u regime i needs
          (fun world => (Mildly u regime i pending world ∧ frame world)
            ∧ Unused i event.id world)
          (enter (.auditRecord event.eventType)) (fun _ _ => True)
          (fun _ world => (Mildly u regime i pending world ∧ frame world)
            ∧ Unused i event.id world)
          (fun world => (Mildly u regime i pending world ∧ frame world)
            ∧ (Vouched needs event.actorUserId event.organizationId → ¬ regime.strict)) :=
    (enter_spec steady).mono (fun _ known => known) (fun _ _ _ holds => holds)
      (fun _ _ _ _ fact holds => ⟨fact, holds⟩)
      (fun _ _ holds => ⟨holds.1.1, fun _ => holds.2 rfl⟩)
  refine Spec.bind (fun _ => Durable.const regime i True) entered ?_
  intro _
  have inserted
      : Spec u regime i needs
          (fun world =>
            Mildly u regime i (fun writes => pending writes ∧ Avoids event.id writes) world
            ∧ frame world ∧ Absent i event.id world)
          (insert .securityAuditEvents event) (fun _ _ => True)
          (fun _ world => Mildly u regime i pending world
            ∧ frame world ∧ Absent i event.id world)
          (fun world =>
            (Mildly u regime i (fun writes => pending writes ∧ Avoids event.id writes) world
              ∧ frame world ∧ Absent i event.id world)
            ∧ ¬ Vouched needs event.actorUserId event.organizationId) := by
    refine insert_spec (framed.and (Absent.framed event.id)) (fun _ _ held => ⟨i, held.2.1⟩) ?_ ?_
      (Durable.const regime i _)
    · intro now sane _ mildly held
      exact mildly.stage_light (by decide) trivial (fun _ => held.2.1)
        (fun _ _ same => by cases same)
        (fun here => lenient _ .securityAuditEvents event (by decide) (by decide) here.1)
    · intro now violation store sane known mildly held refused vouched
      obtain ⟨user, organization⟩ := vouched now known
      exact insert_event_accepted sane mildly held.2 user organization refused
  refine Spec.tryCatch
    (fun world => (Mildly u regime i pending world ∧ frame world)
      ∧ (Vouched needs event.actorUserId event.organizationId → ¬ regime.strict))
    ?_ ?_
  · refine inserted.mono (fun _ known => known.1) ?_ ?_ ?_
    · intro world _ _ ⟨⟨mildly, held⟩, unused⟩
      exact ⟨mildly.weaken (fun here => ⟨here, mildly.avoids unused⟩), held, unused.1,
        fun t written => (unused.2 t written).1⟩
    · exact fun _ _ _ _ fact holds => ⟨fact, holds.1, holds.2.1⟩
    · intro world _ ⟨⟨mildly, held, _⟩, unvouched⟩
      exact ⟨⟨mildly.weaken (fun here => here.1), held⟩, fun vouched => absurd vouched unvouched⟩
  · intro failure
    exact Spec.throw ((Mildly.steady framed).and (Firm.const _).steady)

/-- Recording an event when a recorder is configured. -/
theorem recordEvent_spec {services : Services} {eventType : AuditEventType}
    {outcome : AuditOutcome} {tenant : TenantContext}
    {requestContext : Option AuditRequestContext} {now : Timestamp}
    {metadata : List (String × AuditValue)} (framed : Framed u regime i frame)
    (lenient : Lenient pending)
    : Spec u regime i needs (fun world => Mildly u regime i pending world ∧ frame world)
        (recordEvent services eventType outcome tenant requestContext now metadata)
        (fun _ _ => True) (fun _ world => Mildly u regime i pending world ∧ frame world)
        (fun world => (Mildly u regime i pending world ∧ frame world)
          ∧ (Vouched needs tenant.userId tenant.organizationId → ¬ regime.strict)) := by
  unfold recordEvent
  cases services.audited with
  | false => exact Spec.pure (Mildly.steady framed) (fun _ _ => trivial)
  | true =>
      simp only [if_true]
      refine Spec.bind (fun id => (Durable.const regime i _).and (Durable.drawnBy id))
        (newUuid_spec (Mildly.steady framed)) ?_
      intro id
      refine (AuditRepository.record_spec framed lenient).mono (fun _ known => known)
        (fun _ _ _ holds => holds) (fun _ _ _ _ fact holds => ⟨fact, holds⟩) ?_
      intro world _ holds
      refine ⟨holds.1, fun vouched => holds.2 (fun world' known => vouched world' known.1)⟩

end WorkflowForge
