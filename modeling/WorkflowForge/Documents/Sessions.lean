import WorkflowForge.Concurrency.Triples
import WorkflowForge.Documents.Commits
import WorkflowForge.Infrastructure.Constraints
import WorkflowForge.Transactions.Lookups

/-! The discipline of concurrent document sessions.
Between two statements of a session the others may commit any evolution of the document
tables that leaves its locked rows and the versions it created alone. A session owes a proof
only when it inserts rows, touches objects and commits.
-/

namespace WorkflowForge

open Python Transactions Concurrency

/-- The tables that document sessions insert into. -/
def TableName.written : TableName → Bool
  | documents | documentVersions | uploadIdempotency | securityAuditEvents => true
  | _ => false

/-- The ports of the object storage. -/
def Port.ofStorage : Port → Bool
  | putTempStream | promoteTempObject | headObject | deleteObject | createDownloadUrl => true
  | _ => false

/-- The session drew the id. -/
def World.DrawnBy (world : World) (i : Nat) (id : UUID) : Prop :=
  ∃ n, world.drawn[n]? = some i ∧ world.ids.get n = id

def World.Issued (world : World) (id : UUID) : Prop := ∃ i, world.DrawnBy i id

/-- A stored version with its bytes. -/
def World.Holds (world : World) (row : DocumentVersionRecord) : Prop :=
  row.storageState = .stored
  ∧ ∃ object, world.object? row.storageObjectKey = some object
      ∧ (object.body.length : Int) = row.byteSize

/-- Looking up a content hash finds no document whose current version is not stored. -/
def StoredLookup (db : Database) (organizationId : UUID) (contentHash : ContentHash) : Prop :=
  ∀ document ∈ documentsByContentHash db organizationId contentHash,
    ∀ version,
      db.find? .documentVersions document.currentVersionId = some version
      → version.storageState = .stored

/-- The record points to a stored version. -/
def UploadIdempotencyRecord.Backed (db : Database) (record : UploadIdempotencyRecord) : Prop :=
  ∃ version : DocumentVersionRecord,
    db.find? .documentVersions version.id = some version
    ∧ record.documentVersionId = some version.id
    ∧ version.storageState = .stored

/-- The runs that are considered: which port calls raise, which operations are made, and
two conditions on them that the strongest results need; one of them concerns the sessions of
which it is `matched`. -/
structure Regime where
  raises : Port → Nat → Bool
  admits : Nat → Op → World → Prop
  strict : Prop
  reliable : strict → ∀ port n, port.ofStorage = false → raises port n = false
  lookups
    : strict
      → ∀ i organizationId contentHash world,
          admits i (.sql (.select (.documentByContentHash organizationId contentHash))) world
          → StoredLookup (world.store.view i) organizationId contentHash
  matched : Nat → Prop
  matching
    : ∀ i,
        matched i
        → ∀ id change world,
          admits i (.sql (.update .documents id change)) world
          → ((world.store.view i).find? .documents id).bind change ≠ none

/-- The invariant of the shared state. -/
structure Sane (u : Unicode) (regime : Regime) (world : World) : Prop where
  coherent : world.store.Coherent
  consistent : Consistent u world.store.committed
  committed_issued
    : ∀ t k,
        t.written = true
        → (world.store.committed.find? t k).isSome
        → world.Issued k
  pending_issued
    : ∀ j t row,
        t.written = true
        → (j, .put t row) ∈ world.store.pending
        → world.Issued (primaryKey t row)
  raises : world.raises = regime.raises
  stored
    : regime.strict
      → ∀ version ∈ world.store.committed .documentVersions,
          version.storageState = .stored → world.Holds version
  backed
    : regime.strict
      → ∀ record ∈ world.store.committed .uploadIdempotency,
          record.status = .completed → record.Backed world.store.committed

/-- How the shared state moves on, whoever acts. -/
structure Advances (strict : Prop) (before after : World) : Prop where
  evolves : Evolves before.store.committed after.store.committed
  ids : after.ids = before.ids
  drawn : before.drawn <+: after.drawn
  users
    : ∀ user,
        hasUser before.store.committed user = true → hasUser after.store.committed user = true
  organizations
    : ∀ organizationId,
        hasOrganization before.store.committed organizationId = true
        → hasOrganization after.store.committed organizationId = true
  holds
    : strict
      → ∀ row : DocumentVersionRecord,
          before.store.committed.find? .documentVersions row.id = some row
          → before.Holds row
          → after.store.committed.find? .documentVersions row.id = some row
            ∧ after.Holds row

/-- The final keys of the versions that the session created. -/
def World.Owns (world : World) (i : Nat) (key : Text) : Prop :=
  ∃ row : DocumentVersionRecord,
    world.store.committed.find? .documentVersions row.id = some row
    ∧ world.DrawnBy i row.id
    ∧ row.storageObjectKey = key

/-- The temporary keys of the session's uploads. -/
def World.Uploads (world : World) (i : Nat) (key : Text) : Prop :=
  ∃ organizationId uploadId,
    world.DrawnBy i uploadId ∧ key = (temporaryUploadKey organizationId uploadId).value

/-- What the other sessions may do while session `i` is between two operations. -/
structure Interference (strict : Prop) (i : Nat) (before after : World) : Prop
    extends Advances strict before after where
  store : before.store.Undisturbed i after.store
  versions
    : ∀ id,
        before.DrawnBy i id
        → after.store.committed.find? .documentVersions id
          = before.store.committed.find? .documentVersions id
  absent
    : ∀ t id,
        t.written = true
        → before.DrawnBy i id
        → before.store.committed.find? t id = none
        → after.store.committed.find? t id = none
  finals : ∀ key, before.Owns i key → after.object? key = before.object? key
  temps : ∀ key, before.Uploads i key → after.object? key = before.object? key

theorem World.DrawnBy.mono {before after : World} {i : Nat} {id : UUID}
    (drawn : before.DrawnBy i id) (ids : after.ids = before.ids)
    (more : before.drawn <+: after.drawn)
    : after.DrawnBy i id := by
  obtain ⟨n, here, rfl⟩ := drawn
  obtain ⟨later, same⟩ := more
  refine ⟨n, ?_, by rw [ids]⟩
  rw [← same, List.getElem?_append_left (List.getElem?_eq_some_iff.mp here).1]
  exact here

/-- An id has one session. -/
theorem World.DrawnBy.unique {world : World} {i j : Nat} {id : UUID}
    (left : world.DrawnBy i id) (right : world.DrawnBy j id)
    : i = j := by
  obtain ⟨n, here, same⟩ := left
  obtain ⟨m, there, other⟩ := right
  have equal : n = m := world.ids.injective n m (same.trans other.symm)
  subst equal
  rw [here] at there
  exact Option.some.inj there

theorem World.Issued.mono {before after : World} {id : UUID} (issued : before.Issued id)
    (ids : after.ids = before.ids) (more : before.drawn <+: after.drawn)
    : after.Issued id := by
  obtain ⟨i, drawn⟩ := issued
  exact ⟨i, drawn.mono ids more⟩

theorem Advances.refl (strict : Prop) (world : World) : Advances strict world world where
  evolves := .refl _
  ids := rfl
  drawn := List.prefix_rfl
  users _ present := present
  organizations _ present := present
  holds _ _ found held := ⟨found, held⟩

theorem Advances.trans {strict : Prop} {first second third : World}
    (early : Advances strict first second) (late : Advances strict second third)
    : Advances strict first third where
  evolves := early.evolves.trans late.evolves
  ids := late.ids.trans early.ids
  drawn := early.drawn.trans late.drawn
  users user present := late.users user (early.users user present)
  organizations id present := late.organizations id (early.organizations id present)
  holds given row found held := by
    obtain ⟨found', held'⟩ := early.holds given row found held
    exact late.holds given row found' held'

theorem Interference.refl (strict : Prop) (i : Nat) (world : World)
    : Interference strict i world world where
  toAdvances := .refl strict world
  store := .refl i _
  versions _ _ := rfl
  absent _ _ _ _ none := none
  finals _ _ := rfl
  temps _ _ := rfl

theorem Interference.owns {strict : Prop} {i : Nat} {before after : World} {key : Text}
    (interference : Interference strict i before after) (owns : before.Owns i key)
    : after.Owns i key := by
  obtain ⟨row, found, drawn, same⟩ := owns
  refine ⟨row, ?_, drawn.mono interference.ids interference.drawn, same⟩
  rw [interference.versions row.id drawn]
  exact found

theorem World.Uploads.mono {before after : World} {i : Nat} {key : Text}
    (uploads : before.Uploads i key) (ids : after.ids = before.ids)
    (more : before.drawn <+: after.drawn)
    : after.Uploads i key := by
  obtain ⟨organizationId, uploadId, drawn, same⟩ := uploads
  exact ⟨organizationId, uploadId, drawn.mono ids more, same⟩

theorem Interference.trans {strict : Prop} {i : Nat} {first second third : World}
    (early : Interference strict i first second) (late : Interference strict i second third)
    : Interference strict i first third where
  toAdvances := early.toAdvances.trans late.toAdvances
  store := early.store.trans late.store
  versions id drawn :=
    (late.versions id (drawn.mono early.ids early.drawn)).trans (early.versions id drawn)
  absent t id written drawn none :=
    late.absent t id written (drawn.mono early.ids early.drawn)
      (early.absent t id written drawn none)
  finals key owns := (late.finals key (early.owns owns)).trans (early.finals key owns)
  temps key uploads :=
    (late.temps key (uploads.mono early.ids early.drawn)).trans (early.temps key uploads)

/-- The discipline of a regime. -/
def sessions (u : Unicode) (regime : Regime) : Discipline Op World where
  inv := Sane u regime
  rely := Interference regime.strict
  guar i before after := ∀ j, j ≠ i → Interference regime.strict j before after
  admits := regime.admits

theorem sessions_coherent (u : Unicode) (regime : Regime) : (sessions u regime).Coherent where
  refl := Interference.refl regime.strict
  trans _ _ _ _ := Interference.trans
  compatible i _ different _ _ promised := promised i different

-----------------------------------------------------------------------------------------
-- What operations change
-----------------------------------------------------------------------------------------

/-- The operation writes or deletes the object under this key. -/
def Op.Touches : Op → Text → Prop
  | putObject written _ _, key => written = key
  | copyObject _ destination _, key => destination = key
  | deleteObject deleted, key => deleted = key
  | _, _ => False

theorem World.object?_storeObject_other (world : World) {written key : Text}
    (object : StoredObject) (other : written ≠ key)
    : (world.storeObject written object).object? key = world.object? key := by
  simp only [World.object?, World.storeObject]
  rw [List.find?_cons_of_neg (by simpa using other), List.find?_filter]
  congr 2
  funext entry
  by_cases hit : entry.1 = key
  · simp [hit, other.symm]
  · simp [hit]

theorem World.object?_eraseObject_other (world : World) {deleted key : Text}
    (other : deleted ≠ key)
    : (world.eraseObject deleted).object? key = world.object? key := by
  simp only [World.object?, World.eraseObject, List.find?_filter]
  congr 2
  funext entry
  by_cases hit : entry.1 = key
  · simp [hit, other.symm]
  · simp [hit]

/-- What operations other than SQL statements leave alone. -/
structure Outside (before after : World) : Prop where
  store : after.store = before.store
  ids : after.ids = before.ids
  raises : after.raises = before.raises
  drawn : before.drawn <+: after.drawn

private theorem clientEffect_cases (world : World) (effect : World → World)
    {motive : World → Prop}
    (done : motive (effect { world with clientCalls := world.clientCalls + 1 }))
    (lost : motive { world with clientCalls := world.clientCalls + 1 })
    : motive (world.clientEffect effect).2 := by
  simp only [World.clientEffect, World.clientCall]
  split
  · rename_i same
    obtain ⟨-, rfl⟩ := Prod.mk.inj same
    exact done
  · rename_i same
    obtain ⟨-, rfl⟩ := Prod.mk.inj same
    split
    · exact done
    · exact lost

private theorem copyEffect_cases (source destination : Text) (mediaType : Option Text)
    (world : World)
    : World.copyEffect source destination mediaType world = world
      ∨ ∃ object,
          World.copyEffect source destination mediaType world
            = world.storeObject destination object := by
  simp only [World.copyEffect]
  split
  · exact .inl rfl
  · exact .inr ⟨_, rfl⟩

/-- An operation that is not a SQL statement stays outside of the store and changes only the
object it touches, by cases on the operation. -/
theorem exec_outside {i : Nat} {op : Op} {world after : World} {answer : op.Answer}
    (ran : exec i op world = some (answer, after)) (other : ∀ statement, op ≠ .sql statement)
    : Outside world after ∧ ∀ key, ¬ op.Touches key → after.object? key = world.object? key := by
  cases op with
  | sql statement => exact absurd rfl (other statement)
  | enter port =>
      simp only [exec, Option.some.injEq, Prod.mk.injEq] at ran
      rw [← ran.2]
      exact ⟨⟨rfl, rfl, rfl, List.prefix_rfl⟩, fun _ _ => rfl⟩
  | now =>
      simp only [exec, Option.some.injEq, Prod.mk.injEq] at ran
      rw [← ran.2]
      exact ⟨⟨rfl, rfl, rfl, List.prefix_rfl⟩, fun _ _ => rfl⟩
  | newUuid =>
      simp only [exec, Option.some.injEq, Prod.mk.injEq] at ran
      rw [← ran.2]
      exact ⟨⟨rfl, rfl, rfl, List.prefix_append _ _⟩, fun _ _ => rfl⟩
  | putObject written body mediaType =>
      simp only [exec, Option.some.injEq] at ran
      have kept := clientEffect_cases world
        (fun w => w.storeObject written ⟨body, some mediaType⟩)
        (motive := fun next => Outside world next
          ∧ ∀ key, ¬ (Op.putObject written body mediaType).Touches key
            → next.object? key = world.object? key)
        ⟨⟨rfl, rfl, rfl, List.prefix_rfl⟩, fun key away => World.object?_storeObject_other _ _ away⟩
        ⟨⟨rfl, rfl, rfl, List.prefix_rfl⟩, fun _ _ => rfl⟩
      rwa [ran] at kept
  | copyObject source destination mediaType =>
      simp only [exec] at ran
      split at ran
      · simp only [Option.some.injEq, Prod.mk.injEq] at ran
        rw [← ran.2]
        exact ⟨⟨rfl, rfl, rfl, List.prefix_rfl⟩, fun _ _ => rfl⟩
      · simp only [Option.some.injEq] at ran
        have kept := clientEffect_cases world (World.copyEffect source destination mediaType)
          (motive := fun next => Outside world next
            ∧ ∀ key, ¬ (Op.copyObject source destination mediaType).Touches key
              → next.object? key = world.object? key)
          (by
            rcases copyEffect_cases source destination mediaType
              { world with clientCalls := world.clientCalls + 1 } with same | ⟨object, same⟩
            · rw [same]
              exact ⟨⟨rfl, rfl, rfl, List.prefix_rfl⟩, fun _ _ => rfl⟩
            · rw [same]
              exact ⟨⟨rfl, rfl, rfl, List.prefix_rfl⟩,
                fun key away => World.object?_storeObject_other _ _ away⟩)
          ⟨⟨rfl, rfl, rfl, List.prefix_rfl⟩, fun _ _ => rfl⟩
        rwa [ran] at kept
  | deleteObject deleted =>
      simp only [exec, Option.some.injEq] at ran
      have kept := clientEffect_cases world (fun w => w.eraseObject deleted)
        (motive := fun next => Outside world next
          ∧ ∀ key, ¬ (Op.deleteObject deleted).Touches key
            → next.object? key = world.object? key)
        ⟨⟨rfl, rfl, rfl, List.prefix_rfl⟩, fun key away => World.object?_eraseObject_other _ away⟩
        ⟨⟨rfl, rfl, rfl, List.prefix_rfl⟩, fun _ _ => rfl⟩
      rwa [ran] at kept
  | headObject looked =>
      simp only [exec, World.clientCall] at ran
      split at ran <;> rename_i same <;> obtain ⟨-, rfl⟩ := Prod.mk.inj same
      · split at ran <;>
          (simp only [Option.some.injEq, Prod.mk.injEq] at ran
           rw [← ran.2]
           exact ⟨⟨rfl, rfl, rfl, List.prefix_rfl⟩, fun _ _ => rfl⟩)
      · simp only [Option.some.injEq, Prod.mk.injEq] at ran
        rw [← ran.2]
        exact ⟨⟨rfl, rfl, rfl, List.prefix_rfl⟩, fun _ _ => rfl⟩
  | presignUrl signed expiresInSeconds =>
      simp only [exec, World.clientCall] at ran
      split at ran <;> rename_i same <;> obtain ⟨-, rfl⟩ := Prod.mk.inj same <;>
        (simp only [Option.some.injEq, Prod.mk.injEq] at ran
         rw [← ran.2]
         exact ⟨⟨rfl, rfl, rfl, List.prefix_rfl⟩, fun _ _ => rfl⟩)

/-- A SQL statement changes the store only. -/
theorem exec_sql {i : Nat} {statement : Statement schema} {world after : World}
    {answer : (Op.sql statement).Answer}
    (ran : exec i (.sql statement) world = some (answer, after))
    : Store.exec i statement world.store = some (answer, after.store)
      ∧ after = { world with store := after.store } := by
  simp only [exec] at ran
  split at ran
  · contradiction
  · rename_i store executed
    simp only [Option.some.injEq, Prod.mk.injEq] at ran
    obtain ⟨rfl, rfl⟩ := ran
    exact ⟨executed, rfl⟩

-----------------------------------------------------------------------------------------
-- What sessions owe
-----------------------------------------------------------------------------------------

variable {u : Unicode} {regime : Regime}

/-- Every visible row of a written table has an issued id. -/
theorem Sane.view_issued {world : World} (sane : Sane u regime world) {i : Nat}
    {t : TableName} {k : UUID} (written : t.written = true)
    (visible : ((world.store.view i).find? t k).isSome)
    : world.Issued k := by
  obtain ⟨row, found⟩ := Option.isSome_iff_exists.mp visible
  rcases world.store.find?_view_cases i (t := t) (k := k) with ⟨same, -⟩ | ⟨-, puts⟩
  · exact sane.committed_issued t k written (by rw [← same, found]; rfl)
  · have key : primaryKey t row = k := Db.find?_key found
    rw [← key]
    exact sane.pending_issued i t row written (Store.mem_own.mp (puts row found))

/-- Versions with one storage key are one version.
Witness: the key names the tenant, and a tenant's keys are unique.
-/
theorem Sane.version_of_key {world : World} (sane : Sane u regime world)
    {first second : DocumentVersionRecord}
    (left : world.store.committed.find? .documentVersions first.id = some first)
    (right : world.store.committed.find? .documentVersions second.id = some second)
    (same : first.storageObjectKey = second.storageObjectKey)
    : first = second := by
  have first_member := Db.mem_of_find? left
  have second_member := Db.mem_of_find? right
  have tenant : first.organizationId = second.organizationId := by
    apply documentContentKeyText_organization
    rw [← sane.consistent.keys first first_member, ← sane.consistent.keys second second_member]
    exact same
  by_cases ids : first.id = second.id
  · rw [ids, right] at left
    exact (Option.some.inj left).symm
  · have apart := sane.coherent.settled .documentVersions first second first_member
      second_member ids
    simp [uniqueClash, tenant, same] at apart

/-- The final key of a version is not a temporary key. -/
theorem Sane.final_ne_temp {world : World} (sane : Sane u regime world)
    {row : DocumentVersionRecord}
    (found : world.store.committed.find? .documentVersions row.id = some row)
    (organizationId uploadId : UUID)
    : row.storageObjectKey ≠ (temporaryUploadKey organizationId uploadId).value := by
  rw [sane.consistent.keys row (Db.mem_of_find? found)]
  exact (temporaryUploadKey_ne_documentContent organizationId uploadId _ _).symm

/-- What a commit of the session would publish. -/
structure Publishes (u : Unicode) (regime : Regime) (i : Nat) (now : World) : Prop where
  consistent : Consistent u (now.store.view i)
  evolves : Evolves now.store.committed (now.store.view i)
  owned
    : ∀ write ∈ now.store.own i,
        write.target.1 = TableName.documentVersions → now.DrawnBy i write.target.2
  inserted
    : ∀ t row,
        t.written = true
        → .put t row ∈ now.store.own i
        → now.store.committed.find? t (primaryKey t row) = none
        → now.DrawnBy i (primaryKey t row)
  users
    : ∀ user,
        hasUser now.store.committed user = true → hasUser (now.store.view i) user = true
  organizations
    : ∀ organizationId,
        hasOrganization now.store.committed organizationId = true
        → hasOrganization (now.store.view i) organizationId = true
  kept
    : regime.strict
      → ∀ row : DocumentVersionRecord,
          now.store.committed.find? .documentVersions row.id = some row
          → row.storageState = .stored
          → (now.store.view i).find? .documentVersions row.id = some row
  stored
    : regime.strict
      → ∀ version ∈ now.store.view i .documentVersions,
          version.storageState = .stored → now.Holds version
  backed
    : regime.strict
      → ∀ record ∈ now.store.view i .uploadIdempotency,
          record.status = .completed → record.Backed (now.store.view i)

/-- The object under this key belongs to an upload of the session, or to a version that it
created and has not reported as stored. -/
def World.MayTouch (world : World) (strict : Prop) (i : Nat) (key : Text) : Prop :=
  world.Uploads i key
  ∨ ∃ row : DocumentVersionRecord,
      world.store.committed.find? .documentVersions row.id = some row
      ∧ world.DrawnBy i row.id
      ∧ row.storageObjectKey = key
      ∧ (strict → row.storageState ≠ .stored)

/-- What a session owes for one operation. -/
structure Owes (u : Unicode) (regime : Regime) (i : Nat) (op : Op) (now : World) : Prop where
  insert
    : ∀ t row, op = .sql (.insert t row) → t.written = true → now.Issued (primaryKey t row)
  touch : ∀ key, op.Touches key → now.MayTouch regime.strict i key
  commit : op = .sql .commit → Publishes u regime i now

/-- Uncommitted rows keep issued ids, by cases on the statement. -/
theorem Sane.pending_after {i : Nat} {statement : Statement schema}
    {now : World} {store : Store schema} {answer : statement.Answer} (sane : Sane u regime now)
    (owes : Owes u regime i (.sql statement) now)
    (ran : Store.exec i statement now.store = some (answer, store)) {j : Nat} {t : TableName}
    {row : TableRow t} (written : t.written = true) (member : (j, .put t row) ∈ store.pending)
    : now.Issued (primaryKey t row) := by
  have staged
      : ∀ (t' : TableName) (row' : TableRow t'),
          (t'.written = true → now.Issued (primaryKey t' row'))
          → store = now.store.stage i (.put t' row')
          → now.Issued (primaryKey t row) := by
    rintro t' row' issued rfl
    simp only [Store.stage, List.mem_append, List.mem_singleton, Prod.mk.injEq] at member
    rcases member with old | ⟨-, same⟩
    · exact sane.pending_issued j t row written old
    · cases same
      exact issued written
  cases statement with
  | select query =>
      simp only [Store.exec, Option.some.injEq, Prod.mk.injEq] at ran
      rw [← ran.2] at member
      exact sane.pending_issued j t row written member
  | selectForUpdate t' k chosen =>
      rcases Store.exec_selectForUpdate ran with ⟨-, ⟨-, rfl⟩ | ⟨-, -, rfl⟩⟩
      · exact sane.pending_issued j t row written member
      · exact sane.pending_issued j t row written member
  | insert t' row' =>
      rcases Store.exec_insert sane.coherent ran with ⟨-, rfl⟩ | ⟨-, stage, -⟩
      · exact sane.pending_issued j t row written member
      · exact staged t' row' (owes.insert t' row' rfl) stage
  | update t' k change =>
      rcases Store.exec_update ran
        with ⟨-, -, rfl⟩ | ⟨-, rfl⟩ | ⟨old, row', -, found, -, key, -, stage, -⟩
      · exact sane.pending_issued j t row written member
      · exact sane.pending_issued j t row written member
      · refine staged t' row' (fun written' => ?_) stage
        have seen : now.Issued k := sane.view_issued written' (by rw [found]; rfl)
        rw [← key] at seen
        exact seen
  | delete t' chosen =>
      rcases Store.exec_put ran member with old | same | ⟨_, _, _, same, -⟩
      · exact sane.pending_issued j t row written old
      · cases same
      · cases same
  | commit =>
      simp only [Store.exec, Option.some.injEq, Prod.mk.injEq] at ran
      rw [← ran.2] at member
      exact sane.pending_issued j t row written (Store.mem_release_pending.mp member).1
  | rollback =>
      simp only [Store.exec, Option.some.injEq, Prod.mk.injEq] at ran
      rw [← ran.2] at member
      exact sane.pending_issued j t row written (Store.mem_release_pending.mp member).1

/-- Objects that a session may touch are nobody else's. -/
theorem Sane.foreign {now : World} (sane : Sane u regime now) {i j : Nat} (other : j ≠ i)
    {key : Text} (may : now.MayTouch regime.strict i key)
    : ¬ now.Owns j key ∧ ¬ now.Uploads j key := by
  rcases may with ⟨organizationId, uploadId, drawn, rfl⟩ | ⟨row, found, drawn, rfl, -⟩
  · refine ⟨?_, ?_⟩
    · rintro ⟨row, found, -, same⟩
      exact sane.final_ne_temp found organizationId uploadId same
    · rintro ⟨organizationId', uploadId', drawn', same⟩
      have uploads := temporaryUploadKey_upload same
      subst uploads
      exact other (drawn'.unique drawn)
  · refine ⟨?_, ?_⟩
    · rintro ⟨row', found', drawn', same⟩
      have rows := sane.version_of_key found' found same
      subst rows
      exact other (drawn'.unique drawn)
    · rintro ⟨organizationId, uploadId, -, same⟩
      exact sane.final_ne_temp found organizationId uploadId same

/-- The bytes of stored versions are not touched. -/
theorem Sane.untouched {now : World} (sane : Sane u regime now) {i : Nat} {key : Text}
    (may : now.MayTouch regime.strict i key) (strict : regime.strict)
    {row : DocumentVersionRecord}
    (found : now.store.committed.find? .documentVersions row.id = some row)
    (stored : row.storageState = .stored)
    : row.storageObjectKey ≠ key := by
  rcases may with ⟨organizationId, uploadId, -, rfl⟩ | ⟨row', found', -, rfl, unstored⟩
  · exact sane.final_ne_temp found organizationId uploadId
  · intro same
    have rows := sane.version_of_key found found' same
    subst rows
    exact unstored strict stored

/-- An operation outside of the store keeps the invariant and disturbs nobody. -/
theorem Sane.step_outside {i : Nat} {op : Op} {now after : World} (sane : Sane u regime now)
    (owes : Owes u regime i op now) (outside : Outside now after)
    (objects : ∀ key, ¬ op.Touches key → after.object? key = now.object? key)
    : Sane u regime after
      ∧ Advances regime.strict now after
      ∧ ∀ j, j ≠ i → Interference regime.strict j now after := by
  have bytes
      : regime.strict
        → ∀ row : DocumentVersionRecord,
            now.store.committed.find? .documentVersions row.id = some row
            → row.storageState = .stored
            → after.object? row.storageObjectKey = now.object? row.storageObjectKey := by
    intro strict row found stored
    apply objects
    intro touches
    exact sane.untouched (owes.touch _ touches) strict found stored rfl
  have advances : Advances regime.strict now after := by
    refine {
      evolves := by rw [outside.store]; exact .refl _
      ids := outside.ids
      drawn := outside.drawn
      users := by rw [outside.store]; exact fun _ present => present
      organizations := by rw [outside.store]; exact fun _ present => present
      holds := ?_
    }
    intro strict row found held
    refine ⟨by rw [outside.store]; exact found, held.1, ?_⟩
    rw [bytes strict row found held.1]
    exact held.2
  refine ⟨?_, advances, ?_⟩
  · refine {
      coherent := by rw [outside.store]; exact sane.coherent
      consistent := by rw [outside.store]; exact sane.consistent
      committed_issued := ?_
      pending_issued := ?_
      raises := outside.raises.trans sane.raises
      stored := ?_
      backed := by rw [outside.store]; exact sane.backed
    }
    · intro t k written present
      rw [outside.store] at present
      exact (sane.committed_issued t k written present).mono outside.ids outside.drawn
    · intro j t row written member
      rw [outside.store] at member
      exact (sane.pending_issued j t row written member).mono outside.ids outside.drawn
    · intro strict version member stored
      rw [outside.store] at member
      have found : now.store.committed.find? .documentVersions version.id = some version :=
        Db.find?_of_mem sane.coherent.keyed member
      refine ⟨stored, ?_⟩
      rw [bytes strict version found stored]
      exact (sane.stored strict version member stored).2
  · intro j other
    refine {
      toAdvances := advances
      store := by rw [outside.store]; exact .refl j _
      versions := fun _ _ => by rw [outside.store]
      absent := fun _ _ _ _ none => by rw [outside.store]; exact none
      finals := ?_
      temps := ?_
    }
    · intro key owns
      exact objects key (fun touches => (sane.foreign other (owes.touch key touches)).1 owns)
    · intro key uploads
      exact objects key (fun touches => (sane.foreign other (owes.touch key touches)).2 uploads)

/-- A SQL statement keeps the invariant and disturbs nobody. -/
theorem Sane.step_sql {i : Nat} {statement : Statement schema} {now after : World}
    {answer : (Op.sql statement).Answer} (sane : Sane u regime now)
    (owes : Owes u regime i (.sql statement) now)
    (ran : exec i (.sql statement) now = some (answer, after))
    : Sane u regime after
      ∧ Advances regime.strict now after
      ∧ ∀ j, j ≠ i → Interference regime.strict j now after := by
  obtain ⟨executed, shape⟩ := exec_sql ran
  have effect := Store.exec_effect sane.coherent executed
  have ids : after.ids = now.ids := by rw [shape]
  have drawn : now.drawn <+: after.drawn := by
    rw [shape]
  have objects : ∀ key, after.object? key = now.object? key := by
    intro key
    rw [shape]
    rfl
  have published
      : after.store.committed = now.store.committed
        ∨ (after.store.committed = now.store.view i ∧ Publishes u regime i now) := by
    by_cases commits : statement = .commit
    · subst commits
      refine .inr ⟨?_, owes.commit rfl⟩
      simp only [Store.exec, Option.some.injEq, Prod.mk.injEq] at executed
      rw [← executed.2]
      rfl
    · exact .inl (Store.exec_committed executed commits)
  have holds : ∀ row, now.Holds row → after.Holds row := by
    intro row held
    exact ⟨held.1, by rw [objects]; exact held.2⟩
  have advances : Advances regime.strict now after := by
    refine ⟨?_, ids, drawn, ?_, ?_, ?_⟩
    · rcases published with same | ⟨same, publishes⟩
      · rw [same]
        exact .refl _
      · rw [same]
        exact publishes.evolves
    · rcases published with same | ⟨same, publishes⟩
      · rw [same]
        exact fun _ present => present
      · rw [same]
        exact publishes.users
    · rcases published with same | ⟨same, publishes⟩
      · rw [same]
        exact fun _ present => present
      · rw [same]
        exact publishes.organizations
    · intro strict row found held
      refine ⟨?_, holds row held⟩
      rcases published with same | ⟨same, publishes⟩
      · rw [same]
        exact found
      · rw [same]
        exact publishes.kept strict row found held.1
  refine ⟨?_, advances, ?_⟩
  · refine {
      coherent := effect.coherent schema_symmetric sane.coherent
      consistent := ?_
      committed_issued := ?_
      pending_issued := ?_
      raises := by rw [shape]; exact sane.raises
      stored := ?_
      backed := ?_
    }
    · rcases published with same | ⟨same, publishes⟩
      · rw [same]
        exact sane.consistent
      · rw [same]
        exact publishes.consistent
    · intro t k written present
      refine World.Issued.mono ?_ ids drawn
      rcases published with same | ⟨same, -⟩
      · rw [same] at present
        exact sane.committed_issued t k written present
      · rw [same] at present
        exact sane.view_issued written present
    · intro j t row written member
      exact (sane.pending_after owes executed written member).mono ids drawn
    · intro strict version member stored
      rcases published with same | ⟨same, publishes⟩
      · rw [same] at member
        exact holds version (sane.stored strict version member stored)
      · rw [same] at member
        exact holds version (publishes.stored strict version member stored)
    · intro strict record member completed
      rcases published with same | ⟨same, publishes⟩
      · rw [same] at member ⊢
        exact sane.backed strict record member completed
      · rw [same] at member ⊢
        exact publishes.backed strict record member completed
  · intro j other
    refine {
      toAdvances := advances
      store := effect.undisturbed sane.coherent other
      versions := ?_
      absent := ?_
      finals := fun key _ => objects key
      temps := fun key _ => objects key
    }
    · intro id owner
      rcases published with same | ⟨same, publishes⟩
      · rw [same]
      · rw [same]
        apply Write.find?_applyAll_other
        intro write member target
        have mine := publishes.owned write member (by rw [target])
        rw [target] at mine
        exact other (owner.unique mine)
    · intro t id written owner none
      rcases published with same | ⟨same, publishes⟩
      · rw [same]
        exact none
      · rw [same, Option.eq_none_iff_forall_ne_some]
        intro row found
        rcases now.store.find?_view_cases i (t := t) (k := id) with ⟨unchanged, -⟩ | ⟨-, puts⟩
        · rw [unchanged, none] at found
          cases found
        · have key : primaryKey t row = id := Db.find?_key found
          subst key
          exact other (owner.unique (publishes.inserted t row written (puts row found) none))

/-- One operation of a session that pays what it owes keeps the invariant and disturbs
nobody. -/
theorem Sane.step {i : Nat} {op : Op} {now after : World} {answer : op.Answer}
    (sane : Sane u regime now) (owes : Owes u regime i op now)
    (ran : exec i op now = some (answer, after))
    : Sane u regime after
      ∧ Advances regime.strict now after
      ∧ ∀ j, j ≠ i → Interference regime.strict j now after := by
  by_cases sql : ∃ statement, op = .sql statement
  · obtain ⟨statement, rfl⟩ := sql
    exact sane.step_sql owes ran
  · obtain ⟨outside, objects⟩ :=
      exec_outside ran (fun statement same => sql ⟨statement, same⟩)
    exact sane.step_outside owes outside objects

end WorkflowForge
