import WorkflowForge.Documents.DocumentMethods

/-! Specifications of the object storage methods in a session. -/

namespace WorkflowForge

open Python Transactions Concurrency

variable {u : Unicode} {regime : Regime} {i : Nat} {needs shape : World → Prop}

theorem World.object?_storeObject_self (world : World) (key : Text) (object : StoredObject)
    : (world.storeObject key object).object? key = some object := by
  simp [World.object?, World.storeObject]

/-- A successful client call has had its effect. -/
theorem clientEffect_true {world after : World} {effect : World → World}
    (succeeded : world.clientEffect effect = (true, after))
    : after = effect { world with clientCalls := world.clientCalls + 1 } := by
  simp only [World.clientEffect, World.clientCall] at succeeded
  split at succeeded
  · rename_i same
    obtain ⟨-, rfl⟩ := Prod.mk.inj same
    exact (Prod.mk.inj succeeded).2.symm
  · exact absurd (Prod.mk.inj succeeded).1 Bool.false_ne_true

theorem exec_putObject {key : Text} {body : Bytes} {mediaType : Text} {world after : World}
    (ran : exec i (.putObject key body mediaType) world = some (true, after))
    : after.object? key = some ⟨body, some mediaType⟩ := by
  simp only [exec, Option.some.injEq] at ran
  rw [clientEffect_true ran]
  exact World.object?_storeObject_self _ key _

theorem exec_copyObject {source destination : Text} {mediaType : Option Text}
    {world after : World}
    (ran : exec i (.copyObject source destination mediaType) world = some (true, after))
    : ∃ object copy,
        world.object? source = some object
        ∧ after.object? destination = some copy
        ∧ copy.body = object.body := by
  simp only [exec] at ran
  split at ran
  · simp at ran
  · rename_i object present
    simp only [Option.some.injEq] at ran
    have here
        : World.object? { world with clientCalls := world.clientCalls + 1 } source
          = some object := present
    rw [clientEffect_true ran]
    simp only [World.copyEffect, here]
    exact ⟨object, _, present, World.object?_storeObject_self _ destination _, rfl⟩

theorem exec_headObject {key : Text} {world after : World} {byteSize : Nat}
    {mediaType : Option Text}
    (ran : exec i (.headObject key) world = some (.found byteSize mediaType, after))
    : ∃ object, world.object? key = some object ∧ object.body.length = byteSize := by
  simp only [exec, World.clientCall] at ran
  split at ran
  · split at ran
    · rename_i object present
      simp only [Option.some.injEq, Prod.mk.injEq, HeadAnswer.found.injEq] at ran
      exact ⟨object, present, ran.1.1⟩
    · simp at ran
  · simp only [Option.some.injEq, Prod.mk.injEq] at ran
    obtain ⟨same, -⟩ := ran
    split at same <;> cases same

/-- Writing or deleting a temporary object of the session is calm. -/
theorem calm_of_temp {op : Op} {organizationId uploadId : UUID} {now after : World}
    {answer : op.Answer} (sane : Sane u regime now)
    (advances : Advances regime.strict now after)
    (ran : exec i op now = some (answer, after)) (sql : ∀ statement, op ≠ .sql statement)
    (touch : ∀ key, op.Touches key → key = (temporaryUploadKey organizationId uploadId).value)
    : Calm regime.strict i now after ∧ after.store.own i = now.store.own i := by
  obtain ⟨outside, objects⟩ := exec_outside ran sql
  refine ⟨.of_advances advances (by rw [outside.store]) (by rw [outside.store])
    (by rw [outside.store]; exact fun _ lock => lock) ?_, by rw [outside.store]⟩
  rintro key ⟨row, found, -, rfl⟩
  apply objects
  intro touches
  exact sane.final_ne_temp found organizationId uploadId (touch _ touches)

/-- The temporary object of an upload has these bytes. -/
def TempHas (i : Nat) (organizationId uploadId : UUID) (body : Bytes) (world : World) : Prop :=
  world.DrawnBy i uploadId
  ∧ ∃ object,
      world.object? (temporaryUploadKey organizationId uploadId).value = some object
      ∧ object.body = body

theorem TempHas.framed (organizationId uploadId : UUID) (body : Bytes)
    : Framed u regime i (TempHas i organizationId uploadId body) := by
  intro before after _ _ calm temps ⟨drawn, object, found, same⟩
  refine ⟨drawn.mono calm.ids calm.drawn, object, ?_, same⟩
  rw [temps _ ⟨organizationId, uploadId, drawn, rfl⟩]
  exact found

theorem TempHas.bytes (organizationId uploadId : UUID) (body : Bytes)
    : AboutObjects (TempHas i organizationId uploadId body) := by
  intro before after ids drawn objects ⟨mine, object, found, same⟩
  exact ⟨mine.mono ids drawn, object, (objects _).trans found, same⟩

namespace ObjectStorage

/-- Looking an object up; of a key that the session owns the answer stays true. -/
theorem lookup_spec {key : StorageObjectKey} (steady : Steady u regime i shape)
    (owned : ∀ world, shape world → world.Owns i key.value)
    : Spec u regime i needs shape (lookup key) (fun _ _ => True)
        (fun result world => shape world ∧ ∀ metadata, result = some metadata
          → ∃ object, world.object? key.value = some object
              ∧ object.body.length = metadata.byteSize)
        shape := by
  have remains
      : ∀ size : Nat,
          Steady u regime i (fun world => shape world
            ∧ ∃ object, world.object? key.value = some object ∧ object.body.length = size) := by
    rintro size before after sane sane' rested ⟨holds, object, found, same⟩
    exact ⟨steady before after sane sane' rested holds, object,
      (rested.finals _ (owned before holds)).trans found, same⟩
  have answered
      : Spec u regime i needs shape (perform (.headObject key.value)) (fun _ _ => True)
          (fun (answer : HeadAnswer) world => shape world
            ∧ ∀ byteSize mediaType, answer = .found byteSize mediaType
              → ∃ object, world.object? key.value = some object
                  ∧ object.body.length = byteSize)
          shape := by
    refine Spec.perform steady (fun _ => Durable.const regime i _) ?_
      (fun _ _ _ _ => .nothing (by simp) (by simp [Op.Touches]) (by simp)) ?_
    · rintro answer before after sane sane' rested ⟨holds, looked⟩
      refine ⟨steady before after sane sane' rested holds, ?_⟩
      intro byteSize mediaType same
      exact (remains byteSize before after sane sane' rested
        ⟨holds, looked byteSize mediaType same⟩).2
    · intro now answer after sane sane' advances _ holds _ ran
      have still : Still i now after := exec_still (by simp) (by simp [Op.Touches]) ran
      have rested := still.rested advances
      refine ⟨by rw [rested.log], trivial, steady _ _ sane sane' rested holds, ?_⟩
      rintro byteSize mediaType rfl
      obtain ⟨object, found, size⟩ := exec_headObject ran
      exact ⟨object, (still.objects _).trans found, size⟩
  refine Spec.bind (fun _ => Durable.const regime i True) answered ?_
  intro answer
  cases answer with
  | found byteSize mediaType =>
      refine Spec.mono (Spec.value (remains byteSize)) (fun _ known => known) ?_ ?_
        (fun _ _ holds => holds)
      · exact fun _ _ _ holds => ⟨holds.1, holds.2 byteSize mediaType rfl⟩
      · intro result world _ _ fact holds
        refine ⟨trivial, holds.1, ?_⟩
        intro metadata same
        rw [fact] at same
        cases same
        exact holds.2
  | missing =>
      refine Spec.mono (Spec.value steady) (fun _ known => known)
        (fun _ _ _ holds => holds.1) ?_ (fun _ _ holds => holds)
      intro result world _ _ fact holds
      refine ⟨trivial, holds, ?_⟩
      intro metadata same
      rw [fact] at same
      cases same
  | failed =>
      exact Spec.mono (Spec.throw steady) (fun _ known => known) (fun _ _ _ holds => holds.1)
        (fun _ _ _ _ fact holds => ⟨fact, holds⟩) (fun _ _ holds => holds)

theorem lookup_silent {key : StorageObjectKey}
    : Silent u regime i needs (lookup key) (fun _ _ => True) := by
  have answered : Silent u regime i needs (perform (.headObject key.value)) (fun _ _ => True) :=
    fun _ steady =>
      Spec.still steady (fun _ => Durable.const regime i _)
        (fun _ => .nothing (by simp) (by simp [Op.Touches]) (by simp))
        (fun _ _ _ ran => exec_still (by simp) (by simp [Op.Touches]) ran)
        (fun _ _ _ _ _ _ _ _ _ => trivial)
  refine Silent.bind (fun _ => Durable.const regime i True) answered ?_
  intro answer
  cases answer with
  | found byteSize mediaType => exact Silent.pure (fun _ _ => trivial)
  | missing => exact Silent.pure (fun _ _ => trivial)
  | failed => exact Silent.throw

theorem headObject_spec {key : StorageObjectKey} (steady : Steady u regime i shape)
    (owned : ∀ world, shape world → world.Owns i key.value)
    : Spec u regime i needs shape (headObject key) (fun _ _ => True)
        (fun result world => shape world ∧ ∀ metadata, result = some metadata
          → ∃ object, world.object? key.value = some object
              ∧ object.body.length = metadata.byteSize)
        shape :=
  Silent.before steady enter_silent (fun _ => lookup_spec steady owned) (fun _ holds => holds)

/-- An operation on a temporary object of the session keeps firm shapes. -/
theorem perform_temp {op : Op} {organizationId uploadId : UUID} {left : op.Answer → World → Prop}
    (firm : Firm u regime i shape) (remains : ∀ answer, Steady u regime i (left answer))
    (drawn : ∀ world, needs world → world.DrawnBy i uploadId)
    (sql : ∀ statement, op ≠ .sql statement)
    (touch : ∀ key, op.Touches key → key = (temporaryUploadKey organizationId uploadId).value)
    (leads
      : ∀ now answer after,
          needs now → after.DrawnBy i uploadId → shape after
          → exec i op now = some (answer, after) → left answer after)
    : Spec u regime i needs shape (perform op) (fun _ _ => True) left shape := by
  refine Spec.perform firm.steady (fun _ => Durable.const regime i True) remains ?_ ?_
  · intro now _ known _
    refine ⟨fun t row same => absurd same (sql _), ?_, fun same => absurd same (sql _)⟩
    intro key touches
    exact .inl ⟨organizationId, uploadId, drawn now known, touch key touches⟩
  · intro now answer after sane sane' advances known holds _ ran
    obtain ⟨calm, own⟩ := calm_of_temp sane advances ran sql touch
    exact ⟨by rw [calm.log], trivial, leads now answer after known
      ((drawn now known).mono advances.ids advances.drawn)
      (firm now after sane sane' calm own holds) ran⟩

theorem deleteTemp_spec {organizationId uploadId : UUID} (firm : Firm u regime i shape)
    (drawn : ∀ world, needs world → world.DrawnBy i uploadId)
    : Spec u regime i needs shape (perform (.deleteObject
          (temporaryUploadKey organizationId uploadId).value))
        (fun _ _ => True) (fun _ => shape) shape :=
  perform_temp firm (fun _ => firm.steady) drawn (by simp) (fun _ touches => touches.symm)
    (fun _ _ _ _ _ holds _ => holds)

theorem deleteObject_spec {organizationId uploadId : UUID} (firm : Firm u regime i shape)
    (drawn : ∀ world, needs world → world.DrawnBy i uploadId)
    : Spec u regime i needs shape (deleteObject (temporaryUploadKey organizationId uploadId))
        (fun _ _ => True) (fun _ => shape) shape := by
  refine Silent.before firm.steady enter_silent ?_ (fun _ holds => holds)
  intro _
  refine Spec.bind (fun _ => Durable.const regime i True) (deleteTemp_spec firm drawn) ?_
  intro deleted
  cases deleted with
  | false => exact Spec.throw firm.steady
  | true => exact Spec.pure firm.steady (fun _ _ => trivial)

/-- Storing a temporary object. -/
theorem putTempStream_spec {organizationId uploadId : UUID} {body : Bytes} {mediaType : Text}
    (firm : Firm u regime i shape)
    (drawn : ∀ world, needs world → world.DrawnBy i uploadId)
    : Spec u regime i needs shape
        (putTempStream
          { key := temporaryUploadKey organizationId uploadId, body, mediaType })
        (fun _ _ => True)
        (fun _ world => shape world ∧ TempHas i organizationId uploadId body world) shape := by
  refine Silent.before firm.steady enter_silent ?_ (fun _ holds => holds)
  intro _
  refine Silent.before firm.steady (Silent.lift (fun _ _ _ _ => trivial)) ?_
    (fun _ holds => holds)
  intro _
  have both
      : Steady u regime i (fun world => shape world
          ∧ TempHas i organizationId uploadId body world) :=
    firm.steady.and (TempHas.framed organizationId uploadId body).steady
  have written
      : Spec u regime i needs shape
          (perform (.putObject (temporaryUploadKey organizationId uploadId).value body mediaType))
          (fun _ _ => True)
          (fun (written : Bool) world => shape world
            ∧ (written = true → TempHas i organizationId uploadId body world))
          shape := by
    refine perform_temp firm ?_ drawn (by simp) (fun _ touches => touches.symm) ?_
    · rintro written before after sane sane' rested ⟨holds, has⟩
      exact ⟨firm.steady before after sane sane' rested holds, fun done =>
        (TempHas.framed organizationId uploadId body).steady before after sane sane' rested
          (has done)⟩
    · intro now answer after _ mine holds ran
      refine ⟨holds, ?_⟩
      rintro rfl
      exact ⟨mine, _, exec_putObject ran, rfl⟩
  refine Spec.bind (fun _ => Durable.const regime i True) written ?_
  intro done
  cases done with
  | false =>
      exact Spec.mono (Spec.throw firm.steady) (fun _ known => known)
        (fun _ _ _ holds => holds.1) (fun _ _ _ _ fact holds => ⟨fact, holds⟩)
        (fun _ _ holds => holds)
  | true =>
      refine Spec.mono (Silent.before both lookup_silent ?_ (fun _ holds => holds))
        (fun _ known => known) (fun _ _ _ holds => ⟨holds.1, holds.2 rfl⟩)
        (fun _ _ _ _ fact holds => ⟨fact, holds⟩) (fun _ _ holds => holds.1)
      intro metadata
      cases metadata with
      | some metadata => exact Spec.pure both (fun _ _ => trivial)
      | none => exact Spec.pure both (fun _ _ => trivial)

/-- Promoting the temporary object to the final key of a version the session created. -/
theorem promoteTempObject_spec {organizationId uploadId : UUID} {body : Bytes}
    {row : DocumentVersionRecord} {finalKey : StorageObjectKey} {mediaType : Option Text}
    (unstored : row.storageState ≠ .stored) (final : finalKey.value = row.storageObjectKey)
    (size : (body.length : Int) = row.byteSize)
    (drawn : ∀ world, needs world → world.DrawnBy i uploadId)
    : Spec u regime i needs
        (fun world => Clean i world ∧ Fresh i row world
          ∧ TempHas i organizationId uploadId body world)
        (promoteTempObject {
          sourceKey := temporaryUploadKey organizationId uploadId
          destinationKey := finalKey
          mediaType
        })
        (fun _ _ => True) (fun _ world => Clean i world ∧ Fresh i row world ∧ Sized row world)
        (fun world => Clean i world ∧ Fresh i row world) := by
  have start
      : Steady u regime i (fun world => Clean i world ∧ Fresh i row world
          ∧ TempHas i organizationId uploadId body world) :=
    Clean.firm.steady.and ((Fresh.framed row).steady.and
      (TempHas.framed organizationId uploadId body).steady)
  have plain : Firm u regime i (fun world => Clean i world ∧ Fresh i row world) :=
    Clean.firm.and (fun _ _ _ _ calm _ fresh => fresh.calm calm)
  have sized
      : Firm u regime i (fun world => Clean i world ∧ Fresh i row world ∧ Sized row world) :=
    Clean.firm.and (fun _ _ _ _ calm _ holds => holds.1.sized calm holds.2)
  refine Silent.before start enter_silent ?_ (fun _ holds => ⟨holds.1, holds.2.1⟩)
  intro _
  refine Silent.before start (Silent.lift (fun _ _ _ _ => trivial)) ?_
    (fun _ holds => ⟨holds.1, holds.2.1⟩)
  intro _
  refine Silent.before start (Silent.lift (fun _ _ _ _ => trivial)) ?_
    (fun _ holds => ⟨holds.1, holds.2.1⟩)
  intro _
  have copied
      : Spec u regime i needs
          (fun world => Clean i world ∧ Fresh i row world
            ∧ TempHas i organizationId uploadId body world)
          (perform (.copyObject (temporaryUploadKey organizationId uploadId).value
            finalKey.value mediaType))
          (fun _ _ => True)
          (fun (copied : Bool) world => Clean i world ∧ Fresh i row world
            ∧ (copied = true → Sized row world))
          (fun world => Clean i world ∧ Fresh i row world) := by
    refine Spec.perform start (fun _ => Durable.const regime i True) ?_ ?_ ?_
    · rintro copied before after sane sane' rested ⟨clean, fresh, has⟩
      exact ⟨Clean.firm.steady before after sane sane' rested clean,
        fresh.calm rested.toCalm, fun done => (fresh.sized rested.toCalm (has done)).2⟩
    · rintro now - - ⟨-, fresh, -⟩
      refine ⟨by simp, ?_, by simp⟩
      intro key touches
      exact .inr ⟨row, fresh.2, fresh.1, final.symm.trans touches, fun _ => unstored⟩
    · rintro now copied after sane sane' advances - ⟨clean, fresh, has⟩ - ran
      obtain ⟨outside, -⟩ := exec_outside ran (by simp)
      refine ⟨by rw [outside.store], trivial, ?_, ⟨?_, ?_⟩, ?_⟩
      · change after.store.own i = []
        rw [outside.store]
        exact clean
      · exact fresh.1.mono outside.ids outside.drawn
      · rw [outside.store]
        exact fresh.2
      · rintro rfl
        obtain ⟨object, copy, found, stored, same⟩ := exec_copyObject ran
        obtain ⟨-, temp, temp_found, temp_body⟩ := has
        rw [temp_found] at found
        cases found
        refine ⟨copy, by rw [← final]; exact stored, ?_⟩
        rw [same, temp_body]
        exact size
  refine Spec.bind (fun _ => Durable.const regime i True) copied ?_
  intro done
  cases done with
  | false =>
      exact Spec.mono (Spec.throw plain.steady) (fun _ known => known)
        (fun _ _ _ holds => ⟨holds.1, holds.2.1⟩) (fun _ _ _ _ fact holds => ⟨fact, holds⟩)
        (fun _ _ holds => holds)
  | true =>
      refine Spec.mono (Spec.bind (fun _ => Durable.const regime i True)
          (deleteTemp_spec sized (fun world known => drawn world known.1)) ?_)
        (fun _ known => known) (fun _ _ _ holds => ⟨holds.1, holds.2.1, holds.2.2 rfl⟩)
        (fun _ _ _ _ fact holds => ⟨fact, holds⟩) (fun _ _ holds => ⟨holds.1, holds.2.1⟩)
      intro deleted
      cases deleted with
      | false => exact Spec.throw sized.steady
      | true =>
          refine Silent.before sized.steady lookup_silent ?_ (fun _ holds => holds)
          intro metadata
          cases metadata with
          | some metadata => exact Spec.pure sized.steady (fun _ _ => trivial)
          | none => exact Spec.throw sized.steady

end ObjectStorage

end WorkflowForge
