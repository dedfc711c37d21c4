import WorkflowForge.Uploads.ReservedUploads
import WorkflowForge.Documents.Runs

/-! Temporary objects over whole runs.
Other sessions run in between and may fail in every way. The deletion of an ended upload's
object rests on what its own operations met once it was staged. -/

namespace WorkflowForge

open Python Transactions Concurrency

/-- The regime that restricts nothing but the admitted operations. -/
def Regime.admitting (raises : Port → Nat → Bool) (admits : Nat → Op → World → Prop) : Regime :=
  { Regime.free raises with admits, lookups := False.elim, matching := fun _ => False.elim }

variable {services : Services} {initial : World} {config : DocumentConfig}

/-- Every operation of a run is made in a sound state. -/
theorem documents_admitted {admits : Nat → Op → World → Prop} (start : initial.Initial)
    (run : Reaches exec (DocumentCall.body services) admits (.idle initial) config)
    : Reaches exec (DocumentCall.body services)
        (fun i op world =>
          admits i op world
          ∧ Sane services.platform.unicode (.admitting initial.raises admits) world)
        (.idle initial) config :=
  Sound.admitted (sessions_coherent _ (.admitting initial.raises admits)) Untouched.stays
    (documents_safe id) (documents_sound (.admitting initial.raises admits) id start rfl .refl)
    run

/-- Whatever its result, an ended upload has no temporary object, in every run in which its
deletions succeed and nothing fails it while it is staged. -/
theorem temporaries_deleted {command : UploadDocumentCommand} {tenant : TenantContext}
    {now : Option Datetime} {i : Nat} {result : Except Exn DocumentReply}
    (start : initial.Initial)
    (vacant : ∀ owner n, initial.object? (initial.temporaryKey owner n) = none)
    (renames : Renames services.platform.unicode command.filename)
    (countable : Countable services command)
    (run
      : Reaches exec (DocumentCall.body services)
          (fun j op world => j = i → Cleans tenant.organizationId i op world)
          (.idle initial) config)
    (ended : config.threads[i]? = some ⟨.uploadDocument command tenant now, .done result⟩)
    : config.shared.temporaries tenant.organizationId i = [] := by
  have swept : ∀ j, Swept tenant.organizationId j initial := by
    intro j entry member
    cases (vacant _ _).symm.trans (World.mem_temporaries.mp member).2
  have stays
      : ∀ j before now,
          Swept tenant.organizationId j before
          → Apart j before now
          → Swept tenant.organizationId j now :=
    fun j before now swept apart => Swept.kept before now (Apart.quiet apart) swept
  have sound
      : Sound exec
          (bucket (fun j op world =>
            (j = i → Cleans tenant.organizationId i op world)
            ∧ Sane services.platform.unicode
                (.admitting initial.raises
                  (fun j op world => j = i → Cleans tenant.organizationId i op world))
                world))
          (Swept tenant.organizationId)
          (fun (_ : Nat) (_ : DocumentCall) (_ : Except Exn DocumentReply) _ => True)
          (.idle initial) := {
    inv := fun owner n _ => vacant owner n
    safe := by
      intro j thread found
      simp [Config.idle] at found
    unseen := fun j _ => swept j
  }
  have clean
      : ∀ (call : DocumentCall) state,
          state.Unclaimed
          → Swept tenant.organizationId i state
          → Safe exec (cleaning services.platform.unicode tenant.organizationId) i
              (fun _ world =>
                call = .uploadDocument command tenant now
                → Swept tenant.organizationId i world)
              (call.body services) state := by
    intro call state _ holds
    by_cases mine : call = .uploadDocument command tenant now
    · subst mine
      refine (DocumentCall.uploadDocument_swept renames countable state trivial holds).mono ?_
      intro result world _ reached _
      cases result <;> exact reached
    · exact Safe.unconstrained (fun _ => trivial) (fun _ _ => trivial)
        (fun _ _ same => absurd same mine) _ _
  have safe :=
    sound.thread (bucket_coherent _) (cleaning_ordered services.platform.unicode _) stays
      (fun j call state _ _ => Tidy.body call state) (fun _ _ => trivial)
      (fun _ _ apart => apart)
      (fun op state unclaimed admitted =>
        ⟨admitted.1.1 rfl, admitted.1.2.coherent, admitted.1.2.consistent, unclaimed⟩)
      clean (Nat.zero_le i)
      ((documents_admitted start run).mono (fun _ _ _ admitted =>
        ⟨admitted, admitted.2.coherent⟩)) ended
  exact List.eq_nil_iff_forall_not_mem.mpr (safe _ trivial (Apart.refl i _) rfl)

namespace Sample

/-- The upload of the sample file has ended and fits the predicate on its temporary objects. -/
def endedUpload (left : List (Nat × StoredObject) → Bool) (config : DocumentConfig) : Bool :=
  match config.ended 0 with
  | some (.uploadDocument command owner _, _) =>
      (command.filename == some "a.pdf".toList
        && owner.organizationId == tenant.organizationId)
      && left (config.shared.temporaries owner.organizationId 0)
  | _ => false

theorem endedUpload_elim {left : List (Nat × StoredObject) → Bool} {config : DocumentConfig}
    (found : endedUpload left config = true)
    : ∃ command owner now result,
        config.threads[0]? = some ⟨.uploadDocument command owner now, .done result⟩
        ∧ (command.filename = some "a.pdf".toList
          ∧ owner.organizationId = tenant.organizationId)
        ∧ left (config.shared.temporaries owner.organizationId 0) = true := by
  unfold endedUpload at found
  split at found
  · rename_i ended
    rw [Bool.and_eq_true, Bool.and_eq_true, beq_iff_eq, beq_iff_eq] at found
    exact ⟨_, _, _, _, Config.ended_eq_some.mp ended, found.1, found.2⟩
  · cases found

/-- Whether an operation of the first session is clean. -/
def cleans (i : Nat) (op : Op) (world : World) : Bool :=
  i != 0
  || deletesObject op world
    && (!world.storedTemporary tenant.organizationId 0
      || proceeds tenant.organizationId 0 op world)

theorem cleans_sound (i : Nat) (op : Op) (world : World) (holds : cleans i op world = true)
    (mine : i = 0)
    : Cleans tenant.organizationId 0 op world := by
  subst mine
  simp only [cleans, bne_self_eq_false, Bool.false_or, Bool.and_eq_true, Bool.or_eq_true,
    Bool.not_eq_true'] at holds
  exact ⟨holds.1, fun stored => holds.2.resolve_left (by simp [stored])⟩

theorem maxBytes_lt : Sample.services.maxBytes < 2 ^ 63 := by decide

theorem renames : Renames Sample.services.platform.unicode (some "a.pdf".toList) := by
  intro name normalized
  have named
      : normalizeUploadFilename Sample.services.platform.unicode (some "a.pdf".toList)
        = .ok "a.pdf".toList := by
    decide +kernel
  obtain rfl := Except.ok.inj (named.symm.trans normalized)
  exact ⟨"a.pdf".toList, by decide +kernel⟩

end Sample

/-- Nothing fails the sample upload. -/
theorem temporaries_deleted_sample
    : ∃ (config : DocumentConfig) (command : UploadDocumentCommand) (tenant : TenantContext)
        (now : Option Datetime) (result : Except Exn DocumentReply),
        config.threads[0]? = some ⟨.uploadDocument command tenant now, .done result⟩
        ∧ config.shared.temporaries tenant.organizationId 0 = [] := by
  have checked
      : ((Config.idle (Sample.world fun _ => .ok)).follow exec
            (DocumentCall.body Sample.services) Sample.cleans
            (.start (.uploadDocument (Sample.upload "k1") Sample.tenant none)
              :: List.replicate 54 (.act 0))).any
          (Sample.endedUpload (fun _ => true)) = true := by
    decide +kernel
  obtain ⟨config, run, found⟩ := Config.reaches_of_check Sample.cleans_sound checked
  obtain ⟨command, tenant, now, result, ended, ⟨filename, owner⟩, -⟩ :=
    Sample.endedUpload_elim found
  rw [← owner] at run
  exact ⟨config, command, tenant, now, result, ended,
    temporaries_deleted (Sample.world_initial _) (fun _ _ => rfl)
      (filename ▸ Sample.renames) (.inl Sample.maxBytes_lt) run ended⟩

/-- All deletions succeed, but the copy to the final key fails: the upload is answered with an
error, and its temporary object stays. -/
theorem temporary_left
    : ∃ (config : DocumentConfig) (command : UploadDocumentCommand) (tenant : TenantContext)
        (now : Option Datetime) (result : Except Exn DocumentReply),
        (Sample.world fun n => if n = 3 then .fails false false else .ok).Initial
        ∧ Reaches exec (DocumentCall.body Sample.services)
            (fun _ op world => deletesObject op world = true)
            (.idle (Sample.world fun n => if n = 3 then .fails false false else .ok)) config
        ∧ config.threads[0]? = some ⟨.uploadDocument command tenant now, .done result⟩
        ∧ config.shared.temporaries tenant.organizationId 0 ≠ [] := by
  have checked
      : ((Config.idle (Sample.world fun n => if n = 3 then .fails false false else .ok)).follow
            exec (DocumentCall.body Sample.services) (fun _ => deletesObject)
            (.start (.uploadDocument (Sample.upload "k1") Sample.tenant none)
              :: List.replicate 52 (.act 0))).any
          (Sample.endedUpload (fun left => !left.isEmpty)) = true := by
    decide +kernel
  obtain ⟨config, run, found⟩ := Config.reaches_of_check (fun _ _ _ holds => holds) checked
  obtain ⟨command, tenant, now, result, ended, -, left⟩ := Sample.endedUpload_elim found
  exact ⟨config, command, tenant, now, result, Sample.world_initial _, run, ended, by
    simpa using left⟩

end WorkflowForge
