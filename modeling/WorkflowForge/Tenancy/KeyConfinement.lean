import WorkflowForge.Tenancy.ServiceContracts
import WorkflowForge.Uploads.Fingerprints

/-! Storage keys say what they are for, and a tenant's calls only use keys of the tenant. -/

namespace WorkflowForge

open Python Transactions Concurrency

/-- What a storage key is built for. -/
inductive KeyRequest where
  | temporary (organizationId uploadId : UUID)
  | content (organizationId : UUID) (hash : ContentHash)
  | artifact (organizationId documentId : UUID) (artifactType : DocumentArtifactType)
    (artifactId : UUID)

namespace KeyRequest

/-- The builder of each kind of key. -/
def build : KeyRequest → Except Exn StorageObjectKey
  | temporary organizationId uploadId =>
      StorageObjectKey.forTemporaryUpload organizationId uploadId
  | content organizationId hash => StorageObjectKey.forDocumentContent organizationId hash
  | artifact organizationId documentId artifactType artifactId =>
      StorageObjectKey.forArtifact organizationId documentId artifactType artifactId

/-- The constructors of all identifiers accept them. -/
def Accepted : KeyRequest → Prop
  | temporary organizationId uploadId => organizationId ≠ 0 ∧ uploadId ≠ 0
  | content organizationId _ => organizationId ≠ 0
  | artifact organizationId documentId _ artifactId =>
      organizationId ≠ 0 ∧ documentId ≠ 0 ∧ artifactId ≠ 0

/-- The path of the key. -/
def segments : KeyRequest → List Text
  | temporary organizationId uploadId =>
      ["tmp".toList, uuidText organizationId, uuidText uploadId]
  | content organizationId hash =>
      ["documents".toList, uuidText organizationId, "sha256".toList, hash.value.take 2,
        (hash.value.drop 2).take 2, hash.value]
  | artifact organizationId documentId artifactType artifactId =>
      ["artifacts".toList, uuidText organizationId, uuidText documentId,
        artifactType.value.toList, uuidText artifactId]

end KeyRequest

theorem KeySegment.artifactType (artifactType : DocumentArtifactType)
    : KeySegment artifactType.value.toList := by
  cases artifactType <;> exact .of_check (by decide)

theorem DocumentArtifactType.value_injective {first second : DocumentArtifactType}
    (same : first.value.toList = second.value.toList)
    : first = second := by
  revert same
  cases first <;> cases second <;> decide

theorem artifactKeyText_eq (organizationId documentId : UUID)
    (artifactType : DocumentArtifactType) (artifactId : UUID)
    : "artifacts/".toList ++ uuidText organizationId ++ '/' :: uuidText documentId
        ++ '/' :: artifactType.value.toList ++ '/' :: uuidText artifactId
      = joinSlashes (KeyRequest.artifact organizationId documentId artifactType
          artifactId).segments := by
  have front : "artifacts/".toList = "artifacts".toList ++ ['/'] := by decide
  rw [front, KeyRequest.segments]
  generalize "artifacts".toList = area
  generalize artifactType.value.toList = kind
  simp only [joinSlashes, List.append_assoc, List.cons_append, List.nil_append]

namespace KeyRequest

theorem segment_valid (request : KeyRequest)
    : ∀ segment ∈ request.segments, KeySegment segment := by
  intro segment member
  cases request with
  | temporary organizationId uploadId =>
      simp only [segments, List.mem_cons, List.not_mem_nil, or_false] at member
      rcases member with rfl | rfl | rfl
      · exact .of_check (by decide)
      · exact .uuid _
      · exact .uuid _
  | content organizationId hash =>
      exact KeySegment.documentContent organizationId hash segment member
  | artifact organizationId documentId artifactType artifactId =>
      simp only [segments, List.mem_cons, List.not_mem_nil, or_false] at member
      rcases member with rfl | rfl | rfl | rfl | rfl
      · exact .of_check (by decide)
      · exact .uuid _
      · exact .uuid _
      · exact .artifactType _
      · exact .uuid _

theorem segments_injective {first second : KeyRequest}
    (same : first.segments = second.segments)
    : first = second := by
  cases first with
  | temporary organizationId uploadId =>
      cases second with
      | temporary =>
          simp only [segments, List.cons.injEq, and_true, true_and] at same
          rw [uuidText_injective same.1, uuidText_injective same.2]
      | content => simp [segments] at same
      | artifact => simp [segments] at same
  | content organizationId hash =>
      cases second with
      | temporary => simp [segments] at same
      | content =>
          simp only [segments, List.cons.injEq, and_true, true_and] at same
          rw [uuidText_injective same.1, ContentHash.eq_of_value same.2.2.2]
      | artifact => simp [segments] at same
  | artifact organizationId documentId artifactType artifactId =>
      cases second with
      | temporary => simp [segments] at same
      | content => simp [segments] at same
      | artifact =>
          simp only [segments, List.cons.injEq, and_true, true_and] at same
          rw [uuidText_injective same.1, uuidText_injective same.2.1,
            DocumentArtifactType.value_injective same.2.2.1, uuidText_injective same.2.2.2]

theorem build_value {request : KeyRequest} {key : StorageObjectKey}
    (built : request.build = .ok key)
    : key.value = joinSlashes request.segments := by
  cases request with
  | temporary organizationId uploadId =>
      obtain ⟨⟨⟩, -, rest⟩ := exists_of_bind_ok built
      obtain ⟨⟨⟩, -, parsed⟩ := exists_of_bind_ok rest
      rw [StorageObjectKey.value_of_parse parsed]
      exact temporaryKeyText_eq organizationId uploadId
  | content organizationId hash =>
      obtain ⟨⟨⟩, -, parsed⟩ := exists_of_bind_ok built
      rw [StorageObjectKey.value_of_parse parsed]
      exact documentContentKeyText_eq organizationId hash.value
  | artifact organizationId documentId artifactType artifactId =>
      obtain ⟨⟨⟩, -, parsed⟩ := exists_of_bind_ok built
      rw [StorageObjectKey.value_of_parse parsed]
      exact artifactKeyText_eq organizationId documentId artifactType artifactId

theorem build_accepted {request : KeyRequest} (accepted : request.Accepted)
    : ∃ key, request.build = .ok key := by
  cases request with
  | temporary organizationId uploadId =>
      exact ⟨_, StorageObjectKey.forTemporaryUpload_eq accepted.1 accepted.2⟩
  | content organizationId hash =>
      exact ⟨_, StorageObjectKey.forDocumentContent_eq accepted hash⟩
  | artifact organizationId documentId artifactType artifactId =>
      have valid := isStorageKey_joinSlashes
        (artifact organizationId documentId artifactType artifactId).segment_valid
      rw [← segments, ← artifactKeyText_eq] at valid
      simp only [build, StorageObjectKey.forArtifact, validateUuid, if_neg accepted.1, bind,
        Except.bind, StorageObjectKey.parse, dif_pos valid]
      exact ⟨_, rfl⟩

theorem build_injective {first second : KeyRequest} {key : StorageObjectKey}
    (left : first.build = .ok key) (right : second.build = .ok key)
    : first = second := by
  have some : ∀ request : KeyRequest, request.segments ≠ [] := by
    intro request
    cases request <;> simp [segments]
  apply segments_injective
  rw [← splitOn_joinSlashes (some first) first.segment_valid, ← build_value left,
    build_value right, splitOn_joinSlashes (some second) second.segment_valid]

end KeyRequest

/-- A path segment that a key may have starts with a letter or a digit. -/
theorem isSafeSegment_named {segment : Text} (safe : isSafeSegment segment = true)
    : segment ≠ [] ∧ segment ≠ ['.'] ∧ segment ≠ ['.', '.'] := by
  refine ⟨?_, ?_, ?_⟩ <;> rintro rfl <;> revert safe <;> decide

theorem parse_segments {text : Text} {key : StorageObjectKey}
    (parsed : StorageObjectKey.parse text = .ok key)
    : ∀ segment ∈ Text.splitOn '/' text,
        segment ≠ [] ∧ segment ≠ ['.'] ∧ segment ≠ ['.', '.'] := by
  intro segment member
  have valid := key.valid
  rw [StorageObjectKey.value_of_parse parsed, isStorageKey, Bool.and_eq_true] at valid
  exact isSafeSegment_named (List.all_eq_true.mp valid.2 segment member)

/-- The next operation of every started call names keys of its tenant only, whatever the
tables contain. -/
theorem operations_confined {services : Services} {initial : World}
    {config : Config Op Op.Answer Exn ServiceReply World TenantCall}
    (run
      : Reaches exec (TenantCall.body services) (fun _ _ _ => True) (.idle initial) config)
    {i : Nat} {origin : TenantCall} {op : Op} {next : op.Answer → App ServiceReply}
    (active : config.threads[i]? = some ⟨origin, .call op next⟩)
    : ∀ key ∈ op.keys, UnderTenant origin.tenant.organizationId key := by
  have everyone : ∀ store : Store schema, StorePeopled (fun _ _ => True) store := fun store => {
    committed := fun _ _ _ _ _ _ _ => trivial
    pending := fun _ _ _ _ _ _ _ _ => trivial
  }
  have orderly
      : Orderly (fun world : World => StorePeopled (fun _ _ => True) world.store)
          (fun origin : TenantCall =>
            tenantContract (fun _ _ => True) origin.tenant.organizationId) config :=
    Orderly.reaches
      (fun origin => tenantContract_respected _ origin.tenant.organizationId)
      (fun origin => TenantCall.body_honours trivial (fun _ _ => trivial))
      (Orderly.idle (everyone initial.store)) run
  exact (orderly.keeps _ (List.mem_of_getElem? active)).1.1

/-- What the storage keys promise. -/
structure KeysConfined (services : Services) : Prop where
  accepted
    : ∀ request : KeyRequest, request.Accepted
      → ∃ key, request.build = .ok key ∧ StorageObjectKey.parse key.value = .ok key
  /-- So the keys of different organizations and of different kinds are different. -/
  injective
    : ∀ (first second : KeyRequest) (key : StorageObjectKey),
        first.build = .ok key → second.build = .ok key → first = second
  segments
    : ∀ (text : Text) (key : StorageObjectKey), StorageObjectKey.parse text = .ok key
      → ∀ segment ∈ Text.splitOn '/' text,
          segment ≠ [] ∧ segment ≠ ['.'] ∧ segment ≠ ['.', '.']
  operations
    : ∀ (initial : World) (config : Config Op Op.Answer Exn ServiceReply World TenantCall),
        Reaches exec (TenantCall.body services) (fun _ _ _ => True) (.idle initial) config
        → ∀ (i : Nat) (origin : TenantCall) (op : Op) (next : op.Answer → App ServiceReply),
            config.threads[i]? = some ⟨origin, .call op next⟩
            → ∀ key ∈ op.keys, UnderTenant origin.tenant.organizationId key

/-- Built keys are valid and name their purpose, accepted keys have plain segments, and in
every run the services use keys of the acting tenant. -/
theorem keys_confined (services : Services) : KeysConfined services where
  accepted request accepted := by
    obtain ⟨key, built⟩ := KeyRequest.build_accepted accepted
    exact ⟨key, built, StorageObjectKey.parse_value key⟩
  injective _ _ _ left right := KeyRequest.build_injective left right
  segments _ _ parsed := parse_segments parsed
  operations _ _ run _ _ _ _ active := operations_confined run active

end WorkflowForge
