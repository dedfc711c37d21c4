import WorkflowForge.Application.UploadDocument

/-! What reading an upload stream yields. -/

namespace WorkflowForge

open Python

/-- The digest is fed the bytes of the body, and they are counted. -/
def StreamProgress.Counts (progress : StreamProgress) : Prop :=
  progress.hashed = progress.body ∧ progress.byteSize = progress.body.length

theorem StreamProgress.Counts.take {progress : StreamProgress} (counts : progress.Counts)
    (chunk : Bytes)
    : (progress.take chunk).Counts := by
  obtain ⟨hashed, size⟩ := counts
  simp [StreamProgress.Counts, StreamProgress.take, hashed, size]

/-- The loop keeps its counters right, by induction on the stream. -/
theorem streamLoop_counts {maxBytes : Nat} {progress final : StreamProgress}
    {stream rest : UploadStream} (counts : progress.Counts)
    (read : streamLoop maxBytes progress stream = (.ok final, rest))
    : final.Counts := by
  induction stream generalizing progress with
  | nil =>
      simp only [streamLoop, Prod.mk.injEq, Except.ok.injEq] at read
      rw [← read.1]
      exact counts
  | cons event later ih =>
      cases event with
      | failure =>
          simp only [streamLoop, invalid, Prod.mk.injEq] at read
          cases read.1
      | chunk data =>
          simp only [streamLoop] at read
          split at read
          · simp only [Prod.mk.injEq, Except.ok.injEq] at read
            rw [← read.1]
            exact counts
          · split at read
            · simp only [invalid, Prod.mk.injEq] at read
              cases read.1
            · exact ih (counts.take data) read

/-- The bytes that one read delivers. -/
def StreamEvent.size : StreamEvent → Nat
  | .chunk data => data.length
  | .failure => 0

/-- The bytes that all reads of a stream deliver. -/
def streamSize : UploadStream → Nat
  | [] => 0
  | event :: rest => event.size + streamSize rest

/-- The loop counts no more bytes than the stream delivers, and what it leaves of the stream
delivers no more than the whole. -/
theorem streamLoop_size (maxBytes : Nat) (progress : StreamProgress) (stream : UploadStream)
    : streamSize (streamLoop maxBytes progress stream).2 ≤ streamSize stream
      ∧ ∀ final,
          (streamLoop maxBytes progress stream).1 = .ok final
          → final.byteSize ≤ max progress.byteSize maxBytes
            ∧ final.byteSize ≤ progress.byteSize + streamSize stream := by
  induction stream generalizing progress with
  | nil =>
      refine ⟨Nat.le_refl _, fun final read => ?_⟩
      cases read
      exact ⟨Nat.le_max_left _ _, Nat.le_add_right _ _⟩
  | cons event rest ih =>
      cases event with
      | failure =>
          refine ⟨by simp [streamLoop, streamSize, invalid], fun final read => ?_⟩
          simp only [streamLoop, invalid] at read
          cases read
      | chunk data =>
          simp only [streamLoop]
          split
          · refine ⟨Nat.zero_le _, fun final read => ?_⟩
            cases read
            exact ⟨Nat.le_max_left _ _, Nat.le_add_right _ _⟩
          · have whole : streamSize (.chunk data :: rest) = data.length + streamSize rest := by
              simp [streamSize, StreamEvent.size]
            split
            · refine ⟨by simp [whole], fun final read => ?_⟩
              simp only [invalid] at read
              cases read
            · rename_i small
              obtain ⟨left, counted⟩ := ih (progress.take data)
              refine ⟨by omega, fun final read => ?_⟩
              obtain ⟨limited, within⟩ := counted final read
              have taken : (progress.take data).byteSize = progress.byteSize + data.length := rfl
              omega

theorem streamUpload_size (platform : Platform) (maxBytes : Nat) (stream : UploadStream)
    : streamSize (streamUpload platform maxBytes stream).2 ≤ streamSize stream
      ∧ ∀ streamed,
          (streamUpload platform maxBytes stream).1 = .ok streamed
          → streamed.byteSize ≤ maxBytes ∧ streamed.byteSize ≤ streamSize stream := by
  have looped := streamLoop_size maxBytes {} stream
  unfold streamUpload
  split
  · rename_i failure rest ended
    rw [ended] at looped
    exact ⟨looped.1, by simp⟩
  · rename_i progress rest ended
    rw [ended] at looped
    have counted := looped.2 progress rfl
    split
    · exact ⟨looped.1, by simp [invalid]⟩
    · refine ⟨looped.1, fun streamed read => ?_⟩
      cases read
      simpa using counted

/-- What an accepted stream was read into. -/
theorem streamUpload_ok {platform : Platform} {maxBytes : Nat} {stream rest : UploadStream}
    {streamed : StreamedUpload}
    (read : streamUpload platform maxBytes stream = (.ok streamed, rest))
    : streamed.byteSize = streamed.body.length
      ∧ streamed.contentHash = platform.sha256 streamed.body := by
  simp only [streamUpload] at read
  split at read
  · simp only [Prod.mk.injEq] at read
    cases read.1
  · rename_i progress remaining looped
    obtain ⟨hashed, size⟩ := streamLoop_counts ⟨rfl, rfl⟩ looped
    split at read
    · simp only [invalid, Prod.mk.injEq] at read
      cases read.1
    · simp only [Prod.mk.injEq, Except.ok.injEq] at read
      rw [← read.1]
      exact ⟨size, by rw [hashed]⟩

namespace UploadDocument

theorem prepareUpload_ok {services : Services} {command : UploadDocumentCommand}
    {upload : PreparedUpload} (prepared : (prepareUpload services command).1 = .ok upload)
    : upload.streamed.byteSize = upload.streamed.body.length
      ∧ upload.streamed.contentHash = services.platform.sha256 upload.streamed.body := by
  simp only [prepareUpload] at prepared
  split at prepared
  · cases prepared
  split at prepared
  · cases prepared
  rename_i metadata _ streamed rest read
  simp only [UploadDocument.prepared, bind, Except.bind] at prepared
  split at prepared
  · cases prepared
  cases prepared
  exact streamUpload_ok read

end UploadDocument

end WorkflowForge
