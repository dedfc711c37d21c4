import WorkflowForge.Application.UploadValidation
import WorkflowForge.Python.Ascii

/-! The bytes of an upload are streamed independently of their chunks. -/

namespace WorkflowForge

open Python

/-- The loop variables after these bytes. -/
def StreamProgress.after (seen : Bytes) : StreamProgress where
  hashed := seen
  byteSize := seen.length
  head := seen.take validationPrefixBytes
  tail := lastBytes 16 seen
  body := seen

/-- Windowing the last bytes forgets nothing that the next window needs. -/
theorem lastBytes_append (n : Nat) (seen chunk : Bytes)
    : lastBytes n (lastBytes n seen ++ chunk) = lastBytes n (seen ++ chunk) := by
  have kept : (lastBytes n seen).length = min n seen.length := by
    simp only [lastBytes, List.length_drop]
    omega
  unfold lastBytes at kept ⊢
  rw [List.drop_append, List.drop_append, List.drop_drop]
  simp only [List.length_append, kept]
  congr 2 <;> omega

/-- The first bytes grow until the window is full. -/
theorem take_append_chunk (n : Nat) (seen chunk : Bytes)
    : (if (seen.take n).length < n then seen.take n ++ chunk.take (n - (seen.take n).length)
        else seen.take n)
      = (seen ++ chunk).take n := by
  rw [List.take_append, List.length_take]
  split
  · rename_i room
    congr 2
    omega
  · rename_i full
    have none : n - seen.length = 0 := by omega
    rw [none, List.take_zero, List.append_nil]

/-- One round of the loop. -/
theorem StreamProgress.after_take (seen chunk : Bytes)
    : (StreamProgress.after seen).take chunk = StreamProgress.after (seen ++ chunk) := by
  have head := take_append_chunk validationPrefixBytes seen chunk
  have tail := lastBytes_append 16 seen chunk
  simp only [StreamProgress.take, StreamProgress.after, StreamProgress.mk.injEq,
    List.length_append, tail, true_and]
  exact ⟨head, trivial⟩

/-- What the stream yields once its bytes are read: nothing, or an empty chunk first. -/
def EndOfFile (rest : UploadStream) : Prop :=
  rest = [] ∨ ∃ later, rest = .chunk [] :: later

theorem streamLoop_endOfFile {maxBytes : Nat} {progress : StreamProgress}
    {rest : UploadStream} (ended : EndOfFile rest)
    : (streamLoop maxBytes progress rest).1 = .ok progress := by
  rcases ended with rfl | ⟨later, rfl⟩
  · rfl
  · simp [streamLoop]

/-- The loop over non-empty chunks, by induction on the chunks: the loop variables are those
of the bytes read so far, and it stops at the chunk that exceeds the limit. -/
theorem streamLoop_chunks {maxBytes : Nat} {rest : UploadStream} (ended : EndOfFile rest)
    {chunks : List Bytes} (some : ∀ chunk ∈ chunks, chunk ≠ []) {seen : Bytes}
    (within : seen.length ≤ maxBytes)
    : (streamLoop maxBytes (.after seen) (chunks.map .chunk ++ rest)).1
      = if maxBytes < (seen ++ chunks.flatten).length then
          invalid "file_too_large" "Uploaded file is too large."
        else .ok (.after (seen ++ chunks.flatten)) := by
  induction chunks generalizing seen with
  | nil =>
      rw [List.map_nil, List.nil_append, streamLoop_endOfFile ended, List.flatten_nil,
        List.append_nil, if_neg (by omega)]
  | cons chunk later ih =>
      have total : (seen ++ (chunk :: later).flatten) = (seen ++ chunk) ++ later.flatten := by
        rw [List.flatten_cons, List.append_assoc]
      rw [List.map_cons, List.cons_append, total]
      simp only [streamLoop, if_neg (some chunk (List.mem_cons_self ..))]
      have size : (StreamProgress.after seen).byteSize + chunk.length = (seen ++ chunk).length :=
        (List.length_append ..).symm
      rw [size, StreamProgress.after_take]
      by_cases large : maxBytes < (seen ++ chunk).length
      · rw [if_pos large, if_pos (by rw [List.length_append]; omega)]
      · rw [if_neg large]
        exact ih (fun next member => some next (List.mem_cons_of_mem _ member)) (by omega)

/-- However the bytes are cut into chunks, `stream_upload` accepts them when there are between
one and `max_bytes` of them, with the samples and the digest of the whole sequence, and
refuses them otherwise. -/
theorem streamUpload_chunks (platform : Platform) (maxBytes : Nat) {chunks : List Bytes}
    (some : ∀ chunk ∈ chunks, chunk ≠ []) {rest : UploadStream} (ended : EndOfFile rest)
    {data : Bytes} (whole : chunks.flatten = data)
    : (1 ≤ data.length → data.length ≤ maxBytes
        → ∃ streamed,
            (streamUpload platform maxBytes (chunks.map .chunk ++ rest)).1 = .ok streamed
            ∧ streamed.body = data
            ∧ streamed.byteSize = data.length
            ∧ streamed.contentHash = platform.sha256 data
            ∧ streamed.head = data.take 8192
            ∧ streamed.tail = data.drop (data.length - 16))
      ∧ (data.length = 0
        → (streamUpload platform maxBytes (chunks.map .chunk ++ rest)).1
          = .error (.uploadValidation "empty_file" "Uploaded file must not be empty."))
      ∧ (maxBytes < data.length
        → (streamUpload platform maxBytes (chunks.map .chunk ++ rest)).1
          = .error (.uploadValidation "file_too_large" "Uploaded file is too large.")) := by
  have nothing : ([] : Bytes).length ≤ maxBytes := Nat.zero_le _
  have looped := streamLoop_chunks ended some nothing
  rw [List.nil_append, whole] at looped
  have start : StreamProgress.after [] = {} := rfl
  rw [start] at looped
  have read
      : (streamUpload platform maxBytes (chunks.map .chunk ++ rest)).1
        = match (streamLoop maxBytes {} (chunks.map .chunk ++ rest)).1 with
          | .error failure => .error failure
          | .ok progress =>
              if progress.byteSize = 0 then
                invalid "empty_file" "Uploaded file must not be empty."
              else
                .ok ⟨progress.body, platform.sha256 progress.hashed, progress.byteSize,
                  progress.head, progress.tail⟩ := by
    simp only [streamUpload]
    split
    · rename_i ran
      rw [ran]
    · rename_i ran
      rw [ran]
      dsimp only
      split <;> rfl
  rw [read, looped]
  refine ⟨fun some within => ?_, fun empty => ?_, fun large => ?_⟩
  · rw [if_neg (by omega)]
    dsimp only
    rw [if_neg (show (StreamProgress.after data).byteSize ≠ 0 by
      simp only [StreamProgress.after]; omega)]
    exact ⟨_, rfl, rfl, rfl, rfl, rfl, rfl⟩
  · rw [if_neg (by omega)]
    dsimp only
    rw [if_pos (show (StreamProgress.after data).byteSize = 0 from empty)]
    rfl
  · rw [if_pos large]
    rfl

/-- A platform with one digest for everything, and no zip reader. -/
def plainPlatform : Platform where
  unicode := asciiUnicode
  sha256 _ := ⟨List.replicate 64 '0', by decide⟩
  readZip _ := .badZipFile

/-- Three bytes in two chunks. -/
theorem streamUpload_two_chunks
    : ∃ streamed,
        (streamUpload plainPlatform 3 ([[1, 2], [3]].map .chunk ++ [.chunk []])).1 = .ok streamed
        ∧ streamed.body = [1, 2, 3]
        ∧ streamed.byteSize = 3 := by
  have cut : ∀ chunk ∈ ([[1, 2], [3]] : List Bytes), chunk ≠ [] := by decide
  obtain ⟨streamed, read, body, size, -⟩ :=
    (streamUpload_chunks plainPlatform 3 cut (.inr ⟨[], rfl⟩) rfl).1 (by decide) (by decide)
  exact ⟨streamed, read, body, size⟩

end WorkflowForge
