import WorkflowForge.Application.UploadDocument
import WorkflowForge.Domain.Transitions
import WorkflowForge.Python.Composition

/-! Normalized filenames, normalized again.
Characters of a `C` category are removed after the canonical composition, so a combining mark
may come to stand next to a letter that it composes with.
-/

namespace WorkflowForge

open Python

variable {u : Unicode}

/-- What follows the last slash or backslash of a filename. -/
def lastSegment (filename : Text) : Text := (filename.replaceChar '\\' '/').afterLast '/'

/-- The runs between the characters of the last segment that the normalizers remove. -/
def keptRuns (u : Unicode) (filename : Text) : List Text :=
  (lastSegment filename).splitWhere u.isControl

/-- No character to be removed keeps apart what composes: the runs compose to the same text
together as one by one. -/
def RunsApart (u : Unicode) (filename : Text) : Prop :=
  u.nfc (keptRuns u filename).flatten = ((keptRuns u filename).map u.nfc).flatten

/-- A filename that normalization, and with it every constructor, leaves alone. -/
structure SteadyName (u : Unicode) (name : Text) : Prop where
  again : normalizeOriginalFilename u name = .ok name
  created
    : ∀ id organizationId documentId versionNumber mediaType byteSize contentHash storageState
          createdAt createdByUserId version,
        DocumentVersion.create u id organizationId documentId versionNumber name mediaType
            byteSize contentHash storageState createdAt createdByUserId = .ok version
        → version.originalFilename = name
  versions
    : ∀ draft version : DocumentVersion,
        draft.originalFilename = name
        → draft.postInit u = .ok version
        → version.originalFilename = name
          ∧ versionFromRecord u (recordFromVersion version) = .ok version
  documents
    : ∀ draft document : Document,
        draft.displayFilename = name
        → draft.postInit u = .ok document
        → document.displayFilename = name ∧ documentFromRecord u document = .ok document

/-- Both normalizers accept what the shared pipeline makes of the filename. -/
theorem normalized_eq {filename name : Text}
    (accepted
      : normalizeUploadFilename u (some filename) = .ok name
        ∨ normalizeOriginalFilename u filename = .ok name)
    : name = cleanFilename u filename ∧ isSpecialName name = false ∧ name.length ≤ 255 := by
  rcases accepted with uploaded | original
  · simp only [normalizeUploadFilename] at uploaded
    split at uploaded
    · cases uploaded
    split at uploaded
    · cases uploaded
    rename_i special
    split at uploaded
    · cases uploaded
    rename_i short
    obtain rfl := Except.ok.inj uploaded
    exact ⟨rfl, by simpa using special, Nat.le_of_not_lt short⟩
  · exact normalizeOriginalFilename_ok original

/-- Joined words are the same texts only if they are the same words. -/
theorem joinSpaces_inj {first second : List Text} (all : ∀ part ∈ first, u.Word part)
    (all' : ∀ part ∈ second, u.Word part)
    (same : Text.joinSpaces first = Text.joinSpaces second)
    : first = second := by
  calc
    first = u.words (Text.joinSpaces first) :=
      (Unicode.words_joinSpaces (fun part member => (all part member).solid)).symm
    _ = u.words (Text.joinSpaces second) := by rw [same]
    _ = second := Unicode.words_joinSpaces (fun part member => (all' part member).solid)

/-- Normalizing a normalized name composes its runs. -/
theorem cleanFilename_twice {filename : Text}
    (special : isSpecialName (cleanFilename u filename) = false)
    : cleanFilename u (cleanFilename u filename)
      = Text.joinSpaces ((u.words (visibleName u filename)).map u.nfc) := by
  have some : u.words (visibleName u filename) ≠ [] := by
    intro none
    rw [cleanFilename_eq, none] at special
    simp [isSpecialName, Text.joinSpaces] at special
  rw [cleanFilename_eq filename]
  exact cleanFilename_joinSpaces (fun _ member => visibleName_words member) some

/-- Composing changes no word exactly when it changes none of them. -/
theorem map_nfc_iff (words : List Text)
    : words.map u.nfc = words ↔ ∀ word ∈ words, u.nfc word = word := by
  have same : words.map u.nfc = words ↔ words.map u.nfc = words.map id := by rw [List.map_id]
  exact same.trans List.map_inj_left

/-- An accepted name settles when the words that are left of the filename are composed. -/
theorem settledName_iff_words {filename name : Text}
    (accepted
      : normalizeUploadFilename u (some filename) = .ok name
        ∨ normalizeOriginalFilename u filename = .ok name)
    : SettledName u name ↔ ∀ word ∈ u.words (visibleName u filename), u.nfc word = word := by
  obtain ⟨rfl, special, short⟩ := normalized_eq accepted
  have twice := cleanFilename_twice special
  constructor
  · intro settled
    have same : cleanFilename u filename = cleanFilename u (cleanFilename u filename) :=
      (normalizeOriginalFilename_ok settled).1
    rw [twice, cleanFilename_eq] at same
    have composed : ∀ part ∈ (u.words (visibleName u filename)).map u.nfc, u.Word part := by
      intro part member
      obtain ⟨word, inside, rfl⟩ := List.mem_map.mp member
      exact (visibleName_words inside).nfc
    have words := joinSpaces_inj (fun _ member => visibleName_words member) composed same
    exact (map_nfc_iff _).mp words.symm
  · intro composed
    rw [(map_nfc_iff _).mpr composed, ← cleanFilename_eq] at twice
    unfold SettledName normalizeOriginalFilename
    simp only [twice, special, Bool.false_eq_true, if_false, displayFilenameMaxLength]
    rw [if_neg (Nat.not_lt.mpr short)]

theorem lastSegment_of_noSlash {segment : Text} (noSlash : '/' ∉ segment)
    (noBackslash : '\\' ∉ segment)
    : lastSegment segment = segment := by
  unfold lastSegment
  rw [Text.replaceChar_of_notMem noBackslash, Text.afterLast_of_notMem noSlash]

theorem lastSegment_append {slash : Char} (isSlash : slash = '/' ∨ slash = '\\')
    {segment : Text} (noSlash : '/' ∉ segment) (noBackslash : '\\' ∉ segment) (before : Text)
    : lastSegment (before ++ slash :: segment) = segment := by
  have replaced : Text.replaceChar (before ++ slash :: segment) '\\' '/'
      = before.replaceChar '\\' '/' ++ '/' :: segment.replaceChar '\\' '/' := by
    rcases isSlash with rfl | rfl <;> simp [Text.replaceChar]
  unfold lastSegment
  rw [replaced, Text.replaceChar_of_notMem noBackslash, Text.afterLast_append noSlash]

/-- A filename without slashes, or its last slash and what follows. -/
theorem exists_lastSlash (filename : Text)
    : ('/' ∉ filename ∧ '\\' ∉ filename)
      ∨ ∃ before slash segment,
          (slash = '/' ∨ slash = '\\')
          ∧ '/' ∉ segment
          ∧ '\\' ∉ segment
          ∧ filename = before ++ slash :: segment := by
  have absent {text : Text} (quiet : ∀ c ∈ text.reverse, (c == '/' || c == '\\') = false)
      : '/' ∉ text ∧ '\\' ∉ text :=
    ⟨fun member => absurd (quiet _ (List.mem_reverse.mpr member)) (by decide),
      fun member => absurd (quiet _ (List.mem_reverse.mpr member)) (by decide)⟩
  rcases Text.exists_first_separated (fun c => c == '/' || c == '\\') filename.reverse with
    quiet | ⟨segment, slash, rest, quiet, isSlash, shape⟩
  · exact .inl (absent quiet)
  · rw [← List.reverse_reverse segment] at quiet
    obtain ⟨noSlash, noBackslash⟩ := absent quiet
    refine .inr ⟨rest.reverse, slash, segment.reverse, by simpa using isSlash, noSlash,
      noBackslash, ?_⟩
    simpa using congrArg List.reverse shape

/-- Composing a filename composes its last segment. -/
theorem lastSegment_nfc (filename : Text)
    : lastSegment (u.nfc filename) = u.nfc (lastSegment filename) := by
  rcases exists_lastSlash filename with
    ⟨noSlash, noBackslash⟩ | ⟨before, slash, segment, isSlash, noSlash, noBackslash, rfl⟩
  · rw [lastSegment_of_noSlash noSlash noBackslash,
      lastSegment_of_noSlash (Unicode.nfc_noSlash (.inl rfl) noSlash)
        (Unicode.nfc_noSlash (.inr rfl) noBackslash)]
  · rw [lastSegment_append isSlash noSlash noBackslash, u.nfc_border slash (.inr (.inr isSlash)),
      u.nfc_fixed slash (.inr (.inr isSlash)), List.append_assoc]
    exact lastSegment_append isSlash (Unicode.nfc_noSlash (.inl rfl) noSlash)
      (Unicode.nfc_noSlash (.inr rfl) noBackslash) (u.nfc before)

/-- What is left of a filename: the composed runs of its last segment. -/
theorem words_visibleName (filename : Text)
    : u.words (visibleName u filename)
      = u.words ((keptRuns u filename).map u.nfc).flatten := by
  unfold visibleName
  rw [Unicode.words_dropControls_strip]
  change u.words (u.dropControls (lastSegment (u.nfc filename))) = _
  rw [lastSegment_nfc, Unicode.dropControls_nfc]
  rfl

/-- Composing the runs one by one first changes nothing. -/
theorem nfc_flatten_map (runs : List Text)
    : u.nfc (runs.map u.nfc).flatten = u.nfc runs.flatten := by
  induction runs with
  | nil => rfl
  | cons run rest ih =>
      rw [List.map_cons, List.flatten_cons, List.flatten_cons]
      calc
        u.nfc (u.nfc run ++ (rest.map u.nfc).flatten)
            = u.nfc (u.nfc run ++ u.nfc (rest.map u.nfc).flatten) := by
          rw [← u.nfc_append (u.nfc run), Unicode.nfc_nfc]
        _ = u.nfc (u.nfc run ++ u.nfc rest.flatten) := by rw [ih]
        _ = u.nfc (run ++ rest.flatten) := u.nfc_append run rest.flatten

theorem settledName_iff {filename name : Text}
    (accepted
      : normalizeUploadFilename u (some filename) = .ok name
        ∨ normalizeOriginalFilename u filename = .ok name)
    : SettledName u name ↔ RunsApart u filename := by
  have spaces
      : ∀ c ∈ ((keptRuns u filename).map u.nfc).flatten, u.isSpace c = true → u.nfc [c] = [c] := by
    intro c member _
    obtain ⟨part, among, inPart⟩ := List.mem_flatten.mp member
    obtain ⟨run, -, rfl⟩ := List.mem_map.mp among
    exact u.nfc_infix run [c] ((List.singleton_infix_iff c (u.nfc run)).mpr inPart)
  rw [settledName_iff_words accepted, words_visibleName, ← Unicode.nfc_eq_self_iff spaces,
    nfc_flatten_map]
  rfl

/-- A version that settles is loaded again from its row. -/
theorem versionFromRecord_recordFromVersion {version : DocumentVersion}
    (settled : version.postInit u = .ok version)
    : versionFromRecord u (recordFromVersion version) = .ok version := by
  simp only [versionFromRecord, recordFromVersion, ContentHash.parse_value,
    StorageObjectKey.parse_value, bind, Except.bind]
  exact settled

theorem SettledName.steady {name : Text} (settled : SettledName u name) : SteadyName u name where
  again := settled
  created := by
    intro id organizationId documentId versionNumber mediaType byteSize contentHash storageState
      createdAt createdByUserId version created
    obtain ⟨normalized, media, -, -, -, filename, -, -, rfl⟩ :=
      DocumentVersion.create_eq_ok.mp created
    exact Except.ok.inj (filename.symm.trans settled)
  versions := by
    rintro draft version rfl built
    obtain ⟨normalized, mediaType, accepted, rfl⟩ := DocumentVersion.postInit_eq_ok.mp built
    obtain rfl := Except.ok.inj (accepted.filename.symm.trans settled)
    refine ⟨rfl, versionFromRecord_recordFromVersion ?_⟩
    refine DocumentVersion.postInit_eq_ok.mpr ⟨draft.originalFilename, mediaType, ?_, rfl⟩
    exact {
      organization := accepted.organization
      creator := accepted.creator
      number := accepted.number
      filename := settled
      media := normalizeMediaType_idem accepted.media
      size := accepted.size
      key := accepted.key }
  documents := by
    rintro draft document rfl built
    obtain ⟨normalized, reference, accepted, rfl⟩ := Document.postInit_eq_ok.mp built
    obtain rfl := Except.ok.inj (accepted.filename.symm.trans settled)
    exact ⟨rfl, Document.settled_of_postInit built settled⟩

/-- An accepted filename stays as it is in every later normalization, constructor call and
reload exactly when no removed character of its last segment keeps apart what composes. -/
theorem steadyName_iff {filename name : Text}
    (accepted
      : normalizeUploadFilename u (some filename) = .ok name
        ∨ normalizeOriginalFilename u filename = .ok name)
    : SteadyName u name ↔ RunsApart u filename :=
  ⟨fun steady => (settledName_iff accepted).mp steady.again,
    fun apart => ((settledName_iff accepted).mpr apart).steady⟩

/-- A plain name is steady. -/
theorem plain_name_steady : SteadyName asciiUnicode "report.txt".toList := by
  have accepted
      : normalizeUploadFilename asciiUnicode (some "report.txt".toList)
        = .ok "report.txt".toList := by
    decide +kernel
  refine (steadyName_iff (.inl accepted)).mpr ?_
  unfold RunsApart
  decide +kernel

/-- A letter, a soft hyphen and an accent: the name is accepted without the hyphen, and
composed when it is normalized again. -/
theorem hyphenated_name_changes
    : ¬ ∀ (u : Unicode) (filename name : Text),
          normalizeUploadFilename u (some filename) = .ok name
          → normalizeOriginalFilename u name = .ok name := by
  intro claim
  have accepted
      : normalizeUploadFilename acuteUnicode (some ('e' :: softHyphen :: acute :: ".txt".toList))
        = .ok ('e' :: acute :: ".txt".toList) := by
    decide +kernel
  have again := claim acuteUnicode _ _ accepted
  have changed
      : normalizeOriginalFilename acuteUnicode ('e' :: acute :: ".txt".toList)
        = .ok ('\u00e9' :: ".txt".toList) := by
    decide +kernel
  exact absurd (again.symm.trans changed) (by decide)

end WorkflowForge
