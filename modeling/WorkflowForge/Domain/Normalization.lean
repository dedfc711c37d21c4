import WorkflowForge.Domain.Documents
import WorkflowForge.Python.TextLaws

/-! Laws of the domain normalizers.
Rows are normalized again whenever they are loaded. Media types and source references are
then unchanged. Filenames settle one step later, since removing control characters can
bring combining marks together.
-/

namespace WorkflowForge

open Python

variable {u : Unicode}

/-- What is left of a filename before white space is collapsed: the last path segment of its
canonical form, stripped, without the characters of a `C` category. -/
def visibleName (u : Unicode) (filename : Text) : Text :=
  u.dropControls (u.strip (((u.nfc filename).replaceChar '\\' '/').afterLast '/'))

theorem visibleName_words {filename part : Text} (member : part ∈ u.words (visibleName u filename))
    : u.Word part := by
  obtain ⟨some, inside⟩ := Unicode.mem_words member
  refine ⟨some, ?_⟩
  intro c inPart
  obtain ⟨kept, visible⟩ := inside c inPart
  obtain ⟨inStripped, notControl⟩ := List.mem_filter.mp kept
  have inSegment := (Unicode.strip_infix _).subset inStripped
  obtain ⟨inText, notSlash⟩ := Text.mem_afterLast inSegment
  refine ⟨visible, by simpa using notControl, notSlash, ?_⟩
  rintro rfl
  exact Text.notMem_replaceChar (by decide) inText

theorem cleanFilename_eq (filename : Text)
    : cleanFilename u filename = Text.joinSpaces (u.words (visibleName u filename)) :=
  rfl

/-- Normalized names are joined words. -/
theorem cleanFilename_words (filename : Text)
    : ∃ parts, (∀ part ∈ parts, u.Word part) ∧ cleanFilename u filename = Text.joinSpaces parts :=
  ⟨_, fun _ member => visibleName_words member, cleanFilename_eq filename⟩

/-- Normalizing joined words composes each of them. -/
theorem cleanFilename_joinSpaces {parts : List Text} (all : ∀ part ∈ parts, u.Word part)
    (some : parts ≠ [])
    : cleanFilename u (Text.joinSpaces parts) = Text.joinSpaces (parts.map u.nfc) := by
  have composed : ∀ part ∈ parts.map u.nfc, u.Word part := by
    intro part member
    obtain ⟨word, inParts, rfl⟩ := List.mem_map.mp member
    exact (all word inParts).nfc
  have plain : ∀ c ∈ Text.joinSpaces (parts.map u.nfc), c ≠ '/' ∧ c ≠ '\\' := by
    intro c member
    rcases Text.mem_joinSpaces member with rfl | ⟨part, inParts, inPart⟩
    · decide
    · exact ((composed part inParts).visible c inPart).2.2
  have noAlias : '\\' ∉ Text.joinSpaces (parts.map u.nfc) := fun member => (plain _ member).2 rfl
  have noSlash : '/' ∉ Text.joinSpaces (parts.map u.nfc) := fun member => (plain _ member).1 rfl
  unfold cleanFilename
  rw [Unicode.nfc_joinSpaces parts some, Text.replaceChar_of_notMem noAlias,
    Text.afterLast_of_notMem noSlash, Unicode.collapse_joinSpaces composed]

/-- A name that normalization leaves alone. -/
def SettledName (u : Unicode) (name : Text) : Prop :=
  normalizeOriginalFilename u name = .ok name

theorem normalizeOriginalFilename_ok {filename name : Text}
    (normalized : normalizeOriginalFilename u filename = .ok name)
    : name = cleanFilename u filename ∧ isSpecialName name = false ∧ name.length ≤ 255 := by
  simp only [normalizeOriginalFilename] at normalized
  split at normalized
  · contradiction
  rename_i special
  split at normalized
  · contradiction
  rename_i short
  simp only [Except.ok.injEq] at normalized
  subst normalized
  exact ⟨rfl, by simpa using special, by simpa [displayFilenameMaxLength] using short⟩

/-- A normalized name that normalizes again settles.
Witness: the second pass only composes the words of the first, and composing is idempotent.
-/
theorem settledName_of_twice {filename once twice : Text}
    (first : normalizeOriginalFilename u filename = .ok once)
    (second : normalizeOriginalFilename u once = .ok twice)
    : SettledName u twice := by
  obtain ⟨once_eq, once_name, -⟩ := normalizeOriginalFilename_ok first
  obtain ⟨twice_eq, twice_name, short⟩ := normalizeOriginalFilename_ok second
  obtain ⟨parts, all, shape⟩ := cleanFilename_words (u := u) filename
  have once_shape : once = Text.joinSpaces parts := once_eq.trans shape
  have some : parts ≠ [] := by
    rintro rfl
    rw [once_shape] at once_name
    simp [isSpecialName, Text.joinSpaces] at once_name
  have twice_shape : twice = Text.joinSpaces (parts.map u.nfc) := by
    rw [twice_eq, once_shape, cleanFilename_joinSpaces all some]
  have again : cleanFilename u twice = twice := by
    have composed : ∀ part ∈ parts.map u.nfc, u.Word part := by
      intro part member
      obtain ⟨word, inParts, rfl⟩ := List.mem_map.mp member
      exact (all word inParts).nfc
    rw [twice_shape, cleanFilename_joinSpaces composed (by simpa using some), List.map_map]
    congr 1
    apply List.map_congr_left
    intro part _
    exact Unicode.nfc_nfc part
  unfold SettledName normalizeOriginalFilename
  simp only [again]
  rw [if_neg (by simp [twice_name]), if_neg (by simpa [displayFilenameMaxLength] using short)]

/-- Loading a source reference again changes nothing. -/
theorem normalizeSourceReference_idem {raw normalized : Option Text}
    (first : normalizeSourceReference u raw = .ok normalized)
    : normalizeSourceReference u normalized = .ok normalized := by
  cases raw with
  | none =>
      simp only [normalizeSourceReference, Except.ok.injEq] at first
      subst first
      rfl
  | some text =>
      simp only [normalizeSourceReference] at first
      split at first
      · simp only [Except.ok.injEq] at first
        subst first
        rfl
      rename_i some
      split at first
      · contradiction
      rename_i short
      split at first
      · contradiction
      rename_i clean
      simp only [Except.ok.injEq] at first
      subst first
      have composed : u.nfc (u.strip (u.nfc text)) = u.strip (u.nfc text) :=
        u.nfc_infix text _ (Unicode.strip_infix _)
      simp only [normalizeSourceReference, composed, Unicode.strip_strip]
      rw [if_neg some, if_neg short, if_neg clean]

/-- The characters of one side of a media type. -/
theorem mem_isMediaToken {token : Text} (valid : isMediaToken token = true) {c : Char}
    (member : c ∈ token)
    : isAsciiUpper c = true ∨ isAsciiLower c = true ∨ isAsciiDigit c = true
      ∨ c ∈ "!#$&^_.+-/".toList := by
  cases token with
  | nil => cases member
  | cons first rest =>
      simp only [isMediaToken, isKeyEdge, Bool.and_eq_true, Bool.or_eq_true,
        List.all_eq_true] at valid
      rcases List.mem_cons.mp member with rfl | later
      · rcases valid.1 with (lower | digit) | upper
        · exact .inr (.inl lower)
        · exact .inr (.inr (.inl digit))
        · exact .inl upper
      · rcases valid.2 c later with ((lower | digit) | upper) | special
        · exact .inr (.inl lower)
        · exact .inr (.inr (.inl digit))
        · exact .inl upper
        · refine .inr (.inr (.inr ?_))
          have listed : c ∈ "!#$&^_.+-".toList := by simpa using special
          have longer : "!#$&^_.+-/".toList = "!#$&^_.+-".toList ++ ['/'] := by decide
          rw [longer]
          exact List.mem_append_left _ listed

/-- The characters of a media type. -/
theorem mem_isMediaType {text : Text} (valid : isMediaType text = true) {c : Char}
    (member : c ∈ text)
    : isAsciiUpper c = true ∨ isAsciiLower c = true ∨ isAsciiDigit c = true
      ∨ c ∈ "!#$&^_.+-/".toList := by
  simp only [isMediaType] at valid
  split at valid
  · rename_i major minor segments
    simp only [Bool.and_eq_true] at valid
    have place : c = '/' ∨ ∃ segment ∈ Text.splitOn '/' text, c ∈ segment :=
      Text.mem_splitOn_segment member
    rcases place with rfl | ⟨segment, inText, inSegment⟩
    · exact .inr (.inr (.inr (by decide)))
    · have either : segment = major ∨ segment = minor := by simpa [segments] using inText
      rcases either with rfl | rfl
      · exact mem_isMediaToken valid.1 inSegment
      · exact mem_isMediaToken valid.2 inSegment
  · contradiction

private theorem ascii_of_special {c : Char} (member : c ∈ "!#$&^_.+-/".toList)
    : c.val < 128 ∧ isAsciiUpper c = false := by
  have checked
      : "!#$&^_.+-/".toList.all (fun c => decide (c.val < 128 ∧ isAsciiUpper c = false))
        = true := by
    decide
  exact of_decide_eq_true (List.all_eq_true.mp checked c member)

theorem ascii_of_lower {c : Char} (lower : isAsciiLower c = true)
    : c.val < 128 ∧ isAsciiUpper c = false := by
  simp only [isAsciiLower, isAsciiUpper, Bool.and_eq_true, decide_eq_true_eq, Char.le_def,
    Bool.and_eq_false_iff, decide_eq_false_iff_not, UInt32.le_iff_toNat_le,
    UInt32.lt_iff_toNat_lt] at lower ⊢
  have first : 'a'.val.toNat = 97 := rfl
  have last : 'z'.val.toNat = 122 := rfl
  have top : 'Z'.val.toNat = 90 := rfl
  have bound : (128 : UInt32).toNat = 128 := rfl
  omega

theorem ascii_of_digit {c : Char} (digit : isAsciiDigit c = true)
    : c.val < 128 ∧ isAsciiUpper c = false := by
  simp only [isAsciiDigit, isAsciiUpper, Bool.and_eq_true, decide_eq_true_eq, Char.le_def,
    Bool.and_eq_false_iff, decide_eq_false_iff_not, UInt32.le_iff_toNat_le,
    UInt32.lt_iff_toNat_lt] at digit ⊢
  have last : '9'.val.toNat = 57 := rfl
  have first : 'A'.val.toNat = 65 := rfl
  have bound : (128 : UInt32).toNat = 128 := rfl
  omega

/-- Loading a media type again changes nothing.
Witness: a normalized one holds only visible ASCII characters other than capitals.
-/
theorem normalizeMediaType_idem {raw normalized : Text}
    (first : normalizeMediaType u raw = .ok normalized)
    : normalizeMediaType u normalized = .ok normalized := by
  simp only [normalizeMediaType] at first
  split at first
  swap
  · contradiction
  rename_i valid
  simp only [Except.ok.injEq] at first
  rw [first] at valid
  have plain
      : ∀ c ∈ normalized,
          isAsciiLower c = true ∨ isAsciiDigit c = true ∨ c ∈ "!#$&^_.+-/".toList := by
    intro c member
    rcases mem_isMediaType valid member with upper | other
    · have small := u.lower_noCapital (u.strip raw) c (first ▸ member)
      simp [small] at upper
    · exact other
  have stripped : u.strip normalized = normalized :=
    Unicode.strip_of_visible (fun c member => u.ascii_space c (plain c member))
  have lowered : u.lower normalized = normalized := by
    apply u.lower_ascii
    intro c member
    rcases plain c member with lower | digit | special
    · exact ascii_of_lower lower
    · exact ascii_of_digit digit
    · exact ascii_of_special special
  simp only [normalizeMediaType, stripped, lowered]
  rw [if_pos valid]

-----------------------------------------------------------------------------------------
-- Content hashes
-----------------------------------------------------------------------------------------

theorem isLowerHex_cases {c : Char} (hex : isLowerHex c = true)
    : isAsciiDigit c = true ∨ isAsciiLower c = true := by
  simp only [isLowerHex, isAsciiDigit, isAsciiLower, Bool.or_eq_true, Bool.and_eq_true,
    decide_eq_true_eq, Char.le_def, UInt32.le_iff_toNat_le] at hex ⊢
  have f : 'f'.val.toNat = 102 := rfl
  have z : 'z'.val.toNat = 122 := rfl
  omega

theorem ContentHash.hex (hash : ContentHash)
    : hash.value.length = 64 ∧ ∀ c ∈ hash.value, isLowerHex c = true := by
  have valid := hash.valid
  simpa [isSha256Hex] using valid

/-- Loading a content hash again changes nothing. -/
theorem ContentHash.parse_value (hash : ContentHash)
    : ContentHash.parse u hash.value = .ok hash := by
  have lowered : u.lower hash.value = hash.value := by
    apply u.lower_ascii
    intro c member
    rcases isLowerHex_cases (hash.hex.2 c member) with digit | lower
    · exact ascii_of_digit digit
    · exact ascii_of_lower lower
  simp only [ContentHash.parse, lowered]
  rw [dif_pos hash.valid]

theorem StorageObjectKey.parse_value (key : StorageObjectKey)
    : StorageObjectKey.parse key.value = .ok key := by
  simp only [StorageObjectKey.parse]
  rw [dif_pos key.valid]

theorem ContentHash.value_of_parse {text : Text} {hash : ContentHash}
    (parsed : ContentHash.parse u text = .ok hash)
    : hash.value = u.lower text := by
  simp only [ContentHash.parse] at parsed
  split at parsed
  · cases parsed
    rfl
  · cases parsed

theorem StorageObjectKey.value_of_parse {text : Text} {key : StorageObjectKey}
    (parsed : StorageObjectKey.parse text = .ok key)
    : key.value = text := by
  simp only [StorageObjectKey.parse] at parsed
  split at parsed
  · cases parsed
    rfl
  · split at parsed
    · cases parsed
    · split at parsed <;> cases parsed

end WorkflowForge
