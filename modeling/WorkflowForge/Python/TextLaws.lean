import Mathlib.Data.List.TakeWhile
import WorkflowForge.Python.Text

/-! Laws of the text operations.
Normalized names are words joined by single spaces; every step of the normalization
pipeline acts on such a text word by word.
-/

namespace Python

namespace Text

theorem joinSpaces_cons_cons (first second : Text) (rest : List Text)
    : joinSpaces (first :: second :: rest) = first ++ ' ' :: joinSpaces (second :: rest) :=
  rfl

/-- The characters of joined parts come from the parts, or are separating spaces. -/
theorem mem_joinSpaces {parts : List Text} {c : Char} (member : c ∈ joinSpaces parts)
    : c = ' ' ∨ ∃ part ∈ parts, c ∈ part := by
  induction parts with
  | nil => simp [joinSpaces] at member
  | cons first rest ih =>
      cases rest with
      | nil => exact .inr ⟨first, by simp, member⟩
      | cons second more =>
          rw [joinSpaces_cons_cons, List.mem_append, List.mem_cons] at member
          rcases member with inFirst | rfl | later
          · exact .inr ⟨first, by simp, inFirst⟩
          · exact .inl rfl
          · rcases ih later with space | ⟨part, inRest, inPart⟩
            · exact .inl space
            · exact .inr ⟨part, by simp [inRest], inPart⟩

/-- A text without the separator is its own last segment. -/
theorem afterLast_of_notMem {text : Text} {separator : Char} (absent : separator ∉ text)
    : text.afterLast separator = text := by
  have whole : text.reverse.takeWhile (· != separator) = text.reverse := by
    rw [List.takeWhile_eq_self_iff]
    intro c member
    have inText : c ∈ text := List.mem_reverse.mp member
    simp only [bne_iff_ne, ne_eq]
    rintro rfl
    exact absent inText
  simp [afterLast, whole]

/-- What follows a separator is the last segment, when it holds no other. -/
theorem afterLast_append {separator : Char} {segment : Text} (absent : separator ∉ segment)
    (before : Text)
    : (before ++ separator :: segment).afterLast separator = segment := by
  have quiet : ∀ c ∈ segment.reverse, (c != separator) = true := by
    intro c member
    have inSegment : c ∈ segment := List.mem_reverse.mp member
    simp only [bne_iff_ne, ne_eq]
    rintro rfl
    exact absent inSegment
  unfold afterLast
  rw [List.reverse_append, List.reverse_cons, List.append_assoc,
    List.takeWhile_append_of_pos quiet]
  simp

/-- A text splits at its last separator in one way. -/
theorem append_separator_inj {separator : Char} {before before' segment segment' : Text}
    (absent : separator ∉ segment) (absent' : separator ∉ segment')
    (same : before ++ separator :: segment = before' ++ separator :: segment')
    : before = before' ∧ segment = segment' := by
  have last := afterLast_append absent before
  rw [same, afterLast_append absent'] at last
  subst last
  exact ⟨List.append_cancel_right same, rfl⟩

/-- The last segment does not hold the separator, and its characters come from the text. -/
theorem mem_afterLast {text : Text} {separator c : Char}
    (member : c ∈ text.afterLast separator)
    : c ∈ text ∧ c ≠ separator := by
  simp only [afterLast, List.mem_reverse] at member
  constructor
  · exact List.mem_reverse.mp ((List.takeWhile_sublist _).subset member)
  · simpa using List.mem_takeWhile_imp member

theorem replaceChar_of_notMem {text : Text} {old new : Char} (absent : old ∉ text)
    : text.replaceChar old new = text := by
  unfold replaceChar
  conv_rhs => rw [← List.map_id text]
  apply List.map_congr_left
  intro c member
  rw [if_neg]
  · rfl
  · rintro rfl
    exact absent member

theorem notMem_replaceChar {text : Text} {old new : Char} (different : new ≠ old)
    : old ∉ text.replaceChar old new := by
  simp only [replaceChar, List.mem_map, not_exists, not_and]
  intro c _
  split
  · exact different
  · assumption

theorem splitWhere_ne_nil (separates : Char → Bool) (text : Text)
    : splitWhere separates text ≠ [] := by
  induction text with
  | nil => simp [splitWhere]
  | cons c rest ih =>
      simp only [splitWhere]
      split
      · simp
      · split <;> simp

/-- Segments hold characters of the text that do not separate. -/
theorem mem_splitWhere {separates : Char → Bool} {text segment : Text}
    (member : segment ∈ splitWhere separates text)
    : ∀ c ∈ segment, c ∈ text ∧ separates c = false := by
  induction text generalizing segment with
  | nil =>
      simp only [splitWhere, List.mem_singleton] at member
      simp [member]
  | cons c rest ih =>
      have later
          : ∀ other ∈ splitWhere separates rest,
              ∀ d ∈ other, d ∈ c :: rest ∧ separates d = false := by
        intro other inRest d inOther
        obtain ⟨inText, quiet⟩ := ih inRest d inOther
        exact ⟨List.mem_cons_of_mem _ inText, quiet⟩
      simp only [splitWhere] at member
      split at member
      · rcases List.mem_cons.mp member with rfl | inRest
        · simp
        · exact later segment inRest
      · rename_i quiet
        split at member
        · rename_i empty
          exact absurd empty (splitWhere_ne_nil _ _)
        · rename_i head tail segments
          rcases List.mem_cons.mp member with rfl | inTail
          · intro d inSegment
            rcases List.mem_cons.mp inSegment with rfl | inHead
            · exact ⟨List.mem_cons_self, by simpa using quiet⟩
            · exact later head (by simp [segments]) d inHead
          · exact later segment (by simp [segments, inTail])

/-- Every character separates or lies in a segment. -/
theorem mem_segment (separates : Char → Bool) {text : Text} {c : Char} (member : c ∈ text)
    : separates c = true ∨ ∃ segment ∈ splitWhere separates text, c ∈ segment := by
  induction text with
  | nil => cases member
  | cons d rest ih =>
      simp only [splitWhere]
      split
      · rename_i border
        rcases List.mem_cons.mp member with rfl | later
        · exact .inl border
        · rcases ih later with separator | ⟨segment, inRest, inSegment⟩
          · exact .inl separator
          · exact .inr ⟨segment, List.mem_cons_of_mem _ inRest, inSegment⟩
      · split
        · rename_i empty
          exact absurd empty (splitWhere_ne_nil _ _)
        · rename_i head tail segments
          rw [segments] at ih
          rcases List.mem_cons.mp member with rfl | later
          · exact .inr ⟨_, List.mem_cons_self, List.mem_cons_self⟩
          · rcases ih later with separator | ⟨segment, inRest, inSegment⟩
            · exact .inl separator
            · rcases List.mem_cons.mp inRest with rfl | inTail
              · exact .inr ⟨_, List.mem_cons_self, List.mem_cons_of_mem _ inSegment⟩
              · exact .inr ⟨segment, List.mem_cons_of_mem _ inTail, inSegment⟩

/-- Splitting off a first segment in which nothing separates. -/
theorem splitWhere_append {separates : Char → Bool} {segment : Text} {c : Char}
    (quiet : ∀ d ∈ segment, separates d = false) (border : separates c = true) (rest : Text)
    : splitWhere separates (segment ++ c :: rest)
      = segment :: splitWhere separates rest := by
  induction segment with
  | nil => simp [splitWhere, border]
  | cons d more ih =>
      have inner := ih (fun e member => quiet e (List.mem_cons_of_mem _ member))
      simp [splitWhere, quiet d List.mem_cons_self, inner]

theorem splitWhere_of_quiet {separates : Char → Bool} {text : Text}
    (quiet : ∀ d ∈ text, separates d = false)
    : splitWhere separates text = [text] := by
  induction text with
  | nil => rfl
  | cons d more ih =>
      have inner := ih (fun e member => quiet e (List.mem_cons_of_mem _ member))
      simp [splitWhere, quiet d List.mem_cons_self, inner]

/-- A text without separators, or its first segment, the character after it and the rest. -/
theorem exists_first_separated (separates : Char → Bool) (text : Text)
    : (∀ c ∈ text, separates c = false)
      ∨ ∃ segment c rest,
          (∀ d ∈ segment, separates d = false)
          ∧ separates c = true
          ∧ text = segment ++ c :: rest := by
  induction text with
  | nil => exact .inl (by simp)
  | cons c rest ih =>
      by_cases border : separates c = true
      · exact .inr ⟨[], c, rest, by simp, border, rfl⟩
      · rw [Bool.not_eq_true] at border
        rcases ih with quiet | ⟨segment, d, later, quiet, found, rfl⟩
        · exact .inl (List.forall_mem_cons.mpr ⟨border, quiet⟩)
        · exact .inr ⟨c :: segment, d, later, List.forall_mem_cons.mpr ⟨border, quiet⟩, found, rfl⟩

/-- A segment is a part of the text. -/
theorem infix_of_mem_splitWhere {separates : Char → Bool} {text segment : Text}
    (member : segment ∈ splitWhere separates text)
    : segment <:+: text := by
  induction length : text.length using Nat.strong_induction_on generalizing text with
  | _ n ih =>
      rcases exists_first_separated separates text with
        quiet | ⟨first, c, rest, quiet, border, rfl⟩
      · rw [splitWhere_of_quiet quiet, List.mem_singleton] at member
        rw [member]
      rw [splitWhere_append quiet border, List.mem_cons] at member
      rcases member with rfl | later
      · exact (List.prefix_append segment (c :: rest)).isInfix
      · have shorter : rest.length < n := by
          rw [← length, List.length_append, List.length_cons]
          omega
        refine (ih rest.length shorter later rfl).trans ?_
        exact ((List.suffix_cons c rest).trans (List.suffix_append first (c :: rest))).isInfix

theorem mem_splitOn_segment {separator : Char} {text : Text} {c : Char} (member : c ∈ text)
    : c = separator ∨ ∃ segment ∈ splitOn separator text, c ∈ segment := by
  simpa [splitOn] using mem_segment (· == separator) member

theorem splitOn_append {separator : Char} {segment : Text} (absent : separator ∉ segment)
    (rest : Text)
    : splitOn separator (segment ++ separator :: rest)
      = segment :: splitOn separator rest := by
  apply splitWhere_append _ (by simp)
  intro d member
  simp only [beq_eq_false_iff_ne, ne_eq]
  rintro rfl
  exact absent member

theorem splitOn_of_notMem {separator : Char} {text : Text} (absent : separator ∉ text)
    : splitOn separator text = [text] := by
  apply splitWhere_of_quiet
  intro d member
  simp only [beq_eq_false_iff_ne, ne_eq]
  rintro rfl
  exact absent member

/-- Splitting at any separator. By induction on what stands before it. -/
theorem splitWhere_append_separator {separates : Char → Bool} {c : Char}
    (border : separates c = true) (before after : Text)
    : splitWhere separates (before ++ c :: after)
      = splitWhere separates before ++ splitWhere separates after := by
  induction before with
  | nil => simp [splitWhere, border]
  | cons d rest ih =>
      simp only [List.cons_append, splitWhere]
      split
      · rw [ih, List.cons_append]
      · rw [ih]
        split
        · rename_i empty
          exact absurd (List.append_eq_nil_iff.mp empty).1 (splitWhere_ne_nil _ _)
        · rename_i head tail segments
          cases shape : splitWhere separates rest with
          | nil => exact absurd shape (splitWhere_ne_nil _ _)
          | cons first others =>
              rw [shape, List.cons_append] at segments
              obtain ⟨rfl, rfl⟩ := List.cons.inj segments
              rfl

theorem splitOn_append_separator (separator : Char) (before after : Text)
    : splitOn separator (before ++ separator :: after)
      = splitOn separator before ++ splitOn separator after := by
  unfold splitOn
  exact splitWhere_append_separator (by simp) before after

/-- A text without the separator, or its first segment and the rest. -/
theorem exists_first_segment (separator : Char) (text : Text)
    : separator ∉ text
      ∨ ∃ segment rest, separator ∉ segment ∧ text = segment ++ separator :: rest := by
  by_cases member : separator ∈ text
  · obtain ⟨segment, rest, shape, absent⟩ := List.eq_append_cons_of_mem member
    exact .inr ⟨segment, rest, absent, shape⟩
  · exact .inl member

/-- Where a segment stands: alone, first, between two others, or last. -/
theorem mem_splitOn_iff {separator : Char} {segment : Text} (absent : separator ∉ segment)
    (text : Text)
    : segment ∈ splitOn separator text
      ↔ text = segment
        ∨ segment ++ [separator] <+: text
        ∨ separator :: segment ++ [separator] <:+: text
        ∨ separator :: segment <:+ text := by
  constructor
  · intro member
    induction length : text.length using Nat.strong_induction_on generalizing text with
    | _ n ih =>
        rcases exists_first_segment separator text with whole | ⟨first, rest, border, rfl⟩
        · rw [splitOn_of_notMem whole, List.mem_singleton] at member
          exact .inl member.symm
        rw [splitOn_append border, List.mem_cons] at member
        rcases member with rfl | later
        · exact .inr (.inl ⟨rest, by simp⟩)
        have shorter : rest.length < n := by
          rw [← length, List.length_append, List.length_cons]
          omega
        have suffix : separator :: rest <:+ first ++ separator :: rest := List.suffix_append ..
        rcases ih rest.length shorter rest later rfl with rfl | before | between | last
        · exact .inr (.inr (.inr suffix))
        · refine .inr (.inr (.inl (List.IsInfix.trans ?_ suffix.isInfix)))
          exact (List.prefix_cons_inj separator).mpr before |>.isInfix
        · refine .inr (.inr (.inl (between.trans ?_)))
          exact ((List.suffix_cons separator rest).trans suffix).isInfix
        · exact .inr (.inr (.inr (last.trans ((List.suffix_cons separator rest).trans suffix))))
  · rintro (rfl | ⟨rest, rfl⟩ | ⟨before, rest, rfl⟩ | ⟨before, rfl⟩)
    · rw [splitOn_of_notMem absent]
      exact List.mem_singleton_self _
    · rw [List.append_assoc, List.singleton_append, splitOn_append absent]
      exact List.mem_cons_self
    · have shape : before ++ (separator :: segment ++ [separator]) ++ rest
          = before ++ separator :: (segment ++ separator :: rest) := by simp
      rw [shape, splitOn_append_separator, splitOn_append absent]
      exact List.mem_append_right _ List.mem_cons_self
    · rw [splitOn_append_separator, splitOn_of_notMem absent]
      exact List.mem_append_right _ (List.mem_singleton_self _)

/-- Two adjacent separators leave an empty segment after the first one. -/
theorem nil_mem_splitOn (separator : Char) (before after : Text)
    : [] ∈ (splitOn separator (before ++ separator :: separator :: after)).tail := by
  unfold splitOn
  induction before with
  | nil => simp [splitWhere]
  | cons c rest ih =>
      simp only [List.cons_append, splitWhere]
      split
      · exact List.mem_of_mem_tail ih
      · split
        · rename_i empty
          exact absurd empty (splitWhere_ne_nil _ _)
        · rename_i head tail segments
          rw [segments] at ih
          exact ih

theorem contains_iff {text part : Text} : text.contains part = true ↔ part <:+: text := by
  simp [contains, List.infix_iff_prefix_suffix, and_comm]

end Text

namespace Unicode

variable (u : Unicode)

/-- A word: not empty, and without white space, control characters or slashes. -/
structure Word (word : Text) : Prop where
  ne_nil : word ≠ []
  visible : ∀ c ∈ word, u.isSpace c = false ∧ u.isControl c = false ∧ c ≠ '/' ∧ c ≠ '\\'

/-- A run without white space. -/
structure Solid (word : Text) : Prop where
  ne_nil : word ≠ []
  visible : ∀ c ∈ word, u.isSpace c = false

variable {u}

theorem Word.solid {word : Text} (isWord : u.Word word) : u.Solid word :=
  ⟨isWord.ne_nil, fun c member => (isWord.visible c member).1⟩

theorem Word.nfc {word : Text} (isWord : u.Word word) : u.Word (u.nfc word) :=
  ⟨u.nfc_ne_nil word isWord.ne_nil, u.nfc_visible word isWord.visible⟩

theorem nfc_nfc (text : Text) : u.nfc (u.nfc text) = u.nfc text :=
  u.nfc_infix text (u.nfc text) List.infix_rfl

/-- A space is a normalization boundary. -/
theorem nfc_space (left right : Text)
    : u.nfc (left ++ ' ' :: right) = u.nfc left ++ ' ' :: u.nfc right := by
  rw [u.nfc_border ' ' (.inl u.space_isSpace), u.nfc_fixed ' ' (.inl rfl), List.append_assoc]
  rfl

theorem nfc_nil : u.nfc [] = [] := u.nfc_infix [] [] List.nil_infix

/-- The characters that none composes across. -/
def isBorder (u : Unicode) (c : Char) : Bool :=
  u.isSpace c || u.isControl c || c == '/' || c == '\\'

theorem isBorder_iff {c : Char}
    : u.isBorder c = true
      ↔ u.isSpace c = true ∨ u.isControl c = true ∨ c = '/' ∨ c = '\\' := by
  simp [isBorder, or_assoc]

/-- Composition makes no border out of other characters. -/
theorem nfc_quiet {text : Text} (quiet : ∀ c ∈ text, u.isBorder c = false)
    : ∀ c ∈ u.nfc text, u.isBorder c = false := by
  simp only [isBorder, Bool.or_eq_false_iff, beq_eq_false_iff_ne, and_assoc] at quiet ⊢
  exact u.nfc_visible text quiet

/-- A kind of borders that a text does not hold, and that no border of another kind stands for,
does not come in by composition. -/
theorem nfc_lacks {kind : Char → Bool} (borders : ∀ c, kind c = true → u.isBorder c = true)
    (single
      : ∀ c, u.isBorder c = true → kind c = false → ∀ d ∈ u.nfc [c], kind d = false)
    {text : Text} (lacks : ∀ c ∈ text, kind c = false)
    : ∀ c ∈ u.nfc text, kind c = false := by
  have visible {part : Text} (quiet : ∀ c ∈ part, u.isBorder c = false)
      : ∀ c ∈ u.nfc part, kind c = false := by
    intro c member
    by_contra found
    rw [Bool.not_eq_false] at found
    exact absurd ((nfc_quiet quiet c member).symm.trans (borders c found)) (by decide)
  induction length : text.length using Nat.strong_induction_on generalizing text with
  | _ n ih =>
      rcases Text.exists_first_separated u.isBorder text with
        quiet | ⟨segment, d, rest, quiet, border, rfl⟩
      · exact visible quiet
      intro c member
      rw [u.nfc_border d (isBorder_iff.mp border), List.mem_append, List.mem_append] at member
      rcases member with (before | here) | after
      · exact visible quiet c before
      · exact single d border (lacks d (by simp)) c here
      · have shorter : rest.length < n := by
          rw [← length, List.length_append, List.length_cons]
          omega
        exact ih rest.length shorter (fun e inRest => lacks e (by simp [inRest])) rfl c after

/-- A border by itself is composed, or a space that stands for another one. -/
theorem mem_nfc_border {c d : Char} (border : u.isBorder c = true) (member : d ∈ u.nfc [c])
    : d = c
      ∨ u.isSpace c = true ∧ u.isControl d = u.isControl c ∧ d ≠ '/' ∧ d ≠ '\\' := by
  rcases isBorder_iff.mp border with space | fixed
  · obtain ⟨e, same, -, kept⟩ := u.nfc_blank c space
    rw [same, List.mem_singleton] at member
    exact .inr ⟨space, member ▸ kept⟩
  · rw [u.nfc_fixed c (.inr fixed), List.mem_singleton] at member
    exact .inl member

theorem nfc_noControl {text : Text} (lacks : ∀ c ∈ text, u.isControl c = false)
    : ∀ c ∈ u.nfc text, u.isControl c = false := by
  refine nfc_lacks (fun c control => isBorder_iff.mpr (.inr (.inl control))) ?_ lacks
  intro c border quiet d member
  rcases mem_nfc_border border member with rfl | ⟨-, same, -⟩
  · exact quiet
  · exact same.trans quiet

theorem nfc_noSlash {slash : Char} (isSlash : slash = '/' ∨ slash = '\\') {text : Text}
    (absent : slash ∉ text)
    : slash ∉ u.nfc text := by
  have lacks : ∀ c ∈ u.nfc text, (c == slash) = false := by
    refine nfc_lacks ?_ ?_ (fun c member => ?_)
    · intro c same
      rw [beq_iff_eq] at same
      exact isBorder_iff.mpr (.inr (.inr (same ▸ isSlash)))
    · intro c border other d member
      rw [beq_eq_false_iff_ne] at other ⊢
      rcases mem_nfc_border border member with rfl | ⟨-, -, first, second⟩
      · exact other
      · rcases isSlash with rfl | rfl
        · exact first
        · exact second
    · rw [beq_eq_false_iff_ne]
      exact fun same => absent (same ▸ member)
  exact fun member => absurd (lacks slash member) (by simp)

theorem dropControls_append (left right : Text)
    : u.dropControls (left ++ right) = u.dropControls left ++ u.dropControls right :=
  List.filter_append left right

/-- Characters that are dropped are no part of what is composed around them. -/
theorem dropControls_nfc (text : Text)
    : u.dropControls (u.nfc text) = ((text.splitWhere u.isControl).map u.nfc).flatten := by
  have kept {part : Text} (quiet : ∀ c ∈ part, u.isControl c = false)
      : u.dropControls (u.nfc part) = u.nfc part :=
    List.filter_eq_self.mpr (fun c member => by simp [nfc_noControl quiet c member])
  induction length : text.length using Nat.strong_induction_on generalizing text with
  | _ n ih =>
      rcases Text.exists_first_separated u.isControl text with
        quiet | ⟨segment, c, rest, quiet, control, rfl⟩
      · rw [kept quiet, Text.splitWhere_of_quiet quiet]
        simp
      · have shorter : rest.length < n := by
          rw [← length, List.length_append, List.length_cons]
          omega
        have later := ih rest.length shorter rest rfl
        have dropped : u.dropControls [c] = [] := by simp [dropControls, control]
        rw [u.nfc_border c (.inr (.inl control)), u.nfc_fixed c (.inr (.inl control)),
          Text.splitWhere_append quiet control, List.map_cons, List.flatten_cons, ← later,
          ← kept quiet]
        simp only [dropControls, List.filter_append] at dropped ⊢
        simp [dropped, List.filter_filter]

theorem nfc_joinSpaces (parts : List Text) (some : parts ≠ [])
    : u.nfc (Text.joinSpaces parts) = Text.joinSpaces (parts.map u.nfc) := by
  induction parts with
  | nil => contradiction
  | cons first rest ih =>
      cases rest with
      | nil => rfl
      | cons second more =>
          rw [Text.joinSpaces_cons_cons, nfc_space, ih (by simp)]
          rfl

/-- Words hold characters of the text other than white space. -/
theorem mem_words {text word : Text} (member : word ∈ u.words text)
    : word ≠ [] ∧ ∀ c ∈ word, c ∈ text ∧ u.isSpace c = false := by
  obtain ⟨segment, some⟩ := List.mem_filter.mp member
  exact ⟨by simpa using some, Text.mem_splitWhere segment⟩

theorem solid_words (text : Text) : ∀ word ∈ u.words text, u.Solid word := by
  intro word member
  obtain ⟨some, visible⟩ := mem_words member
  exact ⟨some, fun c inWord => (visible c inWord).2⟩

theorem infix_of_mem_words {text word : Text} (member : word ∈ u.words text) : word <:+: text :=
  Text.infix_of_mem_splitWhere (List.mem_filter.mp member).1

/-- The words before and after white space are apart. -/
theorem words_append_space {c : Char} (space : u.isSpace c = true) (left right : Text)
    : u.words (left ++ c :: right) = u.words left ++ u.words right := by
  unfold words
  rw [Text.splitWhere_append_separator space, List.filter_append]

theorem words_of_spaces {text : Text} (spaces : ∀ c ∈ text, u.isSpace c = true)
    : u.words text = [] := by
  induction text with
  | nil => rfl
  | cons c rest ih =>
      obtain ⟨space, later⟩ := List.forall_mem_cons.mp spaces
      exact (words_append_space space [] rest).trans (ih later)

theorem words_spaces_append {spaces : Text} (all : ∀ c ∈ spaces, u.isSpace c = true)
    (text : Text)
    : u.words (spaces ++ text) = u.words text := by
  induction spaces with
  | nil => rfl
  | cons c rest ih =>
      obtain ⟨space, later⟩ := List.forall_mem_cons.mp all
      exact (words_append_space space [] (rest ++ text)).trans (ih later)

theorem words_append_spaces {spaces : Text} (all : ∀ c ∈ spaces, u.isSpace c = true)
    (text : Text)
    : u.words (text ++ spaces) = u.words text := by
  cases spaces with
  | nil => rw [List.append_nil]
  | cons c rest =>
      obtain ⟨space, later⟩ := List.forall_mem_cons.mp all
      rw [words_append_space space, words_of_spaces later, List.append_nil]

/-- Stripping takes white space off both ends. -/
theorem exists_strip (text : Text)
    : ∃ front back,
        (∀ c ∈ front, u.isSpace c = true)
        ∧ (∀ c ∈ back, u.isSpace c = true)
        ∧ text = front ++ u.strip text ++ back := by
  let rest := text.dropWhile u.isSpace
  refine ⟨text.takeWhile u.isSpace, (rest.reverse.takeWhile u.isSpace).reverse, ?_, ?_, ?_⟩
  · exact fun c member => List.mem_takeWhile_imp member
  · exact fun c member => List.mem_takeWhile_imp (List.mem_reverse.mp member)
  · have back : (rest.reverse.dropWhile u.isSpace).reverse
        ++ (rest.reverse.takeWhile u.isSpace).reverse = rest := by
      rw [← List.reverse_append, List.takeWhile_append_dropWhile, List.reverse_reverse]
    rw [List.append_assoc]
    exact ((congrArg (text.takeWhile u.isSpace ++ ·) back).trans
      List.takeWhile_append_dropWhile).symm

/-- White space at the ends is in no word, before and after the removal of other characters. -/
theorem words_dropControls_strip (text : Text)
    : u.words (u.dropControls (u.strip text)) = u.words (u.dropControls text) := by
  obtain ⟨front, back, before, behind, whole⟩ := u.exists_strip text
  have kept {spaces : Text} (all : ∀ c ∈ spaces, u.isSpace c = true)
      : ∀ c ∈ u.dropControls spaces, u.isSpace c = true :=
    fun c member => all c (List.mem_of_mem_filter member)
  have parts : u.dropControls text
      = u.dropControls front ++ u.dropControls (u.strip text) ++ u.dropControls back := by
    rw [← dropControls_append, ← dropControls_append, ← whole]
  rw [parts, words_append_spaces (kept behind), words_spaces_append (kept before)]

/-- A text of words and composed spaces is composed when its words are. -/
theorem nfc_eq_self_iff {text : Text} (spaces : ∀ c ∈ text, u.isSpace c = true → u.nfc [c] = [c])
    : u.nfc text = text ↔ ∀ word ∈ u.words text, u.nfc word = word := by
  constructor
  · intro composed word member
    exact u.nfc_infix text word (composed.symm ▸ infix_of_mem_words member)
  · intro composed
    induction length : text.length using Nat.strong_induction_on generalizing text with
    | _ n ih =>
        rcases Text.exists_first_separated u.isSpace text with
          quiet | ⟨segment, c, rest, quiet, space, rfl⟩
        · by_cases some : text = []
          · rw [some, nfc_nil]
          · exact composed text (by simp [words, Text.splitWhere_of_quiet quiet, some])
        · have shorter : rest.length < n := by
            rw [← length, List.length_append, List.length_cons]
            omega
          have first : u.nfc segment = segment := by
            by_cases some : segment = []
            · rw [some, nfc_nil]
            · refine composed segment ?_
              rw [words_append_space space]
              exact List.mem_append_left _ (by simp [words, Text.splitWhere_of_quiet quiet, some])
          have later : u.nfc rest = rest := by
            refine ih rest.length shorter (fun d member => spaces d (by simp [member])) ?_ rfl
            intro word member
            refine composed word ?_
            rw [words_append_space space]
            exact List.mem_append_right _ member
          rw [u.nfc_border c (.inl space), first, spaces c (by simp) space, later,
            List.append_assoc]
          rfl

/-- Joining words with spaces and splitting at white space gives the words back. -/
theorem words_joinSpaces {parts : List Text} (all : ∀ part ∈ parts, u.Solid part)
    : u.words (Text.joinSpaces parts) = parts := by
  induction parts with
  | nil => simp [words, Text.joinSpaces, Text.splitWhere]
  | cons first rest ih =>
      have isSolid := all first (by simp)
      cases rest with
      | nil =>
          simp [words, Text.joinSpaces, Text.splitWhere_of_quiet isSolid.visible, isSolid.ne_nil]
      | cons second more =>
          have inner := ih (fun part member => all part (by simp [member]))
          rw [Text.joinSpaces_cons_cons]
          unfold words at inner ⊢
          rw [Text.splitWhere_append isSolid.visible u.space_isSpace,
            List.filter_cons_of_pos (by simpa using isSolid.ne_nil), inner]

theorem dropWhile_of_head {text : Text} (visible : ∀ c, text.head? = some c → u.isSpace c = false)
    : text.dropWhile u.isSpace = text := by
  cases text with
  | nil => rfl
  | cons c rest => simp [visible c rfl]

/-- Stripping changes nothing when both ends are visible. -/
theorem strip_of_ends {text : Text}
    (start : ∀ c, text.head? = some c → u.isSpace c = false)
    (finish : ∀ c, text.getLast? = some c → u.isSpace c = false)
    : u.strip text = text := by
  unfold strip
  rw [dropWhile_of_head start, dropWhile_of_head (by simpa using finish), List.reverse_reverse]

theorem strip_of_visible {text : Text} (visible : ∀ c ∈ text, u.isSpace c = false)
    : u.strip text = text :=
  strip_of_ends (fun c found => visible c (List.mem_of_head? found))
    (fun c found => visible c (List.mem_of_getLast? found))

theorem strip_infix (text : Text) : u.strip text <:+: text := by
  unfold strip
  have front := List.dropWhile_suffix u.isSpace (l := text)
  have back := List.dropWhile_suffix u.isSpace (l := (text.dropWhile u.isSpace).reverse)
  have back' := List.reverse_prefix.mpr back
  rw [List.reverse_reverse] at back'
  exact back'.isInfix.trans front.isInfix

theorem head?_dropWhile {text : Text} {c : Char}
    (found : (text.dropWhile u.isSpace).head? = some c)
    : u.isSpace c = false := by
  induction text with
  | nil => simp at found
  | cons d rest ih =>
      by_cases space : u.isSpace d = true
      · rw [List.dropWhile_cons_of_pos space] at found
        exact ih found
      · rw [List.dropWhile_cons_of_neg space] at found
        simp only [List.head?_cons, Option.some.injEq] at found
        subst found
        simpa using space

/-- Stripping twice is stripping once: both ends of a stripped text are visible. -/
theorem strip_strip (text : Text) : u.strip (u.strip text) = u.strip text := by
  apply strip_of_ends
  · intro c found
    have front : u.strip text <+: text.dropWhile u.isSpace := by
      have back := List.reverse_prefix.mpr
        (List.dropWhile_suffix u.isSpace (l := (text.dropWhile u.isSpace).reverse))
      rwa [List.reverse_reverse] at back
    obtain ⟨rest, same⟩ := front
    have head : (text.dropWhile u.isSpace).head? = some c := by
      rw [← same]
      simp [List.head?_append, found]
    exact head?_dropWhile head
  · intro c found
    unfold strip at found
    rw [List.getLast?_reverse] at found
    exact head?_dropWhile found

theorem head?_joinSpaces {parts : List Text} (all : ∀ part ∈ parts, u.Solid part) {c : Char}
    (found : (Text.joinSpaces parts).head? = some c)
    : u.isSpace c = false := by
  cases parts with
  | nil => simp [Text.joinSpaces] at found
  | cons first rest =>
      have isSolid := all first (by simp)
      obtain ⟨d, more, rfl⟩ := List.exists_cons_of_ne_nil isSolid.ne_nil
      have here : c = d := by
        cases rest <;> simp_all [Text.joinSpaces]
      exact here ▸ isSolid.visible d List.mem_cons_self

theorem getLast?_joinSpaces {parts : List Text} (all : ∀ part ∈ parts, u.Solid part) {c : Char}
    (found : (Text.joinSpaces parts).getLast? = some c)
    : u.isSpace c = false := by
  induction parts with
  | nil => simp [Text.joinSpaces] at found
  | cons first rest ih =>
      cases rest with
      | nil => exact (all first (by simp)).visible c (List.mem_of_getLast? found)
      | cons second more =>
          rw [Text.joinSpaces_cons_cons, List.getLast?_append] at found
          have tail : (Text.joinSpaces (second :: more)).getLast? = some c := by
            have some : Text.joinSpaces (second :: more) ≠ [] := by
              have isSolid := all second (by simp)
              obtain ⟨d, rest, rfl⟩ := List.exists_cons_of_ne_nil isSolid.ne_nil
              cases more <;> simp [Text.joinSpaces]
            rw [List.getLast?_cons] at found
            obtain ⟨last, same⟩ := Option.isSome_iff_exists.mp (List.getLast?_isSome.mpr some)
            simpa [same] using found
          exact ih (fun part member => all part (by simp [member])) tail

theorem strip_joinSpaces {parts : List Text} (all : ∀ part ∈ parts, u.Solid part)
    : u.strip (Text.joinSpaces parts) = Text.joinSpaces parts :=
  strip_of_ends (fun _ => head?_joinSpaces all) (fun _ => getLast?_joinSpaces all)

/-- A collapsed text is stripped, and collapsing it again changes nothing. -/
theorem strip_collapse (text : Text) : u.strip (u.collapse text) = u.collapse text :=
  strip_joinSpaces (solid_words text)

theorem collapse_collapse (text : Text) : u.collapse (u.collapse text) = u.collapse text := by
  unfold collapse
  rw [words_joinSpaces (solid_words text)]

/-- On joined words every step of the name pipeline is the identity or acts word by word. -/
theorem collapse_joinSpaces {parts : List Text} (all : ∀ part ∈ parts, u.Word part)
    : u.collapse (u.dropControls (u.strip (Text.joinSpaces parts))) = Text.joinSpaces parts := by
  have solid : ∀ part ∈ parts, u.Solid part := fun part member => (all part member).solid
  have kept : u.dropControls (Text.joinSpaces parts) = Text.joinSpaces parts := by
    apply List.filter_eq_self.mpr
    intro c member
    rcases Text.mem_joinSpaces member with rfl | ⟨part, inParts, inPart⟩
    · simp [u.space_notControl]
    · simp [((all part inParts).visible c inPart).2.1]
  rw [strip_joinSpaces solid, kept, collapse, words_joinSpaces solid]

end Unicode

end Python
