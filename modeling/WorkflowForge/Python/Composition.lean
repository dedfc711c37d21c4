import WorkflowForge.Python.Ascii

/-! A Unicode database with one canonical composition, and one format character. -/

namespace Python

/-- COMBINING ACUTE ACCENT. -/
def acute : Char := '\u0301'

/-- SOFT HYPHEN, of category Cf. -/
def softHyphen : Char := '\u00ad'

/-- Compose `e` with the accent that follows it. -/
def composeAcute : Text → Text
  | [] => []
  | [c] => [c]
  | c :: d :: rest =>
      if c = 'e' ∧ d = acute then '\u00e9' :: composeAcute rest
      else c :: composeAcute (d :: rest)

theorem composeAcute_cons {c d : Char} {rest : Text} (apart : ¬ (c = 'e' ∧ d = acute))
    : composeAcute (c :: d :: rest) = c :: composeAcute (d :: rest) := by
  rw [composeAcute, if_neg apart]

/-- A composed text starts with an accent only if the text does. -/
theorem head?_composeAcute {text : Text} (found : (composeAcute text).head? = some acute)
    : text.head? = some acute := by
  fun_cases composeAcute text with
  | case1 => cases found
  | case2 c => simpa [composeAcute] using found
  | case3 c d rest both =>
      rw [composeAcute, if_pos both, List.head?_cons] at found
      exact absurd (Option.some.inj found) (by decide)
  | case4 c d rest apart =>
      rw [composeAcute_cons apart] at found
      simpa using found

theorem composeAcute_ne_nil {text : Text} (some : text ≠ []) : composeAcute text ≠ [] := by
  fun_cases composeAcute text with
  | case1 => exact absurd rfl some
  | case2 c => simp
  | case3 c d rest both => simp
  | case4 c d rest apart => simp

/-- No `e` is followed by an accent. -/
def Composed (text : Text) : Prop := ¬ ['e', acute] <:+: text

theorem composed_composeAcute (text : Text) : Composed (composeAcute text) := by
  induction text using composeAcute.induct with
  | case1 => simp [Composed, composeAcute]
  | case2 c =>
      intro found
      have long := found.length_le
      simp [composeAcute] at long
  | case3 c d rest both ih =>
      rw [composeAcute, if_pos both]
      intro found
      rcases List.infix_cons_iff.mp found with start | later
      · have first := List.head_eq_of_cons_eq (List.prefix_iff_eq_append.mp start)
        exact absurd first (by decide)
      · exact ih later
  | case4 c d rest apart ih =>
      rw [composeAcute_cons apart]
      intro found
      rcases List.infix_cons_iff.mp found with start | later
      · rw [List.cons_prefix_cons] at start
        obtain ⟨rfl, ⟨tail, second⟩⟩ := start
        have head : (composeAcute (d :: rest)).head? = some acute := by
          rw [← second]
          rfl
        have same := head?_composeAcute head
        exact apart ⟨rfl, Option.some.inj same⟩
      · exact ih later

/-- A composed text stays as it is. -/
theorem composeAcute_of_composed {text : Text} (composed : Composed text)
    : composeAcute text = text := by
  induction text using composeAcute.induct with
  | case1 => rfl
  | case2 c => rfl
  | case3 c d rest both ih =>
      obtain ⟨rfl, rfl⟩ := both
      exact absurd ⟨[], rest, rfl⟩ composed
  | case4 c d rest apart ih =>
      have rest_composed : Composed (d :: rest) :=
        fun found => composed (found.trans (List.suffix_cons c (d :: rest)).isInfix)
      rw [composeAcute_cons apart, ih rest_composed]

/-- What neither composes with a letter before it nor with an accent after it is a boundary. -/
theorem composeAcute_border {c : Char} (noLetter : c ≠ 'e') (noAccent : c ≠ acute)
    (left right : Text)
    : composeAcute (left ++ c :: right) = composeAcute left ++ c :: composeAcute right := by
  have start : composeAcute (c :: right) = c :: composeAcute right := by
    cases right with
    | nil => rfl
    | cons d rest => exact composeAcute_cons fun both => noLetter both.1
  induction left using composeAcute.induct with
  | case1 => exact start
  | case2 d =>
      have apart : ¬ (d = 'e' ∧ c = acute) := fun both => noAccent both.2
      rw [List.singleton_append, composeAcute_cons apart, start]
      rfl
  | case3 d e rest both ih =>
      simp only [List.cons_append, composeAcute, if_pos both, ih]
  | case4 d e rest apart ih =>
      simp only [List.cons_append] at ih ⊢
      rw [composeAcute_cons apart, composeAcute_cons apart, ih, List.cons_append]

theorem composeAcute_twice (text : Text) : composeAcute (composeAcute text) = composeAcute text :=
  composeAcute_of_composed (composed_composeAcute text)

/-- A first character that the next one does not compose with. -/
theorem composeAcute_cons_of_head {c : Char} {text : Text}
    (apart : ¬ (c = 'e' ∧ text.head? = some acute))
    : composeAcute (c :: text) = c :: composeAcute text := by
  cases text with
  | nil => rfl
  | cons d rest =>
      exact composeAcute_cons fun both => apart ⟨both.1, congrArg some both.2⟩

/-- Composing the end of a text first changes nothing. -/
theorem composeAcute_append_right (left right : Text)
    : composeAcute (left ++ composeAcute right) = composeAcute (left ++ right) := by
  induction left using composeAcute.induct with
  | case1 => exact composeAcute_twice right
  | case2 c =>
      by_cases meets : c = 'e' ∧ right.head? = some acute
      · obtain ⟨rfl, head⟩ := meets
        obtain ⟨rest, rfl⟩ := List.head?_eq_some_iff.mp head
        have apart : ¬ (acute = 'e' ∧ rest.head? = some acute) :=
          fun both => absurd both.1 (by decide)
        rw [composeAcute_cons_of_head apart]
        simp [composeAcute, composeAcute_twice]
      · have meets' : ¬ (c = 'e' ∧ (composeAcute right).head? = some acute) :=
          fun both => meets ⟨both.1, head?_composeAcute both.2⟩
        rw [List.singleton_append, List.singleton_append, composeAcute_cons_of_head meets,
          composeAcute_cons_of_head meets', composeAcute_twice]
  | case3 c d rest both ih =>
      simp only [List.cons_append, composeAcute, if_pos both, ih]
  | case4 c d rest apart ih =>
      simp only [List.cons_append] at ih ⊢
      rw [composeAcute_cons apart, composeAcute_cons apart, ih]

/-- Composing the start of a text first changes nothing. -/
theorem composeAcute_append_left (left right : Text)
    : composeAcute (composeAcute left ++ right) = composeAcute (left ++ right) := by
  induction left using composeAcute.induct with
  | case1 => rfl
  | case2 c => rfl
  | case3 c d rest both ih =>
      have apart : ¬ ('\u00e9' = 'e' ∧ (composeAcute rest ++ right).head? = some acute) :=
        fun both => absurd both.1 (by decide)
      simp only [List.cons_append, composeAcute, if_pos both]
      rw [composeAcute_cons_of_head apart, ih]
  | case4 c d rest apart ih =>
      have head : ¬ (c = 'e' ∧ (composeAcute (d :: rest) ++ right).head? = some acute) := by
        rintro ⟨rfl, found⟩
        have some : composeAcute (d :: rest) ≠ [] := composeAcute_ne_nil (List.cons_ne_nil d rest)
        rw [List.head?_append_of_ne_nil _ some] at found
        exact apart ⟨rfl, Option.some.inj (head?_composeAcute found)⟩
      rw [composeAcute_cons apart, List.cons_append, composeAcute_cons_of_head head, ih]
      exact (composeAcute_cons apart).symm

/-- Composed characters come from the text, or are the composed letter. -/
theorem mem_composeAcute {text : Text} {c : Char} (member : c ∈ composeAcute text)
    : c ∈ text ∨ c = '\u00e9' := by
  induction text using composeAcute.induct with
  | case1 => cases member
  | case2 d => exact .inl member
  | case3 d e rest both ih =>
      rw [composeAcute, if_pos both] at member
      rcases List.mem_cons.mp member with rfl | later
      · exact .inr rfl
      · exact (ih later).imp_left fun inRest =>
          List.mem_cons_of_mem _ (List.mem_cons_of_mem _ inRest)
  | case4 d e rest apart ih =>
      rw [composeAcute_cons apart] at member
      rcases List.mem_cons.mp member with rfl | later
      · exact .inl List.mem_cons_self
      · exact (ih later).imp_left (List.mem_cons_of_mem _)

/-- ASCII with the composition and the soft hyphen. -/
def acuteUnicode : Unicode :=
  { asciiUnicode with
    nfc := composeAcute
    isControl := fun c => c.toNat < 32 || c.toNat == 127 || c == softHyphen
    space_notControl := by decide
    nfc_infix := fun text part inside =>
      composeAcute_of_composed fun found => composed_composeAcute text (found.trans inside)
    nfc_append := fun left right => by
      rw [composeAcute_append_left, composeAcute_append_right]
    nfc_border := by
      intro c border left right
      have plain : c ≠ 'e' ∧ c ≠ acute := by
        constructor <;>
          · rintro rfl
            exact absurd border (by decide)
      rw [composeAcute_border plain.1 plain.2, composeAcute, List.append_assoc]
      rfl
    nfc_fixed := fun _ _ => rfl
    nfc_blank := fun c space => ⟨c, rfl, space, rfl, asciiSpace_ne_slash space⟩
    nfc_visible := by
      intro text visible c member
      rcases mem_composeAcute member with inText | rfl
      · exact visible c inText
      · decide
    nfc_ne_nil := fun _ some => composeAcute_ne_nil some }

end Python
