import WorkflowForge.Python.Text

/-! The Unicode functions on ASCII text, where normalization has nothing to do. -/

namespace Python

def asciiLower (c : Char) : Char :=
  if isAsciiUpper c then Char.ofNat (c.toNat + 32) else c

def asciiSpace (c : Char) : Bool :=
  c == ' ' || c == '\t' || c == '\n' || c == '\r' || c == '\x0b' || c == '\x0c'

theorem asciiSpace_ne_slash {c : Char} (space : asciiSpace c = true) : c ≠ '/' ∧ c ≠ '\\' := by
  constructor <;>
    · rintro rfl
      exact absurd space (by decide)

/-- The lower-case letters are 32 code points behind the capitals. -/
theorem asciiLower_capital {c : Char} (upper : isAsciiUpper c = true)
    : 97 ≤ (asciiLower c).val.toNat ∧ (asciiLower c).val.toNat ≤ 122 := by
  unfold asciiLower
  rw [if_pos upper]
  simp only [isAsciiUpper, Bool.and_eq_true, decide_eq_true_eq, Char.le_def,
    UInt32.le_iff_toNat_le] at upper
  have a : 'A'.val.toNat = 65 := rfl
  have z : 'Z'.val.toNat = 90 := rfl
  have code : (Char.ofNat (c.toNat + 32)).val.toNat = c.val.toNat + 32 := by
    have bound : (c.toNat + 32).isValidChar := by
      left
      change c.val.toNat + 32 < 55296
      omega
    rw [Char.ofNat, dif_pos bound]
    rfl
  omega

theorem asciiLower_noCapital (c : Char) : isAsciiUpper (asciiLower c) = false := by
  by_cases upper : isAsciiUpper c = true
  · have code := asciiLower_capital upper
    have z : 'Z'.val.toNat = 90 := rfl
    simp only [isAsciiUpper, Bool.and_eq_false_iff, decide_eq_false_iff_not, Char.le_def,
      UInt32.le_iff_toNat_le]
    omega
  · rw [asciiLower, if_neg upper]
    simpa using upper

/-- ASCII as a Unicode database. -/
def asciiUnicode : Unicode where
  nfc text := text
  isSpace := asciiSpace
  isControl c := c.toNat < 32 || c.toNat == 127
  casefold text := text.map asciiLower
  lower text := text.map asciiLower
  space_isSpace := by decide
  space_notControl := by decide
  nfc_infix _ _ _ := rfl
  nfc_append _ _ := rfl
  nfc_border c _ left right := (List.append_assoc left [c] right).symm
  nfc_fixed _ _ := rfl
  nfc_blank c space := ⟨c, rfl, space, rfl, asciiSpace_ne_slash space⟩
  nfc_visible _ visible := visible
  nfc_ne_nil _ some := some
  casefold_length _ := Nat.le_of_eq (List.length_map asciiLower).symm
  lower_ascii := by
    intro text plain
    calc
      text.map asciiLower = text.map id := by
        apply List.map_congr_left
        intro c member
        simp [asciiLower, (plain c member).2]
      _ = text := List.map_id text
  lower_noCapital := by
    intro text c member
    obtain ⟨d, -, rfl⟩ := List.mem_map.mp member
    exact asciiLower_noCapital d
  ascii_space := by
    intro c plain
    rw [Bool.eq_false_iff]
    intro space
    simp only [asciiSpace, Bool.or_eq_true, beq_iff_eq] at space
    rcases space with ((((rfl | rfl) | rfl) | rfl) | rfl) | rfl <;> revert plain <;> decide

end Python
