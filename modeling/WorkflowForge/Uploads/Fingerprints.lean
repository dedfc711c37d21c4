import WorkflowForge.Uploads.StreamedBytes
import WorkflowForge.Domain.Normalization

/-! The request fingerprint tells uploads apart.
Its material is read from the right: sizes and media types hold no `;`, and the digest has a
fixed length, so the filename is what is left between them.
-/

namespace WorkflowForge

open Python

/-- The fields that are fingerprinted. The filename may be any text. -/
structure FingerprintFields where
  contentHash : ContentHash
  filename : Text
  mediaType : Text
  byteSize : Nat
  typed : isMediaType mediaType = true

namespace FingerprintFields

def material (fields : FingerprintFields) : Text :=
  fingerprintMaterial fields.contentHash fields.filename fields.mediaType fields.byteSize

def fingerprint (platform : Platform) (fields : FingerprintFields) : Text :=
  requestFingerprint platform fields.contentHash fields.filename fields.mediaType fields.byteSize

end FingerprintFields

/-- The digest has the two byte sequences collide only if they are the same. -/
def Platform.NoCollision (platform : Platform) (first second : Bytes) : Prop :=
  platform.sha256 first = platform.sha256 second → first = second

theorem isMediaType_no_semicolon {text : Text} (valid : isMediaType text = true)
    : ';' ∉ text := by
  intro member
  rcases mem_isMediaType valid member with upper | lower | digit | special
  · exact absurd upper (by decide)
  · exact absurd lower (by decide)
  · exact absurd digit (by decide)
  · exact absurd special (by decide)

theorem toDigits_no_semicolon (n : Nat) : ';' ∉ Nat.toDigits 10 n := by
  intro member
  have digit := Nat.isDigit_of_mem_toDigits (by decide) (by decide) member
  exact absurd digit (by decide)

theorem toDigits_inj {m n : Nat} (same : Nat.toDigits 10 m = Nat.toDigits 10 n) : m = n := by
  calc
    m = Nat.ofDigitChars 10 (Nat.toDigits 10 m) 0 :=
      (Nat.ofDigitChars_toDigits (by decide) (by decide)).symm
    _ = Nat.ofDigitChars 10 (Nat.toDigits 10 n) 0 := by rw [same]
    _ = n := Nat.ofDigitChars_toDigits (by decide) (by decide)

theorem utf8_inj {first second : Text}
    (same : first.flatMap String.utf8EncodeChar = second.flatMap String.utf8EncodeChar)
    : first = second := by
  have encoded : first.utf8Encode = second.utf8Encode := congrArg List.toByteArray same
  have decoded : some first.toArray = some second.toArray := by
    rw [← List.utf8Decode?_utf8Encode, ← List.utf8Decode?_utf8Encode, encoded]
  simpa using decoded

theorem ContentHash.eq_of_value {first second : ContentHash}
    (same : first.value = second.value)
    : first = second := by
  obtain ⟨_, _⟩ := first
  obtain ⟨_, _⟩ := second
  cases same
  rfl

theorem ContentHash.length_value (hash : ContentHash) : hash.value.length = 64 := hash.hex.1

/-- The material as parts that end at its last two semicolons. -/
theorem FingerprintFields.material_eq (fields : FingerprintFields)
    : fields.material
      = ("sha256=".toList ++ fields.contentHash.value ++ ";name=".toList ++ fields.filename
          ++ ';' :: ("type=".toList ++ fields.mediaType))
        ++ ';' :: ("size=".toList ++ Nat.toDigits 10 fields.byteSize) := by
  have type : ";type=".toList = [';'] ++ "type=".toList := by decide
  have size : ";size=".toList = [';'] ++ "size=".toList := by decide
  unfold material fingerprintMaterial
  rw [type, size]
  simp only [List.append_assoc, List.cons_append, List.nil_append]

/-- The material determines the fields. -/
theorem FingerprintFields.material_inj {first second : FingerprintFields}
    (same : first.material = second.material)
    : first = second := by
  rw [material_eq, material_eq] at same
  have sized (fields : FingerprintFields)
      : ';' ∉ "size=".toList ++ Nat.toDigits 10 fields.byteSize := by
    rw [List.mem_append]
    exact fun member => member.elim (by decide) (toDigits_no_semicolon _)
  have typed (fields : FingerprintFields)
      : ';' ∉ "type=".toList ++ fields.mediaType := by
    rw [List.mem_append]
    exact fun member => member.elim (by decide) (isMediaType_no_semicolon fields.typed)
  obtain ⟨same, size⟩ := Text.append_separator_inj (sized first) (sized second) same
  obtain ⟨same, type⟩ := Text.append_separator_inj (typed first) (typed second) same
  have byteSize := toDigits_inj (List.append_cancel_left size)
  have mediaType := List.append_cancel_left type
  simp only [List.append_assoc] at same
  obtain ⟨value, same⟩ := List.append_inj (List.append_cancel_left same)
    (by rw [ContentHash.length_value, ContentHash.length_value])
  have filename := List.append_cancel_left same
  have contentHash := ContentHash.eq_of_value value
  obtain ⟨_, _, _, _, _⟩ := first
  obtain ⟨_, _, _, _, _⟩ := second
  cases contentHash
  cases filename
  cases mediaType
  cases byteSize
  rfl

/-- Equal materials have equal fields, and as far as the digest does not collide on the two
materials, two uploads have the same fingerprint exactly when all fields agree. -/
theorem fingerprint_eq_iff (platform : Platform) (first second : FingerprintFields)
    : (first.material = second.material → first = second)
      ∧ (platform.NoCollision (first.material.flatMap String.utf8EncodeChar)
            (second.material.flatMap String.utf8EncodeChar)
          → (first.fingerprint platform = second.fingerprint platform ↔ first = second)) := by
  refine ⟨FingerprintFields.material_inj, fun collisionFree => ⟨fun same => ?_, ?_⟩⟩
  · have digest
        : platform.sha256 (first.material.flatMap String.utf8EncodeChar)
          = platform.sha256 (second.material.flatMap String.utf8EncodeChar) :=
      ContentHash.eq_of_value same
    exact FingerprintFields.material_inj (utf8_inj (collisionFree digest))
  · rintro rfl
    rfl

namespace FingerprintSample

/-- A name that imitates the separators. -/
def imitating : FingerprintFields where
  contentHash := plainPlatform.sha256 []
  filename := "a;type=text/html;size=1".toList
  mediaType := "text/plain".toList
  byteSize := 7
  typed := by decide

def plain : FingerprintFields where
  contentHash := plainPlatform.sha256 []
  filename := "a".toList
  mediaType := "text/html".toList
  byteSize := 1
  typed := by decide

/-- A digest that tells byte sequences of different parity apart. -/
def platform : Platform :=
  { plainPlatform with
    sha256 := fun data =>
      if data.length % 2 = 0 then plainPlatform.sha256 data
      else ⟨List.replicate 64 '1', by decide⟩ }

end FingerprintSample

/-- A name that imitates the separators does not make the fingerprints equal. -/
theorem imitated_fingerprints_differ
    : FingerprintSample.imitating.fingerprint FingerprintSample.platform
      ≠ FingerprintSample.plain.fingerprint FingerprintSample.platform := by
  intro same
  have different : FingerprintSample.imitating ≠ FingerprintSample.plain := by
    intro equal
    exact absurd (congrArg FingerprintFields.byteSize equal) (by decide)
  refine different (((fingerprint_eq_iff _ _ _).2 fun collision => ?_).mp same)
  exact absurd collision (by decide +kernel)

end WorkflowForge
