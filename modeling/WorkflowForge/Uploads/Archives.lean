import Mathlib.Algebra.GroupWithZero.Nat
import WorkflowForge.Uploads.StreamedBytes
import WorkflowForge.Python.TextLaws

/-! What an accepted DOCX archive is known to be. -/

namespace WorkflowForge

open Python

namespace ZipInfo

/-- The entry's path, with backslashes read as slashes. -/
def path (entry : ZipInfo) : Text := entry.filename.replaceChar '\\' '/'

/-- The path neither starts at the root nor has a `..` component. -/
def SafePath (entry : ZipInfo) : Prop :=
  ¬ ['/'] <+: entry.path ∧ "..".toList ∉ Text.splitOn '/' entry.path

instance (entry : ZipInfo) : Decidable entry.SafePath := inferInstanceAs (Decidable (_ ∧ _))

/-- The path is `..`, or its last component is. -/
def EndsInParent (entry : ZipInfo) : Prop :=
  entry.path = "..".toList ∨ "/..".toList <:+ entry.path

end ZipInfo

/-- The bounds that an archive is held to. -/
structure ArchiveWithin (infolist : List ZipInfo) : Prop where
  count : infolist.length ≤ 256
  contentTypes : "[Content_Types].xml".toList ∈ infolist.map ZipInfo.filename
  document : "word/document.xml".toList ∈ infolist.map ZipInfo.filename
  plain : ∀ entry ∈ infolist, entry.flagBits % 2 = 0
  uncompressed : (infolist.map ZipInfo.fileSize).sum ≤ 50 * 1024 * 1024
  ratio
    : (infolist.map ZipInfo.fileSize).sum
      ≤ 100 * (infolist.map (fun entry => max entry.compressSize 1)).sum

/-- What the check of one entry accepts. -/
theorem validateZipEntry_ok {entry : ZipInfo} (accepted : validateZipEntry entry = .ok ())
    : ¬ ['/'] <+: entry.path ∧ ¬ "../".toList <+: entry.path
      ∧ ¬ "/../".toList <:+: entry.path ∧ entry.flagBits % 2 = 0 := by
  simp only [validateZipEntry] at accepted
  split at accepted
  · cases accepted
  rename_i unsafePath
  split at accepted
  · cases accepted
  rename_i encrypted
  simp only [Bool.or_eq_true, not_or, List.isPrefixOf_iff_prefix, Text.contains_iff]
    at unsafePath
  exact ⟨unsafePath.1.1, unsafePath.1.2, unsafePath.2, by omega⟩

/-- An accepted entry is safe unless its last component is `..`. -/
theorem safePath_iff {entry : ZipInfo} (accepted : validateZipEntry entry = .ok ())
    : entry.SafePath ↔ ¬ entry.EndsInParent := by
  obtain ⟨relative, first, inner, -⟩ := validateZipEntry_ok accepted
  have place := Text.mem_splitOn_iff (show '/' ∉ "..".toList by decide) entry.path
  have before : "..".toList ++ ['/'] = "../".toList := by decide
  have between : '/' :: "..".toList ++ ['/'] = "/../".toList := by decide
  have last : '/' :: "..".toList = "/..".toList := by decide
  rw [before, between, last] at place
  unfold ZipInfo.SafePath ZipInfo.EndsInParent
  rw [place]
  tauto

/-- The loop adds up what it accepts, by induction on the entries. -/
theorem sumZipEntries_ok {infolist : List ZipInfo} {uncompressed compressed : Nat}
    {sums : Nat × Nat} (summed : sumZipEntries infolist uncompressed compressed = .ok sums)
    : (∀ entry ∈ infolist, validateZipEntry entry = .ok ())
      ∧ sums.1 = uncompressed + (infolist.map ZipInfo.fileSize).sum
      ∧ sums.2 = compressed + (infolist.map (fun entry => max entry.compressSize 1)).sum := by
  induction infolist generalizing uncompressed compressed with
  | nil =>
      obtain rfl := Except.ok.inj summed
      simp
  | cons entry rest ih =>
      simp only [sumZipEntries] at summed
      split at summed
      · cases summed
      rename_i accepted
      obtain ⟨others, first, second⟩ := ih summed
      refine ⟨?_, ?_, ?_⟩
      · simpa using ⟨accepted, others⟩
      · rw [first, List.map_cons, List.sum_cons, Nat.add_assoc]
      · rw [second, List.map_cons, List.sum_cons, Nat.add_assoc]

/-- The check of an entry raises validation errors only. -/
theorem validateZipEntry_error {entry : ZipInfo} {failure : Exn}
    (refused : validateZipEntry entry = .error failure)
    : failure ≠ .zeroDivisionError := by
  simp only [validateZipEntry] at refused
  split at refused
  · cases refused
    simp
  · split at refused
    · cases refused
      simp
    · cases refused

theorem sumZipEntries_error {infolist : List ZipInfo} {uncompressed compressed : Nat}
    {failure : Exn} (refused : sumZipEntries infolist uncompressed compressed = .error failure)
    : failure ≠ .zeroDivisionError := by
  induction infolist generalizing uncompressed compressed with
  | nil => cases refused
  | cons entry rest ih =>
      simp only [sumZipEntries] at refused
      split at refused
      · rename_i raised
        cases refused
        exact validateZipEntry_error raised
      · exact ih refused

/-- The sum of the compressed sizes of a non-empty archive is positive. -/
theorem compressed_pos {infolist : List ZipInfo} (some : infolist ≠ [])
    : 0 < (infolist.map (fun entry => max entry.compressSize 1)).sum := by
  cases infolist with
  | nil => exact absurd rfl some
  | cons entry rest =>
      rw [List.map_cons, List.sum_cons]
      have one : 1 ≤ max entry.compressSize 1 := Nat.le_max_right _ _
      omega

/-- What an accepted archive has passed. -/
theorem validateDocx_ok {platform : Platform} {data : Bytes} {infolist : List ZipInfo}
    (listed : platform.readZip data = .entries infolist)
    (accepted : validateDocx platform data = .ok ())
    : ArchiveWithin infolist ∧ ∀ entry ∈ infolist, validateZipEntry entry = .ok () := by
  simp only [validateDocx, listed] at accepted
  split at accepted
  · cases accepted
  split at accepted
  · cases accepted
  rename_i counted
  split at accepted
  · cases accepted
  rename_i named
  obtain ⟨⟨uncompressed, compressed⟩, summed, accepted⟩ := exists_of_bind_ok accepted
  split at accepted
  · cases accepted
  rename_i small
  split at accepted
  · cases accepted
  split at accepted
  · cases accepted
  rename_i dense
  obtain ⟨entries, total, packed⟩ := sumZipEntries_ok summed
  simp only [Nat.zero_add] at total packed
  subst total packed
  simp only [Bool.or_eq_true, Bool.not_eq_true', not_or, Bool.not_eq_false,
    List.contains_iff_mem] at named
  refine ⟨?_, entries⟩
  exact {
    count := Nat.le_of_not_lt counted
    contentTypes := named.1
    document := named.2
    plain := fun entry member => (validateZipEntry_ok (entries entry member)).2.2.2
    uncompressed := Nat.le_of_not_lt small
    ratio := Nat.le_of_not_lt dense }

/-- The ratio is never a division by zero: an archive without entries has already been
refused. -/
theorem validateDocx_divides (platform : Platform) (data : Bytes)
    : validateDocx platform data ≠ .error .zeroDivisionError := by
  intro divided
  simp only [validateDocx] at divided
  split at divided
  · cases divided
  split at divided
  · cases divided
  · cases divided
  rename_i infolist listed
  split at divided
  · cases divided
  split at divided
  · cases divided
  rename_i named
  have some : infolist ≠ [] := by
    rintro rfl
    simp at named
  cases summed : sumZipEntries infolist 0 0 with
  | error failure =>
      rw [summed] at divided
      exact sumZipEntries_error summed (Except.error.inj divided)
  | ok sums =>
      rw [summed] at divided
      obtain ⟨-, -, packed⟩ := sumZipEntries_ok summed
      have positive := compressed_pos some
      obtain ⟨uncompressed, compressed⟩ := sums
      simp only [bind, Except.bind] at divided
      split at divided
      · cases divided
      split at divided
      · rename_i zero
        simp only at packed
        omega
      split at divided <;> cases divided

/-- The ratio test never divides by zero, and every accepted archive is within its bounds.
Its entries have safe paths exactly when none is `..` or ends with a `..` component. -/
theorem validateDocx_safe_iff (platform : Platform) (data : Bytes)
    : validateDocx platform data ≠ .error .zeroDivisionError
      ∧ ∀ infolist,
          platform.readZip data = .entries infolist
          → validateDocx platform data = .ok ()
          → ArchiveWithin infolist
            ∧ ((∀ entry ∈ infolist, entry.SafePath)
                ↔ ∀ entry ∈ infolist, ¬ entry.EndsInParent) := by
  refine ⟨validateDocx_divides platform data, fun infolist listed accepted => ?_⟩
  obtain ⟨within, entries⟩ := validateDocx_ok listed accepted
  refine ⟨within, forall₂_congr fun entry member => ?_⟩
  exact safePath_iff (entries entry member)

-----------------------------------------------------------------------------------------
-- An unsafe archive
-----------------------------------------------------------------------------------------

namespace ArchiveSample

def entry (filename : String) : ZipInfo where
  filename := filename.toList
  fileSize := 1
  compressSize := 1
  flagBits := 0

/-- The required parts, and an entry for the directory above. -/
def escaping : List ZipInfo :=
  [entry "[Content_Types].xml", entry "word/document.xml", entry "word/.."]

def platform : Platform := { plainPlatform with readZip := fun _ => .entries escaping }

def littleEndian (width value : Nat) : Bytes :=
  (List.range width).map (fun i => (value / 256 ^ i).toUInt8)

/-- What both headers of an entry say of it: the single byte `x`, stored as it is. -/
def header (name : Bytes) : Bytes :=
  littleEndian 2 20 ++ littleEndian 8 (0x21 * 256 ^ 6) ++ littleEndian 4 0x8CDC1683
  ++ littleEndian 4 1 ++ littleEndian 4 1 ++ littleEndian 2 name.length ++ littleEndian 2 0

def localFile (name : Bytes) : Bytes :=
  littleEndian 4 0x04034B50 ++ header name ++ name ++ ascii "x"

/-- The entry of the central directory for the local file at `offset`. -/
def centralFile (name : Bytes) (offset : Nat) : Bytes :=
  littleEndian 4 0x02014B50 ++ littleEndian 2 20 ++ header name ++ littleEndian 10 0
  ++ littleEndian 4 offset ++ name

def names : List Bytes := escaping.map (fun entry => ascii (String.ofList entry.filename))

/-- The archive as it is uploaded. -/
def data : Bytes :=
  let files := names.map localFile
  let central :=
    (names.zipIdx.map (fun entry =>
      centralFile entry.1 (files.take entry.2).flatten.length)).flatten
  files.flatten ++ central ++ littleEndian 4 0x06054B50 ++ littleEndian 4 0
  ++ littleEndian 2 names.length ++ littleEndian 2 names.length
  ++ littleEndian 4 central.length ++ littleEndian 4 files.flatten.length ++ littleEndian 2 0

end ArchiveSample

theorem ArchiveSample.accepted
    : validateDocx ArchiveSample.platform ArchiveSample.data = .ok () := by
  decide +kernel

/-- An archive with the entry `word/..` is within its bounds. -/
theorem escaping_within : ArchiveWithin ArchiveSample.escaping :=
  ((validateDocx_safe_iff ArchiveSample.platform ArchiveSample.data).2 _ rfl
    ArchiveSample.accepted).1

/-- An archive with the entry `word/..` is accepted. -/
theorem parent_entry_accepted
    : ¬ ∀ (platform : Platform) (data : Bytes) (infolist : List ZipInfo),
          platform.readZip data = .entries infolist
          → validateDocx platform data = .ok ()
          → ∀ entry ∈ infolist, entry.SafePath := by
  intro claim
  have safe := claim ArchiveSample.platform ArchiveSample.data _ rfl ArchiveSample.accepted
  exact absurd safe (by decide)

end WorkflowForge
