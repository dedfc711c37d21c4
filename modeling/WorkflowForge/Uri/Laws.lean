import WorkflowForge.Uri.Syntax

/-! Laws of splitting and percent-decoding, and the reading of an assembled URI. -/

namespace Uri

-----------------------------------------------------------------------------------------
-- Splitting
-----------------------------------------------------------------------------------------

theorem splitFirst_append {separator : Char} {before : List Char}
    (absent : separator ∉ before) (rest : List Char)
    : splitFirst separator (before ++ separator :: rest) = (before, some rest) := by
  have other : ∀ c ∈ before, (c != separator) = true := by
    intro c member
    simp only [bne_iff_ne, ne_eq]
    rintro rfl
    exact absent member
  unfold splitFirst
  rw [List.takeWhile_append_of_pos other, List.dropWhile_append_of_pos other]
  simp

theorem splitFirst_of_notMem {separator : Char} {text : List Char}
    (absent : separator ∉ text)
    : splitFirst separator text = (text, none) := by
  have other : ∀ c ∈ text, (c != separator) = true := by
    intro c member
    simp only [bne_iff_ne, ne_eq]
    rintro rfl
    exact absent member
  unfold splitFirst
  rw [List.takeWhile_eq_self_iff.mpr other, List.dropWhile_eq_nil_iff.mpr other]

theorem splitFirst_eq_some {separator : Char} {text before rest : List Char}
    (split : splitFirst separator text = (before, some rest))
    : text = before ++ separator :: rest ∧ separator ∉ before := by
  simp only [splitFirst, Prod.mk.injEq] at split
  obtain ⟨rfl, after⟩ := split
  split at after
  · cases after
  · rename_i c tail dropped
    obtain rfl := Option.some.inj after
    have first : c = separator := by
      have stops := List.head?_dropWhile_not (· != separator) text
      rw [dropped] at stops
      simpa using stops
    subst first
    constructor
    · calc
        text = text.takeWhile (· != c) ++ text.dropWhile (· != c) :=
          List.takeWhile_append_dropWhile.symm
        _ = text.takeWhile (· != c) ++ c :: tail := by rw [dropped]
    · intro member
      simpa using List.mem_takeWhile_imp member

/-- The first part of a split begins the text. -/
theorem exists_of_splitFirst {separator : Char} {text before : List Char}
    {after : Option (List Char)} (split : splitFirst separator text = (before, after))
    : ∃ more, text = before ++ more := by
  simp only [splitFirst, Prod.mk.injEq] at split
  obtain ⟨rfl, -⟩ := split
  exact ⟨_, List.takeWhile_append_dropWhile.symm⟩

-----------------------------------------------------------------------------------------
-- Percent-encoding
-----------------------------------------------------------------------------------------

theorem wellEncoded_of_all {allowed : Char → Bool} (percent : allowed '%' = false)
    {text : List Char} (all : ∀ c ∈ text, allowed c = true)
    : wellEncoded allowed text = true := by
  fun_induction wellEncoded allowed text with
  | case1 => rfl
  | case2 high low rest ih =>
      rw [all '%' (by simp)] at percent
      contradiction
  | case3 c rest _ ih =>
      have plain : c ≠ '%' := by
        rintro rfl
        rw [all '%' (by simp)] at percent
        contradiction
      simp [plain, all c (by simp), ih (fun d member => all d (by simp [member]))]

theorem mem_of_wellEncoded {allowed : Char → Bool} {text : List Char}
    (valid : wellEncoded allowed text = true) {c : Char} (member : c ∈ text)
    : c = '%' ∨ isHexDigit c = true ∨ allowed c = true := by
  fun_induction wellEncoded allowed text with
  | case1 => cases member
  | case2 high low rest ih =>
      simp only [Bool.and_eq_true] at valid
      simp only [List.mem_cons] at member
      rcases member with rfl | rfl | rfl | later
      · exact .inl rfl
      · exact .inr (.inl valid.1.1)
      · exact .inr (.inl valid.1.2)
      · exact ih valid.2 later
  | case3 d rest _ ih =>
      simp only [Bool.and_eq_true, bne_iff_ne] at valid
      rcases List.mem_cons.mp member with rfl | later
      · exact .inr (.inr valid.1.2)
      · exact ih valid.2 later

/-- Without percent signs well-encoded texts have allowed characters only. -/
theorem all_of_wellEncoded {allowed : Char → Bool} {text : List Char}
    (valid : wellEncoded allowed text = true) (plain : '%' ∉ text)
    : ∀ c ∈ text, allowed c = true := by
  fun_induction wellEncoded allowed text with
  | case1 => simp
  | case2 high low rest ih => simp at plain
  | case3 c rest _ ih =>
      simp only [Bool.and_eq_true] at valid
      simp only [List.mem_cons, not_or] at plain
      intro d member
      rcases List.mem_cons.mp member with rfl | later
      · exact valid.1.2
      · exact ih valid.2 plain.2 d later

theorem percentDecode_of_notMem {text : List Char} (plain : '%' ∉ text)
    : percentDecode text = utf8 text := by
  fun_induction percentDecode text with
  | case1 high low rest _ ih => simp at plain
  | case2 high low rest _ ih => simp at plain
  | case3 c rest _ ih =>
      simp only [List.mem_cons, not_or] at plain
      rw [ih plain.2]
      rfl
  | case4 => rfl

theorem length_utf8_pos (c : Char) : 0 < (String.utf8EncodeChar c).length := by
  rw [String.length_utf8EncodeChar]
  exact Char.utf8Size_pos c

/-- Decoding never makes a text longer. -/
theorem length_percentDecode_le (text : List Char)
    : (percentDecode text).length ≤ (utf8 text).length := by
  fun_induction percentDecode text with
  | case1 high low rest _ ih =>
      have first := length_utf8_pos '%'
      simp only [utf8, List.flatMap_cons, List.length_append, List.length_cons] at ih ⊢
      omega
  | case2 high low rest _ ih =>
      simp only [utf8, List.flatMap_cons, List.length_append] at ih ⊢
      omega
  | case3 c rest _ ih =>
      simp only [utf8, List.flatMap_cons, List.length_append] at ih ⊢
      omega
  | case4 => exact Nat.le_refl 0

/-- A percent-encoded octet is shorter than its encoding. -/
theorem length_percentDecode_lt {allowed : Char → Bool} {text : List Char}
    (valid : wellEncoded allowed text = true) (encoded : '%' ∈ text)
    : (percentDecode text).length < (utf8 text).length := by
  fun_induction percentDecode text with
  | case1 high low rest _ ih =>
      have rest := length_percentDecode_le rest
      have first := length_utf8_pos '%'
      have second := length_utf8_pos high
      simp only [utf8, List.flatMap_cons, List.length_append, List.length_cons] at rest ⊢
      omega
  | case2 high low rest broken ih =>
      simp only [wellEncoded, Bool.and_eq_true] at valid
      exact absurd (Bool.and_eq_true_iff.mpr valid.1) broken
  | case3 c rest other ih =>
      have tail : wellEncoded allowed rest = true ∧ c ≠ '%' := by
        unfold wellEncoded at valid
        split at valid
        · simp_all
        · simp_all
        · simp_all
      have later : '%' ∈ rest := by
        rcases List.mem_cons.mp encoded with same | later
        · exact absurd same.symm tail.2
        · exact later
      have shorter := ih tail.1 later
      simp only [utf8, List.flatMap_cons, List.length_append] at shorter ⊢
      omega
  | case4 => cases encoded

/-- A separator that is no allowed character does not occur in a well-encoded text. -/
theorem notMem_of_wellEncoded {allowed : Char → Bool} {text : List Char}
    (valid : wellEncoded allowed text = true) {c : Char} (percent : c ≠ '%')
    (digit : isHexDigit c = false) (refused : allowed c = false)
    : c ∉ text := by
  intro member
  rcases mem_of_wellEncoded valid member with same | hex | kept
  · exact percent same
  · rw [digit] at hex
    contradiction
  · rw [refused] at kept
    contradiction

-----------------------------------------------------------------------------------------
-- Hosts and authorities
-----------------------------------------------------------------------------------------

theorem bracketed_eq_some {text inner : List Char} (found : bracketed text = some inner)
    : text = '[' :: (inner ++ [']']) := by
  unfold bracketed at found
  split at found
  · split at found
    · rename_i rest last
      obtain ⟨before, rfl⟩ := List.getLast?_eq_some_iff.mp last
      rw [List.dropLast_concat] at found
      cases found
      rfl
    · cases found
  · cases found

/-- A host is a registered name, or has brackets around characters without separators. -/
theorem isHost_cases {text : List Char} (valid : isHost text = true)
    : wellEncoded isNameChar text = true
      ∨ ∃ inner, text = '[' :: (inner ++ [']']) ∧ ∀ c ∈ inner, isUserinfoChar c = true := by
  simp only [isHost, Bool.or_eq_true] at valid
  rcases valid with name | literal
  · exact .inl name
  · cases found : bracketed text with
    | none => simp [found] at literal
    | some inner =>
        simp only [found, Option.any_some, isIpLiteral, Bool.and_eq_true, List.all_eq_true]
          at literal
        exact .inr ⟨inner, bracketed_eq_some found, literal.1⟩

/-- No separator of the larger components occurs in a host. -/
theorem notMem_of_isHost {text : List Char} (valid : isHost text = true) {c : Char}
    (separates : c ∈ ['/', '?', '#', '@'])
    : c ∉ text := by
  have plain
      : c ≠ '%' ∧ isHexDigit c = false ∧ isUserinfoChar c = false ∧ isNameChar c = false
        ∧ c ≠ '[' ∧ c ≠ ']' := by
    simp only [List.mem_cons, List.not_mem_nil, or_false] at separates
    rcases separates with rfl | rfl | rfl | rfl <;> decide
  obtain ⟨percent, digit, refused, unnamed, opening, closing⟩ := plain
  rcases isHost_cases valid with name | ⟨inner, rfl, inside⟩
  · exact notMem_of_wellEncoded name percent digit unnamed
  · intro member
    simp only [List.mem_cons, List.mem_append, List.not_mem_nil, or_false] at member
    rcases member with same | member | same
    · exact opening same
    · rw [inside c member] at refused
      contradiction
    · exact closing same

/-- The port follows the host, whose own colons are in brackets. -/
theorem splitPort_append {host : List Char} (valid : isHost host = true) (port : List Char)
    : splitPort (host ++ ':' :: port) = (host, some port) := by
  rcases isHost_cases valid with name | ⟨inner, rfl, inside⟩
  · have colon : ':' ∉ host :=
      notMem_of_wellEncoded name (by decide) (by decide) (by decide)
    have bracket : '[' ∉ host :=
      notMem_of_wellEncoded name (by decide) (by decide) (by decide)
    have first : (host ++ ':' :: port).head? ≠ some '[' := by
      cases host with
      | nil => simp
      | cons c rest =>
          simp only [List.cons_append, List.head?_cons, ne_eq, Option.some.injEq]
          rintro rfl
          exact bracket (by simp)
    rw [splitPort, if_neg first, splitFirst_append colon]
  · have closing : ']' ∉ '[' :: inner := by
      intro member
      rcases List.mem_cons.mp member with same | member
      · exact absurd same (by decide)
      · exact absurd (inside _ member) (by decide)
    have shape : '[' :: (inner ++ [']']) ++ ':' :: port = ('[' :: inner) ++ ']' :: ':' :: port := by
      simp
    have split : splitFirst ':' (':' :: port) = ([], some port) :=
      splitFirst_append List.not_mem_nil port
    rw [shape, splitPort, if_pos (by simp), splitFirst_append closing]
    simp only [split]
    simp

/-- An authority with a port as it is written. -/
def assembleAuthority (userinfo : Option (List Char)) (host port : List Char) : List Char :=
  (match userinfo with
    | some info => info ++ ['@']
    | none => [])
  ++ host ++ ':' :: port

theorem parseAuthority_assemble {userinfo : Option (List Char)} {host port : List Char}
    (info : userinfo.all (wellEncoded isUserinfoChar) = true) (valid : isHost host = true)
    (digits : ∀ c ∈ port, c.isDigit = true)
    : parseAuthority (assembleAuthority userinfo host port)
        = some { userinfo, host, port := some port } := by
  have hostAt : '@' ∉ host ++ ':' :: port := by
    intro member
    rcases List.mem_append.mp member with inHost | inPort
    · exact notMem_of_isHost valid (by decide) inHost
    · rcases List.mem_cons.mp inPort with same | inPort
      · exact absurd same (by decide)
      · exact absurd (digits _ inPort) (by decide)
  have allDigits : port.all Char.isDigit = true := List.all_eq_true.mpr digits
  cases userinfo with
  | none =>
      have whole := splitFirst_of_notMem hostAt
      simp [parseAuthority, assembleAuthority, whole, splitPort_append valid, valid, allDigits]
  | some text =>
      rw [Option.all_some] at info
      have infoAt : '@' ∉ text :=
        notMem_of_wellEncoded info (by decide) (by decide) (by decide)
      have split := splitFirst_append infoAt (host ++ ':' :: port)
      simp [parseAuthority, assembleAuthority, split, splitPort_append valid, valid, allDigits,
        info]

theorem notMem_assembleAuthority {userinfo : Option (List Char)} {host port : List Char}
    (info : userinfo.all (wellEncoded isUserinfoChar) = true) (valid : isHost host = true)
    (digits : ∀ c ∈ port, c.isDigit = true) {c : Char} (separates : c ∈ ['/', '?', '#'])
    : c ∉ assembleAuthority userinfo host port := by
  have plain
      : c ≠ '%' ∧ isHexDigit c = false ∧ isUserinfoChar c = false ∧ c.isDigit = false
        ∧ c ≠ '@' ∧ c ≠ ':' ∧ c ∈ ['/', '?', '#', '@'] := by
    simp only [List.mem_cons, List.not_mem_nil, or_false] at separates
    rcases separates with rfl | rfl | rfl <;> decide
  obtain ⟨percent, hex, refused, digit, at_, colon, separates⟩ := plain
  have inPort : c ∉ port := by
    intro member
    rw [digits c member] at digit
    contradiction
  have inHost : c ∉ host := notMem_of_isHost valid separates
  cases userinfo with
  | none => simp [assembleAuthority, inHost, colon, inPort]
  | some text =>
      have inInfo : c ∉ text := notMem_of_wellEncoded info percent hex refused
      simp [assembleAuthority, inHost, colon, inPort, inInfo, at_]

-----------------------------------------------------------------------------------------
-- Whole URIs
-----------------------------------------------------------------------------------------

theorem colon_notMem_scheme {scheme : List Char} (valid : isScheme scheme = true)
    : ':' ∉ scheme := by
  intro member
  cases scheme with
  | nil => cases member
  | cons c rest =>
      simp only [isScheme, Bool.and_eq_true, List.all_eq_true] at valid
      rcases List.mem_cons.mp member with rfl | later
      · exact absurd valid.1 (by decide)
      · exact absurd (valid.2 _ later) (by decide)

/-- A URI put together from valid components is read back as these components. -/
theorem parse_assemble {scheme : List Char} {userinfo : Option (List Char)}
    {host port tail : List Char} (schemeValid : isScheme scheme = true)
    (info : userinfo.all (wellEncoded isUserinfoChar) = true) (valid : isHost host = true)
    (digits : ∀ c ∈ port, c.isDigit = true)
    (path : wellEncoded isPathChar ('/' :: tail) = true)
    : parse
        (scheme ++ ':' :: '/' :: '/' :: (assembleAuthority userinfo host port ++ '/' :: tail))
      = some {
          scheme
          authority := some { userinfo, host, port := some port }
          path := '/' :: tail
          query := none
          fragment := none
        } := by
  have inPath : ∀ c ∈ ['?', '#'], c ∉ '/' :: tail := by
    intro c separates
    have plain : c ≠ '%' ∧ isHexDigit c = false ∧ isPathChar c = false := by
      simp only [List.mem_cons, List.not_mem_nil, or_false] at separates
      rcases separates with rfl | rfl <;> decide
    exact notMem_of_wellEncoded path plain.1 plain.2.1 plain.2.2
  have whole
      : ∀ c ∈ ['?', '#'],
          c ∉ '/' :: '/' :: (assembleAuthority userinfo host port ++ '/' :: tail) := by
    intro c separates
    have slash : c ≠ '/' := by
      rintro rfl
      exact absurd separates (by decide)
    have inAuthority : c ∉ assembleAuthority userinfo host port :=
      notMem_assembleAuthority info valid digits (List.mem_cons_of_mem _ separates)
    simp only [List.mem_cons, List.mem_append, slash, inAuthority, false_or]
    have last := inPath c separates
    simpa [slash] using last
  have noSlash : ∀ c ∈ assembleAuthority userinfo host port, (c != '/') = true := by
    intro c member
    simp only [bne_iff_ne, ne_eq]
    rintro rfl
    exact notMem_assembleAuthority info valid digits (by decide) member
  have authority
      : (assembleAuthority userinfo host port ++ '/' :: tail).takeWhile (· != '/')
        = assembleAuthority userinfo host port := by
    rw [List.takeWhile_append_of_pos noSlash]
    simp
  have rest
      : (assembleAuthority userinfo host port ++ '/' :: tail).dropWhile (· != '/')
        = '/' :: tail := by
    rw [List.dropWhile_append_of_pos noSlash]
    simp
  simp [parse, splitFirst_append (colon_notMem_scheme schemeValid),
    splitFirst_of_notMem (whole '#' (by decide)), splitFirst_of_notMem (whole '?' (by decide)),
    parseHierarchy, authority, rest, parseAuthority_assemble info valid digits, schemeValid,
    path]

theorem parseAuthority_eq_some {text : List Char} {authority : Authority}
    (read : parseAuthority text = some authority)
    : isHost authority.host = true
      ∧ ∀ info, authority.userinfo = some info
          → wellEncoded isUserinfoChar info = true ∧ ∃ rest, text = info ++ '@' :: rest := by
  unfold parseAuthority at read
  cases split : splitFirst '@' text with
  | mk before after =>
      rw [split] at read
      cases after with
      | none =>
          simp only at read
          split at read
          · rename_i valid
            cases read
            simp only [Bool.and_eq_true] at valid
            exact ⟨valid.1.2, by simp⟩
          · cases read
      | some rest =>
          simp only at read
          split at read
          · rename_i valid
            cases read
            simp only [Bool.and_eq_true] at valid
            refine ⟨valid.1.2, ?_⟩
            rintro info ⟨⟩
            exact ⟨valid.1.1, rest, (splitFirst_eq_some split).1⟩
          · cases read

theorem parseHierarchy_eq_some {text path : List Char} {authority : Authority}
    (read : parseHierarchy text = some (some authority, path))
    : ∃ rest, text = '/' :: '/' :: rest
        ∧ isHost authority.host = true
        ∧ ∀ info, authority.userinfo = some info
            → wellEncoded isUserinfoChar info = true ∧ ∃ more, rest = info ++ '@' :: more := by
  unfold parseHierarchy at read
  split at read
  · rename_i rest
    obtain ⟨parsed, inner, read⟩ := Option.bind_eq_some_iff.mp read
    cases read
    obtain ⟨host, info⟩ := parseAuthority_eq_some inner
    refine ⟨rest, rfl, host, ?_⟩
    intro text given
    obtain ⟨valid, more, split⟩ := info text given
    refine ⟨valid, more ++ rest.dropWhile (· != '/'), ?_⟩
    calc
      rest = rest.takeWhile (· != '/') ++ rest.dropWhile (· != '/') :=
        List.takeWhile_append_dropWhile.symm
      _ = text ++ '@' :: (more ++ rest.dropWhile (· != '/')) := by rw [split]; simp
  · cases read

/-- What reading a URI says about its text. -/
theorem parse_eq_some {text : List Char} {components : Components} {authority : Authority}
    (read : parse text = some components) (found : components.authority = some authority)
    : isHost authority.host = true
      ∧ ∃ rest, text = components.scheme ++ ':' :: '/' :: '/' :: rest
        ∧ ':' ∉ components.scheme
        ∧ ∀ info, authority.userinfo = some info
            → wellEncoded isUserinfoChar info = true ∧ ∃ more, rest = info ++ '@' :: more := by
  unfold parse at read
  cases schemeSplit : splitFirst ':' text with
  | mk scheme afterScheme =>
      cases afterScheme with
      | none => simp [schemeSplit] at read
      | some afterScheme =>
          obtain ⟨rfl, colon⟩ := splitFirst_eq_some schemeSplit
          cases fragmentSplit : splitFirst '#' afterScheme with
          | mk beforeFragment fragment =>
              cases querySplit : splitFirst '?' beforeFragment with
              | mk hierarchy query =>
                  obtain ⟨more, rfl⟩ := exists_of_splitFirst fragmentSplit
                  obtain ⟨more', rfl⟩ := exists_of_splitFirst querySplit
                  simp only [schemeSplit, fragmentSplit, querySplit, Option.bind_eq_bind,
                    Option.bind_some] at read
                  obtain ⟨⟨parsed, path⟩, hierarchical, read⟩ :=
                    Option.bind_eq_some_iff.mp read
                  simp only at read
                  split at read
                  · cases read
                    simp only at found
                    subst found
                    obtain ⟨rest, rfl, host, info⟩ := parseHierarchy_eq_some hierarchical
                    refine ⟨host, rest ++ more' ++ more, by simp, colon, ?_⟩
                    intro text given
                    obtain ⟨valid, after, rfl⟩ := info text given
                    exact ⟨valid, after ++ more' ++ more, by simp⟩
                  · cases read

end Uri
