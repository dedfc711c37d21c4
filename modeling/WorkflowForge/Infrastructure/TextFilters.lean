import WorkflowForge.Infrastructure.ListPages
import WorkflowForge.Python.Ascii
import WorkflowForge.Python.TextLaws

/-! The text filters of the list queries: which rows `ILIKE` selects for a query text, and when
these are the rows that contain it. -/

namespace WorkflowForge

open Python

-----------------------------------------------------------------------------------------
-- Patterns
-----------------------------------------------------------------------------------------

/-- The characters that mean something else in a pattern. -/
def isWildcard (c : Char) : Bool := c == '%' || c == '_' || c == '\\'

/-- The database lower-cases texts character by character, and only a wildcard becomes one. -/
def LowersByCharacter (u : Unicode) (lowerChar : Char → Char) : Prop :=
  (∀ text, u.lower text = text.map lowerChar)
  ∧ ∀ c, isWildcard (lowerChar c) = true → lowerChar c = c

/-- A shortest text that the pattern of a query text matches: wildcards for any text give
nothing, those for one character an `x`. A backslash at the end quotes the `%` behind it. -/
def shortest : Text → Text
  | [] => []
  | '%' :: query => shortest query
  | '_' :: query => 'x' :: shortest query
  | ['\\'] => ['%']
  | '\\' :: c :: query => c :: shortest query
  | c :: query => c :: shortest query

example : shortest "50%_\\a\\".toList = "50xa%".toList := by decide

theorem shortest_length (query : Text) : (shortest query).length ≤ query.length := by
  fun_induction shortest query <;> simp <;> omega

theorem like_cons {c : Char} (plain : isWildcard c = false) (pattern text : Text)
    : like (c :: pattern) text = (text.head? == some c && like pattern text.tail) := by
  simp only [isWildcard, Bool.or_eq_false_iff, beq_eq_false_iff_ne, ne_eq] at plain
  obtain ⟨⟨notPercent, notUnderscore⟩, notBackslash⟩ := plain
  rw [like] <;> simp_all

theorem like_percent (pattern text : Text)
    : like ('%' :: pattern) text = true
      ↔ ∃ before rest, text = before ++ rest ∧ like pattern rest := by
  rw [like]
  simp only [List.any_eq_true, List.mem_tails]
  constructor
  · rintro ⟨rest, ⟨before, joined⟩, matched⟩
    exact ⟨before, rest, joined.symm, matched⟩
  · rintro ⟨before, rest, joined, matched⟩
    exact ⟨rest, ⟨before, joined.symm⟩, matched⟩

section Patterns

variable {u : Unicode} {lowerChar : Char → Char}

theorem LowersByCharacter.fixed (lowers : LowersByCharacter u lowerChar) {c : Char}
    (wild : isWildcard c = true)
    : lowerChar c = c := by
  have ascii : ∀ d ∈ [c], d.val < 128 ∧ isAsciiUpper d = false := by
    intro d member
    rw [List.mem_singleton.mp member]
    simp only [isWildcard, Bool.or_eq_true, beq_iff_eq] at wild
    rcases wild with (rfl | rfl) | rfl <;> decide
  simpa [lowers.1] using u.lower_ascii [c] ascii

theorem LowersByCharacter.isWildcard (lowers : LowersByCharacter u lowerChar) (c : Char)
    : isWildcard (lowerChar c) = isWildcard c := by
  cases wild : WorkflowForge.isWildcard c with
  | true => rw [lowers.fixed wild, wild]
  | false =>
      cases lowered : WorkflowForge.isWildcard (lowerChar c) with
      | false => rfl
      | true => rw [lowers.2 c lowered, wild] at lowered; cases lowered

/-- The last branch of `shortest` is for a character without a meaning of its own. -/
theorem isWildcard_last {c : Char} {query : Text} (notPercent : c = '%' → False)
    (notUnderscore : c = '_' → False) (notEnd : c = '\\' → query = [] → False)
    (notQuote : ∀ d rest, c = '\\' → query = d :: rest → False)
    : isWildcard c = false := by
  have notBackslash : c ≠ '\\' := by
    intro same
    cases query with
    | nil => exact notEnd same rfl
    | cons d rest => exact notQuote d rest same rfl
  simp [isWildcard, notBackslash]
  exact ⟨notPercent, notUnderscore⟩

/-- The pattern matches the shortest text, by induction on the query. -/
theorem like_shortest (lowers : LowersByCharacter u lowerChar) (query : Text)
    : like ((query ++ ['%']).map lowerChar) ((shortest query).map lowerChar) = true := by
  have percent := lowers.fixed (c := '%') rfl
  have underscore := lowers.fixed (c := '_') rfl
  have backslash := lowers.fixed (c := '\\') rfl
  fun_induction shortest query with
  | case1 => simp [percent, like]
  | case2 query ih =>
      rw [List.cons_append, List.map_cons, percent, like_percent]
      exact ⟨[], _, rfl, ih⟩
  | case3 query ih => simpa [underscore, like] using ih
  | case4 => simp [percent, backslash, like]
  | case5 c query ih => simpa [backslash, like] using ih
  | case6 c query notPercent notUnderscore notEnd notQuote ih =>
      have plain := isWildcard_last notPercent notUnderscore notEnd notQuote
      rw [List.cons_append, List.map_cons, List.map_cons,
        like_cons ((lowers.isWildcard c).trans plain)]
      simpa using ih

/-- The pattern matches no shorter text, by induction on the query. -/
theorem shortest_le (lowers : LowersByCharacter u lowerChar) {query text : Text}
    (matched : like ((query ++ ['%']).map lowerChar) text = true)
    : (shortest query).length ≤ text.length := by
  have percent := lowers.fixed (c := '%') rfl
  have underscore := lowers.fixed (c := '_') rfl
  have backslash := lowers.fixed (c := '\\') rfl
  fun_induction shortest query generalizing text with
  | case1 => exact Nat.zero_le _
  | case2 query ih =>
      rw [List.cons_append, List.map_cons, percent, like_percent] at matched
      obtain ⟨before, rest, rfl, matched⟩ := matched
      have bound := ih matched
      rw [List.length_append]
      omega
  | case3 query ih =>
      cases text with
      | nil => simp [underscore, like] at matched
      | cons d rest => simpa using ih (by simpa [underscore, like] using matched)
  | case4 =>
      cases text with
      | nil => simp [percent, backslash, like] at matched
      | cons d rest => simp
  | case5 c query ih =>
      cases text with
      | nil => simp [backslash, like] at matched
      | cons d rest =>
          have both : d = lowerChar c ∧ like ((query ++ ['%']).map lowerChar) rest = true := by
            simpa [backslash, like] using matched
          simpa using ih both.2
  | case6 c query notPercent notUnderscore notEnd notQuote ih =>
      have plain := isWildcard_last notPercent notUnderscore notEnd notQuote
      rw [List.cons_append, List.map_cons, like_cons ((lowers.isWildcard c).trans plain)]
        at matched
      cases text with
      | nil => simp at matched
      | cons d rest =>
          simp only [Bool.and_eq_true] at matched
          simpa using ih matched.2

/-- A query that the shortest text of its pattern is equal to has no wildcard. -/
theorem plain_of_shortest (lowers : LowersByCharacter u lowerChar) {query : Text}
    (same : (shortest query).map lowerChar = query.map lowerChar)
    : ∀ c ∈ query, isWildcard c = false := by
  have lengths := congrArg List.length same
  simp only [List.length_map] at lengths
  fun_induction shortest query with
  | case1 => simp
  | case2 query ih =>
      have bound := shortest_length query
      simp only [List.length_cons] at lengths
      omega
  | case3 query ih =>
      have first := (List.cons.inj same).1
      rw [lowers.fixed (c := '_') rfl] at first
      have wild := lowers.isWildcard 'x'
      rw [first] at wild
      cases wild
  | case4 =>
      have first := (List.cons.inj same).1
      rw [lowers.fixed (c := '%') rfl, lowers.fixed (c := '\\') rfl] at first
      exact absurd first (by decide)
  | case5 c query ih =>
      have bound := shortest_length query
      simp only [List.length_cons] at lengths
      omega
  | case6 c query notPercent notUnderscore notEnd notQuote ih =>
      have plain := isWildcard_last notPercent notUnderscore notEnd notQuote
      have rest := ih (List.cons.inj same).2 (by simpa using lengths)
      simpa using ⟨plain, rest⟩

/-- The pattern of a query without wildcards, by induction on the query. -/
theorem like_plain (lowers : LowersByCharacter u lowerChar) {query text : Text}
    (plain : ∀ c ∈ query, isWildcard c = false)
    : like ((query ++ ['%']).map lowerChar) text = true ↔ query.map lowerChar <+: text := by
  induction query generalizing text with
  | nil =>
      rw [List.nil_append, List.map_cons, lowers.fixed (c := '%') rfl, like_percent]
      exact iff_of_true ⟨text, [], by simp, rfl⟩ (List.nil_prefix)
  | cons c query ih =>
      have wild := (lowers.isWildcard c).trans (plain c (List.mem_cons_self ..))
      rw [List.cons_append, List.map_cons, like_cons wild, List.map_cons]
      cases text with
      | nil => simp
      | cons d rest =>
          have others : like ((query ++ ['%']).map lowerChar) rest = true
              ↔ query.map lowerChar <+: rest :=
            ih (fun d member => plain d (List.mem_cons_of_mem _ member))
          simp only [List.head?_cons, List.tail_cons, Bool.and_eq_true, others,
            List.cons_prefix_cons, beq_iff_eq, Option.some.injEq]
          exact and_congr_left' eq_comm

/-- `ILIKE` selects exactly the texts of a column that contain the query if and only if the
query has no wildcard, or its pattern is longer than the column. -/
theorem containsIlike_iff (lowers : LowersByCharacter u lowerChar) (query : Text) (width : Nat)
    : (∀ column : Text, column.length ≤ width
        → (containsIlike u column query = true ↔ u.lower query <:+: u.lower column))
      ↔ (∀ c ∈ query, isWildcard c = false) ∨ width < (shortest query).length := by
  have expanded : ∀ column, containsIlike u column query = true
      ↔ ∃ before rest, u.lower column = before ++ rest
          ∧ like ((query ++ ['%']).map lowerChar) rest = true := by
    intro column
    unfold containsIlike
    rw [lowers.1 ('%' :: query ++ ['%']), List.cons_append, List.map_cons,
      lowers.fixed (c := '%') rfl, like_percent]
  constructor
  · intro agrees
    by_cases short : (shortest query).length ≤ width
    · refine .inl (plain_of_shortest lowers ?_)
      have selected : containsIlike u (shortest query) query = true :=
        (expanded _).mpr
          ⟨[], u.lower (shortest query), rfl, by rw [lowers.1]; exact like_shortest lowers query⟩
      have contained := (agrees _ short).mp selected
      rw [lowers.1, lowers.1] at contained
      have longer := contained.length_le
      rw [List.length_map, List.length_map] at longer
      exact (contained.eq_of_length (by
        rw [List.length_map, List.length_map]
        exact Nat.le_antisymm longer (shortest_length query))).symm
    · exact .inr (Nat.lt_of_not_le short)
  · rintro (plain | long) column fits
    · rw [expanded, lowers.1 query]
      constructor
      · rintro ⟨before, rest, joined, matched⟩
        obtain ⟨after, rfl⟩ := (like_plain lowers plain).mp matched
        exact ⟨before, after, by rw [joined, List.append_assoc]⟩
      · rintro ⟨before, after, joined⟩
        refine ⟨before, query.map lowerChar ++ after, ?_, ?_⟩
        · rw [← joined, List.append_assoc]
        · exact (like_plain lowers plain).mpr (List.prefix_append _ _)
    · have width : (u.lower column).length = column.length := by rw [lowers.1, List.length_map]
      refine iff_of_false ?_ ?_
      · rw [expanded]
        rintro ⟨before, rest, joined, matched⟩
        have bound := shortest_le lowers matched
        have lengths := congrArg List.length joined
        rw [List.length_append] at lengths
        omega
      · intro contained
        have bound := contained.length_le
        have least := shortest_length query
        rw [lowers.1 query, List.length_map] at bound
        omega

end Patterns

-----------------------------------------------------------------------------------------
-- The filters of the three lists
-----------------------------------------------------------------------------------------

variable {u : Unicode} {db : Database} {organizationId : UUID}

theorem listedDocuments_filename {query : DocumentListFilter} {text : Text}
    {entry : Document × DocumentVersionRecord}
    : entry ∈ listedDocuments u db organizationId { query with filename := some text }
      ↔ entry ∈ listedDocuments u db organizationId { query with filename := none }
        ∧ containsIlike u entry.1.displayFilename text = true := by
  simp only [mem_listedDocuments, DocumentListFilter.accepts, Option.all_some, Option.all_none,
    Bool.and_true, Bool.and_eq_true, and_assoc]

theorem listedBatches_name {query : BatchListFilter} {text : Text} {row : Batch}
    : row ∈ listedBatches u db organizationId { query with name := some text }
      ↔ row ∈ listedBatches u db organizationId { query with name := none }
        ∧ containsIlike u row.name text = true := by
  simp only [mem_listedBatches, BatchListFilter.accepts, Option.all_some, Option.all_none,
    Bool.and_true, Bool.and_eq_true, and_assoc]

theorem listedCases_title {query : CaseListFilter} {text : Text} {row : Case}
    : row ∈ listedCases u db organizationId { query with title := some text }
      ↔ row ∈ listedCases u db organizationId { query with title := none }
        ∧ containsIlike u row.title text = true := by
  simp only [mem_listedCases, CaseListFilter.accepts, Option.all_some, Option.all_none,
    Bool.and_true, Bool.and_eq_true, and_assoc]

/-- Of the rows that a list has without a text, it has those with the text whose column
contains it, whatever the case of its letters. -/
def SelectsContaining {α φ : Type} (u : Unicode) (listed : Database → UUID → φ → List α)
    (withText : φ → Option Text → φ) (column : α → Text) (text : Text)
    : Prop :=
  ∀ db, Constrained db → ∀ organizationId query row,
    row ∈ listed db organizationId (withText query (some text))
    ↔ row ∈ listed db organizationId (withText query none)
      ∧ u.lower text <:+: u.lower (column row)

/-- A list that filters a column by `ILIKE`. Any name that fits the column can be listed. -/
theorem selectsContaining_iff {lowerChar : Char → Char} (lowers : LowersByCharacter u lowerChar)
    {α φ : Type} {listed : Database → UUID → φ → List α} {withText : φ → Option Text → φ}
    {column : α → Text} (text : Text)
    (filters
      : ∀ db organizationId query row,
          row ∈ listed db organizationId (withText query (some text))
          ↔ row ∈ listed db organizationId (withText query none)
            ∧ containsIlike u (column row) text = true)
    (fits
      : ∀ db, Constrained db → ∀ organizationId query row,
          row ∈ listed db organizationId query → (column row).length ≤ 255)
    (listable
      : ∀ name : Text, name.length ≤ 255
        → ∃ query, ∃ row ∈ listed (filed name) 5 (withText query none), column row = name)
    : SelectsContaining u listed withText column text
      ↔ (∀ c ∈ text, isWildcard c = false) ∨ 255 < (shortest text).length := by
  rw [← containsIlike_iff lowers text 255]
  constructor
  · rintro selects name short
    obtain ⟨query, row, member, rfl⟩ := listable name short
    have filtered := filters (filed (column row)) 5 query row
    have selected := selects (filed (column row)) (filed_constrained short) 5 query row
    simpa [member] using filtered.symm.trans selected
  · intro agrees db constrained organizationId query row
    rw [filters]
    exact and_congr_right (fun member => agrees _ (fits db constrained _ _ row member))

/-- Each of the three filters selects exactly the rows that contain the query text if and only
if the text has none of `%`, `_` and backslash, or no text of 255 characters matches it. -/
theorem text_filters_iff {lowerChar : Char → Char} (lowers : LowersByCharacter u lowerChar)
    (text : Text)
    : (SelectsContaining u (listedDocuments u)
        (fun query filename => { query with filename }) (fun entry => entry.1.displayFilename)
        text
        ↔ (∀ c ∈ text, isWildcard c = false) ∨ 255 < (shortest text).length)
      ∧ (SelectsContaining u (listedBatches u) (fun query name => { query with name }) Batch.name
          text
          ↔ (∀ c ∈ text, isWildcard c = false) ∨ 255 < (shortest text).length)
      ∧ (SelectsContaining u (listedCases u) (fun query title => { query with title }) Case.title
          text
          ↔ (∀ c ∈ text, isWildcard c = false) ∨ 255 < (shortest text).length) := by
  refine ⟨selectsContaining_iff lowers text (fun _ _ _ _ => listedDocuments_filename) ?_ ?_,
    selectsContaining_iff lowers text (fun _ _ _ _ => listedBatches_name) ?_ ?_,
    selectsContaining_iff lowers text (fun _ _ _ _ => listedCases_title) ?_ ?_⟩
  · intro db constrained organizationId query entry member
    have fits := constrained.fits .documents entry.1 (mem_listedDocuments.mp member).1
    simp only [rowFits, within, Bool.and_eq_true, decide_eq_true_eq] at fits
    exact fits.1.1
  · intro name short
    exact ⟨{}, (_, _), mem_listedDocuments.mpr
      ⟨List.mem_singleton_self _, List.mem_singleton_self _, rfl, rfl, rfl, rfl⟩, rfl⟩
  · intro db constrained organizationId query row member
    have fits := constrained.fits .batches row (mem_listedBatches.mp member).1
    simp only [rowFits, within, Bool.and_eq_true, decide_eq_true_eq] at fits
    exact fits.1.1.1
  · intro name short
    exact ⟨{}, _, mem_listedBatches.mpr ⟨List.mem_singleton_self _, rfl, rfl⟩, rfl⟩
  · intro db constrained organizationId query row member
    have fits := constrained.fits .cases row (mem_listedCases.mp member).1
    simp only [rowFits, within, Bool.and_eq_true, decide_eq_true_eq] at fits
    exact fits.1.1.1
  · intro name short
    exact ⟨{}, _, mem_listedCases.mpr ⟨List.mem_singleton_self _, rfl, rfl⟩, rfl⟩

theorem asciiUnicode_lowers : LowersByCharacter asciiUnicode asciiLower := by
  refine ⟨fun _ => rfl, fun c wild => ?_⟩
  by_cases upper : isAsciiUpper c = true
  · have code := asciiLower_capital upper
    simp only [isWildcard, Bool.or_eq_true, beq_iff_eq] at wild
    rcases wild with (same | same) | same <;> rw [same] at code <;> exact absurd code (by decide)
  · rw [asciiLower, if_neg upper]

theorem text_filters_iff_sample
    : SelectsContaining asciiUnicode (listedBatches asciiUnicode)
        (fun query name => { query with name }) Batch.name "Invoices".toList := by
  have literal : ("Invoices".toList.all fun c => !isWildcard c) = true := by decide
  have plain : ∀ c ∈ "Invoices".toList, isWildcard c = false := fun c member => by
    simpa using List.all_eq_true.mp literal c member
  exact (text_filters_iff asciiUnicode_lowers "Invoices".toList).2.1.mpr (.inl plain)

/-- The query `50%` lists what is named `500`. -/
theorem percent_unescaped
    : Constrained (filed "500".toList)
      ∧ ¬ "50%".toList <:+: "500".toList
      ∧ (∃ entry ∈ listedDocuments asciiUnicode (filed "500".toList) 5
            { filename := some "50%".toList }, entry.1.displayFilename = "500".toList)
      ∧ (∃ row ∈ listedBatches asciiUnicode (filed "500".toList) 5
            { name := some "50%".toList }, row.name = "500".toList)
      ∧ ∃ row ∈ listedCases asciiUnicode (filed "500".toList) 5
          { title := some "50%".toList }, row.title = "500".toList := by
  refine ⟨filed_constrained (by decide), by decide,
    ⟨(_, _), mem_listedDocuments.mpr
      ⟨List.mem_singleton_self _, List.mem_singleton_self _, rfl, rfl, rfl, by decide⟩, rfl⟩,
    ⟨_, mem_listedBatches.mpr ⟨List.mem_singleton_self _, rfl, by decide⟩, rfl⟩,
    ⟨_, mem_listedCases.mpr ⟨List.mem_singleton_self _, rfl, by decide⟩, rfl⟩⟩

end WorkflowForge
