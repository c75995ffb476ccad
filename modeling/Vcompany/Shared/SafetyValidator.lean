import Vcompany.Foundation.LineSearch
import Vcompany.Foundation.Search
import Vcompany.Monitor.RoadmapGrammar

/-! # The table of a safety section

`validate_safety_table` takes the lines behind the first heading that start and end with `|`, and
looks for the names of the columns anywhere in the first of them. A proper table has the names
in cells of its header, and a row below the header. The validator is right except on two kinds of
texts: those where such a line misleads it, and those where it overlooks a proper table
(`validates_right_iff`).
-/

namespace Vcompany.Shared

open Foundation Monitor

/-- `REQUIRED_COLUMNS`. -/
def requiredColumns : List Text :=
  ["Agent/Component", "Circumstance", "Action", "Concurrent With", "Safe?", "Mitigation"]

/-! ## The validator -/

def title : Text := "Interaction Safety"

/-- `##\s+Interaction Safety\s*$`: what follows the heading. -/
def safetyHeading (text : Text) : Option Text := do
  let text ← after "##".toList text
  let text ← spaces text
  let text ← after title text
  Text.blankEnd text

/-- `##\s+`. -/
def nextHeading (text : Text) : Option Text := do
  let text ← after "##".toList text
  spaces text

/-- `^\|.+\|$`: a line that starts and ends with `|`, with something between. -/
def IsTableRow (line : Text) : Prop :=
  3 ≤ line.length ∧ line.head? = some '|' ∧ line.getLast? = some '|'

instance : DecidablePred IsTableRow := fun _ => inferInstanceAs (Decidable (_ ∧ _ ∧ _))

/-- The row has only whitespace, `-`, `:` and `|`. -/
def IsSeparator (row : Text) : Prop :=
  ∀ c ∈ row, Text.isSpace c = true ∨ c ∈ ['-', ':', '|']

instance : DecidablePred IsSeparator := fun row => List.decidableBAll _ row

/-- The lines up to the next heading of the second level, as the search finds it. -/
def sectionLines (lines : List Text) : List Text :=
  ((Text.searchLines nextHeading lines).map Prod.fst).getD lines

section Validator

variable (casing : Text.Casing)

/-- The names of columns that the row does not have. -/
def missingColumns (headerRow : Text) : List Text :=
  requiredColumns.filter fun column =>
    decide (¬ Text.lower casing column <:+: Text.lower casing headerRow)

/-- `validate_safety_table`. -/
def validateSafetyTable (planContent : Text) : Bool × Text :=
  match Text.searchLines safetyHeading (Text.feedLines planContent) with
  | none => (false, "Missing '## Interaction Safety' section".toList)
  | some (_, rest) =>
      match (sectionLines (Text.feedLines rest)).filter (IsTableRow ·) with
      | [] => (false, "No table found in Interaction Safety section".toList)
      | headerRow :: rows =>
          let missing := missingColumns casing headerRow
          if missing ≠ [] then
            (false, "Safety table missing required columns: ".toList ++
              List.intercalate ", ".toList missing)
          else if rows.filter (¬ IsSeparator ·) = [] then
            (false, "Safety table has no data rows".toList)
          else (true, "Safety table validated".toList)

end Validator

/-! ## Proper tables -/

/-- `## Interaction Safety` on a line of its own. -/
def IsSafetyHeading (line : Text) : Prop :=
  ∃ blank trailing, line = "##".toList ++ blank ++ title ++ trailing ∧ blank ≠ [] ∧
    Text.Blank blank ∧ Text.Blank trailing

/-- A heading of the second level. -/
def IsSecondLevel (line : Text) : Prop :=
  "##".toList <+: line ∧ ∀ c ∈ (line.drop 2).head?, Text.isSpace c = true

instance : DecidablePred IsSecondLevel := fun line =>
  @instDecidableAnd _ _ _ (Option.decidableForallMem (line.drop 2).head?)

/-- The lines of a section, up to the next heading of the second level. -/
def sectionOf (lines : List Text) : List Text := lines.takeWhile (¬ IsSecondLevel ·)

/-- A row of a markdown table, which may be padded with whitespace. -/
def IsRowLine (line : Text) : Prop :=
  2 ≤ (Text.strip line).length ∧ (Text.strip line).head? = some '|' ∧
    (Text.strip line).getLast? = some '|'

instance : DecidablePred IsRowLine := fun _ => inferInstanceAs (Decidable (_ ∧ _ ∧ _))

/-- The cells of a row, trimmed. -/
def cells (line : Text) : List Text :=
  (((Text.strip line).splitOn '|').tail.dropLast).map Text.strip

section Proper

variable (casing : Text.Casing)

/-- Each column has a cell of its own in the row. -/
def HasColumns (line : Text) : Prop :=
  ∀ column ∈ requiredColumns, ∃ cell ∈ cells line,
    Text.lower casing cell = Text.lower casing column

instance : DecidablePred (HasColumns casing) := fun _ => List.decidableBAll _ _

/-- A proper table in the section of a heading: rows without a gap, below a line that is none. Its
header has the columns, and a row below the header is no separator. -/
structure ProperTable (planContent heading : Text) (rest above : List Text) (header : Text)
    (rows below : List Text) : Prop where
  inPlan : heading :: rest <:+ Text.feedLines planContent
  isHeading : IsSafetyHeading heading
  inSection : sectionOf rest = above ++ header :: (rows ++ below)
  isRow : ∀ row ∈ header :: rows, IsRowLine row
  apart : ∀ line ∈ above.getLast?, ¬ IsRowLine line
  columns : HasColumns casing header
  data : ∃ row ∈ rows, ¬ IsSeparator row

/-- Some section has a proper table. -/
def HasProperTable (planContent : Text) : Prop :=
  ∃ heading rest above header rows below,
    ProperTable casing planContent heading rest above header rows below

/-- The validator accepts exactly the proper tables. -/
def ValidatesRight (planContent : Text) : Prop :=
  (validateSafetyTable casing planContent).1 = true ↔ HasProperTable casing planContent

end Proper

/-! ## Where the validator looks -/

/-- The lines start with the heading, and with the rest it ends; it may be broken over lines. -/
inductive HeadingAt : List Text → List Text → Prop where
  | whole {heading : Text} {rest : List Text} :
      IsSafetyHeading heading → HeadingAt (heading :: rest) rest
  | broken {blank lead trailing : Text} {blanks rest : List Text} :
      Text.Blank blank → (∀ line ∈ blanks, Text.Blank line) → Text.Blank lead →
        Text.Blank trailing →
          HeadingAt (("##".toList ++ blank) :: (blanks ++ (lead ++ title ++ trailing) :: rest)) rest

theorem HeadingAt.suffix {spot rest : List Text} (heading : HeadingAt spot rest) :
    rest <:+ spot := by
  cases heading with
  | whole => exact List.suffix_cons _ _
  | @broken blank lead trailing blanks =>
      exact ⟨("##".toList ++ blank) :: (blanks ++ [lead ++ title ++ trailing]), by simp⟩

/-- The first heading, where it starts and what is below it. -/
def FirstHeading (lines spot rest : List Text) : Prop :=
  ∃ before, lines = before ++ spot ∧ HeadingAt spot rest ∧
    ∀ sooner later, lines = sooner ++ later → (∃ other, HeadingAt later other) →
      before.length ≤ sooner.length

/-- The first row without padding, with the lines around it. -/
def FirstRow (lines above : List Text) (header : Text) (below : List Text) : Prop :=
  lines = above ++ header :: below ∧ IsTableRow header ∧ ∀ line ∈ above, ¬ IsTableRow line

/-- The row has the names of all columns, anywhere. -/
def MentionsColumns (casing : Text.Casing) (headerRow : Text) : Prop :=
  ∀ column ∈ requiredColumns, Text.lower casing column <:+: Text.lower casing headerRow

/-- Some row without padding is no separator. -/
def HasDataRow (lines : List Text) : Prop := ∃ row ∈ lines, IsTableRow row ∧ ¬ IsSeparator row

theorem firstHeading_iff {lines spot rest : List Text} :
    FirstHeading lines spot rest ↔
      (∃ before, Leftmost (∃ other, HeadingAt · other) lines before spot) ∧
        HeadingAt spot rest := by
  constructor
  · rintro ⟨before, same, starts, least⟩
    exact ⟨⟨before, same, ⟨rest, starts⟩, least⟩, starts⟩
  · rintro ⟨⟨before, same, -, least⟩, starts⟩
    exact ⟨before, same, starts, least⟩

theorem FirstHeading.spot_unique {lines spot rest spot' rest' : List Text}
    (first : FirstHeading lines spot rest) (other : FirstHeading lines spot' rest') :
    spot = spot' := by
  obtain ⟨⟨_, leftmost⟩, -⟩ := firstHeading_iff.mp first
  obtain ⟨⟨_, leftmost'⟩, -⟩ := firstHeading_iff.mp other
  exact (leftmost.unique leftmost').2

theorem FirstRow.unique {lines above below above' below' : List Text} {header header' : Text}
    (first : FirstRow lines above header below) (other : FirstRow lines above' header' below') :
    above = above' ∧ header = header' ∧ below = below' := by
  obtain ⟨rfl, isRow, none⟩ := first
  obtain ⟨same, isRow', none'⟩ := other
  have inside {line : Text} {front between : List Text} : line ∈ front ++ line :: between :=
    List.mem_append_right _ List.mem_cons_self
  rcases List.append_eq_append_iff.mp same with
    ⟨_ | ⟨line, between⟩, rfl, rest⟩ | ⟨_ | ⟨line, between⟩, rfl, rest⟩
  · simpa using rest
  · obtain ⟨rfl, -⟩ := List.cons.inj rest
    exact absurd isRow (none' _ inside)
  · simpa [eq_comm] using rest
  · obtain ⟨rfl, -⟩ := List.cons.inj rest
    exact absurd isRow' (none _ inside)

/-! ## The heading -/

section Heading

variable {line : Text} {lines : List Text}

theorem after_append_behind {start : Text} (inline : '\n' ∉ start) :
    after start (line ++ Text.behind lines) =
      (after start line).map (· ++ Text.behind lines) := by
  unfold after
  rw [if_congr (Text.prefix_append_behind_iff inline) rfl rfl]
  split
  · next starts =>
      obtain ⟨rest, rfl⟩ := starts
      rw [Option.map_some, List.append_assoc, List.drop_left, List.drop_left]
  · rfl

theorem spaces_eq_some_iff {text rest : Text} :
    spaces text = some rest ↔
      (∃ c ∈ text.head?, Text.isSpace c = true) ∧ rest = text.dropWhile Text.isSpace := by
  cases text with
  | nil => exact iff_of_false (Option.some_ne_none _).symm fun ⟨⟨_, first, _⟩, _⟩ => by cases first
  | cons c text =>
      rw [spaces]
      by_cases space : Text.isSpace c = true
      · rw [if_pos space, List.dropWhile_cons_of_pos space, Option.some.injEq, eq_comm,
          and_iff_right ⟨c, rfl, space⟩]
      · rw [if_neg space]
        refine iff_of_false (Option.some_ne_none _).symm ?_
        rintro ⟨⟨_, ⟨⟩, first⟩, _⟩
        exact space first

/-- What is left of a line once the title has been read from it. -/
private theorem exists_of_title {rest text : Text} (inline : '\n' ∉ line)
    (others : ∀ other ∈ lines, '\n' ∉ other)
    (titled : after title (line.dropWhile Text.isSpace ++ Text.behind lines) = some rest)
    (ended : Text.blankEnd rest = some text) :
    ∃ trailing, line = line.takeWhile Text.isSpace ++ title ++ trailing ∧
      Text.Blank trailing ∧ text = Text.behind (lines.dropWhile (Text.Blank ·)) := by
  rw [after_append_behind (by decide)] at titled
  obtain ⟨trailing, found, rfl⟩ := Option.map_eq_some_iff.mp titled
  have parts : line = line.takeWhile Text.isSpace ++ title ++ trailing := by
    rw [List.append_assoc, ← after_eq_some_iff.mp found, List.takeWhile_append_dropWhile]
  have own : '\n' ∉ trailing := fun member =>
    inline (by rw [parts]; exact List.mem_append_right _ member)
  rw [Text.blankEnd_append own (Text.blankEnd_behind others)] at ended
  split at ended
  · next blank => exact ⟨trailing, parts, blank, (Option.some.inj ended).symm⟩
  · cases ended

/-- The heading that the pattern finds. -/
theorem safetyHeading_eq_some_iff (inline : '\n' ∉ line)
    (others : ∀ other ∈ lines, '\n' ∉ other) {text : Text} :
    safetyHeading (line ++ Text.behind lines) = some text ↔
      ∃ rest, HeadingAt (line :: lines) rest ∧
        text = Text.behind (rest.dropWhile (Text.Blank ·)) := by
  unfold safetyHeading
  simp only [Option.bind_eq_bind, Option.bind_eq_some_iff]
  constructor
  · rintro ⟨_, marked, _, spaced, _, titled, ended⟩
    rw [after_append_behind (by decide)] at marked
    obtain ⟨behindMarks, found, rfl⟩ := Option.map_eq_some_iff.mp marked
    obtain rfl := after_eq_some_iff.mp found
    obtain ⟨⟨c, first, space⟩, rfl⟩ := spaces_eq_some_iff.mp spaced
    have own : '\n' ∉ behindMarks := fun member => inline (List.mem_append_right _ member)
    rw [Text.dropWhile_append_behind] at titled
    by_cases blank : Text.Blank behindMarks
    · -- the whitespace covers blank lines, and the title is on a later one
      rw [if_pos blank, Text.dropWhile_behind] at titled
      have split := (List.takeWhile_append_dropWhile (p := fun line => decide (Text.Blank line))
        (l := lines)).symm
      rcases left : lines.dropWhile (Text.Blank ·) with _ | ⟨titleLine, rest⟩
      · rw [left] at titled
        have untitled : after title [] = none := by decide
        exact absurd (titled.symm.trans untitled) (Option.some_ne_none _)
      · rw [left] at titled split
        have later : ∀ other ∈ titleLine :: rest, '\n' ∉ other := fun other member =>
          others other (by rw [split]; exact List.mem_append_right _ member)
        obtain ⟨trailing, parts, blankEnd, rfl⟩ := exists_of_title
          (later titleLine List.mem_cons_self) (fun other member =>
            later other (List.mem_cons_of_mem _ member)) titled ended
        refine ⟨rest, ?_, rfl⟩
        rw [split, parts]
        refine .broken blank (fun line member => ?_) (fun c member => ?_) blankEnd
        · exact of_decide_eq_true
            (List.mem_takeWhile_imp (p := fun line => decide (Text.Blank line)) member)
        · exact List.mem_takeWhile_imp member
    · rw [if_neg blank] at titled
      obtain ⟨trailing, parts, blankEnd, rfl⟩ := exists_of_title own others titled ended
      refine ⟨lines, .whole ⟨behindMarks.takeWhile Text.isSpace, trailing, ?_, ?_, ?_, blankEnd⟩,
        rfl⟩
      · rw [List.append_assoc, List.append_assoc, ← List.append_assoc _ title, ← parts]
      · obtain ⟨d, rest, rfl⟩ := List.exists_cons_of_ne_nil
          (show behindMarks ≠ [] from fun none => blank (by simp [none, Text.Blank]))
        obtain rfl : d = c := Option.some.inj first
        rw [List.takeWhile_cons_of_pos space]
        exact List.cons_ne_nil _ _
      · exact fun c member => List.mem_takeWhile_imp member
  · rintro ⟨rest, heading, rfl⟩
    cases heading with
    | whole isHeading =>
        obtain ⟨blank, trailing, rfl, inhabited, isBlank, blankEnd⟩ := isHeading
        have own : '\n' ∉ trailing := fun member => inline (List.mem_append_right _ member)
        refine ⟨blank ++ (title ++ (trailing ++ Text.behind lines)),
          after_eq_some_iff.mpr (by simp only [List.append_assoc]), _,
          spaces_append (c := 'I') inhabited isBlank (by decide) _, _,
          after_eq_some_iff.mpr rfl, ?_⟩
        rw [Text.blankEnd_append own (Text.blankEnd_behind others), if_pos blankEnd]
    | @broken blank lead trailing blanks _ isBlank blankLines leadBlank blankEnd =>
        obtain ⟨_, later⟩ := List.forall_mem_append.mp others
        obtain ⟨ownLine, below⟩ := List.forall_mem_cons.mp later
        have own : '\n' ∉ trailing := fun member => ownLine (List.mem_append_right _ member)
        have covered : Text.Blank (blank ++ (Text.behind blanks ++ '\n' :: lead)) := by
          intro c member
          rcases List.mem_append.mp member with member | member
          · exact isBlank c member
          rcases List.mem_append.mp member with member | member
          · exact Text.blank_behind blankLines c member
          rcases List.mem_cons.mp member with rfl | member
          · decide
          · exact leadBlank c member
        refine ⟨blank ++ (Text.behind blanks ++ '\n' :: lead) ++
            (title ++ (trailing ++ Text.behind rest)), after_eq_some_iff.mpr ?_, _,
          spaces_append (c := 'I') (by simp) covered (by decide) _, _,
          after_eq_some_iff.mpr rfl, ?_⟩
        · rw [Text.behind_append, Text.behind]
          simp only [List.append_assoc, List.cons_append]
        · rw [Text.blankEnd_append own (Text.blankEnd_behind below), if_pos blankEnd]

/-- The first heading that the search finds. -/
theorem searchLines_safetyHeading_iff (inline : ∀ other ∈ lines, '\n' ∉ other) {text : Text} :
    (∃ before, Text.searchLines safetyHeading lines = some (before, text)) ↔
      ∃ spot rest, FirstHeading lines spot rest ∧
        text = Text.behind (rest.dropWhile (Text.Blank ·)) := by
  have heading (line : Text) (below : List Text) (tail : line :: below <:+ lines) {text : Text} :
      safetyHeading (line ++ Text.behind below) = some text ↔
        ∃ rest, HeadingAt (line :: below) rest ∧
          text = Text.behind (rest.dropWhile (Text.Blank ·)) :=
    safetyHeading_eq_some_iff (inline line (tail.subset List.mem_cons_self))
      fun other member => inline other (tail.subset (List.mem_cons_of_mem _ member))
  have meets (tail : List Text) (inside : tail <:+ lines) :
      Text.FoundAt safetyHeading tail ↔ ∃ rest, HeadingAt tail rest := by
    cases tail with
    | nil => exact iff_of_false id fun ⟨_, starts⟩ => by cases starts
    | cons line below =>
        simp only [Text.FoundAt, Option.ne_none_iff_exists', heading line below inside]
        constructor
        · rintro ⟨_, rest, starts, -⟩
          exact ⟨rest, starts⟩
        · rintro ⟨rest, starts⟩
          exact ⟨_, rest, starts, rfl⟩
  simp only [Text.searchLines_eq_some_iff, firstHeading_iff, leftmost_congr meets]
  constructor
  · rintro ⟨before, line, below, first, matched⟩
    obtain ⟨rest, starts, rfl⟩ := (heading line below first.isSuffix).mp matched
    exact ⟨line :: below, rest, ⟨⟨before, first⟩, starts⟩, rfl⟩
  · rintro ⟨_ | ⟨line, below⟩, rest, ⟨⟨before, first⟩, starts⟩, rfl⟩
    · cases starts
    · exact ⟨before, line, below, first,
        (heading line below first.isSuffix).mpr ⟨rest, starts, rfl⟩⟩

end Heading

/-! ## The section -/

section Section

variable {line : Text} {lines : List Text}

theorem nextHeading_isSome_iff :
    (nextHeading (line ++ Text.behind lines)).isSome = true ↔
      IsSecondLevel line ∧ (lines = [] → line ≠ "##".toList) := by
  have marks : nextHeading (line ++ Text.behind lines) =
      (after "##".toList line).bind fun rest => spaces (rest ++ Text.behind lines) := by
    unfold nextHeading
    rw [Option.bind_eq_bind, after_append_behind (by decide), Option.bind_map]
    rfl
  simp only [marks, Option.isSome_iff_exists, Option.bind_eq_some_iff, after_eq_some_iff,
    spaces_eq_some_iff]
  constructor
  · rintro ⟨_, rest, rfl, ⟨c, first, space⟩, -⟩
    cases rest with
    | nil =>
        refine ⟨⟨List.prefix_append _ _, by simp⟩, ?_⟩
        rintro rfl
        cases first
    | cons d rest =>
        obtain rfl : d = c := Option.some.inj first
        refine ⟨⟨List.prefix_append _ _, ?_⟩, by simp⟩
        rintro e ⟨⟩
        exact space
  · rintro ⟨⟨⟨rest, rfl⟩, first⟩, more⟩
    refine ⟨_, rest, rfl, ?_, rfl⟩
    cases rest with
    | nil =>
        cases lines with
        | nil => exact absurd rfl (more rfl)
        | cons next lines => exact ⟨'\n', rfl, by decide⟩
    | cons c rest => exact ⟨c, rfl, first c rfl⟩

theorem sectionLines_cons (line : Text) (lines : List Text) :
    sectionLines (line :: lines) =
      if (nextHeading (line ++ Text.behind lines)).isSome then []
      else line :: sectionLines lines := by
  unfold sectionLines
  rw [Text.searchLines]
  rcases nextHeading (line ++ Text.behind lines) with _ | _
  · rcases Text.searchLines nextHeading lines with _ | _ <;> rfl
  · rfl

/-- The rows of a section: whether a last line of two marks ends it makes no difference. -/
theorem filter_sectionLines (lines : List Text) :
    (sectionLines lines).filter (IsTableRow ·) = (sectionOf lines).filter (IsTableRow ·) := by
  induction lines with
  | nil => rfl
  | cons line lines ih =>
      rw [sectionLines_cons, sectionOf]
      by_cases ends : (nextHeading (line ++ Text.behind lines)).isSome = true
      · rw [if_pos ends, List.takeWhile_cons_of_neg]
        simpa using (nextHeading_isSome_iff.mp ends).1
      rw [if_neg ends]
      by_cases second : IsSecondLevel line
      · -- the last line of the text, without anything behind the marks
        rw [nextHeading_isSome_iff, and_iff_right second] at ends
        obtain ⟨rfl, alone⟩ := Classical.not_imp.mp ends
        rw [not_not.mp alone]
        decide
      · rw [List.takeWhile_cons_of_pos (by simpa using second), List.filter_cons,
          List.filter_cons, ih]
        rfl

/-- Blank lines have no rows and end no section. -/
theorem filter_sectionOf_dropWhile (lines : List Text) :
    (sectionOf (lines.dropWhile (Text.Blank ·))).filter (IsTableRow ·) =
      (sectionOf lines).filter (IsTableRow ·) := by
  induction lines with
  | nil => rfl
  | cons line lines ih =>
      by_cases blank : Text.Blank line
      · have solid (c : Char) (other : Text.isSpace c = false) : line.head? ≠ some c := by
          intro first
          obtain ⟨rest, rfl⟩ := List.head?_eq_some_iff.mp first
          rw [blank c List.mem_cons_self] at other
          cases other
        have noRow : ¬ IsTableRow line := fun row => solid '|' (by decide) row.2.1
        have noHeading : ¬ IsSecondLevel line := by
          rintro ⟨⟨rest, rfl⟩, -⟩
          exact solid '#' (by decide) rfl
        rw [List.dropWhile_cons_of_pos (by simpa using blank), ih, sectionOf, sectionOf,
          List.takeWhile_cons_of_pos (by simpa using noHeading),
          List.filter_cons_of_neg (by simpa using noRow)]
      · rw [List.dropWhile_cons_of_neg (by simpa using blank)]

end Section

/-! ## What is accepted -/

section Accepted

variable {casing : Text.Casing} {planContent : Text}

theorem missingColumns_eq_nil_iff {headerRow : Text} :
    missingColumns casing headerRow = [] ↔ MentionsColumns casing headerRow := by
  unfold missingColumns
  rw [List.filter_eq_nil_iff]
  simp [MentionsColumns]

/-- The first row without padding leads those that are found. -/
theorem filter_isTableRow_iff {lines rows : List Text} {header : Text} :
    lines.filter (IsTableRow ·) = header :: rows ↔
      ∃ above below, FirstRow lines above header below ∧ rows = below.filter (IsTableRow ·) := by
  rw [List.filter_eq_cons_iff]
  simp only [decide_eq_true_eq, FirstRow, and_assoc]
  refine exists_congr fun above => exists_congr fun below => and_congr_right fun _ => ?_
  rw [and_left_comm]
  exact and_congr_right fun _ => and_congr_right fun _ => eq_comm

theorem hasDataRow_iff {lines : List Text} :
    (lines.filter (IsTableRow ·)).filter (¬ IsSeparator ·) ≠ [] ↔ HasDataRow lines := by
  rw [Ne, List.filter_eq_nil_iff]
  simp [HasDataRow]

/-- What is made of the lines below the first heading. -/
theorem validateSafetyTable_of_firstHeading {spot rest : List Text}
    (first : FirstHeading (Text.feedLines planContent) spot rest) :
    (validateSafetyTable casing planContent).1 = true ↔
      ∃ above header below, FirstRow (sectionOf rest) above header below ∧
        MentionsColumns casing header ∧ HasDataRow below := by
  have inline : ∀ line ∈ Text.feedLines planContent, '\n' ∉ line :=
    fun line => Text.notMem_of_mem_feedLines
  obtain ⟨before, searched⟩ :=
    (searchLines_safetyHeading_iff inline).mpr ⟨spot, rest, first, rfl⟩
  have below : ∀ line ∈ rest.dropWhile (Text.Blank ·), '\n' ∉ line := by
    intro line member
    obtain ⟨above, same, heading, -⟩ := first
    refine inline line (same ▸ List.mem_append_right above ?_)
    exact heading.suffix.subset ((List.dropWhile_suffix _).subset member)
  have rows : (sectionLines (Text.feedLines (Text.behind (rest.dropWhile (Text.Blank ·))))).filter
      (IsTableRow ·) = (sectionOf rest).filter (IsTableRow ·) := by
    rw [Text.feedLines_behind below, filter_sectionLines, ← filter_sectionOf_dropWhile rest]
    rfl
  unfold validateSafetyTable
  rw [searched]
  dsimp only
  rw [rows]
  rcases found : (sectionOf rest).filter (IsTableRow ·) with _ | ⟨header, others⟩
  · refine iff_of_false Bool.false_ne_true ?_
    rintro ⟨above, header, below, firstRow, -⟩
    rw [filter_isTableRow_iff.mpr ⟨above, below, firstRow, rfl⟩] at found
    cases found
  · obtain ⟨above, below, firstRow, rfl⟩ := filter_isTableRow_iff.mp found
    dsimp only
    have only : (∃ above header below, FirstRow (sectionOf rest) above header below ∧
        MentionsColumns casing header ∧ HasDataRow below) ↔
          MentionsColumns casing header ∧ HasDataRow below := by
      refine ⟨?_, fun accepted => ⟨above, header, below, firstRow, accepted⟩⟩
      rintro ⟨_, other, more, otherRow, mentions, data⟩
      rw [filter_isTableRow_iff.mpr ⟨_, more, otherRow, rfl⟩] at found
      obtain ⟨rfl, same⟩ := List.cons.inj found
      exact ⟨mentions, by rwa [← hasDataRow_iff, ← same, hasDataRow_iff]⟩
    rw [only, ← missingColumns_eq_nil_iff, ← hasDataRow_iff]
    by_cases complete : missingColumns casing header = []
    · rw [if_neg (not_not.mpr complete), and_iff_right complete]
      split
      · next none => exact iff_of_false Bool.false_ne_true (not_not.mpr none)
      · next some => exact iff_of_true rfl some
    · rw [if_pos complete]
      exact iff_of_false Bool.false_ne_true fun accepted => complete accepted.1

/-- A plan is accepted for the first row without padding and one below it. -/
theorem validateSafetyTable_iff :
    (validateSafetyTable casing planContent).1 = true ↔
      ∃ spot rest above header below, FirstHeading (Text.feedLines planContent) spot rest ∧
        FirstRow (sectionOf rest) above header below ∧ MentionsColumns casing header ∧
          HasDataRow below := by
  have inline : ∀ line ∈ Text.feedLines planContent, '\n' ∉ line :=
    fun line => Text.notMem_of_mem_feedLines
  constructor
  · intro valid
    have headed : ∃ text before,
        Text.searchLines safetyHeading (Text.feedLines planContent) = some (before, text) := by
      unfold validateSafetyTable at valid
      split at valid
      · exact absurd valid Bool.false_ne_true
      · next before text searched => exact ⟨text, before, searched⟩
    obtain ⟨text, searched⟩ := headed
    obtain ⟨spot, rest, first, -⟩ := (searchLines_safetyHeading_iff inline).mp searched
    obtain ⟨above, header, below, accepted⟩ :=
      (validateSafetyTable_of_firstHeading first).mp valid
    exact ⟨spot, rest, above, header, below, first, accepted⟩
  · rintro ⟨spot, rest, above, header, below, first, accepted⟩
    exact (validateSafetyTable_of_firstHeading first).mpr ⟨above, header, below, accepted⟩

theorem infix_of_mem_cells {line cell : Text} (member : cell ∈ cells line) : cell <:+: line := by
  obtain ⟨part, inside, rfl⟩ := List.mem_map.mp member
  have split : part ∈ (Text.strip line).splitOn '|' :=
    List.mem_of_mem_tail (List.mem_of_mem_dropLast inside)
  exact (Text.strip_isInfix part).trans
    (((Text.splitOn_parts '|' _).1 part split).trans (Text.strip_isInfix line))

/-- A header with a cell for each column mentions the columns. -/
theorem mentionsColumns_of_hasColumns {line : Text} (columns : HasColumns casing line) :
    MentionsColumns casing line := by
  have plain : ∀ column ∈ requiredColumns, Text.Ascii column ∧
      Text.Ascii (column.map Char.toLower) ∧ column.map Char.toLower ≠ [] := by decide
  intro column member
  obtain ⟨ascii, lowered, inhabited⟩ := plain column member
  obtain ⟨cell, inside, same⟩ := columns column member
  rw [Text.lower_of_ascii casing ascii] at same ⊢
  have own : Text.Mentions (column.map Char.toLower) cell :=
    (Text.infix_lower_iff casing lowered inhabited cell).mp (same ▸ List.infix_rfl)
  exact (Text.infix_lower_iff casing lowered inhabited line).mpr
    (own.of_isInfix (infix_of_mem_cells inside))

/-- The table that stands first is accepted if its header and a row below it are not padded. -/
theorem accepts_first_table {spot rest above below : List Text} {header : Text}
    (first : FirstHeading (Text.feedLines planContent) spot rest)
    (row : FirstRow (sectionOf rest) above header below) (columns : HasColumns casing header)
    (data : HasDataRow below) : (validateSafetyTable casing planContent).1 = true :=
  validateSafetyTable_iff.mpr ⟨spot, rest, above, header, below, first, row,
    mentionsColumns_of_hasColumns columns, data⟩

end Accepted

/-! ## Where it is right -/

section Right

variable (casing : Text.Casing) (planContent : Text)

/-- A proper table is not what the validator looks at: its heading is not the first, or a row
without padding stands above it in the section, or its header is padded, or so is each row below
the header that is no separator. -/
def Unseen : Prop :=
  ∃ heading rest above header rows below,
    ProperTable casing planContent heading rest above header rows below ∧
      (¬ FirstHeading (Text.feedLines planContent) (heading :: rest) rest ∨
        (∃ line ∈ above, IsTableRow line) ∨ ¬ IsTableRow header ∨ ¬ HasDataRow rows)

/-- A row misleads the validator: the first without padding mentions the columns, and one below it
is no separator, but the heading is broken over lines, or a padded row stands right above, or a
name is not a cell, or the rows right below are separators. No other table makes up for it. -/
def Misled : Prop :=
  ¬ Unseen casing planContent ∧ ∃ spot rest above header below,
    FirstHeading (Text.feedLines planContent) spot rest ∧
      FirstRow (sectionOf rest) above header below ∧ MentionsColumns casing header ∧
      HasDataRow below ∧
      ((∀ heading ∈ spot.head?, ¬ IsSafetyHeading heading) ∨
        (∃ line ∈ above.getLast?, IsRowLine line) ∨ ¬ HasColumns casing header ∨
        ∀ row ∈ below.takeWhile (IsRowLine ·), IsSeparator row)

/-- The validator overlooks a table that it does not look at: the first row without padding, if
there is one, lacks a name or has only separators of its kind below it. -/
def Overlooked : Prop :=
  Unseen casing planContent ∧ ∀ spot rest above header below,
    FirstHeading (Text.feedLines planContent) spot rest →
      FirstRow (sectionOf rest) above header below →
        ¬ MentionsColumns casing header ∨ ¬ HasDataRow below

variable {casing planContent}

theorem IsTableRow.strip {line : Text} (row : IsTableRow line) : Text.strip line = line := by
  obtain ⟨long, first, last⟩ := row
  obtain ⟨start, rfl⟩ := List.getLast?_eq_some_iff.mp last
  cases start with
  | nil => exact absurd long (by decide)
  | cons c between =>
      obtain rfl : c = '|' := Option.some.inj first
      exact Text.strip_of_solid (by decide) (by decide) between

theorem IsTableRow.isRowLine {line : Text} (row : IsTableRow line) : IsRowLine line := by
  unfold IsRowLine
  rw [row.strip]
  exact ⟨by have := row.1; omega, row.2⟩

/-- What is left of a broken heading is no heading. -/
theorem HeadingAt.eq_of_isSafetyHeading {heading : Text} {lines rest : List Text}
    (starts : HeadingAt (heading :: lines) rest) (whole : IsSafetyHeading heading) :
    lines = rest := by
  cases starts with
  | whole => rfl
  | @broken blank _ _ _ _ isBlank =>
      obtain ⟨lead, trailing, same, -⟩ := whole
      have inside : 'I' ∈ blank := by
        rw [List.append_assoc, List.append_assoc, List.append_cancel_left_eq] at same
        rw [same]
        exact List.mem_append_right _ (List.mem_append_left _ (by decide))
      exact absurd (isBlank 'I' inside) (by decide)

/-- Without the four reasons, the row that leads the validator is the header of a proper table. -/
theorem hasProperTable_of_led {spot rest above below : List Text} {header : Text}
    (first : FirstHeading (Text.feedLines planContent) spot rest)
    (firstRow : FirstRow (sectionOf rest) above header below)
    (whole : ∃ heading ∈ spot.head?, IsSafetyHeading heading)
    (apart : ∀ line ∈ above.getLast?, ¬ IsRowLine line) (columns : HasColumns casing header)
    (data : ∃ row ∈ below.takeWhile (IsRowLine ·), ¬ IsSeparator row) :
    HasProperTable casing planContent := by
  obtain ⟨before, lines, starts, -⟩ := first
  obtain ⟨parts, isRow, -⟩ := firstRow
  obtain ⟨heading, head, isHeading⟩ := whole
  obtain ⟨more, rfl⟩ := List.head?_eq_some_iff.mp head
  obtain rfl := starts.eq_of_isSafetyHeading isHeading
  refine ⟨heading, more, above, header, below.takeWhile (IsRowLine ·),
    below.dropWhile (IsRowLine ·), lines ▸ List.suffix_append _ _, isHeading, ?_, ?_, apart,
    columns, data⟩
  · rw [parts, List.takeWhile_append_dropWhile]
  · refine List.forall_mem_cons.mpr ⟨isRow.isRowLine, fun row member => ?_⟩
    exact of_decide_eq_true (List.mem_takeWhile_imp (p := fun row => decide (IsRowLine row)) member)

/-- Where no proper table is out of sight, the validator looks at each. -/
theorem ProperTable.seen {heading header : Text} {rest above rows below : List Text}
    (table : ProperTable casing planContent heading rest above header rows below)
    (allSeen : ¬ Unseen casing planContent) :
    FirstHeading (Text.feedLines planContent) (heading :: rest) rest ∧
      FirstRow (sectionOf rest) above header (rows ++ below) ∧ HasDataRow rows := by
  have sight : ¬ (_ ∨ _) := fun out => allSeen ⟨_, _, _, _, _, _, table, out⟩
  simp only [not_or, not_not, not_exists, not_and] at sight
  obtain ⟨first, none, isRow, data⟩ := sight
  exact ⟨first, ⟨table.inSection, isRow, none⟩, data⟩

/-- **The safety table.** The validator accepts exactly the plans with a proper table, unless a
row misleads it or it overlooks a table. -/
theorem validates_right_iff (casing : Text.Casing) (planContent : Text) :
    ValidatesRight casing planContent ↔
      ¬ Misled casing planContent ∧ ¬ Overlooked casing planContent := by
  unfold ValidatesRight
  rw [validateSafetyTable_iff]
  constructor
  · intro right
    constructor
    · rintro ⟨allSeen, spot, rest, above, header, below, first, row, mentions, data, misled⟩
      obtain ⟨heading, rest', above', header', rows, below', table⟩ :=
        right.mp ⟨spot, rest, above, header, below, first, row, mentions, data⟩
      obtain ⟨first', row', -⟩ := table.seen allSeen
      obtain rfl := first.spot_unique first'
      obtain ⟨_, _, starts, -⟩ := first
      obtain rfl := starts.eq_of_isSafetyHeading table.isHeading
      obtain ⟨rfl, rfl, rfl⟩ := row.unique row'
      rcases misled with broken | ⟨line, last, padded⟩ | crowded | separators
      · exact broken heading rfl table.isHeading
      · exact table.apart line last padded
      · exact crowded table.columns
      · obtain ⟨dataRow, member, other⟩ := table.data
        refine other (separators dataRow ?_)
        rw [List.takeWhile_append_of_pos fun line inside =>
          decide_eq_true (table.isRow line (List.mem_cons_of_mem _ inside))]
        exact List.mem_append_left _ member
    · rintro ⟨⟨heading, rest, above, header, rows, below, table, -⟩, overlooked⟩
      obtain ⟨spot, rest, above, header, below, first, row, mentions, data⟩ :=
        right.mpr ⟨heading, rest, above, header, rows, below, table⟩
      exact (overlooked spot rest above header below first row).elim (· mentions) (· data)
  · rintro ⟨notMisled, notOverlooked⟩
    constructor
    · rintro ⟨spot, rest, above, header, below, first, row, mentions, data⟩
      by_contra improper
      have allSeen : ¬ Unseen casing planContent := by
        rintro ⟨heading, rest, above, header, rows, below, table, -⟩
        exact improper ⟨heading, rest, above, header, rows, below, table⟩
      refine notMisled ⟨allSeen, spot, rest, above, header, below, first, row, mentions, data, ?_⟩
      by_contra none
      simp only [not_or, not_forall, not_exists, not_and, not_not] at none
      obtain ⟨⟨heading, head, whole⟩, apart, columns, row', member, other⟩ := none
      exact improper (hasProperTable_of_led first row ⟨heading, head, whole⟩ apart columns
        ⟨row', member, other⟩)
    · rintro ⟨heading, rest, above, header, rows, below, table⟩
      by_contra rejected
      have allSeen : ¬ Unseen casing planContent := by
        refine fun unseen => notOverlooked ⟨unseen, ?_⟩
        intro spot rest above header below first row
        by_contra both
        obtain ⟨mentions, data⟩ := not_or.mp both
        exact rejected ⟨spot, rest, above, header, below, first, row, not_not.mp mentions,
          not_not.mp data⟩
      obtain ⟨first, row, dataRow, member, isRow⟩ := table.seen allSeen
      exact rejected (validateSafetyTable_iff.mp (accepts_first_table first row table.columns
        ⟨dataRow, List.mem_append_left _ member, isRow⟩))

end Right

/-- The columns in one cell. -/
def crowdedHeader : Text :=
  "| Agent/Component, Circumstance, Action, Concurrent With, Safe?, Mitigation |"

def crowdedPlan : Text :=
  "## Interaction Safety\n".toList ++ crowdedHeader ++ "\n|---|\n| none |".toList

/-- Names that are not cells are accepted. -/
theorem crowded_header_accepted :
    ¬ ∀ (casing : Text.Casing) (planContent : Text), ValidatesRight casing planContent := by
  intro always
  have valid : (validateSafetyTable .plain crowdedPlan).1 = true := by decide +kernel
  obtain ⟨heading, rest, above, header, rows, below, table⟩ := (always .plain crowdedPlan).mp valid
  have member : header ∈ Text.feedLines crowdedPlan := by
    refine table.inPlan.subset (List.mem_cons_of_mem _ ?_)
    have kept : sectionOf rest <+: rest := List.takeWhile_prefix _
    exact kept.subset (by rw [table.inSection]; simp)
  have none : ∀ line ∈ Text.feedLines crowdedPlan, ¬ HasColumns .plain line := by decide +kernel
  exact none header member table.columns

end Vcompany.Shared
