import Vcompany.Foundation.Search
import Vcompany.Monitor.Roadmap

/-! # What a check-in reads of a roadmap

A check-in takes the next phase from the rows of a table, and the status generator takes the
phases from boxes or headings. The two name the same phase exactly where a roadmap has both and
the table says the same (`readers_agree_iff`); without a table the check-in names none.
-/

namespace Vcompany.Communication

open Foundation Monitor
open Git (GitResult)

/-- A row of the table of phases. -/
structure PhaseRow where
  phase : Text
  name : Text
  status : Text
  dependsOn : Text
  deriving DecidableEq

structure CheckinData where
  agentId : Text
  commitCount : ℕ := 0
  summary : Text := ""
  gaps : Text := ""
  nextPhase : Text := "unknown"
  dependencyStatus : Text := ""

/-! ## Rows -/

/-- `line.split("|")[1:-1]`, each part trimmed. -/
def rowCells (line : Text) : List Text := ((line.splitOn '|').tail.dropLast).map Text.strip

/-- A first cell by which a row is taken for a header or a separator. -/
def IsRuler (cell : Text) : Prop :=
  cell ∈ [("Phase" : Text), "-------", "---", ""] ∨ "---".toList <:+: cell

instance : DecidablePred IsRuler := fun _ => inferInstanceAs (Decidable (_ ∨ _))

/-- The row that a line is, if it is one. -/
def parseRow (line : Text) : Option PhaseRow :=
  let line := Text.strip line
  if ¬ ['|'] <+: line then none
  else
    match rowCells line with
    | phase :: name :: status :: rest =>
        if IsRuler phase then none
        else some { phase, name, status, dependsOn := rest.head?.getD "-" }
    | _ => none

/-- `_parse_roadmap_phases`. -/
def parseRoadmapPhases (roadmapText : Text) : List PhaseRow :=
  (Text.splitlines roadmapText).filterMap parseRow

section Rows

variable (casing : Text.Casing)

/-- `"in progress" in status_lower`. -/
def PhaseRow.InProgress (row : PhaseRow) : Prop :=
  "in progress".toList <:+: Text.lower casing row.status

/-- `"complete" in status_lower`. -/
def PhaseRow.MentionsComplete (row : PhaseRow) : Prop :=
  "complete".toList <:+: Text.lower casing row.status

instance : DecidablePred (PhaseRow.InProgress casing) :=
  fun _ => inferInstanceAs (Decidable (_ <:+: _))

instance : DecidablePred (PhaseRow.MentionsComplete casing) :=
  fun _ => inferInstanceAs (Decidable (_ <:+: _))

/-- The row at which the loop over the rows stops. -/
def nextRow : Bool → List PhaseRow → Option PhaseRow
  | _, [] => none
  | foundInProgress, row :: rest =>
      if row.InProgress casing then nextRow true rest
      else if foundInProgress ∧ ¬ row.MentionsComplete casing then some row
      else nextRow foundInProgress rest

/-- The row that comes next: behind one in progress, the first that is neither in progress nor
complete. -/
def NextRow (rows : List PhaseRow) (next : PhaseRow) : Prop :=
  ∃ before running between later, rows = before ++ running :: between ++ next :: later ∧
    running.InProgress casing ∧
    (∀ row ∈ before, ¬ row.InProgress casing) ∧
    (∀ row ∈ between, row.InProgress casing ∨ row.MentionsComplete casing) ∧
    ¬ next.InProgress casing ∧ ¬ next.MentionsComplete casing

variable {casing}

/-- Where the loop stops once it has found a row in progress. -/
private theorem nextRow_true_eq_some_iff {rows : List PhaseRow} {next : PhaseRow} :
    nextRow casing true rows = some next ↔
      ∃ between later, rows = between ++ next :: later ∧
        (∀ row ∈ between, row.InProgress casing ∨ row.MentionsComplete casing) ∧
        ¬ next.InProgress casing ∧ ¬ next.MentionsComplete casing := by
  induction rows with
  | nil => exact iff_of_false (Option.some_ne_none _).symm fun ⟨_, _, same, _⟩ => by simp at same
  | cons row rows ih =>
      by_cases passed : row.InProgress casing ∨ row.MentionsComplete casing
      · have skipped : nextRow casing true (row :: rows) = nextRow casing true rows := by
          rw [nextRow]
          split
          · rfl
          · next other => rw [if_neg fun stops => stops.2 (passed.resolve_left other)]
        rw [skipped, ih]
        constructor
        · rintro ⟨between, later, rfl, all, stops⟩
          exact ⟨row :: between, later, rfl, List.forall_mem_cons.mpr ⟨passed, all⟩, stops⟩
        · rintro ⟨_ | ⟨first, between⟩, later, same, all, stops⟩
          · obtain ⟨rfl, rfl⟩ := List.cons.inj same
            exact absurd passed (not_or.mpr stops)
          · obtain ⟨rfl, rfl⟩ := List.cons.inj same
            exact ⟨between, later, rfl, (List.forall_mem_cons.mp all).2, stops⟩
      · obtain ⟨notRunning, notComplete⟩ := not_or.mp passed
        rw [nextRow, if_neg notRunning, if_pos ⟨rfl, notComplete⟩]
        constructor
        · rintro ⟨⟩
          exact ⟨[], rows, rfl, by simp, notRunning, notComplete⟩
        · rintro ⟨_ | ⟨first, between⟩, later, same, all, stops⟩
          · rw [(List.cons.inj same).1]
          · rw [← (List.cons.inj same).1] at all
            exact absurd (all row List.mem_cons_self) passed

/-- Where the loop stops. -/
theorem nextRow_eq_some_iff {rows : List PhaseRow} {next : PhaseRow} :
    nextRow casing false rows = some next ↔ NextRow casing rows next := by
  unfold NextRow
  induction rows with
  | nil =>
      refine iff_of_false (Option.some_ne_none _).symm fun ⟨_, _, _, _, same, _⟩ => ?_
      simp at same
  | cons row rows ih =>
      by_cases running : row.InProgress casing
      · rw [nextRow, if_pos running, nextRow_true_eq_some_iff]
        constructor
        · rintro ⟨between, later, rfl, all, stops⟩
          exact ⟨[], row, between, later, rfl, running, by simp, all, stops⟩
        · rintro ⟨_ | ⟨first, before⟩, current, between, later, same, _, earlier, all, stops⟩
          · obtain ⟨rfl, rfl⟩ := List.cons.inj same
            exact ⟨between, later, rfl, all, stops⟩
          · rw [← (List.cons.inj same).1] at earlier
            exact absurd running (earlier row List.mem_cons_self)
      · rw [nextRow, if_neg running, if_neg fun stops => Bool.false_ne_true stops.1, ih]
        constructor
        · rintro ⟨before, current, between, later, rfl, isRunning, earlier, rest⟩
          exact ⟨row :: before, current, between, later, rfl, isRunning,
            List.forall_mem_cons.mpr ⟨running, earlier⟩, rest⟩
        · rintro ⟨_ | ⟨first, before⟩, current, between, later, same, isRunning, earlier, rest⟩
          · rw [← (List.cons.inj same).1] at isRunning
            exact absurd isRunning running
          · obtain ⟨rfl, rfl⟩ := List.cons.inj same
            exact ⟨before, current, between, later, rfl, isRunning,
              (List.forall_mem_cons.mp earlier).2, rest⟩

/-- A text without table rows has no next one. -/
theorem nextRow_of_no_row {roadmapText : Text}
    (none : ∀ line ∈ Text.splitlines roadmapText, parseRow line = none) (found : Bool) :
    nextRow casing found (parseRoadmapPhases roadmapText) = .none := by
  rw [parseRoadmapPhases, List.filterMap_eq_nil_iff.mpr none]
  rfl

end Rows

/-! ## Blockers -/

/-- `\s*\n`: what follows the last line feed of the whitespace. -/
def toNextLine (text : Text) : Option Text :=
  let blank := text.takeWhile Text.isSpace
  if '\n' ∈ blank then
    some (blank.rtakeWhile (· ≠ '\n') ++ text.dropWhile Text.isSpace)
  else none

/-- `_extract_blockers`. -/
def extractBlockers (stateText : Text) : Text :=
  match stateText.tails.findSome? fun text =>
      (after "## Blockers/Concerns".toList text).bind toNextLine with
  | none => ""
  | some text =>
      Text.strip (((Text.cut "\n## ".toList text).map Prod.fst).getD text)

/-! ## The check-in -/

/-- The lines of the log. -/
def commitLines (logResult : GitResult) : List Text :=
  if logResult.success ∧ Text.strip logResult.stdout ≠ [] then
    Text.splitlines (Text.strip logResult.stdout)
  else []

/-- `f"Depends on {deps}"`, unless there are none. -/
def dependencyStatus (row : PhaseRow) : Text :=
  if row.dependsOn ≠ [] ∧ row.dependsOn ≠ ['-'] then "Depends on ".toList ++ row.dependsOn else []

/-- The text of a file; one that does not exist is empty. -/
def readText : Option (Except PyExc Text) → Except PyExc Text
  | none => .ok []
  | some content => content

/-- `gather_checkin_data`, from the log and the files in the clone. -/
def gatherCheckinData (casing : Text.Casing) (agentId : Text) (logResult : GitResult)
    (roadmap state : Option (Except PyExc Text)) : Except PyExc CheckinData := do
  let commits := commitLines logResult
  let roadmapText ← readText roadmap
  let next := nextRow casing false (parseRoadmapPhases roadmapText)
  let stateText ← readText state
  return {
    agentId
    commitCount := commits.length
    summary := List.intercalate "\n".toList (commits.take 10)
    gaps := extractBlockers stateText
    nextPhase := (next.map PhaseRow.phase).getD "unknown"
    dependencyStatus := (next.map dependencyStatus).getD "" }

/-! ## The two readers -/

/-- The text names the phase: the first number in it is the number of the phase. -/
def Names (numerals : Numerals) (text : Text) (phase : Phase) : Prop :=
  ∃ before number later, text = before ++ number ++ later ∧
    (∀ c ∈ before, numerals.value c = none) ∧ IsNumber numerals number ∧
    (∀ c ∈ later.head?, numerals.value c = none) ∧ numerals.read number = phase.number

/-- The first pending phase behind an executing one. -/
def ListsNext (phases : List Phase) (next : Phase) : Prop :=
  ∃ before running between later, phases = before ++ running :: between ++ next :: later ∧
    running.status = .executing ∧ (∀ phase ∈ between, phase.status ≠ .pending) ∧
    next.status = .pending

section Readers

variable (numerals : Numerals) (casing : Text.Casing) (agentId : Text) (logResult : GitResult)
  (state : Option (Except PyExc Text)) (content : Text)

/-- The check-in names the phase that the generated status lists next. -/
def ReadersAgree : Prop :=
  ∀ phases next, parseRoadmap numerals (some content) = .ok phases → ListsNext phases next →
    ∃ data, gatherCheckinData casing agentId logResult (some (.ok content)) state = .ok data ∧
      Names numerals data.nextPhase next

/-- The table of the roadmap has the phase next, and the other file is missing or can be
read. -/
def TableAgrees : Prop :=
  ∀ phases next, parseRoadmap numerals (some content) = .ok phases → ListsNext phases next →
    (∃ stateText, readText state = .ok stateText) ∧
      ∃ row, NextRow casing (parseRoadmapPhases content) row ∧ Names numerals row.phase next

/-- Without a row that comes next no phase is named. -/
theorem not_names_unknown (phase : Phase) : ¬ Names numerals "unknown" phase := by
  rintro ⟨before, number, later, same, _, ⟨inhabited, isNumber⟩, _⟩
  obtain ⟨c, rest, rfl⟩ := List.exists_cons_of_ne_nil inhabited
  have letters : ∀ c ∈ "unknown".toList, numerals.value c = none := by
    intro c member
    have plain : ∀ c ∈ "unknown".toList, c.toNat < 128 ∧ c.isDigit = false := by
      simp [Char.isDigit]
    rw [numerals.value_ascii c (plain c member).1, (plain c member).2]
    rfl
  have own := isNumber c List.mem_cons_self
  rw [letters c (by rw [same]; simp)] at own
  cases own

/-- When a check-in names a phase. -/
theorem checkin_names_iff {phase : Phase} :
    (∃ data, gatherCheckinData casing agentId logResult (some (.ok content)) state = .ok data ∧
        Names numerals data.nextPhase phase) ↔
      (∃ stateText, readText state = .ok stateText) ∧
        ∃ row, NextRow casing (parseRoadmapPhases content) row ∧
          Names numerals row.phase phase := by
  unfold gatherCheckinData
  constructor
  · rintro ⟨data, gathered, names⟩
    obtain ⟨roadmapText, same, gathered⟩ := PyExc.bind_eq_ok_iff.mp gathered
    obtain rfl : content = roadmapText := Except.ok.inj same
    obtain ⟨stateText, read, gathered⟩ := PyExc.bind_eq_ok_iff.mp gathered
    cases Except.ok.inj gathered
    refine ⟨⟨stateText, read⟩, ?_⟩
    rcases found : nextRow casing false (parseRoadmapPhases content) with _ | row
    · rw [found] at names
      exact absurd names (not_names_unknown numerals phase)
    · rw [found] at names
      exact ⟨row, nextRow_eq_some_iff.mp found, names⟩
  · rintro ⟨⟨stateText, read⟩, row, following, names⟩
    refine ⟨_, PyExc.bind_eq_ok_iff.mpr ⟨content, rfl, PyExc.bind_eq_ok_iff.mpr
      ⟨stateText, read, rfl⟩⟩, ?_⟩
    dsimp only
    rw [nextRow_eq_some_iff.mpr following]
    exact names

/-- Without a table the readers agree only where no phase comes next. -/
theorem readers_agree_of_no_row
    (none : ∀ line ∈ Text.splitlines content, parseRow line = none) :
    ReadersAgree numerals casing agentId logResult state content ↔
      ∀ phases next, parseRoadmap numerals (some content) = .ok phases →
        ¬ ListsNext phases next := by
  refine forall₂_congr fun phases next => imp_congr_right fun parsed =>
    imp_congr_right fun listed => iff_of_false (fun named => ?_) not_false
  obtain ⟨-, row, following, -⟩ :=
    (checkin_names_iff numerals casing agentId logResult state content).mp named
  rw [← nextRow_eq_some_iff, nextRow_of_no_row none] at following
  cases following

/-- **The two readers of roadmaps.** For every roadmap, they agree exactly when the row that the
table has next names the phase that the boxes or headings have next. -/
theorem readers_agree_iff :
    ReadersAgree numerals casing agentId logResult state content ↔
      TableAgrees numerals casing state content :=
  forall₂_congr fun _ _ => forall₂_congr fun _ _ =>
    checkin_names_iff numerals casing agentId logResult state content

end Readers

/-- Of a checklist the check-in reads nothing. -/
theorem checklist_without_table :
    ¬ ∀ (numerals : Numerals) (casing : Text.Casing) (agentId : Text) (logResult : GitResult)
      (state : Option (Except PyExc Text)) (content : Text),
        ReadersAgree numerals casing agentId logResult state content := by
  intro always
  have agree := always .plain .plain "agent" ⟨true, "", ""⟩ none
    "- [ ] **Phase 1: a**\n- [ ] **Phase 2: b**"
  rw [readers_agree_of_no_row _ _ _ _ _ _ (by decide +kernel)] at agree
  refine agree [⟨1, "a", .executing⟩, ⟨2, "b", .pending⟩] ⟨2, "b", .pending⟩ (by decide +kernel) ?_
  exact ⟨[], _, [], [], rfl, rfl, by simp, rfl⟩

end Vcompany.Communication
