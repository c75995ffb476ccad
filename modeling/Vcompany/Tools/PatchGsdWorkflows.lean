import Vcompany.Foundation.Insertion
import Mathlib.Logic.Function.Basic

/-! # The patches of the workflow files

The patcher inserts steps that run `vco report` into two of the workflow files, and instructions
for the autonomous mode into the three others, each before an anchor, and puts a marker at the top.
The files are known by their decoded texts.
-/

namespace Vcompany.Tools

open Foundation

/-- The step that reports the status once the context is written. -/
def reportEndStep (status : Text) : Text :=
  ("<step name=\"vco_report_end\">\n" ++
    "**MANDATORY** -- Run after context is written:\n" ++
    "```bash\n" ++
    "vco report \"").toList ++ status ++
  ("\" 2>/dev/null || true\n" ++
    "```\n" ++
    "</step>\n\n").toList

/-- `DISCUSS_REPORT_END`. -/
def discussReportEnd : Text := reportEndStep "discuss-phase complete".toList

/-- `DISCUSS_ASSUMPTIONS_REPORT_END`. -/
def discussAssumptionsReportEnd : Text := reportEndStep "discuss-phase-assumptions complete".toList

/-- The steps that report the completion of a stage. -/
def completionReports : List Text := [discussReportEnd, discussAssumptionsReportEnd]

/-- A step tells the status that it reports. -/
theorem reportEndStep_inj {status other : Text} :
    reportEndStep status = reportEndStep other ↔ status = other := by
  unfold reportEndStep
  rw [List.append_cancel_right_eq, List.append_cancel_left_eq]

/-- The statuses that the patched workflows report at their end. -/
theorem reportEndStep_mem_iff {status : Text} :
    reportEndStep status ∈ completionReports ↔
      status = "discuss-phase complete".toList ∨
        status = "discuss-phase-assumptions complete".toList := by
  unfold completionReports discussReportEnd discussAssumptionsReportEnd
  rw [List.mem_pair, reportEndStep_inj, reportEndStep_inj]

/-! ## The pieces that are inserted -/

/-- The step that reports the status before anything else. -/
def reportStartStep (status : Text) : Text :=
  ("<step name=\"vco_report_start\" priority=\"first\">\n" ++
    "**MANDATORY** -- Run before anything else:\n" ++
    "```bash\n" ++
    "vco report \"").toList ++ status ++
  ("\" 2>/dev/null || true\n" ++
    "```\n" ++
    "</step>\n\n").toList

/-- `DISCUSS_REPORT_START`. -/
def discussReportStart : Text := reportStartStep "starting discuss-phase $PHASE".toList

/-- `DISCUSS_ASSUMPTIONS_REPORT_START`. -/
def discussAssumptionsReportStart : Text :=
  reportStartStep "starting discuss-phase-assumptions $PHASE".toList

/-- The line of `AUTONOMOUS_MODE_TEMPLATE`. -/
def autonomousLine (option : Text) : Text :=
  ("**AUTONOMOUS MODE**: When `mode` is `yolo` in config, " ++
    "skip this prompt and auto-select \"").toList ++ option ++ "\".".toList

/-- `AUTONOMOUS_MODE_TEMPLATE.format(option=option)`. -/
def autonomousMode (option : Text) : Text := "\n".toList ++ autonomousLine option ++ "\n".toList

/-- A piece, and the anchor before which it is inserted. -/
structure Insertion where
  anchor : Text
  piece : Text

/-! ## The workflow files -/

/-- The files that are patched. -/
inductive WorkflowFile where
  /-- "discuss-phase.md". -/
  | discussPhase
  /-- "discuss-phase-assumptions.md". -/
  | discussPhaseAssumptions
  /-- "plan-phase.md". -/
  | planPhase
  /-- "execute-phase.md". -/
  | executePhase
  /-- "execute-plan.md". -/
  | executePlan
  deriving DecidableEq

/-- The texts of the files that exist. -/
abbrev Workflows := WorkflowFile → Option Text

/-- `PATCH_MARKER`. -/
def patchMarker : Text := "# VCOMPANY-PATCHED"

/-- `_is_patched`. -/
def IsPatched (content : Text) : Prop := patchMarker <:+: content

instance (content : Text) : Decidable (IsPatched content) :=
  inferInstanceAs (Decidable (_ <:+: _))

/-- `_add_marker`. -/
def addMarker (content : Text) : Text := patchMarker ++ "\n".toList ++ content

/-- The insertions one after the other, unless an anchor is missing. -/
def insertAll : List Insertion → Text → Option Text
  | [], content => some content
  | insertion :: insertions, content =>
      if insertion.anchor <:+: content then
        insertAll insertions (Text.insertBefore insertion.anchor insertion.piece content)
      else none

/-- The insertions whose anchors are found. -/
def insertFound : List Insertion → Text → Text
  | [], content => content
  | insertion :: insertions, content =>
      insertFound insertions
        (if insertion.anchor <:+: content then
          Text.insertBefore insertion.anchor insertion.piece content
        else content)

/-- The body of `patch_discuss_phase` and `patch_discuss_phase_assumptions`, from the text at the
path to the one that is there afterwards, and the result. -/
def patchReports (insertions : List Insertion) : Option Text → Option Text × Bool
  | none => (none, false)
  | some content =>
      if IsPatched content then (some content, true)
      else
        match insertAll insertions content with
        | none => (some content, false)
        | some inserted => (some (addMarker inserted), true)

/-- The body of the three other patches, for which no anchor has to be there. -/
def patchInstructions (insertions : List Insertion) : Option Text → Option Text × Bool
  | none => (none, false)
  | some content =>
      if IsPatched content then (some content, true)
      else (some (addMarker (insertFound insertions content)), true)

/-- A file is patched. -/
def onFile (file : WorkflowFile) (patch : Option Text → Option Text × Bool) (files : Workflows) :
    Workflows × Bool :=
  (Function.update files file (patch (files file)).1, (patch (files file)).2)

def checkExisting : Text := "<step name=\"check_existing\">"

def autoAdvance : Text := "<step name=\"auto_advance\">"

def discussInsertions : List Insertion :=
  [⟨checkExisting, discussReportStart⟩, ⟨autoAdvance, discussReportEnd⟩]

/-- `patch_discuss_phase`. -/
def patchDiscussPhase (files : Workflows) : Workflows × Bool :=
  onFile .discussPhase (patchReports discussInsertions) files

def discussAssumptionsInsertions : List Insertion :=
  [⟨checkExisting, discussAssumptionsReportStart⟩, ⟨autoAdvance, discussAssumptionsReportEnd⟩]

/-- `patch_discuss_phase_assumptions`. -/
def patchDiscussPhaseAssumptions (files : Workflows) : Workflows × Bool :=
  onFile .discussPhaseAssumptions (patchReports discussAssumptionsInsertions) files

def planPhaseInsertions : List Insertion :=
  [⟨"- header: \"No context\"", autonomousMode "Continue without context"⟩,
    ⟨"- header: \"UI Design Contract\"", autonomousMode "Continue without UI-SPEC"⟩]

/-- `patch_plan_phase`. -/
def patchPlanPhase (files : Workflows) : Workflows × Bool :=
  onFile .planPhase (patchInstructions planPhaseInsertions) files

def executePhaseInsertions : List Insertion :=
  [⟨"Use AskUserQuestion to present the options.\n</step>",
    autonomousMode "Fix regressions before verification"⟩]

/-- `patch_execute_phase`. -/
def patchExecutePhase (files : Workflows) : Workflows × Bool :=
  onFile .executePhase (patchInstructions executePhaseInsertions) files

def executePlanInsertions : List Insertion :=
  [⟨"AskUserQuestion(header=\"Previous Issues\"", autonomousMode "Proceed anyway"⟩]

/-- `patch_execute_plan`. -/
def patchExecutePlan (files : Workflows) : Workflows × Bool :=
  onFile .executePlan (patchInstructions executePlanInsertions) files

/-- `patch_all`. -/
def patchAll (files : Workflows) : Workflows × (WorkflowFile → Bool) :=
  let (files, discussPhase) := patchDiscussPhase files
  let (files, discussPhaseAssumptions) := patchDiscussPhaseAssumptions files
  let (files, planPhase) := patchPlanPhase files
  let (files, executePhase) := patchExecutePhase files
  let (files, executePlan) := patchExecutePlan files
  (files, fun
    | .discussPhase => discussPhase
    | .discussPhaseAssumptions => discussPhaseAssumptions
    | .planPhase => planPhase
    | .executePhase => executePhase
    | .executePlan => executePlan)

/-- `re.search(r'vco report.*…', content)`. -/
def reportsEnd (status content : Text) : Bool := Text.searchInline "vco report" status content

/-- What `verify_patches` checks in the text of a file. -/
def verifyContent (content : Text) : WorkflowFile → Bool
  | .discussPhase => decide (IsPatched content) && reportsEnd "discuss-phase complete" content
  | .discussPhaseAssumptions =>
      decide (IsPatched content) && reportsEnd "discuss-phase-assumptions complete" content
  | .planPhase | .executePhase | .executePlan => decide (IsPatched content)

/-- `verify_patches`. -/
def verifyPatches (files : Workflows) (file : WorkflowFile) : Bool :=
  match files file with
  | none => false
  | some content => verifyContent content file

end Vcompany.Tools
