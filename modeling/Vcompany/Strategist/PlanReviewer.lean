import Vcompany.Foundation.PyValue
import Mathlib.Data.Finset.Card
import Mathlib.Data.Finset.Lattice.Basic

/-! # The plan reviewer

`PlanReviewer.review_plan` reads a plan with three checks: the files it modifies
lie in the agent's directories, its dependencies are complete according to
PROJECT-STATUS.md, and no other agent has an approved plan like it. A plan that
passes all three is approved with HIGH confidence; any other plan is escalated
with a note that lists the failed checks.

The YAML and JSON parsers, the case tables and the text of a value that is not a
string come from outside (`Foundation.PyRuntime`).
-/

namespace Vcompany.Strategist

open Foundation

inductive ConfidenceLevel where
  | high
  | medium
  | low
  deriving DecidableEq, Repr

structure ConfidenceResult where
  score : ℚ
  level : ConfidenceLevel
  coverage : ℚ
  priorMatch : ℚ
  deriving DecidableEq

inductive DecidedBy where
  | pm
  | strategist
  | owner
  deriving DecidableEq, Repr

structure PMDecision where
  answer : Option Text
  confidence : ConfidenceResult
  decidedBy : DecidedBy
  note : Text := []
  escalateTo : Option Text := none
  deriving DecidableEq

/-- The fields of an agent's configuration that a review reads. -/
structure AgentConfig where
  id : Text
  owns : List Text
  deriving DecidableEq

/-- A reviewer with the project files it reads: the configured agents, and the
outcome of reading PROJECT-STATUS.md and approved_plans.jsonl where they exist. -/
structure PlanReviewer where
  agents : List AgentConfig
  projectStatus : Option (Except PyExc Text)
  approvedPlans : Option (Except PyExc Text)

/-- Whether a check passed, and its message. -/
abbrev CheckOutcome := Bool × Text

/-- `_STUB_KEYWORDS`. -/
def stubKeywords : List Text := ["stub", "stubs", "mock", "mocks", "placeholder"]

/-! ## Reading the plan -/

/-- What the pattern `\s*\n(.*?)\n---` matches at the start of a text: the
whitespace is taken greedily and given back newline by newline. -/
def frontmatterAfterMarker : Text → Option Text
  | [] => none
  | c :: rest =>
      if Text.isSpace c then
        (frontmatterAfterMarker rest).or
          (if c = '\n' then (Text.cut "\n---" rest).map Prod.fst else none)
      else none

/-- The frontmatter block of a plan, when it starts with one. -/
def frontmatterBlock (content : Text) : Option Text :=
  if ("---" : Text) <+: content then frontmatterAfterMarker (content.drop 3) else none

/-- `PlanReviewer._extract_frontmatter`. -/
def extractFrontmatter (py : PyRuntime) (content : Text) : Except PyExc PyValue :=
  match frontmatterBlock content with
  | none => .ok (.dict [])
  | some block =>
      match py.safeLoad block with
      | .ok value => .ok (if value.truthy then value else .dict [])
      | .error .yamlError => .ok (.dict [])
      | .error raised => .error raised

/-- `PlanReviewer._extract_objective`. -/
def extractObjective (content : Text) : Text :=
  match Text.cut "<objective>" content with
  | none => []
  | some (_, rest) =>
      match Text.cut "</objective>" rest with
      | none => []
      | some (objective, _) => Text.strip objective

/-! ## The three checks -/

/-- An owned directory with its trailing slash. -/
def ownedDir (d : Text) : Text := if ("/" : Text) <:+ d then d else d ++ "/"

/-- The modified files that lie in none of the owned directories. -/
def outsideFiles (ownedDirs : List Text) : List PyValue → Except PyExc (List PyValue)
  | [] => .ok []
  | file :: rest => do
      let inside ← file.startsWithAny ownedDirs
      let outside ← outsideFiles ownedDirs rest
      return if inside then outside else file :: outside

/-- `PlanReviewer._scope_check`. -/
def scopeCheck (py : PyRuntime) (self : PlanReviewer) (agentId planContent : Text) :
    Except PyExc CheckOutcome := do
  let frontmatter ← extractFrontmatter py planContent
  let filesModified ← frontmatter.get "files_modified" (.list [])
  if !filesModified.truthy then return (true, "No files modified")
  match self.agents.find? fun agent => agent.id = agentId with
  | none => return (false, "Agent " ++ agentId ++ " not found in config")
  | some agent => do
      let outside ← outsideFiles (agent.owns.map ownedDir) (← filesModified.iter)
      if outside.isEmpty then return (true, "Scope aligned")
      return (false, "Files outside owned dirs: " ++ (← PyValue.join ", " outside))

/-- `PlanReviewer._dependency_check`. -/
def dependencyCheck (py : PyRuntime) (self : PlanReviewer) (planContent : Text) :
    Except PyExc CheckOutcome := do
  let frontmatter ← extractFrontmatter py planContent
  let dependsOn ← frontmatter.get "depends_on" (.list [])
  if !dependsOn.truthy then return (true, "No dependencies")
  match self.projectStatus with
  | none => return (false, "PROJECT-STATUS.md not found")
  | some read => do
      let status := Text.lower py.casing (← read)
      let hasComplete := decide (("[x]" : Text) <:+: status ∧ ("complete" : Text) <:+: status)
      let hasIncomplete := decide (("[ ]" : Text) <:+: status ∧
        (("executing" : Text) <:+: status ∨ ("pending" : Text) <:+: status))
      if hasComplete && !hasIncomplete then return (true, "Dependencies ready")
      if hasIncomplete then
        let plan := Text.lower py.casing planContent
        if stubKeywords.any fun keyword => decide (keyword <:+: plan) then
          return (true, "Dependencies incomplete but plan uses stubs/mocks")
        return (false, "Unmet dependencies: " ++ (← PyValue.join ", " (← dependsOn.iter)))
      return (true, "Dependencies ready")

/-- More than 70% of the elements of either set are in both. The source divides
in floating point; at the sizes a set can have, the quotient exceeds 0.7 exactly
when this holds. -/
def overlaps {α : Type} [DecidableEq α] (first second : Finset α) : Bool :=
  7 * (first ∪ second).card < 10 * (first ∩ second).card

/-- The words of an objective, in lower case. -/
def objectiveWords (py : PyRuntime) (objective : Text) : Finset Text :=
  (Text.words (Text.lower py.casing objective)).toFinset

/-- The objectives share more than 70% of their words. An objective that is not
a string has no `lower`. -/
def similarObjective (py : PyRuntime) (planObjective : Text) (approvedObjective : PyValue) :
    Except PyExc Bool :=
  if planObjective.isEmpty || !approvedObjective.truthy then .ok false
  else match approvedObjective with
    | .str objective =>
        let planWords := objectiveWords py planObjective
        let approvedWords := objectiveWords py objective
        .ok (decide (planWords ≠ ∅ ∧ approvedWords ≠ ∅) && overlaps planWords approvedWords)
    | _ => .error .attributeError

/-- The comparison of the plan with one approved plan: a message when the plan
looks like a duplicate of it. -/
def compareApproved (py : PyRuntime) (agentId : Text) (planFiles : Finset HashKey)
    (planObjective : Text) (approved : PyValue) : Except PyExc (Option Text) := do
  let approvedAgent ← approved.get "agent_id" .none
  if approvedAgent.isStr agentId then return none
  let approvedFiles ← (← approved.get "files_modified" (.list [])).toSet
  if decide (planFiles ≠ ∅ ∧ approvedFiles ≠ ∅) && overlaps planFiles approvedFiles then
    return some ("Possible duplicate: >70% file overlap with approved plan from " ++
      py.format (← approved.get "agent_id" (.str "?")))
  if ← similarObjective py planObjective (← approved.get "objective" (.str [])) then
    return some ("Possible duplicate: similar objective to approved plan from " ++
      py.format (← approved.get "agent_id" (.str "?")))
  return none

/-- The comparison of the plan with the approved plans, one JSON line each; a
line that is not JSON is skipped. -/
def compareLines (py : PyRuntime) (agentId : Text) (planFiles : Finset HashKey)
    (planObjective : Text) : List Text → Except PyExc CheckOutcome
  | [] => .ok (true, "No duplicates")
  | line :: rest =>
      if (Text.strip line).isEmpty then compareLines py agentId planFiles planObjective rest
      else match py.loads (Text.strip line) with
        | .error .jsonDecodeError => compareLines py agentId planFiles planObjective rest
        | .error raised => .error raised
        | .ok approved =>
            match compareApproved py agentId planFiles planObjective approved with
            | .error raised => .error raised
            | .ok (some message) => .ok (false, message)
            | .ok none => compareLines py agentId planFiles planObjective rest

/-- `PlanReviewer._duplicate_check`. -/
def duplicateCheck (py : PyRuntime) (self : PlanReviewer) (agentId planContent : Text) :
    Except PyExc CheckOutcome :=
  match self.approvedPlans with
  | none => .ok (true, "No approved plans to compare")
  | some read => do
      let frontmatter ← extractFrontmatter py planContent
      let planFiles ← (← frontmatter.get "files_modified" (.list [])).toSet
      let planObjective := extractObjective planContent
      if planFiles = ∅ ∧ planObjective = [] then
        return (true, "No files or objective to compare")
      compareLines py agentId planFiles planObjective (Text.splitlines (← read))

/-! ## The decision -/

/-- The checks that failed, with their messages. -/
def failedChecks (checks : List (Text × CheckOutcome)) : List (Text × Text) :=
  (checks.filter fun check => !check.2.1).map fun check => (check.1, check.2.2)

/-- The decision that `review_plan` draws from the outcomes of the checks. -/
def decisionOf (checks : List (Text × CheckOutcome)) : PMDecision :=
  let failed := failedChecks checks
  if failed.isEmpty then
    { answer := some "Plan approved by PM"
      confidence := { score := 95 / 100, level := .high, coverage := 95 / 100, priorMatch := 0 }
      decidedBy := .pm }
  else
    { answer := none
      confidence := { score := 4 / 10, level := .low, coverage := 4 / 10, priorMatch := 0 }
      decidedBy := .pm
      escalateTo := some "strategist"
      note := ("Failed checks: " : Text) ++ List.intercalate ", " (failed.map Prod.fst) ++
        (". " : Text) ++
        List.intercalate "; " (failed.map fun check => check.1 ++ (": " : Text) ++ check.2) }

/-- `PlanReviewer.review_plan`. -/
def reviewPlan (py : PyRuntime) (self : PlanReviewer) (agentId planContent : Text) :
    Except PyExc PMDecision := do
  let scope ← scopeCheck py self agentId planContent
  let dependency ← dependencyCheck py self planContent
  let duplicate ← duplicateCheck py self agentId planContent
  return decisionOf [("scope", scope), ("dependency", dependency), ("duplicate", duplicate)]

end Vcompany.Strategist
