import Vcompany.Git.Ops
import Vcompany.Foundation.PyValue
import Vcompany.Models.ProjectConfig

/-! # The generated project status

`generate_project_status` writes PROJECT-STATUS.md: for each agent a header, the phases of its
roadmap behind an emoji each, and the log of its clone. What it finds outside comes in as an
argument: each clone's roadmap and log, the agents alive, and the time.
-/

namespace Vcompany.Monitor

open Foundation Models
open Git (GitResult)

/-- The decimal digits that `\d` matches and `int` reads, with their values. -/
structure Numerals where
  value : Char → Option ℕ
  value_ascii : ∀ c, c.toNat < 128 → value c = if c.isDigit then some (c.toNat - 48) else none

/-- The digits of ASCII alone. -/
def Numerals.plain : Numerals where
  value c := if c.isDigit then some (c.toNat - 48) else none
  value_ascii _ _ := rfl

/-- The upper case of characters outside ASCII: what it has of ASCII are letters. -/
structure Uppercase where
  other : Char → Text
  other_ascii : ∀ c, ∀ d ∈ other c, d.toNat < 128 → d.isAlphanum = true

/-- The mapping that leaves every other character as it is. -/
def Uppercase.plain : Uppercase where
  other c := if 128 ≤ c.toNat then [c] else []
  other_ascii c d member low := by
    split at member
    · next high =>
        rw [List.mem_singleton.mp member] at low
        omega
    · cases member

/-- `str.upper()`. -/
def Uppercase.upper (uppercase : Uppercase) (text : Text) : Text :=
  text.flatMap fun c => if c.toNat < 128 then [c.toUpper] else uppercase.other c

inductive PhaseStatus where
  | complete
  | executing
  | pending
  | unknown
  deriving DecidableEq, Repr

structure Phase where
  number : ℕ
  description : Text
  status : PhaseStatus
  deriving DecidableEq

/-! ## Reading a roadmap -/

/-- What follows `start` in a text that starts with it. -/
def after (start text : Text) : Option Text :=
  if start <+: text then some (text.drop start.length) else none

/-- `- \[(x| )\]`: whether the box is checked, and what follows. -/
def checkbox (text : Text) : Option (Bool × Text) :=
  ((after "- [x]".toList text).map (true, ·)).or ((after "- [ ]".toList text).map (false, ·))

/-- `\s+`: what follows the whitespace. -/
def spaces : Text → Option Text
  | [] => none
  | c :: rest => if Text.isSpace c then some (rest.dropWhile Text.isSpace) else none

/-- `.+?\*\*`: the characters before the next two stars, at least one. -/
def untilStars : Text → Option Text
  | [] => none
  | c :: rest => (Text.cut "**".toList rest).map fun parts => c :: parts.1

section Parse

variable (numerals : Numerals)

/-- `\d+`: the digits, and what follows. -/
def digits (text : Text) : Option (Text × Text) :=
  let isDigit := fun c => (numerals.value c).isSome
  if text.takeWhile isDigit = [] then none
  else some (text.takeWhile isDigit, text.dropWhile isDigit)

/-- `int(text)` for a text of digits; longer ones are refused. -/
def int (text : Text) : Except PyExc ℕ :=
  if 4300 < text.length then .error .valueError
  else .ok (text.foldl (fun number c => 10 * number + (numerals.value c).getD 0) 0)

/-- `_PHASE_CHECKLIST_RE` at the start of a text: the box, the number and the description. -/
def checklistAt (text : Text) : Option (Bool × Text × Text) := do
  let (checked, text) ← checkbox text
  let text ← after " **Phase ".toList text
  let (number, text) ← digits numerals text
  let text ← after ": ".toList text
  let description ← untilStars text
  return (checked, number, description)

/-- `_PHASE_HEADING_RE`: the number and the description, which is trimmed. The pattern gives
back whitespace behind the colon if nothing else is left for the description. -/
def headingMatch (line : Text) : Option (Text × Text) := do
  let text ← after "###".toList line
  let text ← spaces text
  let text ← after "Phase".toList text
  let text ← spaces text
  let (number, text) ← digits numerals text
  let text ← after ":".toList text
  match text with
  | c :: _ :: _ => if Text.isSpace c then some (number, Text.strip text) else none
  | _ => none

/-- `_parse_checklist_format` from a line on. -/
def checklistPhases : Bool → List Text → Except PyExc (List Phase)
  | _, [] => .ok []
  | foundFirstUnchecked, line :: rest =>
      match line.tails.findSome? (checklistAt numerals) with
      | none => checklistPhases foundFirstUnchecked rest
      | some (checked, number, description) => do
          let number ← int numerals number
          let status : PhaseStatus :=
            if checked then .complete else if foundFirstUnchecked then .pending else .executing
          let phases ← checklistPhases (foundFirstUnchecked || !checked) rest
          return { number, description, status } :: phases

/-- A phase with the number of its checklist items, and of the checked ones. -/
structure HeadingPhase where
  number : ℕ
  description : Text
  total : ℕ := 0
  checked : ℕ := 0

def HeadingPhase.done (phase : HeadingPhase) : Bool :=
  0 < phase.total && phase.checked = phase.total

/-- A line below the heading of a phase. -/
def HeadingPhase.readItem (line : Text) (phase : HeadingPhase) : HeadingPhase :=
  match checkbox line with
  | none => phase
  | some (checked, _) =>
      { phase with
        total := phase.total + 1
        checked := if checked then phase.checked + 1 else phase.checked }

/-- The phases under headings from a line on, where `current` is the phase read last. -/
def headingPhases : Option HeadingPhase → List Text → Except PyExc (List HeadingPhase)
  | current, [] => .ok current.toList
  | current, line :: rest =>
      match headingMatch numerals line with
      | some (number, description) => do
          let number ← int numerals number
          let phases ← headingPhases (some { number, description }) rest
          return current.toList ++ phases
      | none => headingPhases (current.map (HeadingPhase.readItem line)) rest

/-- The status of each phase: the first one not done is executing, later ones pending. -/
def assignStatuses : Bool → List HeadingPhase → List Phase
  | _, [] => []
  | foundFirstIncomplete, phase :: rest =>
      { number := phase.number
        description := phase.description
        status :=
          if phase.done then .complete
          else if foundFirstIncomplete then .pending else .executing } ::
        assignStatuses (foundFirstIncomplete || !phase.done) rest

def unknownPhases : List Phase :=
  [{ number := 0, description := "Status unknown", status := .unknown }]

/-- `parse_roadmap`, from the content of the file if it can be read. -/
def parseRoadmap : Option Text → Except PyExc (List Phase)
  | none => .ok unknownPhases
  | some content => do
      let phases ← checklistPhases numerals false (Text.splitlines content)
      if phases ≠ [] then return phases
      let phases := assignStatuses false (← headingPhases numerals none (Text.splitlines content))
      return if phases = [] then unknownPhases else phases

end Parse

/-! ## Writing the status -/

/-- `get_agent_activity`, from the result of `git log`. -/
def getAgentActivity (result : GitResult) : Text :=
  if result.success ∧ Text.strip result.stdout ≠ [] then Text.strip result.stdout
  else "No recent activity"

/-- The phase that the header shows: the first executing one, or else the last complete one. -/
def currentPhase : ℕ × PhaseStatus → List Phase → ℕ × PhaseStatus
  | current, [] => current
  | current, phase :: rest =>
      match phase.status with
      | .executing => (phase.number, .executing)
      | .complete => currentPhase (phase.number, .complete) rest
      | .pending | .unknown => currentPhase current rest

def PhaseStatus.text : PhaseStatus → Text
  | complete => "complete"
  | executing => "executing"
  | pending => "pending"
  | unknown => "unknown"

/-- The marker of a phase. -/
def PhaseStatus.emoji : PhaseStatus → Text
  | complete => ['\u2705']
  | executing => [Char.ofNat 0x1F504]
  | pending => ['\u231b']
  | unknown => ['\u2753']

/-- `len(phases)`, where the phases of an unknown roadmap do not count. -/
def phaseTotal : List Phase → ℕ
  | [] => 0
  | phase :: rest => if phase.status = .unknown then 0 else rest.length + 1

/-- The header of an agent's section. -/
def sectionHeader (agentIdUpper : Text) (isAlive : Bool) (phases : List Phase) : Text :=
  let total := phaseTotal phases
  let current := currentPhase (0, .unknown) phases
  let counted := Nat.toDigits 10 current.1 ++ "/".toList ++ Nat.toDigits 10 total
  if !isAlive then
    "## ".toList ++ agentIdUpper ++ " (NOT RUNNING — Phase ".toList ++ counted ++ ")".toList
  else if 0 < total then
    "## ".toList ++ agentIdUpper ++ " (Phase ".toList ++ counted ++ " — ".toList ++
      current.2.text ++ ")".toList
  else "## ".toList ++ agentIdUpper ++ " (status unknown)".toList

def phaseLine (phase : Phase) : Text :=
  "- ".toList ++ phase.status.emoji ++ " Phase ".toList ++ Nat.toDigits 10 phase.number ++
    ": ".toList ++ phase.description

/-- What the generator finds for an agent: the content of its roadmap if it can be read, the
result of `git log` in its clone, and whether it is alive. -/
structure AgentClone where
  roadmap : Option Text
  log : GitResult
  isAlive : Bool

/-- The lines of an agent's section. -/
def agentSection (uppercase : Uppercase) (agentId : Text) (clone : AgentClone)
    (phases : List Phase) : List Text :=
  [sectionHeader (uppercase.upper agentId) clone.isAlive phases] ++ phases.map phaseLine ++
    ["".toList, "**Recent activity:**".toList] ++
    (Text.splitlines (getAgentActivity clone.log)).map ("  ".toList ++ ·) ++ ["".toList]

/-- `now.strftime("%Y-%m-%d %H:%M")`: digits and their separators. -/
structure Timestamp where
  text : Text
  characters : ∀ c ∈ text, c.isDigit = true ∨ c = '-' ∨ c = ' ' ∨ c = ':'

/-- The sections of the agents, one after the other. -/
def agentSections (numerals : Numerals) (uppercase : Uppercase) (clones : Text → AgentClone) :
    List Strategist.AgentConfig → Except PyExc (List Text)
  | [] => .ok []
  | agent :: rest => do
      let clone := clones agent.id
      let phases ← parseRoadmap numerals clone.roadmap
      let lines ← agentSections numerals uppercase clones rest
      return agentSection uppercase agent.id clone phases ++ lines

/-- The lines above the sections. -/
def statusHead (now : Timestamp) : List Text :=
  ["# Project Status — auto-generated by vco, do not edit".toList,
    "# Last updated: ".toList ++ now.text ++ " UTC".toList, "".toList]

/-- The lines below the sections. -/
def statusTail : List Text :=
  ["## Key Dependencies".toList, "- (none detected yet)".toList, "".toList, "## Notes".toList,
    "- (no notes)".toList, "".toList]

/-- `generate_project_status`. -/
def generateProjectStatus {alphabet : Text.Alphabet} (numerals : Numerals) (uppercase : Uppercase)
    (clones : Text → AgentClone) (now : Timestamp) (config : ProjectConfig alphabet) :
    Except PyExc Text := do
  let lines ← agentSections numerals uppercase clones config.agents
  return List.intercalate "\n".toList (statusHead now ++ lines ++ statusTail)

end Vcompany.Monitor
