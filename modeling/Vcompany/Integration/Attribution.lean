import Vcompany.Foundation.Dict
import Vcompany.Git.Ops

/-! # Attribution of test failures

Each agent's branch is merged alone into a new branch at main, and the failing tests are run
again on it. What decides a step beside the clone comes with the agent: the replies of git and
the run of the tests. The outcome keeps the working tree of each run.
-/

namespace Vcompany.Integration

open Foundation Git

/-- A run of pytest. -/
structure TestRun where
  returncode : ℤ
  stdout : Text := []
  stderr : Text := []

/-- What decides the turn of one agent; a run of the tests may raise, as on a timeout. -/
structure Attempt where
  checkout : GitReply := {}
  branch : GitReply := {}
  merge : GitReply := {}
  tests : Except Text TestRun
  back : GitReply := {}

def mainBranch : Text := "main".toList

/-- `f"_attr_{agent_id}"`. -/
def attrBranch (agentId : Text) : Text := "_attr_".toList ++ agentId

/-- `f"agent/{agent_id.lower()}"`. -/
def agentBranch (casing : Text.Casing) (agentId : Text) : Text :=
  "agent/".toList ++ Text.lower casing agentId

/-- The test that a line of pytest's report names. -/
def testName (line : Text) : Text :=
  if ' ' ∈ line then
    let word := ((line.splitOn ' ')[1]?).getD []
    ((Text.cut " - ".toList word).map Prod.fst).getD word
  else line

/-- The tests named in the lines that start with FAILED. -/
def failedLines (output : Text) : List Text :=
  ((Text.splitlines output).map Text.strip).filterMap fun line =>
    if "FAILED ".toList <+: line then some (testName line) else none

/-- `_parse_failed_tests`. -/
def parseFailedTests (output : Text) (candidateTests : List Text) : List Text :=
  let failedInOutput := failedLines output
  let failed := candidateTests.filter fun test => test ∈ failedInOutput
  if failed = [] ∧ failedInOutput ≠ [] then candidateTests else failed

/-- The state of `attribute_failures`, with the agent and the working tree of each run of the
tests. -/
structure Attributing (Commit : Type) where
  clone : Clone Commit
  attribution : Dict Text (List Text) := .empty
  attributedTests : List Text := []
  reruns : List (Text × Option Commit) := []

variable {Commit : Type} (mergeOf : Commit → Commit → Option Commit) (casing : Text.Casing)

/-- The clone when the tests of an agent are about to run, and the result of the merge. -/
def isolate (agentId : Text) (attempt : Attempt) (clone : Clone Commit) :
    Clone Commit × GitResult :=
  let onMain := (clone.checkout mainBranch attempt.checkout).1
  let onTemp := (onMain.checkoutNewBranch (attrBranch agentId) attempt.branch).1
  onTemp.merge mergeOf (agentBranch casing agentId) attempt.merge

/-- Tests are attributed to an agent. -/
def Attributing.attribute (agentId : Text) (tests : List Text) (state : Attributing Commit) :
    Attributing Commit :=
  { state with
    attribution := state.attribution.set agentId tests
    attributedTests := state.attributedTests ++ tests }

/-- The `try` block of an agent's turn, with what it raises. -/
def tryAgent (failedTests : List Text) (agentId : Text) (attempt : Attempt)
    (state : Attributing Commit) : Attributing Commit × Option Text :=
  match isolate mergeOf casing agentId attempt state.clone with
  | (clone, merged) =>
      if merged.success then
        let rerun := { state with clone, reruns := state.reruns ++ [(agentId, clone.worktree)] }
        match attempt.tests with
        | .error raised => (rerun, some raised)
        | .ok testRun =>
            if testRun.returncode = 0 then (rerun, none)
            else
              match parseFailedTests testRun.stdout failedTests with
              | [] => (rerun, none)
              | agentFailures => (rerun.attribute agentId agentFailures, none)
      else ({ state with clone }.attribute agentId failedTests, none)

/-- An agent's turn; at its end main is checked out in any case. -/
def attributeAgent (failedTests : List Text) (agentId : Text) (attempt : Attempt)
    (state : Attributing Commit) : Attributing Commit × Option Text :=
  match tryAgent mergeOf casing failedTests agentId attempt state with
  | (tried, raised) =>
      ({ tried with clone := (tried.clone.checkout mainBranch attempt.back).1 }, raised)

def attributeAgents (failedTests : List Text) :
    List (Text × Attempt) → Attributing Commit → Attributing Commit × Option Text
  | [], state => (state, none)
  | (agentId, attempt) :: agents, state =>
      match attributeAgent mergeOf casing failedTests agentId attempt state with
      | (next, none) => attributeAgents failedTests agents next
      | (next, some raised) => (next, some raised)

/-- `attribute_failures`. -/
def attributeFailures (failedTests : List Text) (agents : List (Text × Attempt))
    (clone : Clone Commit) : Attributing Commit × Except Text (Dict Text (List Text)) :=
  if failedTests = [] then ({ clone }, .ok .empty)
  else
    match attributeAgents mergeOf casing failedTests agents { clone } with
    | (state, some raised) => (state, .error raised)
    | (state, none) =>
        match failedTests.filter fun test => test ∉ state.attributedTests with
        | [] => (state, .ok state.attribution)
        | unattributed =>
            let label := if 1 < agents.length then "_interaction".toList else "_flaky".toList
            (state, .ok (state.attribution.set label unattributed))

end Vcompany.Integration
