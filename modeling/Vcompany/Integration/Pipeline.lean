import Vcompany.Integration.Attribution

/-! # The integration pipeline

The branches of the agents are merged, one after the other, into a new branch at main, and the
tests are run on it. Then a pull request is created, or the failures are attributed.
-/

namespace Vcompany.Integration

open Foundation Git

/-- What decides the turns of one agent. -/
structure AgentInputs where
  agentId : Text
  merge : GitReply := {}
  attempt : Attempt

/-- What decides a run of the pipeline; the tests and `gh` may raise. -/
structure PipelineInputs where
  millis : ℕ
  agents : List AgentInputs
  fetch : GitReply := {}
  checkout : GitReply := {}
  branch : GitReply := {}
  abort : GitReply := {}
  push : GitReply := {}
  tests : Except Text TestRun
  pullRequest : Except Text Text

inductive IntegrationStatus where
  | success
  | testFailure
  | mergeConflict
  | error
  deriving DecidableEq, Repr

structure TestRunResult where
  passed : Bool
  failedTests : List Text := []
  output : Text := []

structure IntegrationResult where
  status : IntegrationStatus
  branchName : Text
  mergedAgents : List Text
  testResults : Option TestRunResult := none
  attribution : Dict Text (List Text) := .empty
  prUrl : Option Text := none
  conflictFiles : List Text := []
  error : Text := []

/-- The end of a call: the clone, its result, and the working tree of each run of the failing
tests. -/
structure PipelineOutcome (Commit : Type) where
  clone : Clone Commit
  result : IntegrationResult
  reruns : List (Text × Option Commit) := []

/-- `f"integrate/{int(time.time() * 1000)}"`. -/
def integrateBranch (millis : ℕ) : Text := "integrate/".toList ++ Nat.toDigits 10 millis

/-- `_run_tests`, from the run of pytest. -/
def runTests (testRun : TestRun) : TestRunResult :=
  let output := testRun.stdout ++ testRun.stderr
  if testRun.returncode = 0 then { passed := true, output }
  else { passed := false, failedTests := failedLines output, output }

/-- The file that a line of git's output reports a conflict in. -/
def conflictFile (line : Text) : Option Text :=
  if "CONFLICT (".toList <+: line then
    match Text.cut "): Merge conflict in ".toList (line.drop "CONFLICT (".toList.length) with
    | some (_, file) => if file = [] then none else some (Text.strip file)
    | none => none
  else none

/-- `_parse_conflict_files`. -/
def parseConflictFiles (stderr : Text) : List Text :=
  (Text.splitlines stderr).filterMap conflictFile

variable {Commit : Type} (mergeOf : Commit → Commit → Option Commit) (casing : Text.Casing)

/-- The merges of the agents' branches up to the first that fails: the clone, the agents that
are merged, and the failure. -/
def mergeAgents : List AgentInputs → List Text → Clone Commit →
    Clone Commit × List Text × Option (Text × GitResult)
  | [], mergedAgents, clone => (clone, mergedAgents, none)
  | agent :: agents, mergedAgents, clone =>
      match clone.merge mergeOf (agentBranch casing agent.agentId) agent.merge with
      | (next, result) =>
          if result.success then mergeAgents agents (mergedAgents ++ [agent.agentId]) next
          else (next, mergedAgents, some (agentBranch casing agent.agentId, result))

/-- The clone when the merges begin: at main, on a new branch. -/
def prepare (inputs : PipelineInputs) (clone : Clone Commit) : Clone Commit :=
  let fetched := (clone.fetch inputs.fetch).1
  let onMain := (fetched.checkout mainBranch inputs.checkout).1
  (onMain.checkoutNewBranch (integrateBranch inputs.millis) inputs.branch).1

/-- `IntegrationPipeline.run`. -/
def runPipeline (inputs : PipelineInputs) (clone : Clone Commit) : PipelineOutcome Commit :=
  let branchName := integrateBranch inputs.millis
  match mergeAgents mergeOf casing inputs.agents [] (prepare inputs clone) with
  | (merged, mergedAgents, some (agentBranch, failure)) =>
      { clone := (merged.mergeAbort inputs.abort).1
        result := {
          status := .mergeConflict
          branchName
          mergedAgents
          conflictFiles := parseConflictFiles failure.stderr
          error := "Merge conflict with ".toList ++ agentBranch } }
  | (merged, mergedAgents, none) =>
      match inputs.tests with
      | .error raised =>
          { clone := merged
            result := { status := .error, branchName, mergedAgents, error := raised } }
      | .ok testRun =>
          let testResults := runTests testRun
          if testResults.passed then
            let pushed := (merged.push inputs.push).1
            match inputs.pullRequest with
            | .error raised =>
                { clone := pushed
                  result := { status := .error, branchName, mergedAgents, error := raised } }
            | .ok url =>
                { clone := pushed
                  result := {
                    status := .success
                    branchName
                    mergedAgents
                    testResults := some testResults
                    prUrl := some url } }
          else
            match attributeFailures mergeOf casing testResults.failedTests
                (inputs.agents.map fun agent => (agent.agentId, agent.attempt)) merged with
            | (state, .error raised) =>
                { clone := state.clone
                  result := { status := .error, branchName, mergedAgents, error := raised }
                  reruns := state.reruns }
            | (state, .ok attribution) =>
                { clone := state.clone
                  result := {
                    status := .testFailure
                    branchName
                    mergedAgents
                    testResults := some testResults
                    attribution }
                  reruns := state.reruns }

end Vcompany.Integration
