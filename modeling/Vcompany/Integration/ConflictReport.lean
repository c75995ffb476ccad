import Vcompany.Integration.Pipeline

/-! # What a merge conflict is reported with

A run that ends with a conflict names the agents that were merged before it and leaves no merge
in progress. The files are looked for on standard error, while git names them on standard
output.
-/

namespace Vcompany.Integration

open Foundation Git

variable {Commit : Type} {mergeOf : Commit → Commit → Option Commit} {casing : Text.Casing}
  {clone : Clone Commit} {inputs : PipelineInputs}

/-- The branch that is checked out and the other one conflict. -/
structure Conflicting (mergeOf : Commit → Commit → Option Commit) (clone : Clone Commit)
    (branch : Text) (ours theirs : Commit) : Prop where
  clean : clone.unmerged = false
  isOurs : clone.branches clone.head = some ours
  isTheirs : clone.branches branch = some theirs
  conflict : mergeOf ours theirs = none

/-- The run gets to the agent: the branches of those before are merged, and its own conflicts
with them. -/
structure EndsInConflict (mergeOf : Commit → Commit → Option Commit) (casing : Text.Casing)
    (inputs : PipelineInputs) (clone : Clone Commit) (before : List AgentInputs)
    (agent : AgentInputs) (ours theirs : Commit) : Prop where
  agents : ∃ after, inputs.agents = before ++ agent :: after
  merged : (mergeAgents mergeOf casing before [] (prepare inputs clone)).2.2 = none
  works : agent.merge.works = true
  conflict : Conflicting mergeOf (mergeAgents mergeOf casing before [] (prepare inputs clone)).1
    (agentBranch casing agent.agentId) ours theirs

/-- The result names the unmerged paths and the agents that were merged, and no merge is in
progress. -/
structure ReportsConflict (outcome : PipelineOutcome Commit) (before : List AgentInputs)
    (unmergedPaths : List Text) : Prop where
  status : outcome.result.status = .mergeConflict
  conflictFiles : ∀ path, path ∈ outcome.result.conflictFiles ↔ path ∈ unmergedPaths
  mergedAgents : outcome.result.mergedAgents = before.map AgentInputs.agentId
  settled : outcome.clone.Settled

/-- What is printed reports no conflict. -/
def NoConflictLine (printed : Text) : Prop :=
  ∀ line ∈ Text.splitlines printed, ¬ "CONFLICT (".toList <+: line

theorem parseConflictFiles_eq_nil {stderr : Text} (quiet : NoConflictLine stderr) :
    parseConflictFiles stderr = [] := by
  unfold parseConflictFiles
  rw [List.filterMap_eq_nil_iff]
  exact fun line member => if_neg (quiet line member)

-- Even where it is looked for, a conflict of another kind is worded otherwise.
example : conflictFile
    "CONFLICT (modify/delete): a.py deleted in HEAD and modified in agent/b.".toList = none := by
  decide +kernel

theorem merge_of_conflicting {branch : Text} {ours theirs : Commit} {reply : GitReply}
    (works : reply.works = true) (conflict : Conflicting mergeOf clone branch ours theirs) :
    clone.merge mergeOf branch reply =
      ({ clone with mergeHead := true, unmerged := true }, reply.result false) := by
  unfold Clone.merge
  rw [if_pos ⟨works, by rw [conflict.clean]; exact Bool.false_ne_true⟩, conflict.isOurs,
    conflict.isTheirs]
  dsimp only
  rw [conflict.conflict]

theorem mergeAgents_cons {agent : AgentInputs} (agents : List AgentInputs)
    (mergedAgents : List Text)
    (success : (clone.merge mergeOf (agentBranch casing agent.agentId) agent.merge).2.success =
      true) :
    mergeAgents mergeOf casing (agent :: agents) mergedAgents clone =
      mergeAgents mergeOf casing agents (mergedAgents ++ [agent.agentId])
        (clone.merge mergeOf (agentBranch casing agent.agentId) agent.merge).1 := by
  rw [mergeAgents]
  exact if_pos success

/-- Once the branches of some agents are merged, the others are merged onto them. -/
theorem mergeAgents_append {before : List AgentInputs} (after : List AgentInputs)
    {mergedAgents : List Text}
    (merged : (mergeAgents mergeOf casing before mergedAgents clone).2.2 = none) :
    mergeAgents mergeOf casing (before ++ after) mergedAgents clone =
      mergeAgents mergeOf casing after (mergedAgents ++ before.map AgentInputs.agentId)
        (mergeAgents mergeOf casing before mergedAgents clone).1 := by
  induction before generalizing mergedAgents clone with
  | nil => exact congrArg (mergeAgents mergeOf casing after · clone) (List.append_nil _).symm
  | cons agent before ih =>
      by_cases success :
          (clone.merge mergeOf (agentBranch casing agent.agentId) agent.merge).2.success = true
      · rw [mergeAgents_cons before mergedAgents success] at merged ⊢
        rw [List.cons_append, mergeAgents_cons _ mergedAgents success, ih merged,
          List.append_assoc]
        rfl
      · rw [mergeAgents] at merged
        dsimp only at merged
        rw [if_neg success] at merged
        cases merged

section

variable {before : List AgentInputs} {agent : AgentInputs} {ours theirs : Commit}

/-- **A run that ends in a conflict.** It names the agents that were merged, and parses what git
printed on standard error. -/
theorem runPipeline_of_conflict
    (ends : EndsInConflict mergeOf casing inputs clone before agent ours theirs) :
    (runPipeline mergeOf casing inputs clone).result.status = .mergeConflict ∧
      (runPipeline mergeOf casing inputs clone).result.mergedAgents =
        before.map AgentInputs.agentId ∧
      (runPipeline mergeOf casing inputs clone).result.conflictFiles =
        parseConflictFiles agent.merge.stderr ∧
      (inputs.abort.works = true → (runPipeline mergeOf casing inputs clone).clone.Settled) := by
  obtain ⟨after, agents⟩ := ends.agents
  have stops : mergeAgents mergeOf casing inputs.agents [] (prepare inputs clone) =
      ({ (mergeAgents mergeOf casing before [] (prepare inputs clone)).1 with
          mergeHead := true
          unmerged := true }, before.map AgentInputs.agentId,
        some (agentBranch casing agent.agentId, agent.merge.result false)) := by
    rw [agents, mergeAgents_append _ ends.merged, List.nil_append, mergeAgents,
      merge_of_conflicting ends.works ends.conflict]
    rfl
  unfold runPipeline
  dsimp only
  rw [stops]
  exact ⟨rfl, rfl, rfl, fun works => Clone.mergeAbort_settled works rfl⟩

/-- **No conflict is reported with its files.** Where git names them on standard output alone,
no run that ends in a conflict reports the unmerged paths. -/
theorem conflict_files_not_reported
    (ends : EndsInConflict mergeOf casing inputs clone before agent ours theirs)
    (quiet : NoConflictLine agent.merge.stderr) {unmergedPaths : Commit → Commit → List Text}
    (unmerged : ∀ ours theirs, mergeOf ours theirs = none → unmergedPaths ours theirs ≠ []) :
    ¬ ReportsConflict (runPipeline mergeOf casing inputs clone) before
      (unmergedPaths ours theirs) := by
  intro reports
  obtain ⟨-, -, files, -⟩ := runPipeline_of_conflict ends
  obtain ⟨path, member⟩ := List.exists_mem_of_ne_nil _ (unmerged ours theirs ends.conflict.conflict)
  have named := (reports.conflictFiles path).mpr member
  rw [files, parseConflictFiles_eq_nil quiet] at named
  cases named

end

/-- A clone where the branch of the second agent conflicts with main. -/
private def diverged : Clone ℕ where
  branches branch :=
    if branch = mainBranch then some 1
    else if branch = "agent/a".toList then some 2
    else if branch = "agent/b".toList then some 9
    else none
  head := mainBranch

private def mergeSmall (first second : ℕ) : Option ℕ :=
  if second < 9 then some (first + second) else none

private def conflictLine : Text := "CONFLICT (content): Merge conflict in app.py".toList

private def unused : Attempt := { tests := .error [] }

private def second : AgentInputs where
  agentId := "b".toList
  merge := { stdout := conflictLine }
  attempt := unused

private def conflictingRun : PipelineInputs where
  millis := 0
  agents := [{ agentId := "a".toList, attempt := unused }, second]
  tests := .error []
  pullRequest := .error []

private theorem conflictingRun_ends : EndsInConflict mergeSmall .plain conflictingRun diverged
    [{ agentId := "a".toList, attempt := unused }] second 3 9 where
  agents := ⟨[], rfl⟩
  merged := by decide +kernel
  works := rfl
  conflict := ⟨by decide +kernel, by decide +kernel, by decide +kernel, rfl⟩

theorem conflictingRun_not_reported :
    ¬ ReportsConflict (runPipeline mergeSmall .plain conflictingRun diverged)
      [{ agentId := "a".toList, attempt := unused }] ["app.py".toList] :=
  have unmerged : ∀ ours theirs, mergeSmall ours theirs = none →
      (fun _ _ => ["app.py".toList] : ℕ → ℕ → List Text) ours theirs ≠ [] :=
    fun _ _ _ => List.cons_ne_nil _ _
  conflict_files_not_reported conflictingRun_ends nofun unmerged

/-- The one conflict is in `app.py`, which git prints on standard output. -/
theorem conflicting_file_missed :
    ¬ ∀ (mergeOf : ℕ → ℕ → Option ℕ) (unmergedPaths : ℕ → ℕ → List Text) (inputs : PipelineInputs)
      (clone : Clone ℕ) (before : List AgentInputs) (agent : AgentInputs) (ours theirs : ℕ),
      (∀ ours theirs, mergeOf ours theirs = none → unmergedPaths ours theirs ≠ []) →
      EndsInConflict mergeOf .plain inputs clone before agent ours theirs →
      NoConflictLine agent.merge.stderr →
        ReportsConflict (runPipeline mergeOf .plain inputs clone) before
          (unmergedPaths ours theirs) := by
  intro claim
  have reports := claim mergeSmall (fun _ _ => ["app.py".toList]) conflictingRun diverged _ second
    3 9 (fun _ _ _ => List.cons_ne_nil _ _) conflictingRun_ends nofun
  have none :
      (runPipeline mergeSmall .plain conflictingRun diverged).result.conflictFiles = [] := by
    decide +kernel
  have named := (reports.conflictFiles "app.py".toList).mpr List.mem_cons_self
  rw [none] at named
  cases named

end Vcompany.Integration
