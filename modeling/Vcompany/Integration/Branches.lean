import Vcompany.Integration.Pipeline
import Vcompany.Models.ProjectConfig

/-! # The branches of a project

Cloning, integration and attribution each derive the branch of an agent from its id in lower
case, while the configuration only asks that the ids differ as they are written.
-/

namespace Vcompany.Integration

open Foundation Models

/-- The commands that derive the branch of an agent. -/
inductive BranchUser where
  | cloning
  | integration
  | attribution
  deriving DecidableEq, Repr

/-- `f"agent/{agent.id.lower()}"`, where `clone` creates the branch. -/
def cloneBranch (casing : Text.Casing) (agentId : Text) : Text :=
  "agent/".toList ++ Text.lower casing agentId

/-- The branch of an agent, as one of the commands derives it. -/
def branchFor (casing : Text.Casing) : BranchUser → Text → Text
  | .cloning => cloneBranch casing
  | .integration => agentBranch casing
  | .attribution => agentBranch casing

variable {alphabet : Text.Alphabet} (casing : Text.Casing) (config : ProjectConfig alphabet)

/-- No two agents have a branch in common, whichever commands derive it. -/
def OwnBranches : Prop :=
  ∀ first ∈ config.agents, ∀ second ∈ config.agents, first ≠ second →
    ∀ user other, branchFor casing user first.id ≠ branchFor casing other second.id

/-- The commands agree on a branch exactly for ids with the same lower case. -/
theorem branchFor_eq_iff (user other : BranchUser) (first second : Text) :
    branchFor casing user first = branchFor casing other second ↔
      Text.lower casing first = Text.lower casing second := by
  have prefixed (user : BranchUser) (agentId : Text) :
      branchFor casing user agentId = "agent/".toList ++ Text.lower casing agentId := by
    cases user <;> rfl
  rw [prefixed, prefixed, List.append_right_inj]

/-- **When agents have branches of their own.** They do exactly when no two ids of the
configuration have the same lower case. -/
theorem ownBranches_iff :
    OwnBranches casing config ↔
      (config.agents.map fun agent => Text.lower casing agent.id).Nodup := by
  unfold OwnBranches
  simp only [ne_eq, branchFor_eq_iff]
  constructor
  · intro apart
    refine List.Nodup.map_on ?_ config.ids_nodup.of_map
    intro first isFirst second isSecond same
    by_contra distinct
    exact apart first isFirst second isSecond distinct .cloning .cloning same
  · intro nodup first isFirst second isSecond distinct _ _ same
    exact distinct (List.inj_on_of_nodup_map nodup isFirst isSecond same)

/-- Ids that are their own lower case give branches of their own. -/
theorem ownBranches_of_lowercase
    (lowercase : ∀ agent ∈ config.agents, ∀ c ∈ agent.id, Text.asciiLower c = some [c]) :
    OwnBranches casing config := by
  intro first isFirst second isSecond distinct user other same
  rw [branchFor_eq_iff, Text.lower_of_caseless casing (lowercase first isFirst),
    Text.lower_of_caseless casing (lowercase second isSecond)] at same
  exact distinct (List.inj_on_of_nodup_map config.ids_nodup isFirst isSecond same)

/-- Two agents whose ids differ in case. -/
def caseConfig : ProjectConfig .plain where
  project := "p"
  agents := [{ id := "A", owns := ["a"] }, { id := "a", owns := ["b"] }]
  valid := rfl

/-- The two agents are given one branch. -/
theorem caseConfig_shares_branch : ¬ OwnBranches .plain caseConfig := by
  intro apart
  exact apart { id := "A", owns := ["a"] } List.mem_cons_self { id := "a", owns := ["b"] }
    (List.mem_cons_of_mem _ List.mem_cons_self) (by decide) .cloning .cloning (by decide)

end Vcompany.Integration
