import Vcompany.Models.Config
import Vcompany.Strategist.PlanReviewer
import Mathlib.Data.List.Pairwise

/-! # Project configurations

What the validators of `agents.yaml` accept: alphanumeric ids that differ from one another,
and owned directories of which none lies in another.
-/

namespace Vcompany.Models

open Foundation
open Strategist (AgentConfig)

inductive ConfigError where
  | agentId (error : AgentIdError)
  /-- "Agent must own at least one directory". -/
  | noOwnedDirectory
  /-- "Duplicate agent ID", and the id. -/
  | duplicateId (id : Text)
  /-- "Overlapping directory ownership", with the directory and the agent on both sides. -/
  | overlapping (d agentId existingDir existingAgent : Text)
  deriving DecidableEq

/-- `AgentConfig.owns_must_not_be_empty`. -/
def ownsMustNotBeEmpty (v : List Text) : Except ConfigError (List Text) :=
  if v = [] then .error .noOwnedDirectory else .ok v

/-- What the field validators of an agent report. -/
def fieldErrors (alphabet : Text.Alphabet) (agent : AgentConfig) : List ConfigError :=
  (match idMustBeAlphanumeric alphabet agent.id with
    | .error error => [.agentId error]
    | .ok _ => []) ++
  (match ownsMustNotBeEmpty agent.owns with
    | .error error => [error]
    | .ok _ => [])

/-- The search for an id that is in use. -/
def checkIds : List Text → List AgentConfig → Except ConfigError Unit
  | _, [] => .ok ()
  | seenIds, agent :: rest =>
      if agent.id ∈ seenIds then .error (.duplicateId agent.id)
      else checkIds (agent.id :: seenIds) rest

/-- `d.rstrip("/")`. -/
def rstripSlash (d : Text) : Text := d.rdropWhile (· = '/')

/-- `d.rstrip("/") + "/"`. -/
def normalizedDir (d : Text) : Text := rstripSlash d ++ ['/']

/-- One of the texts starts with the other. -/
def Overlap (first second : Text) : Prop := second <+: first ∨ first <+: second

instance (first second : Text) : Decidable (Overlap first second) :=
  inferInstanceAs (Decidable (_ ∨ _))

/-- A directory of an agent joins the directories claimed so far. -/
def claimDir (agentId : Text) (allDirs : List (Text × Text)) (d : Text) :
    Except ConfigError (List (Text × Text)) :=
  match allDirs.find? fun existing => Overlap (normalizedDir d) existing.1 with
  | some (existingDir, existingAgent) =>
      .error (.overlapping d agentId (rstripSlash existingDir) existingAgent)
  | none => .ok (allDirs ++ [(normalizedDir d, agentId)])

/-- The directories of an agent join the directories claimed so far. -/
def claimDirs (allDirs : List (Text × Text)) (agent : AgentConfig) :
    Except ConfigError (List (Text × Text)) :=
  agent.owns.foldlM (claimDir agent.id) allDirs

/-- `ProjectConfig.validate_project_constraints`. -/
def validateProjectConstraints (agents : List AgentConfig) : Except ConfigError Unit := do
  checkIds [] agents
  let _ ← agents.foldlM claimDirs []
  return ()

/-- The validation of the agents: their fields first, then the constraints between them. -/
def validate (alphabet : Text.Alphabet) (agents : List AgentConfig) :
    Except (List ConfigError) Unit :=
  match agents.flatMap (fieldErrors alphabet) with
  | [] => (validateProjectConstraints agents).mapError ([·])
  | errors => .error errors

/-- A configuration that the validators accept. -/
structure ProjectConfig (alphabet : Text.Alphabet) where
  project : Text
  agents : List AgentConfig
  valid : validate alphabet agents = .ok ()

/-! ## What an accepted configuration satisfies -/

private theorem eq_of_accepted {alphabet : Text.Alphabet} {v w : Text}
    (accepted : idMustBeAlphanumeric alphabet v = .ok w) : w = v := by
  unfold idMustBeAlphanumeric at accepted
  split at accepted
  · cases accepted
  · split at accepted <;> cases accepted
    rfl

theorem overlap_comm {first second : Text} : Overlap first second ↔ Overlap second first :=
  or_comm

private theorem nodup_of_checkIds {seenIds : List Text} {agents : List AgentConfig}
    (accepted : checkIds seenIds agents = .ok ()) :
    (agents.map AgentConfig.id).Nodup ∧ ∀ agent ∈ agents, agent.id ∉ seenIds := by
  induction agents generalizing seenIds with
  | nil => simp
  | cons agent rest ih =>
      unfold checkIds at accepted
      split at accepted
      · cases accepted
      · next fresh =>
          obtain ⟨distinct, apart⟩ := ih accepted
          refine ⟨List.nodup_cons.mpr ⟨?_, distinct⟩, List.forall_mem_cons.mpr ⟨fresh, ?_⟩⟩
          · intro member
            obtain ⟨other, later, same⟩ := List.mem_map.mp member
            exact apart other later (same ▸ List.mem_cons_self)
          · exact fun other later seen => apart other later (List.mem_cons_of_mem _ seen)

private theorem apart_of_claimDir {agentId : Text} {allDirs claimed : List (Text × Text)}
    {d : Text} (accepted : claimDir agentId allDirs d = .ok claimed) :
    claimed = allDirs ++ [(normalizedDir d, agentId)] ∧
      ∀ existing ∈ allDirs, ¬ Overlap (normalizedDir d) existing.1 := by
  unfold claimDir at accepted
  split at accepted
  · cases accepted
  · next free =>
      cases accepted
      refine ⟨rfl, fun existing member overlap => ?_⟩
      exact List.find?_eq_none.mp free existing member (decide_eq_true overlap)

/-- The directories claimed one after the other are apart if the first ones are. -/
private theorem apart_of_claimDirs {agentId : Text} {owns : List Text}
    {allDirs claimed : List (Text × Text)}
    (accepted : owns.foldlM (claimDir agentId) allDirs = .ok claimed)
    (apart : allDirs.Pairwise fun first second => ¬ Overlap first.1 second.1) :
    claimed = allDirs ++ owns.map (fun d => (normalizedDir d, agentId)) ∧
      claimed.Pairwise fun first second => ¬ Overlap first.1 second.1 := by
  induction owns generalizing allDirs with
  | nil =>
      cases accepted
      exact ⟨by simp, apart⟩
  | cons d rest ih =>
      rw [List.foldlM_cons] at accepted
      rcases step : claimDir agentId allDirs d with error | next
      · rw [step] at accepted
        cases accepted
      · rw [step] at accepted
        obtain ⟨rfl, free⟩ := apart_of_claimDir step
        have extended : (allDirs ++ [(normalizedDir d, agentId)]).Pairwise fun first second =>
            ¬ Overlap first.1 second.1 := by
          refine List.pairwise_append.mpr ⟨apart, List.pairwise_singleton _ _, ?_⟩
          intro existing member new single
          rw [List.mem_singleton.mp single]
          exact mt overlap_comm.mp (free existing member)
        obtain ⟨appended, pairwise⟩ := ih accepted extended
        exact ⟨by rw [appended]; simp, pairwise⟩

private theorem apart_of_agents {agents : List AgentConfig}
    {allDirs claimed : List (Text × Text)}
    (accepted : agents.foldlM claimDirs allDirs = .ok claimed)
    (apart : allDirs.Pairwise fun first second => ¬ Overlap first.1 second.1) :
    claimed = allDirs ++ agents.flatMap (fun agent =>
        agent.owns.map fun d => (normalizedDir d, agent.id)) ∧
      claimed.Pairwise fun first second => ¬ Overlap first.1 second.1 := by
  induction agents generalizing allDirs with
  | nil =>
      cases accepted
      exact ⟨by simp, apart⟩
  | cons agent rest ih =>
      rw [List.foldlM_cons] at accepted
      rcases step : claimDirs allDirs agent with error | next
      · rw [step] at accepted
        cases accepted
      · rw [step] at accepted
        obtain ⟨rfl, extended⟩ := apart_of_claimDirs step apart
        obtain ⟨appended, pairwise⟩ := ih accepted extended
        exact ⟨by rw [appended]; simp, pairwise⟩

namespace ProjectConfig

variable {alphabet : Text.Alphabet} (config : ProjectConfig alphabet)

private theorem fields_valid : config.agents.flatMap (fieldErrors alphabet) = [] := by
  have valid := config.valid
  unfold validate at valid
  split at valid
  · next none => exact none
  · cases valid

private theorem constraints_valid : validateProjectConstraints config.agents = .ok () := by
  have valid := config.valid
  unfold validate at valid
  rw [config.fields_valid] at valid
  rcases constraints : validateProjectConstraints config.agents with error | _
  · rw [constraints] at valid
    cases valid
  · rfl

theorem id_accepted {agent : AgentConfig} (member : agent ∈ config.agents) :
    idMustBeAlphanumeric alphabet agent.id = .ok agent.id := by
  have none := (List.append_eq_nil_iff.mp
    (List.flatMap_eq_nil_iff.mp config.fields_valid agent member)).1
  rcases accepted : idMustBeAlphanumeric alphabet agent.id with error | v
  · rw [accepted] at none
    cases none
  · rw [eq_of_accepted accepted]

theorem ids_checked : ∃ ids, checkIds [] config.agents = .ok ids := by
  have valid := config.constraints_valid
  unfold validateProjectConstraints at valid
  rcases ids : checkIds [] config.agents with error | checked
  · rw [ids] at valid
    cases valid
  · exact ⟨checked, rfl⟩

theorem ids_nodup : (config.agents.map AgentConfig.id).Nodup := by
  obtain ⟨_, ids⟩ := config.ids_checked
  exact (nodup_of_checkIds ids).1

/-- No owned directory, in the validator's spelling, is a prefix of another. -/
theorem dirs_apart :
    (config.agents.flatMap fun agent =>
      agent.owns.map fun d => (normalizedDir d, agent.id)).Pairwise fun first second =>
        ¬ Overlap first.1 second.1 := by
  have valid := config.constraints_valid
  unfold validateProjectConstraints at valid
  obtain ⟨_, ids⟩ := config.ids_checked
  rw [ids] at valid
  rcases claims : config.agents.foldlM claimDirs [] with error | claimed
  · have failed : (Except.error error : Except ConfigError Unit) = .ok () := by
      rw [← valid, claims]
      rfl
    cases failed
  · obtain ⟨rfl, apart⟩ := apart_of_agents claims List.Pairwise.nil
    exact apart

/-- The directories of different agents do not overlap. -/
theorem dirs_disjoint {first second : AgentConfig} (isFirst : first ∈ config.agents)
    (isSecond : second ∈ config.agents) (distinct : first ≠ second) {d e : Text}
    (owned : d ∈ first.owns) (other : e ∈ second.owns) :
    ¬ Overlap (normalizedDir d) (normalizedDir e) := by
  have pairwise := (List.pairwise_flatMap.mp config.dirs_apart).2
  have symmetric : Std.Symm fun first second : AgentConfig =>
      ∀ x ∈ first.owns.map (fun d => (normalizedDir d, first.id)),
        ∀ y ∈ second.owns.map (fun d => (normalizedDir d, second.id)), ¬ Overlap x.1 y.1 :=
    ⟨fun _ _ apart x isX y isY => mt overlap_comm.mp (apart y isY x isX)⟩
  exact pairwise.forall isFirst isSecond distinct _ (List.mem_map_of_mem owned) _
    (List.mem_map_of_mem other)

/-- The directories of one agent do not overlap. -/
theorem own_dirs_disjoint {agent : AgentConfig} (member : agent ∈ config.agents) {d e : Text}
    (owned : d ∈ agent.owns) (other : e ∈ agent.owns) (distinct : d ≠ e) :
    ¬ Overlap (normalizedDir d) (normalizedDir e) := by
  have pairwise := List.pairwise_map.mp
    ((List.pairwise_flatMap.mp config.dirs_apart).1 agent member)
  have symmetric : Std.Symm fun d e : Text => ¬ Overlap (normalizedDir d) (normalizedDir e) :=
    ⟨fun _ _ => mt overlap_comm.mp⟩
  exact pairwise.forall owned other distinct

/-- The agent that a search by id finds. -/
theorem find?_id {agent : AgentConfig} (member : agent ∈ config.agents) :
    (config.agents.find? fun other => other.id = agent.id) = some agent := by
  rcases found : config.agents.find? fun other => other.id = agent.id with _ | other
  · exact absurd (decide_eq_true rfl) (List.find?_eq_none.mp found agent member)
  · have same : other.id = agent.id := by simpa using List.find?_some found
    have one := List.inj_on_of_nodup_map config.ids_nodup (List.mem_of_find?_eq_some found) member
      same
    rw [found, one]

end ProjectConfig

end Vcompany.Models
