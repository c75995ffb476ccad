import Vcompany.Cli.ReportCmd
import Vcompany.Models.Config
import Vcompany.Shared.WorkflowTypes
import Vcompany.Tools.PatchGsdWorkflows

/-! # The completion signals of the agents

The cog listens in the channels of the agents. A signal counts if it names the agent of the
channel. The report command sets the agent's id between asterisks, which the detector takes
for a part of it; so no completion that a patched workflow reports is heard.
-/

namespace Vcompany.Bot.WorkflowOrchestratorCog

open Foundation Shared Cli Tools Models

/-- `f"agent-{agent_id}"`. -/
def agentChannel (agentId : Text) : Text := "agent-".toList ++ agentId

/-- The `stage_map` of `on_message`. -/
def stageMap (stage : Text) : Option WorkflowStage :=
  if stage = "discuss".toList then some .discussionGate
  else if stage = "plan".toList then some .pmPlanReviewGate
  else if stage = "execute".toList then some .verify
  else if stage = "verify".toList then some .phaseComplete
  else none

/-- `on_message`, up to the handling of the new stage: the agent that advances, and the
stage. -/
def onMessage (initialized : Bool) (channelName : Option Text) (content : Text)
    (hasContainer : Text → Bool) : Option (Text × WorkflowStage) :=
  if !initialized then none
  else
    match channelName with
    | none => none
    | some channelName =>
        if ¬ "agent-".toList <+: channelName then none
        else if "[system]".toList <+: content then none
        else
          match detectStageSignal content with
          | none => none
          | some (agentId, stage) =>
              if channelName ≠ agentChannel agentId then none
              else if hasContainer agentId then
                (stageMap stage).map fun newStage => (agentId, newStage)
              else none

/-- What the detector takes for the id in a report of the agent. -/
def reportedLabel (agentId : Text) : Text := "**".toList ++ agentId ++ "**".toList

theorem reportedLabel_ne (agentId : Text) : reportedLabel agentId ≠ agentId := by
  intro same
  have lengths := congrArg List.length same
  unfold reportedLabel at lengths
  rw [List.length_append, List.length_append] at lengths
  change 2 + agentId.length + 2 = agentId.length at lengths
  omega

private theorem digit_solid : ∀ digit < 10, Pattern.isSolid (Nat.digitChar digit) = true := by
  decide

private theorem twoDigits_solid {number : ℕ} (small : number < 100) :
    ∀ c ∈ twoDigits number, Pattern.isSolid c = true := by
  intro c member
  rcases List.mem_cons.mp member with rfl | member
  · exact digit_solid _ (Nat.div_lt_of_lt_mul small)
  · rw [List.mem_singleton.mp member]
    exact digit_solid _ (Nat.mod_lt _ (by decide))

/-- The time of day in a message, with the backticks. -/
private theorem stamp_solid (time : ClockTime) :
    ∀ c ∈ ['`'] ++ time.text ++ ['`'], Pattern.isSolid c = true := by
  have tick : Pattern.isSolid '`' = true := by decide
  have colon : Pattern.isSolid ':' = true := by decide
  have hour := twoDigits_solid (time.hour.isLt.trans (by decide))
  have minute := twoDigits_solid (time.minute.isLt.trans (by decide))
  have second := twoDigits_solid (time.second.isLt.trans (by decide))
  unfold ClockTime.text
  simp only [List.forall_mem_append, List.forall_mem_singleton]
  exact ⟨⟨tick, ⟨⟨⟨hour, colon⟩, minute⟩, colon⟩, second⟩, tick⟩

private theorem label_solid {alphabet : Text.Alphabet} {agentId : Text}
    (accepted : idMustBeAlphanumeric alphabet agentId = .ok agentId) :
    ∀ c ∈ reportedLabel agentId, Pattern.isSolid c = true := by
  have stars : ∀ c ∈ "**".toList, Pattern.isSolid c = true := List.all_eq_true.mp (by decide)
  unfold reportedLabel
  simp only [List.forall_mem_append]
  refine ⟨⟨stars, ?_⟩, stars⟩
  intro c member
  exact congrArg Bool.not (solid_of_accepted accepted c member)

/-- The detector's reading of a report: the stage is that of the status, and the id stands
between asterisks. -/
theorem detectStageSignal_report {alphabet : Text.Alphabet} {agentId statusText message : Text}
    {agentIdVar vcoAgentIdVar : Option Text} {time : ClockTime} {first : Char}
    (accepted : idMustBeAlphanumeric alphabet agentId = .ok agentId)
    (reporting : reportingAgent agentIdVar vcoAgentIdVar = agentId)
    (posted : report agentIdVar vcoAgentIdVar [statusText] time = some message)
    (start : statusText.head? = some first) (firstSolid : Text.isSpace first = false)
    (inline : ∀ c ∈ statusText, Pattern.isInline c = true) :
    detectStageSignal message =
      (completedStage statusText).map fun stage => (reportedLabel agentId, stage) := by
  unfold report at posted
  rw [reporting] at posted
  dsimp only at posted
  split at posted
  · cases posted
  · have shape : message = (['`'] ++ time.text ++ ['`']) ++ ([' '] ++ (reportedLabel agentId ++
        (':' :: ([' '] ++ statusText)))) := by
      rw [← Option.some.inj posted]
      unfold reportedLabel
      simp
    rw [shape]
    exact detectStageSignal_parts (by simp) (stamp_solid time) (by simp [reportedLabel])
      (label_solid accepted) start firstSolid inline

theorem completedStage_discuss :
    completedStage "discuss-phase complete".toList = some "discuss".toList := by
  decide +kernel

/-- No phrase of the detector is for the end of the workflow with assumptions. -/
theorem completedStage_assumptions :
    completedStage "discuss-phase-assumptions complete".toList = none := by
  decide +kernel

/-- In the channel of an agent, a message that is no signal of that agent is ignored. -/
theorem onMessage_ignored {agentId message : Text} (initialized : Bool)
    (hasContainer : Text → Bool)
    (unheard : ∀ stage, detectStageSignal message ≠ some (agentId, stage)) :
    onMessage initialized (some (agentChannel agentId)) message hasContainer = none := by
  unfold onMessage
  dsimp only
  rcases detected : detectStageSignal message with _ | ⟨other, stage⟩
  · split
    · rfl
    · split
      · rfl
      · split <;> rfl
  · have apart : agentChannel agentId ≠ agentChannel other := by
      intro same
      rw [← List.append_cancel_left same] at detected
      exact unheard stage detected
    dsimp only
    rw [if_pos apart]
    split
    · rfl
    · split
      · rfl
      · split <;> rfl

/-- **No completion is heard.** Whatever the agent's id, the workflow and the time, the
detector does not give the agent's id for the report of a completion, and the orchestrator
ignores it. -/
theorem completion_never_heard {alphabet : Text.Alphabet} {agentId statusText message : Text}
    {agentIdVar vcoAgentIdVar : Option Text} {time : ClockTime}
    (accepted : idMustBeAlphanumeric alphabet agentId = .ok agentId)
    (emitted : reportEndStep statusText ∈ completionReports)
    (reporting : reportingAgent agentIdVar vcoAgentIdVar = agentId)
    (posted : report agentIdVar vcoAgentIdVar [statusText] time = some message) :
    (∀ stage, detectStageSignal message ≠ some (agentId, stage)) ∧
      ∀ initialized hasContainer,
        onMessage initialized (some (agentChannel agentId)) message hasContainer = none := by
  have unheard : ∀ stage, detectStageSignal message ≠ some (agentId, stage) := by
    intro stage
    rcases reportEndStep_mem_iff.mp emitted with rfl | rfl
    · rw [detectStageSignal_report accepted reporting posted rfl (by decide)
          (List.all_eq_true.mp (by decide)), completedStage_discuss]
      exact fun named => reportedLabel_ne agentId (congrArg Prod.fst (Option.some.inj named))
    · rw [detectStageSignal_report accepted reporting posted rfl (by decide)
          (List.all_eq_true.mp (by decide)), completedStage_assumptions]
      exact fun named => nomatch named
  exact ⟨unheard, fun initialized hasContainer =>
    onMessage_ignored initialized hasContainer unheard⟩

private def noon : ClockTime := ⟨12, 0, 0⟩

private def notice : Text := "`12:00:00` **a**: discuss-phase complete".toList

private theorem notice_posted :
    report none (some ['a']) ["discuss-phase complete".toList] noon = some notice := by
  decide +kernel

theorem discuss_completion_unheard :
    (∀ stage, detectStageSignal notice ≠ some (['a'], stage)) ∧
      ∀ initialized hasContainer,
        onMessage initialized (some (agentChannel ['a'])) notice hasContainer = none := by
  have accepted : idMustBeAlphanumeric .plain ['a'] = .ok ['a'] := by decide +kernel
  exact completion_never_heard accepted (reportEndStep_mem_iff.mpr (.inl rfl)) rfl notice_posted

/-- The detector reads the id of the agent `a` as `**a**`. -/
theorem completion_under_label :
    ¬ ∀ (alphabet : Text.Alphabet) (agentId statusText message : Text)
      (agentIdVar vcoAgentIdVar : Option Text) (time : ClockTime),
      idMustBeAlphanumeric alphabet agentId = .ok agentId →
        reportEndStep statusText ∈ completionReports →
          reportingAgent agentIdVar vcoAgentIdVar = agentId →
            report agentIdVar vcoAgentIdVar [statusText] time = some message →
              detectStageSignal message = some (agentId, "discuss".toList) := by
  intro claim
  have heard := claim .plain ['a'] "discuss-phase complete".toList notice none (some ['a']) noon
    (by decide +kernel) (reportEndStep_mem_iff.mpr (.inl rfl)) rfl notice_posted
  exact absurd heard (by decide +kernel)

end Vcompany.Bot.WorkflowOrchestratorCog
