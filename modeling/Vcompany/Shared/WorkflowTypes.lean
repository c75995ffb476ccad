import Vcompany.Foundation.Pattern

/-! # Workflow stages and their completion signals

A report is read back from the message that it is posted as: a first word, the agent's id
with a colon, and the status, in which a phrase tells the stage that is complete.
-/

namespace Vcompany.Shared

open Foundation

inductive WorkflowStage where
  | idle
  | discuss
  | discussionGate
  | plan
  | pmPlanReviewGate
  | execute
  | verify
  | verifyGate
  | phaseComplete
  deriving DecidableEq, Repr

/-- `STAGE_COMPLETE_PATTERNS`: the names of the stages and their phrases. -/
def stageCompletePatterns : List (Text × Text) :=
  [("discuss".toList, "discuss-phase complete".toList),
    ("plan".toList, "plan-phase complete".toList),
    ("execute".toList, "execute-phase complete".toList),
    ("research".toList, "research-phase complete".toList)]

/-- `AGENT_ID_PATTERN`: `^\S+\s+(\S+):\s+(.+)$`. -/
def agentIdPattern : Pattern :=
  [⟨Pattern.isSolid, true⟩, ⟨Text.isSpace, true⟩, ⟨Pattern.isSolid, true⟩, ⟨(· = ':'), false⟩,
    ⟨Text.isSpace, true⟩, ⟨Pattern.isInline, true⟩]

/-- The stage whose completion the status tells. -/
def completedStage (statusText : Text) : Option Text :=
  (stageCompletePatterns.find? fun stage => Pattern.searchIgnoringCase stage.2 statusText).map
    Prod.fst

/-- `detect_stage_signal`. -/
def detectStageSignal (messageContent : Text) : Option (Text × Text) :=
  match Pattern.fullMatch agentIdPattern messageContent with
  | some [_, _, agentId, _, _, statusText] =>
      (completedStage statusText).map fun stageName => (agentId, stageName)
  | _ => none

private theorem space_run : ∀ c ∈ [' '], Text.isSpace c = true :=
  List.all_eq_true.mp (by decide)

/-- In a message of three parts, of which the first two have no whitespace, the second is
taken for the agent's id. -/
theorem detectStageSignal_parts {stamp label statusText : Text} {first : Char}
    (stamped : stamp ≠ []) (stampSolid : ∀ c ∈ stamp, Pattern.isSolid c = true)
    (labelled : label ≠ []) (labelSolid : ∀ c ∈ label, Pattern.isSolid c = true)
    (start : statusText.head? = some first) (firstSolid : Text.isSpace first = false)
    (inline : ∀ c ∈ statusText, Pattern.isInline c = true) :
    detectStageSignal (stamp ++ ([' '] ++ (label ++ (':' :: ([' '] ++ statusText))))) =
      (completedStage statusText).map fun stageName => (label, stageName) := by
  obtain ⟨later, rfl⟩ := List.head?_eq_some_iff.mp start
  have status : Pattern.fullMatch [⟨Pattern.isInline, true⟩] (first :: later) =
      some [first :: later] := by
    have whole := @Pattern.fullMatch_run Pattern.isInline (first :: later) [] [] [] inline
      (List.cons_ne_nil _ _) rfl rfl
    rwa [List.append_nil] at whole
  have gap := Pattern.fullMatch_run space_run (List.cons_ne_nil _ _)
    (Pattern.greedy_stop firstSolid) status
  have colon := @Pattern.fullMatch_one (· = ':') _ ':' _ _ (decide_eq_true rfl) gap
  have agent := Pattern.fullMatch_run labelSolid labelled (by
    rw [Pattern.greedy, if_pos (by decide), List.cons_append,
      Pattern.greedy_stop (by decide), Pattern.fullMatch, if_neg (by decide)]
    rfl) colon
  have solid : ∃ c rest, label = c :: rest ∧ Text.isSpace c = false := by
    obtain ⟨c, rest, rfl⟩ := List.exists_cons_of_ne_nil labelled
    refine ⟨c, rest, rfl, ?_⟩
    simpa [Pattern.isSolid] using labelSolid c List.mem_cons_self
  obtain ⟨c, rest, rfl, cSolid⟩ := solid
  have before := Pattern.fullMatch_run space_run (List.cons_ne_nil _ _)
    (Pattern.greedy_stop cSolid) agent
  have message : Pattern.fullMatch agentIdPattern
      (stamp ++ ([' '] ++ (c :: rest ++ (':' :: ([' '] ++ first :: later))))) =
        some [stamp, [' '], c :: rest, [':'], [' '], first :: later] :=
    Pattern.fullMatch_run stampSolid stamped (Pattern.greedy_stop (by decide)) before
  unfold detectStageSignal
  rw [message]

end Vcompany.Shared
