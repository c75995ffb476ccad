import Vcompany.Bot.PlanReviewCog
import Vcompany.Strategist.ReviewNote

/-! # Approvals without a human

Three paths approve a plan without a human: `handle_new_plan` shows the reviewer
the whole plan, `_review_agent_plans` a prompt that wraps it, and
`dispatch_pm_review` its first characters. The prompt never starts with
frontmatter, so of the three checks only the duplicate check can fail on it
(`reviewPrompt_allChecksPass_iff`), and the last two paths approve when a review
is not completed. `approvesReviewed_iff` says when a path approves only what the
reviewer approves.
-/

namespace Vcompany.Bot

open Foundation Strategist

variable {py : PyRuntime} {self : PlanReviewer} {agentId planContent : Text}

/-! ## What the reviewer sees -/

private theorem extractFrontmatter_of_prompt {prompt : Text} (prose : ¬ ("---" : Text) <+: prompt) :
    extractFrontmatter py prompt = .ok (.dict []) := by
  unfold extractFrontmatter frontmatterBlock
  rw [if_neg prose]

/-- A text without frontmatter modifies no files. -/
theorem scopeCheck_of_no_frontmatter {prompt : Text} (prose : ¬ ("---" : Text) <+: prompt) :
    scopeCheck py self agentId prompt = .ok (true, "No files modified") := by
  unfold scopeCheck
  rw [extractFrontmatter_of_prompt prose, PyExc.ok_bind, PyValue.get_dict_nil, PyExc.ok_bind,
    if_pos (by simp)]
  rfl

/-- A text without frontmatter has no dependencies. -/
theorem dependencyCheck_of_no_frontmatter {prompt : Text} (prose : ¬ ("---" : Text) <+: prompt) :
    dependencyCheck py self prompt = .ok (true, "No dependencies") := by
  unfold dependencyCheck
  rw [extractFrontmatter_of_prompt prose, PyExc.ok_bind, PyValue.get_dict_nil, PyExc.ok_bind,
    if_pos (by simp)]
  rfl

private theorem reviewPrompt_prose (agentId planContent pmKnowledge roadmap : Text) :
    ¬ ("---" : Text) <+: reviewPrompt agentId pmKnowledge roadmap planContent := by
  intro starts
  have opening : ("You are reviewing a plan from agent '" : Text) <+:
      reviewPrompt agentId pmKnowledge roadmap planContent := by
    unfold reviewPrompt
    repeat rw [List.append_assoc]
    exact List.prefix_append _ _
  rcases List.prefix_or_prefix_of_prefix starts opening with inner | inner <;>
    exact absurd inner (by decide)

/-- The prompt passes the checks when it passes the duplicate check. -/
theorem reviewPrompt_allChecksPass_iff (pmKnowledge roadmap : Text) :
    AllChecksPass py self agentId (reviewPrompt agentId pmKnowledge roadmap planContent) ↔
      Passes (duplicateCheck py self agentId
        (reviewPrompt agentId pmKnowledge roadmap planContent)) := by
  have prose := reviewPrompt_prose agentId planContent pmKnowledge roadmap
  unfold AllChecksPass
  rw [scopeCheck_of_no_frontmatter prose, dependencyCheck_of_no_frontmatter prose]
  simp [Passes]

/-- A check of the prompt raises when its duplicate check does. -/
theorem reviewPrompt_someCheckRaises_iff (pmKnowledge roadmap : Text) :
    SomeCheckRaises py self agentId (reviewPrompt agentId pmKnowledge roadmap planContent) ↔
      Raises (duplicateCheck py self agentId
        (reviewPrompt agentId pmKnowledge roadmap planContent)) := by
  have prose := reviewPrompt_prose agentId planContent pmKnowledge roadmap
  unfold SomeCheckRaises
  rw [scopeCheck_of_no_frontmatter prose, dependencyCheck_of_no_frontmatter prose]
  simp [Raises]

/-- An empty plan passes every check. -/
theorem allChecksPass_nil : AllChecksPass py self agentId [] := by
  have prose : ¬ ("---" : Text) <+: [] := by simp
  refine ⟨⟨_, scopeCheck_of_no_frontmatter prose⟩, ⟨_, dependencyCheck_of_no_frontmatter prose⟩, ?_⟩
  unfold duplicateCheck
  rw [extractFrontmatter_of_prompt prose]
  cases self.approvedPlans with
  | none => exact ⟨_, rfl⟩
  | some read => exact ⟨_, rfl⟩

/-! ## What a path approves -/

/-- A path on which a plan file can be approved without a human, with what the call
finds around the plan and the outcomes of what it does. -/
inductive ApprovalPath where
  | newPlan (channelFound : Bool)
  | agentPlans (pmKnowledge roadmap : Except PyExc Text) (outcomes : CogOutcomes)
  | planStage (contextRead : Bool) (outcomes : CogOutcomes)

/-- What `_review_agent_plans` finds when the latest plan of the agent is the given one. -/
def plansContext (pmKnowledge roadmap : Except PyExc Text) (planContent : Text) : PlansContext where
  projectLoaded := true
  latestPlan := some (.ok planContent)
  pmKnowledge := pmKnowledge
  roadmap := roadmap

/-- What `dispatch_pm_review` finds when the latest plan of the agent is the given one. -/
def stageContext (contextRead : Bool) (planContent : Text) : StageContext where
  channelFound := true
  projectDir := true
  artifact := some (.ok planContent)
  contextRead := contextRead

namespace ApprovalPath

/-- The path approves the plan: it enters it as approved, announces that it was
approved for execution, or answers the stage's review with an approval. -/
def Approves (reviewer : Reviewer) (agentId planContent : Text) : ApprovalPath → Prop
  | newPlan channelFound =>
      handleNewPlan (some reviewer) channelFound (.ok planContent) agentId = .autoApproved
  | agentPlans pmKnowledge roadmap outcomes =>
      (reviewAgentPlans (some reviewer) (plansContext pmKnowledge roadmap planContent) outcomes
        agentId).approved = true
  | planStage contextRead outcomes =>
      ∃ response, dispatchPmReview (some reviewer) (stageContext contextRead planContent) outcomes
        agentId "plan" = some response ∧ ("[PM] APPROVED" : Text) <+: response

/-- The text the path shows the reviewer. -/
def shown (agentId planContent : Text) : ApprovalPath → Option Text
  | newPlan channelFound => if channelFound then some planContent else none
  | agentPlans (.ok pmKnowledge) (.ok roadmap) _ =>
      some (reviewPrompt agentId pmKnowledge roadmap planContent)
  | agentPlans _ _ _ => none
  | planStage contextRead _ => (stageContext contextRead planContent).reviewed

/-- What the path approves, the reviewer approves on the complete plan; and it
approves nothing when the reviewer raised. -/
def ApprovesReviewed (reviewer : Reviewer) (agentId planContent : Text) (path : ApprovalPath) :
    Prop :=
  path.Approves reviewer agentId planContent →
    (∃ decision, reviewer agentId planContent = .ok decision ∧
      decision.confidence.level = .high) ∧
    ∀ text raised, path.shown agentId planContent = some text →
      reviewer agentId text ≠ .error raised

/-- The condition under which a path approves only reviewed plans. The whole plan
passes the checks and none raises on the text shown, or the path does not
approve: a review that was not completed is not followed by the fallback, and a
completed one fails a check. -/
def Sound (py : PyRuntime) (self : PlanReviewer) (agentId planContent : Text) :
    ApprovalPath → Prop
  | newPlan _ => True
  | agentPlans (.ok pmKnowledge) (.ok roadmap) outcomes =>
      let compared :=
        duplicateCheck py self agentId (reviewPrompt agentId pmKnowledge roadmap planContent)
      (AllChecksPass py self agentId planContent ∧ ¬ Raises compared) ∨
        ((Raises compared ∨ ¬ outcomes.responded → outcomes.fallbackPost = false) ∧
          (outcomes.responded → ¬ Passes compared))
  | agentPlans _ _ _ => True
  | planStage contextRead outcomes =>
      let seen := planContent.take artifactCap
      contextRead = false ∨
        (AllChecksPass py self agentId planContent ∧ ¬ SomeCheckRaises py self agentId seen) ∨
        ((SomeCheckRaises py self agentId seen ∨ ¬ outcomes.responded → ¬ outcomes.fellBack) ∧
          (outcomes.responded → ¬ AllChecksPass py self agentId seen))

end ApprovalPath

/-! ## When a path approves -/

/-- A review ends in a decision that rests on the checks, or raises with one of them. -/
private theorem reviewPlan_cases (py : PyRuntime) (self : PlanReviewer)
    (agentId planContent : Text) :
    (∃ raised, reviewPlan py self agentId planContent = .error raised ∧
      SomeCheckRaises py self agentId planContent ∧
      ¬ AllChecksPass py self agentId planContent) ∨
    ∃ decision, reviewPlan py self agentId planContent = .ok decision ∧
      ¬ SomeCheckRaises py self agentId planContent ∧
      (decision.confidence.level = .high ↔ AllChecksPass py self agentId planContent) := by
  cases reviewed : reviewPlan py self agentId planContent with
  | error raised =>
      refine Or.inl ⟨raised, rfl, reviewPlan_raises_iff.mp ⟨raised, reviewed⟩, fun passes => ?_⟩
      obtain ⟨decision, returned, _⟩ := reviewPlan_approves_iff.mpr passes
      cases reviewed.symm.trans returned
  | ok decision =>
      refine Or.inr ⟨decision, rfl, fun raises => ?_, reviewPlan_level_high_iff reviewed⟩
      obtain ⟨raised, failed⟩ := reviewPlan_raises_iff.mpr raises
      cases reviewed.symm.trans failed

private theorem newPlan_approves_iff (channelFound : Bool) :
    (ApprovalPath.newPlan channelFound).Approves (reviewPlan py self) agentId planContent ↔
      channelFound = true ∧ AllChecksPass py self agentId planContent := by
  simp only [ApprovalPath.Approves, handleNewPlan]
  cases channelFound with
  | false => simp
  | true =>
      rcases reviewPlan_cases py self agentId planContent with
        ⟨raised, failed, _, fails⟩ | ⟨decision, returned, _, high⟩
      · simp [failed, fails]
      · simp [returned, high]

private theorem autoApprove_approved (outcomes : CogOutcomes) (agentId : Text) :
    (autoApprove outcomes agentId).approved = outcomes.fallbackPost := by
  unfold autoApprove
  cases outcomes.fallbackPost <;> rfl

/-- `_review_agent_plans` approves through a completed review of the prompt, or
through the fallback. -/
theorem agentPlans_approves_iff (pmKnowledge roadmap : Text) (outcomes : CogOutcomes) :
    (ApprovalPath.agentPlans (.ok pmKnowledge) (.ok roadmap) outcomes).Approves
        (reviewPlan py self) agentId planContent ↔
      ((Raises (duplicateCheck py self agentId
          (reviewPrompt agentId pmKnowledge roadmap planContent)) ∨ ¬ outcomes.responded) ∧
        outcomes.fallbackPost = true) ∨
      (outcomes.responded ∧ Passes (duplicateCheck py self agentId
        (reviewPrompt agentId pmKnowledge roadmap planContent))) := by
  rw [← reviewPrompt_someCheckRaises_iff, ← reviewPrompt_allChecksPass_iff]
  simp only [ApprovalPath.Approves, reviewAgentPlans, plansContext]
  rcases reviewPlan_cases py self agentId (reviewPrompt agentId pmKnowledge roadmap planContent)
    with ⟨raised, failed, raises, fails⟩ | ⟨decision, returned, quiet, high⟩
  · simp [failed, raises, fails, autoApprove_approved]
  · by_cases responded : outcomes.responded
    · by_cases passes : AllChecksPass py self agentId
          (reviewPrompt agentId pmKnowledge roadmap planContent)
      · simp [returned, quiet, responded, high, passes]
      · simp [returned, quiet, responded, high, passes]
    · simp [returned, quiet, responded, autoApprove_approved]

private theorem stageResponse_announces_iff (stage : Text) (review : PMDecision) :
    ("[PM] APPROVED" : Text) <+: stageResponse stage review ↔ review.confidence.level = .high := by
  unfold stageResponse
  by_cases confident : review.confidence.level = .high
  · simp only [confident, ↓reduceIte, iff_true]
    exact (show ("[PM] APPROVED" : Text) <+: ("[PM] APPROVED: " : Text) by decide).trans
      (List.prefix_append _ _)
  · simp only [confident, ↓reduceIte, iff_false]
    intro announced
    rcases List.prefix_or_prefix_of_prefix announced (List.prefix_append _ _) with inner | inner <;>
      exact absurd inner (by decide)

private theorem postFallback_announces_iff (outcomes : CogOutcomes) (agentId stage : Text) :
    (∃ response, postFallback outcomes agentId stage = some response ∧
      ("[PM] APPROVED" : Text) <+: response) ↔ outcomes.fellBack := by
  have announces : ("[PM] APPROVED" : Text) <+: stageFallback agentId stage := by
    unfold stageFallback
    rw [List.append_assoc, List.append_assoc]
    exact (show ("[PM] APPROVED" : Text) <+: ("[PM] APPROVED: " : Text) by decide).trans
      (List.prefix_append _ _)
  unfold postFallback
  by_cases fellBack : outcomes.fellBack
  · simp only [fellBack, ↓reduceIte, Option.some.injEq, exists_eq_left', announces]
  · simp [fellBack]

/-- `dispatch_pm_review` approves a plan of its stage through a completed review of
what it shows, or through the fallback. -/
theorem planStage_approves_iff (outcomes : CogOutcomes) (shown : planContent ≠ []) :
    (ApprovalPath.planStage true outcomes).Approves (reviewPlan py self) agentId planContent ↔
      ((SomeCheckRaises py self agentId (planContent.take artifactCap) ∨
          ¬ outcomes.responded) ∧ outcomes.fellBack) ∨
      (outcomes.responded ∧
        AllChecksPass py self agentId (planContent.take artifactCap)) := by
  have nonempty : planContent.take artifactCap ≠ [] := by
    simpa [artifactCap] using shown
  simp only [ApprovalPath.Approves, dispatchPmReview, stageContext, nonempty, Bool.not_true,
    Bool.false_eq_true, ↓reduceIte]
  rcases reviewPlan_cases py self agentId (planContent.take artifactCap) with
    ⟨raised, failed, raises, fails⟩ | ⟨decision, returned, quiet, high⟩
  · simp only [failed, raises, fails, postFallback_announces_iff]
    tauto
  · simp only [returned, quiet, ← high]
    by_cases responded : outcomes.responded
    · simp only [responded, ↓reduceIte, Option.some.injEq, exists_eq_left',
        stageResponse_announces_iff]
      tauto
    · simp only [responded, ↓reduceIte, postFallback_announces_iff]
      tauto

/-- The reviewer did not raise on the text a path shows exactly when no check of
it did. -/
private theorem shown_returns_iff {path : ApprovalPath} {seen : Text}
    (shown : path.shown agentId planContent = some seen) :
    (∀ text raised, path.shown agentId planContent = some text →
      reviewPlan py self agentId text ≠ .error raised) ↔
      ¬ SomeCheckRaises py self agentId seen := by
  rw [← reviewPlan_raises_iff, not_exists, shown]
  exact ⟨fun returns raised => returns seen raised rfl, fun returns text raised same =>
    Option.some.inj same ▸ returns raised⟩

/-- **What is approved without a human.** A path approves only plans whose complete
text the reviewer approves, and nothing when the reviewer raised, exactly under
`ApprovalPath.Sound`: always for a new plan, and on the other two paths when the
whole plan passes and no check raises on what is shown, or nothing is approved. -/
theorem approvesReviewed_iff (py : PyRuntime) (self : PlanReviewer) (agentId planContent : Text)
    (path : ApprovalPath) :
    path.ApprovesReviewed (reviewPlan py self) agentId planContent ↔
      path.Sound py self agentId planContent := by
  unfold ApprovalPath.ApprovesReviewed
  rw [reviewPlan_approves_iff]
  cases path with
  | newPlan channelFound =>
      refine iff_of_true (fun approved => ?_) trivial
      obtain ⟨rfl, passes⟩ := newPlan_approves_iff channelFound |>.mp approved
      refine ⟨passes, (shown_returns_iff rfl).mpr fun raises => ?_⟩
      rcases reviewPlan_cases py self agentId planContent with
        ⟨_, _, _, fails⟩ | ⟨_, _, returns, _⟩
      · exact fails passes
      · exact returns raises
  | agentPlans pmKnowledge roadmap outcomes =>
      cases pmKnowledge with
      | error raised => exact iff_of_true nofun (by simp [ApprovalPath.Sound])
      | ok pmKnowledge =>
          cases roadmap with
          | error raised => exact iff_of_true nofun (by simp [ApprovalPath.Sound])
          | ok roadmap =>
              rw [agentPlans_approves_iff, shown_returns_iff rfl,
                reviewPrompt_someCheckRaises_iff]
              simp only [ApprovalPath.Sound, ← Bool.not_eq_true]
              tauto
  | planStage contextRead outcomes =>
      cases contextRead with
      | false => exact iff_of_true (fun ⟨_, posted, _⟩ => nomatch posted) (Or.inl rfl)
      | true =>
          by_cases empty : planContent = []
          · subst empty
            have quiet : ¬ SomeCheckRaises py self agentId [] := by
              rcases reviewPlan_cases py self agentId [] with ⟨_, _, _, fails⟩ | ⟨_, _, quiet, _⟩
              · exact absurd allChecksPass_nil fails
              · exact quiet
            refine iff_of_true (fun _ => ⟨allChecksPass_nil, fun text raised shown => ?_⟩)
              (Or.inr (Or.inl ⟨allChecksPass_nil, quiet⟩))
            simp [ApprovalPath.shown, stageContext, StageContext.reviewed] at shown
          · have shown : (ApprovalPath.planStage true outcomes).shown agentId planContent =
                some (planContent.take artifactCap) := by
              simp [ApprovalPath.shown, stageContext, StageContext.reviewed, artifactCap, empty]
            rw [planStage_approves_iff outcomes empty, shown_returns_iff shown]
            simp only [ApprovalPath.Sound]
            tauto

/-- A project with one agent and without status file or approved plans. -/
def loneReviewer : PlanReviewer where
  agents := [{ id := "a", owns := ["src"] }]
  projectStatus := none
  approvedPlans := none

/-- A plan whose frontmatter names one file. -/
def outsidePlan : Text := "---\nfiles_modified: [lib/x.py]\n---"

/-- A runtime that parses the frontmatter of the plan. -/
def outsideRuntime : PyRuntime where
  casing := .plain
  safeLoad block :=
    if block = "files_modified: [lib/x.py]" then
      .ok (.dict [(.str "files_modified", .list [.str "lib/x.py"])])
    else .error .yamlError
  loads _ := .error .jsonDecodeError
  dumps _ := []
  repr _ := []

/-- The path of a finished review of an agent's plans. -/
def finishedReview : ApprovalPath :=
  .agentPlans (.ok []) (.ok []) ⟨true, true, true, true, true⟩

/-- A plan outside the agent's directories fails its review and is approved. -/
theorem outsidePlan_approved :
    ¬ finishedReview.ApprovesReviewed (reviewPlan outsideRuntime loneReviewer) "a"
      outsidePlan := by
  intro reviewed
  have approved : finishedReview.Approves (reviewPlan outsideRuntime loneReviewer) "a"
      outsidePlan := by
    change (reviewAgentPlans _ _ _ _).approved = true
    decide +kernel
  obtain ⟨⟨decision, returned, confident⟩, _⟩ := reviewed approved
  have low : (reviewPlan outsideRuntime loneReviewer "a" outsidePlan).map
      (fun decision => decision.confidence.level) = .ok .low := by
    decide +kernel
  rw [returned] at low
  cases confident.symm.trans (Except.ok.inj low)

end Vcompany.Bot
