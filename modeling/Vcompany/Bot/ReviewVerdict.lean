import Vcompany.Bot.PlanReviewCog
import Vcompany.Strategist.ReviewNote

/-! # Verdicts and the messages that carry them

A verdict travels from the reviewer to the agent's gate as a Discord message: the
cog words it (`stageResponse`) and reads its decision back by substring tests
(`decodeDecision`). The word `approve` decides: a response reads as an approval
exactly when it mentions it (`decodeDecision_approve_iff`), so a rejection whose
note quotes the word is read back as an approval (`verdictSurvives_iff`).
-/

namespace Vcompany.Bot

open Foundation Foundation.Text Strategist

variable (casing : Casing)

/-! ## Reading a verdict back -/

/-- The tests of a response, as searches in the response itself. -/
theorem decodeDecision_eq (content : Text) :
    decodeDecision casing content =
      if Mentions approveWord content then .approve
      else if Mentions "needs changes" content ∨ Mentions "modify" content then .modify
      else .clarify := by
  have found {needle : Text} (ascii : Ascii needle) (nonempty : needle ≠ []) :
      needle <:+: lower casing content ↔ Mentions needle content :=
    infix_lower_iff casing ascii nonempty content
  have approves : ("approved" : Text) <:+: lower casing content ∨
      ("approve" : Text) <:+: lower casing content ↔ Mentions approveWord content := by
    rw [or_iff_right_of_imp (by decide : ("approve" : Text) <:+: ("approved" : Text)).trans]
    exact found (by decide) (by decide)
  have modifies : ("needs changes" : Text) <:+: lower casing content ∨
      ("modify" : Text) <:+: lower casing content ↔
        Mentions "needs changes" content ∨ Mentions "modify" content :=
    or_congr (found (by decide) (by decide)) (found (by decide) (by decide))
  unfold decodeDecision
  dsimp only
  rw [ite_self]
  exact ite_congr (propext approves) (fun _ => rfl)
    (fun _ => ite_congr (propext modifies) (fun _ => rfl) (fun _ => rfl))

/-- A response reads as an approval exactly when it mentions the word. -/
theorem decodeDecision_approve_iff (content : Text) :
    decodeDecision casing content = .approve ↔ Mentions approveWord content := by
  rw [decodeDecision_eq]
  by_cases approves : Mentions approveWord content
  · exact iff_of_true (if_pos approves) approves
  · refine iff_of_false ?_ approves
    rw [if_neg approves]
    split_ifs <;> exact nofun

/-- The response to a stage mentions the word when the reviewer is confident, or
when the note does. -/
theorem stageResponse_mentions_iff (stage : Text) (review : PMDecision) :
    Mentions approveWord (stageResponse stage review) ↔
      review.confidence.level = .high ∨ Mentions approveWord review.note := by
  unfold stageResponse
  by_cases confident : review.confidence.level = .high
  · simp only [confident, ↓reduceIte, true_or, iff_true]
    exact (show Mentions approveWord ("[PM] APPROVED: " : Text) by decide).append _
  · simp only [confident, ↓reduceIte, false_or]
    have shape : ("[PM] NEEDS CHANGES: " : Text) ++ review.note =
        ("[PM] NEEDS CHANGES" : Text) ++ ':' :: ' ' :: review.note := by simp
    have word := approveWord_noteWord
    rw [shape, mentions_append_cons_iff word.noColon (by decide), or_iff_right (by decide),
      mentions_cons_iff word.inhabited word.noSpace (by decide)]

/-- The fallback response mentions the word. -/
theorem stageFallback_mentions (agentId stage : Text) :
    Mentions approveWord (stageFallback agentId stage) := by
  unfold stageFallback
  rw [List.append_assoc, List.append_assoc]
  exact (show Mentions approveWord ("[PM] APPROVED: " : Text) by decide).append _

/-- A dispatched review with an artifact to show is settled by the reviewer. -/
theorem dispatchPmReview_reviewed {context : StageContext} {artifact : Text} (reviewer : Reviewer)
    (seen : context.reviewed = some artifact) (outcomes : CogOutcomes) (agentId stage : Text) :
    dispatchPmReview (some reviewer) context outcomes agentId stage =
      match reviewer agentId artifact with
      | .error _ => postFallback outcomes agentId stage
      | .ok decision =>
          if outcomes.responded then some (stageResponse stage decision)
          else postFallback outcomes agentId stage := by
  unfold StageContext.reviewed at seen
  split at seen
  · rename_i content stored
    dsimp only at seen
    split at seen
    · rename_i ready
      obtain ⟨channel, project, read, nonempty⟩ := ready
      cases Option.some.inj seen
      unfold dispatchPmReview
      cases reviewed : reviewer agentId (content.take artifactCap) <;>
        simp only [channel, project, read, stored, nonempty, reviewed, Bool.not_true,
          Bool.false_eq_true, ↓reduceIte]
    · cases seen
  · cases seen

/-- Every response to a reviewed artifact decodes to the reviewer's verdict: to an
approval when the reviewer is confident, and to something else when it is not. -/
def VerdictSurvives (reviewer : Reviewer) (context : StageContext) (outcomes : CogOutcomes)
    (agentId stage : Text) : Prop :=
  ∀ artifact decision response, context.reviewed = some artifact →
    reviewer agentId artifact = .ok decision →
    dispatchPmReview (some reviewer) context outcomes agentId stage = some response →
    (decodeDecision casing response = .approve ↔ decision.confidence.level = .high)

private theorem postFallback_eq_some_iff (outcomes : CogOutcomes) (agentId stage response : Text) :
    postFallback outcomes agentId stage = some response ↔
      outcomes.fellBack ∧ stageFallback agentId stage = response := by
  unfold postFallback
  by_cases fellBack : outcomes.fellBack <;> simp [fellBack]

/-- The response to a returned decision decodes to its verdict exactly when the
decision is confident, or its note does not say `approve` and is what is posted, or
nothing is. -/
private theorem decided_survives_iff (outcomes : CogOutcomes) (agentId stage : Text)
    (decision : PMDecision) :
    (∀ response,
      (if outcomes.responded then some (stageResponse stage decision)
        else postFallback outcomes agentId stage) = some response →
      (decodeDecision casing response = .approve ↔ decision.confidence.level = .high)) ↔
      decision.confidence.level = .high ∨
        if outcomes.responded then ¬ Mentions approveWord decision.note
        else ¬ outcomes.fellBack := by
  by_cases responded : outcomes.responded
  · simp only [responded, ↓reduceIte, Option.some.injEq, forall_eq',
      decodeDecision_approve_iff, stageResponse_mentions_iff]
    tauto
  · simp only [responded, ↓reduceIte, postFallback_eq_some_iff, and_imp,
      decodeDecision_approve_iff]
    constructor
    · intro survives
      by_cases fellBack : outcomes.fellBack
      · exact Or.inl ((survives _ fellBack rfl).mp (stageFallback_mentions agentId stage))
      · exact Or.inr fellBack
    · rintro (confident | silent) response fellBack rfl
      · exact ⟨fun _ => confident, fun _ => stageFallback_mentions agentId stage⟩
      · exact absurd fellBack silent

/-- **Verdict round trip.** A dispatched review reads back as the reviewer's verdict
exactly when the reviewer is confident, or its note avoids the word `approve` and
is posted, or neither the note nor the fallback is posted. For the plan reviewer,
the note says `approve` exactly when a failed check quotes it. -/
theorem verdictSurvives_iff (context : StageContext) (outcomes : CogOutcomes)
    (agentId stage : Text) :
    (∀ reviewer : Reviewer, VerdictSurvives casing reviewer context outcomes agentId stage ↔
      ∀ artifact decision, context.reviewed = some artifact →
        reviewer agentId artifact = .ok decision →
        decision.confidence.level = .high ∨
          if outcomes.responded then ¬ Mentions approveWord decision.note
          else ¬ outcomes.fellBack) ∧
    ∀ (py : PyRuntime) (self : PlanReviewer),
      VerdictSurvives casing (reviewPlan py self) context outcomes agentId stage ↔
        ∀ artifact, context.reviewed = some artifact →
          SomeCheckRaises py self agentId artifact ∨ AllChecksPass py self agentId artifact ∨
            if outcomes.responded then ¬ QuotesApprove py self agentId artifact
            else ¬ outcomes.fellBack := by
  have general (reviewer : Reviewer) :
      VerdictSurvives casing reviewer context outcomes agentId stage ↔
        ∀ artifact decision, context.reviewed = some artifact →
          reviewer agentId artifact = .ok decision →
          decision.confidence.level = .high ∨
            if outcomes.responded then ¬ Mentions approveWord decision.note
            else ¬ outcomes.fellBack := by
    unfold VerdictSurvives
    refine forall_congr' fun artifact => forall_congr' fun decision => ?_
    constructor
    · intro survives seen decided
      rw [← decided_survives_iff casing outcomes agentId stage]
      intro response posted
      apply survives response seen decided
      rw [dispatchPmReview_reviewed reviewer seen, decided]
      exact posted
    · intro readable response seen decided posted
      rw [dispatchPmReview_reviewed reviewer seen, decided] at posted
      exact (decided_survives_iff casing outcomes agentId stage decision).mpr
        (readable seen decided) response posted
  refine ⟨general, fun py self => ?_⟩
  rw [general]
  refine forall_congr' fun artifact => ?_
  cases reviewed : reviewPlan py self agentId artifact with
  | error raised =>
      have raises := reviewPlan_raises_iff.mp ⟨raised, reviewed⟩
      simp [raises]
  | ok decision =>
      have returns : ¬ SomeCheckRaises py self agentId artifact := by
        rw [← reviewPlan_raises_iff, reviewed]
        rintro ⟨_, same⟩
        cases same
      rw [or_iff_right returns, ← reviewPlan_level_high_iff reviewed,
        ← reviewPlan_note_mentions_iff reviewed]
      refine ⟨fun readable seen => readable decision seen rfl, fun readable other seen same => ?_⟩
      cases Except.ok.inj same
      exact readable seen

/-- A log line of the approved plan of agent `b`. -/
def approvedLine : Text :=
  "\x7b\"agent_id\": \"b\", \"objective\": \"write the parser\"\x7d"

/-- A runtime that parses the log line. -/
def loggedRuntime : PyRuntime where
  casing := .plain
  safeLoad _ := .ok .none
  loads line :=
    if line = approvedLine then
      .ok (.dict [(.str "agent_id", .str "b"), (.str "objective", .str "write the parser")])
    else .error .jsonDecodeError
  dumps _ := []
  repr _ := []

/-- A project with one approved plan and no status file. -/
def loggedReviewer : PlanReviewer where
  agents := []
  projectStatus := none
  approvedPlans := some (.ok approvedLine)

def duplicatePlan : Text := "<objective>write the parser</objective>"

/-- The decision on the plan. -/
def duplicateDecision : PMDecision :=
  decisionOf [("scope", (true, "No files modified")), ("dependency", (true, "No dependencies")),
    ("duplicate",
      (false, "Possible duplicate: similar objective to approved plan from b"))]

def everythingPosted : CogOutcomes := ⟨true, true, true, true, true⟩

/-- A plan like an approved one is not approved by the reviewer, and the response
reads as an approval. -/
theorem duplicate_reads_as_approval :
    ¬ VerdictSurvives .plain (reviewPlan loggedRuntime loggedReviewer)
      { channelFound := true, projectDir := true, artifact := some (.ok duplicatePlan)
        contextRead := true } everythingPosted "a" "plan" := by
  intro survives
  have reviewed :
      reviewPlan loggedRuntime loggedReviewer "a" duplicatePlan = .ok duplicateDecision := by
    decide +kernel
  have verdict := survives duplicatePlan duplicateDecision (stageResponse "plan" duplicateDecision)
    (by decide +kernel) reviewed (by decide +kernel)
  exact absurd (verdict.mp (by decide +kernel)) (by decide)

end Vcompany.Bot
