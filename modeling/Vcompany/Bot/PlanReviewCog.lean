import Vcompany.Strategist.PlanReviewer
import Vcompany.Transport.Messages

/-! # The plan review cog

`PlanReviewCog` lets the PM review an agent's work over Discord. A review is
posted as a `[PM]` message in the agent's channel (`dispatchPmReview`,
`reviewAgentPlans`), the cog reads its own `[PM]` messages back
(`onMessage`, `handleReviewResponse`) and resolves the agent's review gate with
the decision it recovers from the text (`decodeDecision`).

What the cog does outside its own state can fail: reading a file, appending to
the PM's knowledge document, posting to Discord. Each call takes the outcomes of
these operations as an argument.
-/

namespace Vcompany.Bot

open Foundation Strategist Transport

/-! ## Reading a review response back -/

/-- The decision a review response carries. -/
inductive ReviewDecision where
  | approve
  | modify
  | clarify
  deriving DecidableEq, Repr

def ReviewDecision.text : ReviewDecision → Text
  | approve => "approve"
  | modify => "modify"
  | clarify => "clarify"

/-- The ordered substring tests of `PlanReviewCog._handle_review_response`. -/
def decodeDecision (casing : Text.Casing) (content : Text) : ReviewDecision :=
  let contentLower := Text.lower casing content
  if ("approved" : Text) <:+: contentLower ∨ ("approve" : Text) <:+: contentLower then .approve
  else if ("needs changes" : Text) <:+: contentLower ∨ ("modify" : Text) <:+: contentLower then
    .modify
  else if ("clarify" : Text) <:+: contentLower then .clarify
  else .clarify

/-- `RuntimeAPI.resolve_review`: the message sent to the agent. -/
def resolveReview (decision : ReviewDecision) : InboundMessage :=
  { sender := "PM", channel := "plan-review"
    content := "[Review Decision] " ++ decision.text }

/-- `RuntimeAPI.relay_channel_message`: the message sent to the agent. -/
def relayChannelMessage (content : Text) : InboundMessage :=
  { sender := "system", channel := "relay", content := content }

/-- The feedback of a response: what follows its first colon. -/
def feedback (content : Text) : Text :=
  match Text.cut ":" content with
  | some (_, rest) => Text.strip rest
  | none => content

/-- `PlanReviewCog._handle_review_response`: the messages sent to the agent, which
is hired and reachable. -/
def handleReviewResponse (casing : Text.Casing) (content : Text) : List InboundMessage :=
  let decision := decodeDecision casing content
  resolveReview decision ::
    if decision = .modify then [relayChannelMessage ("PM feedback: " ++ feedback content)] else []

/-- `PlanReviewCog.on_message` in an agent's channel, as far as the agent's gate is
concerned: only the bot's own `[PM]` messages are read as review responses. -/
def onMessage (casing : Text.Casing) (fromBot : Bool) (content : Text) : List InboundMessage :=
  if fromBot ∧ ("[PM]" : Text) <+: content then handleReviewResponse casing content else []

/-! ## Posting a review -/

/-- `PlanReviewer.review_plan` of the configured reviewer. -/
abbrev Reviewer := Text → Text → Except PyExc PMDecision

/-- The outcomes of the operations around one review: appending to the knowledge
document, posting to the channel and relaying the execute command to the agent in
the `try` block, and appending and posting in the fallback. -/
structure CogOutcomes where
  reviewAppend : Bool
  reviewPost : Bool
  relay : Bool
  fallbackAppend : Bool
  fallbackPost : Bool
  deriving DecidableEq, Repr

/-- The response was saved and posted. -/
def CogOutcomes.responded (outcomes : CogOutcomes) : Prop :=
  outcomes.reviewAppend = true ∧ outcomes.reviewPost = true

/-- The fallback was saved and posted. -/
def CogOutcomes.fellBack (outcomes : CogOutcomes) : Prop :=
  outcomes.fallbackAppend = true ∧ outcomes.fallbackPost = true

instance (outcomes : CogOutcomes) : Decidable outcomes.responded :=
  inferInstanceAs (Decidable (_ ∧ _))

instance (outcomes : CogOutcomes) : Decidable outcomes.fellBack :=
  inferInstanceAs (Decidable (_ ∧ _))

/-- What `dispatch_pm_review` finds: the agent's channel, the project directory,
the latest artifact of the stage with the outcome of reading it, and whether the
knowledge document could be read. -/
structure StageContext where
  channelFound : Bool
  projectDir : Bool
  artifact : Option (Except PyExc Text)
  contextRead : Bool

/-- The part of an artifact given to the reviewer. -/
def artifactCap : ℕ := 3000

/-- The response that states a reviewer's decision on a stage. -/
def stageResponse (stage : Text) (review : PMDecision) : Text :=
  if review.confidence.level = .high then
    "[PM] APPROVED: " ++ (if review.note = [] then stage ++ " stage approved" else review.note)
  else "[PM] NEEDS CHANGES: " ++ review.note

/-- The response posted when no review was completed. -/
def stageFallback (agentId stage : Text) : Text :=
  "[PM] APPROVED: " ++ stage ++ " stage looks good for " ++ agentId

/-- The fallback of `dispatch_pm_review`: it posts once it has noted the approval
in the knowledge document. -/
def postFallback (outcomes : CogOutcomes) (agentId stage : Text) : Option Text :=
  if outcomes.fellBack then some (stageFallback agentId stage) else none

/-- The text given to the reviewer, when a reviewer is configured and there is
an artifact to review. -/
def StageContext.reviewed (context : StageContext) : Option Text :=
  match context.artifact with
  | some (.ok content) =>
      let capped := content.take artifactCap
      if context.channelFound ∧ context.projectDir ∧ context.contextRead ∧ capped ≠ [] then
        some capped
      else none
  | _ => none

/-- `PlanReviewCog.dispatch_pm_review`: the response that reaches the channel. -/
def dispatchPmReview (reviewer : Option Reviewer) (context : StageContext)
    (outcomes : CogOutcomes) (agentId stage : Text) : Option Text :=
  let fallback := postFallback outcomes agentId stage
  if !context.channelFound then none
  else if !context.projectDir then
    if outcomes.reviewPost then some "[PM] APPROVED (no project context)" else none
  else match context.artifact with
    | some (.error _) => none
    | artifact =>
        let artifactContent := match artifact with
          | some (.ok content) => content.take artifactCap
          | _ => []
        if !context.contextRead then none
        else match reviewer with
          | none => fallback
          | some review =>
              if artifactContent = [] then fallback
              else match review agentId artifactContent with
                | .error _ => fallback
                | .ok decision =>
                    if outcomes.responded then some (stageResponse stage decision)
                    else fallback

/-- What `_review_agent_plans` finds: whether a project is loaded, the agent's
latest plan with the outcome of reading it, and those of reading the knowledge
document and the roadmap. -/
structure PlansContext where
  projectLoaded : Bool
  latestPlan : Option (Except PyExc Text)
  pmKnowledge : Except PyExc Text
  roadmap : Except PyExc Text

/-- The prompt `_review_agent_plans` wraps around a plan. -/
def reviewPrompt (agentId pmKnowledge roadmap planContent : Text) : Text :=
  "You are reviewing a plan from agent '" ++ agentId ++
  ("'.\n\n## Your accumulated project knowledge\n" : Text) ++
  (if pmKnowledge = [] then ("(first review -- no prior knowledge)" : Text) else pmKnowledge) ++
  ("\n\n## Project roadmap\n" : Text) ++ roadmap.take 1500 ++
  ("\n\n## New plan to review\n" : Text) ++ planContent ++
  ("\n\nReview this plan for:\n" ++
    "1. Does it conflict with any approved work from other agents?\n" ++
    "2. Are the file paths within this agent's owned directories?\n" ++
    "3. Is the scope appropriate for the phase?\n" ++
    "4. Any interface/dependency risks?\n\n" ++
    "After your review, provide a CONDENSED SUMMARY (3-5 lines) of what this agent " ++
    "plans to do, which directories/files it touches, and any interfaces it creates. " ++
    "This summary will be saved to your knowledge doc for future reviews." : String)

def planApprovedText (agentId note : Text) : Text :=
  "[PM] Plan approved for " ++ agentId ++ (". " : Text) ++ note ++
    ("\nSending execute command." : Text)

def planNeedsRevisionText (agentId note : Text) : Text :=
  "[PM] Plan needs revision for " ++ agentId ++ (": " : Text) ++ note

def autoApprovingText (agentId : Text) : Text :=
  "[PM] Auto-approving plan for " ++ agentId ++
    (" (no PM tier configured). Sending execute command." : Text)

/-- The messages a review leaves in the channel, and whether the plan was
approved, that is announced as approved for execution. -/
structure PlansReview where
  posted : List Text
  approved : Bool
  deriving DecidableEq

/-- The fallback of `_review_agent_plans`. -/
def autoApprove (outcomes : CogOutcomes) (agentId : Text) : PlansReview :=
  if outcomes.fallbackPost then { posted := [autoApprovingText agentId], approved := true }
  else { posted := [], approved := false }

/-- `PlanReviewCog._review_agent_plans`. An exception before the `try` block ends
the review; one inside it ends in the fallback. -/
def reviewAgentPlans (reviewer : Option Reviewer) (context : PlansContext)
    (outcomes : CogOutcomes) (agentId : Text) : PlansReview :=
  if !context.projectLoaded then
    { posted := ["[PM] No project loaded, cannot review."], approved := false }
  else match context.latestPlan with
    | none =>
        { posted := ["[PM] No PLAN.md files found for " ++ agentId ++ "."], approved := false }
    | some (.error _) => { posted := [], approved := false }
    | some (.ok planContent) =>
        match context.pmKnowledge, context.roadmap with
        | .ok pmKnowledge, .ok roadmap =>
            match reviewer with
            | none => autoApprove outcomes agentId
            | some review =>
                match review agentId (reviewPrompt agentId pmKnowledge roadmap planContent) with
                | .error _ => autoApprove outcomes agentId
                | .ok decision =>
                    if ¬ outcomes.responded then autoApprove outcomes agentId
                    else if decision.confidence.level = .high then
                      { posted := planApprovedText agentId decision.note ::
                          if outcomes.relay then [] else (autoApprove outcomes agentId).posted
                        approved := true }
                    else
                      { posted := [planNeedsRevisionText agentId decision.note]
                        approved := false }
        | _, _ => { posted := [], approved := false }

/-- What `handle_new_plan` does with a plan once the reviewer has been asked. -/
inductive NewPlanRoute where
  | aborted
  | autoApproved
  | manualReview
  deriving DecidableEq, Repr

/-- `PlanReviewCog.handle_new_plan` up to the choice between automatic approval and
a review by a human. -/
def handleNewPlan (reviewer : Option Reviewer) (channelFound : Bool)
    (plan : Except PyExc Text) (agentId : Text) : NewPlanRoute :=
  if !channelFound then .aborted
  else match plan with
    | .error _ => .aborted
    | .ok planContent =>
        match reviewer with
        | none => .manualReview
        | some review =>
            match review agentId planContent with
            | .ok decision =>
                if decision.confidence.level = .high then .autoApproved else .manualReview
            | .error _ => .manualReview

end Vcompany.Bot
