import Vcompany.Bot.ReviewVerdict
import Vcompany.Worker.SessionHandler
import Mathlib.Data.Bool.AllAny

/-! # Resolving a review gate

An agent that asked for a review waits on a gate, which the first review decision
resolves. The decisions come from its channel: the cog reads every message of the
bot that starts with `[PM]`, decodes it and sends the decision to the agent
(`Bot.onMessage`), whose session handler resolves the gate
(`Worker.handleMessage`). The bot's progress messages start with `[PM]` too.

`resolvedByVerdict_iff` says when the gate follows the verdicts: exactly when the
first `[PM]` message of the channel is a verdict whose words decode to it.
-/

namespace Vcompany.Bot

open Foundation Foundation.Text Strategist Transport Worker

/-! ## The messages of an agent's channel -/

/-- The `[PM]` messages that the cog posts in an agent's channel. -/
inductive PmPost where
  | reviewing (agentId : Text)
  | verifying (agentId : Text)
  | noProject
  | noPlanFiles (agentId : Text)
  | noDaemon
  | verified (agentId stdout : Text)
  | noCommits (agentId : Text)
  | planApproved (agentId note : Text)
  | planNeedsRevision (agentId note : Text)
  | autoApproving (agentId : Text)
  | stageReview (stage : Text) (review : PMDecision)
  | stageFallback (agentId stage : Text)
  | noProjectContext

/-- The text of a post. -/
def PmPost.content : PmPost → Text
  | reviewing agentId => "[PM] Reviewing " ++ (agentId ++ ("'s plan..." : Text))
  | verifying agentId => "[PM] Verifying " ++ (agentId ++ ("'s execution..." : Text))
  | noProject => "[PM] No project loaded, cannot review."
  | noPlanFiles agentId => "[PM] No PLAN.md files found for " ++ (agentId ++ ("." : Text))
  | noDaemon => "[PM] Daemon not available for verification."
  | verified agentId stdout => "[PM] Execution verified for " ++
      (agentId ++ (". Recent commits:\n```\n" : Text) ++ stdout ++ ("\n```" : Text))
  | noCommits agentId => "[PM] Warning: No commits found for " ++
      (agentId ++ (" after execution." : Text))
  | planApproved agentId note => planApprovedText agentId note
  | planNeedsRevision agentId note => planNeedsRevisionText agentId note
  | autoApproving agentId => autoApprovingText agentId
  | stageReview stage review => stageResponse stage review
  | stageFallback agentId stage => Bot.stageFallback agentId stage
  | noProjectContext => "[PM] APPROVED (no project context)"

/-- The verdict that a post states; progress messages state none. -/
def PmPost.verdict : PmPost → Option ReviewDecision
  | planApproved _ _ => some .approve
  | planNeedsRevision _ _ => some .modify
  | autoApproving _ => some .approve
  | stageReview _ review => some (if review.confidence.level = .high then .approve else .modify)
  | stageFallback _ _ => some .approve
  | noProjectContext => some .approve
  | _ => none

/-- A message in an agent's channel: a post of the cog, another message of the bot,
or a message of somebody else. -/
inductive ChannelMessage where
  | pm (post : PmPost)
  | bot (content : Text)
  | other (content : Text)

namespace ChannelMessage

def fromBot : ChannelMessage → Bool
  | other _ => false
  | _ => true

def content : ChannelMessage → Text
  | pm post => post.content
  | bot content => content
  | other content => content

def verdict : ChannelMessage → Option ReviewDecision
  | pm post => post.verdict
  | _ => none

/-- The cog reads the message as a review response. -/
def IsResponse (message : ChannelMessage) : Prop :=
  message.fromBot = true ∧ ("[PM]" : Text) <+: message.content

instance (message : ChannelMessage) : Decidable message.IsResponse :=
  inferInstanceAs (Decidable (_ ∧ _))

/-- The words of the message decode to the decision. -/
def WordedAs (message : ChannelMessage) : ReviewDecision → Prop
  | .approve => Mentions approveWord message.content
  | .modify => ¬ Mentions approveWord message.content ∧
      (Mentions "needs changes" message.content ∨ Mentions "modify" message.content)
  | .clarify => ¬ Mentions approveWord message.content ∧
      ¬ Mentions "needs changes" message.content ∧ ¬ Mentions "modify" message.content

end ChannelMessage

/-! ## Delivery to the agent -/

/-- The messages sent to an agent, handled one after another. -/
def handleAll (py : PyRuntime) (now : Moment) :
    WorkerContainer → List InboundMessage → Except PyExc WorkerContainer
  | container, [] => .ok container
  | container, message :: rest => do
      let next ← handleMessage py now container message
      handleAll py now next rest

/-- What the messages of the channel do to the agent's container. -/
def deliver (py : PyRuntime) (now : Moment) :
    WorkerContainer → List ChannelMessage → Except PyExc WorkerContainer
  | container, [] => .ok container
  | container, message :: rest => do
      let next ← handleAll py now container (onMessage py.casing message.fromBot message.content)
      deliver py now next rest

/-- The gate of a review whose verdict, if there is one yet, is the given one. -/
def gateOf : Option ReviewDecision → ReviewGate
  | none => .pending
  | some decision => .done decision.text

/-- At every moment of the channel, the gate of an agent that waited from its
beginning is resolved by the first verdict seen so far, or still pending. -/
def ResolvedByVerdict (py : PyRuntime) (now : Moment) (container : WorkerContainer)
    (messages : List ChannelMessage) : Prop :=
  ∀ seen, seen <+: messages →
    ∃ next, deliver py now (container.withGate .pending) seen = .ok next ∧
      next.pendingReview = some (gateOf (seen.findSome? ChannelMessage.verdict))

/-! ## What a response does -/

/-- The decision sent to an agent is the one it reads. -/
theorem reviewDecision_resolveReview (casing : Casing) (decision : ReviewDecision) :
    reviewDecision casing (resolveReview decision).content = .ok decision.text := by
  have word : words (strip (replace reviewTag [] (resolveReview decision).content)) =
      [decision.text] := by
    cases decision <;> decide +kernel
  have caseless : ∀ c ∈ decision.text, asciiLower c = some [c] := by
    cases decision <;> exact List.all_iff_forall_prop.mp (by decide)
  unfold reviewDecision
  rw [word]
  exact congrArg Except.ok (lower_of_caseless casing caseless)

variable {py : PyRuntime} {now : Moment} {container : WorkerContainer}

private theorem resolveReview_tagged (decision : ReviewDecision) :
    reviewTag <+: (resolveReview decision).content := by
  cases decision <;> decide

/-- A decision resolves a pending gate. -/
theorem handleMessage_resolveReview (waiting : container.pendingReview = some .pending)
    (decision : ReviewDecision) :
    handleMessage py now container (resolveReview decision) =
      .ok (container.withGate (.done decision.text)) := by
  unfold handleMessage
  rw [if_pos (resolveReview_tagged decision), reviewDecision_resolveReview, PyExc.ok_bind, waiting]
  rfl

/-- A decision changes nothing when no gate is pending. -/
theorem handleMessage_resolveReview_of_settled (settled : container.pendingReview ≠ some .pending)
    (decision : ReviewDecision) :
    handleMessage py now container (resolveReview decision) = .ok container := by
  unfold handleMessage
  rw [if_pos (resolveReview_tagged decision), reviewDecision_resolveReview, PyExc.ok_bind]
  split
  · exact absurd ‹_› settled
  · rfl

/-- Feedback is only logged. -/
theorem handleMessage_feedback (text : Text) :
    handleMessage py now container (relayChannelMessage ("PM feedback: " ++ text)) =
      .ok container := by
  have untagged (tag : Text) (unlike : ¬ tag <+: ("PM feedback: " : Text))
      (longer : ¬ ("PM feedback: " : Text) <+: tag) :
      ¬ tag <+: (relayChannelMessage ("PM feedback: " ++ text)).content := by
    intro starts
    rcases List.prefix_or_prefix_of_prefix starts (List.prefix_append _ _) with inner | inner
    · exact unlike inner
    · exact longer inner
  unfold handleMessage
  rw [if_neg (untagged reviewTag (by decide) (by decide)),
    if_neg (untagged taskTag (by decide) (by decide))]

private theorem handleAll_feedback (decision : ReviewDecision) (content : Text) :
    handleAll py now container
      (if decision = .modify then
        [relayChannelMessage ("PM feedback: " ++ feedback content)] else []) = .ok container := by
  split
  · rw [handleAll, handleMessage_feedback, PyExc.ok_bind, handleAll]
  · rfl

private theorem onMessage_response {message : ChannelMessage} (casing : Casing)
    (response : message.IsResponse) :
    onMessage casing message.fromBot message.content =
      handleReviewResponse casing message.content :=
  if_pos response

private theorem onMessage_quiet {message : ChannelMessage} (casing : Casing)
    (quiet : ¬ message.IsResponse) : onMessage casing message.fromBot message.content = [] :=
  if_neg quiet

private theorem handleAll_onMessage {message : ChannelMessage} (response : message.IsResponse)
    (waiting : container.pendingReview = some .pending) :
    handleAll py now container (onMessage py.casing message.fromBot message.content) =
      .ok (container.withGate (.done (decodeDecision py.casing message.content).text)) := by
  rw [onMessage_response py.casing response, handleReviewResponse, handleAll,
    handleMessage_resolveReview waiting, PyExc.ok_bind]
  exact handleAll_feedback _ _

/-- A message changes nothing when it is no response or no gate is pending. -/
private theorem handleAll_onMessage_idle {message : ChannelMessage}
    (idle : message.IsResponse → container.pendingReview ≠ some .pending) :
    handleAll py now container (onMessage py.casing message.fromBot message.content) =
      .ok container := by
  by_cases response : message.IsResponse
  · rw [onMessage_response py.casing response, handleReviewResponse, handleAll,
      handleMessage_resolveReview_of_settled (idle response), PyExc.ok_bind]
    exact handleAll_feedback _ _
  · rw [onMessage_quiet py.casing response, handleAll]

/-- A resolved gate stays as it is. -/
theorem deliver_settled (settled : container.pendingReview ≠ some .pending)
    (messages : List ChannelMessage) : deliver py now container messages = .ok container := by
  induction messages with
  | nil => rfl
  | cons message rest ih =>
      rw [deliver, handleAll_onMessage_idle fun _ => settled, PyExc.ok_bind, ih]

/-! ## Which message resolves the gate -/

/-- A response decodes to the decision whose words it has. -/
theorem decodeDecision_eq_iff (casing : Casing) (message : ChannelMessage)
    (decision : ReviewDecision) :
    decodeDecision casing message.content = decision ↔ message.WordedAs decision := by
  rw [decodeDecision_eq]
  unfold ChannelMessage.WordedAs
  by_cases approves : Mentions approveWord message.content
  · rw [if_pos approves]
    cases decision <;> simp [approves]
  · rw [if_neg approves]
    by_cases modifies :
        Mentions "needs changes" message.content ∨ Mentions "modify" message.content
    · rw [if_pos modifies]
      cases decision <;> simp only [approves, modifies, reduceCtorEq, not_false_eq_true, true_and,
        ← not_or, not_true_eq_false]
    · rw [if_neg modifies]
      cases decision <;> simp only [approves, modifies, reduceCtorEq, not_false_eq_true, true_and,
        ← not_or]

private theorem starts_pm {head : Text} (starts : ("[PM]" : Text) <+: head) (rest : Text) :
    ("[PM]" : Text) <+: head ++ rest :=
  starts.trans (List.prefix_append head rest)

/-- A message with a verdict is read as a response. -/
theorem isResponse_of_verdict {message : ChannelMessage} {decision : ReviewDecision}
    (stated : message.verdict = some decision) : message.IsResponse := by
  cases message with
  | other content => cases stated
  | bot content => cases stated
  | pm post =>
      refine ⟨rfl, ?_⟩
      cases post with
      | planApproved agentId note =>
          change _ <+: planApprovedText agentId note
          unfold planApprovedText
          repeat rw [List.append_assoc]
          exact starts_pm (by decide) _
      | planNeedsRevision agentId note =>
          change _ <+: planNeedsRevisionText agentId note
          unfold planNeedsRevisionText
          repeat rw [List.append_assoc]
          exact starts_pm (by decide) _
      | autoApproving agentId =>
          change _ <+: autoApprovingText agentId
          unfold autoApprovingText
          repeat rw [List.append_assoc]
          exact starts_pm (by decide) _
      | stageReview stage review =>
          change _ <+: stageResponse stage review
          unfold stageResponse
          split <;> exact starts_pm (by decide) _
      | stageFallback agentId stage =>
          change _ <+: Bot.stageFallback agentId stage
          unfold Bot.stageFallback
          repeat rw [List.append_assoc]
          exact starts_pm (by decide) _
      | noProjectContext =>
          change _ <+: ("[PM] APPROVED (no project context)" : Text)
          decide
      | _ => cases stated

private theorem text_injective {first second : ReviewDecision} (same : first.text = second.text) :
    first = second := by
  revert same
  cases first <;> cases second <;> decide

private theorem forall_prefix_cons {α : Type} {holds : List α → Prop} {head : α} {rest : List α} :
    (∀ seen, seen <+: head :: rest → holds seen) ↔
      holds [] ∧ ∀ seen, seen <+: rest → holds (head :: seen) := by
  constructor
  · exact fun all => ⟨all [] List.nil_prefix, fun seen start =>
      all (head :: seen) (List.cons_prefix_cons.mpr ⟨rfl, start⟩)⟩
  · rintro ⟨empty, extended⟩ seen start
    cases seen with
    | nil => exact empty
    | cons first seen =>
        obtain ⟨rfl, inner⟩ := List.cons_prefix_cons.mp start
        exact extended seen inner

/-- **Who resolves a review.** The gate of a waiting agent follows the verdicts of
its channel exactly when the first message that is read as a response, if there is
one, is a verdict with the words of its decision. -/
theorem resolvedByVerdict_iff (py : PyRuntime) (now : Moment) (container : WorkerContainer)
    (messages : List ChannelMessage) :
    ResolvedByVerdict py now container messages ↔
      ∀ message, messages.find? (fun message => decide message.IsResponse) = some message →
        ∃ decision, message.verdict = some decision ∧ message.WordedAs decision := by
  unfold ResolvedByVerdict
  induction messages with
  | nil =>
      refine iff_of_true (fun seen start => ?_) (by simp)
      rw [List.prefix_nil.mp start]
      exact ⟨_, rfl, rfl⟩
  | cons message rest ih =>
      rw [forall_prefix_cons, and_iff_right ⟨_, rfl, rfl⟩]
      by_cases response : message.IsResponse
      · simp only [List.find?_cons, response, decide_true, Option.some.injEq, forall_eq']
        have settled (seen : List ChannelMessage) :
            deliver py now (container.withGate .pending) (message :: seen) =
              .ok (container.withGate (.done (decodeDecision py.casing message.content).text)) := by
          rw [deliver, handleAll_onMessage response rfl, PyExc.ok_bind]
          exact deliver_settled (by simp) seen
        constructor
        · intro follows
          obtain ⟨next, delivered, gate⟩ := follows [] List.nil_prefix
          rw [settled] at delivered
          cases Except.ok.inj delivered
          cases stated : message.verdict with
          | none => simp [stated, gateOf] at gate
          | some decision =>
              refine ⟨decision, rfl, (decodeDecision_eq_iff py.casing message decision).mp ?_⟩
              simp only [List.findSome?_cons, stated, gateOf,
                WorkerContainer.withGate_pendingReview, Option.some.injEq,
                ReviewGate.done.injEq] at gate
              exact text_injective gate
        · rintro ⟨decision, stated, worded⟩ seen _
          refine ⟨_, settled seen, ?_⟩
          simp only [List.findSome?_cons, stated, gateOf]
          rw [(decodeDecision_eq_iff py.casing message decision).mpr worded]
          rfl
      · have silent : message.verdict = none := by
          cases stated : message.verdict with
          | none => rfl
          | some decision => exact absurd (isResponse_of_verdict stated) response
        have unread (seen : List ChannelMessage) :
            deliver py now (container.withGate .pending) (message :: seen) =
              deliver py now (container.withGate .pending) seen := by
          rw [deliver, handleAll_onMessage_idle fun read => absurd read response, PyExc.ok_bind]
        simp only [unread, List.find?_cons, response, decide_false, List.findSome?_cons, silent]
        exact ih

/-- A runtime that no message of the channel makes use of. -/
def quietRuntime : PyRuntime where
  casing := .plain
  safeLoad _ := .ok .none
  loads _ := .error .jsonDecodeError
  dumps _ := []
  repr _ := []

/-- The container of an agent that waits for its review. -/
def waitingContainer : WorkerContainer :=
  WorkerContainer.new { handlerType := "session" } "a"
    { opened := true, kv := [], checkpoints := [] }

/-- The first message of every review resolves it: the progress message reads as a
request for clarification. -/
theorem reviewing_resolves_review :
    ¬ ResolvedByVerdict quietRuntime { isoformat := [], uptime := 0 } waitingContainer
      [.pm (.reviewing "a"), .pm (.planApproved "a" [])] := by
  intro follows
  obtain ⟨next, delivered, gate⟩ := follows [.pm (.reviewing "a")] (by simp)
  have response : (ChannelMessage.pm (.reviewing "a")).IsResponse := by decide +kernel
  rw [deliver, handleAll_onMessage response rfl, PyExc.ok_bind] at delivered
  cases Except.ok.inj delivered
  cases gate

end Vcompany.Bot
