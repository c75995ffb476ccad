import Vcompany.Strategist.DecisionLog
import Vcompany.Strategist.PlanReviewer

/-! # The PM tier

The PM scores a question by what the project says about it and, unless the confidence is LOW,
lets Claude answer. With any context at all a LOW score counts as MEDIUM, so the level of a
decision says nothing about its answer (`evaluateQuestion_level`).
-/

namespace Vcompany.Strategist

open Foundation

/-- What an evaluation depends on: the files of the project, the scorer, and the `result` of
Claude for a question, if the call goes through. -/
structure PMTier where
  loadContextDocs : Except PyExc (List (Text × Text))
  loadDecisionLog : Except PyExc (List DecisionLogEntry)
  score : Text → List (Text × Text) → List DecisionLogEntry → ConfidenceResult
  claude : Text → List (Text × Text) → Option PyValue

namespace PMTier

def unableAnswer : Text := "PM was unable to generate an answer. Escalating.".toList

def overrideNote : Text := "PM confidence: medium -- @Owner can override".toList

/-- `_answer_directly`. -/
def answerDirectly (tier : PMTier) (question : Text) (contextDocs : List (Text × Text)) : PyValue :=
  (tier.claude question contextDocs).getD (.str unableAnswer)

/-- What the model `PMDecision` accepts as an answer. -/
def validateAnswer : PyValue → Except PyExc (Option Text)
  | .str text => .ok (some text)
  | .none => .ok none
  | _ => .error .valueError

/-- A LOW confidence counts as MEDIUM if there is any context. -/
def boosted (confidence : ConfidenceResult) (contextDocs : List (Text × Text)) :
    ConfidenceResult :=
  if confidence.level = .low ∧ ∃ doc ∈ contextDocs, doc.2.strip ≠ [] then
    { confidence with score := 3 / 5, level := .medium }
  else confidence

/-- The decision about a question whose confidence was scored. -/
def decisionOn (tier : PMTier) (question : Text) (contextDocs : List (Text × Text))
    (confidence : ConfidenceResult) : Except PyExc PMDecision :=
  match confidence.level with
  | .low => .ok {
      answer := none, confidence := confidence, decidedBy := .pm,
      escalateTo := some "strategist".toList }
  | level => do
      let answer ← validateAnswer (tier.answerDirectly question contextDocs)
      return {
        answer := answer, confidence := confidence, decidedBy := .pm,
        note := if level = .medium then overrideNote else [] }

/-- `evaluate_question`. The agent is only logged. -/
def evaluateQuestion (tier : PMTier) (question _agentId : Text) : Except PyExc PMDecision := do
  let contextDocs ← tier.loadContextDocs
  let decisionLog ← tier.loadDecisionLog
  let confidence := boosted (tier.score question contextDocs decisionLog) contextDocs
  tier.decisionOn question contextDocs confidence

variable {tier : PMTier} {question agentId : Text} {contextDocs : List (Text × Text)}

theorem boosted_level_ne_low (confidence : ConfidenceResult)
    (context : ∃ doc ∈ contextDocs, doc.2.strip ≠ []) :
    (boosted confidence contextDocs).level ≠ .low := by
  unfold boosted
  split
  · nofun
  · next other => exact fun low => other ⟨low, context⟩

theorem decisionOn_confidence {confidence : ConfidenceResult} {decision : PMDecision}
    (decided : tier.decisionOn question contextDocs confidence = .ok decision) :
    decision.confidence = confidence := by
  unfold decisionOn at decided
  split at decided
  · obtain rfl := Except.ok.inj decided
    rfl
  · obtain ⟨answer, _, returned⟩ := PyExc.bind_eq_ok_iff.mp decided
    obtain rfl := Except.ok.inj returned
    rfl

/-- In a project with any context no decision has LOW confidence, whatever its answer. -/
theorem evaluateQuestion_level (loaded : tier.loadContextDocs = .ok contextDocs)
    (context : ∃ doc ∈ contextDocs, doc.2.strip ≠ []) {decision : PMDecision}
    (evaluated : tier.evaluateQuestion question agentId = .ok decision) :
    decision.confidence.level = .high ∨ decision.confidence.level = .medium := by
  unfold evaluateQuestion at evaluated
  rw [loaded, PyExc.ok_bind] at evaluated
  obtain ⟨decisionLog, _, decided⟩ := PyExc.bind_eq_ok_iff.mp evaluated
  have level := boosted_level_ne_low (tier.score question contextDocs decisionLog) context
  rw [← decisionOn_confidence decided] at level
  cases same : decision.confidence.level with
  | high => exact .inl rfl
  | medium => exact .inr rfl
  | low => exact absurd same level

end PMTier

end Vcompany.Strategist
