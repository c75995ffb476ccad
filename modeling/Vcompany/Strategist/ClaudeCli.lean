import Vcompany.Strategist.Pm

/-! # Calls of the Claude CLI that produce no result

A call that fails is answered with a sentence of its own, which nobody who reads the answer
tells from one of Claude's: only a question for which Claude is not called is escalated
(`escalatesFailure_iff`).
-/

namespace Vcompany.Strategist

open Foundation

/-- How a call of the CLI ends. -/
inductive CliOutcome where
  /-- An exception is raised before the CLI has exited. -/
  | raises
  /-- It exits, with the JSON of its output; none if that is malformed. -/
  | exits (returncode : ℤ) (data : Option PyValue)

namespace CliOutcome

/-- `_answer_directly`. -/
def answer : CliOutcome → PyValue
  | .raises => .str PMTier.unableAnswer
  | .exits returncode data =>
      if returncode ≠ 0 then .str PMTier.unableAnswer
      else
        match data with
        | none => .str PMTier.unableAnswer
        | some data =>
            match data.get "result".toList (.str PMTier.unableAnswer) with
            | .ok answer => answer
            | .error _ => .str PMTier.unableAnswer

/-- The result, if the call produces one. -/
def result : CliOutcome → Option PyValue
  | .exits 0 (some (.dict entries)) =>
      (entries.find? fun entry => entry.1.isStr "result".toList).map Prod.snd
  | _ => none

/-- The call produces no result, or null. -/
def Fails (outcome : CliOutcome) : Prop := outcome.result = none ∨ outcome.result = some .none

theorem answer_eq (outcome : CliOutcome) :
    outcome.answer = outcome.result.getD (.str PMTier.unableAnswer) := by
  cases outcome with
  | raises => rfl
  | exits returncode data =>
      unfold answer result
      by_cases zero : returncode = 0
      · subst zero
        rcases data with _ | data
        · rfl
        · cases data <;> rfl
      · dsimp only
        rw [if_pos zero]
        split
        · next same =>
            cases same
            exact absurd rfl zero
        · rfl

theorem Fails.answer {outcome : CliOutcome} (fails : outcome.Fails) :
    outcome.answer = .str PMTier.unableAnswer ∨ outcome.answer = .none := by
  rw [outcome.answer_eq]
  rcases fails with missing | null
  · exact .inl (by rw [missing]; rfl)
  · exact .inr (by rw [null]; rfl)

end CliOutcome

namespace PMTier

/-- The tier, where the call of the CLI ends as told. -/
def calling (tier : PMTier) (outcome : CliOutcome) : PMTier :=
  { tier with claude := fun _ _ => outcome.result }

/-- If the call produces no result, the question is not answered, but escalated. -/
def EscalatesFailure (tier : PMTier) (outcome : CliOutcome) (question agentId : Text) : Prop :=
  outcome.Fails → ∃ decision, (tier.calling outcome).evaluateQuestion question agentId =
    .ok decision ∧ decision.answer = none ∧ decision.escalateTo ≠ none

/-- Claude is not called: the confidence is LOW, and no context document has any text. -/
def Uncalled (tier : PMTier) (question : Text) : Prop :=
  ∃ contextDocs decisionLog, tier.loadContextDocs = .ok contextDocs ∧
    tier.loadDecisionLog = .ok decisionLog ∧
    (tier.score question contextDocs decisionLog).level = .low ∧
    ∀ doc ∈ contextDocs, doc.2.strip = []

variable {tier : PMTier} {question agentId : Text} {contextDocs : List (Text × Text)}

theorem boosted_level_low_iff (confidence : ConfidenceResult) :
    (boosted confidence contextDocs).level = .low ↔
      confidence.level = .low ∧ ∀ doc ∈ contextDocs, doc.2.strip = [] := by
  unfold boosted
  split
  · next raised =>
      refine iff_of_false nofun fun quiet => ?_
      obtain ⟨doc, member, text⟩ := raised.2
      exact text (quiet.2 doc member)
  · next kept =>
      rw [iff_self_and]
      intro low
      by_contra some
      push Not at some
      exact kept ⟨low, some⟩

/-- A decision that is escalated was made without Claude. -/
theorem decisionOn_escalates_iff {confidence : ConfidenceResult} :
    (∃ decision, tier.decisionOn question contextDocs confidence = .ok decision ∧
      decision.answer = none ∧ decision.escalateTo ≠ none) ↔ confidence.level = .low := by
  unfold decisionOn
  constructor
  · rintro ⟨decision, decided, -, escalated⟩
    split at decided
    · next low => exact low
    · obtain ⟨answer, -, returned⟩ := PyExc.bind_eq_ok_iff.mp decided
      cases returned
      exact absurd rfl escalated
  · intro low
    rw [low]
    exact ⟨_, rfl, rfl, nofun⟩

theorem evaluateQuestion_escalates_iff {outcome : CliOutcome} :
    (∃ decision, (tier.calling outcome).evaluateQuestion question agentId = .ok decision ∧
      decision.answer = none ∧ decision.escalateTo ≠ none) ↔ tier.Uncalled question := by
  unfold evaluateQuestion Uncalled
  constructor
  · rintro ⟨decision, evaluated, escalates⟩
    obtain ⟨contextDocs, docs, evaluated⟩ := PyExc.bind_eq_ok_iff.mp evaluated
    obtain ⟨decisionLog, log, decided⟩ := PyExc.bind_eq_ok_iff.mp evaluated
    have low := decisionOn_escalates_iff.mp ⟨decision, decided, escalates⟩
    rw [boosted_level_low_iff] at low
    exact ⟨contextDocs, decisionLog, docs, log, low⟩
  · rintro ⟨contextDocs, decisionLog, docs, log, low⟩
    have escalated := (@decisionOn_escalates_iff (tier.calling outcome) question contextDocs _).mpr
      ((boosted_level_low_iff _).mpr low)
    obtain ⟨decision, decided, escalates⟩ := escalated
    refine ⟨decision, ?_, escalates⟩
    change tier.loadContextDocs >>= _ = _
    rw [docs, PyExc.ok_bind]
    change tier.loadDecisionLog >>= _ = _
    rw [log, PyExc.ok_bind]
    exact decided

/-- **When a failed call is escalated.** Exactly when Claude is not called. -/
theorem escalatesFailure_iff (outcome : CliOutcome) :
    tier.EscalatesFailure outcome question agentId ↔ ¬ outcome.Fails ∨ tier.Uncalled question := by
  unfold EscalatesFailure
  rw [evaluateQuestion_escalates_iff, imp_iff_not_or]

end PMTier

end Vcompany.Strategist
