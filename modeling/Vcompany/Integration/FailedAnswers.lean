import Vcompany.Foundation.Search
import Vcompany.Integration.ConflictResolver
import Vcompany.Strategist.ClaudeCli

/-! # Failed calls and conflict resolution

The sentence that stands for a failed call names none of the words by which the PM declines, so
it is taken for the resolved code. What is asked about a file is decided by its hunks and the
answers before.
-/

namespace Vcompany.Integration.ConflictResolver

open Foundation Strategist

variable (casing : Text.Casing) (outcomes : ℕ → CliOutcome) (content : Text)

/-- The PM whose calls of the CLI end as told. -/
def pmOf : Answers := fun number _ => .ok (outcomes number).answer

/-- The answer is a text by which the PM does not decline. -/
def Accepted (outcome : CliOutcome) : Prop :=
  ∃ response, outcome.answer = .str response ∧ declines casing response = false

/-- The answer is a text by which the PM declines. -/
def Declined (outcome : CliOutcome) : Prop :=
  ∃ response, outcome.answer = .str response ∧ declines casing response = true

/-- The PM is asked about the hunk of that number. -/
def Asked (number : ℕ) : Prop :=
  number < (extractConflictHunks content).length ∧
    ∀ earlier < number, Accepted casing (outcomes earlier)

/-- If a call about a hunk produces no result, the file is not resolved. -/
def RefusesFailure : Prop :=
  (∃ number, Asked casing outcomes content number ∧ (outcomes number).Fails) →
    resolve casing (some (pmOf outcomes)) content = .ok none

section

variable {casing outcomes content}

theorem askHunks_eq_none_iff {number : ℕ} {response : Text} {hunks : List Text} :
    askHunks casing (pmOf outcomes) number response hunks = .ok none ↔
      ∃ later < hunks.length, (∀ earlier < later, Accepted casing (outcomes (number + earlier))) ∧
        Declined casing (outcomes (number + later)) := by
  induction hunks generalizing number response with
  | nil =>
      refine iff_of_false nofun ?_
      rintro ⟨later, below, -⟩
      exact absurd below (Nat.not_lt_zero later)
  | cons hunk hunks ih =>
      -- the first answer declines, or is accepted and the others decide
      have split : (∃ later < (hunk :: hunks).length,
          (∀ earlier < later, Accepted casing (outcomes (number + earlier))) ∧
            Declined casing (outcomes (number + later))) ↔
          Declined casing (outcomes number) ∨ Accepted casing (outcomes number) ∧
            ∃ later < hunks.length,
              (∀ earlier < later, Accepted casing (outcomes (number + 1 + earlier))) ∧
                Declined casing (outcomes (number + 1 + later)) := by
        have shift (k : ℕ) : number + 1 + k = number + (k + 1) := by omega
        simp only [shift, List.length_cons]
        constructor
        · rintro ⟨_ | later, below, accepted, declined⟩
          · exact .inl declined
          · exact .inr ⟨accepted 0 (Nat.succ_pos later), later, Nat.lt_of_succ_lt_succ below,
              fun earlier before => accepted (earlier + 1) (Nat.succ_lt_succ before), declined⟩
        · rintro (declined | ⟨first, later, below, accepted, declined⟩)
          · exact ⟨0, Nat.succ_pos _, nofun, declined⟩
          · refine ⟨later + 1, Nat.succ_lt_succ below, fun earlier before => ?_, declined⟩
            cases earlier with
            | zero => exact first
            | succ earlier => exact accepted earlier (Nat.lt_of_succ_lt_succ before)
      rw [split]
      unfold askHunks Accepted Declined
      have asked : pmOf outcomes number (resolvePrompt hunk) = .ok (outcomes number).answer := rfl
      rw [asked]
      rcases (outcomes number).answer with _ | text | _ | _ | _ | _ | _ | _
      case str =>
        dsimp only
        rcases verdict : declines casing text with _ | _
        · rw [if_neg Bool.false_ne_true, ih]
          constructor
          · exact fun later => .inr ⟨⟨text, rfl, verdict⟩, later⟩
          · rintro (⟨_, same, declined⟩ | ⟨-, later⟩)
            · cases same
              rw [verdict] at declined
              cases declined
            · exact later
        · exact iff_of_true (if_pos rfl) (.inl ⟨text, rfl, verdict⟩)
      all_goals
        refine iff_of_false nofun ?_
        rintro (⟨_, same, -⟩ | ⟨⟨_, same, -⟩, -⟩) <;> cases same

theorem resolve_eq_none_iff (hunks : extractConflictHunks content ≠ []) :
    resolve casing (some (pmOf outcomes)) content = .ok none ↔
      ∃ number, Asked casing outcomes content number ∧ Declined casing (outcomes number) := by
  have asks := @askHunks_eq_none_iff casing outcomes 0 [] (extractConflictHunks content)
  simp only [Nat.zero_add] at asks
  unfold Asked
  simp only [and_assoc]
  rw [← asks]
  unfold resolve
  dsimp only
  rw [if_neg hunks]
  rcases askHunks casing (pmOf outcomes) 0 [] (extractConflictHunks content) with
    raised | _ | response
  · exact iff_of_false nofun nofun
  · exact iff_of_true rfl rfl
  · refine iff_of_false ?_ nofun
    intro same
    obtain ⟨_, isResponse, same⟩ := PyExc.bind_eq_ok_iff.mp same
    cases isResponse
    obtain ⟨resolved, -, same⟩ := PyExc.bind_eq_ok_iff.mp same
    cases same

/-- **When a failed call is refused.** Exactly when no call fails that is made about a hunk, or
the PM declines in its answer to another. -/
theorem refusesFailure_iff :
    RefusesFailure casing outcomes content ↔
      (∀ number, Asked casing outcomes content number → ¬ (outcomes number).Fails) ∨
        ∃ number, Asked casing outcomes content number ∧ Declined casing (outcomes number) := by
  unfold RefusesFailure
  constructor
  · intro refuses
    by_contra neither
    push Not at neither
    obtain ⟨⟨number, asked, fails⟩, none⟩ := neither
    have hunks : extractConflictHunks content ≠ [] := fun empty => by
      rw [Asked, empty] at asked
      exact absurd asked.1 (Nat.not_lt_zero number)
    obtain ⟨other, isAsked, declined⟩ := (resolve_eq_none_iff hunks).mp
      (refuses ⟨number, asked, fails⟩)
    exact none other isAsked declined
  · rintro (fine | declined) ⟨number, asked, fails⟩
    · exact absurd fails (fine number asked)
    · have hunks : extractConflictHunks content ≠ [] := fun empty => by
        rw [Asked, empty] at asked
        exact absurd asked.1 (Nat.not_lt_zero number)
      exact (resolve_eq_none_iff hunks).mpr declined

end

/-- **When failed calls are not used as answers.** A question is escalated exactly when Claude is
not called for it or the call does not fail, and a file is left unresolved exactly when no call
about a hunk fails or the PM declines one. -/
theorem failed_calls_refused_iff (tier : PMTier) (outcome : CliOutcome)
    (question agentId : Text) :
    (tier.EscalatesFailure outcome question agentId ↔
        ¬ outcome.Fails ∨ tier.Uncalled question) ∧
      (RefusesFailure casing outcomes content ↔
        (∀ number, Asked casing outcomes content number → ¬ (outcomes number).Fails) ∨
          ∃ number, Asked casing outcomes content number ∧ Declined casing (outcomes number)) :=
  ⟨PMTier.escalatesFailure_iff outcome, refusesFailure_iff⟩

/-- The sentence for a failed call says "escalating", and is taken for an answer. -/
theorem declines_unableAnswer (casing : Text.Casing) :
    declines casing PMTier.unableAnswer = false := by
  have absent : ∀ keyword ∈ lowConfidence, Text.Ascii keyword ∧ keyword ≠ [] ∧
      ¬ Text.Mentions keyword PMTier.unableAnswer := by decide +kernel
  unfold declines
  rw [List.any_eq_false]
  intro keyword member found
  obtain ⟨ascii, inhabited, lacks⟩ := absent keyword member
  refine lacks ((Text.infix_lower_iff casing ascii inhabited _).mp ?_)
  exact (of_decide_eq_true found).trans (Text.strip_isInfix _)

private def scoringTier : PMTier where
  loadContextDocs := .ok []
  loadDecisionLog := .ok []
  score _ _ _ := ⟨1, .high, 1, 1⟩
  claude _ _ := none

private def conflicted : Text :=
  "<<<<<<< HEAD\nours\n=======\ntheirs\n>>>>>>> feature\n".toList

/-- The CLI exits with 1. The question is answered with the sentence for a failed call, and so
is the conflict. -/
theorem failed_call_used_as_answer :
    (¬ ∀ (tier : PMTier) (outcome : CliOutcome) (question agentId : Text),
        tier.EscalatesFailure outcome question agentId) ∧
      ¬ ∀ (casing : Text.Casing) (outcomes : ℕ → CliOutcome) (content : Text),
        RefusesFailure casing outcomes content := by
  have fails : (CliOutcome.exits 1 none).Fails := .inl rfl
  refine ⟨fun claim => ?_, fun claim => ?_⟩
  · obtain ⟨decision, decided, none, -⟩ := claim scoringTier (.exits 1 none) [] [] fails
    cases decided
    cases none
  · have one : (extractConflictHunks conflicted).length = 1 := by decide +kernel
    have refused := claim .plain (fun _ => .exits 1 none) conflicted
      ⟨0, ⟨one ▸ Nat.zero_lt_one, nofun⟩, fails⟩
    have hunks : extractConflictHunks conflicted ≠ [] := fun empty => by
      rw [empty] at one
      cases one
    obtain ⟨_, -, response, same, declined⟩ := (resolve_eq_none_iff hunks).mp refused
    cases same
    exact Bool.false_ne_true ((declines_unableAnswer .plain).symm.trans declined)

end Vcompany.Integration.ConflictResolver
