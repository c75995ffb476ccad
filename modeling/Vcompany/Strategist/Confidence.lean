import Vcompany.Foundation.Dict
import Vcompany.Foundation.Search
import Vcompany.Foundation.Similarity
import Vcompany.Strategist.Pm
import Mathlib.Tactic.Linarith

/-! # The confidence of the PM

The scorer weighs how many keywords of a question the documents of the project have, and how
similar the question is to one decided before. The score is a measure: it lies between zero and
one, more documents and decisions never lower it, and the order of the decisions does not matter
(`confidence_measure`).
-/

namespace Vcompany.Strategist

open Foundation

/-- `STOPWORDS`. -/
def stopwords : List Text :=
  (["a", "an", "the", "is", "are", "was", "were", "be", "been", "being", "have", "has", "had",
    "do", "does", "did", "will", "would", "could", "should", "may", "might", "shall", "can",
    "need", "dare", "ought", "used", "to", "of", "in", "for", "on", "with", "at", "by", "from",
    "as", "into", "through", "during", "before", "after", "above", "below", "between", "out",
    "off", "over", "under", "again", "further", "then", "once", "here", "there", "when",
    "where", "why", "how", "all", "both", "each", "few", "more", "most", "other", "some",
    "such", "no", "nor", "not", "only", "own", "same", "so", "than", "too", "very", "just",
    "because", "but", "and", "or", "if", "while", "about", "against", "up", "down", "it", "its",
    "this", "that", "these", "those", "i", "me", "my", "we", "our", "you", "your", "he", "him",
    "his", "she", "her", "they", "them", "their", "what", "which", "who", "whom"] :
      List String).map String.toList

namespace ConfidenceScorer

variable (casing : Text.WordCasing) (question : Text)

/-- `_extract_keywords`. -/
def extractKeywords (text : Text) : List Text :=
  (Text.words (Text.lower casing.toCasing text)).filter fun word =>
    decide (word ∉ stopwords ∧ 1 < word.length)

/-- The documents as one text in lower case. -/
def allContext (contextDocs : Dict Text Text) : Text :=
  Text.lower casing.toCasing (List.intercalate [' '] contextDocs.values)

/-- `_check_context_coverage`. -/
def checkContextCoverage (contextDocs : Dict Text Text) : ℚ :=
  let keywords := extractKeywords casing question
  if keywords = [] then 0
  else (keywords.countP (· <:+: allContext casing contextDocs) : ℕ) / keywords.length

/-- The similarity of a decided question, unless it has no keywords. -/
def similarity (questionWords : Finset Text) (entry : DecisionLogEntry) : Option ℚ :=
  let entryWords := (extractKeywords casing entry.questionOrPlan).toFinset
  if entryWords = ∅ then none else some (jaccard questionWords entryWords)

/-- `_check_prior_decisions`. -/
def checkPriorDecisions (decisionLog : List DecisionLogEntry) : ℚ :=
  if decisionLog = [] then 0
  else
    let questionWords := (extractKeywords casing question).toFinset
    if questionWords = ∅ then 0
    else decisionLog.foldl (fun maxSimilarity entry =>
      match similarity casing questionWords entry with
      | none => maxSimilarity
      | some degree => max maxSimilarity degree) 0

/-- The level of a score. -/
def levelOf (rawScore : ℚ) : ConfidenceLevel :=
  if 9 / 10 < rawScore then .high else if 3 / 5 ≤ rawScore then .medium else .low

/-- `ConfidenceScorer.score`. -/
def score (contextDocs : Dict Text Text) (decisionLog : List DecisionLogEntry) :
    ConfidenceResult :=
  let coverage := checkContextCoverage casing question contextDocs
  let priorMatch := checkPriorDecisions casing question decisionLog
  let rawScore := coverage * (3 / 5) + priorMatch * (2 / 5)
  { score := rawScore
    level := levelOf rawScore
    coverage := coverage
    priorMatch := priorMatch }

variable {casing question} {contextDocs : Dict Text Text} {decisionLog : List DecisionLogEntry}

/-! ## Coverage -/

theorem coverage_nonneg : 0 ≤ checkContextCoverage casing question contextDocs := by
  unfold checkContextCoverage
  dsimp only
  split
  · exact le_rfl
  · exact div_nonneg (Nat.cast_nonneg _) (Nat.cast_nonneg _)

theorem coverage_le_one : checkContextCoverage casing question contextDocs ≤ 1 := by
  unfold checkContextCoverage
  dsimp only
  split
  · exact zero_le_one
  · refine div_le_one_of_le₀ ?_ (Nat.cast_nonneg _)
    exact Nat.cast_le.mpr List.countP_le_length

/-- A further document stands behind the others and a space. -/
theorem intercalate_concat {docs : List Text} (some : docs ≠ []) (text : Text) :
    List.intercalate [' '] (docs ++ [text]) = List.intercalate [' '] docs ++ ' ' :: text := by
  induction docs with
  | nil => exact absurd rfl some
  | cons first docs ih =>
      cases docs with
      | nil => rw [List.singleton_append, List.intercalate_cons_cons]; simp
      | cons second docs =>
          rw [List.cons_append, List.intercalate_cons_of_ne_nil (by simp),
            ih (List.cons_ne_nil _ _), List.intercalate_cons_cons]
          simp only [List.append_assoc]

/-- The text of the documents stays as it is before a further one. -/
theorem isInfix_allContext {name text : Text} (fresh : name ∉ contextDocs.keys) :
    allContext casing contextDocs <:+: allContext casing (contextDocs.set name text) := by
  unfold allContext
  rw [Dict.values_set_of_notMem text fresh]
  by_cases none : contextDocs.values = []
  · rw [none]
    exact List.nil_infix
  · rw [intercalate_concat none]
    exact (Text.isPrefix_lower casing _ text).isInfix

/-- A document under a new name never lowers the coverage. -/
theorem coverage_mono {name text : Text} (fresh : name ∉ contextDocs.keys) :
    checkContextCoverage casing question contextDocs ≤
      checkContextCoverage casing question (contextDocs.set name text) := by
  unfold checkContextCoverage
  dsimp only
  split
  · exact le_rfl
  · refine div_le_div_of_nonneg_right ?_ (Nat.cast_nonneg _)
    refine Nat.cast_le.mpr (List.countP_mono_left fun keyword _ found => ?_)
    exact decide_eq_true ((of_decide_eq_true found).trans (isInfix_allContext fresh))

/-! ## Prior decisions -/

/-- The degrees of similarity of the decided questions. -/
def similarities (casing : Text.WordCasing) (question : Text)
    (decisionLog : List DecisionLogEntry) : List ℚ :=
  decisionLog.filterMap (similarity casing (extractKeywords casing question).toFinset)

/-- The match with the prior decisions is the best one, if the question has keywords. -/
theorem checkPriorDecisions_eq :
    checkPriorDecisions casing question decisionLog =
      if extractKeywords casing question = [] then 0
      else best (similarities casing question decisionLog) := by
  unfold checkPriorDecisions similarities
  dsimp only
  simp only [List.toFinset_eq_empty_iff]
  split
  · next empty =>
      rw [empty]
      split <;> rfl
  · split
    · rfl
    · unfold best
      rw [List.foldl_filterMap]
      refine List.foldl_ext _ _ 0 fun degree entry _ => ?_
      cases similarity casing (extractKeywords casing question).toFinset entry <;> rfl

theorem similarity_mem {questionWords : Finset Text} {entry : DecisionLogEntry} {degree : ℚ}
    (similar : similarity casing questionWords entry = some degree) : 0 ≤ degree ∧ degree ≤ 1 := by
  unfold similarity at similar
  dsimp only at similar
  split at similar
  · cases similar
  · cases similar
    exact ⟨jaccard_nonneg, jaccard_le_one⟩

theorem prior_nonneg : 0 ≤ checkPriorDecisions casing question decisionLog := by
  rw [checkPriorDecisions_eq]
  split
  · exact le_rfl
  · exact best_nonneg

theorem prior_le_one : checkPriorDecisions casing question decisionLog ≤ 1 := by
  rw [checkPriorDecisions_eq]
  split
  · exact zero_le_one
  · refine best_le zero_le_one fun degree member => ?_
    obtain ⟨entry, -, similar⟩ := List.mem_filterMap.mp member
    exact (similarity_mem similar).2

/-- Further decisions never lower the match. -/
theorem prior_mono {more : List DecisionLogEntry} (within : decisionLog ⊆ more) :
    checkPriorDecisions casing question decisionLog ≤
      checkPriorDecisions casing question more := by
  rw [checkPriorDecisions_eq, checkPriorDecisions_eq]
  split
  · exact le_rfl
  · exact best_mono (List.filterMap_subset _ within)

/-- The order of the decisions does not matter. -/
theorem prior_perm {other : List DecisionLogEntry} (perm : decisionLog.Perm other) :
    checkPriorDecisions casing question decisionLog =
      checkPriorDecisions casing question other :=
  le_antisymm (prior_mono perm.subset) (prior_mono perm.symm.subset)

/-- A question that was decided before is matched. -/
theorem prior_of_mem {entry : DecisionLogEntry} (member : entry ∈ decisionLog)
    (same : entry.questionOrPlan = question) (keywords : extractKeywords casing question ≠ []) :
    checkPriorDecisions casing question decisionLog = 1 := by
  refine le_antisymm prior_le_one ?_
  rw [checkPriorDecisions_eq, if_neg keywords]
  have inhabited := (List.toFinset_eq_empty_iff _).not.mpr keywords
  have similar : similarity casing (extractKeywords casing question).toFinset entry = some 1 := by
    unfold similarity
    rw [same]
    dsimp only
    rw [if_neg inhabited, jaccard_self inhabited]
  exact le_best (List.mem_filterMap.mpr ⟨entry, member, similar⟩)

/-! ## The score -/

/-- The levels in order. -/
def rank : ConfidenceLevel → ℕ
  | .low => 0
  | .medium => 1
  | .high => 2

theorem rank_levelOf_mono {lower higher : ℚ} (le : lower ≤ higher) :
    rank (levelOf lower) ≤ rank (levelOf higher) := by
  unfold levelOf
  by_cases high : 9 / 10 < lower
  · rw [if_pos high, if_pos (high.trans_le le)]
  · rw [if_neg high]
    by_cases medium : 3 / 5 ≤ lower
    · rw [if_pos medium]
      split
      · decide
      · rw [if_pos (medium.trans le)]
    · rw [if_neg medium]
      exact Nat.zero_le _

/-- The second result is at least the first one, in its score and in its level. -/
def AtMost (first second : ConfidenceResult) : Prop :=
  first.score ≤ second.score ∧ rank first.level ≤ rank second.level

theorem score_mono {moreDocs : Dict Text Text} {moreLog : List DecisionLogEntry}
    (coverage : checkContextCoverage casing question contextDocs ≤
      checkContextCoverage casing question moreDocs)
    (prior : checkPriorDecisions casing question decisionLog ≤
      checkPriorDecisions casing question moreLog) :
    AtMost (score casing question contextDocs decisionLog)
      (score casing question moreDocs moreLog) := by
  have raised : (score casing question contextDocs decisionLog).score ≤
      (score casing question moreDocs moreLog).score := by
    unfold score
    dsimp only
    linarith
  exact ⟨raised, rank_levelOf_mono raised⟩

/-- **The confidence is a measure.** The score lies between zero and one; neither a document
under a new name nor a further decision lowers it or the level; the order of the decisions does
not matter; and a question that was decided before is matched, if it has a keyword. -/
theorem confidence_measure (casing : Text.WordCasing) (question : Text)
    (contextDocs : Dict Text Text) (decisionLog : List DecisionLogEntry) :
    (0 ≤ (score casing question contextDocs decisionLog).score ∧
        (score casing question contextDocs decisionLog).score ≤ 1) ∧
      (∀ name text, name ∉ contextDocs.keys →
        AtMost (score casing question contextDocs decisionLog)
          (score casing question (contextDocs.set name text) decisionLog)) ∧
      (∀ entry, AtMost (score casing question contextDocs decisionLog)
        (score casing question contextDocs (decisionLog ++ [entry]))) ∧
      (∀ other, decisionLog.Perm other →
        score casing question contextDocs decisionLog =
          score casing question contextDocs other) ∧
      ∀ entry ∈ decisionLog, entry.questionOrPlan = question →
        extractKeywords casing question ≠ [] →
          (score casing question contextDocs decisionLog).priorMatch = 1 := by
  refine ⟨⟨?_, ?_⟩, fun name text fresh => ?_, fun entry => ?_, fun other perm => ?_, ?_⟩
  · have covered := @coverage_nonneg casing question contextDocs
    have matched := @prior_nonneg casing question decisionLog
    unfold score
    dsimp only
    linarith
  · have covered := @coverage_le_one casing question contextDocs
    have matched := @prior_le_one casing question decisionLog
    unfold score
    dsimp only
    linarith
  · exact score_mono (coverage_mono fresh) le_rfl
  · exact score_mono le_rfl (prior_mono (List.subset_append_left _ _))
  · unfold score
    rw [prior_perm perm]
  · exact fun entry member same keywords => prior_of_mem member same keywords

end ConfidenceScorer

end Vcompany.Strategist
