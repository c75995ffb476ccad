import Vcompany.Foundation.Dict
import Vcompany.Foundation.Text
import Mathlib.Data.Rat.Floor
import Mathlib.Algebra.Order.Ring.Rat

/-! # Detection of upstream outages

`BulkFailureDetector` keeps the time of each child's last failure. When enough distinct
children have failed within the correlation window, it takes the failures for an outage
and is in backoff until it is reset. Times are in seconds.
-/

namespace Vcompany.Resilience

open Foundation

structure BulkFailureDetector where
  childCount : ℕ
  correlationWindow : ℚ := 30
  thresholdRatio : ℚ := 1 / 2
  threshold : ℤ
  backoffSeconds : ℚ := 120
  maxBackoff : ℚ := 600
  recentFailures : Dict Text ℚ := .empty
  inBackoff : Bool := false
  currentBackoff : ℚ

namespace BulkFailureDetector

/-- `max(2, int(count * threshold_ratio))`. -/
def thresholdOf (count : ℕ) (ratio : ℚ) : ℤ := max 2 ⌊count * ratio⌋

/-- `BulkFailureDetector(child_count=count)`. -/
def init (count : ℕ) : BulkFailureDetector where
  childCount := count
  threshold := thresholdOf count (1 / 2)
  currentBackoff := 120

/-- `_purge_old`, when the clock shows `now`. -/
def purgeOld (now : ℚ) (detector : BulkFailureDetector) : BulkFailureDetector :=
  { detector with
    recentFailures := detector.recentFailures.keep fun failure =>
      now - detector.correlationWindow ≤ failure.2 }

/-- `record_failure`; the clock is read to purge and again to record. -/
def recordFailure (purgedAt recordedAt : ℚ) (childId : Text) (detector : BulkFailureDetector) :
    BulkFailureDetector × Bool :=
  let purged := detector.purgeOld purgedAt
  let recentFailures := purged.recentFailures.set childId recordedAt
  if detector.threshold ≤ recentFailures.entries.length then
    ({ purged with recentFailures, inBackoff := true }, true)
  else ({ purged with recentFailures }, false)

/-- `reset_backoff`. -/
def resetBackoff (detector : BulkFailureDetector) : BulkFailureDetector :=
  { detector with inBackoff := false, currentBackoff := detector.backoffSeconds }

/-- `escalate_backoff`. -/
def escalateBackoff (detector : BulkFailureDetector) : BulkFailureDetector :=
  { detector with currentBackoff := min (detector.currentBackoff * 2) detector.maxBackoff }

/-- `update_child_count`. -/
def updateChildCount (count : ℕ) (detector : BulkFailureDetector) : BulkFailureDetector :=
  { detector with childCount := count, threshold := thresholdOf count detector.thresholdRatio }

/-- How many other children failed within the window before `now`. -/
def othersFailed (detector : BulkFailureDetector) (now : ℚ) (childId : Text) : ℕ :=
  (detector.recentFailures.entries.filter fun failure =>
    failure.1 ≠ childId ∧ now - detector.correlationWindow ≤ failure.2).length

theorem get?_purgeOld_iff {detector : BulkFailureDetector} {now : ℚ} {childId : Text} {time : ℚ} :
    (detector.purgeOld now).recentFailures.get? childId = some time ↔
      detector.recentFailures.get? childId = some time ∧
        now - detector.correlationWindow ≤ time := by
  unfold purgeOld
  rw [Dict.get?_keep_eq_some_iff, decide_eq_true_eq]

section

variable (purgedAt recordedAt : ℚ) (childId : Text) (detector : BulkFailureDetector)

@[simp]
theorem recordFailure_recentFailures :
    (detector.recordFailure purgedAt recordedAt childId).1.recentFailures =
      (detector.purgeOld purgedAt).recentFailures.set childId recordedAt := by
  unfold recordFailure
  dsimp only
  split <;> rfl

@[simp]
theorem recordFailure_threshold :
    (detector.recordFailure purgedAt recordedAt childId).1.threshold = detector.threshold := by
  unfold recordFailure
  dsimp only
  split <;> rfl

@[simp]
theorem recordFailure_childCount :
    (detector.recordFailure purgedAt recordedAt childId).1.childCount = detector.childCount := by
  unfold recordFailure
  dsimp only
  split <;> rfl

@[simp]
theorem recordFailure_correlationWindow :
    (detector.recordFailure purgedAt recordedAt childId).1.correlationWindow =
      detector.correlationWindow := by
  unfold recordFailure
  dsimp only
  split <;> rfl

end

/-- A failure is taken for an outage when the children that failed within the window reach
the threshold with it. -/
theorem recordFailure_outage_iff {detector : BulkFailureDetector} {purgedAt recordedAt : ℚ}
    {childId : Text} :
    (detector.recordFailure purgedAt recordedAt childId).2 = true ↔
      detector.threshold ≤ detector.othersFailed purgedAt childId + 1 := by
  have count : ((detector.purgeOld purgedAt).recentFailures.set childId
      recordedAt).entries.length = detector.othersFailed purgedAt childId + 1 := by
    rw [Dict.length_set]
    unfold purgeOld Dict.keep othersFailed
    rw [List.filter_filter]
    simp
  unfold recordFailure
  dsimp only
  rw [count]
  split
  · next outage => exact iff_of_true rfl (by exact_mod_cast outage)
  · next quiet => exact iff_of_false (fun none => nomatch none) (by exact_mod_cast quiet)

end BulkFailureDetector

end Vcompany.Resilience
