import Vcompany.Foundation.Hysteresis
import Mathlib.Data.List.Basic

/-! # Degraded mode

`DegradedModeManager` counts the failures and the successes in a row, over the results of its
own probes and those that callers report. The counters are not reset together, and each goes on
counting in the state where it is not looked at. `degraded_mode_hysteresis` says that none of
this shows: the manager is a filter with hysteresis, and calls back once for each change.
-/

namespace Vcompany.Resilience

open Foundation

inductive HealthState where
  | normal
  | degraded
  deriving DecidableEq, Repr

inductive HealthCallback where
  | onDegraded
  | onRecovered
  deriving DecidableEq, Repr

structure DegradedModeManager where
  failureThreshold : ℕ := 3
  recoveryThreshold : ℕ := 2
  /-- The callbacks that are not `None`. -/
  callbacks : HealthCallback → Bool
  state : HealthState := .normal
  consecutiveFailures : ℕ := 0
  consecutiveSuccesses : ℕ := 0

/-- A result that `_record_result` is given: that of a probe, which may raise, or one that a
caller reports. -/
inductive HealthReport where
  | probed (healthy : Bool)
  | probeRaised
  | operationalFailure
  | operationalSuccess
  deriving DecidableEq, Repr

def HealthReport.healthy : HealthReport → Bool
  | probed healthy => healthy
  | probeRaised => false
  | operationalFailure => false
  | operationalSuccess => true

namespace DegradedModeManager

def isDegraded (manager : DegradedModeManager) : Bool := manager.state = .degraded

/-- The callback, if it is given. -/
def callback (manager : DegradedModeManager) (change : HealthCallback) : Option HealthCallback :=
  if manager.callbacks change then some change else none

/-- `_record_result`, with the callback that it awaits at its end. -/
def recordResult (manager : DegradedModeManager) (healthy : Bool) :
    DegradedModeManager × Option HealthCallback :=
  if healthy then
    let counted := { manager with
      consecutiveSuccesses := manager.consecutiveSuccesses + 1
      consecutiveFailures := 0 }
    if manager.state = .degraded ∧ manager.recoveryThreshold ≤ counted.consecutiveSuccesses then
      ({ counted with state := .normal, consecutiveSuccesses := 0 },
        manager.callback .onRecovered)
    else (counted, none)
  else
    let counted := { manager with
      consecutiveFailures := manager.consecutiveFailures + 1
      consecutiveSuccesses := 0 }
    if manager.state = .normal ∧ manager.failureThreshold ≤ counted.consecutiveFailures then
      ({ counted with state := .degraded, consecutiveFailures := 0 },
        manager.callback .onDegraded)
    else (counted, none)

end DegradedModeManager

/-- A manager, with the callbacks that it has invoked. -/
structure HealthLog where
  manager : DegradedModeManager
  calls : List HealthCallback := []

def HealthLog.record (log : HealthLog) (healthy : Bool) : HealthLog where
  manager := (log.manager.recordResult healthy).1
  calls := log.calls ++ (log.manager.recordResult healthy).2.toList

/-- A new manager after the results. -/
def monitored (callbacks : HealthCallback → Bool) (failureThreshold recoveryThreshold : ℕ)
    (results : List Bool) : HealthLog :=
  results.foldl HealthLog.record { manager := { failureThreshold, recoveryThreshold, callbacks } }

/-- The callback for the change from one state of the manager to another. -/
def changeBetween (before after : DegradedModeManager) : Option HealthCallback :=
  match before.isDegraded, after.isDegraded with
  | false, true => some .onDegraded
  | true, false => some .onRecovered
  | _, _ => none

/-- The changes of the manager's state over the results. -/
def changes : DegradedModeManager → List Bool → List HealthCallback
  | _, [] => []
  | manager, healthy :: later =>
      (changeBetween manager (manager.recordResult healthy).1).toList ++
        changes (manager.recordResult healthy).1 later

def HealthCallback.other : HealthCallback → HealthCallback
  | onDegraded => onRecovered
  | onRecovered => onDegraded

/-- The two callbacks take turns. -/
def Alternates : HealthCallback → List HealthCallback → Prop
  | _, [] => True
  | first, call :: later => call = first ∧ Alternates first.other later

/-! ## The counters -/

/-- The counter that is looked at in the state of the manager is the length of the run at the
end of the results. -/
structure Counts (failureThreshold recoveryThreshold : ℕ) (manager : DegradedModeManager)
    (results : List Bool) : Prop where
  failureThreshold : manager.failureThreshold = failureThreshold
  recoveryThreshold : manager.recoveryThreshold = recoveryThreshold
  failures : manager.isDegraded = false → manager.consecutiveFailures = streak false results
  successes : manager.isDegraded = true → manager.consecutiveSuccesses = streak true results

variable {callbacks : HealthCallback → Bool} {failureThreshold recoveryThreshold : ℕ}
  {manager : DegradedModeManager} {results : List Bool}

theorem isDegraded_eq_true_iff : manager.isDegraded = true ↔ manager.state = .degraded :=
  decide_eq_true_iff

theorem isDegraded_eq_false_iff : manager.isDegraded = false ↔ manager.state = .normal := by
  unfold DegradedModeManager.isDegraded
  cases manager.state <;> simp

namespace Counts

/-- A normal manager becomes degraded with a run of failures at the end. -/
theorem rises_iff (counts : Counts failureThreshold recoveryThreshold manager results)
    (fails : 0 < failureThreshold) (normal : manager.isDegraded = false) (healthy : Bool) :
    (manager.recordResult healthy).1.isDegraded = true ↔
      failureThreshold ≤ streak false (results ++ [healthy]) := by
  have state := isDegraded_eq_false_iff.mp normal
  rw [isDegraded_eq_true_iff, streak_concat]
  unfold DegradedModeManager.recordResult
  cases healthy with
  | true => simp [state, fails.ne']
  | false =>
      simp only [Bool.false_eq_true, if_false, state, true_and, counts.failureThreshold,
        counts.failures normal, if_true]
      split
      · next reached => exact iff_of_true rfl reached
      · next fewer => exact iff_of_false (by simp) fewer

/-- A degraded manager becomes normal with a run of successes at the end. -/
theorem falls_iff (counts : Counts failureThreshold recoveryThreshold manager results)
    (recovers : 0 < recoveryThreshold) (degraded : manager.isDegraded = true) (healthy : Bool) :
    (manager.recordResult healthy).1.isDegraded = false ↔
      recoveryThreshold ≤ streak true (results ++ [healthy]) := by
  have state := isDegraded_eq_true_iff.mp degraded
  rw [isDegraded_eq_false_iff, streak_concat]
  unfold DegradedModeManager.recordResult
  cases healthy with
  | false => simp [state, recovers.ne']
  | true =>
      simp only [if_true, state, true_and, counts.recoveryThreshold, counts.successes degraded]
      split
      · next reached => exact iff_of_true rfl reached
      · next fewer => exact iff_of_false (by simp) fewer

/-- **One result.** -/
theorem record (counts : Counts failureThreshold recoveryThreshold manager results)
    (healthy : Bool) :
    Counts failureThreshold recoveryThreshold (manager.recordResult healthy).1
      (results ++ [healthy]) := by
  unfold DegradedModeManager.recordResult
  cases healthy with
  | true =>
      simp only [if_true]
      split
      · refine ⟨counts.failureThreshold, counts.recoveryThreshold, fun _ => ?_, fun up => ?_⟩
        · rw [streak_concat, if_neg nofun]
        · cases up
      · refine ⟨counts.failureThreshold, counts.recoveryThreshold, fun _ => ?_, fun up => ?_⟩
        · rw [streak_concat, if_neg nofun]
        · rw [streak_concat, if_pos rfl, ← counts.successes up]
  | false =>
      simp only [Bool.false_eq_true, if_false]
      split
      · refine ⟨counts.failureThreshold, counts.recoveryThreshold, fun down => ?_, fun _ => ?_⟩
        · cases down
        · rw [streak_concat, if_neg nofun]
      · refine ⟨counts.failureThreshold, counts.recoveryThreshold, fun down => ?_, fun _ => ?_⟩
        · rw [streak_concat, if_pos rfl, ← counts.failures down]
        · rw [streak_concat, if_neg nofun]

end Counts

theorem monitored_concat (healthy : Bool) :
    monitored callbacks failureThreshold recoveryThreshold (results ++ [healthy]) =
      (monitored callbacks failureThreshold recoveryThreshold results).record healthy :=
  List.foldl_concat _ _ _ _

theorem counts_monitored (callbacks : HealthCallback → Bool)
    (failureThreshold recoveryThreshold : ℕ) (results : List Bool) :
    Counts failureThreshold recoveryThreshold
      (monitored callbacks failureThreshold recoveryThreshold results).manager results := by
  induction results using List.reverseRecOn with
  | nil => exact ⟨rfl, rfl, fun _ => rfl, fun up => by cases up⟩
  | append_singleton results healthy ih =>
      rw [monitored_concat]
      exact ih.record healthy

/-- The manager is a filter with hysteresis. -/
theorem hysteresis_monitored (callbacks : HealthCallback → Bool) (fails : 0 < failureThreshold)
    (recovers : 0 < recoveryThreshold) :
    Hysteresis failureThreshold recoveryThreshold fun results =>
      (monitored callbacks failureThreshold recoveryThreshold results).manager.isDegraded where
  start := rfl
  rises results healthy normal := by
    rw [monitored_concat, ← le_streak_iff]
    exact (counts_monitored callbacks _ _ results).rises_iff fails normal healthy
  falls results healthy degraded := by
    rw [monitored_concat, ← le_streak_iff]
    exact (counts_monitored callbacks _ _ results).falls_iff recovers degraded healthy

/-! ## The callbacks -/

/-- A result changes the state, with the callback for it, or does not. -/
theorem recordResult_cases (manager : DegradedModeManager) (healthy : Bool) :
    (manager.recordResult healthy).1.callbacks = manager.callbacks ∧
      (((manager.recordResult healthy).1.state = manager.state ∧
          (manager.recordResult healthy).2 = none) ∨
        (manager.state = .normal ∧ (manager.recordResult healthy).1.state = .degraded ∧
          (manager.recordResult healthy).2 = manager.callback .onDegraded) ∨
        (manager.state = .degraded ∧ (manager.recordResult healthy).1.state = .normal ∧
          (manager.recordResult healthy).2 = manager.callback .onRecovered)) := by
  unfold DegradedModeManager.recordResult
  cases healthy with
  | true =>
      simp only [if_true]
      split
      · next reached => exact ⟨rfl, .inr (.inr ⟨reached.1, rfl, rfl⟩)⟩
      · exact ⟨rfl, .inl ⟨rfl, rfl⟩⟩
  | false =>
      simp only [Bool.false_eq_true, if_false]
      split
      · next reached => exact ⟨rfl, .inr (.inl ⟨reached.1, rfl, rfl⟩)⟩
      · exact ⟨rfl, .inl ⟨rfl, rfl⟩⟩

theorem callback_toList (manager : DegradedModeManager) (change : HealthCallback) :
    (manager.callback change).toList = [change].filter manager.callbacks := by
  unfold DegradedModeManager.callback
  rw [List.filter_singleton]
  cases manager.callbacks change <;> rfl

/-- The callback of a result is that of the change, if it is given. -/
theorem recordResult_callback (manager : DegradedModeManager) (healthy : Bool) :
    (manager.recordResult healthy).2.toList =
      (changeBetween manager (manager.recordResult healthy).1).toList.filter manager.callbacks := by
  obtain ⟨-, ⟨same, quiet⟩ | ⟨before, after, calls⟩ | ⟨before, after, calls⟩⟩ :=
    recordResult_cases manager healthy
  · unfold changeBetween DegradedModeManager.isDegraded
    rw [quiet, same]
    cases manager.state <;> rfl
  · unfold changeBetween DegradedModeManager.isDegraded
    rw [calls, before, after, callback_toList]
    rfl
  · unfold changeBetween DegradedModeManager.isDegraded
    rw [calls, before, after, callback_toList]
    rfl

theorem foldl_record_calls (results : List Bool) (log : HealthLog) :
    (results.foldl HealthLog.record log).calls =
      log.calls ++ (changes log.manager results).filter log.manager.callbacks := by
  induction results generalizing log with
  | nil => exact (List.append_nil _).symm
  | cons healthy later ih =>
      have same : (log.record healthy).manager.callbacks = log.manager.callbacks :=
        (recordResult_cases log.manager healthy).1
      rw [List.foldl_cons, ih, same, changes, List.filter_append, ← recordResult_callback,
        ← List.append_assoc]
      rfl

/-- The change that comes next in a state of the manager. -/
def nextChange (manager : DegradedModeManager) : HealthCallback :=
  if manager.isDegraded then .onRecovered else .onDegraded

theorem alternates_changes (manager : DegradedModeManager) (results : List Bool) :
    Alternates (nextChange manager) (changes manager results) := by
  induction results generalizing manager with
  | nil => trivial
  | cons healthy later ih =>
      have next := ih (manager.recordResult healthy).1
      unfold nextChange at next ⊢
      unfold changes changeBetween
      rcases before : manager.isDegraded with _ | _
      · rcases after : (manager.recordResult healthy).1.isDegraded with _ | _
        · rwa [after] at next
        · rw [after] at next
          exact ⟨rfl, next⟩
      · rcases after : (manager.recordResult healthy).1.isDegraded with _ | _
        · rw [after] at next
          exact ⟨rfl, next⟩
        · rwa [after] at next

/-- **Degraded mode.** The manager is degraded exactly if a run of failures has occurred while it
was normal, and no run of successes since. The callbacks are invoked once for each change, in
turn, from `on_degraded` on. -/
theorem degraded_mode_hysteresis (callbacks : HealthCallback → Bool)
    (failureThreshold recoveryThreshold : ℕ) (fails : 1 ≤ failureThreshold)
    (recovers : 1 ≤ recoveryThreshold) (reports : List HealthReport) :
    ((monitored callbacks failureThreshold recoveryThreshold
          (reports.map HealthReport.healthy)).manager.isDegraded = true ↔
        ∃ before after, reports.map HealthReport.healthy =
            before ++ List.replicate failureThreshold false ++ after ∧
          (∀ count < failureThreshold, (monitored callbacks failureThreshold recoveryThreshold
            (before ++ List.replicate count false)).manager.isDegraded = false) ∧
          ¬ List.replicate recoveryThreshold true <:+: after) ∧
      (monitored callbacks failureThreshold recoveryThreshold
          (reports.map HealthReport.healthy)).calls =
        (changes (monitored callbacks failureThreshold recoveryThreshold []).manager
          (reports.map HealthReport.healthy)).filter callbacks ∧
      Alternates .onDegraded (changes
        (monitored callbacks failureThreshold recoveryThreshold []).manager
        (reports.map HealthReport.healthy)) :=
  ⟨(hysteresis_monitored callbacks fails recovers).raised_iff fails recovers _,
    foldl_record_calls _ _,
    alternates_changes (monitored callbacks failureThreshold recoveryThreshold []).manager _⟩

theorem three_failures_degrade :
    (monitored (fun _ => true) 3 2 ([.probed false, .probeRaised, .operationalFailure,
      .operationalSuccess].map HealthReport.healthy)).manager.isDegraded = true :=
  (degraded_mode_hysteresis (fun _ => true) 3 2 (by decide) (by decide)
    [.probed false, .probeRaised, .operationalFailure, .operationalSuccess]).1.mpr
    ⟨[], [true], rfl, by decide, by decide⟩

end Vcompany.Resilience
