import Vcompany.Foundation.Text
import Vcompany.Foundation.Transition
import Vcompany.Resilience.DegradedMode

/-! # The health check loop

The loop guards the probe, but not the callback that a result may lead to: a callback that
raises ends the task, which is held on to, so that `start` does nothing from then on.
`monitoring_survives_iff` says which runs keep the loop alive, and so let the manager recover.
-/

namespace Vcompany.Resilience

open Foundation

/-- Where the task of `_check_loop` is suspended, or how it has ended other than by `stop`. -/
inductive CheckTask where
  /-- Before or in `health_check`. -/
  | probing
  /-- In a callback. -/
  | notifying
  /-- In the sleep of the interval. -/
  | sleeping
  | raised
  | cancelled
  deriving DecidableEq, Repr

def CheckTask.alive : CheckTask → Bool
  | probing | notifying | sleeping => true
  | raised | cancelled => false

/-- How `health_check` ends. -/
inductive ProbeEnding where
  | returned (healthy : Bool)
  | raised
  | cancelled
  deriving DecidableEq, Repr

/-- How a callback ends. -/
inductive CallbackEnding where
  | returned
  | raised
  | cancelled
  deriving DecidableEq, Repr

/-- A manager with its task, the results that it has recorded, and whether it has been started
since it was last stopped. -/
structure HealthMonitor where
  manager : DegradedModeManager
  task : Option CheckTask := none
  results : List Bool := []
  started : Bool := false

inductive MonitorEvent where
  | start
  | stop
  /-- The probe of the loop ends. -/
  | probed (ending : ProbeEnding)
  /-- The callback that the loop awaits ends. -/
  | notified (ending : CallbackEnding)
  /-- The sleep of the loop ends. -/
  | wakes
  /-- A caller reports a failure or a success. What its callback raises, it raises in the
  caller. -/
  | reported (healthy : Bool)
  deriving DecidableEq, Repr

namespace HealthMonitor

variable (monitor : HealthMonitor)

def created (callbacks : HealthCallback → Bool) (failureThreshold recoveryThreshold : ℕ) :
    HealthMonitor where
  manager := { failureThreshold, recoveryThreshold, callbacks }

/-- `_record_result`, up to the callback. -/
def record (healthy : Bool) : HealthMonitor :=
  { monitor with
    manager := (monitor.manager.recordResult healthy).1
    results := monitor.results ++ [healthy] }

/-- The loop records the result of its probe. -/
def recordProbe (healthy : Bool) : HealthMonitor :=
  { monitor.record healthy with
    task :=
      match (monitor.manager.recordResult healthy).2 with
      | some _ => some .notifying
      | none => some .sleeping }

/-- An event of the loop that does not fit its state changes nothing. -/
def perform (monitor : HealthMonitor) : MonitorEvent → HealthMonitor
  | .start =>
      match monitor.task with
      | some _ => { monitor with started := true }
      | none => { monitor with task := some .probing, started := true }
  | .stop =>
      match monitor.task with
      -- awaiting the task raises its exception again
      | some .raised => { monitor with started := false }
      | _ => { monitor with task := none, started := false }
  | .probed ending =>
      if monitor.task = some .probing then
        match ending with
        | .returned healthy => monitor.recordProbe healthy
        | .raised => monitor.recordProbe false
        | .cancelled => { monitor with task := some .cancelled }
      else monitor
  | .notified ending =>
      if monitor.task = some .notifying then
        match ending with
        | .returned => { monitor with task := some .sleeping }
        | .raised => { monitor with task := some .raised }
        | .cancelled => { monitor with task := some .cancelled }
      else monitor
  | .wakes =>
      if monitor.task = some .sleeping then { monitor with task := some .probing } else monitor
  | .reported healthy => monitor.record healthy

/-- The check at the start of `add_project`. -/
def checkProject (degradedMode : Option DegradedModeManager) (projectId : Text) :
    Except Text Unit :=
  if degradedMode.any DegradedModeManager.isDegraded then
    .error ("System in degraded mode (Claude unreachable). Cannot add project ".toList ++
      projectId ++ ". Will auto-recover.".toList)
  else .ok ()

/-- The task has not ended, and there is one from `start` until `stop`. After as many healthy
results as the threshold asks for, and one at least, the manager is not degraded and new
projects are accepted. -/
structure Watching : Prop where
  alive : ∀ task, monitor.task = some task → task.alive = true
  held : monitor.started = true → monitor.task ≠ none
  recovers : max monitor.manager.recoveryThreshold 1 ≤ streak true monitor.results →
    monitor.manager.isDegraded = false ∧
      ∀ projectId, checkProject (some monitor.manager) projectId = .ok ()

/-- The condition on the state before an event: no callback that the loop awaits raises, and no
probe is cancelled. -/
def Unharmed (monitor : HealthMonitor) : MonitorEvent → Prop
  | .probed ending => monitor.task = some .probing → ending ≠ .cancelled
  | .notified ending => monitor.task = some .notifying → ending = .returned
  | _ => True

instance (monitor : HealthMonitor) : ∀ event, Decidable (monitor.Unharmed event)
  | .probed _ => inferInstanceAs (Decidable (_ → _))
  | .notified _ => inferInstanceAs (Decidable (_ → _))
  | .start | .stop | .wakes | .reported _ => isTrue trivial

variable {monitor}

/-! ## Recovery -/

/-- A degraded manager has had too few successes in a row. -/
structure Recovering (monitor : HealthMonitor) : Prop where
  successes : monitor.manager.isDegraded = true →
    monitor.manager.consecutiveSuccesses = streak true monitor.results
  few : monitor.manager.isDegraded = true →
    streak true monitor.results < max monitor.manager.recoveryThreshold 1

theorem Recovering.record (recovering : monitor.Recovering) (healthy : Bool) :
    (monitor.record healthy).Recovering := by
  unfold HealthMonitor.record DegradedModeManager.recordResult
  cases healthy with
  | true =>
      simp only [if_true]
      split
      · refine ⟨fun up => ?_, fun up => ?_⟩
        · cases up
        · cases up
      · next fewer =>
          refine ⟨fun up => ?_, fun up => ?_⟩
          · rw [streak_concat, if_pos rfl, ← recovering.successes up]
          · rw [streak_concat, if_pos rfl, ← recovering.successes up]
            have short := not_le.mp fun reached =>
              fewer ⟨isDegraded_eq_true_iff.mp up, reached⟩
            exact short.trans_le (Nat.le_max_left _ _)
  | false =>
      have none : streak true (monitor.results ++ [false]) = 0 := by
        rw [streak_concat, if_neg nofun]
      simp only [Bool.false_eq_true, if_false]
      split
      · exact ⟨fun _ => none.symm, fun _ => none.trans_lt (Nat.le_max_right _ 1)⟩
      · exact ⟨fun _ => none.symm, fun _ => none.trans_lt (Nat.le_max_right _ 1)⟩

theorem Recovering.recovers (recovering : monitor.Recovering)
    (healthy : max monitor.manager.recoveryThreshold 1 ≤ streak true monitor.results) :
    monitor.manager.isDegraded = false ∧
      ∀ projectId, checkProject (some monitor.manager) projectId = .ok () := by
  have normal : monitor.manager.isDegraded = false := by
    by_contra up
    rw [Bool.not_eq_false] at up
    exact absurd (recovering.few up) (not_lt.mpr healthy)
  refine ⟨normal, fun projectId => ?_⟩
  unfold checkProject
  rw [Option.any_some, normal]
  rfl

theorem Recovering.perform (recovering : monitor.Recovering) (event : MonitorEvent) :
    (monitor.perform event).Recovering := by
  have same {next : HealthMonitor} (manager : next.manager = monitor.manager)
      (results : next.results = monitor.results) : next.Recovering :=
    ⟨by rw [manager, results]; exact recovering.successes,
      by rw [manager, results]; exact recovering.few⟩
  have probed (healthy : Bool) : (monitor.recordProbe healthy).Recovering :=
    ⟨(recovering.record healthy).successes, (recovering.record healthy).few⟩
  cases event with
  | start =>
      unfold HealthMonitor.perform
      dsimp only
      split <;> exact same rfl rfl
  | stop =>
      unfold HealthMonitor.perform
      dsimp only
      split <;> exact same rfl rfl
  | probed ending =>
      unfold HealthMonitor.perform
      dsimp only
      split
      · cases ending with
        | returned healthy => exact probed healthy
        | raised => exact probed false
        | cancelled => exact same rfl rfl
      · exact recovering
  | notified ending =>
      unfold HealthMonitor.perform
      dsimp only
      split
      · cases ending <;> exact same rfl rfl
      · exact recovering
  | wakes =>
      unfold HealthMonitor.perform
      dsimp only
      split
      · exact same rfl rfl
      · exact recovering
  | reported healthy => exact recovering.record healthy

/-! ## The task -/

/-- The task has not ended, and there is one if it has been started. -/
def Running (monitor : HealthMonitor) : Prop :=
  (∀ task, monitor.task = some task → task.alive = true) ∧
    (monitor.started = true → monitor.task ≠ none)

theorem watching_iff (recovering : monitor.Recovering) : monitor.Watching ↔ monitor.Running :=
  ⟨fun watching => ⟨watching.alive, watching.held⟩,
    fun ⟨alive, held⟩ => ⟨alive, held, recovering.recovers⟩⟩

/-- The task is at one place. -/
theorem running_iff_of_some {task : CheckTask} (present : monitor.task = some task) :
    monitor.Running ↔ task.alive = true := by
  unfold Running
  rw [present]
  constructor
  · exact fun running => running.1 task rfl
  · intro alive
    refine ⟨?_, fun _ => Option.some_ne_none task⟩
    rintro _ ⟨⟩
    exact alive

theorem running_recordProbe (healthy : Bool) : (monitor.recordProbe healthy).Running := by
  unfold recordProbe
  rcases (monitor.manager.recordResult healthy).2 with _ | _
  · exact (running_iff_of_some rfl).mpr rfl
  · exact (running_iff_of_some rfl).mpr rfl

/-- **One event.** The loop goes on exactly under the condition. -/
theorem running_perform_iff (running : monitor.Running) (event : MonitorEvent) :
    (monitor.perform event).Running ↔ monitor.Unharmed event := by
  cases event with
  | start =>
      refine iff_of_true ?_ trivial
      unfold perform
      rcases held : monitor.task with _ | task
      · exact (running_iff_of_some rfl).mpr rfl
      · exact (running_iff_of_some rfl).mpr (running.1 task held)
  | stop =>
      refine iff_of_true ?_ trivial
      have free : ({ monitor with task := none, started := false } : HealthMonitor).Running :=
        ⟨nofun, nofun⟩
      unfold perform
      dsimp only
      split
      · next raised => cases running.1 _ raised
      · exact free
  | probed ending =>
      unfold perform Unharmed
      dsimp only
      by_cases probing : monitor.task = some .probing
      · rw [if_pos probing, forall_prop_of_true probing]
        cases ending with
        | returned healthy => exact iff_of_true (running_recordProbe healthy) nofun
        | raised => exact iff_of_true (running_recordProbe false) nofun
        | cancelled =>
            refine iff_of_false (fun still => ?_) fun other => other rfl
            cases (running_iff_of_some rfl).mp still
      · rw [if_neg probing]
        exact iff_of_true running fun own => absurd own probing
  | notified ending =>
      unfold perform Unharmed
      dsimp only
      by_cases notifying : monitor.task = some .notifying
      · rw [if_pos notifying, forall_prop_of_true notifying]
        cases ending with
        | returned => exact iff_of_true ((running_iff_of_some rfl).mpr rfl) rfl
        | raised =>
            refine iff_of_false (fun still => ?_) nofun
            cases (running_iff_of_some rfl).mp still
        | cancelled =>
            refine iff_of_false (fun still => ?_) nofun
            cases (running_iff_of_some rfl).mp still
      · rw [if_neg notifying]
        exact iff_of_true running fun own => absurd own notifying
  | wakes =>
      refine iff_of_true ?_ trivial
      unfold perform
      dsimp only
      split
      · exact (running_iff_of_some rfl).mpr rfl
      · exact running
  | reported healthy => exact iff_of_true running trivial

/-- **Health monitoring.** The loop goes on probing until `stop`, and healthy results end degraded
mode, throughout exactly those runs in which no callback that the loop awaits raises and no
probe is cancelled. -/
theorem monitoring_survives_iff (callbacks : HealthCallback → Bool)
    (failureThreshold recoveryThreshold : ℕ) (events : List MonitorEvent) :
    Throughout perform Watching (created callbacks failureThreshold recoveryThreshold) events ↔
      EachMeets perform Unharmed (created callbacks failureThreshold recoveryThreshold) events := by
  have fresh : (created callbacks failureThreshold recoveryThreshold).Recovering := by
    refine ⟨fun up => ?_, fun up => ?_⟩
    · cases up
    · cases up
  refine @throughout_iff_within _ _ perform Recovering Watching Unharmed
    (fun _ event recovering => recovering.perform event)
    (fun monitor event recovering watching => ?_) _ fresh ?_ events
  · rw [watching_iff (recovering.perform event)]
    exact running_perform_iff ((watching_iff recovering).mp watching) event
  · exact (watching_iff fresh).mpr ⟨nofun, nofun⟩

/-- An outage of three probes whose callback raises, and two healthy reports. -/
def silencedOutage : List MonitorEvent :=
  [.start, .probed (.returned false), .wakes, .probed .raised, .wakes, .probed (.returned false),
    .notified .raised, .start]

/-- The callback ends the loop, and the manager stays degraded. -/
theorem callback_ends_monitoring :
    ¬ ∀ (callbacks : HealthCallback → Bool) (failureThreshold recoveryThreshold : ℕ)
      (events : List MonitorEvent),
      Throughout perform Watching (created callbacks failureThreshold recoveryThreshold)
        events := by
  intro claim
  exact absurd ((claim (fun _ => true) 3 2 silencedOutage).last.alive .raised (by decide))
    (by decide)

end HealthMonitor

end Vcompany.Resilience
