import Vcompany.Foundation.Dict
import Vcompany.Foundation.PyValue
import Vcompany.Foundation.Transition
import Vcompany.Supervisor.ChildSpec

/-! # The wake scheduler

`_check_and_wake` goes through a copy of the schedule map. For each entry that is due it
waits for the lookup of the container, perhaps for its `wake`, and then writes a copy of
the entry, with a new wake time, back into the map. `add_schedule` and `remove_schedule`
change the map while it waits.

`throughout_obeyed_iff` gives the runs in which the map always holds what its callers asked
for last.
-/

namespace Vcompany.Supervisor

open Foundation

/-- Instants are in microseconds. -/
structure ScheduleEntry where
  agentId : Text
  intervalSeconds : ℤ
  nextWakeUtc : ℤ
  deriving DecidableEq

/-- The range of `datetime`. -/
def minInstant : ℤ := -62135596800000000

def maxInstant : ℤ := 253402300799999999

/-- `now + timedelta(seconds=interval_seconds)`. -/
def wakeTime (now intervalSeconds : ℤ) : Except PyExc ℤ :=
  let instant := now + intervalSeconds * 1000000
  if minInstant ≤ instant ∧ instant ≤ maxInstant then .ok instant else .error .other

abbrev Schedules := Dict Text ScheduleEntry

/-- Where a pass of `_check_and_wake` waits, with the entries that are left. -/
inductive WakePass where
  | idle
  /-- For `_find_container`. -/
  | finding (agentId : Text) (entry : ScheduleEntry) (rest : List (Text × ScheduleEntry)) (now : ℤ)
  /-- For `container.wake`. -/
  | waking (agentId : Text) (entry : ScheduleEntry) (rest : List (Text × ScheduleEntry)) (now : ℤ)
  /-- For `_persist`, in the `try` block or not. -/
  | persisting (guarded : Bool) (rest : List (Text × ScheduleEntry)) (now : ℤ)
  deriving DecidableEq

/-- The pass goes on to the next entry that is due. -/
def WakePass.next (now : ℤ) : List (Text × ScheduleEntry) → WakePass
  | [] => idle
  | (agentId, entry) :: rest =>
      if entry.nextWakeUtc ≤ now then finding agentId entry rest now else next now rest

/-- The schedules, the pass, and the interval that each agent's last `add_schedule` asked
for, until a `remove_schedule`. -/
structure Scheduler where
  schedules : Schedules
  pass : WakePass
  wished : Text → Option ℤ

/-- What the lookup of a container gives. -/
inductive Lookup where
  | raises
  | notFound
  | found (state : ContainerState)

inductive SchedulerEvent where
  | addSchedule (agentId : Text) (intervalSeconds now : ℤ)
  | removeSchedule (agentId : Text)
  | beginPass (now : ℤ)
  | lookedUp (lookup : Lookup)
  | woken (raises : Bool)
  | persisted (raises : Bool)
  /-- The task of the pass is cancelled. -/
  | cancelled

namespace Scheduler

/-- A scheduler that has loaded its schedules. -/
def loaded (schedules : Schedules) : Scheduler where
  schedules := schedules
  pass := .idle
  wished agentId := (schedules.get? agentId).map ScheduleEntry.intervalSeconds

/-- `add_schedule`, until it waits for the store. -/
def addSchedule (agentId : Text) (intervalSeconds now : ℤ) (scheduler : Scheduler) : Scheduler :=
  match wakeTime now intervalSeconds with
  | .error _ => scheduler
  | .ok nextWakeUtc =>
      { scheduler with
        schedules := scheduler.schedules.set agentId { agentId, intervalSeconds, nextWakeUtc }
        wished := Function.update scheduler.wished agentId (some intervalSeconds) }

/-- `remove_schedule`, until it waits for the store. -/
def removeSchedule (agentId : Text) (scheduler : Scheduler) : Scheduler :=
  { scheduler with
    schedules := scheduler.schedules.pop agentId
    wished := Function.update scheduler.wished agentId none }

/-- The pass writes the entry back with a new wake time, or the time is out of range. -/
def reschedule (agentId : Text) (entry : ScheduleEntry) (rest : List (Text × ScheduleEntry))
    (now : ℤ) (guarded : Bool) (scheduler : Scheduler) : Scheduler :=
  match wakeTime now entry.intervalSeconds with
  | .error _ => { scheduler with pass := if guarded then WakePass.next now rest else .idle }
  | .ok nextWakeUtc =>
      { scheduler with
        schedules := scheduler.schedules.set agentId { entry with nextWakeUtc }
        pass := .persisting guarded rest now }

/-- A turn of a pass or of a call. -/
def perform (scheduler : Scheduler) : SchedulerEvent → Scheduler
  | .addSchedule agentId intervalSeconds now => scheduler.addSchedule agentId intervalSeconds now
  | .removeSchedule agentId => scheduler.removeSchedule agentId
  | .beginPass now =>
      match scheduler.pass with
      | .idle => { scheduler with pass := WakePass.next now scheduler.schedules.entries }
      | _ => scheduler
  | .lookedUp lookup =>
      match scheduler.pass, lookup with
      | .finding _ _ _ _, .raises => { scheduler with pass := .idle }
      | .finding _ _ rest now, .notFound => { scheduler with pass := WakePass.next now rest }
      | .finding agentId entry rest now, .found state =>
          if state = .sleeping then { scheduler with pass := .waking agentId entry rest now }
          else scheduler.reschedule agentId entry rest now false
      | _, _ => scheduler
  | .woken raises =>
      match scheduler.pass with
      | .waking agentId entry rest now =>
          if raises then { scheduler with pass := WakePass.next now rest }
          else scheduler.reschedule agentId entry rest now true
      | _ => scheduler
  | .persisted raises =>
      match scheduler.pass with
      | .persisting guarded rest now =>
          if raises ∧ ¬ guarded then { scheduler with pass := .idle }
          else { scheduler with pass := WakePass.next now rest }
      | _ => scheduler
  | .cancelled => { scheduler with pass := .idle }

/-- The interval that the map holds for the agent. -/
def interval (scheduler : Scheduler) (agentId : Text) : Option ℤ :=
  (scheduler.schedules.get? agentId).map ScheduleEntry.intervalSeconds

/-- The map holds what its callers asked for last. -/
def Obeyed (scheduler : Scheduler) : Prop :=
  ∀ agentId, scheduler.interval agentId = scheduler.wished agentId

/-- The entry that the pass writes back in this turn. -/
def writesBack (scheduler : Scheduler) : SchedulerEvent → Option (Text × ScheduleEntry)
  | .lookedUp (.found state) =>
      match scheduler.pass with
      | .finding agentId entry _ now =>
          if state ≠ .sleeping ∧ (wakeTime now entry.intervalSeconds).isOk then
            some (agentId, entry)
          else none
      | _ => none
  | .woken false =>
      match scheduler.pass with
      | .waking agentId entry _ now =>
          if (wakeTime now entry.intervalSeconds).isOk then some (agentId, entry) else none
      | _ => none
  | _ => none

/-- The condition on the state before a turn: if the pass writes an entry back, then the
map still has an entry of the agent, with the same interval. -/
def Undisturbed (scheduler : Scheduler) (event : SchedulerEvent) : Prop :=
  ∀ agentId entry, scheduler.writesBack event = some (agentId, entry) →
    scheduler.interval agentId = some entry.intervalSeconds

variable {scheduler : Scheduler}

theorem loaded_obeyed (schedules : Schedules) : (loaded schedules).Obeyed := fun _ => rfl

theorem addSchedule_obeyed (obeyed : scheduler.Obeyed) (agentId : Text)
    (intervalSeconds now : ℤ) : (scheduler.addSchedule agentId intervalSeconds now).Obeyed := by
  unfold addSchedule
  rcases wakeTime now intervalSeconds with _ | nextWakeUtc
  · exact obeyed
  · intro agent
    unfold interval
    by_cases own : agent = agentId
    · simp [own]
    · dsimp only
      rw [Dict.get?_set_of_ne _ _ own, Function.update_of_ne own]
      exact obeyed agent

theorem removeSchedule_obeyed (obeyed : scheduler.Obeyed) (agentId : Text) :
    (scheduler.removeSchedule agentId).Obeyed := by
  intro agent
  unfold removeSchedule interval
  by_cases own : agent = agentId
  · simp [own]
  · dsimp only
    rw [Dict.get?_pop_of_ne _ own, Function.update_of_ne own]
    exact obeyed agent

/-- An entry may be written back while the map holds its interval. -/
theorem reschedule_obeyed_iff (obeyed : scheduler.Obeyed) (agentId : Text)
    (entry : ScheduleEntry) (rest : List (Text × ScheduleEntry)) (now : ℤ) (guarded : Bool) :
    (scheduler.reschedule agentId entry rest now guarded).Obeyed ↔
      ((wakeTime now entry.intervalSeconds).isOk = true →
        scheduler.interval agentId = some entry.intervalSeconds) := by
  unfold reschedule
  rcases wakeTime now entry.intervalSeconds with _ | nextWakeUtc
  · exact iff_of_true obeyed fun none => nomatch none
  · have inRange : (Except.ok nextWakeUtc : Except PyExc ℤ).isOk = true := rfl
    rw [forall_prop_of_true inRange, obeyed agentId]
    constructor
    · intro obeyed'
      have own := obeyed' agentId
      unfold interval at own
      simpa using own.symm
    · intro held agent
      unfold interval
      by_cases own : agent = agentId
      · simp [own, held]
      · dsimp only
        rw [Dict.get?_set_of_ne _ _ own]
        exact obeyed agent

theorem undisturbed_iff {event : SchedulerEvent} {agentId : Text} {entry : ScheduleEntry}
    {writes : Prop} [Decidable writes]
    (back : scheduler.writesBack event = if writes then some (agentId, entry) else none) :
    scheduler.Undisturbed event ↔
      (writes → scheduler.interval agentId = some entry.intervalSeconds) := by
  unfold Undisturbed
  rw [back]
  by_cases now : writes
  · simp [now]
  · simp [now]

theorem undisturbed_of_none {event : SchedulerEvent} (silent : scheduler.writesBack event = none) :
    scheduler.Undisturbed event := by
  intro agentId entry writes
  rw [silent] at writes
  cases writes

private theorem obeyed_lookedUp_iff (obeyed : scheduler.Obeyed) (lookup : Lookup) :
    (scheduler.perform (.lookedUp lookup)).Obeyed ↔ scheduler.Undisturbed (.lookedUp lookup) := by
  obtain ⟨schedules, pass, wished⟩ := scheduler
  cases lookup with
  | raises => cases pass <;> exact iff_of_true obeyed (undisturbed_of_none rfl)
  | notFound => cases pass <;> exact iff_of_true obeyed (undisturbed_of_none rfl)
  | found state =>
      cases pass with
      | finding agentId entry rest now =>
          refine Iff.trans ?_ (undisturbed_iff rfl).symm
          change (ite _ _ _ : Scheduler).Obeyed ↔ _
          by_cases asleep : state = .sleeping
          · rw [if_pos asleep]
            exact iff_of_true obeyed fun ⟨awake, _⟩ => absurd asleep awake
          · rw [if_neg asleep, reschedule_obeyed_iff obeyed]
            exact ⟨fun held ⟨_, inRange⟩ => held inRange,
              fun held inRange => held ⟨asleep, inRange⟩⟩
      | idle => exact iff_of_true obeyed (undisturbed_of_none rfl)
      | waking => exact iff_of_true obeyed (undisturbed_of_none rfl)
      | persisting => exact iff_of_true obeyed (undisturbed_of_none rfl)

private theorem obeyed_woken_iff (obeyed : scheduler.Obeyed) (raises : Bool) :
    (scheduler.perform (.woken raises)).Obeyed ↔ scheduler.Undisturbed (.woken raises) := by
  obtain ⟨schedules, pass, wished⟩ := scheduler
  cases raises with
  | true => cases pass <;> exact iff_of_true obeyed (undisturbed_of_none rfl)
  | false =>
      cases pass with
      | waking agentId entry rest now =>
          exact (reschedule_obeyed_iff obeyed agentId entry rest now true).trans
            (undisturbed_iff rfl).symm
      | idle => exact iff_of_true obeyed (undisturbed_of_none rfl)
      | finding => exact iff_of_true obeyed (undisturbed_of_none rfl)
      | persisting => exact iff_of_true obeyed (undisturbed_of_none rfl)

/-- **One turn.** The map holds what its callers asked for last exactly under the condition
on the state before the turn. -/
theorem obeyed_perform_iff (obeyed : scheduler.Obeyed) (event : SchedulerEvent) :
    (scheduler.perform event).Obeyed ↔ scheduler.Undisturbed event := by
  cases event with
  | addSchedule agentId intervalSeconds now =>
      exact iff_of_true (addSchedule_obeyed obeyed agentId intervalSeconds now)
        (undisturbed_of_none rfl)
  | removeSchedule agentId =>
      exact iff_of_true (removeSchedule_obeyed obeyed agentId) (undisturbed_of_none rfl)
  | beginPass now =>
      refine iff_of_true ?_ (undisturbed_of_none rfl)
      unfold perform
      cases scheduler.pass <;> exact obeyed
  | lookedUp lookup => exact obeyed_lookedUp_iff obeyed lookup
  | woken raises => exact obeyed_woken_iff obeyed raises
  | persisted raises =>
      refine iff_of_true ?_ (undisturbed_of_none rfl)
      unfold perform
      cases scheduler.pass with
      | persisting guarded rest now =>
          dsimp only
          split <;> exact obeyed
      | _ => exact obeyed
  | cancelled => exact iff_of_true obeyed (undisturbed_of_none rfl)

end Scheduler

/-- **The callers' schedules.** From any loaded schedules, the map always holds what its
callers asked for last exactly if, in every turn in which the pass writes an entry back,
the map has an entry of that agent with that interval. -/
theorem throughout_obeyed_iff (schedules : Schedules) (events : List SchedulerEvent) :
    Throughout Scheduler.perform Scheduler.Obeyed (.loaded schedules) events ↔
      EachMeets Scheduler.perform Scheduler.Undisturbed (.loaded schedules) events :=
  @throughout_iff _ _ _ Scheduler.Obeyed _
    (fun _ event obeyed => Scheduler.obeyed_perform_iff obeyed event) _
    (Scheduler.loaded_obeyed schedules) events

/-- A schedule that is removed while its agent wakes up is back afterwards. -/
theorem removed_schedule_returns : ¬ ∀ (schedules : Schedules) (events : List SchedulerEvent),
    Throughout Scheduler.perform Scheduler.Obeyed (.loaded schedules) events := by
  intro always
  have obeyed := (always .empty [.addSchedule "pm" 60 0, .beginPass 60000000,
    .lookedUp (.found .sleeping), .removeSchedule "pm", .woken false]).2.2.2.2.2
  exact absurd (obeyed "pm") (by decide)

end Vcompany.Supervisor
