import Vcompany.Foundation.Coroutine
import Vcompany.Foundation.Dict
import Vcompany.Foundation.Transition
import Vcompany.Supervisor.FailureHandling

/-! # A supervisor and its monitor tasks

A supervisor stops and starts children, and has a monitor task for each child that it has
started. A monitor runs restart code: what its parts await, a child's `stop`, `_start_child` and
the callbacks, ends in any way here. Where a monitor in `_tasks` awaits one of these while
something else happens, it is known by how it ends if it is cancelled there. What goes on outside
`_tasks`, which nothing cancels, is known by the calls that it has still to make. The signal
router's table, from which `stop` drops the children, is left out.

Whatever the code does to the supervisor is made up of a few changes (`Touch`).
-/

namespace Vcompany.Supervisor

open Foundation Resilience

/-- A monitor task in `_tasks`. -/
inductive MonitorTask where
  /-- It waits for its event. -/
  | waiting
  /-- It handles a failure, and ends so if it is cancelled; with `none` it does not end. -/
  | handling (onCancel : Option Ending)
  /-- It is the task that runs now. -/
  | current
  | ended (ending : Ending)
  deriving DecidableEq

namespace MonitorTask

/-- How `await task` ends once the task is cancelled. -/
def whenCancelled : MonitorTask → Option Ending
  | waiting => some .cancelled
  | handling onCancel => onCancel
  | current => some .cancelled
  | ended ending => some ending

def isPending : MonitorTask → Bool
  | waiting | handling _ => true
  | current | ended _ => false

/-- The task that runs, once what it does has come to the end. -/
def after : Option Ending → MonitorTask
  | some .returned => waiting
  | some ending => ended ending
  | none => handling none

/-- The task once it is cancelled and has run on. -/
def cancel : MonitorTask → MonitorTask
  | waiting => ended .cancelled
  | handling (some ending) => ended ending
  | handling none => handling none
  | current => current
  | ended ending => ended ending

end MonitorTask

/-- The `await`s on the cancelled tasks, with `except CancelledError: pass`. A task that has
cancelled itself gets that at its first `await` that waits, and cannot await itself after it. -/
def awaitTasks (interrupted : Bool) : List MonitorTask → Option Ending
  | [] => some .returned
  | .current :: tasks => if interrupted then some .raised else awaitTasks interrupted tasks
  | task :: tasks =>
      match task.whenCancelled with
      | some .raised => some .raised
      | none => none
      | _ => awaitTasks (interrupted || task.isPending) tasks

/-- How a child's `stop` ends, and the state that it leaves the child in. -/
abbrev ChildStop := Ending × ContainerState

/-- What a call of `_start_child` does: the state of the child that it has entered, if one,
whether it has created a monitor, and how it ends. -/
structure ChildStart where
  child : Option ContainerState
  monitored : Bool
  ending : Ending

/-- How what the handling of a failure awaits ends. -/
structure Surroundings where
  stops : Text → ChildStop
  starts : Text → ChildStart
  /-- The callback, or the parent, that an escalation or an outage is told to. -/
  notified : Ending

/-- A call that a restart, `start` or `add_child_spec` awaits. -/
inductive AwaitedCall where
  /-- The stop of the child that `_restart_one` restarts. -/
  | stop (spec : ChildSpec)
  /-- The stop of a child in `_restart_all` or `_restart_rest`, and of its monitor. -/
  | retire (spec : ChildSpec)
  | start (spec : ChildSpec)

/-- The specification that the call is about. -/
def AwaitedCall.spec : AwaitedCall → ChildSpec
  | .stop spec | .retire spec | .start spec => spec

inductive ErrandKind where
  | restartOne
  | restartRange
  | start
  | add
  deriving DecidableEq

/-- Calls that are awaited one after the other. An open errand goes through the list of the
specifications itself, and comes to those that join it. -/
structure Errand where
  kind : ErrandKind
  calls : List AwaitedCall
  isOpen : Bool

/-- A supervisor with its monitor tasks; `loose` is what waits in a call outside `_tasks`. -/
structure Supervised where
  core : SupervisorState
  tasks : Dict Text MonitorTask
  restarting : Bool
  loose : List Errand

namespace Supervised

/-- The child comes to a state, and its callback sets its event. -/
def report (childId : Text) (state : ContainerState) (sup : Supervised) : Supervised :=
  { sup with
    core := { sup.core with
      children := Function.update sup.core.children childId (some state)
      childEvents :=
        if sup.restarting = false ∧ state ∈ [ContainerState.errored, .stopped, .stopping] then
          insert childId sup.core.childEvents
        else sup.core.childEvents } }

/-- The monitor is in the state. -/
def note (childId : Text) (task : MonitorTask) (sup : Supervised) : Supervised :=
  { sup with tasks := sup.tasks.set childId task }

/-- `await child.stop()`, unless the child has stopped. -/
def stopChild (stops : Text → ChildStop) (childId : Text) (sup : Supervised) :
    Outcome Supervised :=
  match sup.core.children childId with
  | none => .done sup
  | some state =>
      if state.isLive then ⟨some (stops childId).1, sup.report childId (stops childId).2⟩
      else .done sup

/-- The child that a call of `_start_child` has entered. -/
def enter (start : ChildStart) (childId : Text) (sup : Supervised) : Supervised :=
  match start.child with
  | none => sup
  | some state => sup.report childId state

/-- The monitor that a call of `_start_child` has created, with a new event. -/
def watch (start : ChildStart) (childId : Text) (sup : Supervised) : Supervised :=
  if start.monitored then
    { sup.note childId .waiting with
      core := { sup.core with childEvents := sup.core.childEvents.erase childId } }
  else sup

/-- `_start_child`. -/
def startChild (start : ChildStart) (spec : ChildSpec) (sup : Supervised) : Outcome Supervised :=
  ⟨some start.ending, (sup.enter start spec.childId).watch start spec.childId⟩

/-- A monitor is taken out of `_tasks`, cancelled and awaited. One that does this to itself
gets its cancellation there. -/
def popTask (childId : Text) (sup : Supervised) : Outcome Supervised :=
  match sup.tasks.get? childId with
  | none => .done sup
  | some task =>
      let popped := { sup with tasks := sup.tasks.pop childId }
      match task.whenCancelled with
      | some .raised => ⟨some .raised, popped⟩
      | none => ⟨none, popped⟩
      | _ => .done popped

/-- `_restart_one`. -/
def restartOne (env : Surroundings) (spec : ChildSpec) (sup : Supervised) : Outcome Supervised :=
  (sup.stopChild env.stops spec.childId).andThen (startChild (env.starts spec.childId) spec)

/-- The body of `_restart_all`, for all the specifications, and of `_restart_rest`, for the
failed one and those behind it. -/
def restartRange (env : Surroundings) (specs : List ChildSpec) (sup : Supervised) :
    Outcome Supervised :=
  ((Outcome.forEach (fun spec (sup : Supervised) =>
      (sup.stopChild env.stops spec.childId).andThen (popTask spec.childId))
      specs.reverse { sup with restarting := true }).andThen
    (Outcome.forEach (fun spec => startChild (env.starts spec.childId) spec) specs)).ensure
      ({ · with restarting := false })

/-- The tasks are cancelled, all of them, and awaited. -/
def cancelTasks (sup : Supervised) : Outcome Supervised :=
  ⟨awaitTasks false sup.tasks.values,
    { sup with tasks := sup.tasks.filterMap fun entry => some entry.2.cancel }⟩

/-- `_escalate`. -/
def escalate (env : Surroundings) (sup : Supervised) : Outcome Supervised :=
  (((Outcome.forEach (fun spec (sup : Supervised) =>
      (sup.stopChild env.stops spec.childId).caught)
      sup.core.childSpecs.reverse { sup with restarting := true }).andThen cancelTasks).andThen
    fun sup => .done { sup with tasks := .empty }).andThen
      fun sup => ⟨some env.notified,
        { sup with core := { sup.core with running := false }, restarting := false }⟩

/-- The strategy's restart for the failure. -/
def restart (env : Surroundings) (spec : ChildSpec) (sup : Supervised) : Outcome Supervised :=
  match sup.core.strategy with
  | .oneForOne => sup.restartOne env spec
  | .allForOne => sup.restartRange env sup.core.childSpecs
  | .restForOne =>
      sup.restartRange env
        (sup.core.childSpecs.dropWhile fun other => other.childId ≠ spec.childId)

/-- The part of `_handle_child_failure` after the detection of outages. -/
def applyPolicy (clock : FailureClock) (env : Surroundings) (failedId : Text)
    (sup : Supervised) : Outcome Supervised :=
  match sup.core.getSpec failedId, sup.core.children failedId with
  | some spec, some state =>
      if spec.restartPolicy = .temporary then .done sup
      else if spec.restartPolicy = .transient ∧ state ≠ .errored then .done sup
      else
        match sup.core.restartTracker.allowRestart clock.checkedAt clock.restartedAt with
        | (restartTracker, false) =>
            escalate env { sup with core := { sup.core with restartTracker } }
        | (restartTracker, true) =>
            restart env spec { sup with core := { sup.core with restartTracker } }
  | _, _ => .done sup

/-- `_handle_child_failure`; the owner is told of an outage. -/
def handleChildFailure (clock : FailureClock) (env : Surroundings) (failedId : Text)
    (sup : Supervised) : Outcome Supervised :=
  match sup.core.bulkDetector with
  | none => sup.applyPolicy clock env failedId
  | some detector =>
      if detector.inBackoff then .done sup
      else
        match detector.recordFailure clock.purgedAt clock.failedAt failedId with
        | (detector, true) =>
            ⟨some env.notified, { sup with core := { sup.core with
              bulkDetector := some detector
              resetting := decide (env.notified = .returned) } }⟩
        | (detector, false) =>
            applyPolicy clock env failedId
              { sup with core := { sup.core with bulkDetector := some detector } }

/-- The failure is handled by the child's monitor. -/
def handled (clock : FailureClock) (env : Surroundings) (childId : Text) (sup : Supervised) :
    Outcome Supervised :=
  (sup.note childId .current).handleChildFailure clock env childId

/-- The monitor goes on, or ends, if it is still in `_tasks`. -/
def leave (childId : Text) (outcome : Outcome Supervised) : Supervised :=
  match outcome.state.tasks.get? childId with
  | some .current => outcome.state.note childId (.after outcome.ending)
  | _ => outcome.state

/-- The monitor clears its event. -/
def clear (childId : Text) (sup : Supervised) : Supervised :=
  { sup with core := { sup.core with childEvents := sup.core.childEvents.erase childId } }

/-- The body of the loop of `_monitor_child` for an event. -/
def monitor (clock : FailureClock) (env : Surroundings) (childId : Text) (sup : Supervised) :
    Supervised :=
  match sup.core.children childId with
  | some .errored => leave childId ((sup.clear childId).handled clock env childId)
  | none | some .stopped | some .destroyed => (sup.clear childId).note childId (.ended .returned)
  | _ => sup.clear childId

/-- The loop of `stop` over the specifications, in the order in which it comes to them, with the
children that `stop` was called on. -/
def stopChildren (stops : Text → ChildStop) :
    List ChildSpec → Supervised → List Text × Outcome Supervised
  | [], sup => ([], .done sup)
  | spec :: specs, sup =>
      match sup.core.children spec.childId with
      | none => stopChildren stops specs sup
      | some state =>
          if state.isLive then
            let stopped := (sup.stopChild stops spec.childId).caught
            match stopped.ending with
            | some .returned =>
                let (calls, outcome) := stopChildren stops specs stopped.state
                (spec.childId :: calls, outcome)
            | _ => ([spec.childId], stopped)
          else stopChildren stops specs sup

/-- `stop`, with the children that it has called `stop` on. -/
def stop (stops : Text → ChildStop) (sup : Supervised) : List Text × Outcome Supervised :=
  let awaited := { sup with restarting := true }.cancelTasks
  match awaited.ending with
  | some .returned =>
      let (calls, outcome) := stopChildren stops sup.core.childSpecs.reverse
        { awaited.state with tasks := .empty }
      (calls, outcome.andThen fun sup =>
        .done { sup with core := { sup.core with running := false }, restarting := false })
  | _ => ([], awaited)

/-- `Supervisor(strategy, child_specs, …)`. -/
def new (strategy : RestartStrategy) (childSpecs : List ChildSpec)
    (restartTracker : RestartTracker) : Supervised where
  core := { SupervisorState.started strategy childSpecs restartTracker with
    children := fun _ => none
    running := false }
  tasks := .empty
  restarting := false
  loose := []

end Supervised

/-- What comes to wait in a call outside `_tasks`. -/
inductive Departure where
  /-- The child's monitor, in a restart that has taken it out of `_tasks`. -/
  | monitor (childId : Text) (clock : FailureClock)
  /-- A former monitor of the child, or the child, a supervisor that escalates. -/
  | handler (childId : Text) (clock : FailureClock)
  | start
  | add (spec : ChildSpec)

inductive SupervisedEvent where
  /-- `start`. -/
  | starts (starts : Text → ChildStart)
  /-- `add_child_spec`, or a delegation that is granted. -/
  | adds (spec : ChildSpec) (start : ChildStart)
  /-- `remove_child`. -/
  | removes (childId : Text) (stops : Text → ChildStop)
  /-- A child changes its state by itself. -/
  | reports (childId : Text) (state : ContainerState)
  /-- A monitor finds that its child is not alive, and `error` ends so. -/
  | checks (childId : Text) (errs : ChildStop)
  /-- A monitor comes to wait in the handling of a failure. -/
  | begins (childId : Text) (onCancel : Option Ending)
  /-- A monitor is woken by its event, or ends the handling in which it waited. -/
  | wakes (childId : Text) (clock : FailureClock) (env : Surroundings)
  /-- A child that is a supervisor escalates. -/
  | escalates (childId : Text) (clock : FailureClock) (env : Surroundings)
  /-- The timer of the backoff fires. -/
  | backoffExpires
  /-- Something comes to wait outside `_tasks`, behind so many of its calls. -/
  | departs (departure : Departure) (env : Surroundings) (count : ℕ)
  /-- What waits outside `_tasks` goes on behind the call, and so many more. -/
  | proceeds (index : ℕ) (env : Surroundings) (count : ℕ)
  | stops (stops : Text → ChildStop)

namespace Supervised

/-- `start`. -/
def start (starts : Text → ChildStart) (sup : Supervised) : Outcome Supervised :=
  (Outcome.forEach (fun spec => startChild (starts spec.childId) spec)
    sup.core.childSpecs sup).andThen
      fun sup => .done { sup with core := { sup.core with running := true } }

/-- The specification joins the list, and what goes through it. -/
def append (spec : ChildSpec) (sup : Supervised) : Supervised :=
  { sup with
    core := { sup.core with childSpecs := sup.core.childSpecs ++ [spec] }
    loose := sup.loose.map fun errand =>
      if errand.isOpen then { errand with calls := errand.calls ++ [.start spec] } else errand }

/-- `add_child_spec`. -/
def addChildSpec (spec : ChildSpec) (start : ChildStart) (sup : Supervised) :
    Outcome Supervised :=
  startChild start spec (sup.append spec)

/-- `remove_child`. -/
def removeChild (childId : Text) (stops : Text → ChildStop) (sup : Supervised) :
    Outcome Supervised :=
  (sup.stopChild stops childId).andThen fun sup =>
    -- a new list, which what goes through the old one does not see
    .done { sup with
      core := { sup.core with
        childSpecs := sup.core.childSpecs.filter fun spec => spec.childId ≠ childId }
      loose := sup.loose.map fun errand => { errand with isOpen := false } }

/-- A call is awaited. -/
def call (env : Surroundings) : AwaitedCall → Supervised → Outcome Supervised
  | .stop spec, sup => sup.stopChild env.stops spec.childId
  | .retire spec, sup => (sup.stopChild env.stops spec.childId).andThen (popTask spec.childId)
  | .start spec, sup => startChild (env.starts spec.childId) spec sup

/-- The strategy's restart for the failure of a child. -/
def restartErrand (spec : ChildSpec) (sup : Supervised) : Errand :=
  let range (specs : List ChildSpec) (isOpen : Bool) : Errand :=
    ⟨.restartRange, specs.reverse.map .retire ++ specs.map .start, isOpen⟩
  match sup.core.strategy with
  | .oneForOne => ⟨.restartOne, [.stop spec, .start spec], false⟩
  | .allForOne => range sup.core.childSpecs true
  | .restForOne =>
      range (sup.core.childSpecs.dropWhile fun other => other.childId ≠ spec.childId) false

/-- The errand begins; a restart of several children suppresses callbacks. -/
def enterErrand (errand : Errand) (sup : Supervised) : Supervised :=
  if errand.kind = .restartRange then { sup with restarting := true } else sup

/-- The `finally` of the errand. -/
def exitErrand (errand : Errand) (sup : Supervised) : Supervised :=
  if errand.kind = .restartRange then { sup with restarting := false } else sup

/-- The errand has made its calls. -/
def finishErrand (errand : Errand) (sup : Supervised) : Supervised :=
  if errand.kind = .start then { sup with core := { sup.core with running := true } }
  else sup.exitErrand errand

/-- The restart by which a failure is answered, with the supervisor at its beginning. -/
def restartFor (clock : FailureClock) (failedId : Text) (sup : Supervised) :
    Option (Supervised × Errand) :=
  match sup.core.handleChildFailure clock failedId with
  | (core, .restarts) =>
      (core.getSpec failedId).map fun spec =>
        ({ sup with core }, restartErrand spec { sup with core })
  | _ => none

/-- The errand that something is about, with the supervisor at its beginning. -/
def errandOf (sup : Supervised) : Departure → Option (Supervised × Errand)
  | .monitor childId clock =>
      match sup.tasks.get? childId with
      | some .waiting =>
          if childId ∈ sup.core.childEvents ∧ sup.core.children childId = some .errored then
            ((sup.clear childId).note childId .current).restartFor clock childId
          else none
      | some (.handling _) => (sup.note childId .current).restartFor clock childId
      | _ => none
  | .handler childId clock => sup.restartFor clock childId
  | .start => some (sup, ⟨.start, sup.core.childSpecs.map .start, true⟩)
  | .add spec => some (sup.append spec, ⟨.add, [.start spec], false⟩)

/-- It is not, or no longer, in `_tasks`. -/
def HasLeft (sup : Supervised) : Departure → Prop
  | .monitor childId _ => sup.tasks.get? childId ≠ some .current
  | _ => True

instance (sup : Supervised) : ∀ departure, Decidable (sup.HasLeft departure)
  | .monitor childId _ => inferInstanceAs (Decidable (sup.tasks.get? childId ≠ some .current))
  | .handler _ _ => isTrue trivial
  | .start => isTrue trivial
  | .add _ => isTrue trivial

/-- The supervisor once something waits outside `_tasks`, if it comes to that. -/
def depart (departure : Departure) (env : Surroundings) (count : ℕ) (sup : Supervised) :
    Option Supervised :=
  match sup.errandOf departure with
  | none => none
  | some (begun, errand) =>
      let outcome := Outcome.forEach (call env) (errand.calls.take count)
        (begun.enterErrand errand)
      if count < errand.calls.length ∧ outcome.ending = some .returned ∧
          outcome.state.HasLeft departure then
        some { outcome.state with
          loose := outcome.state.loose ++ [{ errand with calls := errand.calls.drop count }] }
      else none

/-- What waits outside `_tasks` goes on. -/
def proceed (index : ℕ) (env : Surroundings) (count : ℕ) (sup : Supervised) : Supervised :=
  match sup.loose[index]? with
  | none => sup
  | some errand =>
      let outcome := Outcome.forEach (call env) (errand.calls.take (count + 1))
        { sup with loose := sup.loose.eraseIdx index }
      match outcome.ending, errand.calls.drop (count + 1) with
      | some .returned, [] => outcome.state.finishErrand errand
      | some .returned, calls =>
          { outcome.state with loose := outcome.state.loose ++ [{ errand with calls }] }
      | _, _ => outcome.state.exitErrand errand

/-- A step of the supervisor. An event that cannot happen in the state changes nothing. -/
def perform (sup : Supervised) : SupervisedEvent → Supervised
  | .starts starts => (sup.start starts).state
  | .adds spec start => (sup.addChildSpec spec start).state
  | .removes childId stops => (sup.removeChild childId stops).state
  | .reports childId state =>
      match sup.core.children childId with
      | none => sup
      | some _ => sup.report childId state
  | .checks childId errs =>
      if sup.tasks.get? childId = some .waiting ∧ sup.core.children childId = some .running then
        leave childId ⟨some errs.1, (sup.note childId .current).report childId errs.2⟩
      else sup
  | .begins childId onCancel =>
      if sup.tasks.get? childId = some .waiting ∧ childId ∈ sup.core.childEvents ∧
          sup.core.children childId = some .errored then
        (sup.clear childId).note childId (.handling onCancel)
      else sup
  | .wakes childId clock env =>
      match sup.tasks.get? childId with
      | some .waiting =>
          if childId ∈ sup.core.childEvents then sup.monitor clock env childId else sup
      | some (.handling _) => leave childId (sup.handled clock env childId)
      | _ => sup
  | .escalates childId clock env => (sup.handleChildFailure clock env childId).state
  | .backoffExpires =>
      if sup.core.resetting then
        { sup with core := { sup.core with
          bulkDetector := sup.core.bulkDetector.map fun detector =>
            detector.escalateBackoff.resetBackoff
          resetting := false } }
      else sup
  | .departs departure env count => (sup.depart departure env count).getD sup
  | .proceeds index env count => sup.proceed index env count
  | .stops stops => (sup.stop stops).2.state

/-! ## What the code changes -/

/-- The child has not stopped. -/
def Live (sup : Supervised) (childId : Text) : Prop :=
  ∃ state, sup.core.children childId = some state ∧ state.isLive = true

/-- The tasks meet a condition. -/
def Tasks (meets : Text → MonitorTask → Prop) (sup : Supervised) : Prop :=
  ∀ childId task, sup.tasks.get? childId = some task → meets childId task

/-- The specifications are these, and every child that has not stopped has one. -/
def Listed (specs : List ChildSpec) (sup : Supervised) : Prop :=
  sup.core.childSpecs = specs ∧
    ∀ childId, sup.Live childId → childId ∈ specs.map ChildSpec.childId

/-- What the supervisor's code does to it, with these specifications, in one go. -/
inductive Touch (specs : List ChildSpec) : Supervised → Supervised → Prop where
  | reported (sup : Supervised) {childId : Text} (listed : childId ∈ specs.map ChildSpec.childId)
      (state : ContainerState) : Touch specs sup (sup.report childId state)
  | watched (sup : Supervised) (childId : Text) : Touch specs sup (sup.note childId .waiting)
  | popped (sup : Supervised) (childId : Text) :
      Touch specs sup { sup with tasks := sup.tasks.pop childId }
  | cancelled (sup : Supervised) : Touch specs sup sup.cancelTasks.state
  | cleared (sup : Supervised) : Touch specs sup { sup with tasks := .empty }
  | turned {sup next : Supervised} (children : next.core.children = sup.core.children)
      (childSpecs : next.core.childSpecs = sup.core.childSpecs) (tasks : next.tasks = sup.tasks)
      (loose : next.loose = sup.loose) : Touch specs sup next

variable {specs : List ChildSpec} {sup next : Supervised} {childId : Text}
  {meets : Text → MonitorTask → Prop}

theorem Tasks.note (kept : sup.Tasks meets) {task : MonitorTask} (own : meets childId task) :
    (sup.note childId task).Tasks meets := by
  intro other found isTask
  rcases Dict.get?_set_eq_some_iff.mp isTask with ⟨rfl, rfl⟩ | ⟨-, isTask⟩
  · exact own
  · exact kept other found isTask

/-- New tasks meet the condition, and a task that meets it does so when it is cancelled. -/
structure Lasting (meets : Text → MonitorTask → Prop) : Prop where
  waiting : ∀ childId, meets childId .waiting
  cancel : ∀ childId task, meets childId task → meets childId task.cancel

theorem Touch.tasks (touch : Touch specs sup next) (lasting : Lasting meets)
    (kept : sup.Tasks meets) : next.Tasks meets := by
  cases touch with
  | reported listed state => exact kept
  | watched childId => exact kept.note (lasting.waiting childId)
  | popped childId =>
      intro other task found
      by_cases own : other = childId
      · subst own
        rw [Dict.get?_pop_self] at found
        cases found
      · exact kept other task ((Dict.get?_pop_of_ne _ own).symm.trans found)
  | cancelled =>
      intro other task found
      obtain ⟨before, isTask, cancelled⟩ := Dict.get?_filterMap_eq_some_iff.mp found
      obtain rfl := Option.some.inj cancelled
      exact lasting.cancel other before (kept other before isTask)
  | cleared => exact fun _ _ found => nomatch found
  | turned children childSpecs tasks loose =>
      unfold Tasks
      rw [tasks]
      exact kept

theorem live_report_iff {state : ContainerState} {other : Text} :
    (sup.report childId state).Live other ↔
      if other = childId then state.isLive = true else sup.Live other := by
  unfold Live report
  dsimp only
  by_cases own : other = childId
  · subst own
    rw [Function.update_self, if_pos rfl]
    constructor
    · rintro ⟨_, ⟨⟩, live⟩
      exact live
    · exact fun live => ⟨state, rfl, live⟩
  · rw [Function.update_of_ne own, if_neg own]

theorem Listed.report (listed : sup.Listed specs) {state : ContainerState}
    (own : state.isLive = true → childId ∈ specs.map ChildSpec.childId) :
    (sup.report childId state).Listed specs := by
  refine ⟨listed.1, fun other live => ?_⟩
  rw [live_report_iff] at live
  split at live
  · next same => exact same ▸ own live
  · exact listed.2 other live

theorem Touch.listed (touch : Touch specs sup next) (kept : sup.Listed specs) :
    next.Listed specs := by
  cases touch with
  | reported listed state => exact kept.report fun _ => listed
  | turned children childSpecs tasks loose =>
      refine ⟨childSpecs.trans kept.1, fun childId live => kept.2 childId ?_⟩
      obtain ⟨state, found, live⟩ := live
      exact ⟨state, children ▸ found, live⟩
  | _ => exact kept

theorem Touch.loose (touch : Touch specs sup next) : next.loose = sup.loose := by
  cases touch with
  | turned children childSpecs tasks loose => exact loose
  | _ => rfl

/-- What the code leaves is reached in such changes. -/
abbrev Touches (specs : List ChildSpec) : Supervised → Outcome Supervised → Prop :=
  Outcome.Follows (Touch specs)

theorem touches_single {outcome : Outcome Supervised} (touch : Touch specs sup outcome.state) :
    Touches specs sup outcome :=
  .single touch

theorem Touches.after {outcome : Outcome Supervised} (touches : Touches specs next outcome)
    (touch : Touch specs sup next) : Touches specs sup outcome :=
  .head touch touches

theorem touches_stopChild (stops : Text → ChildStop) (sup : Supervised)
    (listed : childId ∈ specs.map ChildSpec.childId) :
    Touches specs sup (sup.stopChild stops childId) := by
  unfold stopChild
  split
  · exact Outcome.follows_done _ sup
  · split
    · exact touches_single (.reported sup listed _)
    · exact Outcome.follows_done _ sup

theorem touches_startChild (start : ChildStart) {spec : ChildSpec} (sup : Supervised)
    (member : spec ∈ specs) : Touches specs sup (startChild start spec sup) := by
  have entered : Relation.ReflTransGen (Touch specs) sup (sup.enter start spec.childId) := by
    unfold enter
    split
    · exact .refl
    · exact .single (.reported sup (List.mem_map_of_mem member) _)
  refine entered.trans ?_
  change Relation.ReflTransGen _ _ ((sup.enter start spec.childId).watch start spec.childId)
  unfold watch
  split
  · exact .tail (.single (.watched _ spec.childId)) (.turned rfl rfl rfl rfl)
  · exact .refl

theorem touches_popTask (childId : Text) (sup : Supervised) :
    Touches specs sup (sup.popTask childId) := by
  unfold popTask
  split
  · exact Outcome.follows_done _ sup
  · dsimp only
    split <;> exact touches_single (.popped sup childId)

theorem touches_call (env : Surroundings) {call : AwaitedCall} (sup : Supervised)
    (member : call.spec ∈ specs) : Touches specs sup (Supervised.call env call sup) := by
  cases call with
  | stop spec => exact touches_stopChild env.stops sup (List.mem_map_of_mem member)
  | retire spec =>
      exact (touches_stopChild env.stops sup (List.mem_map_of_mem member)).andThen
        (touches_popTask spec.childId)
  | start spec => exact touches_startChild _ sup member

/-- Whatever the calls are about, what they leave is reached in such changes. -/
theorem touches_calls (env : Surroundings) (calls : List AwaitedCall) (sup : Supervised) :
    Touches (calls.map AwaitedCall.spec) sup (Outcome.forEach (call env) calls sup) :=
  Outcome.follows_forEach fun _ member sup => touches_call env sup (List.mem_map_of_mem member)

theorem touches_restartOne (env : Surroundings) {spec : ChildSpec} (sup : Supervised)
    (member : spec ∈ specs) : Touches specs sup (sup.restartOne env spec) :=
  (touches_stopChild env.stops sup (List.mem_map_of_mem member)).andThen fun sup =>
    touches_startChild _ sup member

theorem touches_restartRange (env : Surroundings) {range : List ChildSpec} (sup : Supervised)
    (within : range ⊆ specs) : Touches specs sup (sup.restartRange env range) := by
  have suppressed : Relation.ReflTransGen (Touch specs) sup { sup with restarting := true } :=
    .single (.turned rfl rfl rfl rfl)
  refine suppressed.trans ?_
  refine Outcome.Follows.ensure (.andThen (Outcome.follows_forEach ?_) fun sup =>
    Outcome.follows_forEach ?_) fun sup => .turned rfl rfl rfl rfl
  · intro spec member sup
    have listed : spec.childId ∈ specs.map ChildSpec.childId :=
      List.mem_map_of_mem (within (List.mem_reverse.mp member))
    exact (touches_stopChild env.stops sup listed).andThen (touches_popTask spec.childId)
  · exact fun spec member sup => touches_startChild _ sup (within member)

theorem touches_escalate (env : Surroundings) (sup : Supervised) :
    Touches sup.core.childSpecs sup (sup.escalate env) := by
  have suppressed : Relation.ReflTransGen (Touch sup.core.childSpecs) sup
      { sup with restarting := true } := .single (.turned rfl rfl rfl rfl)
  refine suppressed.trans ?_
  refine Outcome.Follows.andThen (.andThen (.andThen (Outcome.follows_forEach ?_) ?_) ?_) ?_
  · intro spec member sup'
    exact (touches_stopChild env.stops sup'
      (List.mem_map_of_mem (List.mem_reverse.mp member))).caught
  · exact fun sup => touches_single (.cancelled sup)
  · exact fun sup => touches_single (.cleared sup)
  · exact fun sup => touches_single (.turned rfl rfl rfl rfl)

theorem touches_restart (env : Surroundings) {spec : ChildSpec} (sup : Supervised)
    (member : spec ∈ sup.core.childSpecs) :
    Touches sup.core.childSpecs sup (sup.restart env spec) := by
  unfold restart
  cases sup.core.strategy with
  | oneForOne => exact touches_restartOne env sup member
  | allForOne => exact touches_restartRange env sup (List.Subset.refl _)
  | restForOne => exact touches_restartRange env sup (List.dropWhile_sublist _).subset

theorem touches_applyPolicy (clock : FailureClock) (env : Surroundings) (failedId : Text)
    (sup : Supervised) :
    Touches sup.core.childSpecs sup (sup.applyPolicy clock env failedId) := by
  unfold applyPolicy
  split
  · next spec state found _ =>
      split
      · exact Outcome.follows_done _ sup
      · split
        · exact Outcome.follows_done _ sup
        · split
          · next restartTracker _ =>
              exact (touches_escalate env
                { sup with core := { sup.core with restartTracker } }).after
                  (.turned rfl rfl rfl rfl)
          · next restartTracker _ =>
              exact (touches_restart env { sup with core := { sup.core with restartTracker } }
                (List.mem_of_find?_eq_some found)).after (.turned rfl rfl rfl rfl)
  · exact Outcome.follows_done _ sup

theorem Touches.loose {outcome : Outcome Supervised} (touches : Touches specs sup outcome) :
    outcome.state.loose = sup.loose :=
  @Outcome.Follows.keeps _ (Touch specs) sup outcome (fun next => next.loose = sup.loose) touches
    (fun _ _ touch same => touch.loose.trans same) rfl

/-- The handling of a failure, whatever comes of it. -/
theorem touches_handleChildFailure (clock : FailureClock) (env : Surroundings) (failedId : Text)
    (sup : Supervised) :
    Touches sup.core.childSpecs sup (sup.handleChildFailure clock env failedId) := by
  unfold handleChildFailure
  split
  · exact touches_applyPolicy clock env failedId sup
  · split
    · exact Outcome.follows_done _ sup
    · split
      · exact touches_single (.turned rfl rfl rfl rfl)
      · next detector _ =>
          exact (touches_applyPolicy clock env failedId
            { sup with core := { sup.core with bulkDetector := some detector } }).after
              (.turned rfl rfl rfl rfl)

/-! ## The two ways to write it -/

/-- A restart in one go is that of its errand. -/
theorem restart_eq (env : Surroundings) (spec : ChildSpec) (sup : Supervised) :
    sup.restart env spec = (Outcome.forEach (call env) (sup.restartErrand spec).calls
      (sup.enterErrand (sup.restartErrand spec))).ensure
        (exitErrand (sup.restartErrand spec)) := by
  have range (specs : List ChildSpec) (isOpen : Bool) :
      sup.restartRange env specs = (Outcome.forEach (call env)
        (specs.reverse.map AwaitedCall.retire ++ specs.map AwaitedCall.start)
        { sup with restarting := true }).ensure ({ · with restarting := false }) := by
    rw [Outcome.forEach_append, Outcome.forEach_map]
    unfold restartRange
    congr 2
    funext state
    rw [Outcome.forEach_map]
    rfl
  unfold restart restartErrand
  cases sup.core.strategy with
  | oneForOne =>
      change (sup.stopChild env.stops spec.childId).andThen _ =
        ((sup.stopChild env.stops spec.childId).andThen fun sup =>
          (startChild (env.starts spec.childId) spec sup).andThen Outcome.done).ensure id
      rw [Outcome.ensure_id]
      simp only [Outcome.andThen_done]
  | allForOne => exact range _ true
  | restForOne => exact range _ false

theorem applyPolicy_eq (clock : FailureClock) (env : Surroundings) (failedId : Text)
    (sup : Supervised) :
    sup.applyPolicy clock env failedId =
      match sup.core.applyPolicy clock failedId with
      | (core, .escalates) => escalate env { sup with core }
      | (core, .restarts) =>
          match core.getSpec failedId with
          | some spec => restart env spec { sup with core }
          | none => .done { sup with core }
      | (core, _) => .done { sup with core } := by
  unfold applyPolicy SupervisorState.applyPolicy
  rcases found : sup.core.getSpec failedId with _ | spec
  · rfl
  · rcases sup.core.children failedId with _ | state
    · rfl
    · dsimp only
      by_cases temporary : spec.restartPolicy = .temporary
      · rw [if_pos temporary, if_pos temporary]
      · by_cases normal : spec.restartPolicy = .transient ∧ state ≠ .errored
        · rw [if_neg temporary, if_pos normal, if_neg temporary, if_pos normal]
        · rw [if_neg temporary, if_neg normal, if_neg temporary, if_neg normal]
          rcases sup.core.restartTracker.allowRestart clock.checkedAt clock.restartedAt with
            ⟨restartTracker, _ | _⟩
          · rfl
          · have again : SupervisorState.getSpec { sup.core with restartTracker } failedId =
                some spec := found
            dsimp only
            rw [again]

/-- The handling of a failure goes on as `SupervisorState.handleChildFailure` decides. -/
theorem handleChildFailure_eq (clock : FailureClock) (env : Surroundings) (failedId : Text)
    (sup : Supervised) :
    sup.handleChildFailure clock env failedId =
      match sup.core.handleChildFailure clock failedId with
      | (core, .idle) => .done { sup with core }
      | (core, .outage) =>
          ⟨some env.notified, { sup with
            core := { core with resetting := decide (env.notified = .returned) } }⟩
      | (core, .escalates) => escalate env { sup with core }
      | (core, .restarts) =>
          match core.getSpec failedId with
          | some spec => restart env spec { sup with core }
          | none => .done { sup with core } := by
  have quiet (core : SupervisorState) : (core.applyPolicy clock failedId).2 ≠ .outage := by
    unfold SupervisorState.applyPolicy
    split
    · split
      · simp
      · split
        · simp
        · split <;> simp
    · simp
  unfold handleChildFailure SupervisorState.handleChildFailure
  rcases sup.core.bulkDetector with _ | detector
  · have same := applyPolicy_eq clock env failedId sup
    have never := quiet sup.core
    dsimp only
    rw [same]
    revert never
    rcases sup.core.applyPolicy clock failedId with ⟨core, _ | _ | _ | _⟩ <;> intro never
    · rfl
    · exact absurd rfl never
    · rfl
    · rfl
  · dsimp only
    split
    · rfl
    · rcases detector.recordFailure clock.purgedAt clock.failedAt failedId with ⟨recorded, _ | _⟩
      · have same := applyPolicy_eq clock env failedId
          { sup with core := { sup.core with bulkDetector := some recorded } }
        have never := quiet { sup.core with bulkDetector := some recorded }
        dsimp only at same ⊢
        rw [same]
        revert never
        rcases SupervisorState.applyPolicy clock failedId
          { sup.core with bulkDetector := some recorded } with ⟨core, _ | _ | _ | _⟩ <;> intro never
        · rfl
        · exact absurd rfl never
        · rfl
        · rfl
      · rfl

end Supervised

end Vcompany.Supervisor
