import Vcompany.Foundation.Transition
import Vcompany.Resilience.BulkFailure
import Vcompany.Supervisor.ChildSpec
import Vcompany.Supervisor.RestartTracker
import Mathlib.Data.Finset.Basic

/-! # Failures of children

A child that errors sets its event, unless callbacks are suppressed. Its monitor clears the event
and handles the failure: in a global backoff it does nothing; a failure that is detected as an
outage starts a backoff; otherwise the restart policy, the restart limit and the strategy decide.
A restart awaits the `stop` of each of its children and then their starts, one by one, and
anything may happen while it waits: other children err, other monitors handle failures, and a
restart may cancel the monitor in which another one goes on. A child's `stop` and start are taken
to succeed.
-/

namespace Vcompany.Supervisor

open Foundation Resilience

/-- What the clock shows at the readings of one failure's handling. -/
structure FailureClock where
  purgedAt : ℚ
  failedAt : ℚ
  checkedAt : ℚ
  restartedAt : ℚ

/-- A child that `stop`, `_restart_*` and `_escalate` do not pass over. -/
def ContainerState.isLive (state : ContainerState) : Bool :=
  state ∉ [ContainerState.stopped, .destroyed, .stopping]

/-- A supervisor; `resetting` tells that the reset of its backoff is scheduled. -/
structure SupervisorState where
  strategy : RestartStrategy
  childSpecs : List ChildSpec
  bulkDetector : Option BulkFailureDetector
  restartTracker : RestartTracker
  running : Bool
  children : Text → Option ContainerState
  childEvents : Finset Text
  resetting : Bool

/-- What `_handle_child_failure` comes to. -/
inductive FailureDecision where
  | idle
  | outage
  | escalates
  | restarts
  deriving DecidableEq

/-- What a restart or an escalation does once its children are stopped. -/
inductive Ahead where
  /-- It starts the children from a position on, up to a bound; without one, up to the end that
  the list has when it comes there. -/
  | starts (next : ℕ) (bound : Option ℕ)
  /-- It cancels the monitors and tells the parent. -/
  | escalates
  deriving DecidableEq

/-- A restart or an escalation under way. It is attached while the monitor that it goes on in is
the one in `_tasks`; `stopping` are the positions of the children that it has still to stop. -/
structure Work where
  failedId : Text
  attached : Bool
  suppresses : Bool
  stopping : List ℕ
  ahead : Ahead
  deriving DecidableEq

namespace Work

/-- It goes on in the child's monitor. -/
def isOf (childId : Text) (work : Work) : Bool := work.attached && work.failedId = childId

/-- Its monitor is no longer the one in `_tasks`. -/
def leave (work : Work) : Work := { work with attached := false }

/-- The child's monitor is taken out of `_tasks`. -/
def detach (childId : Text) (work : Work) : Work :=
  if work.isOf childId then work.leave else work

/-- Its `finally` ends the suppression of callbacks; `_escalate` has none. -/
def cleansUp (work : Work) : Bool := work.suppresses && work.ahead ≠ .escalates

end Work

namespace SupervisorState

/-- A supervisor whose children have just been started. -/
def started (strategy : RestartStrategy) (childSpecs : List ChildSpec)
    (restartTracker : RestartTracker) : SupervisorState where
  strategy := strategy
  childSpecs := childSpecs
  bulkDetector := if 2 ≤ childSpecs.length then some (.init childSpecs.length) else none
  restartTracker := restartTracker
  running := true
  children childId := if childId ∈ childSpecs.map ChildSpec.childId then some .running else none
  childEvents := ∅
  resetting := false

/-- `_get_spec`. -/
def getSpec (supervisor : SupervisorState) (childId : Text) : Option ChildSpec :=
  supervisor.childSpecs.find? fun spec => spec.childId = childId

/-- The position of the first specification with the id. -/
def position (supervisor : SupervisorState) (childId : Text) : ℕ :=
  supervisor.childSpecs.findIdx fun spec => spec.childId = childId

/-- The part of `_handle_child_failure` after the detection of outages. -/
def applyPolicy (clock : FailureClock) (failedId : Text) (supervisor : SupervisorState) :
    SupervisorState × FailureDecision :=
  match supervisor.getSpec failedId, supervisor.children failedId with
  | some spec, some state =>
      if spec.restartPolicy = .temporary then (supervisor, .idle)
      else if spec.restartPolicy = .transient ∧ state ≠ .errored then (supervisor, .idle)
      else
        match supervisor.restartTracker.allowRestart clock.checkedAt clock.restartedAt with
        | (restartTracker, false) => ({ supervisor with restartTracker }, .escalates)
        | (restartTracker, true) => ({ supervisor with restartTracker }, .restarts)
  | _, _ => (supervisor, .idle)

/-- `_handle_child_failure`, up to what it awaits. -/
def handleChildFailure (clock : FailureClock) (failedId : Text) (supervisor : SupervisorState) :
    SupervisorState × FailureDecision :=
  match supervisor.bulkDetector with
  | none => supervisor.applyPolicy clock failedId
  | some detector =>
      if detector.inBackoff then (supervisor, .idle)
      else
        match detector.recordFailure clock.purgedAt clock.failedAt failedId with
        | (detector, true) => ({ supervisor with bulkDetector := some detector }, .outage)
        | (detector, false) =>
            { supervisor with bulkDetector := some detector }.applyPolicy clock failedId

/-- `_restart_one`, `_restart_all` or `_restart_rest` at its beginning. -/
def restartWork (failedId : Text) (attached : Bool) (supervisor : SupervisorState) : Work :=
  let position := supervisor.position failedId
  let count := supervisor.childSpecs.length
  match supervisor.strategy with
  | .oneForOne => ⟨failedId, attached, false, [position], .starts position (some (position + 1))⟩
  | .allForOne => ⟨failedId, attached, true, (List.range count).reverse, .starts 0 none⟩
  | .restForOne =>
      ⟨failedId, attached, true, (List.range' position (count - position)).reverse,
        .starts position (some count)⟩

/-- `_escalate` at its beginning. -/
def escalationWork (failedId : Text) (attached : Bool) (supervisor : SupervisorState) : Work :=
  ⟨failedId, attached, true, (List.range supervisor.childSpecs.length).reverse, .escalates⟩

/-- The children that the work has yet to start. -/
def yetToStart (supervisor : SupervisorState) (work : Work) : List Text :=
  match work.ahead with
  | .starts next bound =>
      ((supervisor.childSpecs.take (bound.getD supervisor.childSpecs.length)).drop next).map
        ChildSpec.childId
  | .escalates => []

end SupervisorState

/-- A supervisor with the restarts that are under way. In `tasks` are the children whose monitor
is in `_tasks` and has not ended; `exceeded` tells that an escalation has begun. -/
structure Supervision where
  core : SupervisorState
  restarting : Bool
  tasks : Finset Text
  works : List Work
  exceeded : Bool

inductive FailureEvent where
  /-- The child errors, and its callback sets its event. -/
  | fails (childId : Text)
  /-- The child's monitor clears the event and looks at the child's state. -/
  | monitored (childId : Text) (clock : FailureClock) (notifyRaises : Bool)
  /-- A former monitor of the child, woken by the event that it still has, handles a failure. -/
  | stale (childId : Text) (clock : FailureClock) (notifyRaises : Bool)
  /-- What a restart awaits comes to its end. Another restart whose monitor is cancelled then ends
  unless `keeps` its place: one that awaits a monitor that it has cancelled takes its own
  cancellation for that one's. -/
  | turn (index : ℕ) (keeps : ℕ → Bool)
  /-- The timer of the backoff fires. -/
  | backoffExpires

namespace Supervision

/-- A supervisor whose children have just been started. -/
def started (strategy : RestartStrategy) (childSpecs : List ChildSpec)
    (restartTracker : RestartTracker) : Supervision where
  core := .started strategy childSpecs restartTracker
  restarting := false
  tasks := (childSpecs.map ChildSpec.childId).toFinset
  works := []
  exceeded := false

/-- The child comes to a state in which its callback sets its event. -/
def report (childId : Text) (state : ContainerState) (sup : Supervision) : Supervision :=
  { sup with core := { sup.core with
      children := Function.update sup.core.children childId (some state)
      childEvents :=
        if sup.restarting then sup.core.childEvents else insert childId sup.core.childEvents } }

/-- `await child.stop()`, unless the child has stopped. -/
def stopChild (childId : Text) (sup : Supervision) : Supervision :=
  match sup.core.children childId with
  | some state => if state.isLive then sup.report childId .stopped else sup
  | none => sup

/-- `_start_child`: the child runs, with a new event and a new monitor. -/
def startChild (childId : Text) (sup : Supervision) : Supervision :=
  { sup with
    core := { sup.core with
      children := Function.update sup.core.children childId (some .running)
      childEvents := sup.core.childEvents.erase childId }
    tasks := insert childId sup.tasks
    works := sup.works.map (Work.detach childId) }

/-- Monitors are cancelled, and with them the works that go on in them. -/
def cancel (hit : Work → Bool) (keeps : ℕ → Bool) (sup : Supervision) : Supervision :=
  let ends (entry : Work × ℕ) := hit entry.1 && !keeps entry.2
  { sup with
    restarting :=
      sup.restarting && !sup.works.zipIdx.any fun entry => ends entry && entry.1.cleansUp
    works := (sup.works.zipIdx.filter fun entry => !ends entry).map fun entry =>
      if hit entry.1 then entry.1.leave else entry.1 }

/-- The child's monitor is taken out of `_tasks`, cancelled and awaited. -/
def popTask (childId : Text) (keeps : ℕ → Bool) (sup : Supervision) : Supervision :=
  { sup.cancel (Work.isOf childId) keeps with tasks := sup.tasks.erase childId }

def push (work : Work) (sup : Supervision) : Supervision :=
  { sup with works := sup.works ++ [work] }

/-- A child of the work has stopped. -/
def stopTurn (work : Work) (childId : Text) (keeps : ℕ → Bool) (sup : Supervision) : Supervision :=
  let stopped := sup.stopChild childId
  match work.ahead with
  | .starts _ _ =>
      if work.suppresses then (stopped.popTask childId keeps).push (work.detach childId)
      else stopped.push work
  | .escalates =>
      if work.stopping = [] then
        { stopped.cancel Work.attached keeps with
          core := { stopped.core with running := false }
          tasks := ∅
          restarting := false }
      else stopped.push work

/-- A child of the work is started, the one at the position `next`. -/
def startTurn (work : Work) (childId : Text) (next : ℕ) (bound : Option ℕ) (sup : Supervision) :
    Supervision :=
  let started := sup.startChild childId
  if next + 1 < bound.getD sup.core.childSpecs.length then
    started.push { work.detach childId with ahead := .starts (next + 1) bound }
  else if work.suppresses then { started with restarting := false }
  else started

/-- The work takes its next step. -/
def turn (index : ℕ) (keeps : ℕ → Bool) (sup : Supervision) : Supervision :=
  match sup.works[index]? with
  | none => sup
  | some work =>
      let others := { sup with works := sup.works.eraseIdx index }
      match work.stopping, work.ahead with
      | position :: stopping, _ =>
          match sup.core.childSpecs[position]? with
          | some spec => others.stopTurn { work with stopping } spec.childId keeps
          | none => sup
      | [], .starts next bound =>
          match sup.core.childSpecs[next]? with
          | some spec => others.startTurn work spec.childId next bound
          | none => sup
      | [], .escalates => sup

/-- The failure is handled by a monitor of the child, the one in `_tasks` if it is attached; where
an outage is detected, the notification of the owner may raise. -/
def handle (clock : FailureClock) (notifyRaises attached : Bool) (failedId : Text)
    (sup : Supervision) : Supervision :=
  match sup.core.handleChildFailure clock failedId with
  | (core, .idle) => { sup with core }
  | (core, .outage) =>
      if notifyRaises then
        { sup with core, tasks := if attached then sup.tasks.erase failedId else sup.tasks }
      else { sup with core := { core with resetting := true } }
  | (core, .escalates) =>
      { sup with
        core
        restarting := true
        works := sup.works ++ [core.escalationWork failedId attached]
        exceeded := true }
  | (core, .restarts) =>
      { sup with
        core
        restarting := sup.restarting || (core.restartWork failedId attached).suppresses
        works := sup.works ++ [core.restartWork failedId attached] }

/-- The child's monitor handles a failure, and looks at nothing else. -/
def Busy (sup : Supervision) (childId : Text) : Prop :=
  ∃ work ∈ sup.works, work.isOf childId = true

instance (sup : Supervision) (childId : Text) : Decidable (sup.Busy childId) :=
  inferInstanceAs (Decidable (∃ work ∈ sup.works, _))

/-- The child's event is set, and its monitor will look at the child. -/
def Ready (sup : Supervision) (childId : Text) : Prop :=
  childId ∈ sup.tasks ∧ childId ∈ sup.core.childEvents ∧ ¬ sup.Busy childId

instance (sup : Supervision) (childId : Text) : Decidable (sup.Ready childId) :=
  inferInstanceAs (Decidable (_ ∧ _ ∧ _))

/-- The monitor clears its event. -/
def clear (childId : Text) (sup : Supervision) : Supervision :=
  { sup with core := { sup.core with childEvents := sup.core.childEvents.erase childId } }

def perform (sup : Supervision) : FailureEvent → Supervision
  | .fails childId =>
      match sup.core.children childId with
      | some state =>
          if state ∈ [.stopped, .destroyed] then sup else sup.report childId .errored
      | none => sup
  | .monitored childId clock notifyRaises =>
      if sup.Ready childId then
        match sup.core.children childId with
        | some .errored => (sup.clear childId).handle clock notifyRaises true childId
        | none | some .stopped | some .destroyed =>
            { sup.clear childId with tasks := sup.tasks.erase childId }
        | _ => sup.clear childId
      else sup
  | .stale childId clock notifyRaises =>
      if sup.core.children childId = some .errored then
        sup.handle clock notifyRaises false childId
      else sup
  | .turn index keeps => sup.turn index keeps
  | .backoffExpires =>
      if sup.core.resetting then
        { sup with core := { sup.core with
          bulkDetector := sup.core.bulkDetector.map fun detector =>
            detector.escalateBackoff.resetBackoff
          resetting := false } }
      else sup

/-! ## Children that are waited for -/

/-- The child has a specification, and is PERMANENT by it. -/
def Permanent (sup : Supervision) (childId : Text) : Prop :=
  ∃ spec ∈ sup.core.getSpec childId, spec.restartPolicy = .permanent

instance (sup : Supervision) (childId : Text) : Decidable (sup.Permanent childId) :=
  inferInstanceAs (Decidable (∃ spec ∈ sup.core.getSpec childId, _))

/-- A restart under way has yet to start the child. -/
def Covered (sup : Supervision) (childId : Text) : Prop :=
  ∃ work ∈ sup.works, childId ∈ sup.core.yetToStart work

instance (sup : Supervision) (childId : Text) : Decidable (sup.Covered childId) :=
  inferInstanceAs (Decidable (∃ work ∈ sup.works, _))

/-- The child has not ended. -/
def Up (sup : Supervision) (childId : Text) : Prop :=
  ∃ state ∈ sup.core.children childId, state ∉ [ContainerState.stopped, .destroyed]

instance (sup : Supervision) (childId : Text) : Decidable (sup.Up childId) :=
  inferInstanceAs (Decidable (∃ state ∈ sup.core.children childId, _))

/-- The PERMANENT children that are up have a monitor, or will have one, and those of them that
have errored are waited for. -/
def Answers (sup : Supervision) : Prop :=
  sup.exceeded = false → ∀ childId, sup.Permanent childId → sup.Up childId →
    (childId ∈ sup.tasks ∨ sup.Covered childId) ∧
    (sup.core.children childId = some .errored → sup.Ready childId ∨ sup.Covered childId)

/-- A failure that is handled now is neither dropped in a backoff nor taken for an outage. -/
def Attends (sup : Supervision) (clock : FailureClock) (childId : Text) : Prop :=
  ∀ detector ∈ sup.core.bulkDetector, detector.inBackoff = false ∧
    detector.othersFailed clock.purgedAt childId + 1 < detector.threshold

instance (sup : Supervision) (clock : FailureClock) (childId : Text) :
    Decidable (sup.Attends clock childId) :=
  inferInstanceAs (Decidable (∀ detector ∈ sup.core.bulkDetector, _))

/-- The condition on the state before an event, for PERMANENT children and as long as the restart
limit is not exceeded: a child that errs while callbacks are suppressed has its event set from
before or is yet to be started by a restart under way; a failure is handled outside a backoff, and
with it the children that failed within the window stay below the threshold, or again a restart
under way is yet to start the child. -/
def Heard (sup : Supervision) : FailureEvent → Prop
  | .fails childId =>
      sup.exceeded = false → sup.restarting = true → sup.Permanent childId → sup.Up childId →
        sup.Ready childId ∨ sup.Covered childId
  | .monitored childId clock _ =>
      sup.exceeded = false → sup.Ready childId → sup.core.children childId = some .errored →
        sup.Permanent childId → sup.Attends clock childId ∨ sup.Covered childId
  | _ => True

instance (sup : Supervision) : ∀ event, Decidable (sup.Heard event)
  | .fails childId => inferInstanceAs (Decidable (sup.exceeded = false → sup.restarting = true →
      sup.Permanent childId → sup.Up childId → sup.Ready childId ∨ sup.Covered childId))
  | .monitored childId clock _ => inferInstanceAs (Decidable (sup.exceeded = false →
      sup.Ready childId → sup.core.children childId = some .errored →
        sup.Permanent childId → sup.Attends clock childId ∨ sup.Covered childId))
  | .stale _ _ _ => isTrue trivial
  | .turn _ _ => isTrue trivial
  | .backoffExpires => isTrue trivial

/-- The supervisor is in no global backoff. -/
def Resumed (sup : Supervision) : Prop :=
  ∀ detector ∈ sup.core.bulkDetector, detector.inBackoff = false

/-- No restart is under way, and no monitor has an event left. -/
def Quiescent (sup : Supervision) : Prop :=
  sup.works = [] ∧ ∀ childId ∈ sup.tasks, childId ∉ sup.core.childEvents

/-- When the supervisor runs, is quiescent and in no backoff, and has not exceeded its restart
limit, then no PERMANENT child has errored since it was last started. -/
def ForgetsNone (sup : Supervision) : Prop :=
  sup.core.running = true → sup.exceeded = false → sup.Resumed → sup.Quiescent →
    ∀ childId, sup.Permanent childId → sup.core.children childId ≠ some .errored

/-! ## The handling of a failure -/

end Supervision

namespace SupervisorState

variable {supervisor later : SupervisorState} {childId failedId : Text} {clock : FailureClock}
  {work : Work}

/-- The child of the specification at a position. -/
def childAt (supervisor : SupervisorState) (position : ℕ) : Option Text :=
  (supervisor.childSpecs[position]?).map ChildSpec.childId

/-- Beside the detector and the tracker, the supervisor is as it was. -/
structure Like (supervisor later : SupervisorState) : Prop where
  strategy : later.strategy = supervisor.strategy
  childSpecs : later.childSpecs = supervisor.childSpecs
  children : later.children = supervisor.children
  childEvents : later.childEvents = supervisor.childEvents

theorem applyPolicy_like (clock : FailureClock) (failedId : Text) (supervisor : SupervisorState) :
    supervisor.Like (supervisor.applyPolicy clock failedId).1 := by
  unfold applyPolicy
  split
  · split
    · exact ⟨rfl, rfl, rfl, rfl⟩
    · split
      · exact ⟨rfl, rfl, rfl, rfl⟩
      · split <;> exact ⟨rfl, rfl, rfl, rfl⟩
  · exact ⟨rfl, rfl, rfl, rfl⟩

theorem handleChildFailure_like (clock : FailureClock) (failedId : Text)
    (supervisor : SupervisorState) :
    supervisor.Like (supervisor.handleChildFailure clock failedId).1 := by
  unfold handleChildFailure
  split
  · exact applyPolicy_like clock failedId supervisor
  · split
    · exact ⟨rfl, rfl, rfl, rfl⟩
    · split
      · exact ⟨rfl, rfl, rfl, rfl⟩
      · next recorded _ =>
          have like := applyPolicy_like clock failedId
            { supervisor with bulkDetector := some recorded }
          exact ⟨like.strategy, like.childSpecs, like.children, like.childEvents⟩

/-- A decision to restart is one for a child with a specification, and not for a TEMPORARY one. -/
theorem applyPolicy_restarts (decided : (supervisor.applyPolicy clock failedId).2 = .restarts) :
    ∃ spec, supervisor.getSpec failedId = some spec ∧ spec.restartPolicy ≠ .temporary := by
  unfold applyPolicy at decided
  split at decided
  · next spec state found _ =>
      split at decided
      · cases decided
      · next lasting => exact ⟨spec, found, lasting⟩
  · cases decided

theorem handleChildFailure_restarts
    (decided : (supervisor.handleChildFailure clock failedId).2 = .restarts) :
    ∃ spec, supervisor.getSpec failedId = some spec ∧ spec.restartPolicy ≠ .temporary := by
  unfold handleChildFailure at decided
  split at decided
  · exact applyPolicy_restarts decided
  · split at decided
    · cases decided
    · split at decided
      · cases decided
      · next recorded _ =>
          exact @applyPolicy_restarts { supervisor with bulkDetector := some recorded } _ _ decided

/-- The failure of a PERMANENT child is answered by a restart or an escalation. -/
theorem applyPolicy_permanent {spec : ChildSpec} (found : supervisor.getSpec failedId = some spec)
    (permanent : spec.restartPolicy = .permanent)
    (errored : supervisor.children failedId = some .errored) :
    (supervisor.applyPolicy clock failedId).2 = .restarts ∨
      (supervisor.applyPolicy clock failedId).2 = .escalates := by
  unfold applyPolicy
  rw [found, errored]
  dsimp only
  rw [if_neg (by simp [permanent]), if_neg (by simp)]
  split
  · exact .inr rfl
  · exact .inl rfl

/-- The failure of a PERMANENT child is answered exactly if it is handled outside a backoff and
not taken for an outage. -/
theorem handleChildFailure_permanent_iff {spec : ChildSpec}
    (found : supervisor.getSpec failedId = some spec)
    (permanent : spec.restartPolicy = .permanent)
    (errored : supervisor.children failedId = some .errored) :
    ((supervisor.handleChildFailure clock failedId).2 = .restarts ∨
      (supervisor.handleChildFailure clock failedId).2 = .escalates) ↔
      ∀ detector ∈ supervisor.bulkDetector, detector.inBackoff = false ∧
        detector.othersFailed clock.purgedAt failedId + 1 < detector.threshold := by
  unfold handleChildFailure
  rcases supervisor.bulkDetector with _ | detector
  · exact iff_of_true (applyPolicy_permanent found permanent errored)
      fun detector present => by cases present
  · simp only [Option.mem_def, Option.some.injEq, forall_eq']
    by_cases quiet : detector.inBackoff = true
    · simp [quiet]
    · rw [Bool.not_eq_true] at quiet
      have outage := @BulkFailureDetector.recordFailure_outage_iff detector clock.purgedAt
        clock.failedAt failedId
      simp only [quiet, Bool.false_eq_true, if_false, true_and, ← not_le, ← outage]
      rcases detector.recordFailure clock.purgedAt clock.failedAt failedId with ⟨recorded, _ | _⟩
      · exact iff_of_true (@applyPolicy_permanent { supervisor with bulkDetector := some recorded }
          failedId clock spec found permanent errored) Bool.false_ne_true
      · simp

theorem position_lt {spec : ChildSpec} (found : supervisor.getSpec failedId = some spec) :
    supervisor.position failedId < supervisor.childSpecs.length :=
  List.findIdx_lt_length_of_exists
    ⟨spec, List.mem_of_find?_eq_some found, by simpa using List.find?_some found⟩

theorem getElem?_position {spec : ChildSpec} (found : supervisor.getSpec failedId = some spec) :
    supervisor.childSpecs[supervisor.position failedId]? = some spec := by
  unfold getSpec at found
  rw [List.find?_eq_getElem?_findIdx] at found
  exact found

theorem childAt_position {spec : ChildSpec} (found : supervisor.getSpec failedId = some spec) :
    supervisor.childAt (supervisor.position failedId) = some failedId := by
  unfold childAt
  rw [getElem?_position found, Option.map_some]
  simpa using List.find?_some found

/-- Where the ids differ, a child has one position. -/
theorem position_eq (distinct : (supervisor.childSpecs.map ChildSpec.childId).Nodup) {position : ℕ}
    (here : supervisor.childAt position = some childId) :
    supervisor.position childId = position := by
  obtain ⟨spec, found, own⟩ := Option.map_eq_some_iff.mp here
  have listed : supervisor.position childId < supervisor.childSpecs.length :=
    List.findIdx_lt_length_of_exists ⟨spec, List.mem_of_getElem? found, by simpa using own⟩
  have first : (supervisor.childSpecs[supervisor.position childId]).childId = childId := by
    exact of_decide_eq_true (@List.findIdx_getElem _
      (fun spec : ChildSpec => decide (spec.childId = childId)) supervisor.childSpecs listed)
  have ids : (supervisor.childSpecs.map ChildSpec.childId)[supervisor.position childId]? =
      (supervisor.childSpecs.map ChildSpec.childId)[position]? := by
    rw [List.getElem?_map, List.getElem?_map, List.getElem?_eq_getElem listed, found,
      Option.map_some, Option.map_some, first, own]
  exact (List.getElem?_inj (by simpa using listed) distinct).mp ids

theorem mem_yetToStart_iff {next : ℕ} {bound : Option ℕ} (ahead : work.ahead = .starts next bound) :
    childId ∈ supervisor.yetToStart work ↔
      ∃ position, next ≤ position ∧ position < bound.getD supervisor.childSpecs.length ∧
        supervisor.childAt position = some childId := by
  unfold yetToStart childAt
  rw [ahead]
  dsimp only
  rw [List.mem_map]
  constructor
  · rintro ⟨spec, member, own⟩
    obtain ⟨offset, found⟩ := List.mem_iff_getElem?.mp member
    rw [List.getElem?_drop, List.getElem?_take] at found
    split at found
    · next inside => exact ⟨next + offset, by omega, inside, by rw [found, Option.map_some, own]⟩
    · cases found
  · rintro ⟨position, after, inside, here⟩
    obtain ⟨spec, found, own⟩ := Option.map_eq_some_iff.mp here
    refine ⟨spec, List.mem_iff_getElem?.mpr ⟨position - next, ?_⟩, own⟩
    rw [List.getElem?_drop, List.getElem?_take, show next + (position - next) = position by omega,
      if_pos inside, found]

/-- The restart of a child has yet to start it. -/
theorem mem_yetToStart_restartWork (attached : Bool) {spec : ChildSpec}
    (found : supervisor.getSpec failedId = some spec) :
    failedId ∈ supervisor.yetToStart (supervisor.restartWork failedId attached) := by
  have inside := position_lt found
  have here := childAt_position found
  unfold restartWork
  cases supervisor.strategy with
  | oneForOne =>
      exact (mem_yetToStart_iff rfl).mpr ⟨_, le_rfl, by simp, here⟩
  | allForOne =>
      exact (mem_yetToStart_iff rfl).mpr ⟨_, Nat.zero_le _, by simpa using inside, here⟩
  | restForOne =>
      exact (mem_yetToStart_iff rfl).mpr ⟨_, le_rfl, by simpa using inside, here⟩

/-- Where the restarts of the strategy begin to start children. -/
def firstStart (supervisor : SupervisorState) (failedId : Text) : ℕ :=
  match supervisor.strategy with
  | .allForOne => 0
  | _ => supervisor.position failedId

/-- A restart as the strategy makes it, somewhere on its way. With `one_for_one` it is about one
child. Otherwise it starts all children from the failed one, or the first one, on; it has yet to
stop the failed one as long as its monitor is in `_tasks`. -/
def Proper (supervisor : SupervisorState) (work : Work) : Prop :=
  match supervisor.strategy with
  | .oneForOne =>
      work.suppresses = false ∧ ∃ position, work.ahead = .starts position (some (position + 1)) ∧
        supervisor.childAt position = some work.failedId
  | _ =>
      work.suppresses = true ∧ ∃ next bound, work.ahead = .starts next bound ∧
        bound.getD supervisor.childSpecs.length = supervisor.childSpecs.length ∧
        (∀ position ∈ work.stopping, next ≤ position ∧ position < supervisor.childSpecs.length) ∧
        (work.stopping ≠ [] → next = supervisor.firstStart work.failedId) ∧
        (work.attached = true →
          ∃ position ∈ work.stopping, supervisor.childAt position = some work.failedId)

theorem Proper.congr (strategy : later.strategy = supervisor.strategy)
    (childSpecs : later.childSpecs = supervisor.childSpecs) (proper : supervisor.Proper work) :
    later.Proper work := by
  unfold Proper firstStart position childAt at *
  rw [strategy, childSpecs]
  exact proper

theorem Proper.leave (proper : supervisor.Proper work) : supervisor.Proper work.leave := by
  unfold Proper at *
  split at proper
  · exact proper
  · obtain ⟨suppresses, next, bound, ahead, whole, inside, first, -⟩ := proper
    exact ⟨suppresses, next, bound, ahead, whole, inside, first, nofun⟩

theorem Proper.detach (proper : supervisor.Proper work) (childId : Text) :
    supervisor.Proper (work.detach childId) := by
  unfold Work.detach
  split
  · exact proper.leave
  · exact proper

theorem Proper.starts (proper : supervisor.Proper work) :
    ∃ next bound, work.ahead = .starts next bound := by
  unfold Proper at proper
  split at proper
  · obtain ⟨-, position, ahead, -⟩ := proper
    exact ⟨_, _, ahead⟩
  · obtain ⟨-, next, bound, ahead, -⟩ := proper
    exact ⟨next, bound, ahead⟩

/-- As long as a restart goes on in its child's monitor, it has yet to start the child. -/
theorem Proper.covers (proper : supervisor.Proper work) (attached : work.attached = true) :
    work.failedId ∈ supervisor.yetToStart work := by
  unfold Proper at proper
  split at proper
  · obtain ⟨-, position, ahead, here⟩ := proper
    exact (mem_yetToStart_iff ahead).mpr ⟨position, le_rfl, by simp, here⟩
  · obtain ⟨-, next, bound, ahead, whole, inside, -, own⟩ := proper
    obtain ⟨position, member, here⟩ := own attached
    obtain ⟨after, listed⟩ := inside position member
    exact (mem_yetToStart_iff ahead).mpr ⟨position, after, by omega, here⟩

theorem proper_restartWork (attached : Bool) {spec : ChildSpec}
    (found : supervisor.getSpec failedId = some spec) :
    supervisor.Proper (supervisor.restartWork failedId attached) := by
  have inside := position_lt found
  have here := childAt_position found
  unfold Proper restartWork firstStart
  cases supervisor.strategy with
  | oneForOne => exact ⟨rfl, _, rfl, here⟩
  | allForOne =>
      refine ⟨rfl, _, _, rfl, rfl, fun position member => ?_, fun _ => rfl, fun _ => ?_⟩
      · exact ⟨Nat.zero_le _, List.mem_range.mp (List.mem_reverse.mp member)⟩
      · exact ⟨_, List.mem_reverse.mpr (List.mem_range.mpr inside), here⟩
  | restForOne =>
      refine ⟨rfl, _, _, rfl, rfl, fun position member => ?_, fun _ => rfl, fun _ => ?_⟩
      · have range := List.mem_range'_1.mp (List.mem_reverse.mp member)
        omega
      · refine ⟨_, List.mem_reverse.mpr (List.mem_range'_1.mpr ?_), here⟩
        omega

/-- A restart that takes another one's monitor out is yet to start all that the other was to
start. -/
theorem Proper.covers_taken (distinct : (supervisor.childSpecs.map ChildSpec.childId).Nodup)
    {other : Work} (proper : supervisor.Proper work) (suppresses : work.suppresses = true)
    {position : ℕ} (member : position ∈ work.stopping)
    (here : supervisor.childAt position = some other.failedId)
    (otherProper : supervisor.Proper other) (attached : other.attached = true)
    (covered : childId ∈ supervisor.yetToStart other) :
    childId ∈ supervisor.yetToStart work := by
  have own := position_eq distinct here
  unfold Proper at proper otherProper
  split at proper
  · rw [proper.1] at suppresses
    cases suppresses
  · next grouped =>
      split at otherProper
      · next alone => exact absurd alone grouped
      · obtain ⟨-, next, bound, ahead, whole, inside, first, -⟩ := proper
        obtain ⟨-, otherNext, otherBound, otherAhead, otherWhole, -, otherFirst, own'⟩ :=
          otherProper
        obtain ⟨stopping, isStopping, -⟩ := own' attached
        have begins := first (List.ne_nil_of_mem member)
        have otherBegins := otherFirst (List.ne_nil_of_mem isStopping)
        obtain ⟨place, after, within, isChild⟩ := (mem_yetToStart_iff otherAhead).mp covered
        refine (mem_yetToStart_iff ahead).mpr ⟨place, ?_, by omega, isChild⟩
        have reached := (inside position member).1
        unfold firstStart at begins otherBegins
        cases strategy : supervisor.strategy with
        | oneForOne => exact absurd strategy grouped
        | allForOne =>
            rw [strategy] at begins
            dsimp only at begins
            omega
        | restForOne =>
            rw [strategy] at otherBegins
            dsimp only at otherBegins
            omega

end SupervisorState

end Vcompany.Supervisor
