import Vcompany.Foundation.Simulation
import Vcompany.Worker.GsdLifecycle
import Vcompany.Worker.PmHandler

/-! # The lifecycles of the agents

`ContainerLifecycle` is a flat table of eight states. `GsdLifecycle` and `EventDrivenLifecycle`
put states of their own inside `running`, and a history state that brings an agent back to the
one it was in. Both behave as the flat lifecycle next to a state that only their own events
move, and only while the agent runs (`Paired`): nothing that happens to the agent outside
`running` is visible in what it does inside, and nothing inside in what the supervisor sees.

For a GSD agent this fixes the order of its whole life: its phases come one after the other,
each at most once, through every sleep, error and block.
-/

namespace Vcompany.Worker

open Foundation

/-! ## The flat lifecycle -/

/-- The states of `ContainerLifecycle`. -/
inductive LifecycleState where
  | creating
  | running
  | sleeping
  | blocked
  | stopping
  | errored
  | stopped
  | destroyed
  deriving DecidableEq, Repr

/-- The events of `ContainerLifecycle`. -/
inductive LifecycleEvent where
  | start
  | sleep
  | wake
  | error
  | recover
  | block
  | unblock
  | beginStop
  | finishStop
  | destroy
  deriving DecidableEq, Repr

/-- The transitions of `ContainerLifecycle`. -/
def LifecycleEvent.transition : LifecycleEvent → LifecycleState → Option LifecycleState
  | start, .creating => some .running
  | sleep, .running => some .sleeping
  | wake, .sleeping => some .running
  | error, .creating => some .errored
  | error, .running => some .errored
  | error, .sleeping => some .errored
  | error, .blocked => some .errored
  | recover, .errored => some .running
  | block, .running => some .blocked
  | unblock, .blocked => some .running
  | beginStop, .running => some .stopping
  | beginStop, .sleeping => some .stopping
  | beginStop, .errored => some .stopping
  | beginStop, .blocked => some .stopping
  | finishStop, .stopping => some .stopped
  | destroy, .stopped => some .destroyed
  | destroy, .errored => some .destroyed
  | _, _ => none

/-! ## Compound lifecycles -/

/-- What a lifecycle has inside `running`: the initial state, and where its own events lead. -/
structure CompoundLifecycle (ι κ : Type) where
  initial : ι
  moves : κ → ι → Option ι

inductive CompoundState (ι : Type) where
  | running (inner : ι)
  | outer (state : OuterState)
  deriving DecidableEq

inductive CompoundEvent (κ : Type) where
  | lifecycle (event : LifecycleEvent)
  | inner (event : κ)
  deriving DecidableEq

inductive CompoundTarget (ι : Type) where
  | inner (inner : ι)
  | history
  | outer (state : OuterState)
  deriving DecidableEq

/-- A live machine: its state, and the inner state in which `running` was last left. -/
structure CompoundMachine (ι : Type) where
  state : CompoundState ι
  history : Option ι
  deriving DecidableEq

def OuterState.lifecycle : OuterState → LifecycleState
  | creating => .creating
  | sleeping => .sleeping
  | blocked => .blocked
  | stopping => .stopping
  | errored => .errored
  | stopped => .stopped
  | destroyed => .destroyed

namespace CompoundState

variable {ι : Type}

/-- The state that `WorkerContainer.state` shows. -/
def lifecycle : CompoundState ι → LifecycleState
  | running _ => .running
  | outer state => state.lifecycle

/-- The state that `WorkerContainer.inner_state` shows. -/
def inner : CompoundState ι → Option ι
  | running inner => some inner
  | outer _ => none

end CompoundState

namespace CompoundLifecycle

variable {ι κ : Type} (compound : CompoundLifecycle ι κ)

/-- The transitions that `GsdLifecycle` and `EventDrivenLifecycle` share, and those inside
`running`. -/
def transition : CompoundEvent κ → CompoundState ι → Option (CompoundTarget ι)
  | .inner event, .running inner => (compound.moves event inner).map .inner
  | .lifecycle .start, .outer .creating => some (.inner compound.initial)
  | .lifecycle .sleep, .running _ => some (.outer .sleeping)
  | .lifecycle .wake, .outer .sleeping => some .history
  | .lifecycle .error, .outer .creating => some (.outer .errored)
  | .lifecycle .error, .running _ => some (.outer .errored)
  | .lifecycle .error, .outer .sleeping => some (.outer .errored)
  | .lifecycle .error, .outer .blocked => some (.outer .errored)
  | .lifecycle .recover, .outer .errored => some .history
  | .lifecycle .block, .running _ => some (.outer .blocked)
  | .lifecycle .unblock, .outer .blocked => some .history
  | .lifecycle .beginStop, .running _ => some (.outer .stopping)
  | .lifecycle .beginStop, .outer .sleeping => some (.outer .stopping)
  | .lifecycle .beginStop, .outer .errored => some (.outer .stopping)
  | .lifecycle .beginStop, .outer .blocked => some (.outer .stopping)
  | .lifecycle .finishStop, .outer .stopping => some (.outer .stopped)
  | .lifecycle .destroy, .outer .stopped => some (.outer .destroyed)
  | .lifecycle .destroy, .outer .errored => some (.outer .destroyed)
  | _, _ => none

/-- Take a transition. Leaving `running` sets the history. A history state that has nothing
recorded is assumed to enter the initial state. -/
def take (machine : CompoundMachine ι) : CompoundTarget ι → CompoundMachine ι
  | .inner inner => { machine with state := .running inner }
  | .history => { machine with state := .running (machine.history.getD compound.initial) }
  | .outer state => { state := .outer state, history := machine.state.inner.or machine.history }

/-- Send an event; none for `TransitionNotAllowed`. -/
def send (machine : CompoundMachine ι) (event : CompoundEvent κ) : Option (CompoundMachine ι) :=
  (compound.transition event machine.state).map (compound.take machine)

/-- The machine of a container that has just been built. -/
def fresh : CompoundMachine ι := { state := .outer .creating, history := none }

/-- The inner state that the machine is in, or else the one that its history state enters. -/
def remembered (machine : CompoundMachine ι) : ι :=
  (machine.state.inner.or machine.history).getD compound.initial

end CompoundLifecycle

/-- What the sender of an event sees: whether it was accepted, and the states that
`health_report` shows afterwards. -/
structure LifecycleReport (ι : Type) where
  accepted : Bool
  state : LifecycleState
  innerState : Option ι
  deriving DecidableEq

/-- Try a step: a state without one stays. -/
def attempt {σ ω : Type} (shown : Bool → σ → ω) (state : σ) : Option σ → ω × σ
  | none => (shown false state, state)
  | some next => (shown true next, next)

@[simp] theorem attempt_map {σ τ ω : Type} {shown : Bool → τ → ω} {view : σ → τ} {state : σ}
    {next : Option σ} :
    (attempt shown (view state) (next.map view)) =
      ((attempt (fun accepted state => shown accepted (view state)) state next).1,
        view (attempt (fun accepted state => shown accepted (view state)) state next).2) := by
  cases next <;> rfl

/-- What the machine shows. -/
def CompoundMachine.report {ι : Type} (accepted : Bool) (machine : CompoundMachine ι) :
    LifecycleReport ι where
  accepted := accepted
  state := machine.state.lifecycle
  innerState := machine.state.inner

/-- Answer an event. -/
def CompoundLifecycle.perform {ι κ : Type} (compound : CompoundLifecycle ι κ)
    (machine : CompoundMachine ι) (event : CompoundEvent κ) :
    LifecycleReport ι × CompoundMachine ι :=
  attempt CompoundMachine.report machine (compound.send machine event)

/-! ## The lifecycle next to its inner state -/

/-- A flat lifecycle, and beside it an inner state. -/
structure Paired (ι : Type) where
  lifecycle : LifecycleState
  inner : ι
  deriving DecidableEq

namespace Paired

variable {ι κ : Type}

/-- The flat lifecycle takes its own events, and the inner state takes its own while the
lifecycle is `running`. -/
def send (moves : κ → ι → Option ι) (pair : Paired ι) : CompoundEvent κ → Option (Paired ι)
  | .lifecycle event =>
      (event.transition pair.lifecycle).map fun next => { pair with lifecycle := next }
  | .inner event =>
      if pair.lifecycle = .running then
        (moves event pair.inner).map fun next => { pair with inner := next }
      else none

/-- The inner state shows while the lifecycle is `running`. -/
def report (accepted : Bool) (pair : Paired ι) : LifecycleReport ι where
  accepted := accepted
  state := pair.lifecycle
  innerState := if pair.lifecycle = .running then some pair.inner else none

/-- Answer an event. -/
def perform (moves : κ → ι → Option ι) (pair : Paired ι) (event : CompoundEvent κ) :
    LifecycleReport ι × Paired ι :=
  attempt Paired.report pair (pair.send moves event)

end Paired

namespace CompoundLifecycle

variable {ι κ : Type} {compound : CompoundLifecycle ι κ} {machine next : CompoundMachine ι}
  {event : CompoundEvent κ}

/-- What a machine stands for. -/
def paired (compound : CompoundLifecycle ι κ) (machine : CompoundMachine ι) : Paired ι where
  lifecycle := machine.state.lifecycle
  inner := compound.remembered machine

/-- A machine that has not been started has no history. -/
def Unstarted (machine : CompoundMachine ι) : Prop :=
  machine.state = .outer .creating → machine.history = none

theorem unstarted_fresh : Unstarted (fresh : CompoundMachine ι) := fun _ => rfl

/-- No transition leads back to `creating`. -/
theorem not_creating_of_transition {target : CompoundTarget ι}
    (taken : compound.transition event machine.state = some target) :
    target ≠ .outer .creating := by
  rintro rfl
  revert taken
  fun_cases compound.transition event machine.state with
  | case1 => simp
  | case19 => exact nofun
  | _ => exact nofun

theorem unstarted_send (sent : compound.send machine event = some next) : Unstarted next := by
  obtain ⟨target, taken, rfl⟩ := Option.map_eq_some_iff.mp sent
  intro creating
  cases target with
  | inner inner => cases creating
  | history => cases creating
  | outer state =>
      cases creating
      exact absurd rfl (not_creating_of_transition taken)

theorem report_paired (accepted : Bool) (machine : CompoundMachine ι) :
    (compound.paired machine).report accepted = machine.report accepted := by
  rcases machine with ⟨inner | state, history⟩
  · rfl
  · cases state <;> rfl

/-- An event moves what the machine stands for as it moves the pair. -/
theorem send_paired (unstarted : Unstarted machine) (event : CompoundEvent κ) :
    (compound.paired machine).send compound.moves event =
      (compound.send machine event).map compound.paired := by
  rcases machine with ⟨inner | state, history⟩
  · rcases event with event | event
    · cases event <;> rfl
    · change (compound.moves event inner).map _ =
        (((compound.moves event inner).map CompoundTarget.inner).map _).map _
      rw [Option.map_map, Option.map_map]
      rfl
  · rcases event with event | event
    · cases state with
      | creating =>
          obtain rfl : history = none := unstarted rfl
          cases event <;> rfl
      | _ => cases event <;> rfl
    · cases state <;> rfl

/-- A compound lifecycle is seen as the pair of the flat one and its inner state. -/
theorem projects (compound : CompoundLifecycle ι κ) :
    Projects Unstarted compound.perform compound.paired some
      (Paired.perform compound.moves) where
  remains := by
    intro machine event unstarted
    unfold perform
    rcases sent : compound.send machine event with _ | next
    · exact unstarted
    · exact unstarted_send sent
  kept := by
    rintro machine event _ unstarted ⟨⟩
    unfold perform Paired.perform
    rw [send_paired unstarted, attempt_map]
    refine ⟨?_, ?_⟩
    · cases compound.send machine event <;> exact (report_paired _ _).symm
    · cases compound.send machine event <;> rfl
  silent := fun _ _ _ => nofun

end CompoundLifecycle

/-! ## The two lifecycles -/

/-- The events inside `running` of `GsdLifecycle`. -/
inductive PhaseEvent where
  | startDiscuss
  | startPlan
  | startExecute
  | startUat
  | startShip
  deriving DecidableEq, Repr

/-- `GsdLifecycle`. -/
def gsdLifecycle : CompoundLifecycle GsdPhase PhaseEvent where
  initial := .idle
  moves
    | .startDiscuss, .idle => some .discuss
    | .startPlan, .discuss => some .plan
    | .startExecute, .plan => some .execute
    | .startUat, .execute => some .uat
    | .startShip, .uat => some .ship
    | _, _ => none

/-- The states inside `running` of `EventDrivenLifecycle`. -/
inductive EventPhase where
  | listening
  | processing
  deriving DecidableEq, Repr

/-- The events inside `running` of `EventDrivenLifecycle`. -/
inductive HandlingEvent where
  | startProcessing
  | doneProcessing
  deriving DecidableEq, Repr

/-- `EventDrivenLifecycle`. -/
def eventDrivenLifecycle : CompoundLifecycle EventPhase HandlingEvent where
  initial := .listening
  moves
    | .startProcessing, .listening => some .processing
    | .doneProcessing, .processing => some .listening
    | _, _ => none

def GsdEvent.compound : GsdEvent → CompoundEvent PhaseEvent
  | start => .lifecycle .start
  | work .startDiscuss => .inner .startDiscuss
  | work .startPlan => .inner .startPlan
  | work .startExecute => .inner .startExecute
  | work .startUat => .inner .startUat
  | work .startShip => .inner .startShip
  | work .sleep => .lifecycle .sleep
  | work .wake => .lifecycle .wake
  | work .error => .lifecycle .error
  | work .recover => .lifecycle .recover
  | work .block => .lifecycle .block
  | work .unblock => .lifecycle .unblock
  | beginStop => .lifecycle .beginStop
  | finishStop => .lifecycle .finishStop
  | destroy => .lifecycle .destroy

def GsdState.compound : GsdState → CompoundState GsdPhase
  | running phase => .running phase
  | outer state => .outer state

def Target.compound : Target → CompoundTarget GsdPhase
  | .phase entered => .inner entered
  | .history => .history
  | .outer state => .outer state

namespace Machine

def compound (machine : Machine) : CompoundMachine GsdPhase where
  state := machine.state.compound
  history := machine.history

/-- The machine of a container that has just been built. -/
def fresh : Machine := { state := .outer .creating, history := none }

/-- What the machine shows. -/
def report (accepted : Bool) (machine : Machine) : LifecycleReport GsdPhase :=
  machine.compound.report accepted

/-- Answer an event. -/
def perform (machine : Machine) (event : GsdEvent) : LifecycleReport GsdPhase × Machine :=
  attempt report machine (machine.send event)

theorem transition_compound (event : GsdEvent) (state : GsdState) :
    (event.transition state).map Target.compound =
      gsdLifecycle.transition event.compound state.compound := by
  cases state with
  | running phase =>
      cases event with
      | work event => cases event <;> cases phase <;> rfl
      | _ => rfl
  | outer state =>
      cases event with
      | work event => cases event <;> cases state <;> rfl
      | _ => cases state <;> rfl

theorem take_compound (machine : Machine) (target : Target) :
    (machine.take target).compound = gsdLifecycle.take machine.compound target.compound := by
  rcases machine with ⟨phase | state, history⟩ <;> cases target <;> rfl

/-- `GsdLifecycle` is the compound of the flat lifecycle and the phases. -/
theorem send_compound (machine : Machine) (event : GsdEvent) :
    (machine.send event).map compound = gsdLifecycle.send machine.compound event.compound := by
  unfold send CompoundLifecycle.send
  rw [show machine.compound.state = machine.state.compound from rfl, ← transition_compound,
    Option.map_map, Option.map_map]
  exact congrArg (Option.map · _) (funext (take_compound machine))

theorem projects : Projects (fun _ => True) perform compound (some ∘ GsdEvent.compound)
    gsdLifecycle.perform where
  remains := fun _ _ _ => trivial
  kept := by
    rintro machine event _ - ⟨⟩
    unfold perform CompoundLifecycle.perform
    rw [← send_compound, attempt_map]
    exact ⟨rfl, rfl⟩
  silent := fun _ _ _ => nofun

end Machine

/-- What an event-driven machine writes to `_fsm_state`. -/
def CompoundState.value : CompoundState EventPhase → FsmState
  | running .listening => Worker.listening
  | running .processing => Worker.processing
  | outer state => .single state.name

/-- The result of an event as the container's methods see it. -/
def orRaise {σ : Type} (value : σ → FsmState) : Option σ → Except PyExc FsmState
  | some next => .ok (value next)
  | none => .error .other

/-- `start` and `stop` of a container with a GSD lifecycle send their events to it. -/
theorem gsd_container_steps (machine : Machine) :
    orRaise (fun machine => machine.state.value) (Machine.fresh.send .start) =
        .ok (startLifecycle "gsd") ∧
      stopLifecycle machine.state.value = orRaise (fun machine => machine.state.value)
        ((machine.send .beginStop).bind (·.send .finishStop)) := by
  refine ⟨by decide, ?_⟩
  rcases machine with ⟨phase | state, history⟩
  · cases phase <;> rfl
  · cases state <;> rfl

/-- `start`, `stop` and `start_processing` of a container with an event-driven lifecycle send
their events to it. -/
theorem event_driven_container_steps (machine : CompoundMachine EventPhase) :
    orRaise (fun machine => machine.state.value)
        (eventDrivenLifecycle.send CompoundLifecycle.fresh (.lifecycle .start)) =
          .ok (startLifecycle "fulltime") ∧
      startProcessing machine.state.value = orRaise (fun machine => machine.state.value)
        (eventDrivenLifecycle.send machine (.inner .startProcessing)) ∧
      stopLifecycle machine.state.value = orRaise (fun machine => machine.state.value)
        ((eventDrivenLifecycle.send machine (.lifecycle .beginStop)).bind
          (eventDrivenLifecycle.send · (.lifecycle .finishStop))) := by
  refine ⟨by decide, ?_⟩
  rcases machine with ⟨phase | state, history⟩
  · cases phase <;> exact ⟨rfl, rfl⟩
  · cases state <;> exact ⟨rfl, rfl⟩

/-! ## What is seen from outside -/

variable {ι κ ω : Type}

/-- Where every request is kept, the view's exchanges are the machine's under other names. -/
theorem exchanges_renamed {σ τ : Type} {valid : σ → Prop} {step : σ → ι → ω × σ} {view : σ → τ}
    {rename : ι → κ} {viewed : τ → κ → ω × τ} {state : σ}
    (projects : Projects valid step view (some ∘ rename) viewed) (start : valid state)
    (requests : List ι) :
    (exchanges step state requests).map (Prod.map rename id) =
      exchanges viewed (view state) (requests.map rename) := by
  have same := projects.exchanges start requests
  rw [List.filterMap_eq_map] at same
  rw [← same, ← List.filterMap_eq_map]
  rfl

theorem exchanges_paired {κ : Type} (compound : CompoundLifecycle ι κ)
    (events : List (CompoundEvent κ)) :
    exchanges compound.perform CompoundLifecycle.fresh events =
      exchanges (Paired.perform compound.moves) ⟨.creating, compound.initial⟩ events := by
  have projects : Projects CompoundLifecycle.Unstarted compound.perform compound.paired
      (some ∘ id) (Paired.perform compound.moves) := compound.projects
  have same := exchanges_renamed projects CompoundLifecycle.unstarted_fresh events
  rwa [Prod.map_id, List.map_id, List.map_id] at same

theorem exchanges_paired_gsd (events : List GsdEvent) :
    (exchanges Machine.perform .fresh events).map (Prod.map GsdEvent.compound id) =
      exchanges (Paired.perform gsdLifecycle.moves) ⟨.creating, .idle⟩
        (events.map GsdEvent.compound) := by
  rw [exchanges_renamed Machine.projects trivial]
  exact exchanges_paired gsdLifecycle _

/-- **The lifecycles seen from outside.** Whatever events are sent to a new agent, a GSD
lifecycle and an event-driven one accept, refuse and show what the flat lifecycle does next to
an inner state that its own events alone move, while the agent is running. -/
theorem lifecycles_paired (events : List GsdEvent) (others : List (CompoundEvent HandlingEvent)) :
    (exchanges Machine.perform .fresh events).map (Prod.map GsdEvent.compound id) =
        exchanges (Paired.perform gsdLifecycle.moves) ⟨.creating, .idle⟩
          (events.map GsdEvent.compound) ∧
      exchanges eventDrivenLifecycle.perform CompoundLifecycle.fresh others =
        exchanges (Paired.perform eventDrivenLifecycle.moves) ⟨.creating, .listening⟩ others :=
  ⟨exchanges_paired_gsd events, exchanges_paired eventDrivenLifecycle others⟩

/-! ## The order of the phases -/

/-- The inner event that was accepted, if there was one. -/
def acceptedInner : CompoundEvent κ × LifecycleReport ι → Option κ
  | (.inner event, report) => if report.accepted then some event else none
  | (.lifecycle _, _) => none

namespace Paired

variable {moves : κ → ι → Option ι}

theorem send_lifecycle {pair : Paired ι} {event : LifecycleEvent} :
    pair.send moves (.lifecycle event) =
      (event.transition pair.lifecycle).map fun next => { pair with lifecycle := next } := rfl

theorem send_running {pair : Paired ι} {event : κ} (running : pair.lifecycle = .running) :
    pair.send moves (.inner event) =
      (moves event pair.inner).map fun next => { pair with inner := next } := if_pos running

theorem send_outside {pair : Paired ι} {event : κ} (outside : pair.lifecycle ≠ .running) :
    pair.send moves (.inner event) = none := if_neg outside

/-- An event moves the inner state as an inner event that is accepted, or leaves it. -/
theorem perform_inner (moves : κ → ι → Option ι) (pair : Paired ι) (event : CompoundEvent κ) :
    (acceptedInner (event, (perform moves pair event).1) = none ∧
      (perform moves pair event).2.inner = pair.inner) ∨
    ∃ moved, acceptedInner (event, (perform moves pair event).1) = some moved ∧
      moves moved pair.inner = some (perform moves pair event).2.inner := by
  cases event with
  | lifecycle event =>
      left
      rw [perform, send_lifecycle]
      cases event.transition pair.lifecycle <;> exact ⟨rfl, rfl⟩
  | inner event =>
      by_cases running : pair.lifecycle = .running
      · rw [perform, send_running running]
        rcases moved : moves event pair.inner with _ | next
        · exact Or.inl ⟨rfl, rfl⟩
        · exact Or.inr ⟨event, rfl, moved⟩
      · rw [perform, send_outside running]
        exact Or.inl ⟨rfl, rfl⟩

/-- The inner events that a pair accepts lead from its inner state to the last one, whatever
comes between them. -/
theorem run_inner (moves : κ → ι → Option ι) (pair : Paired ι)
    (events : List (CompoundEvent κ)) :
    Run (fun inner event next => moves event inner = some next) pair.inner
      ((exchanges (perform moves) pair events).filterMap acceptedInner)
      (settle (perform moves) pair events).inner := by
  induction events generalizing pair with
  | nil => exact .nil _
  | cons event rest ih =>
      have later := ih (perform moves pair event).2
      rw [exchanges_cons, settle_cons]
      rcases perform_inner moves pair event with ⟨silent, stays⟩ | ⟨moved, accepted, leads⟩
      · rw [stays] at later
        rwa [List.filterMap_cons_none silent]
      · rw [List.filterMap_cons_some accepted]
        exact .cons leads later

end Paired

/-- The events of the phases, in the order of the phases that they enter. -/
def phaseEvents : List PhaseEvent :=
  [.startDiscuss, .startPlan, .startExecute, .startUat, .startShip]

/-- How many phases come before one. -/
def GsdPhase.index : GsdPhase → ℕ
  | idle => 0
  | discuss => 1
  | plan => 2
  | execute => 3
  | uat => 4
  | ship => 5

/-- A phase event leads to the next phase. -/
theorem gsdLifecycle_moves {event : PhaseEvent} {phase next : GsdPhase}
    (moved : gsdLifecycle.moves event phase = some next) :
    next.index = phase.index + 1 ∧
      phaseEvents.drop phase.index = event :: phaseEvents.drop next.index := by
  revert moved
  cases event <;> cases phase <;> intro moved <;> cases moved <;> exact ⟨rfl, rfl⟩

theorem phases_of_run {events : List PhaseEvent} {phase last : GsdPhase}
    (run : Run (fun inner event next => gsdLifecycle.moves event inner = some next)
      phase events last) :
    last.index = phase.index + events.length ∧ events <+: phaseEvents.drop phase.index := by
  induction run with
  | nil => exact ⟨rfl, List.nil_prefix⟩
  | cons moved _ ih =>
      obtain ⟨follows, dropped⟩ := gsdLifecycle_moves moved
      rw [dropped]
      refine ⟨?_, (List.prefix_cons_inj _).mpr ih.2⟩
      rw [ih.1, follows, List.length_cons]
      omega

/-- The phase event that a GSD agent accepted, if it accepted one. -/
def acceptedPhase (exchange : GsdEvent × LifecycleReport GsdPhase) : Option PhaseEvent :=
  acceptedInner (exchange.1.compound, exchange.2)

/-- A live GSD agent remembers the phase of the pair. -/
theorem Machine.remembered_settle (events : List GsdEvent) :
    (settle Machine.perform .fresh events).remembered =
      (settle (Paired.perform gsdLifecycle.moves) ⟨.creating, .idle⟩
        (events.map GsdEvent.compound)).inner := by
  have outer := @Projects.settle _ _ _ _ _ _ _ _ _ _ fresh projects trivial events
  have inner := gsdLifecycle.projects.settle CompoundLifecycle.unstarted_fresh
    (events.map GsdEvent.compound)
  rw [List.filterMap_eq_map] at outer
  rw [List.filterMap_some] at inner
  change Machine.compound _ = settle gsdLifecycle.perform CompoundLifecycle.fresh _ at outer
  rw [← outer] at inner
  have phase (machine : Machine) :
      machine.remembered = (gsdLifecycle.paired machine.compound).inner := by
    rcases machine with ⟨phase | state, history⟩ <;> rfl
  rw [phase, inner]
  rfl

/-- **The order of the phases.** Over the whole life of a GSD agent, through every sleep, error
and block, its phases are entered one after the other and each at most once, and the agent is
always in the phase that it has entered last, or comes back to it. -/
theorem gsd_phases_in_order (events : List GsdEvent) :
    (exchanges Machine.perform .fresh events).filterMap acceptedPhase <+: phaseEvents ∧
      (settle Machine.perform .fresh events).remembered.index =
        ((exchanges Machine.perform .fresh events).filterMap acceptedPhase).length := by
  have accepted : (exchanges Machine.perform .fresh events).filterMap acceptedPhase =
      (exchanges (Paired.perform gsdLifecycle.moves) ⟨.creating, .idle⟩
        (events.map GsdEvent.compound)).filterMap acceptedInner := by
    rw [← exchanges_paired_gsd, List.filterMap_map]
    rfl
  obtain ⟨last, ordered⟩ := phases_of_run (Paired.run_inner gsdLifecycle.moves
    ⟨.creating, .idle⟩ (events.map GsdEvent.compound))
  rw [accepted, Machine.remembered_settle]
  exact ⟨ordered, last.trans (Nat.zero_add _)⟩

end Vcompany.Worker
