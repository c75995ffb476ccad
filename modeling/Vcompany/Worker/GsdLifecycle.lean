import Vcompany.Worker.SessionHandler

/-! # The lifecycle of a GSD agent

The `running` state of `GsdLifecycle` is a compound of the phases, and its history state
re-enters the phase that was active when `running` was last left, or else the initial one.
So a machine always stands for one phase, the one it is in or would come back to
(`Machine.remembered`), and no transition but those into a phase changes it
(`Machine.send_remembered`).

The configuration is kept in the container, as texts; the history is the machine's own.
-/

namespace Vcompany.Worker

open Foundation

/-- The states inside `running`. -/
inductive GsdPhase where
  | idle
  | discuss
  | plan
  | execute
  | uat
  | ship
  deriving DecidableEq, Repr

/-- The states beside `running`. -/
inductive OuterState where
  | creating
  | sleeping
  | blocked
  | stopping
  | errored
  | stopped
  | destroyed
  deriving DecidableEq, Repr

inductive GsdState where
  | running (phase : GsdPhase)
  | outer (state : OuterState)
  deriving DecidableEq, Repr

def GsdPhase.name : GsdPhase → Text
  | idle => "idle"
  | discuss => "discuss"
  | plan => "plan"
  | execute => "execute"
  | uat => "uat"
  | ship => "ship"

def OuterState.name : OuterState → Text
  | creating => "creating"
  | sleeping => "sleeping"
  | blocked => "blocked"
  | stopping => "stopping"
  | errored => "errored"
  | stopped => "stopped"
  | destroyed => "destroyed"

/-- The events of a working agent. -/
inductive WorkEvent where
  | startDiscuss
  | startPlan
  | startExecute
  | startUat
  | startShip
  | sleep
  | wake
  | error
  | recover
  | block
  | unblock
  deriving DecidableEq, Repr

inductive GsdEvent where
  | start
  | work (event : WorkEvent)
  | beginStop
  | finishStop
  | destroy
  deriving DecidableEq, Repr

/-- Where a transition leads: into a phase of `running`, to its history state, or out of it. -/
inductive Target where
  | phase (phase : GsdPhase)
  | history
  | outer (state : OuterState)
  deriving DecidableEq, Repr

/-- The transitions of `GsdLifecycle`. -/
def GsdEvent.transition : GsdEvent → GsdState → Option Target
  | start, .outer .creating => some (.phase .idle)
  | work .startDiscuss, .running .idle => some (.phase .discuss)
  | work .startPlan, .running .discuss => some (.phase .plan)
  | work .startExecute, .running .plan => some (.phase .execute)
  | work .startUat, .running .execute => some (.phase .uat)
  | work .startShip, .running .uat => some (.phase .ship)
  | work .sleep, .running _ => some (.outer .sleeping)
  | work .wake, .outer .sleeping => some .history
  | work .error, .outer .creating => some (.outer .errored)
  | work .error, .running _ => some (.outer .errored)
  | work .error, .outer .sleeping => some (.outer .errored)
  | work .error, .outer .blocked => some (.outer .errored)
  | work .recover, .outer .errored => some .history
  | work .block, .running _ => some (.outer .blocked)
  | work .unblock, .outer .blocked => some .history
  | beginStop, .running _ => some (.outer .stopping)
  | beginStop, .outer .sleeping => some (.outer .stopping)
  | beginStop, .outer .errored => some (.outer .stopping)
  | beginStop, .outer .blocked => some (.outer .stopping)
  | finishStop, .outer .stopping => some (.outer .stopped)
  | destroy, .outer .stopped => some (.outer .destroyed)
  | destroy, .outer .errored => some (.outer .destroyed)
  | _, _ => none

/-- A live machine: its state, and the phase in which `running` was last left. -/
structure Machine where
  state : GsdState
  history : Option GsdPhase
  deriving DecidableEq, Repr

/-- The phase that the state is in. -/
def GsdState.phase : GsdState → Option GsdPhase
  | running phase => some phase
  | outer _ => none

namespace Machine

/-- Take a transition. Leaving `running` sets the history. A history state that has nothing
recorded is assumed to enter the initial phase. -/
def take (machine : Machine) : Target → Machine
  | .phase phase => { machine with state := .running phase }
  | .history => { machine with state := .running (machine.history.getD .idle) }
  | .outer state =>
      { state := .outer state, history := machine.state.phase.or machine.history }

/-- Send an event; none for `TransitionNotAllowed`. -/
def send (machine : Machine) (event : GsdEvent) : Option Machine :=
  (event.transition machine.state).map machine.take

/-- The phase that the machine is in, or else the one that its history state re-enters. -/
def remembered (machine : Machine) : GsdPhase :=
  (machine.state.phase.or machine.history).getD .idle

end Machine

/-- The phase that the event enters, unless it leads out of `running` or back to its history
state. -/
def GsdEvent.enters : GsdEvent → Option GsdPhase
  | start => some .idle
  | work .startDiscuss => some .discuss
  | work .startPlan => some .plan
  | work .startExecute => some .execute
  | work .startUat => some .uat
  | work .startShip => some .ship
  | _ => none

/-- A transition enters the phase of its event, goes back to the history state from outside,
or leads out. -/
theorem GsdEvent.transition_cases {event : GsdEvent} {state : GsdState} {target : Target}
    (taken : event.transition state = some target) :
    (∃ phase, event.enters = some phase ∧ target = .phase phase) ∨
      event.enters = none ∧
        (target = .history ∧ state.phase = none ∨ ∃ outer, target = .outer outer) := by
  revert taken
  fun_cases GsdEvent.transition event state with
  | case1 | case2 | case3 | case4 | case5 | case6 =>
      intro taken
      exact Or.inl ⟨_, rfl, (Option.some.inj taken).symm⟩
  | case8 | case13 | case15 =>
      intro taken
      exact Or.inr ⟨rfl, Or.inl ⟨(Option.some.inj taken).symm, rfl⟩⟩
  | case23 => exact nofun
  | _ =>
      intro taken
      exact Or.inr ⟨rfl, Or.inr ⟨_, (Option.some.inj taken).symm⟩⟩

/-- **What a machine remembers.** An event that enters a phase sets the remembered phase, and
any other keeps it. -/
theorem Machine.send_remembered {machine next : Machine} {event : GsdEvent}
    (sent : machine.send event = some next) :
    next.remembered = event.enters.getD machine.remembered := by
  obtain ⟨target, taken, rfl⟩ := Option.map_eq_some_iff.mp sent
  rcases event.transition_cases taken with
    ⟨phase, enters, rfl⟩ | ⟨enters, ⟨rfl, outside⟩ | ⟨outer, rfl⟩⟩
  · rw [enters]
    rfl
  · have kept : machine.remembered = machine.history.getD .idle := by
      rw [remembered, outside, Option.none_or]
    rw [enters]
    exact kept.symm
  · rw [enters]
    rfl

/-! ## The configuration in the container -/

/-- The values of the active states. -/
def GsdState.configuration : GsdState → Configuration
  | running phase =>
      ⟨["running", phase.name], List.cons_ne_nil _ _, by cases phase <;> decide⟩
  | outer state => ⟨[state.name], List.cons_ne_nil _ _, List.nodup_singleton _⟩

/-- What the machine writes to `_fsm_state`: a set of values inside `running`, and otherwise
one value. -/
def GsdState.value : GsdState → FsmState
  | running phase => .configuration (running phase).configuration
  | outer state => .single state.name

def GsdState.all : List GsdState :=
  [.running .idle, .running .discuss, .running .plan, .running .execute, .running .uat,
    .running .ship, .outer .creating, .outer .sleeping, .outer .blocked, .outer .stopping,
    .outer .errored, .outer .stopped, .outer .destroyed]

/-- The state with the values of `_fsm_state`. A machine without a value is in its initial
state. -/
def GsdState.read : FsmState → Option GsdState
  | .unset => some (.outer .creating)
  | value => GsdState.all.find? fun state => state.configuration = value.recorded

namespace GsdState

@[simp] theorem read_value (state : GsdState) : read state.value = some state := by
  cases state with
  | running phase => cases phase <;> decide
  | outer state => cases state <;> decide

/-- A restored configuration is a set of values also outside `running`. -/
@[simp] theorem read_configuration (state : GsdState) :
    read (.configuration state.configuration) = some state := by
  cases state with
  | running phase => cases phase <;> decide
  | outer state => cases state <;> decide

variable {value : FsmState} {state : GsdState}

/-- A machine that has left its initial state has recorded its state. -/
theorem recorded_of_read (known : read value = some state) (left : state ≠ .outer .creating) :
    value.recorded = state.configuration := by
  unfold read at known
  split at known
  · exact absurd (Option.some.inj known).symm left
  · exact (of_decide_eq_true (List.find?_some known :)).symm

theorem innerState_configuration (state : GsdState) :
    (FsmState.configuration state.configuration).innerState = state.phase.map GsdPhase.name := by
  cases state <;> rfl

theorem innerState_of_read (known : read value = some state) :
    value.innerState = state.phase.map GsdPhase.name := by
  cases value with
  | unset =>
      obtain rfl := Option.some.inj known
      rfl
  | single text =>
      have matched : state.configuration = (FsmState.single text).recorded :=
        of_decide_eq_true (List.find?_some known :)
      cases state with
      | running phase => cases congrArg (fun values => values.states.length) matched
      | outer state => rfl
  | configuration values =>
      have matched : state.configuration = values := of_decide_eq_true (List.find?_some known :)
      rw [← matched]
      exact innerState_configuration state

theorem configuration_injective : Function.Injective configuration := by
  intro first second same
  have read := read_configuration first
  rw [same, read_configuration second] at read
  exact (Option.some.inj read).symm

end GsdState

end Vcompany.Worker
