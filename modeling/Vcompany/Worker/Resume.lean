import Vcompany.Worker.GsdLifecycle
import Vcompany.Worker.Main

/-! # Resuming a GSD worker

A worker with the GSD lifecycle writes a checkpoint when it is stopped, and a worker that is
started over the same store takes its configuration from there. The history of the lifecycle is
not in the checkpoint. Hence a worker resumes where it was exactly when it was stopped in
`running`, or would have come back to the initial phase anyway (`reached_resumes_iff`).
-/

namespace Vcompany.Worker

open Foundation

/-! ## The container with its machine -/

/-- A container with the session handler and the GSD lifecycle. -/
structure GsdWorker where
  container : WorkerContainer
  history : Option GsdPhase

/-- The container that `on_start` has restored, before it reads the assignment. -/
def resolvedContainer (container : WorkerContainer) : WorkerContainer :=
  let restored := restoreFromCheckpoint container
  { restored with gsdCommand := resolveGsdCommand restored }

namespace GsdWorker

/-- A new worker process over a store. -/
def new (agentId : Text) (gsdCommand : Option Text) (memory : MemoryStore) : GsdWorker where
  container :=
    WorkerContainer.new { handlerType := "session", gsdCommand := gsdCommand } agentId memory
  history := none

def machine (worker : GsdWorker) : Option Machine :=
  (GsdState.read worker.container.fsmState).map fun state => ⟨state, worker.history⟩

def moved (worker : GsdWorker) (next : Machine) : GsdWorker where
  container := { worker.container with fsmState := next.state.value }
  history := next.history

/-- Send an event to the lifecycle of the container. -/
def send (worker : GsdWorker) (event : GsdEvent) : Option GsdWorker :=
  (worker.machine.bind fun machine => machine.send event).map worker.moved

/-- `WorkerContainer.start`: how it ends, and what it leaves. -/
def start (py : PyRuntime) (worker : GsdWorker) : Except PyExc Unit × GsdWorker :=
  match worker.send .start with
  | none => (.error .other, worker)
  | some begun =>
      let opened := { begun.container with memory := begun.container.memory.open }
      match onStart py opened with
      | .ok container => (.ok (), { begun with container := container })
      | .error raised => (.error raised, { begun with container := resolvedContainer opened })

/-- `WorkerContainer.stop`: how it ends, and what it leaves. -/
def stop (now : Moment) (worker : GsdWorker) : Except PyExc Unit × GsdWorker :=
  match onStop now worker.container with
  | .error raised => (.error raised, worker)
  | .ok container =>
      let recorded := { worker with container := container }
      match recorded.send .beginStop with
      | none => (.error .other, recorded)
      | some stopping =>
          match stopping.send .finishStop with
          | none => (.error .other, stopping)
          | some stopped =>
              (.ok (), { stopped with container := { stopped.container with
                memory := stopped.container.memory.close } })

/-- A new process for the agent over what is stored. -/
def restart (gsdCommand : Option Text) (worker : GsdWorker) : GsdWorker :=
  new worker.container.agentId gsdCommand worker.container.memory.close

end GsdWorker

/-- What happens to a GSD worker: calls of its container and events of its lifecycle, whether
they are refused or not, and new processes. -/
inductive WorkerOperation where
  | start
  | stop (now : Moment)
  | send (event : WorkEvent)
  | restart (gsdCommand : Option Text)

/-- What an operation leaves. -/
def GsdWorker.perform (py : PyRuntime) (worker : GsdWorker) : WorkerOperation → GsdWorker
  | .start => (worker.start py).2
  | .stop now => (worker.stop now).2
  | .send event => (worker.send (.work event)).getD worker
  | .restart gsdCommand => worker.restart gsdCommand

/-- The worker that the operations lead to, from the first process of an agent. -/
def reached (py : PyRuntime) (agentId : Text) (gsdCommand : Option Text)
    (kv : List (Text × Text)) (operations : List WorkerOperation) : GsdWorker :=
  operations.foldl (GsdWorker.perform py)
    (GsdWorker.new agentId gsdCommand { opened := false, kv := kv, checkpoints := [] })

/-! ## Coming back -/

/-- The command that resumes a phase: an idle agent has the one of its configuration. -/
def resumeCommand (phase : GsdPhase) (configured : Option Text) : Option Text :=
  match phaseResumeCommands.find? fun entry => entry.1 = phase.name with
  | some (_, command) => some command
  | none => configured

/-- The event that brings a machine back to `running`. -/
def GsdState.comeback : GsdState → Option WorkEvent
  | outer .sleeping => some .wake
  | outer .blocked => some .unblock
  | outer .errored => some .recover
  | _ => none

namespace GsdWorker

/-- The phase that the worker is in, or would come back to. -/
def remembered (worker : GsdWorker) : GsdPhase :=
  (worker.machine.map Machine.remembered).getD .idle

/-- The worker after the event that brings it back, if its state asks for one. -/
def back (worker : GsdWorker) (state : Option GsdState) : GsdWorker :=
  match state.bind GsdState.comeback with
  | some event => (worker.send (.work event)).getD worker
  | none => worker

/-- The worker can be stopped, and whatever further stops it gets, a new process is where the
worker was, with the command to resume. -/
def Resumes (py : PyRuntime) (worker : GsdWorker) : Prop :=
  ∀ (now : Moment) (further : List Moment) (gsdCommand : Option Text),
    ∃ stopped, worker.stop now = (.ok (), stopped) ∧
    let last := further.foldl (fun worker now => (stop now worker).2) stopped
    let restarted := (start py (restart gsdCommand last)).2
    let resumed := restarted.back (worker.machine.map Machine.state)
    restarted.container.fsmState.state ∉
        [OuterState.stopping.name, OuterState.stopped.name, OuterState.destroyed.name] ∧
      resumed.container.fsmState.innerState = some worker.remembered.name ∧
      resumed.container.gsdCommand = resumeCommand worker.remembered gsdCommand

end GsdWorker

/-! ## Live states -/

/-- The states of a worker that has been started and not been stopped. -/
inductive GsdState.Live : GsdState → Prop where
  | running (phase : GsdPhase) : Live (.running phase)
  | sleeping : Live (.outer .sleeping)
  | blocked : Live (.outer .blocked)
  | errored : Live (.outer .errored)

namespace GsdState.Live

variable {state : GsdState}

theorem ne_creating (live : state.Live) : state ≠ .outer .creating := by
  cases live <;> exact nofun

theorem beginStop (live : state.Live) :
    GsdEvent.beginStop.transition state = some (.outer .stopping) := by
  cases live <;> rfl

theorem validStates (live : state.Live) :
    ∀ value ∈ state.configuration.states, value ∈ Worker.validStates := by
  cases live with
  | running phase => cases phase <;> decide
  | sleeping | blocked | errored => decide

theorem not_ending (live : state.Live) :
    (FsmState.configuration state.configuration).state ∉
      [OuterState.stopping.name, OuterState.stopped.name, OuterState.destroyed.name] := by
  cases live with
  | running phase => cases phase <;> decide
  | sleeping | blocked | errored => decide

theorem of_leaving {event : WorkEvent} {outer : OuterState}
    (taken : (GsdEvent.work event).transition state = some (.outer outer)) :
    Live (.outer outer) := by
  generalize same : GsdEvent.work event = sent at taken
  revert same taken
  fun_cases GsdEvent.transition sent state with
  | case7 | case9 | case10 | case11 | case12 | case14 =>
      intro _ taken
      cases taken
      constructor
  | case16 | case17 | case18 | case19 | case20 | case21 | case22 =>
      intro same
      cases same
  | _ =>
      intro _ taken
      cases taken

theorem stoppable (live : state.Live) :
    state.configuration.states.head state.configuration.nonempty ∈
      (["running", "sleeping", "errored", "blocked"] : List String).map String.toList := by
  cases live with
  | running phase => cases phase <;> decide
  | sleeping | blocked | errored => decide

/-- The events of a working agent lead to live states. -/
theorem of_work {machine next : Machine} {event : WorkEvent}
    (sent : machine.send (.work event) = some next) : next.state.Live := by
  obtain ⟨target, taken, rfl⟩ := Option.map_eq_some_iff.mp sent
  rcases GsdEvent.transition_cases taken with
    ⟨phase, _, rfl⟩ | ⟨_, ⟨rfl, _⟩ | ⟨outer, rfl⟩⟩
  · exact running phase
  · exact running _
  · exact of_leaving taken

end GsdState.Live

/-! ## The calls of a container -/

/-- The latest checkpoint of the phase. -/
def MemoryStore.latestPhase (store : MemoryStore) : Option CheckpointData :=
  (store.checkpoints.find? fun row => row.1 = ("gsd_phase" : Text)).map Prod.snd

section

variable {py : PyRuntime} {now : Moment} {container : WorkerContainer} {worker : GsdWorker}
  {state : GsdState}

theorem onStop_of_closed (closed : container.memory.opened = false) :
    onStop now container = .error .assertionError := by
  simp [onStop, MemoryStore.checkpoint, closed, PyExc.error_bind]

theorem onStop_of_opened (opened : container.memory.opened = true) :
    ∃ memory checkpoint, onStop now container = .ok { container with memory := memory } ∧
      memory.latestPhase = some checkpoint ∧
      checkpoint.configuration = container.fsmState.recorded := by
  unfold onStop
  dsimp only
  rw [MemoryStore.checkpoint_of_opened opened, PyExc.ok_bind,
    MemoryStore.set_of_opened (by exact opened), PyExc.ok_bind]
  exact ⟨_, _, rfl, rfl, rfl⟩

theorem restoreFromCheckpoint_of_none (fresh : container.memory.latestPhase = none) :
    restoreFromCheckpoint container = container := by
  unfold restoreFromCheckpoint MemoryStore.getLatestCheckpoint
  unfold MemoryStore.latestPhase at fresh
  rw [fresh]
  cases container.memory.opened <;> rfl

/-- The checkpoint of a live state is restored. -/
theorem restoreFromCheckpoint_of_live {checkpoint : CheckpointData}
    (opened : container.memory.opened = true)
    (latest : container.memory.latestPhase = some checkpoint)
    (recorded : checkpoint.configuration = state.configuration) (live : state.Live) :
    restoreFromCheckpoint container =
      { container with fsmState := .configuration state.configuration } := by
  unfold restoreFromCheckpoint MemoryStore.getLatestCheckpoint
  unfold MemoryStore.latestPhase at latest
  rw [if_pos opened, latest]
  dsimp only
  rw [recorded, if_pos live.validStates]

/-- The command is the one for the phase of a running container. -/
theorem resolveGsdCommand_of_read (known : GsdState.read container.fsmState = some state) :
    resolveGsdCommand container =
      resumeCommand (state.phase.getD .idle) container.gsdCommand := by
  unfold resolveGsdCommand
  rw [GsdState.innerState_of_read known]
  cases state <;> rfl

/-- A restored container has the command for its phase. -/
theorem resolvedContainer_eq {value : FsmState}
    (restored : restoreFromCheckpoint container = { container with fsmState := value })
    (known : GsdState.read value = some state) :
    resolvedContainer container = { container with
      fsmState := value
      gsdCommand := resumeCommand (state.phase.getD .idle) container.gsdCommand } := by
  unfold resolvedContainer
  rw [restored]
  dsimp only
  rw [@resolveGsdCommand_of_read { container with fsmState := value } state known]

theorem onStart_eq {next : WorkerContainer} (started : onStart py container = .ok next) :
    ∃ assignment, next = { resolvedContainer container with currentAssignment := assignment } := by
  unfold onStart at started
  obtain ⟨stored, _, started⟩ := PyExc.bind_eq_ok_iff.mp started
  cases stored with
  | none => exact ⟨_, (Except.ok.inj started).symm⟩
  | some raw =>
      dsimp only at started
      split at started
      · exact ⟨_, (Except.ok.inj started).symm⟩
      · exact ⟨_, (Except.ok.inj started).symm⟩
      · cases started

namespace GsdWorker

theorem machine_of_read (known : GsdState.read worker.container.fsmState = some state) :
    worker.machine = some ⟨state, worker.history⟩ := by
  rw [machine, known, Option.map_some]

theorem send_of_read (known : GsdState.read worker.container.fsmState = some state)
    (event : GsdEvent) : worker.send event =
      ((⟨state, worker.history⟩ : Machine).send event).map worker.moved := by
  rw [send, machine_of_read known, Option.bind_some]

/-- Only a created container starts. -/
theorem start_of_left (known : GsdState.read worker.container.fsmState = some state)
    (left : state ≠ .outer .creating) : worker.start py = (.error .other, worker) := by
  have refused : GsdEvent.start.transition state = none := by
    cases state with
    | running phase => rfl
    | outer outer => cases outer <;> first | rfl | exact absurd rfl left
  rw [start, send_of_read known, Machine.send, refused]
  rfl

/-- A created container when its handler is started. -/
def begun (container : WorkerContainer) : WorkerContainer :=
  { container with fsmState := (GsdState.running .idle).value, memory := container.memory.open }

theorem start_eq (created : GsdState.read worker.container.fsmState =
    some (.outer .creating)) : worker.start py =
      match onStart py (begun worker.container) with
      | .ok container => (.ok (), { worker with container := container })
      | .error raised =>
          (.error raised,
            { worker with container := resolvedContainer (begun worker.container) }) := by
  rw [start, send_of_read created]
  rfl

/-- What a created container is after its start. -/
theorem start_of_created (created : GsdState.read worker.container.fsmState =
    some (.outer .creating)) : ∃ assignment, (worker.start py).2 =
      { worker with container := { resolvedContainer (begun worker.container) with
        currentAssignment := assignment } } := by
  rw [start_eq created]
  split
  · next container started =>
      obtain ⟨assignment, same⟩ := onStart_eq started
      exact ⟨assignment, by rw [same]⟩
  · exact ⟨_, rfl⟩

theorem stop_of_closed (closed : worker.container.memory.opened = false) :
    worker.stop now = (.error .assertionError, worker) := by
  rw [stop, onStop_of_closed closed]

/-- A live worker that is stopped leaves its configuration in the store. -/
theorem stop_of_live (known : GsdState.read worker.container.fsmState = some state)
    (live : state.Live) (opened : worker.container.memory.opened = true) :
    ∃ memory checkpoint, onStop now worker.container =
        .ok { worker.container with memory := memory } ∧
      worker.stop now = (.ok (), {
        container := { worker.container with
          fsmState := (GsdState.outer .stopped).value, memory := memory.close }
        history := state.phase.or worker.history }) ∧
      memory.latestPhase = some checkpoint ∧
      checkpoint.configuration = state.configuration := by
  obtain ⟨memory, checkpoint, recorded, latest, same⟩ := @onStop_of_opened now _ opened
  rw [GsdState.recorded_of_read known live.ne_creating] at same
  have stopping := @send_of_read
    { worker with container := { worker.container with memory := memory } } state known .beginStop
  rw [Machine.send, live.beginStop] at stopping
  refine ⟨memory, checkpoint, recorded, ?_, latest, same⟩
  unfold stop
  rw [recorded]
  dsimp only
  rw [stopping]
  rfl

end GsdWorker

/-! ## Reachable workers -/

/-- The machine is in the state, which is live while the store is open, and the store has no
checkpoint of the phase but those of live states. -/
structure Sound (worker : GsdWorker) (state : GsdState) : Prop where
  known : GsdState.read worker.container.fsmState = some state
  live : worker.container.memory.opened = true → state.Live
  checkpointed : ∀ checkpoint, worker.container.memory.latestPhase = some checkpoint →
    ∃ recorded : GsdState, recorded.Live ∧ checkpoint.configuration = recorded.configuration

namespace Sound

theorem new (agentId : Text) (gsdCommand : Option Text) {memory : MemoryStore}
    (closed : memory.opened = false)
    (checkpointed : ∀ checkpoint, memory.latestPhase = some checkpoint →
      ∃ recorded : GsdState, recorded.Live ∧ checkpoint.configuration = recorded.configuration) :
    Sound (GsdWorker.new agentId gsdCommand memory) (.outer .creating) :=
  ⟨rfl, fun opened => absurd (closed.symm.trans opened) nofun, checkpointed⟩

theorem restart (sound : Sound worker state) (gsdCommand : Option Text) :
    Sound (worker.restart gsdCommand) (.outer .creating) :=
  new _ _ rfl sound.checkpointed

theorem send (sound : Sound worker state) (event : WorkEvent) :
    ∃ next, Sound ((worker.send (.work event)).getD worker) next := by
  rw [GsdWorker.send_of_read sound.known]
  rcases sent : (⟨state, worker.history⟩ : Machine).send (.work event) with _ | machine
  · exact ⟨state, sound⟩
  · exact ⟨machine.state, GsdState.read_value _, fun _ => .of_work sent, sound.checkpointed⟩

theorem stop (sound : Sound worker state) (now : Moment) :
    ∃ next, Sound (worker.stop now).2 next := by
  rcases opened : worker.container.memory.opened with _ | _
  · exact ⟨state, by rwa [GsdWorker.stop_of_closed opened]⟩
  · have live := sound.live opened
    obtain ⟨memory, checkpoint, _, returned, latest, same⟩ :=
      @GsdWorker.stop_of_live now _ _ sound.known live opened
    rw [returned]
    refine ⟨.outer .stopped, GsdState.read_value (.outer .stopped), nofun, fun last found => ?_⟩
    obtain rfl := Option.some.inj (latest.symm.trans found)
    exact ⟨state, live, same⟩

/-- A start restores the live state of the latest checkpoint, or begins in the idle phase. -/
theorem start_created (sound : Sound worker (.outer .creating)) : ∃ next : GsdState, next.Live ∧
    (∀ checkpoint, worker.container.memory.latestPhase = some checkpoint →
      checkpoint.configuration = next.configuration) ∧
    GsdState.read (worker.start py).2.container.fsmState = some next ∧
    (worker.start py).2.container.fsmState = .configuration next.configuration ∧
    (worker.start py).2.container.gsdCommand =
      resumeCommand (next.phase.getD .idle) worker.container.gsdCommand ∧
    (worker.start py).2.container.memory = worker.container.memory.open ∧
    (worker.start py).2.history = worker.history := by
  obtain ⟨assignment, started⟩ := @GsdWorker.start_of_created py _ sound.known
  rw [started]
  rcases latest : worker.container.memory.latestPhase with _ | checkpoint
  · have restored := @restoreFromCheckpoint_of_none (GsdWorker.begun worker.container) latest
    refine ⟨.running .idle, .running _, nofun, ?_⟩
    have known := GsdState.read_value (.running .idle)
    rw [resolvedContainer_eq restored known]
    exact ⟨known, rfl, rfl, rfl, rfl⟩
  · obtain ⟨recorded, live, same⟩ := sound.checkpointed checkpoint latest
    have restored := @restoreFromCheckpoint_of_live (GsdWorker.begun worker.container) recorded
      checkpoint rfl latest same live
    refine ⟨recorded, live, fun _ found => Option.some.inj found ▸ same, ?_⟩
    have known := GsdState.read_configuration recorded
    rw [resolvedContainer_eq restored known]
    exact ⟨known, rfl, rfl, rfl, rfl⟩

theorem start (sound : Sound worker state) : ∃ next, Sound (worker.start py).2 next := by
  by_cases created : state = .outer .creating
  · rw [created] at sound
    obtain ⟨next, live, _, known, _, _, memory, _⟩ := @start_created py _ sound
    refine ⟨next, known, fun _ => live, fun checkpoint latest => ?_⟩
    rw [memory] at latest
    exact sound.checkpointed checkpoint latest
  · rw [GsdWorker.start_of_left sound.known created]
    exact ⟨state, sound⟩

/-- What an operation keeps. -/
theorem perform (sound : Sound worker state) (operation : WorkerOperation) :
    ∃ next, Sound (worker.perform py operation) next := by
  cases operation with
  | start => exact sound.start
  | stop now => exact sound.stop now
  | send event => exact sound.send event
  | restart gsdCommand => exact ⟨_, sound.restart gsdCommand⟩

end Sound

/-- Every worker that is reached is sound. -/
theorem reached_sound (py : PyRuntime) (agentId : Text) (gsdCommand : Option Text)
    (kv : List (Text × Text)) (operations : List WorkerOperation) :
    ∃ state, Sound (reached py agentId gsdCommand kv operations) state := by
  have kept (operations : List WorkerOperation) (worker : GsdWorker) (state : GsdState)
      (sound : Sound worker state) :
      ∃ next, Sound (operations.foldl (GsdWorker.perform py) worker) next := by
    induction operations generalizing worker state with
    | nil => exact ⟨state, sound⟩
    | cons operation rest ih =>
        obtain ⟨next, performed⟩ := sound.perform operation
        exact ih _ next performed
  exact kept operations _ _ (Sound.new agentId gsdCommand rfl nofun)

/-! ## Where a worker resumes -/

theorem state_of_read (known : GsdState.read worker.container.fsmState = some state)
    (left : state ≠ .outer .creating) : worker.container.fsmState.state =
      state.configuration.states.head state.configuration.nonempty := by
  rw [← GsdState.recorded_of_read known left]
  cases value : worker.container.fsmState with
  | unset =>
      rw [value] at known
      exact absurd (Option.some.inj known).symm left
  | single text => rfl
  | configuration values => rfl

theorem GsdPhase.name_eq_idle_iff {phase : GsdPhase} : phase.name = GsdPhase.idle.name ↔
    phase = .idle := by
  cases phase <;> decide

/-- Further stops of a stopped worker raise, and leave it as it is. -/
theorem further_stops (closed : worker.container.memory.opened = false) (further : List Moment) :
    further.foldl (fun worker now => (GsdWorker.stop now worker).2) worker = worker := by
  induction further with
  | nil => rfl
  | cons now rest ih => rwa [List.foldl_cons, GsdWorker.stop_of_closed closed]

/-- A process that starts after a worker was stopped is in the worker's state, and has no
history. -/
theorem Sound.restarted (sound : Sound worker state)
    (opened : worker.container.memory.opened = true) (now : Moment) (further : List Moment)
    (gsdCommand : Option Text) : ∃ stopped, worker.stop now = (.ok (), stopped) ∧
      let last := further.foldl (fun worker now => (GsdWorker.stop now worker).2) stopped
      let restarted := (GsdWorker.start py (GsdWorker.restart gsdCommand last)).2
      GsdState.read restarted.container.fsmState = some state ∧
        restarted.container.fsmState = .configuration state.configuration ∧
        restarted.container.gsdCommand = resumeCommand (state.phase.getD .idle) gsdCommand ∧
        restarted.history = none := by
  obtain ⟨memory, checkpoint, _, returned, latest, same⟩ :=
    @GsdWorker.stop_of_live now _ _ sound.known (sound.live opened) opened
  obtain ⟨_, soundStopped⟩ := sound.stop now
  rw [returned] at soundStopped
  refine ⟨_, returned, ?_⟩
  dsimp only
  rw [further_stops rfl]
  obtain ⟨next, _, recorded, known, value, command, _, history⟩ :=
    @Sound.start_created py _ (soundStopped.restart gsdCommand)
  obtain rfl : next = state := GsdState.configuration_injective
    ((recorded checkpoint latest).symm.trans same)
  exact ⟨known, value, command, history⟩

/-- Without a history, the event that brings a worker back leads to the initial phase. -/
theorem GsdState.Live.back (live : state.Live)
    (known : GsdState.read worker.container.fsmState = some state)
    (value : worker.container.fsmState = .configuration state.configuration)
    (fresh : worker.history = none) :
    (worker.back (some state)).container.fsmState.innerState =
        some (state.phase.getD .idle).name ∧
      (worker.back (some state)).container.gsdCommand = worker.container.gsdCommand := by
  have moves (event : WorkEvent) (comeback : state.comeback = some event)
      (taken : (GsdEvent.work event).transition state = some .history) :
      worker.back (some state) = worker.moved ⟨.running .idle, none⟩ := by
    rw [GsdWorker.back, Option.bind_some, comeback]
    dsimp only
    rw [GsdWorker.send_of_read known, Machine.send, taken, fresh]
    rfl
  cases live with
  | running phase =>
      have stays : worker.back (some (.running phase)) = worker := rfl
      rw [stays, value]
      exact ⟨rfl, rfl⟩
  | sleeping => rw [moves .wake rfl rfl]; exact ⟨rfl, rfl⟩
  | blocked => rw [moves .unblock rfl rfl]; exact ⟨rfl, rfl⟩
  | errored => rw [moves .recover rfl rfl]; exact ⟨rfl, rfl⟩

/-- A worker whose store is open resumes exactly if it is in `running` or would come back to
the initial phase. -/
theorem Sound.resumes_iff (sound : Sound worker state)
    (opened : worker.container.memory.opened = true) :
    worker.Resumes py ↔ state.phase ≠ none ∨ worker.remembered = .idle := by
  have live := sound.live opened
  have machine := GsdWorker.machine_of_read sound.known
  have remembered : worker.remembered = (state.phase.or worker.history).getD .idle := by
    rw [GsdWorker.remembered, machine]
    rfl
  have comesBack (now : Moment) (further : List Moment) (gsdCommand : Option Text) :=
    @Sound.restarted py _ _ sound opened now further gsdCommand
  unfold GsdWorker.Resumes
  rw [machine, Option.map_some]
  constructor
  · intro resumes
    rcases inside : state.phase with _ | phase
    · obtain ⟨stopped, returned, _, inner, _⟩ := resumes { isoformat := [], uptime := 0 } [] none
      obtain ⟨_, same, known, value, _, fresh⟩ := comesBack { isoformat := [], uptime := 0 } [] none
      obtain rfl := (Prod.mk.inj (returned.symm.trans same)).2
      rw [(live.back known value fresh).1, inside] at inner
      exact .inr (GsdPhase.name_eq_idle_iff.mp (Option.some.inj inner).symm)
    · exact .inl nofun
  · intro lies now further gsdCommand
    have phase : state.phase.getD .idle = worker.remembered := by
      rcases inside : state.phase with _ | phase
      · rw [inside] at lies
        exact (lies.resolve_left (fun outside => outside rfl)).symm
      · rw [remembered, inside]
        rfl
    obtain ⟨stopped, returned, known, value, command, fresh⟩ := comesBack now further gsdCommand
    obtain ⟨inner, kept⟩ := live.back known value fresh
    refine ⟨stopped, returned, ?_, ?_, ?_⟩
    · rw [value]
      exact live.not_ending
    · rw [inner, phase]
    · rw [kept, command, phase]

/-- **Where a stopped worker resumes.** Whatever has happened to a GSD worker, it can be stopped
and resumes where it was exactly when it has been started and not been stopped, and it is in
`running`, or would come back to the initial phase. -/
theorem reached_resumes_iff (py : PyRuntime) (agentId : Text) (gsdCommand : Option Text)
    (kv : List (Text × Text)) (operations : List WorkerOperation) :
    (reached py agentId gsdCommand kv operations).Resumes py ↔
      (reached py agentId gsdCommand kv operations).container.memory.opened = true ∧
        ((reached py agentId gsdCommand kv operations).container.fsmState.state = "running" ∨
          (reached py agentId gsdCommand kv operations).remembered = .idle) := by
  obtain ⟨state, sound⟩ := reached_sound py agentId gsdCommand kv operations
  generalize reached py agentId gsdCommand kv operations = worker at sound ⊢
  rcases opened : worker.container.memory.opened with _ | _
  · refine iff_of_false (fun resumes => ?_) nofun
    obtain ⟨stopped, returned, _⟩ := resumes { isoformat := [], uptime := 0 } [] none
    rw [GsdWorker.stop_of_closed opened] at returned
    cases returned
  · have live := sound.live opened
    rw [and_iff_right rfl, sound.resumes_iff opened, state_of_read sound.known live.ne_creating]
    refine or_congr_left ?_
    cases live with
    | running phase => exact iff_of_true nofun rfl
    | sleeping | blocked | errored => decide

/-- An agent that discusses a phase, and sleeps. -/
def dozing : GsdWorker :=
  reached freshEnv.py "a" none [] [.start, .send .startDiscuss, .send .sleep]

/-- The agent would come back to the discussion, but it does not after a stop. -/
theorem dozing_not_resumed :
    dozing.container.memory.opened = true ∧ dozing.remembered = .discuss ∧
      ¬ dozing.Resumes freshEnv.py := by
  refine ⟨rfl, rfl, ?_⟩
  have sleeping : GsdState.read dozing.container.fsmState = some (.outer .sleeping) := by decide
  obtain ⟨state, sound⟩ := reached_sound freshEnv.py "a" none []
    [.start, .send .startDiscuss, .send .sleep]
  obtain rfl := Option.some.inj (sound.known.symm.trans sleeping)
  intro resumes
  exact absurd ((sound.resumes_iff rfl).mp resumes) (by decide)

/-! ## The worker's process -/

/-- The container that `run_worker` brings up is a new one that was started. -/
theorem bootstrapContainer_eq {env : WorkerEnv} {config : Transport.JsonObject}
    {valid : WorkerConfig} {agentId : Text} {hosted : HostedContainer}
    (accepted : env.modelValidate config = .ok valid)
    (session : valid.handlerType = "session") (gsd : valid.agentType = "gsd")
    (started : bootstrapContainer env agentId config = .ok hosted) :
    (GsdWorker.new agentId valid.gsdCommand (env.database agentId)).start env.py =
      (.ok (), { container := hosted.container, history := none }) := by
  obtain ⟨handlerType, agentType, gsdCommand⟩ := valid
  obtain rfl : agentType = "gsd" := gsd
  obtain ⟨container, returned, rfl⟩ := bootstrapContainer_session accepted session started
  have created : GsdState.read (GsdWorker.new agentId gsdCommand
      (env.database agentId)).container.fsmState = some (.outer .creating) := rfl
  have resumed : onStart env.py (GsdWorker.begun (GsdWorker.new agentId gsdCommand
      (env.database agentId)).container) = .ok container := returned
  rw [GsdWorker.start_eq created, resumed]
  rfl

/-- `run_worker` stops a sound worker in the same way. -/
theorem Sound.stop_hosted (sound : Sound worker state) (now : Moment) :
    HostedContainer.stop { container := worker.container, handler := sessionHandler py } now =
      (worker.stop now).1.map fun _ =>
        { container := (worker.stop now).2.container, handler := sessionHandler py } := by
  rcases opened : worker.container.memory.opened with _ | _
  · have raised := @onStop_of_closed now _ opened
    rw [GsdWorker.stop_of_closed opened, HostedContainer.stop]
    dsimp only [sessionHandler]
    rw [raised]
    rfl
  · have live := sound.live opened
    obtain ⟨memory, checkpoint, recorded, returned, _⟩ :=
      @GsdWorker.stop_of_live now _ _ sound.known live opened
    have stopped : stopLifecycle worker.container.fsmState = .ok (.single "stopped") := by
      rw [stopLifecycle, state_of_read sound.known live.ne_creating]
      exact if_pos live.stoppable
    rw [returned, HostedContainer.stop]
    dsimp only [sessionHandler]
    rw [recorded, PyExc.ok_bind]
    dsimp only
    rw [stopped]
    rfl

end

end Vcompany.Worker
