import Vcompany.Shared.ConcurrentCalls
import Vcompany.Worker.Resume
import Vcompany.Worker.SessionText

/-! # A session that is started again

A GSD worker stores each assignment that it is given, and a checkpoint of its lifecycle when it is
stopped. It may serve several connections, so that its calls of the memory overlap; a statement
may raise, a call may be cancelled, and the process may end at any time.

Whatever has happened, the worker can be started again over what the file holds
(`session_resumes`). It is then in a live state that a stop has stored, with the command of its
phase, and has an assignment that it was given; no call that stored a later one has been
acknowledged. The assignment is that of the running process if the calls by which this one stored
its own have been.
-/

namespace Vcompany.Worker

open Foundation Shared SharedTransaction Transport

/-! ## The calls of the memory -/

/-- The call that stores the assignment of a message. -/
def storesAssignment (now : Moment) (content stamp : Text) : StoreChange :=
  .set "current_assignment" (assignmentText now content) stamp

/-- The checkpoint of a lifecycle. -/
def checkpointOf (value : FsmState) (now : Moment) : CheckpointData where
  configuration := value.recorded
  phase := value.innerState.getD "idle"
  timestamp := now.isoformat

/-- The call that stores a checkpoint of the lifecycle. -/
def storesCheckpoint (value : FsmState) (now : Moment) (stamp : Text) : StoreChange :=
  .checkpoint "gsd_phase" (checkpointOf value now).modelDumpJson stamp

/-- The call that stores the phase. -/
def storesPhase (value : FsmState) (stamp : Text) : StoreChange :=
  .set "current_phase" (value.innerState.getD "idle") stamp

/-- What `on_start` finds in the file. A checkpoint that cannot be read is none. -/
def foundMemory (tables : Tables) : MemoryStore where
  opened := false
  kv := tables.kv.map fun row => (row.key, row.value)
  checkpoints :=
    match tables.selectLatest "gsd_phase" with
    | none => []
    | some data =>
        match CheckpointData.modelValidateJson data with
        | .ok checkpoint => [("gsd_phase", checkpoint)]
        | .error _ => []

/-- The runtime whose `json.loads` makes objects of documents. -/
def withJson (parse : Text → PyValue) (py : PyRuntime) : PyRuntime :=
  { py with loads := fun raw => (JsonText.loads raw).map (JsonValue.py parse) }

/-! ## The system -/

/-- What a stop that holds the checkpoint lock waits for. -/
inductive StopStage where
  | checkpoints (call : ℕ)
  | records (call : ℕ)

def StopStage.call : StopStage → ℕ
  | checkpoints call | records call => call

/-- A worker's process. What its container has in `memory` was read at the start. -/
structure SessionProcess where
  worker : GsdWorker
  stop : Option StopStage

def SessionProcess.holding (process : SessionProcess) (container : WorkerContainer) :
    SessionProcess :=
  { process with worker := { process.worker with container } }

/-- The memory of an agent, its worker's process, and the number of the calls of the memory
before that process. -/
structure SessionSystem where
  store : SharedStore
  process : Option SessionProcess
  since : ℕ

inductive SessionEvent where
  /-- A process starts the container. -/
  | starts (gsdCommand : Option Text)
  /-- The handler gets a message, and goes on up to its call of the memory. -/
  | message (now : Moment) (message : InboundMessage) (stamp : Text)
  /-- The lifecycle gets an event. -/
  | moves (event : WorkEvent)
  /-- A stop takes the checkpoint lock, and calls `checkpoint`. -/
  | checkpoints (now : Moment) (stamp : Text)
  /-- The stop goes on, and calls `set`. -/
  | records (stamp : Text)
  /-- The stop goes on behind the lock. -/
  | stops
  /-- The stop raises or is cancelled. -/
  | abandons
  /-- The thread of the memory serves a demand. -/
  | serves (fault : Option Bool)
  /-- A call of the memory goes on. -/
  | resumes (call : ℕ)
  | cancels (call : ℕ)
  /-- The process ends. -/
  | ends

/-- The container behind `begin_stop` and `finish_stop`, and whether it is stopped. -/
def GsdWorker.stopped (worker : GsdWorker) : Bool × GsdWorker :=
  match worker.send .beginStop with
  | none => (false, worker)
  | some stopping =>
      match stopping.send .finishStop with
      | none => (false, stopping)
      | some stopped => (true, stopped)

namespace SessionSystem

/-- A system whose file is new. -/
def fresh : SessionSystem := ⟨unopened Tables.empty, none, 0⟩

section

variable (py : PyRuntime) (agentId : Text) (system : SessionSystem)

/-- A new container that is started over the file: how that ends, and what it leaves. -/
def restarted (gsdCommand : Option Text) : Except PyExc Unit × GsdWorker :=
  (GsdWorker.new agentId gsdCommand (foundMemory system.store.saved)).start py

/-- A start that raises leaves no process. -/
def starts (gsdCommand : Option Text) : SessionSystem :=
  if system.store.running then system
  else
    match system.restarted py agentId gsdCommand with
    | (.error _, _) => system
    | (.ok _, worker) =>
        { store := system.store.opens
          process := some ⟨worker, none⟩
          since := system.store.changes.length }

def receives (now : Moment) (message : InboundMessage) (stamp : Text) : SessionSystem :=
  match system.process with
  | none => system
  | some process =>
      let container := process.worker.container
      if reviewTag <+: message.content then
        match handleMessage py now container message with
        | .error _ => system
        | .ok decided => { system with process := some (process.holding decided) }
      else if taskTag <+: message.content then
        { system with
          store := system.store.asks (storesAssignment now message.content stamp)
          process := some (process.holding
            { container with currentAssignment := some (assignmentOf now message.content) }) }
      else system

/-- An event that the lifecycle refuses changes nothing. -/
def moves (event : WorkEvent) : SessionSystem :=
  { system with
    process := system.process.map fun process =>
      { process with worker := (process.worker.send (.work event)).getD process.worker } }

def checkpoints (now : Moment) (stamp : Text) : SessionSystem :=
  match system.process with
  | some ⟨worker, none⟩ =>
      { system with
        store := system.store.asks (storesCheckpoint worker.container.fsmState now stamp)
        process := some ⟨worker, some (.checkpoints system.store.changes.length)⟩ }
  | _ => system

def records (stamp : Text) : SessionSystem :=
  match system.process with
  | some ⟨worker, some (.checkpoints call)⟩ =>
      if system.store.progress call = .returned then
        { system with
          store := system.store.asks (storesPhase worker.container.fsmState stamp)
          process := some ⟨worker, some (.records system.store.changes.length)⟩ }
      else system
  | _ => system

def stops : SessionSystem :=
  match system.process with
  | some ⟨worker, some (.records call)⟩ =>
      if system.store.progress call = .returned then
        { system with
          store := if worker.stopped.1 then system.store.closes else system.store
          process := some ⟨worker.stopped.2, none⟩ }
      else system
  | _ => system

def abandons : SessionSystem :=
  match system.process with
  | some ⟨worker, some stage⟩ =>
      { system with store := system.store.fails stage.call, process := some ⟨worker, none⟩ }
  | _ => system

/-- The memory goes on by itself. -/
def inner (event : Event StoreChange) : SessionSystem :=
  { system with store := system.store.perform StoreChange.statement event }

def perform : SessionEvent → SessionSystem
  | .starts gsdCommand => system.starts py agentId gsdCommand
  | .message now message stamp => system.receives py now message stamp
  | .moves event => system.moves event
  | .checkpoints now stamp => system.checkpoints now stamp
  | .records stamp => system.records stamp
  | .stops => system.stops
  | .abandons => system.abandons
  | .serves fault => system.inner (.serves fault)
  | .resumes call => system.inner (.resumes call)
  | .cancels call => system.inner (.cancels call)
  | .ends => { system with store := system.store.ends, process := none }

end

/-- Where the events lead. -/
def run (py : PyRuntime) (agentId : Text) (events : List SessionEvent) : SessionSystem :=
  events.foldl (perform py agentId) fresh

/-- The worker has an assignment that a call has stored, or none, and no later call that stores
one has been acknowledged. -/
def Assigned (system : SessionSystem) (worker : GsdWorker) : Prop :=
  (∃ call now content stamp,
      system.store.changes[call]? = some (storesAssignment now content stamp) ∧
      worker.container.currentAssignment = some (assignmentOf now content) ∧
      ∀ later written, call < later → system.store.changes[later]? = some written →
        system.store.Acknowledged later → written.gives "current_assignment" = none) ∨
    worker.container.currentAssignment = none ∧
      ∀ later written, system.store.changes[later]? = some written →
        system.store.Acknowledged later → written.gives "current_assignment" = none

/-- The worker is in the state of a checkpoint that a call has stored, or in the idle phase, and
no later call that stores a checkpoint has been acknowledged. -/
structure Resumes (system : SessionSystem) (gsdCommand : Option Text) (worker : GsdWorker)
    (state : GsdState) : Prop where
  live : state.Live
  fsmState : worker.container.fsmState = .configuration state.configuration
  command : worker.container.gsdCommand = resumeCommand (state.phase.getD .idle) gsdCommand
  checkpoint :
    (∃ call value now stamp,
        system.store.changes[call]? = some (storesCheckpoint value now stamp) ∧
        GsdState.read value = some state ∧
        ∀ later written, call < later → system.store.changes[later]? = some written →
          system.store.Acknowledged later → written.notes "gsd_phase" = none) ∨
      state = .running .idle ∧
        ∀ later written, system.store.changes[later]? = some written →
          system.store.Acknowledged later → written.notes "gsd_phase" = none
  assigned : system.Assigned worker

end SessionSystem

/-! ## What is stored -/

/-- A call that stores an assignment, a checkpoint of a live state, or a phase. -/
inductive Stores : StoreChange → Prop where
  | assignment (now : Moment) (content stamp : Text) : Stores (storesAssignment now content stamp)
  | checkpoint {value : FsmState} {state : GsdState} (known : GsdState.read value = some state)
      (live : state.Live) (now : Moment) (stamp : Text) : Stores (storesCheckpoint value now stamp)
  | phase (value : FsmState) (stamp : Text) : Stores (storesPhase value stamp)

theorem gives_storesAssignment (now : Moment) (content stamp : Text) :
    (storesAssignment now content stamp).gives "current_assignment" =
      some (some (assignmentText now content)) := by
  unfold storesAssignment StoreChange.gives
  exact if_pos rfl

theorem notes_storesCheckpoint (value : FsmState) (now : Moment) (stamp : Text) :
    (storesCheckpoint value now stamp).notes "gsd_phase" =
      some (some (checkpointOf value now).modelDumpJson) := by
  unfold storesCheckpoint StoreChange.notes
  exact if_pos rfl

theorem gives_storesPhase (value : FsmState) (stamp : Text) :
    (storesPhase value stamp).gives "current_assignment" = none := by
  unfold storesPhase StoreChange.gives
  exact if_neg (by decide)

namespace Stores

variable {change : StoreChange}

/-- Only the calls that store an assignment write its key. -/
theorem assignment_of_gives (stores : Stores change) {value : Option Text}
    (gave : change.gives "current_assignment" = some value) :
    ∃ now content stamp, change = storesAssignment now content stamp ∧
      value = some (assignmentText now content) := by
  cases stores with
  | assignment now content stamp =>
      rw [gives_storesAssignment] at gave
      exact ⟨now, content, stamp, rfl, (Option.some.inj gave).symm⟩
  | checkpoint => cases gave
  | phase value stamp =>
      rw [gives_storesPhase] at gave
      cases gave

/-- Only the calls that store a checkpoint note one. -/
theorem checkpoint_of_notes (stores : Stores change) {data : Option Text}
    (gave : change.notes "gsd_phase" = some data) :
    ∃ (value : FsmState) (state : GsdState) (checkpoint : CheckpointData) (now : Moment)
      (stamp : Text), change = storesCheckpoint value now stamp ∧
        GsdState.read value = some state ∧ state.Live ∧
          checkpoint.configuration = state.configuration ∧
            data = some checkpoint.modelDumpJson := by
  cases stores with
  | @checkpoint value state known live now stamp =>
      rw [notes_storesCheckpoint] at gave
      exact ⟨value, state, _, now, stamp, rfl, known, live,
        GsdState.recorded_of_read known live.ne_creating, (Option.some.inj gave).symm⟩
  | assignment | phase => cases gave

end Stores

/-- The assignment that the file holds. -/
def foundAssignment (parse : Text → PyValue) (tables : Tables) : Option PyValue :=
  match tables.selectValue "current_assignment" with
  | none => none
  | some raw =>
      match JsonText.loads raw with
      | .ok document => some (document.py parse)
      | .error _ => none

theorem foundAssignment_of_none (parse : Text → PyValue) {tables : Tables}
    (none : tables.selectValue "current_assignment" = none) :
    foundAssignment parse tables = .none := by
  unfold foundAssignment
  rw [none]

theorem foundAssignment_of_text (parse : Text → PyValue) {tables : Tables} {now : Moment}
    {content : Text}
    (found : tables.selectValue "current_assignment" = some (assignmentText now content)) :
    foundAssignment parse tables = some (assignmentOf now content) := by
  have read := loads_assignmentText parse now content
  unfold foundAssignment
  rw [found]
  dsimp only
  rcases document : JsonText.loads (assignmentText now content) with raised | document
  · rw [document] at read
    cases read
  · rw [document] at read
    exact congrArg some (Except.ok.inj read)

/-! ## A start over the file -/

section

variable {py : PyRuntime} {parse : Text → PyValue} {tables : Tables}

theorem get_foundMemory (key : Text) :
    (foundMemory tables).open.get key = .ok (tables.selectValue key) := by
  have opened : (foundMemory tables).open.opened = true := rfl
  unfold MemoryStore.get
  rw [if_pos opened]
  change Except.ok (((tables.kv.map fun row => (row.key, row.value)).find? _).map Prod.snd) = _
  rw [List.find?_map, Option.map_map]
  rfl

theorem latestPhase_of_none (none : tables.selectLatest "gsd_phase" = none) :
    (foundMemory tables).latestPhase = .none := by
  unfold foundMemory
  rw [none]
  rfl

theorem latestPhase_of_text {checkpoint : CheckpointData}
    (found : tables.selectLatest "gsd_phase" = some checkpoint.modelDumpJson) :
    (foundMemory tables).latestPhase = some checkpoint := by
  unfold foundMemory
  rw [found]
  dsimp only
  rw [CheckpointData.modelValidateJson_modelDumpJson]
  rfl

/-- A container that restores the state of a checkpoint, or begins in the idle phase. -/
theorem resolvedContainer_found (agentId : Text) (gsdCommand : Option Text) {state : GsdState}
    (live : state.Live)
    (found : tables.selectLatest "gsd_phase" = none ∧ state = .running .idle ∨
      ∃ checkpoint : CheckpointData, checkpoint.configuration = state.configuration ∧
        tables.selectLatest "gsd_phase" = some checkpoint.modelDumpJson) :
    let worker := GsdWorker.new agentId gsdCommand (foundMemory tables)
    let container := GsdWorker.begun worker.container
    resolvedContainer container = { container with
      fsmState := .configuration state.configuration
      gsdCommand := resumeCommand (state.phase.getD .idle) gsdCommand } := by
  intro worker container
  rcases found with ⟨none, rfl⟩ | ⟨checkpoint, same, noted⟩
  · have restored := @restoreFromCheckpoint_of_none container (latestPhase_of_none none)
    exact resolvedContainer_eq restored (GsdState.read_value (.running .idle))
  · have restored := @restoreFromCheckpoint_of_live container state checkpoint rfl
      (latestPhase_of_text noted) same live
    exact resolvedContainer_eq restored (GsdState.read_configuration state)

theorem onStart_resolved (container : WorkerContainer) :
    onStart py container =
      ((resolvedContainer container).memory.get "current_assignment" >>= fun stored =>
        match stored with
        | none => .ok (resolvedContainer container)
        | some raw =>
            match py.loads raw with
            | .ok assignment =>
                .ok { resolvedContainer container with currentAssignment := some assignment }
            | .error .jsonDecodeError => .ok (resolvedContainer container)
            | .error raised => .error raised) := rfl

/-- What a container is that is started over the file. -/
theorem start_found (agentId : Text) (gsdCommand : Option Text) {state : GsdState}
    (live : state.Live)
    (phase : tables.selectLatest "gsd_phase" = none ∧ state = .running .idle ∨
      ∃ checkpoint : CheckpointData, checkpoint.configuration = state.configuration ∧
        tables.selectLatest "gsd_phase" = some checkpoint.modelDumpJson)
    (assignment : tables.selectValue "current_assignment" = none ∨ ∃ now content,
      tables.selectValue "current_assignment" = some (assignmentText now content)) :
    ∃ worker, (GsdWorker.new agentId gsdCommand (foundMemory tables)).start (withJson parse py) =
        (.ok (), worker) ∧
      worker.container.fsmState = .configuration state.configuration ∧
      worker.container.gsdCommand = resumeCommand (state.phase.getD .idle) gsdCommand ∧
      worker.container.currentAssignment = foundAssignment parse tables := by
  have resolved := @resolvedContainer_found tables agentId gsdCommand state live phase
  obtain ⟨container, same, memory, fsmState, command, unassigned⟩ :
      ∃ container, resolvedContainer (GsdWorker.begun
          (GsdWorker.new agentId gsdCommand (foundMemory tables)).container) = container ∧
        container.memory = (foundMemory tables).open ∧
        container.fsmState = .configuration state.configuration ∧
        container.gsdCommand = resumeCommand (state.phase.getD .idle) gsdCommand ∧
        container.currentAssignment = none := ⟨_, resolved, rfl, rfl, rfl, rfl⟩
  rw [GsdWorker.start_eq rfl, onStart_resolved, same, memory, get_foundMemory, PyExc.ok_bind]
  rcases assignment with none | ⟨now, content, found⟩
  · rw [foundAssignment_of_none parse none, none]
    exact ⟨_, rfl, fsmState, command, unassigned⟩
  · have read : (withJson parse py).loads (assignmentText now content) =
        .ok (assignmentOf now content) := loads_assignmentText parse now content
    rw [foundAssignment_of_text parse found, found]
    dsimp only
    rw [read]
    exact ⟨_, rfl, fsmState, command, rfl⟩

end

/-! ## The process and the file -/

/-- No call from this one on writes the key of the assignment. -/
def Silent (store : SharedStore) (first : ℕ) : Prop :=
  ∀ call written, first ≤ call → store.changes[call]? = some written →
    written.gives "current_assignment" = none

/-- What holds while a process runs. Its assignment is the one that the newest of its calls
stores, or the one that was in the file. -/
structure Working (parse : Text → PyValue) (store : SharedStore) (since : ℕ) (worker : GsdWorker) :
    Prop where
  running : store.running = true
  bounded : since ≤ store.changes.length
  own : ∀ entry ∈ store.inHand, since ≤ entry.1
  lifecycle : ∃ state, GsdState.read worker.container.fsmState = some state ∧
    (state.Live ∨ store.Closing)
  assignment :
    (∃ call now content stamp, since ≤ call ∧
        store.changes[call]? = some (storesAssignment now content stamp) ∧
        worker.container.currentAssignment = some (assignmentOf now content) ∧
        Silent store (call + 1)) ∨
      Silent store since ∧
        worker.container.currentAssignment = foundAssignment parse store.saved

/-- What may come to be saved was stored by a worker. -/
structure Consistent (parse : Text → PyValue) (system : SessionSystem) : Prop where
  ledger : Ledger StoreChange.statement Tables.empty system.store
  stores : ∀ entry ∈ system.store.kept ++ system.store.inHand, Stores entry.2
  working : ∀ process, system.process = some process →
    Working parse system.store system.since process.worker

namespace Silent

variable {store next : SharedStore} {first : ℕ}

theorem of_changes (silent : Silent store first) (same : next.changes = store.changes) :
    Silent next first := by
  unfold Silent
  rw [same]
  exact silent

theorem asks (silent : Silent store first) (running : store.running = true)
    {change : StoreChange} (other : change.gives "current_assignment" = none) :
    Silent (store.asks change) first := by
  intro call written later found
  rcases (called_asks_iff running).mp found with old | ⟨_, rfl⟩
  · exact silent call written later old
  · exact other

end Silent

theorem foundAssignment_congr (parse : Text → PyValue) {tables tables' : Tables}
    (same : tables'.selectValue "current_assignment" = tables.selectValue "current_assignment") :
    foundAssignment parse tables' = foundAssignment parse tables := by
  unfold foundAssignment
  rw [same]

namespace Working

variable {parse : Text → PyValue} {store : SharedStore} {since : ℕ} {worker next : GsdWorker}

/-- The lifecycle of the worker moves on. -/
theorem moves (working : Working parse store since worker)
    (lifecycle : ∃ state, GsdState.read next.container.fsmState = some state ∧
      (state.Live ∨ store.Closing))
    (same : next.container.currentAssignment = worker.container.currentAssignment) :
    Working parse store since next where
  running := working.running
  bounded := working.bounded
  own := working.own
  lifecycle := lifecycle
  assignment := by
    rw [same]
    exact working.assignment

/-- The memory goes on by itself. -/
theorem inner (working : Working parse store since worker)
    (ledger : Ledger StoreChange.statement Tables.empty store) {event : Event StoreChange}
    (inner : event.inner = true) :
    Working parse (store.perform StoreChange.statement event) since worker := by
  have frame := frame_perform StoreChange.statement store inner
  obtain ⟨running, changes⟩ := Prod.mk.inj frame
  have narrows := @Narrows.perform _ _ StoreChange.statement store _ inner
  refine ⟨running.trans working.running, changes ▸ working.bounded,
    fun entry member => working.own entry (narrows.inHand member), ?_, ?_⟩
  · obtain ⟨state, known, goes⟩ := working.lifecycle
    exact ⟨state, known, goes.imp_right narrows.closing⟩
  · rcases working.assignment with ⟨call, now, content, stamp, later, called, same, silent⟩ |
      ⟨silent, same⟩
    · exact Or.inl ⟨call, now, content, stamp, later, changes ▸ called, same,
        silent.of_changes changes⟩
    · refine Or.inr ⟨silent.of_changes changes, same.trans (foundAssignment_congr parse ?_).symm⟩
      have serialized := SharedStore.serialized_of_ledger ledger
      have serialized' := SharedStore.serialized_of_ledger (ledger.perform event)
      obtain ⟨more, kept, within⟩ := narrows.kept
      -- What comes to be kept are calls of this process.
      refine serialized.value_of_kept serialized' kept fun entry member => ?_
      have called := serialized'.called entry (kept ▸ List.mem_append_right _ member)
      exact silent _ _ (working.own entry (within member)) (changes ▸ called)

/-- The worker makes a call. -/
theorem asks (working : Working parse store since worker) (change : StoreChange)
    (unmoved : next.container.fsmState = worker.container.fsmState)
    (assignment :
      (∃ call now content stamp, since ≤ call ∧
          (store.asks change).changes[call]? = some (storesAssignment now content stamp) ∧
          next.container.currentAssignment = some (assignmentOf now content) ∧
          Silent (store.asks change) (call + 1)) ∨
        Silent (store.asks change) since ∧
          next.container.currentAssignment = foundAssignment parse store.saved) :
    Working parse (store.asks change) since next where
  running := (running_asks change).trans working.running
  bounded := by
    rw [changes_asks working.running, List.length_append]
    exact Nat.le_add_right_of_le working.bounded
  own entry member := by
    rcases mem_inHand_asks member with old | ⟨rfl, _⟩
    · exact working.own entry old
    · exact working.bounded
  lifecycle := by
    obtain ⟨state, known, goes⟩ := working.lifecycle
    rw [unmoved]
    exact ⟨state, known, goes.imp_right fun closing => closing_asks closing change⟩
  assignment := by
    rw [saved_asks]
    exact assignment

/-- A call that stores something else. -/
theorem asksOther (working : Working parse store since worker) {change : StoreChange}
    (other : change.gives "current_assignment" = none) :
    Working parse (store.asks change) since worker := by
  refine working.asks change rfl ?_
  rcases working.assignment with ⟨call, now, content, stamp, later, called, same, silent⟩ |
    ⟨silent, same⟩
  · have still : (store.asks change).changes[call]? = some (storesAssignment now content stamp) :=
      (called_asks_iff working.running).mpr (Or.inl called)
    exact Or.inl ⟨call, now, content, stamp, later, still, same,
      silent.asks working.running other⟩
  · exact Or.inr ⟨silent.asks working.running other, same⟩

/-- The worker stores the assignment that it is given. -/
theorem asksAssignment (working : Working parse store since worker) (now : Moment)
    (content stamp : Text) (unmoved : next.container.fsmState = worker.container.fsmState)
    (assigned : next.container.currentAssignment = some (assignmentOf now content)) :
    Working parse (store.asks (storesAssignment now content stamp)) since next := by
  have called := (called_asks_iff working.running).mpr
    (Or.inr ⟨rfl, Eq.refl (storesAssignment now content stamp)⟩)
  refine working.asks _ unmoved (Or.inl ⟨store.changes.length, now, content, stamp,
    working.bounded, called, assigned, ?_⟩)
  intro call written later found
  -- No call has been made after this one.
  rcases (called_asks_iff working.running).mp found with old | ⟨rfl, _⟩
  · have before := (List.getElem?_eq_some_iff.mp old).1
    omega
  · omega

end Working

theorem GsdWorker.stopped_cases {worker : GsdWorker} {state : GsdState}
    (known : GsdState.read worker.container.fsmState = some state) :
    worker.stopped = (false, worker) ∨
      worker.stopped.1 = true ∧
        (∃ next, GsdState.read worker.stopped.2.container.fsmState = some next) ∧
        worker.stopped.2.container.currentAssignment = worker.container.currentAssignment := by
  have begins : (⟨state, worker.history⟩ : Machine).send .beginStop = none ∨
      ∃ machine, (⟨state, worker.history⟩ : Machine).send .beginStop = some machine ∧
        machine.state = .outer .stopping := by
    cases state with
    | running phase => exact Or.inr ⟨_, rfl, rfl⟩
    | outer outer => cases outer <;> first | exact Or.inl rfl | exact Or.inr ⟨_, rfl, rfl⟩
  unfold GsdWorker.stopped
  rw [GsdWorker.send_of_read known]
  rcases begins with refused | ⟨⟨_, history⟩, begun, rfl⟩
  · rw [refused]
    exact Or.inl rfl
  · rw [begun]
    dsimp only [Option.map_some]
    rw [GsdWorker.send_of_read (GsdState.read_value (.outer .stopping))]
    exact Or.inr ⟨rfl, ⟨.outer .stopped, GsdState.read_value (.outer .stopped)⟩, rfl⟩

namespace Consistent

open SessionSystem

variable {parse : Text → PyValue} {system : SessionSystem} {py : PyRuntime}

/-- The assignment in the file is one that a call has stored, and no call after it that stores
one has been acknowledged. -/
theorem found_assignment (consistent : Consistent parse system) :
    (∃ call now content stamp,
        system.store.changes[call]? = some (storesAssignment now content stamp) ∧
        system.store.saved.selectValue "current_assignment" =
          some (assignmentText now content) ∧
        ∀ later written, call < later → system.store.changes[later]? = some written →
          system.store.Acknowledged later → written.gives "current_assignment" = none) ∨
      system.store.saved.selectValue "current_assignment" = none ∧
        ∀ later written, system.store.changes[later]? = some written →
          system.store.Acknowledged later → written.gives "current_assignment" = none := by
  have serialized := SharedStore.serialized_of_ledger consistent.ledger
  refine (serialized.newest_value "current_assignment").imp_left ?_
  rintro ⟨call, change, member, gave, newest⟩
  have stores := consistent.stores _ (List.mem_append_left _ member)
  obtain ⟨now, content, stamp, rfl, value⟩ := stores.assignment_of_gives gave
  exact ⟨call, now, content, stamp, serialized.called _ member, value, newest⟩

/-- So is the checkpoint, and it is of a live state. -/
theorem found_checkpoint (consistent : Consistent parse system) :
    (∃ (call : ℕ) (value : FsmState) (state : GsdState) (checkpoint : CheckpointData)
        (now : Moment) (stamp : Text),
        system.store.changes[call]? = some (storesCheckpoint value now stamp) ∧
        GsdState.read value = some state ∧ state.Live ∧
        checkpoint.configuration = state.configuration ∧
        system.store.saved.selectLatest "gsd_phase" = some checkpoint.modelDumpJson ∧
        ∀ later written, call < later → system.store.changes[later]? = some written →
          system.store.Acknowledged later → written.notes "gsd_phase" = none) ∨
      system.store.saved.selectLatest "gsd_phase" = none ∧
        ∀ later written, system.store.changes[later]? = some written →
          system.store.Acknowledged later → written.notes "gsd_phase" = none := by
  have serialized := SharedStore.serialized_of_ledger consistent.ledger
  refine (serialized.newest_checkpoint "gsd_phase").imp_left ?_
  rintro ⟨call, change, member, gave, newest⟩
  have stores := consistent.stores _ (List.mem_append_left _ member)
  obtain ⟨value, state, checkpoint, now, stamp, rfl, known, live, same, data⟩ :=
    stores.checkpoint_of_notes gave
  exact ⟨call, value, state, checkpoint, now, stamp, serialized.called _ member, known, live,
    same, data, newest⟩

theorem fresh (parse : Text → PyValue) : Consistent parse fresh :=
  ⟨Ledger.unopened _ _, List.forall_mem_nil _, fun _ current => by cases current⟩

/-- The memory goes on by itself. -/
theorem inner (consistent : Consistent parse system) {event : Event StoreChange}
    (inner : event.inner = true) : Consistent parse (system.inner event) := by
  have narrows := @Narrows.perform _ _ StoreChange.statement system.store _ inner
  refine ⟨consistent.ledger.perform event, fun entry member => consistent.stores entry ?_,
    fun process found => (consistent.working process found).inner consistent.ledger inner⟩
  obtain ⟨more, kept, within⟩ := narrows.kept
  change entry ∈ (system.store.perform StoreChange.statement event).kept ++ _ at member
  rw [kept, List.append_assoc, List.mem_append] at member
  refine List.mem_append.mpr (member.imp_right fun later => ?_)
  rcases List.mem_append.mp later with saved | held
  · exact within saved
  · exact narrows.inHand held

/-- The process goes on between two calls. -/
theorem goes (consistent : Consistent parse system) {process : SessionProcess}
    (working : Working parse system.store system.since process.worker) :
    Consistent parse { system with process := some process } := by
  refine ⟨consistent.ledger, consistent.stores, fun other found => ?_⟩
  obtain rfl := Option.some.inj found
  exact working

/-- The process makes a call. -/
theorem asks (consistent : Consistent parse system) {change : StoreChange}
    {process : SessionProcess} (stores : ¬ system.store.Closing → Stores change)
    (working : Working parse (system.store.asks change) system.since process.worker) :
    Consistent parse
      { system with store := system.store.asks change, process := some process } := by
  refine ⟨consistent.ledger.asks change, fun entry member => ?_, fun other found => ?_⟩
  · dsimp only at member
    rw [kept_asks, List.mem_append] at member
    rcases member with kept | held
    · exact consistent.stores entry (List.mem_append_left _ kept)
    · rcases mem_inHand_asks held with old | ⟨rfl, going⟩
      · exact consistent.stores entry (List.mem_append_right _ old)
      · exact stores going
  · obtain rfl := Option.some.inj found
    exact working

/-- A worker can be started over the file, whatever it holds. -/
theorem restarts (consistent : Consistent parse system) (py : PyRuntime) (agentId : Text)
    (gsdCommand : Option Text) :
    ∃ worker state, system.restarted (withJson parse py) agentId gsdCommand = (.ok (), worker) ∧
      worker.container.currentAssignment = foundAssignment parse system.store.saved ∧
      system.Resumes gsdCommand worker state := by
  have assignment : system.store.saved.selectValue "current_assignment" = none ∨
      ∃ now content, system.store.saved.selectValue "current_assignment" =
        some (assignmentText now content) := by
    rcases consistent.found_assignment with ⟨_, now, content, _, _, found, _⟩ | ⟨none, _⟩
    · exact Or.inr ⟨now, content, found⟩
    · exact Or.inl none
  have assigned {worker : GsdWorker}
      (found : worker.container.currentAssignment = foundAssignment parse system.store.saved) :
      system.Assigned worker := by
    rcases consistent.found_assignment with
      ⟨call, now, content, stamp, called, text, newest⟩ | ⟨none, silent⟩
    · rw [foundAssignment_of_text parse text] at found
      exact Or.inl ⟨call, now, content, stamp, called, found, newest⟩
    · rw [foundAssignment_of_none parse none] at found
      exact Or.inr ⟨found, silent⟩
  rcases consistent.found_checkpoint with
    ⟨call, value, state, checkpoint, now, stamp, called, known, live, same, data, newest⟩ |
      ⟨none, silent⟩
  · obtain ⟨worker, started, fsmState, command, found⟩ := @start_found py parse _ agentId
      gsdCommand state live (Or.inr ⟨checkpoint, same, data⟩) assignment
    exact ⟨worker, state, started, found, live, fsmState, command,
      Or.inl ⟨call, value, now, stamp, called, known, newest⟩, assigned found⟩
  · obtain ⟨worker, started, fsmState, command, found⟩ := @start_found py parse _ agentId
      gsdCommand (.running .idle) (.running _) (Or.inl ⟨none, rfl⟩) assignment
    exact ⟨worker, .running .idle, started, found, .running _, fsmState, command,
      Or.inr ⟨rfl, silent⟩, assigned found⟩

theorem starts (consistent : Consistent parse system) (agentId : Text)
    (gsdCommand : Option Text) :
    Consistent parse (system.starts (withJson parse py) agentId gsdCommand) := by
  obtain ⟨worker, state, started, found, resumes⟩ := consistent.restarts py agentId gsdCommand
  unfold SessionSystem.starts
  split
  · exact consistent
  · next stopped =>
    rw [started]
    have opened := opens_of_stopped stopped
    have ledger := consistent.ledger.opens
    rw [opened] at ledger
    dsimp only
    rw [opened]
    refine ⟨ledger, fun entry member => ?_, fun process current => ?_⟩
    · refine consistent.stores entry (List.mem_append_left _ ?_)
      exact (List.mem_append.mp member).resolve_right List.not_mem_nil
    · obtain rfl := Option.some.inj current
      refine ⟨rfl, Nat.le_refl _, List.forall_mem_nil _, ⟨state, ?_, Or.inl resumes.live⟩,
        Or.inr ⟨?_, found⟩⟩
      · rw [resumes.fsmState]
        exact GsdState.read_configuration state
      · intro call written later called
        exact absurd (List.getElem?_eq_some_iff.mp called).1 (Nat.not_lt.mpr later)

theorem receives (consistent : Consistent parse system) (now : Moment)
    (message : InboundMessage) (stamp : Text) :
    Consistent parse (system.receives py now message stamp) := by
  unfold SessionSystem.receives
  split
  · exact consistent
  · next process current =>
    have working := consistent.working process current
    dsimp only
    split
    · next decides =>
      split
      · exact consistent
      · next decided handled =>
        have kept : decided.fsmState = process.worker.container.fsmState ∧
            decided.currentAssignment = process.worker.container.currentAssignment := by
          rcases handleMessage_cases handled with ⟨_, _, _, _, rfl⟩ | ⟨other, _⟩ | rfl
          · exact ⟨rfl, rfl⟩
          · exact absurd decides other
          · exact ⟨rfl, rfl⟩
        refine consistent.goes (working.moves ?_ kept.2)
        obtain ⟨state, known, goes⟩ := working.lifecycle
        exact ⟨state, kept.1 ▸ known, goes⟩
    · split
      · exact consistent.asks (fun _ => .assignment now message.content stamp)
          (working.asksAssignment now message.content stamp rfl rfl)
      · exact consistent

theorem moves (consistent : Consistent parse system) (event : WorkEvent) :
    Consistent parse (system.moves event) := by
  unfold SessionSystem.moves
  rcases current : system.process with _ | process
  · exact ⟨consistent.ledger, consistent.stores, fun _ found => by cases found⟩
  · have working := consistent.working process current
    obtain ⟨state, known, goes⟩ := working.lifecycle
    refine consistent.goes ?_
    dsimp only
    rw [GsdWorker.send_of_read known]
    rcases sent : (⟨state, process.worker.history⟩ : Machine).send (.work event) with _ | machine
    · exact working
    · exact working.moves
        ⟨machine.state, GsdState.read_value _, Or.inl (GsdState.Live.of_work sent)⟩ rfl

theorem checkpoints (consistent : Consistent parse system) (now : Moment) (stamp : Text) :
    Consistent parse (system.checkpoints now stamp) := by
  unfold SessionSystem.checkpoints
  split
  · next worker current =>
    have working := consistent.working _ current
    obtain ⟨state, known, goes⟩ := working.lifecycle
    exact consistent.asks (fun going => .checkpoint known (goes.resolve_right going) now stamp)
      (working.asksOther rfl)
  · exact consistent

theorem records (consistent : Consistent parse system) (stamp : Text) :
    Consistent parse (system.records stamp) := by
  unfold SessionSystem.records
  split
  · next worker call current =>
    split
    · exact consistent.asks (fun _ => .phase worker.container.fsmState stamp)
        ((consistent.working _ current).asksOther (gives_storesPhase _ _))
    · exact consistent
  · exact consistent

theorem abandons (consistent : Consistent parse system) :
    Consistent parse system.abandons := by
  unfold SessionSystem.abandons
  split
  · next worker stage current =>
    have failed := @inner _ _ consistent (.cancels stage.call) rfl
    have working := failed.working ⟨worker, some stage⟩ current
    exact @goes _ _ failed ⟨worker, none⟩ working
  · exact consistent

theorem stops (consistent : Consistent parse system) : Consistent parse system.stops := by
  unfold SessionSystem.stops
  split
  · next worker call current =>
    have working := consistent.working _ current
    obtain ⟨state, known, goes⟩ := working.lifecycle
    split
    · rcases GsdWorker.stopped_cases known with same | ⟨ended, lifecycle, unchanged⟩
      · rw [same]
        exact consistent.goes working
      · have closed := @inner _ _ consistent .closes rfl
        rw [if_pos ended]
        obtain ⟨next, read⟩ := lifecycle
        refine closed.goes ((closed.working _ current).moves ⟨next, read, Or.inr ?_⟩ unchanged)
        exact closing_closes working.running
    · exact consistent
  · exact consistent

theorem perform (consistent : Consistent parse system) (agentId : Text) (event : SessionEvent) :
    Consistent parse (system.perform (withJson parse py) agentId event) := by
  cases event with
  | starts gsdCommand => exact consistent.starts agentId gsdCommand
  | message now message stamp => exact consistent.receives now message stamp
  | moves event => exact consistent.moves event
  | checkpoints now stamp => exact consistent.checkpoints now stamp
  | records stamp => exact consistent.records stamp
  | stops => exact consistent.stops
  | abandons => exact consistent.abandons
  | serves fault => exact consistent.inner rfl
  | resumes call => exact consistent.inner rfl
  | cancels call => exact consistent.inner rfl
  | ends =>
      refine ⟨consistent.ledger.ends, fun entry member => ?_, fun _ found => by cases found⟩
      refine consistent.stores entry (List.mem_append_left _ ?_)
      exact (List.mem_append.mp member).resolve_right List.not_mem_nil

theorem run (parse : Text → PyValue) (py : PyRuntime) (agentId : Text)
    (events : List SessionEvent) : Consistent parse (run (withJson parse py) agentId events) := by
  have onward {system : SessionSystem} (consistent : Consistent parse system) :
      Consistent parse
        (events.foldl (SessionSystem.perform (withJson parse py) agentId) system) := by
    induction events generalizing system with
    | nil => exact consistent
    | cons event events ih => exact ih (consistent.perform agentId event)
  exact onward (fresh parse)

/-- The file holds the assignment of the process when its calls have been acknowledged. -/
theorem found_current (consistent : Consistent parse system) {process : SessionProcess}
    (current : system.process = some process)
    (acknowledged : ∀ call written, system.since ≤ call →
      system.store.changes[call]? = some written →
        written.gives "current_assignment" ≠ none → system.store.Acknowledged call) :
    foundAssignment parse system.store.saved =
      process.worker.container.currentAssignment := by
  rcases (consistent.working process current).assignment with
    ⟨call, now, content, stamp, later, called, same, silent⟩ | ⟨_, same⟩
  · have writes (now : Moment) (content stamp : Text) :
        (storesAssignment now content stamp).gives "current_assignment" ≠ none := by
      rw [gives_storesAssignment]
      exact Option.some_ne_none _
    have done := acknowledged call _ later called (writes now content stamp)
    rcases consistent.found_assignment with
      ⟨other, now', content', stamp', called', text, newest⟩ | ⟨_, none⟩
    · rcases Nat.lt_trichotomy other call with before | rfl | after
      · exact absurd (newest call _ before called done) (writes now content stamp)
      · have stored : assignmentText now' content' = assignmentText now content := by
          injection Option.some.inj (called'.symm.trans called)
        rw [stored] at text
        rw [foundAssignment_of_text parse text, same]
      · exact absurd (silent other _ after called') (writes now' content' stamp')
    · exact absurd (none call _ called done) (writes now content stamp)
  · exact same.symm

end Consistent

/-- **A session that resumes.** After any events, a worker can be started over the file. It is in
a live state that a stop has stored, with the command to resume it, and has an assignment that
was stored; or it begins anew. No call that stored a later one has been acknowledged, and the
assignment is that of the running process if its calls were. -/
theorem session_resumes (parse : Text → PyValue) (py : PyRuntime) (agentId : Text)
    (events : List SessionEvent) (gsdCommand : Option Text) :
    let system := SessionSystem.run (withJson parse py) agentId events
    ∃ worker state, system.restarted (withJson parse py) agentId gsdCommand = (.ok (), worker) ∧
      system.Resumes gsdCommand worker state ∧
      ∀ process, system.process = some process →
        (∀ call written, system.since ≤ call → system.store.changes[call]? = some written →
          written.gives "current_assignment" ≠ none → system.store.Acknowledged call) →
        worker.container.currentAssignment = process.worker.container.currentAssignment := by
  intro system
  have consistent := Consistent.run parse py agentId events
  obtain ⟨worker, state, started, found, resumes⟩ := consistent.restarts py agentId gsdCommand
  refine ⟨worker, state, started, resumes, fun process current acknowledged => ?_⟩
  exact found.trans (consistent.found_current current acknowledged)

end Vcompany.Worker
