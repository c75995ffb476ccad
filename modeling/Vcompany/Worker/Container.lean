import Vcompany.Transport.Messages

/-! # The worker's container

`WorkerContainer` is the agent runtime inside a worker: a lifecycle state, a
memory store, a task queue and the review gate of the session handler. The store
is a key-value table with labelled checkpoints that has to be opened before use.
Times come from outside (`Moment`).
-/

namespace Vcompany.Worker

open Foundation Transport

/-- The values of a compound lifecycle state, outer state first. -/
structure Configuration where
  states : List Text
  nonempty : states ≠ []
  distinct : states.Nodup
  deriving DecidableEq

/-- `_fsm_state`: the lifecycle's current state, once it has one. -/
inductive FsmState where
  | unset
  | single (state : Text)
  | configuration (values : Configuration)
  deriving DecidableEq

/-- `WorkerContainer.state`. -/
def FsmState.state : FsmState → Text
  | unset => "None"
  | single state => state
  | configuration values => values.states.head values.nonempty

/-- `WorkerContainer.inner_state`. -/
def FsmState.innerState : FsmState → Option Text
  | configuration values => values.states[1]?
  | _ => none

/-- The configuration of a state inside a running lifecycle. -/
def runningIn (inner : Text) (fresh : ("running" : Text) ≠ inner) : FsmState :=
  .configuration ⟨["running", inner], List.cons_ne_nil _ _, by simpa using fresh⟩

/-- The lifecycle's `start` transition from its initial state, for each kind of
lifecycle that `_create_lifecycle` chooses. -/
def startLifecycle (agentType : Text) : FsmState :=
  if agentType = "gsd" then runningIn "idle" (by decide)
  else if agentType = "fulltime" ∨ agentType = "company" then runningIn "listening" (by decide)
  else .single "running"

/-- The lifecycle's `begin_stop` and `finish_stop` transitions. -/
def stopLifecycle (current : FsmState) : Except PyExc FsmState :=
  if current.state ∈ (["running", "sleeping", "errored", "blocked"] : List String).map
      String.toList then
    .ok (.single "stopped")
  else .error .other

/-- A serialized lifecycle state. -/
structure CheckpointData where
  configuration : Configuration
  phase : Text
  timestamp : Text
  deriving DecidableEq

/-- `MemoryStore`, with whether its database is open. -/
structure MemoryStore where
  opened : Bool
  kv : List (Text × Text)
  checkpoints : List (Text × CheckpointData)
  deriving DecidableEq

namespace MemoryStore

/-- `MemoryStore.open`. -/
def «open» (store : MemoryStore) : MemoryStore := { store with opened := true }

/-- `MemoryStore.close`. -/
def close (store : MemoryStore) : MemoryStore := { store with opened := false }

/-- `MemoryStore.get`. -/
def get (store : MemoryStore) (key : Text) : Except PyExc (Option Text) :=
  if store.opened then .ok ((store.kv.find? fun row => row.1 = key).map Prod.snd)
  else .error .assertionError

/-- `MemoryStore.set`. -/
def set (store : MemoryStore) (key value : Text) : Except PyExc MemoryStore :=
  if store.opened then
    .ok { store with kv := (key, value) :: store.kv.filter fun row => row.1 ≠ key }
  else .error .assertionError

/-- `MemoryStore.checkpoint`. -/
def checkpoint (store : MemoryStore) (label : Text) (data : CheckpointData) :
    Except PyExc MemoryStore :=
  if store.opened then .ok { store with checkpoints := (label, data) :: store.checkpoints }
  else .error .assertionError

/-- `MemoryStore.get_latest_checkpoint`. -/
def getLatestCheckpoint (store : MemoryStore) (label : Text) :
    Except PyExc (Option CheckpointData) :=
  if store.opened then
    .ok ((store.checkpoints.find? fun row => row.1 = label).map Prod.snd)
  else .error .assertionError

theorem set_of_opened {store : MemoryStore} (opened : store.opened = true) (key value : Text) :
    store.set key value =
      .ok { store with kv := (key, value) :: store.kv.filter fun row => row.1 ≠ key } :=
  if_pos opened

theorem checkpoint_of_opened {store : MemoryStore} (opened : store.opened = true) (label : Text)
    (data : CheckpointData) : store.checkpoint label data =
      .ok { store with checkpoints := (label, data) :: store.checkpoints } :=
  if_pos opened

end MemoryStore

/-- The future of a review that an agent has asked for. -/
inductive ReviewGate where
  | pending
  | done (decision : Text)
  deriving DecidableEq, Repr

/-- The fields of `WorkerConfig` that decide how a container is built. -/
structure WorkerConfig where
  handlerType : Text
  agentType : Text := "gsd"
  gsdCommand : Option Text := none
  deriving DecidableEq

/-- A container, without its handler and its writer. -/
structure WorkerContainer where
  agentId : Text
  agentType : Text
  gsdCommand : Option Text
  fsmState : FsmState
  memory : MemoryStore
  isIdle : Bool
  taskQueue : List Text
  pendingReview : Option ReviewGate
  currentAssignment : Option PyValue

/-- The clock as a message is handled: the current time and the container's age. -/
structure Moment where
  isoformat : Text
  uptime : ℚ

namespace WorkerContainer

/-- `WorkerContainer.__init__`, over the database of the working directory. -/
def new (config : WorkerConfig) (agentId : Text) (memory : MemoryStore) : WorkerContainer where
  agentId := agentId
  agentType := config.agentType
  gsdCommand := config.gsdCommand
  fsmState := .single "creating"
  memory := memory
  isIdle := false
  taskQueue := []
  pendingReview := none
  currentAssignment := none

/-- The container with the given review gate. -/
def withGate (container : WorkerContainer) (gate : ReviewGate) : WorkerContainer :=
  { container with pendingReview := some gate }

/-- `WorkerContainer._drain_task_queue`. -/
def drainTaskQueue (container : WorkerContainer) : WorkerContainer :=
  match container.taskQueue with
  | [] => container
  | _ :: rest => { container with taskQueue := rest, isIdle := false }

/-- `WorkerContainer.give_task`. -/
def giveTask (container : WorkerContainer) (task : Text) : WorkerContainer :=
  let queued := { container with taskQueue := container.taskQueue ++ [task] }
  if container.isIdle then queued.drainTaskQueue else queued

/-- `WorkerContainer.handle_signal`. -/
def handleSignal (container : WorkerContainer) (signalType : Text) : WorkerContainer :=
  if signalType = "ready" ∨ signalType = "idle" then
    let signalled := { container with isIdle := decide (signalType = "idle") }
    if signalled.isIdle ∧ signalled.taskQueue ≠ [] then signalled.drainTaskQueue else signalled
  else container

/-- `WorkerContainer.health_report`, as the message sent to the head. -/
def healthReport (container : WorkerContainer) (now : Moment) : HealthReportMessage where
  status := container.fsmState.state
  agentState := container.fsmState.innerState.getD []
  uptimeSeconds := now.uptime

@[simp] theorem drainTaskQueue_memory (container : WorkerContainer) :
    container.drainTaskQueue.memory = container.memory := by
  unfold drainTaskQueue
  split <;> rfl

@[simp] theorem giveTask_memory (container : WorkerContainer) (task : Text) :
    (container.giveTask task).memory = container.memory := by
  unfold giveTask
  cases container.isIdle with
  | false => rfl
  | true => exact drainTaskQueue_memory _

@[simp] theorem withGate_pendingReview (container : WorkerContainer) (gate : ReviewGate) :
    (container.withGate gate).pendingReview = some gate := rfl

@[simp] theorem withGate_withGate (container : WorkerContainer) (first second : ReviewGate) :
    (container.withGate first).withGate second = container.withGate second := rfl

end WorkerContainer

end Vcompany.Worker
