import Vcompany.Worker.Container

/-! # The task queue of a worker

A task is put at the end of the queue, and taken from its front when the container is idle or
becomes so. Taking one ends the idleness, so an idle container has nothing queued
(`TaskLog.Settled`), and between two idle signals at most one task is taken.
-/

namespace Vcompany.Worker

open Foundation

/-- What reaches the queue of a container. -/
inductive TaskEvent where
  | giveTask (task : Text)
  | signal (signalType : Text)
  deriving DecidableEq

/-- The task that is given. -/
def TaskEvent.task? : TaskEvent → Option Text
  | giveTask task => some task
  | signal _ => none

/-- The container, with the tasks that `_drain_task_queue` has taken so far. -/
structure TaskLog where
  container : WorkerContainer
  drained : List Text

namespace TaskLog

def new (config : WorkerConfig) (agentId : Text) (memory : MemoryStore) : TaskLog where
  container := .new config agentId memory
  drained := []

/-- `put`, into the queue. -/
def queue (log : TaskLog) (task : Text) : TaskLog :=
  { log with
    container := { log.container with taskQueue := log.container.taskQueue ++ [task] } }

/-- `_drain_task_queue`, which logs the task. -/
def drainTaskQueue (log : TaskLog) : TaskLog where
  container := log.container.drainTaskQueue
  drained := log.drained ++ log.container.taskQueue.take 1

/-- The container's own operation, with what it drains. -/
def perform (log : TaskLog) : TaskEvent → TaskLog
  | .giveTask task =>
      if log.container.isIdle then (log.queue task).drainTaskQueue else log.queue task
  | .signal signalType =>
      if signalType = "ready" ∨ signalType = "idle" then
        let signalled := { log with
          container := { log.container with isIdle := decide (signalType = "idle") } }
        if signalled.container.isIdle ∧ signalled.container.taskQueue ≠ [] then
          signalled.drainTaskQueue
        else signalled
      else log

/-- The operation of the container. -/
def operate (container : WorkerContainer) : TaskEvent → WorkerContainer
  | .giveTask task => container.giveTask task
  | .signal signalType => container.handleSignal signalType

/-- The log has the container as its operations leave it. -/
theorem container_perform (log : TaskLog) (event : TaskEvent) :
    (log.perform event).container = operate log.container event := by
  cases event with
  | giveTask task =>
      unfold perform operate WorkerContainer.giveTask
      dsimp only
      split <;> rfl
  | signal signalType =>
      unfold perform operate WorkerContainer.handleSignal
      dsimp only
      split
      · split <;> rfl
      · rfl

/-! ## What an operation keeps -/

/-- An idle container has nothing queued. -/
def Settled (log : TaskLog) : Prop :=
  log.container.isIdle = true → log.container.taskQueue = []

/-- The tasks drained and those still queued are those given, in order. -/
def Accounts (log : TaskLog) (given : List Text) : Prop :=
  log.drained ++ log.container.taskQueue = given

/-- How many tasks are drained, with the one that an idle container will drain next. -/
def claimed (log : TaskLog) : ℕ :=
  log.drained.length + if log.container.isIdle then 1 else 0

variable {log : TaskLog} {given : List Text}

theorem drainTaskQueue_of_nil (empty : log.container.taskQueue = []) :
    log.drainTaskQueue = log := by
  unfold drainTaskQueue WorkerContainer.drainTaskQueue
  rw [empty, List.take_nil, List.append_nil]

theorem drainTaskQueue_of_cons {task : Text} {rest : List Text}
    (queued : log.container.taskQueue = task :: rest) :
    log.drainTaskQueue =
      { container := { log.container with taskQueue := rest, isIdle := false }
        drained := log.drained ++ [task] } := by
  unfold drainTaskQueue WorkerContainer.drainTaskQueue
  rw [queued]
  rfl

theorem Accounts.drainTaskQueue (accounts : log.Accounts given) :
    log.drainTaskQueue.Accounts given := by
  rcases queued : log.container.taskQueue with _ | ⟨task, rest⟩
  · rwa [drainTaskQueue_of_nil queued]
  · rw [drainTaskQueue_of_cons queued]
    unfold Accounts at *
    rw [← accounts, queued, List.append_assoc]
    rfl

theorem Accounts.queue (accounts : log.Accounts given) (task : Text) :
    (log.queue task).Accounts (given ++ [task]) := by
  unfold Accounts TaskLog.queue at *
  rw [← accounts, List.append_assoc]

/-- What the operations of the container do: a task comes to the end of the queue, or goes at
once through an empty one; and a signal sets the flag, or lets the first task go. -/
theorem perform_cases (settled : log.Settled) (event : TaskEvent) :
    (∃ task, event = .giveTask task ∧ log.container.isIdle = false ∧
      log.perform event = log.queue task) ∨
    (∃ task, event = .giveTask task ∧ log.container.isIdle = true ∧
      log.perform event = { container := { log.container with isIdle := false }
                            drained := log.drained ++ [task] }) ∨
    (∃ task rest, event = .signal "idle" ∧ log.container.taskQueue = task :: rest ∧
      log.perform event =
        { container := { log.container with taskQueue := rest, isIdle := false }
          drained := log.drained ++ [task] }) ∨
    (event = .signal "idle" ∧ log.container.taskQueue = [] ∧
      log.perform event = { log with container := { log.container with isIdle := true } }) ∨
    (event = .signal "ready" ∧
      log.perform event = { log with container := { log.container with isIdle := false } }) ∨
    (event.task? = none ∧ event ≠ .signal "idle" ∧ log.perform event = log) := by
  cases event with
  | giveTask task =>
      unfold perform
      cases idle : log.container.isIdle with
      | false => exact .inl ⟨task, rfl, rfl, rfl⟩
      | true =>
          -- the queue of an idle container holds the new task alone
          have alone : (log.queue task).container.taskQueue = [task] := by
            change log.container.taskQueue ++ [task] = [task]
            rw [settled idle, List.nil_append]
          refine .inr (.inl ⟨task, rfl, rfl, ?_⟩)
          dsimp only
          rw [if_pos rfl, drainTaskQueue_of_cons alone]
          unfold queue
          rw [← settled idle]
  | signal signalType =>
      unfold perform
      by_cases idle : signalType = "idle"
      · subst idle
        rcases queued : log.container.taskQueue with _ | ⟨task, rest⟩
        · exact .inr (.inr (.inr (.inl ⟨rfl, rfl, by simp [queued]⟩)))
        · refine .inr (.inr (.inl ⟨task, rest, rfl, rfl, ?_⟩))
          dsimp only
          rw [if_pos (.inr rfl), if_pos ⟨rfl, queued ▸ List.cons_ne_nil task rest⟩]
          exact drainTaskQueue_of_cons queued
      · by_cases ready : signalType = "ready"
        · subst ready
          exact .inr (.inr (.inr (.inr (.inl ⟨rfl, by simp⟩))))
        · refine .inr (.inr (.inr (.inr (.inr ⟨rfl, fun same => ?_, ?_⟩))))
          · exact idle (TaskEvent.signal.inj same)
          · exact if_neg (not_or.mpr ⟨ready, idle⟩)

theorem Settled.perform (settled : log.Settled) (event : TaskEvent) :
    (log.perform event).Settled := by
  unfold Settled
  obtain ⟨task, -, busy, after⟩ | ⟨task, -, -, after⟩ | ⟨task, rest, -, -, after⟩ |
    ⟨-, empty, after⟩ | ⟨-, after⟩ | ⟨-, -, after⟩ := perform_cases settled event
  · rw [after]
    intro idle
    change log.container.isIdle = true at idle
    rw [busy] at idle
    cases idle
  · rw [after]
    exact nofun
  · rw [after]
    exact nofun
  · rw [after]
    exact fun _ => empty
  · rw [after]
    exact nofun
  · rw [after]
    exact settled

theorem Accounts.perform (settled : log.Settled) (accounts : log.Accounts given)
    (event : TaskEvent) :
    (log.perform event).Accounts (given ++ event.task?.toList) := by
  obtain ⟨task, rfl, -, after⟩ | ⟨task, rfl, idle, after⟩ | ⟨task, rest, rfl, queued, after⟩ |
    ⟨rfl, -, after⟩ | ⟨rfl, after⟩ | ⟨silent, -, after⟩ := perform_cases settled event
  · rw [after]
    exact accounts.queue task
  · rw [after]
    have empty := settled idle
    unfold Accounts at *
    rw [empty, List.append_nil] at accounts
    change (log.drained ++ [task]) ++ log.container.taskQueue = given ++ [task]
    rw [accounts, empty, List.append_nil]
  · rw [after]
    unfold Accounts at *
    rw [← accounts, queued]
    simp [TaskEvent.task?]
  · rw [after, show given ++ (TaskEvent.signal "idle").task?.toList = given from List.append_nil _]
    exact accounts
  · rw [after, show given ++ (TaskEvent.signal "ready").task?.toList = given from List.append_nil _]
    exact accounts
  · rw [after, silent, Option.toList_none, List.append_nil]
    exact accounts

/-- Only an idle signal lets another task go. -/
theorem claimed_perform_le (settled : log.Settled) {event : TaskEvent}
    (other : event ≠ .signal "idle") : (log.perform event).claimed ≤ log.claimed := by
  unfold claimed
  obtain ⟨task, -, busy, after⟩ | ⟨task, -, idle, after⟩ | ⟨task, rest, signal, -, -⟩ |
    ⟨signal, -, -⟩ | ⟨-, after⟩ | ⟨-, -, after⟩ := perform_cases settled event
  · rw [after]
    rfl
  · rw [after, idle]
    simp
  · exact absurd signal other
  · exact absurd signal other
  · rw [after]
    simp
  · rw [after]

theorem claimed_idle_le (settled : log.Settled) :
    (log.perform (.signal "idle")).claimed ≤ log.drained.length + 1 := by
  unfold claimed
  obtain ⟨task, give, -, -⟩ | ⟨task, give, -, -⟩ | ⟨task, rest, -, -, after⟩ |
    ⟨-, -, after⟩ | ⟨ready, -⟩ | ⟨-, other, -⟩ := perform_cases settled (.signal "idle")
  · cases give
  · cases give
  · rw [after]
    simp
  · rw [after]
    simp
  · exact absurd ready (by decide)
  · exact absurd rfl other

/-! ## Runs -/

theorem settled_foldl (settled : log.Settled) (events : List TaskEvent) :
    (events.foldl perform log).Settled := by
  induction events generalizing log with
  | nil => exact settled
  | cons event events ih => exact ih (settled.perform event)

theorem accounts_foldl (settled : log.Settled) (accounts : log.Accounts given)
    (events : List TaskEvent) :
    (events.foldl perform log).Accounts (given ++ events.filterMap TaskEvent.task?) := by
  induction events generalizing log given with
  | nil => rwa [List.filterMap_nil, List.append_nil]
  | cons event events ih =>
      have later := ih (settled.perform event) (accounts.perform settled event)
      rw [List.append_assoc] at later
      rw [List.foldl_cons, List.filterMap_cons]
      cases task : event.task? with
      | none => rwa [task] at later
      | some task' => rwa [task] at later

theorem claimed_foldl_le (settled : log.Settled) {events : List TaskEvent}
    (others : .signal "idle" ∉ events) : (events.foldl perform log).claimed ≤ log.claimed := by
  induction events generalizing log with
  | nil => exact le_rfl
  | cons event events ih =>
      obtain ⟨other, later⟩ := not_or.mp (mt List.mem_cons.mpr others)
      exact (ih (settled.perform event) later).trans
        (claimed_perform_le settled fun same => other same.symm)

theorem settled_new (config : WorkerConfig) (agentId : Text) (memory : MemoryStore) :
    (new config agentId memory).Settled := nofun

/-- **The task queue.** After any sequence of tasks and signals an idle container has an empty
queue, the tasks drained and then those still queued are the tasks given, in order, and from an
idle signal up to the next one at most one task is drained. -/
theorem task_queue_in_order (config : WorkerConfig) (agentId : Text) (memory : MemoryStore)
    (events : List TaskEvent) :
    ((events.foldl perform (new config agentId memory)).container.isIdle = true →
        (events.foldl perform (new config agentId memory)).container.taskQueue = []) ∧
      (events.foldl perform (new config agentId memory)).drained ++
          (events.foldl perform (new config agentId memory)).container.taskQueue =
        events.filterMap TaskEvent.task? ∧
      ∀ before between, events = before ++ .signal "idle" :: between →
        .signal "idle" ∉ between →
          (events.foldl perform (new config agentId memory)).drained.length ≤
            (before.foldl perform (new config agentId memory)).drained.length + 1 := by
  have settled := settled_new config agentId memory
  refine ⟨settled_foldl settled events, accounts_foldl settled rfl events, ?_⟩
  rintro before between rfl others
  rw [List.foldl_append, List.foldl_cons]
  have earlier := settled_foldl settled before
  have signalled := claimed_foldl_le (earlier.perform (.signal "idle")) others
  have once := claimed_idle_le earlier
  unfold claimed at signalled once
  omega

end TaskLog

end Vcompany.Worker
