import Vcompany.Foundation.Dict
import Vcompany.Foundation.PriorityQueue
import Vcompany.Foundation.Text
import Mathlib.Algebra.Order.Ring.Rat

/-! # The outbound message queue

Messages wait in a priority queue, which one task drains; health reports wait in a buffer
until they are flushed into the queue. `put` on the queue never waits, since the queue is
not bounded, so the drain task is suspended only where `DrainTask` says. Times are in
seconds.
-/

namespace Vcompany.Resilience

open Foundation

inductive MessagePriority where
  | escalation
  | supervisor
  | status
  | healthDebounced
  deriving DecidableEq, Repr

/-- The value of the enumeration; the lower goes first. -/
def MessagePriority.value : MessagePriority → ℤ
  | .escalation => 0
  | .supervisor => 1
  | .status => 2
  | .healthDebounced => 3

structure QueuedMessage (Embed : Type) where
  priority : ℤ
  timestamp : ℚ
  channelId : ℤ := 0
  content : Option Text := none
  embed : Option Embed := none
  deriving DecidableEq

variable {Embed : Type}

/-- Messages are compared by priority and then by time. -/
instance : LT (QueuedMessage Embed) where
  lt first second :=
    first.priority < second.priority ∨
      first.priority = second.priority ∧ first.timestamp < second.timestamp

instance : DecidableLT (QueuedMessage Embed) :=
  fun _ _ => inferInstanceAs (Decidable (_ ∨ _))

/-- Where the drain task is suspended. -/
inductive DrainTask (Embed : Type) where
  /-- Created, and not yet run. -/
  | created
  /-- In `get`, on an empty queue. -/
  | getting
  /-- In the sleep of the backoff. -/
  | backingOff (message : QueuedMessage Embed)
  /-- In `send_func`. -/
  | sending (message : QueuedMessage Embed)
  /-- In the sleep of the interval. -/
  | pacing
  | done
  deriving DecidableEq

structure MessageQueue (Embed : Type) where
  maxRate : ℚ
  queue : PriorityQueue (QueuedMessage Embed) := .empty
  backoff : ℚ := 0
  healthBuffer : Dict ℤ (QueuedMessage Embed) := .empty
  /-- The timer that the handle is for. -/
  healthFlushHandle : Option ℕ := none
  drainTask : Option (DrainTask Embed) := none

/-- How a send that is not cancelled ends. -/
inductive SendOutcome where
  | success
  | rateLimited
  | failed
  deriving DecidableEq

/-- The report that `enqueue_health` stores. -/
def healthReport (channelId : ℤ) (embed : Embed) (time : ℚ) : QueuedMessage Embed where
  priority := MessagePriority.healthDebounced.value
  timestamp := time
  channelId := channelId
  embed := some embed

namespace MessageQueue

/-- `enqueue`. -/
def enqueue (message : QueuedMessage Embed) (messages : MessageQueue Embed) : MessageQueue Embed :=
  { messages with queue := messages.queue.put message }

/-- `enqueue_health`, with the timer that is armed. -/
def enqueueHealth (channelId : ℤ) (embed : Embed) (time : ℚ) (timer : ℕ)
    (messages : MessageQueue Embed) : MessageQueue Embed :=
  { messages with
    healthBuffer := messages.healthBuffer.set channelId (healthReport channelId embed time)
    healthFlushHandle := some timer }

/-- `_flush_health`. -/
def flushHealth (messages : MessageQueue Embed) : MessageQueue Embed :=
  { messages with
    queue := messages.healthBuffer.values.foldl PriorityQueue.put messages.queue
    healthBuffer := .empty
    healthFlushHandle := none }

/-- `1.0 / self._max_rate if self._max_rate > 0 else 0.0`. -/
def interval (messages : MessageQueue Embed) : ℚ :=
  if 0 < messages.maxRate then 1 / messages.maxRate else 0

/-- The drain loop, from its head to where it is suspended. -/
def drain (messages : MessageQueue Embed) : MessageQueue Embed :=
  match messages.queue.take? with
  | none => { messages with drainTask := some .getting }
  | some (message, queue) =>
      { messages with
        queue := queue
        drainTask :=
          if 0 < messages.backoff then some (.backingOff message) else some (.sending message) }

/-- The drain loop after a send. -/
def pace (messages : MessageQueue Embed) : MessageQueue Embed :=
  if 0 < messages.interval then { messages with drainTask := some .pacing } else messages.drain

/-- The drain task goes on from where it is suspended, other than in a send. -/
def resume (messages : MessageQueue Embed) : MessageQueue Embed :=
  match messages.drainTask with
  | some .created | some .getting | some .pacing => messages.drain
  | some (.backingOff message) => { messages with drainTask := some (.sending message) }
  | some (.sending _) | some .done | none => messages

/-- The drain task goes on when the send of the message has ended. -/
def sendFinished (message : QueuedMessage Embed) (messages : MessageQueue Embed) :
    SendOutcome → MessageQueue Embed
  | .success => { messages with backoff := 0 }.pace
  | .rateLimited =>
      { messages.enqueue message with backoff := min (max (messages.backoff * 2) 1) 60 }.pace
  | .failed => messages.pace

/-- `CancelledError` is raised where the drain task is suspended. Only the sleep of the
backoff puts its message back. -/
def cancelled (messages : MessageQueue Embed) : MessageQueue Embed :=
  match messages.drainTask with
  | some (.backingOff message) => { messages.enqueue message with drainTask := some .done }
  | _ => { messages with drainTask := some .done }

/-- The drain task exists and is not done. -/
def alive (messages : MessageQueue Embed) : Bool :=
  match messages.drainTask with
  | none | some .done => false
  | _ => true

/-- The messages in the queue or the health buffer. -/
def kept (messages : MessageQueue Embed) : Multiset (QueuedMessage Embed) :=
  messages.queue.contents + messages.healthBuffer.values

/-- The message that the drain task has taken from the queue. -/
def inHand (messages : MessageQueue Embed) : Multiset (QueuedMessage Embed) :=
  match messages.drainTask with
  | some (.backingOff message) | some (.sending message) => {message}
  | _ => 0

variable (messages : MessageQueue Embed)

theorem kept_enqueue (message : QueuedMessage Embed) :
    (messages.enqueue message).kept = messages.kept + {message} := by
  unfold kept enqueue
  rw [PriorityQueue.contents_put, add_right_comm]

theorem kept_enqueueHealth (channelId : ℤ) (embed : Embed) (time : ℚ) (timer : ℕ) :
    (messages.enqueueHealth channelId embed time timer).kept +
        (messages.healthBuffer.get? channelId).toList =
      messages.kept + {healthReport channelId embed time} := by
  have exchange := Multiset.coe_eq_coe.mpr
    (messages.healthBuffer.values_set_perm channelId (healthReport channelId embed time))
  rw [← Multiset.coe_add, ← Multiset.coe_add, Multiset.coe_singleton] at exchange
  unfold kept enqueueHealth
  rw [add_assoc, exchange, add_assoc]

theorem kept_flushHealth : messages.flushHealth.kept = messages.kept := by
  unfold kept flushHealth
  rw [PriorityQueue.contents_foldl_put]
  exact add_zero _

/-- The loop may take a message in hand, and loses none. -/
theorem kept_drain : messages.drain.kept + messages.drain.inHand = messages.kept := by
  unfold drain
  rcases taken : messages.queue.take? with _ | ⟨message, queue⟩
  · exact add_zero _
  · unfold kept inHand
    rw [PriorityQueue.contents_of_take? taken]
    by_cases waits : 0 < messages.backoff
    · simp only [waits, if_true]
      exact add_right_comm ..
    · simp only [waits, if_false]
      exact add_right_comm ..

theorem kept_pace : messages.pace.kept + messages.pace.inHand = messages.kept := by
  unfold pace
  split
  · exact add_zero _
  · exact messages.kept_drain

/-- The drain task takes a message, or keeps what it has in hand and changes nothing else. -/
theorem resume_cases :
    messages.inHand = 0 ∧ messages.resume = messages.drain ∨
      ∃ task, messages.resume = { messages with drainTask := task } ∧
        ({ messages with drainTask := task } : MessageQueue Embed).inHand = messages.inHand := by
  have idle {task : Option (DrainTask Embed)} (phase : messages.drainTask = task)
      (free : ({ messages with drainTask := task } : MessageQueue Embed).inHand = 0) :
      messages.inHand = 0 := by
    rwa [← phase] at free
  unfold resume
  split
  · next phase => exact .inl ⟨idle phase rfl, rfl⟩
  · next phase => exact .inl ⟨idle phase rfl, rfl⟩
  · next phase => exact .inl ⟨idle phase rfl, rfl⟩
  · next message phase => exact .inr ⟨some (.sending message), rfl, by simp only [inHand, phase]⟩
  all_goals exact .inr ⟨messages.drainTask, rfl, rfl⟩

theorem kept_resume :
    messages.resume.kept + messages.resume.inHand = messages.kept + messages.inHand := by
  rcases messages.resume_cases with ⟨idle, same⟩ | ⟨task, same, hand⟩
  · rw [same, messages.kept_drain, idle, add_zero]
  · rw [same, hand]
    rfl

/-- A message whose send succeeds or fails leaves the queue; one that is rate limited goes
back. -/
theorem kept_sendFinished (message : QueuedMessage Embed) (outcome : SendOutcome) :
    (messages.sendFinished message outcome).kept + (messages.sendFinished message outcome).inHand =
      messages.kept + if outcome = .rateLimited then {message} else 0 := by
  cases outcome with
  | success =>
      rw [if_neg nofun, add_zero]
      exact kept_pace { messages with backoff := 0 }
  | rateLimited =>
      rw [if_pos rfl, ← messages.kept_enqueue]
      exact kept_pace { messages.enqueue message with
        backoff := min (max (messages.backoff * 2) 1) 60 }
  | failed =>
      rw [if_neg nofun, add_zero]
      exact messages.kept_pace

theorem inHand_cancelled : messages.cancelled.inHand = 0 := by
  unfold cancelled
  split <;> rfl

theorem kept_cancelled (unsent : ∀ message, messages.drainTask ≠ some (.sending message)) :
    messages.cancelled.kept = messages.kept + messages.inHand := by
  unfold cancelled inHand
  rcases phase : messages.drainTask with _ | _ | _ | message | message | _ | _
  · exact (add_zero _).symm
  · exact (add_zero _).symm
  · exact (add_zero _).symm
  · exact messages.kept_enqueue message
  · exact absurd phase (unsent message)
  · exact (add_zero _).symm
  · exact (add_zero _).symm

/-- A message whose send is cancelled is nowhere. -/
theorem kept_cancelled_sending {message : QueuedMessage Embed}
    (phase : messages.drainTask = some (.sending message)) :
    messages.cancelled.kept = messages.kept := by
  unfold cancelled
  rw [phase]
  rfl

@[simp] theorem drainTask_cancelled : messages.cancelled.drainTask = some .done := by
  unfold cancelled
  split <;> rfl

theorem inHand_of_not_alive (ended : messages.alive = false) : messages.inHand = 0 := by
  unfold alive at ended
  unfold inHand
  split at ended
  · next phase => rw [phase]
  · next phase => rw [phase]
  · cases ended

/-! ## The drain task leaves the health buffer alone -/

@[simp] theorem healthBuffer_drain : messages.drain.healthBuffer = messages.healthBuffer := by
  unfold drain
  split <;> rfl

@[simp] theorem healthBuffer_pace : messages.pace.healthBuffer = messages.healthBuffer := by
  unfold pace
  split
  · rfl
  · exact messages.healthBuffer_drain

@[simp] theorem healthBuffer_resume : messages.resume.healthBuffer = messages.healthBuffer := by
  rcases messages.resume_cases with ⟨-, same⟩ | ⟨task, same, -⟩
  · rw [same, healthBuffer_drain]
  · rw [same]

@[simp] theorem healthBuffer_sendFinished (message : QueuedMessage Embed) (outcome : SendOutcome) :
    (messages.sendFinished message outcome).healthBuffer = messages.healthBuffer := by
  cases outcome <;> exact healthBuffer_pace _

@[simp] theorem healthBuffer_cancelled :
    messages.cancelled.healthBuffer = messages.healthBuffer := by
  unfold cancelled
  split <;> rfl

end MessageQueue

end Vcompany.Resilience
