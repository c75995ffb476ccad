import Vcompany.Foundation.Transition
import Vcompany.Resilience.MessageQueue
import Mathlib.Data.Finset.Basic

/-! # No message is lost silently

The callers, the debounce timer and the drain task take turns on the event loop. The ledger
tells what became of each message that was enqueued.

`stop` flushes the health buffer, cancels the drain task and waits for its end. A drain task
that is created after that end starts only when the stops that waited have returned, since
the loop runs what is ready in order.
-/

namespace Vcompany.Resilience

open Foundation

/-- The message queue on its event loop, with the ledger. -/
structure QueueRun (Embed : Type) where
  messages : MessageQueue Embed
  /-- The debounce timers that are armed. -/
  timers : Finset ℕ := ∅
  nextTimer : ℕ := 0
  /-- The flushes for which a timer has fired. -/
  flushes : ℕ := 0
  /-- The drain task is cancelled, and the error not yet raised. -/
  cancelling : Bool := false
  /-- The stops that wait for the drain task. -/
  stopping : ℕ := 0
  /-- The stops for which it has ended. -/
  woken : ℕ := 0
  enqueued : Multiset (QueuedMessage Embed) := 0
  sent : Multiset (QueuedMessage Embed) := 0
  discarded : Multiset (QueuedMessage Embed) := 0
  superseded : Multiset (QueuedMessage Embed) := 0

inductive QueueEvent (Embed : Type) where
  | enqueue (message : QueuedMessage Embed)
  | enqueueHealth (channelId : ℤ) (embed : Embed) (time : ℚ)
  | timerFires (timer : ℕ)
  | flushRuns
  | start
  | stop
  /-- A stop whose drain task has ended goes on. -/
  | stopReturns
  /-- The drain task is run, or its wait or sleep ends. -/
  | drainResumes
  | sendFinishes (outcome : SendOutcome)
  /-- `CancelledError` is raised in the drain task. -/
  | cancelDelivered

namespace QueueRun

variable {Embed : Type}

/-- A new queue: nothing is started. -/
def created (maxRate : ℚ) : QueueRun Embed where
  messages := { maxRate }

/-- The timers once that of the handle is cancelled. -/
def disarmed (run : QueueRun Embed) : Finset ℕ :=
  match run.messages.healthFlushHandle with
  | some timer => run.timers.erase timer
  | none => run.timers

/-- The send of the message has ended, and the ledger tells how. -/
def sendFinished (message : QueuedMessage Embed) (outcome : SendOutcome) (run : QueueRun Embed) :
    QueueRun Embed :=
  { run with
    messages := run.messages.sendFinished message outcome
    sent := if outcome = .success then run.sent + {message} else run.sent
    discarded := if outcome = .failed then run.discarded + {message} else run.discarded }

def perform (run : QueueRun Embed) : QueueEvent Embed → QueueRun Embed
  | .enqueue message =>
      { run with
        messages := run.messages.enqueue message
        enqueued := run.enqueued + {message} }
  | .enqueueHealth channelId embed time =>
      { run with
        messages := run.messages.enqueueHealth channelId embed time run.nextTimer
        timers := insert run.nextTimer run.disarmed
        nextTimer := run.nextTimer + 1
        enqueued := run.enqueued + {healthReport channelId embed time}
        superseded := run.superseded + (run.messages.healthBuffer.get? channelId).toList }
  | .timerFires timer =>
      if timer ∈ run.timers then
        { run with timers := run.timers.erase timer, flushes := run.flushes + 1 }
      else run
  | .flushRuns =>
      if 0 < run.flushes then
        { run with messages := run.messages.flushHealth, flushes := run.flushes - 1 }
      else run
  | .start =>
      if run.messages.alive then run
      else { run with messages := { run.messages with drainTask := some .created } }
  | .stop =>
      let flushed := { run with messages := run.messages.flushHealth, timers := run.disarmed }
      if run.messages.alive then
        { flushed with cancelling := true, stopping := run.stopping + 1 }
      else flushed
  | .stopReturns => { run with woken := run.woken - 1 }
  | .drainResumes =>
      if run.cancelling = true ∨ 0 < run.woken then run
      else { run with messages := run.messages.resume }
  | .sendFinishes outcome =>
      match run.messages.drainTask with
      | some (.sending message) => if run.cancelling then run else run.sendFinished message outcome
      | _ => run
  | .cancelDelivered =>
      if run.cancelling then
        { run with
          messages := run.messages.cancelled
          cancelling := false
          stopping := 0
          woken := run.woken + run.stopping }
      else run

/-- A stop returns with the event. -/
def ReturnsStop (run : QueueRun Embed) : QueueEvent Embed → Prop
  | .stop => run.messages.alive = false
  | .stopReturns => 0 < run.woken
  | _ => False

/-- The condition on the state before an event: the drain task is not cancelled in a send. -/
def Uninterrupted (run : QueueRun Embed) : QueueEvent Embed → Prop
  | .cancelDelivered => run.cancelling = true → ∀ message,
      run.messages.drainTask ≠ some (.sending message)
  | _ => True

/-- A report in the health buffer waits for a timer or a flush. -/
def FlushPending (run : QueueRun Embed) : Prop :=
  run.messages.healthBuffer.entries ≠ [] → run.timers.Nonempty ∨ 0 < run.flushes

/-- Every message that was enqueued is still in the queue or the health buffer, sent,
discarded or superseded, and the health buffer will be flushed. -/
def Accounted (run : QueueRun Embed) : Prop :=
  run.enqueued = run.messages.queue.contents + run.messages.healthBuffer.values +
      (run.sent + run.discarded + run.superseded) ∧
    run.FlushPending

/-- Every message that was enqueued is accounted for, unless the drain task has it in
hand. -/
def Balanced (run : QueueRun Embed) : Prop :=
  run.enqueued = run.messages.kept + run.messages.inHand +
    (run.sent + run.discarded + run.superseded)

/-- While a stop is about to return, the drain task has not run. -/
def StopsFirst (run : QueueRun Embed) : Prop :=
  0 < run.woken → run.messages.drainTask = some .done ∨ run.messages.drainTask = some .created

variable {run : QueueRun Embed}

theorem created_balanced (maxRate : ℚ) : (created maxRate : QueueRun Embed).Balanced := by
  unfold Balanced
  rfl

theorem Balanced.sendFinished (balanced : run.Balanced) {message : QueuedMessage Embed}
    (phase : run.messages.drainTask = some (.sending message)) (outcome : SendOutcome) :
    (run.sendFinished message outcome).Balanced := by
  have held : run.messages.inHand = {message} := by
    unfold MessageQueue.inHand
    rw [phase]
  unfold Balanced at balanced ⊢
  rw [held] at balanced
  unfold QueueRun.sendFinished
  dsimp only
  rw [balanced, run.messages.kept_sendFinished]
  cases outcome with
  | success =>
      simp only [reduceCtorEq, if_true, if_false]
      ac_rfl
  | rateLimited =>
      simp only [reduceCtorEq, if_true, if_false]
  | failed =>
      simp only [reduceCtorEq, if_true, if_false]
      ac_rfl

/-- What is in hand when a cancellation strikes is kept, unless it is being sent. -/
theorem balanced_cancelled_iff (balanced : run.Balanced) :
    run.enqueued = run.messages.cancelled.kept + run.messages.cancelled.inHand +
        (run.sent + run.discarded + run.superseded) ↔
      ∀ message, run.messages.drainTask ≠ some (.sending message) := by
  rw [balanced, run.messages.inHand_cancelled, add_zero]
  constructor
  · intro same message phase
    rw [run.messages.kept_cancelled_sending phase] at same
    have none := add_left_cancel ((add_right_cancel same).trans (add_zero _).symm)
    unfold MessageQueue.inHand at none
    rw [phase] at none
    exact Multiset.singleton_ne_zero message none
  · intro unsent
    rw [run.messages.kept_cancelled unsent]

/-- **One event.** The messages stay accounted for exactly under the condition. -/
theorem balanced_perform_iff (balanced : run.Balanced) (event : QueueEvent Embed) :
    (run.perform event).Balanced ↔ run.Uninterrupted event := by
  cases event with
  | enqueue message =>
      refine iff_of_true ?_ trivial
      unfold Balanced QueueRun.perform
      dsimp only
      rw [run.messages.kept_enqueue, balanced]
      change _ = _ + run.messages.inHand + _
      ac_rfl
  | enqueueHealth channelId embed time =>
      refine iff_of_true ?_ trivial
      unfold Balanced QueueRun.perform
      dsimp only
      have exchange := run.messages.kept_enqueueHealth channelId embed time run.nextTimer
      rw [balanced]
      calc run.messages.kept + run.messages.inHand + (run.sent + run.discarded + run.superseded) +
              {healthReport channelId embed time}
          = run.messages.kept + {healthReport channelId embed time} + run.messages.inHand +
              (run.sent + run.discarded + run.superseded) := by ac_rfl
        _ = _ + (run.messages.healthBuffer.get? channelId).toList + run.messages.inHand +
              (run.sent + run.discarded + run.superseded) := by rw [exchange]
        _ = _ + run.messages.inHand + (run.sent + run.discarded + (run.superseded +
              (run.messages.healthBuffer.get? channelId).toList)) := by ac_rfl
  | timerFires timer =>
      refine iff_of_true ?_ trivial
      unfold QueueRun.perform
      dsimp only
      split <;> exact balanced
  | flushRuns =>
      refine iff_of_true ?_ trivial
      unfold QueueRun.perform
      dsimp only
      split
      · unfold Balanced
        dsimp only
        rw [run.messages.kept_flushHealth]
        exact balanced
      · exact balanced
  | start =>
      refine iff_of_true ?_ trivial
      unfold QueueRun.perform
      dsimp only
      split
      · exact balanced
      · next ended =>
          rw [Bool.not_eq_true] at ended
          unfold Balanced at balanced
          rwa [run.messages.inHand_of_not_alive ended] at balanced
  | stop =>
      refine iff_of_true ?_ trivial
      have flushed : run.enqueued = run.messages.flushHealth.kept +
          run.messages.flushHealth.inHand + (run.sent + run.discarded + run.superseded) := by
        rw [run.messages.kept_flushHealth]
        exact balanced
      unfold QueueRun.perform
      dsimp only
      split <;> exact flushed
  | stopReturns => exact iff_of_true balanced trivial
  | drainResumes =>
      refine iff_of_true ?_ trivial
      unfold QueueRun.perform
      dsimp only
      split
      · exact balanced
      · unfold Balanced
        dsimp only
        rw [run.messages.kept_resume]
        exact balanced
  | sendFinishes outcome =>
      refine iff_of_true ?_ trivial
      unfold QueueRun.perform
      dsimp only
      split
      · next message phase =>
          split
          · exact balanced
          · exact balanced.sendFinished phase outcome
      · exact balanced
  | cancelDelivered =>
      unfold QueueRun.perform Uninterrupted
      dsimp only
      by_cases cancelling : run.cancelling = true
      · rw [if_pos cancelling, forall_prop_of_true cancelling]
        exact balanced_cancelled_iff balanced
      · rw [if_neg cancelling]
        exact iff_of_true balanced fun asked => absurd asked cancelling

theorem StopsFirst.perform (first : run.StopsFirst) (event : QueueEvent Embed) :
    (run.perform event).StopsFirst := by
  cases event with
  | enqueue | enqueueHealth => exact first
  | timerFires timer =>
      unfold QueueRun.perform
      dsimp only
      split <;> exact first
  | flushRuns =>
      unfold QueueRun.perform
      dsimp only
      split <;> exact first
  | start =>
      unfold QueueRun.perform
      dsimp only
      split
      · exact first
      · exact fun _ => .inr rfl
  | stop =>
      unfold QueueRun.perform
      dsimp only
      split <;> exact first
  | stopReturns => exact fun woken => first (Nat.lt_of_lt_of_le woken (Nat.sub_le _ 1))
  | drainResumes =>
      unfold QueueRun.perform
      dsimp only
      split
      · exact first
      · next asleep => exact fun woken => absurd (.inr woken) asleep
  | sendFinishes outcome =>
      unfold QueueRun.perform
      dsimp only
      split
      · next message phase =>
          split
          · exact first
          · intro woken
            rcases first woken with ended | fresh
            · rw [phase] at ended
              cases ended
            · rw [phase] at fresh
              cases fresh
      · exact first
  | cancelDelivered =>
      unfold QueueRun.perform
      dsimp only
      split
      · exact fun _ => .inl run.messages.drainTask_cancelled
      · exact first

theorem FlushPending.perform (pending : run.FlushPending) (event : QueueEvent Embed) :
    (run.perform event).FlushPending := by
  cases event with
  | enqueue => exact pending
  | enqueueHealth => exact fun _ => .inl (Finset.insert_nonempty _ _)
  | timerFires timer =>
      unfold QueueRun.perform
      dsimp only
      split
      · exact fun _ => .inr (Nat.succ_pos _)
      · exact pending
  | flushRuns =>
      unfold QueueRun.perform
      dsimp only
      split
      · exact fun waiting => absurd rfl waiting
      · exact pending
  | start =>
      unfold QueueRun.perform
      dsimp only
      split <;> exact pending
  | stop =>
      unfold QueueRun.perform
      dsimp only
      split <;> exact fun waiting => absurd rfl waiting
  | stopReturns => exact pending
  | drainResumes =>
      unfold QueueRun.perform FlushPending
      dsimp only
      split
      · exact pending
      · rw [run.messages.healthBuffer_resume]
        exact pending
  | sendFinishes outcome =>
      unfold QueueRun.perform
      dsimp only
      split
      · next message _ =>
          split
          · exact pending
          · unfold FlushPending QueueRun.sendFinished
            rw [run.messages.healthBuffer_sendFinished]
            exact pending
      · exact pending
  | cancelDelivered =>
      unfold QueueRun.perform FlushPending
      dsimp only
      split
      · rw [run.messages.healthBuffer_cancelled]
        exact pending
      · exact pending

/-- When a stop returns, the drain task has no message in hand. -/
theorem accounted_of_returnsStop (balanced : run.Balanced) (first : run.StopsFirst)
    (pending : run.FlushPending) {event : QueueEvent Embed} (returns : run.ReturnsStop event) :
    (run.perform event).Accounted := by
  have flushing := pending.perform event
  cases event with
  | stop =>
      have idle := run.messages.inHand_of_not_alive returns
      refine ⟨?_, flushing⟩
      have ended : ¬ run.messages.alive = true := fun alive => by
        rw [show run.messages.alive = false from returns] at alive
        cases alive
      unfold QueueRun.perform
      dsimp only
      rw [if_neg ended]
      change run.enqueued = run.messages.flushHealth.kept + _
      rw [run.messages.kept_flushHealth, balanced, idle, add_zero]
  | stopReturns =>
      refine ⟨?_, flushing⟩
      have idle : run.messages.inHand = 0 := by
        unfold MessageQueue.inHand
        rcases first returns with phase | phase <;> rw [phase]
      change run.enqueued = run.messages.kept + (run.sent + run.discarded + run.superseded)
      rw [balanced, idle, add_zero]
  | enqueue | enqueueHealth | timerFires | flushRuns | start | drainResumes | sendFinishes
  | cancelDelivered => exact returns.elim

/-- **No message is lost silently.** In a run in which the drain task is never cancelled in a
send, every message that was enqueued is accounted for when a stop returns. -/
theorem accounted_once_stopped (maxRate : ℚ) (events : List (QueueEvent Embed))
    (event : QueueEvent Embed)
    (uninterrupted : EachMeets perform Uninterrupted (created maxRate) events)
    (returns : (events.foldl perform (created maxRate)).ReturnsStop event) :
    ((events ++ [event]).foldl perform (created maxRate)).Accounted := by
  have balanced : Throughout perform Balanced (created maxRate) events :=
    (@throughout_iff _ _ _ Balanced _ (fun _ event balanced => balanced_perform_iff balanced event)
      _ (created_balanced maxRate) events).mpr uninterrupted
  have first : (events.foldl perform (created maxRate)).StopsFirst :=
    List.foldlRecOn events perform (fun woken => nomatch woken)
      fun _ first event _ => first.perform event
  have pending : (events.foldl perform (created maxRate)).FlushPending :=
    List.foldlRecOn events perform (fun waiting => absurd rfl waiting)
      fun _ pending event _ => pending.perform event
  rw [List.foldl_append]
  exact accounted_of_returnsStop balanced.last first pending returns

private def notice : QueuedMessage Unit where
  priority := MessagePriority.status.value
  timestamp := 1

private def delivery : List (QueueEvent Unit) :=
  [.enqueue notice, .start, .drainResumes, .sendFinishes .success, .stop, .cancelDelivered]

theorem delivered_message_accounted :
    EachMeets perform Uninterrupted (created 5) delivery ∧
      (delivery.foldl perform (created 5)).ReturnsStop .stopReturns ∧
      ((delivery ++ [QueueEvent.stopReturns]).foldl perform (created 5)).Accounted := by
  have uninterrupted : EachMeets perform Uninterrupted (created 5) delivery := by
    refine ⟨trivial, trivial, trivial, trivial, trivial, ?_, trivial⟩
    intro _ message sending
    have phase : ((delivery.take 5).foldl perform (created 5)).messages.drainTask =
        some .pacing := by decide +kernel
    exact nomatch phase.symm.trans sending
  have returns : (delivery.foldl perform (created 5)).ReturnsStop .stopReturns := by
    change 0 < (delivery.foldl perform (created 5)).woken
    decide +kernel
  exact ⟨uninterrupted, returns, accounted_once_stopped 5 delivery .stopReturns uninterrupted
    returns⟩

private def interruption : List (QueueEvent Unit) :=
  [.enqueue notice, .start, .drainResumes, .stop, .cancelDelivered]

/-- The drain task is cancelled in its first send; the message is neither in the queue nor
sent. -/
theorem cancelled_send_lost :
    ¬ ∀ (Embed : Type) (maxRate : ℚ) (events : List (QueueEvent Embed)) (event : QueueEvent Embed),
      (events.foldl perform (created maxRate)).ReturnsStop event →
        ((events ++ [event]).foldl perform (created maxRate)).Accounted := by
  intro claim
  have returns : (interruption.foldl perform (created 5)).ReturnsStop .stopReturns := by
    change 0 < (interruption.foldl perform (created 5)).woken
    decide +kernel
  exact absurd (claim Unit 5 interruption .stopReturns returns).1 (by decide +kernel)

end QueueRun

end Vcompany.Resilience
