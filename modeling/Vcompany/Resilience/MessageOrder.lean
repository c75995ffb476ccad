import Vcompany.Resilience.MessageConservation
import Mathlib.Algebra.Order.Field.Rat
import Mathlib.Data.List.Sort
import Mathlib.Data.Prod.Lex
import Mathlib.Tactic.Linarith
import Mathlib.Tactic.NormNum

/-! # The order of messages

A message that is rate limited goes back into the queue, where it competes with those that came
in the meantime. Since it is older than they are, it is taken before any of its own priority:
`sends_in_order` says that messages of one priority are sent in the order in which they were
enqueued, that none is taken while one of a higher priority waits, and what the backoff is.
-/

namespace Vcompany.Resilience

open Foundation

variable {Embed : Type}

/-! ## The queue -/

/-- By what messages are compared. -/
def QueuedMessage.key (message : QueuedMessage Embed) : ℤ ×ₗ ℚ :=
  toLex (message.priority, message.timestamp)

theorem QueuedMessage.lt_iff_key (first second : QueuedMessage Embed) :
    first < second ↔ first.key < second.key := by
  unfold key
  rw [Prod.Lex.toLex_lt_toLex]
  exact Iff.rfl

theorem QueuedMessage.priority_le_of_key {first second : QueuedMessage Embed}
    (before : first.key ≤ second.key) : first.priority ≤ second.priority := by
  unfold key at before
  rcases Prod.Lex.toLex_le_toLex.mp before with less | ⟨same, -⟩
  · exact less.le
  · exact same.le

theorem QueuedMessage.timestamp_le_of_key {first second : QueuedMessage Embed}
    (before : first.key ≤ second.key) (same : first.priority = second.priority) :
    first.timestamp ≤ second.timestamp := by
  unfold key at before
  rcases Prod.Lex.toLex_le_toLex.mp before with less | ⟨-, earlier⟩
  · exact absurd same less.ne
  · exact earlier

namespace MessageQueue

/-- The messages in the queue, and the one that the drain task has in hand. -/
def pending (messages : MessageQueue Embed) : Multiset (QueuedMessage Embed) :=
  messages.queue.contents + messages.inHand

/-- The message in hand goes before all in the queue. -/
def HoldsFirst (messages : MessageQueue Embed) : Prop :=
  ∀ held ∈ messages.inHand, ∀ other ∈ messages.queue.contents,
    held.priority = other.priority → held.timestamp ≤ other.timestamp

variable (messages : MessageQueue Embed)

/-- The loop takes a message that none in the queue goes before. -/
theorem drain_spec :
    messages.drain.pending = messages.queue.contents ∧
      ∀ held ∈ messages.drain.inHand, ∀ other ∈ messages.drain.queue.contents,
        held.key ≤ other.key := by
  unfold drain
  rcases taken : messages.queue.take? with _ | ⟨message, queue⟩
  · exact ⟨add_zero _, fun _ held => absurd held (Multiset.notMem_zero _)⟩
  · have hand : ({ messages with
        queue := queue
        drainTask :=
          if 0 < messages.backoff then some (.backingOff message) else some (.sending message) } :
          MessageQueue Embed).inHand = {message} := by
      unfold inHand
      by_cases waits : 0 < messages.backoff
      · simp only [waits, if_true]
      · simp only [waits, if_false]
    refine ⟨?_, ?_⟩
    · unfold pending
      rw [hand]
      exact (PriorityQueue.contents_of_take? taken).symm
    · dsimp only
      rw [hand]
      intro held own other waiting
      rw [Multiset.mem_singleton.mp own]
      exact PriorityQueue.le_of_take? QueuedMessage.lt_iff_key taken waiting

theorem pace_spec :
    messages.pace.pending = messages.queue.contents ∧
      ∀ held ∈ messages.pace.inHand, ∀ other ∈ messages.pace.queue.contents,
        held.key ≤ other.key := by
  unfold pace
  split
  · exact ⟨add_zero _, fun _ held => absurd held (Multiset.notMem_zero _)⟩
  · exact messages.drain_spec

theorem pending_resume : messages.resume.pending = messages.pending := by
  rcases messages.resume_cases with ⟨idle, same⟩ | ⟨task, same, hand⟩
  · rw [same, messages.drain_spec.1, pending, idle, add_zero]
  · rw [same, pending, hand]
    rfl

theorem HoldsFirst.of_key {messages : MessageQueue Embed}
    (first : ∀ held ∈ messages.inHand, ∀ other ∈ messages.queue.contents,
      held.key ≤ other.key) : messages.HoldsFirst :=
  fun held own other waiting same =>
    QueuedMessage.timestamp_le_of_key (first held own other waiting) same

theorem HoldsFirst.resume {messages : MessageQueue Embed} (first : messages.HoldsFirst) :
    messages.resume.HoldsFirst := by
  rcases messages.resume_cases with ⟨-, same⟩ | ⟨task, same, hand⟩
  · rw [same]
    exact .of_key messages.drain_spec.2
  · rw [same]
    intro held own
    rw [hand] at own
    exact first held own

/-- Unless it held a message before, the drain task holds one that none in the queue goes
before. -/
theorem resume_spec (idle : messages.inHand = 0) :
    ∀ held ∈ messages.resume.inHand, ∀ other ∈ messages.resume.queue.contents,
      held.key ≤ other.key := by
  rcases messages.resume_cases with ⟨-, same⟩ | ⟨task, same, hand⟩
  · rw [same]
    exact messages.drain_spec.2
  · rw [same, hand, idle]
    exact fun _ held => absurd held (Multiset.notMem_zero _)

/-- After a send, the message is in the queue if it was rate limited. -/
theorem sendFinished_spec (message : QueuedMessage Embed) (outcome : SendOutcome) :
    (messages.sendFinished message outcome).pending =
        messages.queue.contents + (if outcome = .rateLimited then {message} else 0) ∧
      ∀ held ∈ (messages.sendFinished message outcome).inHand,
        ∀ other ∈ (messages.sendFinished message outcome).queue.contents,
          held.key ≤ other.key := by
  cases outcome with
  | success =>
      rw [if_neg nofun, add_zero]
      exact pace_spec { messages with backoff := 0 }
  | rateLimited =>
      rw [if_pos rfl, ← PriorityQueue.contents_put]
      exact pace_spec { messages.enqueue message with
        backoff := min (max (messages.backoff * 2) 1) 60 }
  | failed =>
      rw [if_neg nofun, add_zero]
      exact messages.pace_spec

theorem pending_cancelled_le : messages.cancelled.pending ≤ messages.pending := by
  unfold pending
  rw [messages.inHand_cancelled, add_zero]
  unfold cancelled
  split
  · next message phase =>
      unfold inHand
      rw [phase]
      exact (PriorityQueue.contents_put _ _).le
  · exact Multiset.le_add_right _ _

/-! ## The backoff changes with the end of a send alone -/

@[simp] theorem backoff_drain : messages.drain.backoff = messages.backoff := by
  unfold drain
  split <;> rfl

@[simp] theorem backoff_pace : messages.pace.backoff = messages.backoff := by
  unfold pace
  split
  · rfl
  · exact messages.backoff_drain

@[simp] theorem backoff_resume : messages.resume.backoff = messages.backoff := by
  rcases messages.resume_cases with ⟨-, same⟩ | ⟨task, same, -⟩
  · rw [same, backoff_drain]
  · rw [same]

@[simp] theorem backoff_cancelled : messages.cancelled.backoff = messages.backoff := by
  unfold cancelled
  split <;> rfl

theorem backoff_sendFinished (message : QueuedMessage Embed) (outcome : SendOutcome) :
    (messages.sendFinished message outcome).backoff =
      match outcome with
      | .success => 0
      | .rateLimited => min (max (messages.backoff * 2) 1) 60
      | .failed => messages.backoff := by
  cases outcome <;> exact backoff_pace _

end MessageQueue

/-! ## What is enqueued and what is sent -/

/-- The queue on its event loop, with the messages in the order in which they were put on the
queue and in which they were sent, and the number of rate-limited sends since the last one that
succeeded. -/
structure SendLog (Embed : Type) where
  run : QueueRun Embed
  enqueued : List (QueuedMessage Embed) := []
  sent : List (QueuedMessage Embed) := []
  limited : ℕ := 0

namespace QueueRun

/-- The messages that the event puts on the queue; a message that was rate limited is put back
by the drain loop, and not among them. -/
def puts (run : QueueRun Embed) : QueueEvent Embed → List (QueuedMessage Embed)
  | .enqueue message => [message]
  | .flushRuns => if 0 < run.flushes then run.messages.healthBuffer.values else []
  | .stop => run.messages.healthBuffer.values
  | _ => []

/-- The send that ends with the event, and how. -/
def sendEnds (run : QueueRun Embed) : QueueEvent Embed → Option (QueuedMessage Embed × SendOutcome)
  | .sendFinishes outcome =>
      match run.messages.drainTask with
      | some (.sending message) => if run.cancelling then none else some (message, outcome)
      | _ => none
  | _ => none

/-- A send ends, or nothing happens. -/
theorem sendFinishes_cases (run : QueueRun Embed) (outcome : SendOutcome) :
    (∃ message, run.messages.inHand = {message} ∧
      run.sendEnds (.sendFinishes outcome) = some (message, outcome) ∧
      (run.perform (.sendFinishes outcome)).messages =
        run.messages.sendFinished message outcome) ∨
    (run.sendEnds (.sendFinishes outcome) = none ∧
      run.perform (.sendFinishes outcome) = run) := by
  unfold sendEnds perform MessageQueue.inHand
  dsimp only
  rcases phase : run.messages.drainTask with _ | _ | _ | message | message | _ | _
  case some.sending =>
    by_cases cancelling : run.cancelling = true
    · exact .inr ⟨if_pos cancelling, if_pos cancelling⟩
    · exact .inl ⟨message, rfl, if_neg cancelling,
        congrArg QueueRun.messages (if_neg cancelling)⟩
  all_goals exact .inr ⟨rfl, rfl⟩

/-- The message that the drain loop takes from the queue in the event. -/
def takes (run : QueueRun Embed) (event : QueueEvent Embed) : Multiset (QueuedMessage Embed) :=
  match event with
  | .drainResumes =>
      -- a message that it held before was not taken now
      if run.messages.inHand.card = 0 then (run.perform event).messages.inHand else 0
  | .sendFinishes _ =>
      if (run.sendEnds event).isSome then (run.perform event).messages.inHand else 0
  | _ => 0

end QueueRun

namespace SendLog

def created (maxRate : ℚ) : SendLog Embed where
  run := .created maxRate

def perform (log : SendLog Embed) (event : QueueEvent Embed) : SendLog Embed where
  run := log.run.perform event
  enqueued := log.enqueued ++ log.run.puts event
  sent :=
    match log.run.sendEnds event with
    | some (message, .success) => log.sent ++ [message]
    | _ => log.sent
  limited :=
    match log.run.sendEnds event with
    | some (_, .success) => 0
    | some (_, .rateLimited) => log.limited + 1
    | _ => log.limited

/-- The timestamps increase in the order of enqueueing. -/
def Increasing (log : SendLog Embed) : Prop :=
  log.enqueued.Pairwise fun first second => first.timestamp < second.timestamp

/-- The backoff after as many sends in a row that were rate limited. -/
def backoffAfter (limited : ℕ) : ℚ := if limited = 0 then 0 else min (2 ^ (limited - 1)) 60

/-- The messages of each priority are sent in the order in which they were enqueued, and the
backoff doubles with each rate-limited send since the last success. -/
structure InOrder (log : SendLog Embed) : Prop where
  sends : ∀ priority : ℤ, (log.sent.filter fun message => message.priority = priority).Sublist
    (log.enqueued.filter fun message => message.priority = priority)
  backoff : log.run.messages.backoff = backoffAfter log.limited

/-- A message that is taken has the highest priority of those in the queue. -/
def TakesHighest (log : SendLog Embed) (event : QueueEvent Embed) : Prop :=
  ∀ message ∈ log.run.takes event, ∀ other ∈ (log.run.perform event).messages.queue.contents,
    message.priority ≤ other.priority

/-! ## The order -/

/-- Nothing is pending or sent twice, nothing of a priority is pending that is older than what
was sent of it, and the message in hand is the oldest of its priority. -/
structure Ordered (log : SendLog Embed) : Prop where
  within : log.run.messages.pending + log.sent ≤ (log.enqueued : Multiset (QueuedMessage Embed))
  behind : ∀ message ∈ log.sent, ∀ other ∈ log.run.messages.pending,
    message.priority = other.priority → message.timestamp ≤ other.timestamp
  first : log.run.messages.HoldsFirst
  sends : log.sent.Pairwise fun message later =>
    message.priority = later.priority → message.timestamp ≤ later.timestamp

variable {log next : SendLog Embed}

theorem ordered_created (maxRate : ℚ) : (created maxRate : SendLog Embed).Ordered where
  within := le_rfl
  behind := nofun
  first := fun _ held => absurd held (Multiset.notMem_zero _)
  sends := List.Pairwise.nil

/-- Messages are put on the queue that are younger than all before. -/
theorem Ordered.put (ordered : log.Ordered) (increasing : next.Increasing)
    {new : List (QueuedMessage Embed)} (enqueued : next.enqueued = log.enqueued ++ new)
    (contents : next.run.messages.queue.contents = log.run.messages.queue.contents + new)
    (inHand : next.run.messages.inHand = log.run.messages.inHand) (sent : next.sent = log.sent) :
    next.Ordered := by
  have pending : next.run.messages.pending = log.run.messages.pending + new := by
    unfold MessageQueue.pending
    rw [contents, inHand, add_right_comm]
  have known : ∀ message ∈ log.run.messages.pending + log.sent, message ∈ log.enqueued :=
    fun message member => Multiset.mem_coe.mp (Multiset.mem_of_le ordered.within member)
  unfold Increasing at increasing
  rw [enqueued, List.pairwise_append] at increasing
  have younger : ∀ message ∈ log.run.messages.pending + log.sent, ∀ other ∈ new,
      message.timestamp ≤ other.timestamp :=
    fun message member other fresh => (increasing.2.2 message (known message member) other fresh).le
  constructor
  · rw [pending, enqueued, sent, ← Multiset.coe_add, add_right_comm]
    exact Multiset.add_le_add_right ordered.within
  · rw [sent, pending]
    intro message member other waiting same
    rcases Multiset.mem_add.mp waiting with old | fresh
    · exact ordered.behind message member other old same
    · exact younger message (Multiset.mem_add.mpr (.inr member)) other fresh
  · intro held own other waiting same
    rw [inHand] at own
    rw [contents] at waiting
    rcases Multiset.mem_add.mp waiting with old | fresh
    · exact ordered.first held own other old same
    · exact younger held
        (Multiset.mem_add.mpr (.inl (Multiset.mem_add.mpr (.inr own)))) other fresh
  · rw [sent]
    exact ordered.sends

/-- Nothing is put on the queue, and nothing is sent. -/
theorem Ordered.of_pending_le (ordered : log.Ordered) (enqueued : next.enqueued = log.enqueued)
    (pending : next.run.messages.pending ≤ log.run.messages.pending)
    (first : next.run.messages.HoldsFirst) (sent : next.sent = log.sent) : next.Ordered := by
  constructor
  · rw [enqueued, sent]
    exact (Multiset.add_le_add_right pending).trans ordered.within
  · rw [sent]
    exact fun message member other waiting =>
      ordered.behind message member other (Multiset.mem_of_le pending waiting)
  · exact first
  · rw [sent]
    exact ordered.sends

/-- The message in hand is sent. -/
theorem Ordered.send (ordered : log.Ordered) {message : QueuedMessage Embed}
    (held : log.run.messages.inHand = {message}) (enqueued : next.enqueued = log.enqueued)
    (pending : next.run.messages.pending = log.run.messages.queue.contents)
    (first : next.run.messages.HoldsFirst) (sent : next.sent = log.sent ++ [message]) :
    next.Ordered := by
  have own : message ∈ log.run.messages.inHand := held ▸ Multiset.mem_singleton_self message
  have waits : message ∈ log.run.messages.pending := Multiset.mem_add.mpr (.inr own)
  constructor
  · rw [enqueued, sent, pending, ← Multiset.coe_add, Multiset.coe_singleton]
    have whole := ordered.within
    unfold MessageQueue.pending at whole
    rw [held] at whole
    convert whole using 1
    ac_rfl
  · rw [sent, pending]
    intro earlier member other waiting
    rcases List.mem_append.mp member with before | now
    · exact ordered.behind earlier before other (Multiset.mem_add.mpr (.inl waiting))
    · rw [List.mem_singleton.mp now]
      exact ordered.first message own other waiting
  · exact first
  · rw [sent, List.pairwise_append]
    refine ⟨ordered.sends, List.pairwise_singleton _ _, fun earlier before other now => ?_⟩
    rw [List.mem_singleton.mp now]
    exact ordered.behind earlier before message waits

theorem Ordered.sendFinishes (ordered : log.Ordered) {message : QueuedMessage Embed}
    (held : log.run.messages.inHand = {message}) {outcome : SendOutcome}
    (ends : log.run.sendEnds (.sendFinishes outcome) = some (message, outcome))
    (done : (log.perform (.sendFinishes outcome)).run.messages =
      log.run.messages.sendFinished message outcome) :
    (log.perform (.sendFinishes outcome)).Ordered := by
  obtain ⟨left, least⟩ := log.run.messages.sendFinished_spec message outcome
  rw [← done] at left least
  have enqueued : (log.perform (.sendFinishes outcome)).enqueued = log.enqueued :=
    List.append_nil _
  cases outcome with
  | success =>
      refine ordered.send held enqueued (left.trans ?_) (.of_key least) ?_
      · rw [if_neg nofun, add_zero]
      · unfold perform
        dsimp only
        rw [ends]
  | rateLimited =>
      refine ordered.of_pending_le enqueued (left.trans ?_).le (.of_key least) ?_
      · rw [if_pos rfl, ← held]
        rfl
      · unfold perform
        dsimp only
        rw [ends]
  | failed =>
      refine ordered.of_pending_le enqueued (left.trans_le ?_) (.of_key least) ?_
      · rw [if_neg nofun, add_zero]
        exact Multiset.le_add_right _ _
      · unfold perform
        dsimp only
        rw [ends]

/-- **One event.** -/
theorem Ordered.perform (ordered : log.Ordered) (event : QueueEvent Embed)
    (increasing : (log.perform event).Increasing) : (log.perform event).Ordered := by
  -- nothing is put on the queue or sent, and what is pending stays so
  have quiet (same : (log.run.perform event).messages.pending = log.run.messages.pending)
      (first : (log.run.perform event).messages.HoldsFirst)
      (nothing : log.run.puts event = []) (unsent : log.run.sendEnds event = none) :
      (log.perform event).Ordered := by
    refine ordered.of_pending_le ?_ same.le first ?_
    · exact (congrArg (log.enqueued ++ ·) nothing).trans (List.append_nil _)
    · unfold SendLog.perform
      rw [unsent]
  have unchanged (same : (log.run.perform event).messages = log.run.messages) :
      log.run.puts event = [] → log.run.sendEnds event = none → (log.perform event).Ordered := by
    refine quiet ?_ ?_
    · rw [same]
    · rw [same]
      exact ordered.first
  cases event with
  | enqueue message =>
      exact ordered.put increasing rfl (PriorityQueue.contents_put _ _) rfl rfl
  | enqueueHealth channelId embed time => exact quiet rfl ordered.first rfl rfl
  | timerFires timer =>
      refine unchanged ?_ rfl rfl
      unfold QueueRun.perform
      dsimp only
      split <;> rfl
  | flushRuns =>
      by_cases fired : 0 < log.run.flushes
      · refine ordered.put increasing rfl ?_ ?_ rfl
        · unfold SendLog.perform QueueRun.perform QueueRun.puts
          dsimp only
          rw [if_pos fired, if_pos fired]
          exact PriorityQueue.contents_foldl_put _ _
        · unfold SendLog.perform QueueRun.perform
          dsimp only
          rw [if_pos fired]
          rfl
      · exact unchanged (congrArg QueueRun.messages (if_neg fired)) (if_neg fired) rfl
  | start =>
      by_cases alive : log.run.messages.alive = true
      · exact unchanged (congrArg QueueRun.messages (if_pos alive)) rfl rfl
      · have same : (log.run.perform .start).messages =
            { log.run.messages with drainTask := some .created } :=
          congrArg QueueRun.messages (if_neg alive)
        rw [Bool.not_eq_true] at alive
        refine quiet ?_ ?_ rfl rfl
        · rw [same]
          unfold MessageQueue.pending
          rw [log.run.messages.inHand_of_not_alive alive]
          rfl
        · rw [same]
          exact fun _ held => absurd held (Multiset.notMem_zero _)
  | stop =>
      have same : (log.run.perform .stop).messages = log.run.messages.flushHealth := by
        unfold QueueRun.perform
        dsimp only
        split <;> rfl
      refine ordered.put increasing rfl ?_ ?_ rfl
      · change (log.run.perform .stop).messages.queue.contents = _
        rw [same]
        exact PriorityQueue.contents_foldl_put _ _
      · change (log.run.perform .stop).messages.inHand = _
        rw [same]
        rfl
  | stopReturns => exact quiet rfl ordered.first rfl rfl
  | drainResumes =>
      by_cases waits : log.run.cancelling = true ∨ 0 < log.run.woken
      · exact unchanged (congrArg QueueRun.messages (if_pos waits)) rfl rfl
      · have same : (log.run.perform .drainResumes).messages = log.run.messages.resume :=
          congrArg QueueRun.messages (if_neg waits)
        refine quiet ?_ ?_ rfl rfl
        · rw [same, log.run.messages.pending_resume]
        · rw [same]
          exact ordered.first.resume
  | sendFinishes outcome =>
      rcases log.run.sendFinishes_cases outcome with ⟨message, held, ends, done⟩ | ⟨ends, same⟩
      · exact ordered.sendFinishes held ends done
      · exact unchanged (congrArg QueueRun.messages same) rfl ends
  | cancelDelivered =>
      by_cases cancelling : log.run.cancelling = true
      · have same : (log.run.perform .cancelDelivered).messages = log.run.messages.cancelled :=
          congrArg QueueRun.messages (if_pos cancelling)
        refine ordered.of_pending_le (List.append_nil _) ?_ ?_ rfl
        · change (log.run.perform .cancelDelivered).messages.pending ≤ _
          rw [same]
          exact log.run.messages.pending_cancelled_le
        · change (log.run.perform .cancelDelivered).messages.HoldsFirst
          rw [same]
          intro held own
          rw [log.run.messages.inHand_cancelled] at own
          exact absurd own (Multiset.notMem_zero _)
      · exact unchanged (congrArg QueueRun.messages (if_neg cancelling)) rfl rfl

/-- What was sent of a priority is in the order in which it was enqueued. -/
theorem Ordered.sends_sublist (ordered : log.Ordered) (increasing : log.Increasing)
    (priority : ℤ) :
    (log.sent.filter fun message => message.priority = priority).Sublist
      (log.enqueued.filter fun message => message.priority = priority) := by
  have inj : ∀ message ∈ log.enqueued, ∀ other ∈ log.enqueued,
      message.timestamp = other.timestamp → message = other := by
    have distinct : (log.enqueued.map QueuedMessage.timestamp).Nodup :=
      List.pairwise_map.mpr (increasing.imp ne_of_lt)
    exact List.inj_on_of_nodup_map distinct
  have sub : (log.sent.filter fun message => message.priority = priority).Subperm
      (log.enqueued.filter fun message => message.priority = priority) := by
    have whole : (log.sent : Multiset (QueuedMessage Embed)) ≤ log.enqueued :=
      (Multiset.le_add_left _ _).trans ordered.within
    exact (Multiset.coe_le.mp whole).filter _
  obtain ⟨same, perm, sublist⟩ := sub
  have bySend : (log.sent.filter fun message => message.priority = priority).Pairwise
      fun message later => message.timestamp ≤ later.timestamp := by
    refine (ordered.sends.filter _).imp_of_mem fun {message later} own other earlier => ?_
    have first := of_decide_eq_true (List.mem_filter.mp own).2
    have second := of_decide_eq_true (List.mem_filter.mp other).2
    exact earlier (first.trans second.symm)
  have byPut : same.Pairwise fun message later => message.timestamp ≤ later.timestamp :=
    ((increasing.filter _).sublist sublist).imp le_of_lt
  have known : ∀ message ∈ same, message ∈ log.enqueued := fun message member =>
    List.mem_of_mem_filter (sublist.subset member)
  have equal : same = log.sent.filter fun message => message.priority = priority :=
    perm.eq_of_pairwise (fun message other own sent before after =>
      inj message (known message own) other (known other (perm.mem_iff.mpr sent))
        (le_antisymm before after)) byPut bySend
  rw [← equal]
  exact sublist

/-! ## The backoff -/

theorem backoffAfter_succ (limited : ℕ) :
    backoffAfter (limited + 1) = min (max (backoffAfter limited * 2) 1) 60 := by
  unfold backoffAfter
  rw [if_neg (Nat.succ_ne_zero limited), Nat.add_sub_cancel]
  cases limited with
  | zero => norm_num
  | succ before =>
      rw [if_neg (Nat.succ_ne_zero before), Nat.add_sub_cancel, pow_succ]
      have large : (1 : ℚ) ≤ 2 ^ before := one_le_pow₀ (by norm_num)
      rcases le_total (2 ^ before : ℚ) 60 with below | above
      · rw [min_eq_left below, max_eq_left (by linarith)]
      · rw [min_eq_right above, min_eq_right (by linarith)]
        norm_num

theorem backoff_perform (counted : log.run.messages.backoff = backoffAfter log.limited)
    (event : QueueEvent Embed) :
    (log.perform event).run.messages.backoff = backoffAfter (log.perform event).limited := by
  have quiet (same : (log.run.perform event).messages.backoff = log.run.messages.backoff)
      (unsent : log.run.sendEnds event = none) :
      (log.perform event).run.messages.backoff = backoffAfter (log.perform event).limited := by
    unfold perform
    rw [unsent, same]
    exact counted
  cases event with
  | enqueue | enqueueHealth | stopReturns => exact quiet rfl rfl
  | timerFires | flushRuns | start | stop =>
      refine quiet ?_ rfl
      unfold QueueRun.perform
      dsimp only
      split <;> rfl
  | drainResumes =>
      refine quiet ?_ rfl
      unfold QueueRun.perform
      dsimp only
      split
      · rfl
      · exact log.run.messages.backoff_resume
  | sendFinishes outcome =>
      rcases log.run.sendFinishes_cases outcome with ⟨message, -, ends, done⟩ | ⟨ends, same⟩
      · unfold perform
        dsimp only
        rw [ends, done, log.run.messages.backoff_sendFinished]
        cases outcome with
        | success => rfl
        | rateLimited => rw [counted, ← backoffAfter_succ]
        | failed => exact counted
      · exact quiet (by rw [same]) ends
  | cancelDelivered =>
      refine quiet ?_ rfl
      unfold QueueRun.perform
      dsimp only
      split
      · exact log.run.messages.backoff_cancelled
      · rfl

/-! ## What is taken -/

theorem takesHighest (log : SendLog Embed) (event : QueueEvent Embed) :
    log.TakesHighest event := by
  intro message taken other waiting
  cases event with
  | drainResumes =>
      by_cases idle : log.run.messages.inHand.card = 0
      · have held : message ∈ (log.run.perform .drainResumes).messages.inHand := by
          unfold QueueRun.takes at taken
          rwa [if_pos idle] at taken
        rw [Multiset.card_eq_zero] at idle
        by_cases waits : log.run.cancelling = true ∨ 0 < log.run.woken
        · have same : log.run.perform .drainResumes = log.run := if_pos waits
          rw [same, idle] at held
          exact absurd held (Multiset.notMem_zero _)
        · have same : (log.run.perform .drainResumes).messages = log.run.messages.resume :=
            congrArg QueueRun.messages (if_neg waits)
          rw [same] at held waiting
          exact QueuedMessage.priority_le_of_key
            (log.run.messages.resume_spec idle message held other waiting)
      · unfold QueueRun.takes at taken
        rw [if_neg idle] at taken
        exact absurd taken (Multiset.notMem_zero _)
  | sendFinishes outcome =>
      unfold QueueRun.takes at taken
      rcases log.run.sendFinishes_cases outcome with ⟨held, -, ends, done⟩ | ⟨ends, -⟩
      · rw [ends] at taken
        change message ∈ (log.run.perform _).messages.inHand at taken
        change other ∈ (log.run.perform _).messages.queue.contents at waiting
        rw [done] at taken waiting
        exact QueuedMessage.priority_le_of_key
          ((log.run.messages.sendFinished_spec held outcome).2 message taken other waiting)
      · rw [ends] at taken
        exact absurd taken (Multiset.notMem_zero _)
  | enqueue | enqueueHealth | timerFires | flushRuns | start | stop | stopReturns
  | cancelDelivered => exact absurd taken (Multiset.notMem_zero _)

/-! ## Runs -/

theorem Increasing.of_perform {event : QueueEvent Embed}
    (increasing : (log.perform event).Increasing) : log.Increasing :=
  (List.pairwise_append.mp increasing).1

/-- **The order of messages.** In a run in which the timestamps increase in the order of
enqueueing, the messages of each priority are sent in that order, whatever is rate limited, the
backoff doubles up to a minute with each send in a row that was rate limited, and each message
that is taken has the highest priority of those waiting. -/
theorem sends_in_order (maxRate : ℚ) (events : List (QueueEvent Embed))
    (increasing : (events.foldl perform (created maxRate)).Increasing) :
    Throughout perform InOrder (created maxRate) events ∧
      EachMeets perform TakesHighest (created maxRate) events := by
  have growing : Throughout perform Increasing (created maxRate) events :=
    .of_last (fun _ _ => .of_perform) increasing
  have kept : Throughout perform (fun log : SendLog Embed =>
      log.run.messages.backoff = backoffAfter log.limited ∧ (log.Increasing → log.Ordered))
      (created maxRate) events := by
    refine .of_preserved ?_ ⟨rfl, fun _ => ordered_created maxRate⟩ events
    rintro log event ⟨counted, ordered⟩
    exact ⟨backoff_perform counted event, fun next => (ordered next.of_perform).perform event next⟩
  refine ⟨.mp (kept.mono ?_) growing, .of_forall takesHighest _ events⟩
  rintro log ⟨counted, ordered⟩ increasing
  exact ⟨(ordered increasing).sends_sublist increasing, counted⟩

private def newer (timestamp : ℚ) : QueuedMessage Unit where
  priority := MessagePriority.status.value
  timestamp := timestamp

private def retried : List (QueueEvent Unit) :=
  [.enqueue (newer 1), .start, .drainResumes, .enqueue (newer 2), .sendFinishes .rateLimited,
    .drainResumes, .drainResumes, .sendFinishes .success, .drainResumes, .sendFinishes .success]

theorem retried_sends_in_order :
    (retried.foldl perform (created 5)).Increasing ∧
      Throughout perform InOrder (created 5) retried ∧
      EachMeets perform TakesHighest (created 5) retried := by
  have increasing : (retried.foldl perform (created 5)).Increasing := by
    change List.Pairwise _ [newer 1, newer 2]
    decide +kernel
  exact ⟨increasing, sends_in_order 5 retried increasing⟩

end SendLog

end Vcompany.Resilience
