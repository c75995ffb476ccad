import Vcompany.Autonomy.Backlog

/-! # Concurrent calls on the backlog

Any number of calls on one `BacklogQueue`, interleaved at their awaits, with a store
whose writes succeed. What a call does after it has released the lock, its
notification, does not touch the queue.

`backlog_claims` shows that an item is claimed once between two re-queues, that
`claim_next` returns the first PENDING item of the queue that it finds, and that the
queue holds the items that were inserted.
-/

namespace Vcompany.Autonomy

open Foundation Shared

/-- A queue, with the calls on it. -/
abbrev LockedBacklog := LockedObject QueueCall BacklogQueue Reply

/-- A call in its critical section. -/
abbrev QueueVisit := Visit QueueCall BacklogQueue

abbrev LockedBacklog.Step : LockedBacklog → LockEvent QueueCall → LockedBacklog → Prop :=
  LockedObject.Step (QueueCall.program .succeeds)

/-- What a visit returns or raises. -/
abbrev QueueVisit.reply (visit : QueueVisit) : Reply :=
  visit.outcome (QueueCall.program .succeeds)

/-- The item that a call is to insert. -/
def QueueCall.newItem : QueueCall → Option BacklogItem
  | append item => some item
  | insertUrgent item => some item
  | insertAfter _ item => some item
  | _ => none

/-- The id of the item that a visit inserts; one that raises inserts nothing. -/
def QueueVisit.inserted (visit : QueueVisit) : List Text :=
  match visit.request.newItem, visit.reply with
  | some item, .ok _ => [item.itemId]
  | _, _ => []

/-- The ids of the items inserted so far. -/
def LockedBacklog.inserted (backlog : LockedBacklog) : List Text :=
  backlog.visits.flatMap QueueVisit.inserted

/-- The visit claims the item. -/
def QueueVisit.Claims (visit : QueueVisit) (itemId : Text) : Prop :=
  ∃ agentId item, visit.request = .claimNext agentId ∧ visit.reply = .ok (some item) ∧
    item.itemId = itemId

/-- Between two claims of an item it is re-queued. -/
def ClaimsExclusive (visits : List QueueVisit) : Prop :=
  ∀ early first between second late itemId,
    visits = early ++ first :: (between ++ second :: late) →
      first.Claims itemId → second.Claims itemId →
        ∃ requeue ∈ between, requeue.request = .markPending itemId

/-! ## One call after the other -/

abbrev QueueVisit.Atomic : BacklogQueue → QueueVisit → BacklogQueue → Prop :=
  Foundation.Atomic (QueueCall.program .succeeds)

variable {queue next : BacklogQueue} {visit : QueueVisit} {itemId : Text}

/-- What an insertion at a position found in the queue does. -/
private theorem insertAfter_cases (queue : BacklogQueue) (afterId : Text) (item : BacklogItem) :
    (∃ raised, (insertAfter .succeeds afterId item).finish queue = (queue, .error raised)) ∨
      ∃ items, items.Perm (item :: queue.items) ∧
        (insertAfter .succeeds afterId item).finish queue = (queue.saved items, .ok none) := by
  rw [insertAfter_finish]
  rcases findIndex queue.items afterId with raised | index
  · exact .inl ⟨raised, rfl⟩
  · exact .inr ⟨_, insertAt_perm _ item queue.items, rfl⟩

private theorem reorder_perm (queue : BacklogQueue) (itemId : Text) (newPosition : ℤ) :
    ((reorder .succeeds itemId newPosition).finish queue).1.items.Perm queue.items := by
  rw [reorder_finish]
  rcases findIndex queue.items itemId with raised | index
  · exact .refl _
  · dsimp only
    rcases found : queue.items[index]? with _ | item
    · exact .refl _
    · obtain ⟨bound, rfl⟩ := List.getElem?_eq_some_iff.mp found
      exact (insertAt_perm _ _ _).trans (List.getElem_cons_eraseIdx_perm bound)

/-- What the change of an item does to the items. -/
private theorem changeItem_cases (queue : BacklogQueue) (itemId : Text)
    (change : BacklogItem → BacklogItem) :
    ((changeItem .succeeds itemId change).finish queue).1.items = queue.items ∨
      ∃ before old after, old.itemId = itemId ∧ queue.items = before ++ old :: after ∧
        ((changeItem .succeeds itemId change).finish queue).1.items =
          before ++ change old :: after := by
  rw [changeItem_finish]
  rcases found : changeFirst (BacklogItem.hasId itemId) change queue.items with _ | ⟨item, items⟩
  · exact .inl rfl
  · obtain ⟨before, old, after, split, _, own, _, rfl⟩ := changeFirst_eq_some_iff.mp found
    exact .inr ⟨before, old, after, of_decide_eq_true own, split, rfl⟩

/-- What a call does to the items: it inserts one, puts them in another order or leaves
them alone, or changes one, which is PENDING then only if it was re-queued. -/
theorem atomic_cases (atomic : visit.Atomic queue next) :
    (∃ item, next.items.Perm (item :: queue.items) ∧ visit.inserted = [item.itemId]) ∨
    (next.items.Perm queue.items ∧ visit.inserted = []) ∨
    ∃ before old new after, queue.items = before ++ old :: after ∧
      next.items = before ++ new :: after ∧ new.itemId = old.itemId ∧ visit.inserted = [] ∧
      (new.isPending = true → visit.request = .markPending old.itemId) := by
  obtain ⟨request, found⟩ := visit
  obtain ⟨rfl, rfl⟩ := atomic
  dsimp only
  cases request with
  | append item => exact .inl ⟨item, List.perm_append_singleton item found.items, rfl⟩
  | insertUrgent item => exact .inl ⟨item, insertAt_perm 0 item found.items, rfl⟩
  | insertAfter afterId item =>
      unfold QueueVisit.inserted QueueVisit.reply Visit.outcome
      dsimp only [QueueCall.program]
      rcases insertAfter_cases found afterId item with ⟨raised, done⟩ | ⟨items, perm, done⟩
      · rw [done]
        exact .inr (.inl ⟨.refl _, rfl⟩)
      · rw [done]
        exact .inl ⟨item, perm, rfl⟩
  | reorder itemId newPosition => exact .inr (.inl ⟨reorder_perm found itemId newPosition, rfl⟩)
  | cancel itemId =>
      rcases changeItem_cases found itemId BacklogItem.cancelled with
        same | ⟨before, old, after, _, split, changed⟩
      · exact .inr (.inl ⟨.of_eq same, rfl⟩)
      · exact .inr (.inr ⟨before, old, old.cancelled, after, split, changed, rfl, rfl, nofun⟩)
  | claimNext agentId =>
      dsimp only [QueueCall.program]
      rw [claimNext_finish]
      rcases claim : changeFirst BacklogItem.isPending (BacklogItem.claimed agentId) found.items
        with _ | ⟨item, items⟩
      · exact .inr (.inl ⟨.refl _, rfl⟩)
      · obtain ⟨before, old, after, split, _, _, _, changed⟩ := changeFirst_eq_some_iff.mp claim
        exact .inr (.inr ⟨before, old, old.claimed agentId, after, split, changed, rfl, rfl, nofun⟩)
  | markCompleted itemId =>
      rcases changeItem_cases found itemId BacklogItem.completed with
        same | ⟨before, old, after, _, split, changed⟩
      · exact .inr (.inl ⟨.of_eq same, rfl⟩)
      · exact .inr (.inr ⟨before, old, old.completed, after, split, changed, rfl, rfl, nofun⟩)
  | markPending itemId =>
      rcases changeItem_cases found itemId BacklogItem.requeued with
        same | ⟨before, old, after, rfl, split, changed⟩
      · exact .inr (.inl ⟨.of_eq same, rfl⟩)
      · exact .inr (.inr ⟨before, old, old.requeued, after, split, changed, rfl, rfl, fun _ => rfl⟩)

def BacklogQueue.ids (queue : BacklogQueue) : List Text := queue.items.map BacklogItem.itemId

theorem atomic_ids (atomic : visit.Atomic queue next) :
    next.ids.Perm (queue.ids ++ visit.inserted) := by
  unfold BacklogQueue.ids
  rcases atomic_cases atomic with ⟨item, perm, inserted⟩ | ⟨perm, inserted⟩ |
    ⟨before, old, new, after, split, changed, same, inserted, _⟩
  · rw [inserted]
    exact (perm.map _).trans (List.perm_append_singleton item.itemId _).symm
  · rw [inserted, List.append_nil]
    exact perm.map _
  · rw [inserted, List.append_nil, split, changed]
    exact .of_eq (by simp [same])

/-- The queue holds what it held and what was inserted. -/
theorem run_ids {visits : List QueueVisit} (run : Run QueueVisit.Atomic queue visits next) :
    next.ids.Perm (queue.ids ++ visits.flatMap QueueVisit.inserted) := by
  induction run with
  | nil queue => simp
  | cons atomic _ ih =>
      rw [List.flatMap_cons, ← List.append_assoc]
      exact ih.trans ((atomic_ids atomic).append_right _)

theorem run_nodup {visits : List QueueVisit} (run : Run QueueVisit.Atomic queue visits next)
    (distinct : next.ids.Nodup) : queue.ids.Nodup :=
  ((run_ids run).nodup_iff.mp distinct).of_append_left

/-! ## Exclusive claims -/

/-- The item is in the queue and not PENDING. -/
structure Taken (queue : BacklogQueue) (itemId : Text) : Prop where
  present : itemId ∈ queue.ids
  notPending : ∀ item ∈ queue.items, item.itemId = itemId → item.isPending = false

/-- Only a re-queue makes a taken item PENDING. -/
theorem atomic_taken (atomic : visit.Atomic queue next) (distinct : next.ids.Nodup)
    (taken : Taken queue itemId) (kept : visit.request ≠ .markPending itemId) :
    Taken next itemId := by
  obtain ⟨present, notPending⟩ := taken
  have present' : itemId ∈ next.ids :=
    (atomic_ids atomic).mem_iff.mpr (List.mem_append_left _ present)
  refine ⟨present', fun item member same => ?_⟩
  rcases atomic_cases atomic with ⟨added, perm, _⟩ | ⟨perm, _⟩ |
    ⟨before, old, new, after, split, changed, sameId, _, requeued⟩
  · rcases List.mem_cons.mp (perm.mem_iff.mp member) with rfl | member
    · have apart := ((perm.map BacklogItem.itemId).nodup_iff.mp distinct)
      exact absurd (same ▸ present) (List.nodup_cons.mp apart).1
    · exact notPending item member same
  · exact notPending item (perm.mem_iff.mp member) same
  · rw [changed, List.mem_append, List.mem_cons] at member
    rcases member with earlier | rfl | later
    · exact notPending item (split ▸ List.mem_append_left _ earlier) same
    · by_contra pending
      rw [← same, sameId] at kept
      exact kept (requeued (Bool.not_eq_false _ ▸ pending))
    · exact notPending item
        (split ▸ List.mem_append_right _ (List.mem_cons_of_mem _ later)) same

theorem run_taken {visits : List QueueVisit} (run : Run QueueVisit.Atomic queue visits next)
    (distinct : next.ids.Nodup) (taken : Taken queue itemId)
    (kept : ∀ visit ∈ visits, visit.request ≠ .markPending itemId) : Taken next itemId := by
  induction run with
  | nil queue => exact taken
  | cons atomic later ih =>
      refine ih distinct ?_ fun visit member => kept visit (List.mem_cons_of_mem _ member)
      exact atomic_taken atomic (run_nodup later distinct) taken (kept _ List.mem_cons_self)

/-- A claim takes an item that was PENDING. -/
theorem claims_cases (atomic : visit.Atomic queue next) (claims : visit.Claims itemId) :
    ∃ before old new after, queue.items = before ++ old :: after ∧
      next.items = before ++ new :: after ∧ old.itemId = itemId ∧ old.isPending = true ∧
      new.itemId = itemId ∧ new.isPending = false := by
  obtain ⟨request, found⟩ := visit
  obtain ⟨rfl, rfl⟩ := atomic
  obtain ⟨agentId, item, rfl, reply, rfl⟩ := claims
  dsimp only [QueueCall.program]
  unfold QueueVisit.reply Visit.outcome at reply
  dsimp only [QueueCall.program] at reply
  rw [claimNext_finish] at reply ⊢
  rcases claim : changeFirst BacklogItem.isPending (BacklogItem.claimed agentId) found.items
    with _ | ⟨claimed, items⟩
  · rw [claim] at reply
    cases reply
  · rw [claim] at reply
    obtain ⟨before, old, after, split, _, pending, rfl, rfl⟩ := changeFirst_eq_some_iff.mp claim
    cases reply
    exact ⟨before, old, _, after, split, rfl, rfl, pending, rfl, rfl⟩

theorem taken_of_claims (atomic : visit.Atomic queue next) (distinct : next.ids.Nodup)
    (claims : visit.Claims itemId) : Taken next itemId := by
  obtain ⟨before, old, new, after, _, changed, _, _, same, notPending⟩ :=
    claims_cases atomic claims
  have member : new ∈ next.items := by simp [changed]
  refine ⟨List.mem_map.mpr ⟨new, member, same⟩, fun item found own => ?_⟩
  rw [List.inj_on_of_nodup_map distinct found member (own.trans same.symm)]
  exact notPending

theorem not_taken_of_claims (atomic : visit.Atomic queue next) (claims : visit.Claims itemId) :
    ¬ Taken queue itemId := by
  obtain ⟨before, old, new, after, split, _, same, pending, _⟩ := claims_cases atomic claims
  intro taken
  have notPending := taken.notPending old (by simp [split]) same
  rw [pending] at notPending
  cases notPending

theorem claimsExclusive_of_run {visits : List QueueVisit}
    (run : Run QueueVisit.Atomic queue visits next) (distinct : next.ids.Nodup) :
    ClaimsExclusive visits := by
  rintro early first between second late itemId rfl claims again
  by_contra none
  obtain ⟨_, _, later⟩ := run.split
  cases later with
  | cons claimed later =>
      obtain ⟨middle, untouched, later⟩ := later.split
      cases later with
      | cons reclaimed later =>
          have distinctMiddle := run_nodup (.cons reclaimed later) distinct
          have taken := taken_of_claims claimed (run_nodup untouched distinctMiddle) claims
          have kept : ∀ visit ∈ between, visit.request ≠ .markPending itemId :=
            fun visit member requeued => none ⟨visit, member, requeued⟩
          exact not_taken_of_claims reclaimed again
            (run_taken untouched distinctMiddle taken kept)

/-! ## Interleaved calls -/

variable {backlog : LockedBacklog} {events : List (LockEvent QueueCall)}

/-- After its first turn a call only writes to the store. -/
theorem firstTurn_keeps (call : QueueCall) (queue : BacklogQueue) :
    ((call.program .succeeds).turn queue).2.Keeps BacklogQueue.items := by
  have persisted : ∀ items reply,
      (persist .succeeds items (.leave reply)).Keeps BacklogQueue.items :=
    fun items reply queue => ⟨rfl, fun _ => ⟨rfl, trivial⟩⟩
  have changed : ∀ itemId change,
      ((changeItem .succeeds itemId change).turn queue).2.Keeps BacklogQueue.items := by
    intro itemId change
    unfold changeItem locked CriticalSection.turn
    dsimp only
    split
    · trivial
    · exact persisted _ _
  cases call with
  | append item => exact persisted _ _
  | insertUrgent item => exact persisted _ _
  | insertAfter afterId item =>
      unfold QueueCall.program insertAfter locked CriticalSection.turn
      dsimp only
      split
      · trivial
      · exact persisted _ _
  | reorder itemId newPosition =>
      unfold QueueCall.program reorder locked CriticalSection.turn
      dsimp only
      split
      · trivial
      · split
        · trivial
        · exact persisted _ _
  | cancel itemId => exact changed itemId BacklogItem.cancelled
  | claimNext agentId =>
      unfold QueueCall.program claimNext locked CriticalSection.turn
      dsimp only
      split
      · trivial
      · exact fun queue => ⟨rfl, fun _ => ⟨rfl, fun _ => ⟨rfl, trivial⟩⟩⟩
  | markCompleted itemId => exact changed itemId BacklogItem.completed
  | markPending itemId => exact changed itemId BacklogItem.requeued

/-- `claim_next` returns the first PENDING item that it finds. -/
theorem claimNext_reply (agentId : Text) (queue : BacklogQueue) :
    ((claimNext .succeeds agentId).finish queue).2 =
      .ok ((queue.items.find? BacklogItem.isPending).map (BacklogItem.claimed agentId)) := by
  rw [claimNext_finish, ← changeFirst_find?]
  cases changeFirst BacklogItem.isPending (BacklogItem.claimed agentId) queue.items <;> rfl

/-- **Claims on the backlog.** However the calls interleave, an item is claimed once
between two re-queues, each call returns what its critical section does, a claim the
first PENDING item of the queue that it finds and `None` where there is none, and the
queue holds the items inserted so far. -/
theorem backlog_claims
    (run : Run LockedBacklog.Step (LockedObject.init BacklogQueue.init) events backlog)
    (distinct : backlog.inserted.Nodup) :
    ClaimsExclusive backlog.visits ∧
      (∀ (visit : QueueVisit) reply, (visit, reply) ∈ backlog.left → reply = visit.reply) ∧
      (∀ visit : QueueVisit, visit ∈ backlog.visits →
        ∀ agentId, visit.request = .claimNext agentId →
          visit.reply = .ok ((visit.found.items.find? BacklogItem.isPending).map
            (BacklogItem.claimed agentId))) ∧
      backlog.shared.ids.Perm backlog.inserted := by
  have serial := LockedObject.serial_run run
  have holds : backlog.settled.ids.Perm backlog.inserted := run_ids serial.history
  have same : backlog.settled.items = backlog.shared.items :=
    LockedObject.kept_run firstTurn_keeps run
  refine ⟨claimsExclusive_of_run serial.history (holds.nodup_iff.mpr distinct), serial.returned,
    ?_, ?_⟩
  · rintro visit _ agentId claim
    unfold QueueVisit.reply Visit.outcome
    rw [claim]
    exact claimNext_reply agentId visit.found
  · rw [BacklogQueue.ids, ← same]
    exact holds

/-- Two agents claim while an item is appended. -/
def sampleEvents : List (LockEvent QueueCall) :=
  [.call (.append sampleItem), .enter 0, .call (.claimNext "alpha"), .resume,
    .call (.claimNext "beta"), .resume, .enter 1, .resume, .resume, .resume, .enter 0]

/-- The backlog after the events that can happen. -/
def LockedBacklog.afterAll (events : List (LockEvent QueueCall)) : LockedBacklog :=
  events.foldl
    (fun backlog event =>
      (LockedObject.next (QueueCall.program .succeeds) backlog event).getD backlog)
    (LockedObject.init BacklogQueue.init)

/-- One of the two agents claims the item, the other finds nothing. -/
theorem sampleEvents_claimed_once :
    ClaimsExclusive (LockedBacklog.afterAll sampleEvents).visits ∧
      (LockedBacklog.afterAll sampleEvents).shared.ids.Perm
        (LockedBacklog.afterAll sampleEvents).inserted ∧
      (LockedBacklog.afterAll sampleEvents).left.map Prod.snd =
        [.ok none, .ok (some (sampleItem.claimed "beta")), .ok none] := by
  have run : Run LockedBacklog.Step (LockedObject.init BacklogQueue.init) sampleEvents
      (LockedBacklog.afterAll sampleEvents) :=
    .cons rfl (.cons rfl (.cons rfl (.cons rfl (.cons rfl (.cons rfl (.cons rfl (.cons rfl
      (.cons rfl (.cons rfl (.cons rfl (.nil _)))))))))))
  obtain ⟨exclusive, _, _, holds⟩ := backlog_claims run (by decide)
  exact ⟨exclusive, holds, rfl⟩

end Vcompany.Autonomy
