import Vcompany.Foundation.CriticalSection
import Vcompany.Foundation.Sequence
import Vcompany.Shared.MemoryStore

/-! # The milestone backlog

`BacklogQueue` keeps an ordered list of items and writes it to the store after each
change. Every operation runs under the queue's lock and waits for the store, and
`claim_next` also for the mutation callback, while it holds the lock. The items are
objects, changed where they are in the list.
-/

namespace Vcompany.Autonomy

open Foundation Shared

inductive BacklogItemStatus where
  | pending
  | assigned
  | inProgress
  | completed
  | cancelled
  deriving DecidableEq, Repr

structure BacklogItem where
  itemId : Text
  title : Text
  description : Text := []
  priority : ℤ := 0
  status : BacklogItemStatus := .pending
  assignedTo : Option Text := none
  createdAt : Text
  deriving DecidableEq

namespace BacklogItem

def hasId (itemId : Text) (item : BacklogItem) : Bool := item.itemId = itemId

def isPending (item : BacklogItem) : Bool := item.status = .pending

def cancelled (item : BacklogItem) : BacklogItem := { item with status := .cancelled }

def completed (item : BacklogItem) : BacklogItem := { item with status := .completed }

/-- The item, back in the queue for any agent. -/
def requeued (item : BacklogItem) : BacklogItem :=
  { item with status := .pending, assignedTo := none }

/-- The item, claimed by the agent. -/
def claimed (agentId : Text) (item : BacklogItem) : BacklogItem :=
  { item with status := .assigned, assignedTo := some agentId }

theorem hasId_iff {itemId : Text} {item : BacklogItem} :
    item.hasId itemId = true ↔ item.itemId = itemId := decide_eq_true_iff

@[simp] theorem cancelled_itemId (item : BacklogItem) : item.cancelled.itemId = item.itemId := rfl

@[simp] theorem completed_itemId (item : BacklogItem) : item.completed.itemId = item.itemId := rfl

@[simp] theorem requeued_itemId (item : BacklogItem) : item.requeued.itemId = item.itemId := rfl

@[simp] theorem claimed_itemId (agentId : Text) (item : BacklogItem) :
    (item.claimed agentId).itemId = item.itemId := rfl

end BacklogItem

def sampleItem : BacklogItem where
  itemId := "4f2a91c0"
  title := "Build auth"
  createdAt := "2026-01-01T00:00:00+00:00"

/-- `BACKLOG_KEY`. -/
def backlogKey : Text := "backlog"

/-- A value of the PM's store: the backlog, or the item of an assignment. -/
inductive Stored where
  | backlog (items : List BacklogItem)
  | assignment (item : BacklogItem)
  deriving DecidableEq

structure BacklogQueue where
  items : List BacklogItem
  memory : MemoryStore Stored

/-- A new queue over a new store. -/
def BacklogQueue.init : BacklogQueue where
  items := []
  memory _ := none

/-- An operation returns `None` or an item, or raises. -/
abbrev Reply := Except PyExc (Option BacklogItem)

abbrev QueueSection := CriticalSection BacklogQueue Reply

/-- The body of `async with self._lock`. -/
def locked (body : BacklogQueue → BacklogQueue × QueueSection) : QueueSection :=
  .await (fun queue => (body queue).1) fun queue => (body queue).2

/-- `_persist`, of the items that it serializes before it waits. -/
def persist (write : StoreWrite) (items : List BacklogItem) (rest : QueueSection) : QueueSection :=
  .await
    (fun queue =>
      match write with
      | .executeRaises _ => queue
      | _ => { queue with memory := queue.memory.set backlogKey (.backlog items) })
    fun _ =>
      match write with
      | .executeRaises raised => .leave (.error raised)
      | .commitRaises raised => .await id fun _ => .leave (.error raised)
      | .succeeds => .await id fun _ => rest

/-- `_notify`, while the lock is held. -/
def notify (rest : QueueSection) : QueueSection := .await id fun _ => rest

/-- The queue with the items, which it is about to persist. -/
def saving (write : StoreWrite) (queue : BacklogQueue) (items : List BacklogItem)
    (rest : QueueSection) : BacklogQueue × QueueSection :=
  ({ queue with items }, persist write items rest)

/-! ## The operations -/

/-- `append`. -/
def append (write : StoreWrite) (item : BacklogItem) : QueueSection :=
  locked fun queue => saving write queue (queue.items ++ [item]) (.leave (.ok none))

/-- `insert_urgent`. -/
def insertUrgent (write : StoreWrite) (item : BacklogItem) : QueueSection :=
  locked fun queue => saving write queue (insertAt 0 item queue.items) (.leave (.ok none))

/-- `_find_index`. -/
def findIndex (items : List BacklogItem) (itemId : Text) : Except PyExc ℕ :=
  match items.findIdx? (BacklogItem.hasId itemId) with
  | some index => .ok index
  | none => .error .valueError

/-- `insert_after`. -/
def insertAfter (write : StoreWrite) (afterId : Text) (item : BacklogItem) : QueueSection :=
  locked fun queue =>
    match findIndex queue.items afterId with
    | .error raised => (queue, .leave (.error raised))
    | .ok index =>
        saving write queue (insertAt (index + 1) item queue.items) (.leave (.ok none))

/-- `reorder`. -/
def reorder (write : StoreWrite) (itemId : Text) (newPosition : ℤ) : QueueSection :=
  locked fun queue =>
    match findIndex queue.items itemId with
    | .error raised => (queue, .leave (.error raised))
    | .ok index =>
        match queue.items[index]? with
        | none => (queue, .leave (.error .indexError))
        | some item =>
            let others := queue.items.eraseIdx index
            let position := min newPosition others.length
            saving write queue (insertAt position item others) (.leave (.ok none))

/-- `_find_item`, and a change of the item. -/
def changeItem (write : StoreWrite) (itemId : Text) (change : BacklogItem → BacklogItem) :
    QueueSection :=
  locked fun queue =>
    match changeFirst (BacklogItem.hasId itemId) change queue.items with
    | none => (queue, .leave (.error .valueError))
    | some (_, items) => saving write queue items (.leave (.ok none))

/-- `cancel`. -/
def cancel (write : StoreWrite) (itemId : Text) : QueueSection :=
  changeItem write itemId BacklogItem.cancelled

/-- `mark_completed`. -/
def markCompleted (write : StoreWrite) (itemId : Text) : QueueSection :=
  changeItem write itemId BacklogItem.completed

/-- `mark_pending`. -/
def markPending (write : StoreWrite) (itemId : Text) : QueueSection :=
  changeItem write itemId BacklogItem.requeued

/-- `claim_next`. -/
def claimNext (write : StoreWrite) (agentId : Text) : QueueSection :=
  locked fun queue =>
    match changeFirst BacklogItem.isPending (BacklogItem.claimed agentId) queue.items with
    | none => (queue, .leave (.ok none))
    | some (item, items) => saving write queue items (notify (.leave (.ok (some item))))

/-- A call on the queue. -/
inductive QueueCall where
  | append (item : BacklogItem)
  | insertUrgent (item : BacklogItem)
  | insertAfter (afterId : Text) (item : BacklogItem)
  | reorder (itemId : Text) (newPosition : ℤ)
  | cancel (itemId : Text)
  | claimNext (agentId : Text)
  | markCompleted (itemId : Text)
  | markPending (itemId : Text)
  deriving DecidableEq

/-- The critical section of a call. -/
def QueueCall.program (write : StoreWrite) : QueueCall → QueueSection
  | append item => Autonomy.append write item
  | insertUrgent item => Autonomy.insertUrgent write item
  | insertAfter afterId item => Autonomy.insertAfter write afterId item
  | reorder itemId newPosition => Autonomy.reorder write itemId newPosition
  | cancel itemId => Autonomy.cancel write itemId
  | claimNext agentId => Autonomy.claimNext write agentId
  | markCompleted itemId => Autonomy.markCompleted write itemId
  | markPending itemId => Autonomy.markPending write itemId

/-! ## Sections that are run to their end -/

/-- The queue once the items are in the store. -/
def BacklogQueue.saved (queue : BacklogQueue) (items : List BacklogItem) : BacklogQueue where
  items := items
  memory := queue.memory.set backlogKey (.backlog items)

@[simp] theorem BacklogQueue.saved_items (queue : BacklogQueue) (items : List BacklogItem) :
    (queue.saved items).items = items := rfl

@[simp] theorem BacklogQueue.saved_memory (queue : BacklogQueue) (items : List BacklogItem) :
    (queue.saved items).memory = queue.memory.set backlogKey (.backlog items) := rfl

variable {queue : BacklogQueue}

theorem locked_finish (body : BacklogQueue → BacklogQueue × QueueSection)
    (queue : BacklogQueue) :
    (locked body).finish queue = (body queue).2.finish (body queue).1 := rfl

theorem append_finish (queue : BacklogQueue) (item : BacklogItem) :
    (append .succeeds item).finish queue = (queue.saved (queue.items ++ [item]), .ok none) := rfl

theorem insertAfter_finish (queue : BacklogQueue) (afterId : Text) (item : BacklogItem) :
    (insertAfter .succeeds afterId item).finish queue =
      match findIndex queue.items afterId with
      | .error raised => (queue, .error raised)
      | .ok index => (queue.saved (insertAt (index + 1) item queue.items), .ok none) := by
  unfold insertAfter
  rw [locked_finish]
  cases findIndex queue.items afterId <;> rfl

theorem reorder_finish (queue : BacklogQueue) (itemId : Text) (newPosition : ℤ) :
    (reorder .succeeds itemId newPosition).finish queue =
      match findIndex queue.items itemId with
      | .error raised => (queue, .error raised)
      | .ok index =>
          match queue.items[index]? with
          | none => (queue, .error .indexError)
          | some item =>
              (queue.saved (insertAt (min newPosition (queue.items.eraseIdx index).length) item
                (queue.items.eraseIdx index)), .ok none) := by
  unfold reorder
  rw [locked_finish]
  rcases findIndex queue.items itemId with raised | index
  · rfl
  · cases found : queue.items[index]? <;> simp only [found] <;> rfl

/-- What a change of an item does. -/
theorem changeItem_finish (queue : BacklogQueue) (itemId : Text)
    (change : BacklogItem → BacklogItem) :
    (changeItem .succeeds itemId change).finish queue =
      match changeFirst (BacklogItem.hasId itemId) change queue.items with
      | none => (queue, .error .valueError)
      | some (_, items) => (queue.saved items, .ok none) := by
  unfold changeItem
  rw [locked_finish]
  cases changeFirst (BacklogItem.hasId itemId) change queue.items <;> rfl

theorem claimNext_finish (queue : BacklogQueue) (agentId : Text) :
    (claimNext .succeeds agentId).finish queue =
      match changeFirst BacklogItem.isPending (BacklogItem.claimed agentId) queue.items with
      | none => (queue, .ok none)
      | some (item, items) => (queue.saved items, .ok (some item)) := by
  unfold claimNext
  rw [locked_finish]
  cases changeFirst BacklogItem.isPending (BacklogItem.claimed agentId) queue.items <;> rfl

end Vcompany.Autonomy
