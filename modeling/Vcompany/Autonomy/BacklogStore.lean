import Vcompany.Autonomy.Backlog
import Mathlib.Data.Rat.Lemmas

/-! # The backlog in memory and in the store

An item is stored as the JSON object of its fields and is read back by the model's
validation (`modelValidate_modelDump`). Every operation changes the items first and writes
them to the store afterwards, and a write may raise.

`synced_iff_orderly` shows after which sequences of operations a queue that is loaded from
the store has the items of the live queue: no operation may change the items while its
write raises before the store has them.
-/

namespace Vcompany.Autonomy

open Foundation Shared

/-! ## The stored form of an item -/

namespace BacklogItemStatus

/-- The value of the enumeration's member. -/
def value : BacklogItemStatus → Text
  | pending => "pending"
  | assigned => "assigned"
  | inProgress => "in_progress"
  | completed => "completed"
  | cancelled => "cancelled"

/-- `BacklogItemStatus(text)`. -/
def ofValue (text : Text) : Except PyExc BacklogItemStatus :=
  match [pending, assigned, inProgress, completed, cancelled].find?
      fun status => status.value = text with
  | some status => .ok status
  | none => .error .valueError

theorem ofValue_value (status : BacklogItemStatus) : ofValue status.value = .ok status := by
  cases status <;> decide

end BacklogItemStatus

/-- What validation takes from elsewhere: an id and a time for an item that has none, and
the integer that a string stands for. -/
structure ItemDefaults where
  shortUuid : Text
  utcNow : Text
  intOfText : Text → Except PyExc ℤ

/-- A field of type `str`. -/
def strField : PyValue → Except PyExc Text
  | .str text => .ok text
  | _ => .error .valueError

/-- A field of type `int`. -/
def intField (defaults : ItemDefaults) : PyValue → Except PyExc ℤ
  | .num value => if value.den = 1 then .ok value.num else .error .valueError
  | .str text => defaults.intOfText text
  | _ => .error .valueError

/-- A field of type `str | None`. -/
def optionalStrField : PyValue → Except PyExc (Option Text)
  | .none => .ok none
  | value => do return some (← strField value)

namespace BacklogItem

/-- `item.model_dump()`. -/
def modelDump (item : BacklogItem) : PyValue :=
  .dict
    [ (.str ("item_id" : Text), .str item.itemId),
      (.str ("title" : Text), .str item.title),
      (.str ("description" : Text), .str item.description),
      (.str ("priority" : Text), .num item.priority),
      (.str ("status" : Text), .str item.status.value),
      (.str ("assigned_to" : Text), item.assignedTo.elim .none .str),
      (.str ("created_at" : Text), .str item.createdAt) ]

/-- `BacklogItem.model_validate`, of a value from a JSON document. A validation error is a
`ValueError`, also where the value is no object. -/
def modelValidate (defaults : ItemDefaults) (value : PyValue) : Except PyExc BacklogItem :=
  match value with
  | .dict entries => do
      let fields := PyValue.dict entries
      let itemId ← strField (← fields.get "item_id" (.str defaults.shortUuid))
      let title ← strField (← fields.get "title" .none)
      let description ← strField (← fields.get "description" (.str []))
      let priority ← intField defaults (← fields.get "priority" (.num 0))
      let status ← BacklogItemStatus.ofValue
        (← strField (← fields.get "status" (.str ("pending" : Text))))
      let assignedTo ← optionalStrField (← fields.get "assigned_to" .none)
      let createdAt ← strField (← fields.get "created_at" (.str defaults.utcNow))
      return { itemId, title, description, priority, status, assignedTo, createdAt }
  | _ => .error .valueError

theorem modelValidate_modelDump (defaults : ItemDefaults) (item : BacklogItem) :
    modelValidate defaults item.modelDump = .ok item := by
  have assigned : optionalStrField (item.assignedTo.elim .none .str) = .ok item.assignedTo := by
    cases item.assignedTo <;> rfl
  have priority : intField defaults (.num item.priority) = .ok item.priority := by
    change (if (item.priority : ℚ).den = 1 then Except.ok (item.priority : ℚ).num
      else Except.error PyExc.valueError) = _
    rw [if_pos (Rat.den_intCast _), Rat.num_intCast]
  have status := BacklogItemStatus.ofValue_value item.status
  change (do
    let priority ← intField defaults (.num item.priority)
    let status ← BacklogItemStatus.ofValue item.status.value
    let assignedTo ← optionalStrField (item.assignedTo.elim .none .str)
    return { item with priority, status, assignedTo }) = Except.ok item
  rw [priority, status, assigned]
  rfl

end BacklogItem

/-- `[BacklogItem.model_validate(d) for d in data]`; each item has defaults of its own. -/
def validateAll (defaults : ℕ → ItemDefaults) : ℕ → List PyValue → Except PyExc (List BacklogItem)
  | _, [] => .ok []
  | position, value :: rest => do
      let item ← BacklogItem.modelValidate (defaults position) value
      return item :: (← validateAll defaults (position + 1) rest)

theorem validateAll_modelDump (defaults : ℕ → ItemDefaults) (position : ℕ)
    (items : List BacklogItem) :
    validateAll defaults position (items.map BacklogItem.modelDump) = .ok items := by
  induction items generalizing position with
  | nil => rfl
  | cons item rest ih =>
      rw [List.map_cons]
      unfold validateAll
      rw [BacklogItem.modelValidate_modelDump, ih]
      rfl

/-- The value that `json.loads` gives for what is stored. -/
def Stored.document : Stored → PyValue
  | backlog items => .list (items.map BacklogItem.modelDump)
  | assignment item => item.modelDump

/-- The items that a queue loads from the store. -/
def loadItems (defaults : ℕ → ItemDefaults) (memory : MemoryStore Stored) :
    Except PyExc (List BacklogItem) :=
  match memory backlogKey with
  | some raw => do validateAll defaults 0 (← raw.document.iter)
  | none => .ok []

/-- `load`. -/
def BacklogQueue.load (defaults : ℕ → ItemDefaults) (queue : BacklogQueue) :
    BacklogQueue × Reply :=
  match loadItems defaults queue.memory with
  | .ok items => ({ queue with items }, .ok none)
  | .error raised => (queue, .error raised)

theorem loadItems_backlog (defaults : ℕ → ItemDefaults) {memory : MemoryStore Stored}
    {items : List BacklogItem} (stored : memory backlogKey = some (.backlog items)) :
    loadItems defaults memory = .ok items := by
  unfold loadItems
  rw [stored]
  exact validateAll_modelDump defaults 0 items

/-! ## What an operation does to the items and to the store -/

/-- The items after the operation's change, if it makes one. -/
def QueueCall.edit (items : List BacklogItem) : QueueCall → Option (List BacklogItem)
  | append item => some (items ++ [item])
  | insertUrgent item => some (insertAt 0 item items)
  | insertAfter afterId item =>
      (items.findIdx? (BacklogItem.hasId afterId)).map fun index : ℕ =>
        insertAt (index + 1) item items
  | reorder itemId newPosition =>
      (items.findIdx? (BacklogItem.hasId itemId)).bind fun index : ℕ =>
        items[index]?.map fun item =>
          insertAt (min newPosition (items.eraseIdx index).length) item (items.eraseIdx index)
  | cancel itemId =>
      (changeFirst (BacklogItem.hasId itemId) BacklogItem.cancelled items).map Prod.snd
  | claimNext agentId =>
      (changeFirst BacklogItem.isPending (BacklogItem.claimed agentId) items).map Prod.snd
  | markCompleted itemId =>
      (changeFirst (BacklogItem.hasId itemId) BacklogItem.completed items).map Prod.snd
  | markPending itemId =>
      (changeFirst (BacklogItem.hasId itemId) BacklogItem.requeued items).map Prod.snd

/-- The queue with the items, after an attempt to write them to the store. -/
def BacklogQueue.attempted (queue : BacklogQueue) (write : StoreWrite)
    (items : List BacklogItem) : BacklogQueue where
  items := items
  memory :=
    match write with
    | .executeRaises _ => queue.memory
    | _ => queue.memory.set backlogKey (.backlog items)

private theorem saving_finish (write : StoreWrite) (queue : BacklogQueue)
    (items : List BacklogItem) (rest : QueueSection)
    (leaves : ∀ queue : BacklogQueue, (rest.finish queue).1 = queue) :
    ((saving write queue items rest).2.finish (saving write queue items rest).1).1 =
      queue.attempted write items := by
  cases write with
  | succeeds => exact leaves _
  | executeRaises raised => rfl
  | commitRaises raised => rfl

private theorem changeItem_attempted (write : StoreWrite) (queue : BacklogQueue) (itemId : Text)
    (change : BacklogItem → BacklogItem) :
    ((changeItem write itemId change).finish queue).1 =
      (((changeFirst (BacklogItem.hasId itemId) change queue.items).map Prod.snd).map
        (queue.attempted write)).getD queue := by
  unfold changeItem
  rw [locked_finish]
  rcases changeFirst (BacklogItem.hasId itemId) change queue.items with _ | ⟨item, items⟩
  · rfl
  · exact saving_finish write queue items (.leave (.ok none)) fun _ => rfl

private theorem insertAfter_attempted (write : StoreWrite) (queue : BacklogQueue)
    (afterId : Text) (item : BacklogItem) :
    ((insertAfter write afterId item).finish queue).1 =
      (((QueueCall.insertAfter afterId item).edit queue.items).map
        (queue.attempted write)).getD queue := by
  change _ = (((queue.items.findIdx? (BacklogItem.hasId afterId)).map _).map _).getD queue
  unfold insertAfter findIndex
  rw [locked_finish]
  rcases queue.items.findIdx? (BacklogItem.hasId afterId) with _ | index
  · rfl
  · exact saving_finish write queue _ (.leave (.ok none)) fun _ => rfl

private theorem reorder_attempted (write : StoreWrite) (queue : BacklogQueue) (itemId : Text)
    (newPosition : ℤ) :
    ((reorder write itemId newPosition).finish queue).1 =
      (((QueueCall.reorder itemId newPosition).edit queue.items).map
        (queue.attempted write)).getD queue := by
  change _ = (((queue.items.findIdx? (BacklogItem.hasId itemId)).bind _).map _).getD queue
  unfold reorder findIndex
  rw [locked_finish]
  rcases queue.items.findIdx? (BacklogItem.hasId itemId) with _ | index
  · rfl
  · rcases found : queue.items[index]? with _ | item
    · simp only [found, Option.bind_some]
      rfl
    · simp only [found, Option.bind_some]
      exact saving_finish write queue _ (.leave (.ok none)) fun _ => rfl

private theorem claimNext_attempted (write : StoreWrite) (queue : BacklogQueue)
    (agentId : Text) :
    ((claimNext write agentId).finish queue).1 =
      (((QueueCall.claimNext agentId).edit queue.items).map
        (queue.attempted write)).getD queue := by
  change _ = (((changeFirst BacklogItem.isPending _ queue.items).map Prod.snd).map _).getD queue
  unfold claimNext
  rw [locked_finish]
  rcases changeFirst BacklogItem.isPending (BacklogItem.claimed agentId) queue.items with
    _ | ⟨item, items⟩
  · rfl
  · exact saving_finish write queue items (notify (.leave (.ok (some item)))) fun _ => rfl

/-- **One operation.** It changes the items, if it makes a change, and attempts to write
them. -/
theorem program_finish (write : StoreWrite) (request : QueueCall) (queue : BacklogQueue) :
    ((request.program write).finish queue).1 =
      ((request.edit queue.items).map (queue.attempted write)).getD queue := by
  cases request with
  | append item => exact saving_finish write queue _ (.leave (.ok none)) fun _ => rfl
  | insertUrgent item => exact saving_finish write queue _ (.leave (.ok none)) fun _ => rfl
  | insertAfter afterId item => exact insertAfter_attempted write queue afterId item
  | reorder itemId newPosition => exact reorder_attempted write queue itemId newPosition
  | cancel itemId => exact changeItem_attempted write queue itemId _
  | claimNext agentId => exact claimNext_attempted write queue agentId
  | markCompleted itemId => exact changeItem_attempted write queue itemId _
  | markPending itemId => exact changeItem_attempted write queue itemId _

/-! ## Agreement with the store -/

/-- An operation of the queue, with how its write to the store goes. -/
inductive StoreOperation where
  | load
  | call (write : StoreWrite) (request : QueueCall)
  deriving DecidableEq

/-- The queue and the store after an operation, whether it returned or raised. -/
def StoreOperation.perform (defaults : ℕ → ItemDefaults) (queue : BacklogQueue) :
    StoreOperation → BacklogQueue
  | load => (queue.load defaults).1
  | call write request => ((request.program write).finish queue).1

/-- A fresh queue over the same store loads, and then has the items of this queue. -/
def Synced (defaults : ℕ → ItemDefaults) (queue : BacklogQueue) : Prop :=
  BacklogQueue.load defaults { items := [], memory := queue.memory } = (queue, .ok none)

/-- The operation has nothing to change: its item is missing, or is already as it would
leave it. -/
def Idle (items : List BacklogItem) : QueueCall → Prop
  | .append _ => False
  | .insertUrgent _ => False
  | .insertAfter afterId _ => items.find? (BacklogItem.hasId afterId) = none
  | .reorder itemId newPosition =>
      ∀ index, items.findIdx? (BacklogItem.hasId itemId) = some index →
        ∀ item, items[index]? = some item →
        let place := insertPlace (min newPosition (items.length - 1 : ℕ)) (items.length - 1)
        ∀ (position : ℕ) other, min index place ≤ position → position ≤ max index place →
          items[position]? = some other → other = item
  | .cancel itemId =>
      ∀ item, items.find? (BacklogItem.hasId itemId) = some item → item.status = .cancelled
  | .claimNext _ => items.find? BacklogItem.isPending = none
  | .markCompleted itemId =>
      ∀ item, items.find? (BacklogItem.hasId itemId) = some item → item.status = .completed
  | .markPending itemId =>
      ∀ item, items.find? (BacklogItem.hasId itemId) = some item →
        item.status = .pending ∧ item.assignedTo = none

/-- The condition on the state before an operation: its write does not raise before the
store has the items, or it has nothing to change. -/
def Harmless (queue : BacklogQueue) : StoreOperation → Prop
  | .load => True
  | .call write request => (∀ raised, write ≠ .executeRaises raised) ∨ Idle queue.items request

variable {defaults : ℕ → ItemDefaults} {queue : BacklogQueue}

theorem synced_iff : Synced defaults queue ↔ loadItems defaults queue.memory = .ok queue.items := by
  unfold Synced BacklogQueue.load
  constructor
  · intro same
    dsimp only at same
    split at same
    · next items loaded =>
        rw [loaded]
        exact congrArg (fun result : BacklogQueue × Reply => Except.ok result.1.items) same
    · cases congrArg Prod.snd same
  · intro loaded
    dsimp only
    rw [loaded]

theorem synced_init : Synced defaults BacklogQueue.init := synced_iff.mpr rfl

/-- A queue that has loaded agrees with the store. -/
theorem synced_load {items : List BacklogItem}
    (loaded : loadItems defaults queue.memory = .ok items) :
    Synced defaults (queue.load defaults).1 := by
  unfold BacklogQueue.load
  rw [loaded]
  exact synced_iff.mpr loaded

theorem synced_attempted_iff (synced : Synced defaults queue) (write : StoreWrite)
    (items : List BacklogItem) :
    Synced defaults (queue.attempted write items) ↔
      (∀ raised, write ≠ .executeRaises raised) ∨ items = queue.items := by
  have written : ∀ memory : MemoryStore Stored,
      loadItems defaults (memory.set backlogKey (.backlog items)) = .ok items :=
    fun memory => loadItems_backlog defaults (memory.set_self _ _)
  rw [synced_iff] at synced ⊢
  cases write with
  | succeeds => exact iff_of_true (written _) (.inl fun _ same => nomatch same)
  | commitRaises raised => exact iff_of_true (written _) (.inl fun _ same => nomatch same)
  | executeRaises raised =>
      change loadItems defaults queue.memory = .ok items ↔ _
      rw [synced, Except.ok.injEq, eq_comm]
      exact (or_iff_right fun other => other raised rfl).symm

private theorem insertAt_ne (position : ℤ) (item : BacklogItem) (items : List BacklogItem) :
    insertAt position item items ≠ items := by
  intro same
  have longer := (insertAt_perm position item items).length_eq
  rw [same, List.length_cons] at longer
  omega

private theorem reorder_edit_iff {items : List BacklogItem} {itemId : Text} {newPosition : ℤ} :
    Idle items (.reorder itemId newPosition) ↔
      ((QueueCall.reorder itemId newPosition).edit items).getD items = items := by
  unfold Idle QueueCall.edit
  dsimp only
  rcases items.findIdx? (BacklogItem.hasId itemId) with _ | index
  · simp
  · rcases here : items[index]? with _ | item
    · simp [here]
    · have within : index < items.length := (List.getElem?_eq_some_iff.mp here).1
      have shorter : (items.eraseIdx index).length = items.length - 1 :=
        List.length_eraseIdx_of_lt within
      have bound := insertPlace_le (min newPosition (items.length - 1 : ℕ)) (items.length - 1)
      have put := insertIdx_eraseIdx_eq_iff here
        (show insertPlace (min newPosition (items.length - 1 : ℕ)) (items.length - 1) <
          items.length by omega)
      simp only [Option.bind_some, here, Option.map_some, Option.getD_some, insertAt_eq, shorter,
        put, Option.some.injEq, forall_eq']

private theorem cancelled_eq_iff {item : BacklogItem} :
    item.cancelled = item ↔ item.status = .cancelled := by
  cases item
  simp [BacklogItem.cancelled, eq_comm]

private theorem completed_eq_iff {item : BacklogItem} :
    item.completed = item ↔ item.status = .completed := by
  cases item
  simp [BacklogItem.completed, eq_comm]

private theorem requeued_eq_iff {item : BacklogItem} :
    item.requeued = item ↔ item.status = .pending ∧ item.assignedTo = none := by
  cases item
  simp [BacklogItem.requeued, eq_comm]

private theorem claimed_ne {agentId : Text} {item : BacklogItem}
    (pending : item.isPending = true) : item.claimed agentId ≠ item := by
  intro same
  have status : item.status = .pending := of_decide_eq_true pending
  rw [← same] at status
  cases status

/-- An idle operation is one that leaves the items as they are. -/
theorem idle_iff {items : List BacklogItem} (request : QueueCall) :
    Idle items request ↔ (request.edit items).getD items = items := by
  cases request with
  | append item => simp [Idle, QueueCall.edit]
  | insertUrgent item => exact iff_of_false not_false (insertAt_ne 0 item items)
  | insertAfter afterId item =>
      simp only [Idle, QueueCall.edit]
      simp only [List.find?_eq_none, Bool.not_eq_true, ← List.findIdx?_eq_none_iff]
      rcases items.findIdx? (BacklogItem.hasId afterId) with _ | index
      · simp
      · exact iff_of_false (nomatch ·) (insertAt_ne _ item items)
  | reorder itemId newPosition => exact reorder_edit_iff
  | cancel itemId =>
      simp only [Idle, QueueCall.edit, changeFirst_getD_eq_iff, cancelled_eq_iff]
  | claimNext agentId =>
      simp only [Idle, QueueCall.edit, changeFirst_getD_eq_iff]
      rw [Option.eq_none_iff_forall_ne_some]
      exact forall_congr' fun item =>
        ⟨fun missing found => absurd found missing, fun unchanged found =>
          claimed_ne (List.find?_some found) (unchanged found)⟩
  | markCompleted itemId =>
      simp only [Idle, QueueCall.edit, changeFirst_getD_eq_iff, completed_eq_iff]
  | markPending itemId =>
      simp only [Idle, QueueCall.edit, changeFirst_getD_eq_iff, requeued_eq_iff]

/-- **One operation and the store.** The queue agrees with the store after an operation
exactly under the condition on the state before it. -/
theorem synced_perform_iff (synced : Synced defaults queue) (operation : StoreOperation) :
    Synced defaults (operation.perform defaults queue) ↔ Harmless queue operation := by
  cases operation with
  | load => exact iff_of_true (synced_load (synced_iff.mp synced)) trivial
  | call write request =>
      change Synced defaults ((request.program write).finish queue).1 ↔
        (∀ raised, write ≠ .executeRaises raised) ∨ Idle queue.items request
      rw [program_finish, idle_iff]
      rcases request.edit queue.items with _ | items
      · exact iff_of_true synced (.inr rfl)
      · exact synced_attempted_iff synced write items

/-- **Memory and store.** A queue that agrees with the store agrees with it after each of a
sequence of operations exactly if each of them meets the condition. -/
theorem throughout_synced_iff (synced : Synced defaults queue)
    (operations : List StoreOperation) :
    Throughout (StoreOperation.perform defaults) (Synced defaults) queue operations ↔
      EachMeets (StoreOperation.perform defaults) Harmless queue operations :=
  @throughout_iff _ _ _ (Synced defaults) _
    (fun _ operation synced => synced_perform_iff synced operation) _ synced operations

/-- An item is added, claimed, and completed. -/
theorem throughout_synced_completed :
    Throughout (StoreOperation.perform fun _ => ⟨[], [], fun _ => .error .valueError⟩)
      (Synced fun _ => ⟨[], [], fun _ => .error .valueError⟩) BacklogQueue.init
      [.call .succeeds (.append sampleItem), .call .succeeds (.claimNext "alpha"), .load,
        .call (.commitRaises .osError) (.markCompleted "4f2a91c0")] := by
  refine (throughout_synced_iff synced_init _).mpr ⟨.inl ?_, .inl ?_, trivial, .inl ?_, trivial⟩
  · exact fun _ same => nomatch same
  · exact fun _ same => nomatch same
  · exact fun _ same => nomatch same

/-- An item whose write raises is in memory and not in the store. -/
theorem append_unsaved : ¬ ∀ (defaults : ℕ → ItemDefaults) operations,
    Throughout (StoreOperation.perform defaults) (Synced defaults) BacklogQueue.init operations := by
  intro agrees
  have synced := (agrees (fun _ => ⟨[], [], fun _ => .error .valueError⟩)
    [.call (.executeRaises .osError) (.append sampleItem)]).2
  have items := congrArg (fun result : BacklogQueue × Reply => result.1.items) synced
  exact absurd items (by decide)

end Vcompany.Autonomy
