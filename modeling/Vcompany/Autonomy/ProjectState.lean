import Vcompany.Autonomy.Backlog

/-! # Assignments of backlog items to agents

`ProjectStateManager` claims backlog items for agents and keeps a record of the item
that each agent works on, under a key of the agent's own. The backlog and the records
are in one store and are updated one after the other.

`agree_of_orderly` shows that the records name exactly the items that are ASSIGNED, in
the runs in which every operation meets a condition on the records before it;
by `consistent_perform_iff` an operation that does not meet it breaks the agreement, or
repeats an id.
-/

namespace Vcompany.Autonomy

open Foundation Shared

/-- `f"assignment:{agent_id}"`; the attribute `assigned_to` may be `None`. -/
def assignmentKey (agentId : Option Text) : Text :=
  ("assignment:" : Text) ++ agentId.getD ("None" : Text)

namespace BacklogQueue

def setAssignment (queue : BacklogQueue) (agentId : Text) (item : BacklogItem) : BacklogQueue :=
  { queue with memory := queue.memory.set (assignmentKey (some agentId)) (.assignment item) }

def deleteAssignment (queue : BacklogQueue) (agentId : Option Text) : BacklogQueue :=
  { queue with memory := queue.memory.delete (assignmentKey agentId) }

@[simp] theorem setAssignment_items (queue : BacklogQueue) (agentId : Text) (item : BacklogItem) :
    (queue.setAssignment agentId item).items = queue.items := rfl

@[simp] theorem setAssignment_memory (queue : BacklogQueue) (agentId : Text) (item : BacklogItem) :
    (queue.setAssignment agentId item).memory =
      queue.memory.set (assignmentKey (some agentId)) (.assignment item) := rfl

@[simp] theorem deleteAssignment_items (queue : BacklogQueue) (agentId : Option Text) :
    (queue.deleteAssignment agentId).items = queue.items := rfl

@[simp] theorem deleteAssignment_memory (queue : BacklogQueue) (agentId : Option Text) :
    (queue.deleteAssignment agentId).memory = queue.memory.delete (assignmentKey agentId) := rfl

end BacklogQueue

/-- `assign_next_task`. -/
def assignNextTask (agentId : Text) (queue : BacklogQueue) : BacklogQueue × Reply :=
  match (claimNext .succeeds agentId).finish queue with
  | (claimed, .ok (some item)) => (claimed.setAssignment agentId item, .ok (some item))
  | (claimed, reply) => (claimed, reply)

/-- A status change of the item, and the end of the agent's assignment. -/
def endTask (agentId : Text) (marking : QueueSection) (queue : BacklogQueue) :
    BacklogQueue × Reply :=
  match marking.finish queue with
  | (marked, .error raised) => (marked, .error raised)
  | (marked, .ok _) => (marked.deleteAssignment (some agentId), .ok none)

/-- `handle_task_completed`. -/
def handleTaskCompleted (agentId itemId : Text) (queue : BacklogQueue) : BacklogQueue × Reply :=
  endTask agentId (markCompleted .succeeds itemId) queue

/-- `handle_task_failed`. -/
def handleTaskFailed (agentId itemId : Text) (queue : BacklogQueue) : BacklogQueue × Reply :=
  endTask agentId (markPending .succeeds itemId) queue

/-- The item is ASSIGNED to an agent that is not active. -/
def BacklogItem.isStale (active : List Text) (item : BacklogItem) : Bool :=
  item.status = .assigned &&
    match item.assignedTo with
    | none => false
    | some agentId => agentId ∉ active

/-- The loop of `reassign_stale` over the positions that are left. The item is an
object: its `assigned_to` is read again after `mark_pending`. -/
def reassignFrom (active : List Text) :
    List ℕ → BacklogQueue → List Text → BacklogQueue × Except PyExc (List Text)
  | [], queue, reassigned => (queue, .ok reassigned)
  | position :: positions, queue, reassigned =>
      match queue.items[position]? with
      | none => (queue, .ok reassigned)
      | some item =>
          if item.isStale active then
            match (markPending .succeeds item.itemId).finish queue with
            | (marked, .error raised) => (marked, .error raised)
            | (marked, .ok _) =>
                let assignedTo := (marked.items[position]?).bind BacklogItem.assignedTo
                reassignFrom active positions (marked.deleteAssignment assignedTo)
                  (reassigned ++ [item.itemId])
          else reassignFrom active positions queue reassigned

/-- `reassign_stale`. -/
def reassignStale (active : List Text) (queue : BacklogQueue) :
    BacklogQueue × Except PyExc (List Text) :=
  reassignFrom active (List.range queue.items.length) queue []

/-- An operation on the backlog or on the assignments. -/
inductive Operation where
  | append (item : BacklogItem)
  | assignNextTask (agentId : Text)
  | handleTaskCompleted (agentId itemId : Text)
  | handleTaskFailed (agentId itemId : Text)
  | reassignStale (active : List Text)
  | cancel (itemId : Text)

/-- The queue and the store after an operation, whether it returned or raised. -/
def Operation.perform (queue : BacklogQueue) : Operation → BacklogQueue
  | append item => ((Autonomy.append .succeeds item).finish queue).1
  | assignNextTask agentId => (Autonomy.assignNextTask agentId queue).1
  | handleTaskCompleted agentId itemId => (Autonomy.handleTaskCompleted agentId itemId queue).1
  | handleTaskFailed agentId itemId => (Autonomy.handleTaskFailed agentId itemId queue).1
  | reassignStale active => (Autonomy.reassignStale active queue).1
  | cancel itemId => ((Autonomy.cancel .succeeds itemId).finish queue).1

def BacklogQueue.Step (queue : BacklogQueue) (operation : Operation) (next : BacklogQueue) : Prop :=
  next = operation.perform queue

/-! ## Records and assigned items -/

/-- The agent to which the item is ASSIGNED. -/
def BacklogItem.assignee (item : BacklogItem) : Option Text :=
  if item.status = .assigned then item.assignedTo else none

namespace BacklogItem

theorem isPending_assignee {item : BacklogItem} (pending : item.isPending = true) :
    item.assignee = none := by
  have status : item.status = .pending := of_decide_eq_true pending
  simp [assignee, status]

@[simp] theorem claimed_assignee (agentId : Text) (item : BacklogItem) :
    (item.claimed agentId).assignee = some agentId := rfl

@[simp] theorem completed_assignee (item : BacklogItem) : item.completed.assignee = none := rfl

@[simp] theorem requeued_assignee (item : BacklogItem) : item.requeued.assignee = none := rfl

@[simp] theorem cancelled_assignee (item : BacklogItem) : item.cancelled.assignee = none := rfl

end BacklogItem

/-- The item is in the backlog, ASSIGNED to the agent. -/
def Assigned (items : List BacklogItem) (agentId itemId : Text) : Prop :=
  ∃ item ∈ items, item.itemId = itemId ∧ item.assignee = some agentId

instance (items : List BacklogItem) (agentId itemId : Text) :
    Decidable (Assigned items agentId itemId) :=
  inferInstanceAs (Decidable (∃ item ∈ items, _))

/-- The item that the agent's record names. -/
def BacklogQueue.recordOf (queue : BacklogQueue) (agentId : Text) : Option Text :=
  match queue.memory (assignmentKey (some agentId)) with
  | some (.assignment item) => some item.itemId
  | _ => none

/-- The records name exactly the items that are ASSIGNED. -/
def Agree (records : Text → Option Text) (items : List BacklogItem) : Prop :=
  ∀ agentId itemId, records agentId = some itemId ↔ Assigned items agentId itemId

/-- The agent's record, if it has one, names the item, and no other record does. -/
def Reports (records : Text → Option Text) (agentId itemId : Text) : Prop :=
  ∀ agent item, records agent = some item → (agent = agentId ↔ item = itemId)

/-- The condition on the state before an operation: a new item comes with a new id and
is not ASSIGNED; an agent that is given an item has no record; an agent reports the
end of the item that its record names, or of one that no record names while it has
no record; an agent with a record is active, unless it is called "None"; and
a cancelled item is in no record. -/
def Orderly (queue : BacklogQueue) : Operation → Prop
  | .append item => item.itemId ∉ queue.items.map BacklogItem.itemId ∧ item.assignee = none
  | .assignNextTask agentId =>
      queue.recordOf agentId = none ∨ ∀ item ∈ queue.items, item.isPending = false
  | .handleTaskCompleted agentId itemId =>
      itemId ∉ queue.items.map BacklogItem.itemId ∨ Reports queue.recordOf agentId itemId
  | .handleTaskFailed agentId itemId =>
      itemId ∉ queue.items.map BacklogItem.itemId ∨ Reports queue.recordOf agentId itemId
  | .reassignStale active =>
      ∀ agentId itemId, queue.recordOf agentId = some itemId →
        agentId ∈ active ∨ agentId = ("None" : Text)
  | .cancel itemId => ∀ agentId, queue.recordOf agentId ≠ some itemId

/-! ## The agreement when one item changes -/

variable {records : Text → Option Text} {items before after : List BacklogItem}
  {old new : BacklogItem} {agentId itemId : Text}

theorem assigned_split_iff :
    Assigned (before ++ old :: after) agentId itemId ↔
      (old.itemId = itemId ∧ old.assignee = some agentId) ∨
        Assigned (before ++ after) agentId itemId := by
  simp only [Assigned, List.mem_append, List.mem_cons]
  constructor
  · rintro ⟨item, member | rfl | member, named⟩
    · exact .inr ⟨item, .inl member, named⟩
    · exact .inl named
    · exact .inr ⟨item, .inr member, named⟩
  · rintro (named | ⟨item, member | member, named⟩)
    · exact ⟨old, .inr (.inl rfl), named⟩
    · exact ⟨item, .inl member, named⟩
    · exact ⟨item, .inr (.inr member), named⟩

/-- Where the ids are distinct, no other item has the id of this one. -/
theorem not_assigned_elsewhere
    (distinct : ((before ++ old :: after).map BacklogItem.itemId).Nodup) :
    ¬ Assigned (before ++ after) agentId old.itemId := by
  rintro ⟨item, member, same, _⟩
  have apart := List.nodup_middle.mp (by simpa using distinct)
  apply (List.nodup_cons.mp apart).1
  rw [← same, ← List.map_append]
  exact List.mem_map_of_mem member

/-- One item is replaced by another with its id. -/
theorem assigned_replaced_iff
    (distinct : ((before ++ old :: after).map BacklogItem.itemId).Nodup)
    (same : new.itemId = old.itemId) :
    Assigned (before ++ new :: after) agentId itemId ↔
      (itemId = old.itemId ∧ new.assignee = some agentId) ∨
        (itemId ≠ old.itemId ∧ Assigned (before ++ old :: after) agentId itemId) := by
  rw [assigned_split_iff, assigned_split_iff, same]
  by_cases own : itemId = old.itemId
  · subst own
    simp [not_assigned_elsewhere distinct]
  · simp [own, Ne.symm own]

/-- An item that was free is recorded as the agent's. -/
theorem agree_assign_iff (agree : Agree records (before ++ old :: after))
    (distinct : ((before ++ old :: after).map BacklogItem.itemId).Nodup)
    (same : new.itemId = old.itemId) (free : old.assignee = none)
    (taken : new.assignee = some agentId) :
    Agree (Function.update records agentId (some old.itemId)) (before ++ new :: after) ↔
      records agentId = none := by
  have unrecorded : ∀ agent, records agent ≠ some old.itemId := by
    intro agent named
    rcases assigned_split_iff.mp ((agree agent old.itemId).mp named) with ⟨_, own⟩ | elsewhere
    · rw [free] at own
      cases own
    · exact not_assigned_elsewhere distinct elsewhere
  constructor
  · intro agree'
    rcases record : records agentId with _ | itemId
    · rfl
    · have other : itemId ≠ old.itemId := fun own => unrecorded agentId (own ▸ record)
      have named := (agree' agentId itemId).mpr ((assigned_replaced_iff distinct same).mpr
        (.inr ⟨other, (agree agentId itemId).mp record⟩))
      rw [Function.update_self] at named
      exact absurd (Option.some.inj named).symm other
  · intro unoccupied agent itemId
    rw [assigned_replaced_iff distinct same, ← agree agent itemId, taken, Option.some.injEq]
    by_cases own : agent = agentId
    · rw [own, Function.update_self, unoccupied]
      simp [eq_comm]
    · rw [Function.update_of_ne own]
      have other : records agent = some itemId → itemId ≠ old.itemId := fun record same =>
        unrecorded agent (same ▸ record)
      simp only [Ne.symm own, and_false, false_or]
      exact ⟨fun record => ⟨other record, record⟩, And.right⟩

/-- An item becomes free, and the agent's record is deleted. -/
theorem agree_end_iff (agree : Agree records (before ++ old :: after))
    (distinct : ((before ++ old :: after).map BacklogItem.itemId).Nodup)
    (same : new.itemId = old.itemId) (free : new.assignee = none) :
    Agree (Function.update records agentId none) (before ++ new :: after) ↔
      Reports records agentId old.itemId := by
  have becomes : ∀ agent itemId, Assigned (before ++ new :: after) agent itemId ↔
      itemId ≠ old.itemId ∧ records agent = some itemId := by
    intro agent itemId
    rw [assigned_replaced_iff distinct same, free, agree]
    simp
  have remains : ∀ agent itemId, Function.update records agentId none agent = some itemId ↔
      agent ≠ agentId ∧ records agent = some itemId := by
    intro agent itemId
    by_cases own : agent = agentId
    · simp [own]
    · simp [own]
  simp only [Agree, becomes, remains, Reports, and_congr_left_iff, ne_eq, not_iff_not]

/-- An item becomes free, and the records stay. -/
theorem agree_free_iff (agree : Agree records (before ++ old :: after))
    (distinct : ((before ++ old :: after).map BacklogItem.itemId).Nodup)
    (same : new.itemId = old.itemId) (free : new.assignee = none) :
    Agree records (before ++ new :: after) ↔ ∀ agent, records agent ≠ some old.itemId := by
  have becomes : ∀ agent itemId, Assigned (before ++ new :: after) agent itemId ↔
      itemId ≠ old.itemId ∧ records agent = some itemId := by
    intro agent itemId
    rw [assigned_replaced_iff distinct same, free, agree]
    simp
  simp only [Agree, becomes, iff_and_self]
  exact ⟨fun unnamed agent named => unnamed agent _ named rfl,
    fun unnamed agent itemId named own => unnamed agent (own ▸ named)⟩

/-- A new item joins. -/
theorem agree_append_iff (agree : Agree records items)
    (fresh : new.itemId ∉ items.map BacklogItem.itemId) :
    Agree records (items ++ [new]) ↔ new.assignee = none := by
  have joins : ∀ agent itemId, Assigned (items ++ [new]) agent itemId ↔
      (new.itemId = itemId ∧ new.assignee = some agent) ∨ records agent = some itemId := by
    intro agent itemId
    rw [assigned_split_iff, List.append_nil, agree]
  constructor
  · intro agree'
    rcases assigned : new.assignee with _ | agent
    · rfl
    · have named := (agree' agent new.itemId).mpr ((joins _ _).mpr (.inl ⟨rfl, assigned⟩))
      obtain ⟨other, member, same, _⟩ := (agree agent new.itemId).mp named
      exact absurd (List.mem_map.mpr ⟨other, member, same⟩) fresh
  · intro free agent itemId
    rw [joins, free]
    simp

/-! ## The records after each operation -/

/-- The ids are distinct, and the records name exactly the items that are ASSIGNED. -/
structure Consistent (queue : BacklogQueue) : Prop where
  distinct : (queue.items.map BacklogItem.itemId).Nodup
  agree : Agree queue.recordOf queue.items

variable {queue : BacklogQueue}

theorem consistent_iff_agree (distinct : (queue.items.map BacklogItem.itemId).Nodup) :
    Consistent queue ↔ Agree queue.recordOf queue.items :=
  ⟨Consistent.agree, Consistent.mk distinct⟩

theorem assignmentKey_some_inj {agent : Text} :
    assignmentKey (some agent) = assignmentKey (some agentId) ↔ agent = agentId :=
  List.append_right_inj _

theorem assignmentKey_ne_backlogKey (agentId : Option Text) :
    assignmentKey agentId ≠ backlogKey := by
  intro same
  cases same

@[simp] theorem recordOf_saved (queue : BacklogQueue) (items : List BacklogItem) :
    (queue.saved items).recordOf = queue.recordOf := by
  funext agent
  unfold BacklogQueue.recordOf
  rw [BacklogQueue.saved_memory, MemoryStore.set_of_ne _ _ (assignmentKey_ne_backlogKey _)]

@[simp] theorem recordOf_setAssignment (queue : BacklogQueue) (agentId : Text)
    (item : BacklogItem) :
    (queue.setAssignment agentId item).recordOf =
      Function.update queue.recordOf agentId (some item.itemId) := by
  funext agent
  by_cases own : agent = agentId
  · simp [BacklogQueue.recordOf, own]
  · rw [Function.update_of_ne own]
    unfold BacklogQueue.recordOf
    rw [BacklogQueue.setAssignment_memory,
      MemoryStore.set_of_ne _ _ (mt assignmentKey_some_inj.mp own)]

@[simp] theorem recordOf_deleteAssignment (queue : BacklogQueue) (agentId : Text) :
    (queue.deleteAssignment (some agentId)).recordOf =
      Function.update queue.recordOf agentId none := by
  funext agent
  by_cases own : agent = agentId
  · simp [BacklogQueue.recordOf, own]
  · rw [Function.update_of_ne own]
    unfold BacklogQueue.recordOf
    rw [BacklogQueue.deleteAssignment_memory,
      MemoryStore.delete_of_ne _ (mt assignmentKey_some_inj.mp own)]

theorem consistent_append_iff (consistent : Consistent queue) (item : BacklogItem) :
    Consistent ((append .succeeds item).finish queue).1 ↔ Orderly queue (.append item) := by
  obtain ⟨distinct, agree⟩ := consistent
  rw [append_finish]
  constructor
  · rintro ⟨distinct', agree'⟩
    rw [recordOf_saved] at agree'
    rw [BacklogQueue.saved_items, List.map_append] at distinct'
    have fresh : item.itemId ∉ queue.items.map BacklogItem.itemId := fun member =>
      List.disjoint_of_nodup_append distinct' member List.mem_cons_self
    exact ⟨fresh, (agree_append_iff agree fresh).mp agree'⟩
  · rintro ⟨fresh, free⟩
    refine ⟨?_, ?_⟩
    · rw [BacklogQueue.saved_items, List.map_append]
      exact distinct.append (List.nodup_singleton _) (by simpa using fresh)
    · rw [recordOf_saved]
      exact (agree_append_iff agree fresh).mpr free

/-- Where a change keeps the ids, the ids stay distinct. -/
private theorem distinct_changed {meets : BacklogItem → Bool} {change : BacklogItem → BacklogItem}
    (keeps : ∀ item, (change item).itemId = item.itemId) {item : BacklogItem}
    {changed : List BacklogItem} (found : changeFirst meets change items = some (item, changed))
    (distinct : (items.map BacklogItem.itemId).Nodup) :
    (changed.map BacklogItem.itemId).Nodup := by
  rw [changeFirst_map keeps found]
  exact distinct

theorem consistent_assignNextTask_iff (consistent : Consistent queue) (agentId : Text) :
    Consistent (assignNextTask agentId queue).1 ↔ Orderly queue (.assignNextTask agentId) := by
  unfold assignNextTask
  rw [claimNext_finish]
  rcases claim : changeFirst BacklogItem.isPending (BacklogItem.claimed agentId) queue.items with
    _ | ⟨item, items⟩
  · exact iff_of_true consistent (.inr (changeFirst_eq_none_iff.mp claim))
  · have distinct' := distinct_changed (BacklogItem.claimed_itemId agentId) claim
      consistent.distinct
    obtain ⟨distinct, agree⟩ := consistent
    obtain ⟨before, old, after, split, _, pending, rfl, rfl⟩ := changeFirst_eq_some_iff.mp claim
    have busy : ¬ ∀ item ∈ queue.items, item.isPending = false := by
      intro idle
      rw [idle old (split ▸ List.mem_append_right before List.mem_cons_self)] at pending
      cases pending
    rw [split] at distinct agree
    have agreement := agree_assign_iff agree distinct (BacklogItem.claimed_itemId agentId old)
      (BacklogItem.isPending_assignee pending) (BacklogItem.claimed_assignee agentId old)
    change Consistent ((queue.saved _).setAssignment agentId _) ↔ _
    rw [consistent_iff_agree distinct', recordOf_setAssignment, recordOf_saved]
    exact agreement.trans (or_iff_left busy).symm

/-- The end of a task, for a change that leaves its item free. -/
theorem consistent_endTask_iff (consistent : Consistent queue) (agentId itemId : Text)
    {change : BacklogItem → BacklogItem} (keeps : ∀ item, (change item).itemId = item.itemId)
    (frees : ∀ item, (change item).assignee = none) :
    Consistent (endTask agentId (changeItem .succeeds itemId change) queue).1 ↔
      itemId ∉ queue.items.map BacklogItem.itemId ∨ Reports queue.recordOf agentId itemId := by
  unfold endTask
  rw [changeItem_finish]
  rcases found : changeFirst (BacklogItem.hasId itemId) change queue.items with
    _ | ⟨item, items⟩
  · refine iff_of_true consistent (.inl fun member => ?_)
    obtain ⟨item, member, same⟩ := List.mem_map.mp member
    have other := changeFirst_eq_none_iff.mp found item member
    simp [BacklogItem.hasId, same] at other
  · have distinct' := distinct_changed keeps found consistent.distinct
    obtain ⟨distinct, agree⟩ := consistent
    obtain ⟨before, old, after, split, _, own, rfl, rfl⟩ := changeFirst_eq_some_iff.mp found
    obtain rfl := of_decide_eq_true own
    have member : old.itemId ∈ queue.items.map BacklogItem.itemId := by simp [split]
    rw [split] at distinct agree
    have agreement : Agree (Function.update queue.recordOf agentId none)
        (before ++ change old :: after) ↔ Reports queue.recordOf agentId old.itemId :=
      agree_end_iff agree distinct (keeps old) (frees old)
    change Consistent ((queue.saved _).deleteAssignment (some agentId)) ↔ _
    rw [consistent_iff_agree distinct', recordOf_deleteAssignment, recordOf_saved]
    exact agreement.trans (or_iff_right (not_not_intro member)).symm

theorem consistent_cancel_iff (consistent : Consistent queue) (itemId : Text) :
    Consistent ((cancel .succeeds itemId).finish queue).1 ↔ Orderly queue (.cancel itemId) := by
  unfold cancel
  rw [changeItem_finish]
  rcases found : changeFirst (BacklogItem.hasId itemId) BacklogItem.cancelled queue.items
    with _ | ⟨item, items⟩
  · refine iff_of_true consistent fun agentId named => ?_
    obtain ⟨item, member, same, _⟩ := (consistent.agree agentId itemId).mp named
    have other := changeFirst_eq_none_iff.mp found item member
    simp [BacklogItem.hasId, same] at other
  · have distinct' := distinct_changed BacklogItem.cancelled_itemId found consistent.distinct
    obtain ⟨distinct, agree⟩ := consistent
    obtain ⟨before, old, after, split, _, own, rfl, rfl⟩ := changeFirst_eq_some_iff.mp found
    obtain rfl := of_decide_eq_true own
    rw [split] at distinct agree
    have agreement := agree_free_iff agree distinct (BacklogItem.cancelled_itemId old)
      (BacklogItem.cancelled_assignee old)
    change Consistent (queue.saved _) ↔ _
    rw [consistent_iff_agree distinct', recordOf_saved]
    exact agreement

/-! ## The recovery of stale items -/

/-- The item as `reassign_stale` leaves it. -/
def BacklogItem.refreshed (active : List Text) (item : BacklogItem) : BacklogItem :=
  if item.isStale active then item.requeued else item

theorem BacklogItem.isStale_iff {active : List Text} {item : BacklogItem} :
    item.isStale active = true ↔ ∃ agentId, item.assignee = some agentId ∧ agentId ∉ active := by
  unfold isStale assignee
  by_cases assigned : item.status = .assigned
  · rcases item.assignedTo with _ | agentId <;> simp [assigned]
  · simp [assigned]

theorem BacklogItem.refreshed_itemId (active : List Text) (item : BacklogItem) :
    (item.refreshed active).itemId = item.itemId := by
  unfold refreshed
  split <;> rfl

/-- An item stays ASSIGNED to an active agent only. -/
theorem BacklogItem.refreshed_assignee_iff {active : List Text} {item : BacklogItem}
    {agentId : Text} :
    (item.refreshed active).assignee = some agentId ↔
      item.assignee = some agentId ∧ agentId ∈ active := by
  unfold refreshed
  split
  · next stale =>
      obtain ⟨agent, assigned, inactive⟩ := isStale_iff.mp stale
      rw [requeued_assignee, assigned, Option.some.injEq]
      exact iff_of_false (fun none => nomatch none) fun ⟨same, isActive⟩ =>
        inactive (same ▸ isActive)
  · next fresh =>
      rw [iff_self_and]
      intro assigned
      by_contra inactive
      exact fresh (isStale_iff.mpr ⟨agentId, assigned, inactive⟩)

theorem assigned_refreshed_iff {active : List Text} :
    Assigned (items.map (BacklogItem.refreshed active)) agentId itemId ↔
      Assigned items agentId itemId ∧ agentId ∈ active := by
  unfold Assigned
  constructor
  · rintro ⟨_, changed, same, assigned⟩
    obtain ⟨item, member, rfl⟩ := List.mem_map.mp changed
    rw [BacklogItem.refreshed_itemId] at same
    obtain ⟨assigned, isActive⟩ := BacklogItem.refreshed_assignee_iff.mp assigned
    exact ⟨⟨item, member, same, assigned⟩, isActive⟩
  · rintro ⟨⟨item, member, same, assigned⟩, isActive⟩
    refine ⟨item.refreshed active, List.mem_map_of_mem member, ?_,
      BacklogItem.refreshed_assignee_iff.mpr ⟨assigned, isActive⟩⟩
    rw [BacklogItem.refreshed_itemId, same]

/-- `mark_pending` requeues the item, when no earlier one has its id. -/
private theorem markPending_middle
    (apart : ∀ earlier ∈ before, earlier.itemId ≠ old.itemId)
    (split : queue.items = before ++ old :: after) :
    (markPending .succeeds old.itemId).finish queue =
      (queue.saved (before ++ old.requeued :: after), .ok none) := by
  have first : changeFirst (BacklogItem.hasId old.itemId) BacklogItem.requeued queue.items =
      some (old.requeued, before ++ old.requeued :: after) := by
    refine changeFirst_eq_some_iff.mpr ⟨before, old, after, split, ?_, ?_, rfl, rfl⟩
    · exact fun earlier member => decide_eq_false (apart earlier member)
    · simp [BacklogItem.hasId]
  unfold markPending
  rw [changeItem_finish, first]

/-- No item that is left to visit and is stale has the id of an earlier one. -/
def StaleFirst (active : List Text) (done todo : List BacklogItem) : Prop :=
  ∀ earlier item later, todo = earlier ++ item :: later → item.isStale active = true →
    ∀ other ∈ done ++ earlier, other.itemId ≠ item.itemId

private theorem StaleFirst.tail {active : List Text} {done rest : List BacklogItem}
    {item visited : BacklogItem} (first : StaleFirst active done (item :: rest))
    (same : visited.itemId = item.itemId) : StaleFirst active (done ++ [visited]) rest := by
  intro earlier stale later split isStale other member
  have apart := first (item :: earlier) stale later (congrArg _ split) isStale
  rw [List.append_assoc, List.singleton_append] at member
  rcases List.mem_append.mp member with before | after
  · exact apart other (List.mem_append_left _ before)
  · rcases List.mem_cons.mp after with rfl | between
    · rw [same]
      exact apart item (List.mem_append_right _ List.mem_cons_self)
    · exact apart other (List.mem_append_right _ (List.mem_cons_of_mem _ between))

theorem staleFirst_of_distinct {active : List Text} {done todo : List BacklogItem}
    (distinct : ((done ++ todo).map BacklogItem.itemId).Nodup) : StaleFirst active done todo := by
  rintro earlier item later rfl _ other member same
  rw [← List.append_assoc, List.map_append, List.map_cons] at distinct
  have apart := List.disjoint_of_nodup_append distinct (List.mem_map_of_mem member)
  exact apart (same ▸ List.mem_cons_self)

/-- The loop requeues the stale items that are left, and deletes the record of an agent
called "None" if there is any. -/
theorem reassignFrom_of_staleFirst (active : List Text) {done todo : List BacklogItem}
    (split : queue.items = done ++ todo) (first : StaleFirst active done todo)
    (reassigned : List Text) :
    ∃ next : BacklogQueue,
      reassignFrom active (List.range' done.length todo.length) queue reassigned =
        (next, .ok (reassigned ++
          (todo.filter (BacklogItem.isStale active)).map BacklogItem.itemId)) ∧
      next.items = done ++ todo.map (BacklogItem.refreshed active) ∧
      ∀ agentId, next.memory (assignmentKey agentId) =
        if todo.any (BacklogItem.isStale active) ∧ assignmentKey agentId = assignmentKey none
        then none else queue.memory (assignmentKey agentId) := by
  induction todo generalizing queue done reassigned with
  | nil => exact ⟨queue, by simp [reassignFrom], by simpa using split, by simp⟩
  | cons item rest ih =>
      rw [List.length_cons, List.range'_succ]
      unfold reassignFrom
      have here : queue.items[done.length]? = some item := by simp [split]
      rw [here]
      dsimp only
      by_cases stale : item.isStale active = true
      · have apart : ∀ earlier ∈ done, earlier.itemId ≠ item.itemId := fun earlier member =>
          first [] item rest rfl stale earlier (List.mem_append_left _ member)
        rw [if_pos stale, markPending_middle apart split]
        dsimp only
        have again : ((queue.saved (done ++ item.requeued :: rest)).items[done.length]?).bind
            BacklogItem.assignedTo = none := by simp [BacklogItem.requeued]
        rw [again]
        obtain ⟨next, loop, items, memory⟩ := @ih
          ((queue.saved (done ++ item.requeued :: rest)).deleteAssignment none)
          (done ++ [item.requeued]) (by simp) (first.tail item.requeued_itemId)
          (reassigned ++ [item.itemId])
        refine ⟨next, ?_, ?_, ?_⟩
        · simpa [stale] using loop
        · simpa [stale, BacklogItem.refreshed] using items
        · intro agentId
          rw [memory, BacklogQueue.deleteAssignment_memory, BacklogQueue.saved_memory]
          by_cases own : assignmentKey agentId = assignmentKey none
          · simp [own, stale]
          · rw [MemoryStore.delete_of_ne _ own,
              MemoryStore.set_of_ne _ _ (assignmentKey_ne_backlogKey _)]
            simp [own]
      · rw [if_neg stale]
        obtain ⟨next, loop, items, memory⟩ := @ih queue (done ++ [item]) (by simpa using split)
          (first.tail rfl) reassigned
        refine ⟨next, ?_, ?_, ?_⟩
        · simpa [stale] using loop
        · simpa [stale, BacklogItem.refreshed] using items
        · simpa [stale] using memory

theorem assignmentKey_some_eq_none_iff :
    assignmentKey (some agentId) = assignmentKey none ↔ agentId = ("None" : Text) :=
  assignmentKey_some_inj

/-- The records when at most the one of an agent called "None" is deleted. -/
theorem recordOf_of_memory {next : BacklogQueue} {deleted : Prop} [Decidable deleted]
    (memory : ∀ agentId, next.memory (assignmentKey agentId) =
      if deleted ∧ assignmentKey agentId = assignmentKey none then none
      else queue.memory (assignmentKey agentId)) :
    next.recordOf =
      if deleted then Function.update queue.recordOf ("None" : Text) none
      else queue.recordOf := by
  funext agentId
  have record := memory (some agentId)
  simp only [assignmentKey_some_eq_none_iff] at record
  unfold BacklogQueue.recordOf
  rw [record]
  by_cases own : agentId = ("None" : Text)
  · by_cases gone : deleted
    · simp [gone, own]
    · simp [gone]
  · by_cases gone : deleted
    · rw [if_neg fun both => own both.2, if_pos gone, Function.update_of_ne own]
    · simp [gone]

/-- The loop over items with distinct ids, and the records after it. -/
theorem reassignFrom_eq (active : List Text) {done todo : List BacklogItem}
    (split : queue.items = done ++ todo)
    (distinct : ((done ++ todo).map BacklogItem.itemId).Nodup) (reassigned : List Text) :
    ∃ next : BacklogQueue,
      reassignFrom active (List.range' done.length todo.length) queue reassigned =
        (next, .ok (reassigned ++
          (todo.filter (BacklogItem.isStale active)).map BacklogItem.itemId)) ∧
      next.items = done ++ todo.map (BacklogItem.refreshed active) ∧
      next.recordOf =
        if todo.any (BacklogItem.isStale active) then
          Function.update queue.recordOf ("None" : Text) none
        else queue.recordOf := by
  obtain ⟨next, loop, items, memory⟩ := reassignFrom_of_staleFirst active split
    (staleFirst_of_distinct distinct) reassigned
  exact ⟨next, loop, items, recordOf_of_memory memory⟩

theorem consistent_reassignStale_iff (consistent : Consistent queue) (active : List Text) :
    Consistent (reassignStale active queue).1 ↔ Orderly queue (.reassignStale active) := by
  obtain ⟨distinct, agree⟩ := consistent
  obtain ⟨next, loop, items, records⟩ := @reassignFrom_eq queue active [] queue.items rfl
    distinct []
  have recovered : (reassignStale active queue).1 = next := by
    unfold reassignStale
    rw [List.range_eq_range']
    exact congrArg Prod.fst loop
  rw [recovered]
  have distinct' : (next.items.map BacklogItem.itemId).Nodup := by
    rw [items, List.nil_append, List.map_map]
    simpa [Function.comp_def, BacklogItem.refreshed_itemId] using distinct
  have staleOf : ∀ {agentId itemId}, queue.recordOf agentId = some itemId → agentId ∉ active →
      queue.items.any (BacklogItem.isStale active) = true := by
    intro agentId itemId record inactive
    obtain ⟨item, member, _, assigned⟩ := (agree agentId itemId).mp record
    have stale := BacklogItem.isStale_iff.mpr ⟨agentId, assigned, inactive⟩
    exact List.any_eq_true.mpr ⟨item, member, stale⟩
  have becomes : ∀ agentId itemId, Assigned next.items agentId itemId ↔
      queue.recordOf agentId = some itemId ∧ agentId ∈ active := by
    intro agentId itemId
    rw [items, List.nil_append, assigned_refreshed_iff, agree]
  constructor
  · rintro ⟨_, agree'⟩ agentId itemId record
    by_contra neither
    obtain ⟨inactive, named⟩ := not_or.mp neither
    have remains : next.recordOf agentId = some itemId := by
      rw [records, if_pos (staleOf record inactive), Function.update_of_ne named, record]
    exact inactive ((becomes agentId itemId).mp ((agree' agentId itemId).mp remains)).2
  · intro orderly
    refine ⟨distinct', fun agentId itemId => ?_⟩
    rw [becomes, records]
    split
    · next stale =>
        obtain ⟨item, member, isStale⟩ := List.any_eq_true.mp stale
        obtain ⟨agent, assigned, inactive⟩ := BacklogItem.isStale_iff.mp isStale
        have record := (agree agent item.itemId).mpr ⟨item, member, rfl, assigned⟩
        have isNone := (orderly agent item.itemId record).resolve_left inactive
        by_cases own : agentId = ("None" : Text)
        · rw [own, Function.update_self, ← isNone]
          exact iff_of_false (fun none => nomatch none) fun ⟨_, isActive⟩ => inactive isActive
        · rw [Function.update_of_ne own, iff_self_and]
          exact fun record => (orderly agentId itemId record).resolve_right own
    · next fresh =>
        rw [iff_self_and]
        intro record
        by_contra inactive
        exact fresh (staleOf record inactive)

/-! ## Runs -/

/-- **One operation.** It keeps the ids distinct and the records in agreement with the
backlog exactly under the condition on the state before it. -/
theorem consistent_perform_iff (consistent : Consistent queue) (operation : Operation) :
    Consistent (operation.perform queue) ↔ Orderly queue operation := by
  cases operation with
  | append item => exact consistent_append_iff consistent item
  | assignNextTask agentId => exact consistent_assignNextTask_iff consistent agentId
  | handleTaskCompleted agentId itemId =>
      exact consistent_endTask_iff consistent agentId itemId BacklogItem.completed_itemId
        BacklogItem.completed_assignee
  | handleTaskFailed agentId itemId =>
      exact consistent_endTask_iff consistent agentId itemId BacklogItem.requeued_itemId
        BacklogItem.requeued_assignee
  | reassignStale active => exact consistent_reassignStale_iff consistent active
  | cancel itemId => exact consistent_cancel_iff consistent itemId

theorem consistent_init : Consistent BacklogQueue.init :=
  ⟨List.nodup_nil, fun _ _ => iff_of_false (fun none => nomatch none)
    fun ⟨_, member, _⟩ => nomatch member⟩

/-- **Records and backlog.** In a run of operations whose conditions are met, from an
empty backlog, the records name exactly the items that are ASSIGNED. -/
theorem agree_of_orderly {operations : List Operation}
    (run : Run (Guarded BacklogQueue.Step Orderly) BacklogQueue.init operations queue) :
    Agree queue.recordOf queue.items := by
  refine (run.invariant Consistent ?_ consistent_init).agree
  rintro before operation _ consistent ⟨orderly, rfl⟩
  exact (consistent_perform_iff consistent operation).mpr orderly

/-- The queue after a run of operations from an empty backlog. -/
def afterAll (operations : List Operation) : BacklogQueue :=
  operations.foldl Operation.perform BacklogQueue.init

def assignedRun : List Operation := [.append sampleItem, .assignNextTask "alpha"]

private theorem assignedRun_recordOf :
    (afterAll assignedRun).recordOf =
      Function.update (fun _ => none) ("alpha" : Text) (some sampleItem.itemId) := by
  have claimed : afterAll assignedRun =
      ((BacklogQueue.init.saved [sampleItem]).saved [sampleItem.claimed "alpha"]).setAssignment
        "alpha" (sampleItem.claimed "alpha") := rfl
  rw [claimed, recordOf_setAssignment, recordOf_saved, recordOf_saved]
  rfl

/-- An agent takes an item and completes it. -/
theorem completed_item_leaves_no_record :
    Agree (afterAll (assignedRun ++ [.handleTaskCompleted "alpha" "4f2a91c0"])).recordOf
      (afterAll (assignedRun ++ [.handleTaskCompleted "alpha" "4f2a91c0"])).items := by
  refine @agree_of_orderly _ (assignedRun ++ [.handleTaskCompleted "alpha" "4f2a91c0"])
    (.cons ⟨?_, rfl⟩ (.cons ⟨?_, rfl⟩ (.cons ⟨?_, rfl⟩ (.nil _))))
  · exact ⟨by decide, by decide⟩
  · exact .inl (by decide)
  · right
    intro agent item record
    change (afterAll assignedRun).recordOf agent = some item at record
    rw [assignedRun_recordOf] at record
    by_cases own : agent = ("alpha" : Text)
    · rw [own, Function.update_self] at record
      exact iff_of_true own (Option.some.inj record).symm
    · rw [Function.update_of_ne own] at record
      cases record

/-- The item of an agent that is not active is back in the queue, and the agent's record
still names it. -/
theorem stale_record_remains :
    ¬ ∀ operations queue, Run BacklogQueue.Step BacklogQueue.init operations queue →
      Agree queue.recordOf queue.items := by
  intro agrees
  have run : Run BacklogQueue.Step BacklogQueue.init (assignedRun ++ [.reassignStale []])
      (afterAll (assignedRun ++ [.reassignStale []])) :=
    .cons rfl (.cons rfl (.cons rfl (.nil _)))
  have agree := agrees _ _ run "alpha" "4f2a91c0"
  exact absurd (agree.mp (by decide)) (by decide)

end Vcompany.Autonomy
