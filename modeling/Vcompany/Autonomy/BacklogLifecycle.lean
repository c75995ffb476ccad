import Vcompany.Autonomy.BacklogStore
import Vcompany.Autonomy.ProjectState

/-! # Finished backlog items

A COMPLETED or CANCELLED item is finished. `claim_next` takes PENDING items only and
`reassign_stale` requeues ASSIGNED items only; `mark_pending`, which `handle_task_failed`
calls, requeues an item whatever its status is.

`keepsFinished_perform_iff` gives the condition under which an operation leaves finished
items finished. `finished_never_handed_out` carries it to runs: where every operation
meets the condition, an item that has been finished is not handed out again.
-/

namespace Vcompany.Autonomy

open Foundation Shared

/-- COMPLETED or CANCELLED. -/
def BacklogItem.finished (item : BacklogItem) : Bool :=
  item.status = .completed || item.status = .cancelled

/-- The item is in the backlog, and finished. -/
def Finished (items : List BacklogItem) (itemId : Text) : Prop :=
  ∃ item ∈ items, item.itemId = itemId ∧ item.finished = true

instance (items : List BacklogItem) (itemId : Text) : Decidable (Finished items itemId) :=
  inferInstanceAs (Decidable (∃ item ∈ items, _))

/-- The ids are distinct, and what was finished is finished. -/
def KeepsFinished (items changed : List BacklogItem) : Prop :=
  (changed.map BacklogItem.itemId).Nodup ∧
    ∀ itemId, Finished items itemId → Finished changed itemId

/-! ## The items after one change -/

variable {items changed before after : List BacklogItem} {old new item : BacklogItem}
  {itemId : Text}

theorem KeepsFinished.refl (distinct : (items.map BacklogItem.itemId).Nodup) :
    KeepsFinished items items :=
  ⟨distinct, fun _ finished => finished⟩

theorem BacklogItem.isPending_finished (pending : item.isPending = true) :
    item.finished = false := by
  have status : item.status = .pending := of_decide_eq_true pending
  simp [finished, status]

theorem Finished.perm (perm : changed.Perm items) (finished : Finished items itemId) :
    Finished changed itemId := by
  obtain ⟨item, member, same, done⟩ := finished
  exact ⟨item, perm.mem_iff.mpr member, same, done⟩

theorem keepsFinished_perm (distinct : (items.map BacklogItem.itemId).Nodup)
    (perm : changed.Perm items) : KeepsFinished items changed :=
  ⟨(perm.map _).nodup_iff.mpr distinct, fun _ => Finished.perm perm⟩

/-- A new item has an id of its own. -/
theorem keepsFinished_insert_iff (distinct : (items.map BacklogItem.itemId).Nodup)
    (perm : changed.Perm (item :: items)) :
    KeepsFinished items changed ↔ item.itemId ∉ items.map BacklogItem.itemId := by
  unfold KeepsFinished
  rw [(perm.map _).nodup_iff, List.map_cons, List.nodup_cons, and_iff_left distinct]
  apply and_iff_left
  rintro itemId ⟨done, member, finished⟩
  exact Finished.perm perm ⟨done, List.mem_cons_of_mem _ member, finished⟩

/-- One item is replaced by another with its id. -/
theorem keepsFinished_replace_iff
    (distinct : ((before ++ old :: after).map BacklogItem.itemId).Nodup)
    (same : new.itemId = old.itemId) :
    KeepsFinished (before ++ old :: after) (before ++ new :: after) ↔
      (old.finished = true → new.finished = true) := by
  have distinct' : ((before ++ new :: after).map BacklogItem.itemId).Nodup := by
    simpa [same] using distinct
  constructor
  · rintro ⟨_, keeps⟩ done
    obtain ⟨item, member, own, finished⟩ := keeps old.itemId ⟨old, by simp, rfl, done⟩
    have isNew := List.inj_on_of_nodup_map distinct' member
      (show new ∈ before ++ new :: after by simp) (own.trans same.symm)
    exact isNew ▸ finished
  · intro keeps
    refine ⟨distinct', ?_⟩
    rintro itemId ⟨item, member, own, finished⟩
    rcases List.mem_append.mp member with earlier | here
    · exact ⟨item, List.mem_append_left _ earlier, own, finished⟩
    · rcases List.mem_cons.mp here with rfl | later
      · exact ⟨new, by simp, same.trans own, keeps finished⟩
      · exact ⟨item, by simp [later], own, finished⟩

/-- The first item that meets a condition is changed. -/
theorem keepsFinished_changeFirst_iff (distinct : (items.map BacklogItem.itemId).Nodup)
    {meets : BacklogItem → Bool} {change : BacklogItem → BacklogItem}
    (keepsId : ∀ item, (change item).itemId = item.itemId) :
    KeepsFinished items (((changeFirst meets change items).map Prod.snd).getD items) ↔
      ∀ item, items.find? meets = some item → item.finished = true →
        (change item).finished = true := by
  rcases found : changeFirst meets change items with _ | ⟨item, changed⟩
  · rw [List.find?_eq_none.mpr fun item member => by
      simp [changeFirst_eq_none_iff.mp found item member]]
    exact iff_of_true (KeepsFinished.refl distinct) fun _ none => nomatch none
  · obtain ⟨before, old, after, rfl, earlier, own, rfl, rfl⟩ := changeFirst_eq_some_iff.mp found
    have first : (before ++ old :: after).find? meets = some old :=
      List.find?_eq_some_iff_append.mpr ⟨own, before, after, rfl, fun item member => by
        simp [earlier item member]⟩
    rw [first]
    exact (keepsFinished_replace_iff distinct (keepsId old)).trans
      ⟨fun keeps item same => Option.some.inj same ▸ keeps, fun keeps => keeps old rfl⟩

/-! ## The operations -/

/-- The condition on the items before a call: an item that is added has a new id, and one
that is requeued is not finished. -/
def Respects (items : List BacklogItem) : QueueCall → Prop
  | .append item => item.itemId ∉ items.map BacklogItem.itemId
  | .insertUrgent item => item.itemId ∉ items.map BacklogItem.itemId
  | .insertAfter afterId item =>
      afterId ∈ items.map BacklogItem.itemId → item.itemId ∉ items.map BacklogItem.itemId
  | .markPending itemId => ¬ Finished items itemId
  | _ => True

private theorem reorder_edit_perm {newPosition : ℤ} :
    (((QueueCall.reorder itemId newPosition).edit items).getD items).Perm items := by
  simp only [QueueCall.edit]
  rcases items.findIdx? (BacklogItem.hasId itemId) with _ | index
  · exact .refl _
  · rcases here : items[index]? with _ | item
    · simp [here]
    · obtain ⟨within, rfl⟩ := List.getElem?_eq_some_iff.mp here
      simp only [Option.bind_some, here, Option.map_some, Option.getD_some]
      exact (insertAt_perm _ _ _).trans (List.getElem_cons_eraseIdx_perm within)

private theorem find?_hasId (distinct : (items.map BacklogItem.itemId).Nodup) :
    (∀ item, items.find? (BacklogItem.hasId itemId) = some item → item.finished ≠ true) ↔
      ¬ Finished items itemId := by
  constructor
  · rintro unfinished ⟨item, member, same, done⟩
    rcases found : items.find? (BacklogItem.hasId itemId) with _ | first
    · have other := List.find?_eq_none.mp found item member
      simp [BacklogItem.hasId, same] at other
    · have own : first.itemId = itemId := BacklogItem.hasId_iff.mp (List.find?_some found)
      have isFirst := List.inj_on_of_nodup_map distinct member (List.mem_of_find?_eq_some found)
        (same.trans own.symm)
      exact unfinished first found (isFirst ▸ done)
  · intro unfinished item found done
    exact unfinished ⟨item, List.mem_of_find?_eq_some found,
      BacklogItem.hasId_iff.mp (List.find?_some found), done⟩

/-- What a call does to the items leaves finished items finished exactly under the
condition. -/
theorem keepsFinished_edit_iff (distinct : (items.map BacklogItem.itemId).Nodup)
    (request : QueueCall) :
    KeepsFinished items ((request.edit items).getD items) ↔ Respects items request := by
  cases request with
  | append item => exact keepsFinished_insert_iff distinct (List.perm_append_singleton item items)
  | insertUrgent item => exact keepsFinished_insert_iff distinct (insertAt_perm 0 item items)
  | insertAfter afterId item =>
      simp only [QueueCall.edit, Respects]
      rcases found : items.findIdx? (BacklogItem.hasId afterId) with _ | index
      · refine iff_of_true (KeepsFinished.refl distinct) fun present => ?_
        obtain ⟨item, member, same⟩ := List.mem_map.mp present
        have other := List.findIdx?_eq_none_iff.mp found item member
        simp [BacklogItem.hasId, same] at other
      · obtain ⟨within, own, _⟩ := List.findIdx?_eq_some_iff_getElem.mp found
        have present : afterId ∈ items.map BacklogItem.itemId :=
          List.mem_map.mpr ⟨items[index], List.getElem_mem within, BacklogItem.hasId_iff.mp own⟩
        rw [forall_prop_of_true present]
        exact keepsFinished_insert_iff distinct (insertAt_perm _ item items)
  | reorder itemId newPosition =>
      exact iff_of_true (keepsFinished_perm distinct reorder_edit_perm) trivial
  | cancel itemId =>
      exact iff_of_true ((keepsFinished_changeFirst_iff distinct
        BacklogItem.cancelled_itemId).mpr fun _ _ _ => rfl) trivial
  | claimNext agentId =>
      refine iff_of_true ((keepsFinished_changeFirst_iff distinct
        (BacklogItem.claimed_itemId agentId)).mpr fun item found done => ?_) trivial
      rw [BacklogItem.isPending_finished (List.find?_some found)] at done
      cases done
  | markCompleted itemId =>
      exact iff_of_true ((keepsFinished_changeFirst_iff distinct
        BacklogItem.completed_itemId).mpr fun _ _ _ => rfl) trivial
  | markPending itemId =>
      refine (keepsFinished_changeFirst_iff distinct BacklogItem.requeued_itemId).trans
        (Iff.trans ?_ (find?_hasId distinct))
      exact forall₂_congr fun item _ => ⟨fun keeps done => Bool.false_ne_true (keeps done),
        fun unfinished done => absurd done unfinished⟩

/-- An operation of the queue or of the manager. -/
inductive LifecycleOperation where
  | queue (operation : StoreOperation)
  | manager (operation : Operation)

namespace LifecycleOperation

/-- The queue and the store after an operation, whether it returned or raised. -/
def perform (defaults : ℕ → ItemDefaults) (backlog : BacklogQueue) :
    LifecycleOperation → BacklogQueue
  | queue operation => operation.perform defaults backlog
  | manager operation => operation.perform backlog

/-- The item that `claim_next` or `assign_next_task` returns. -/
def handedOut (backlog : BacklogQueue) : LifecycleOperation → Option BacklogItem
  | queue (.call write (.claimNext agentId)) =>
      match ((claimNext write agentId).finish backlog).2 with
      | .ok item => item
      | .error _ => none
  | manager (.assignNextTask agentId) =>
      match (assignNextTask agentId backlog).2 with
      | .ok item => item
      | .error _ => none
  | _ => none

def Step (defaults : ℕ → ItemDefaults) (backlog : BacklogQueue) (operation : LifecycleOperation)
    (next : BacklogQueue) : Prop :=
  next = operation.perform defaults backlog

/-- The condition on the state before an operation: what is loaded has the finished items,
an item that is added has a new id, and one that is requeued, or that an agent failed, is
not finished. -/
def Lawful (defaults : ℕ → ItemDefaults) (backlog : BacklogQueue) : LifecycleOperation → Prop
  | queue .load =>
      ∀ items, loadItems defaults backlog.memory = .ok items → KeepsFinished backlog.items items
  | queue (.call _ request) => Respects backlog.items request
  | manager (.append item) => Respects backlog.items (.append item)
  | manager (.handleTaskFailed _ itemId) => Respects backlog.items (.markPending itemId)
  | manager _ => True

end LifecycleOperation

variable {defaults : ℕ → ItemDefaults} {queue : BacklogQueue}

theorem program_items (write : StoreWrite) (request : QueueCall) (queue : BacklogQueue) :
    ((request.program write).finish queue).1.items =
      (request.edit queue.items).getD queue.items := by
  rw [program_finish]
  cases request.edit queue.items <;> rfl

private theorem endTask_items (agentId : Text) (marking : QueueSection) (queue : BacklogQueue) :
    (endTask agentId marking queue).1.items = (marking.finish queue).1.items := by
  unfold endTask
  rcases marking.finish queue with ⟨marked, raised | item⟩ <;> rfl

private theorem assignNextTask_items (agentId : Text) (queue : BacklogQueue) :
    (assignNextTask agentId queue).1.items =
      ((claimNext .succeeds agentId).finish queue).1.items := by
  unfold assignNextTask
  rcases (claimNext .succeeds agentId).finish queue with ⟨claimed, raised | _ | item⟩ <;> rfl

private theorem assignNextTask_reply (agentId : Text) (queue : BacklogQueue) :
    (assignNextTask agentId queue).2 = ((claimNext .succeeds agentId).finish queue).2 := by
  unfold assignNextTask
  rcases (claimNext .succeeds agentId).finish queue with ⟨claimed, raised | _ | item⟩ <;> rfl

/-- Requeueing the stale items leaves finished items as they are. -/
theorem keepsFinished_reassignStale (distinct : (queue.items.map BacklogItem.itemId).Nodup)
    (active : List Text) : KeepsFinished queue.items (reassignStale active queue).1.items := by
  obtain ⟨next, loop, items, _⟩ := @reassignFrom_eq queue active [] queue.items rfl distinct []
  have recovered : (reassignStale active queue).1 = next := by
    unfold reassignStale
    rw [List.range_eq_range']
    exact congrArg Prod.fst loop
  rw [recovered, items, List.nil_append]
  constructor
  · simpa [Function.comp_def, BacklogItem.refreshed_itemId] using distinct
  · rintro itemId ⟨item, member, same, done⟩
    have fresh : item.refreshed active = item := by
      unfold BacklogItem.refreshed BacklogItem.isStale
      have unassigned : item.status ≠ .assigned := by
        intro assigned
        simp [BacklogItem.finished, assigned] at done
      simp [unassigned]
    exact ⟨item, List.mem_map.mpr ⟨item, member, fresh⟩, same, done⟩

/-- **One operation.** It keeps the ids distinct and the finished items finished exactly
under the condition on the state before it. -/
theorem keepsFinished_perform_iff (distinct : (queue.items.map BacklogItem.itemId).Nodup)
    (operation : LifecycleOperation) :
    KeepsFinished queue.items (operation.perform defaults queue).items ↔
      operation.Lawful defaults queue := by
  rcases operation with (_ | ⟨write, request⟩) | operation
  · change KeepsFinished queue.items (queue.load defaults).1.items ↔ ∀ items, _
    unfold BacklogQueue.load
    rcases loadItems defaults queue.memory with raised | items
    · exact iff_of_true (KeepsFinished.refl distinct) fun _ loaded => nomatch loaded
    · exact ⟨fun keeps _ same => Except.ok.inj same ▸ keeps, fun keeps => keeps items rfl⟩
  · change KeepsFinished queue.items ((request.program write).finish queue).1.items ↔ _
    rw [program_items]
    exact keepsFinished_edit_iff distinct request
  · cases operation with
    | append item => exact keepsFinished_edit_iff distinct (.append item)
    | assignNextTask agentId =>
        change KeepsFinished queue.items (assignNextTask agentId queue).1.items ↔ _
        rw [assignNextTask_items]
        exact program_items .succeeds (.claimNext agentId) queue ▸
          keepsFinished_edit_iff distinct (.claimNext agentId)
    | handleTaskCompleted agentId itemId =>
        change KeepsFinished queue.items (endTask agentId _ queue).1.items ↔ _
        rw [endTask_items]
        exact program_items .succeeds (.markCompleted itemId) queue ▸
          keepsFinished_edit_iff distinct (.markCompleted itemId)
    | handleTaskFailed agentId itemId =>
        change KeepsFinished queue.items (endTask agentId _ queue).1.items ↔ _
        rw [endTask_items]
        exact program_items .succeeds (.markPending itemId) queue ▸
          keepsFinished_edit_iff distinct (.markPending itemId)
    | reassignStale active =>
        exact iff_of_true (keepsFinished_reassignStale distinct active) trivial
    | cancel itemId =>
        exact program_items .succeeds (.cancel itemId) queue ▸
          keepsFinished_edit_iff distinct (.cancel itemId)

/-! ## Runs -/

private theorem claimNext_returns {write : StoreWrite} {agentId : Text}
    (returned : ((claimNext write agentId).finish queue).2 = .ok (some item)) :
    ∃ old ∈ queue.items, old.isPending = true ∧ item.itemId = old.itemId := by
  unfold claimNext at returned
  rw [locked_finish] at returned
  rcases found : changeFirst BacklogItem.isPending (BacklogItem.claimed agentId) queue.items with
    _ | ⟨claimed, items⟩
  · rw [found] at returned
    cases returned
  · rw [found] at returned
    obtain ⟨before, old, after, split, _, pending, rfl, _⟩ := changeFirst_eq_some_iff.mp found
    cases write with
    | succeeds =>
        cases returned
        exact ⟨old, by simp [split], pending, rfl⟩
    | executeRaises raised => cases returned
    | commitRaises raised => cases returned

/-- An item that is handed out was PENDING. -/
theorem handedOut_pending {operation : LifecycleOperation}
    (handed : operation.handedOut queue = some item) :
    ∃ old ∈ queue.items, old.isPending = true ∧ item.itemId = old.itemId := by
  unfold LifecycleOperation.handedOut at handed
  split at handed
  · next write agentId =>
      apply @claimNext_returns _ _ write agentId
      split at handed
      · next returned => rw [returned, handed]
      · cases handed
  · next agentId =>
      apply @claimNext_returns _ _ .succeeds agentId
      rw [← assignNextTask_reply]
      split at handed
      · next returned => rw [returned, handed]
      · cases handed
  · cases handed

theorem Finished.not_handedOut (distinct : (queue.items.map BacklogItem.itemId).Nodup)
    (finished : Finished queue.items itemId) {operation : LifecycleOperation}
    (handed : operation.handedOut queue = some item) : item.itemId ≠ itemId := by
  rintro rfl
  obtain ⟨old, member, pending, same⟩ := handedOut_pending handed
  obtain ⟨done, present, own, isFinished⟩ := finished
  obtain rfl := List.inj_on_of_nodup_map distinct member present (same.symm.trans own.symm)
  rw [BacklogItem.isPending_finished pending] at isFinished
  cases isFinished

/-- In a run of operations that meet the condition, finished items stay finished. -/
theorem keepsFinished_of_run {operations : List LifecycleOperation} {next : BacklogQueue}
    (run : Run (Guarded (LifecycleOperation.Step defaults) (LifecycleOperation.Lawful defaults))
      queue operations next)
    (distinct : (queue.items.map BacklogItem.itemId).Nodup) :
    KeepsFinished queue.items next.items := by
  refine run.invariant (fun state => KeepsFinished queue.items state.items) ?_
    (KeepsFinished.refl distinct)
  rintro middle operation _ ⟨distinct, keeps⟩ ⟨lawful, rfl⟩
  obtain ⟨distinct', keeps'⟩ := (keepsFinished_perform_iff distinct operation).mpr lawful
  exact ⟨distinct', fun itemId finished => keeps' itemId (keeps itemId finished)⟩

/-- **Finished items.** In a run of operations that meet the condition, from a new queue on
any store, an item that is finished at some moment is not handed out later. -/
theorem finished_never_handed_out {memory : MemoryStore Stored}
    {earlier later : List LifecycleOperation} {next : BacklogQueue}
    (before : Run
      (Guarded (LifecycleOperation.Step defaults) (LifecycleOperation.Lawful defaults))
      { items := [], memory } earlier queue)
    (finished : Finished queue.items itemId)
    (after : Run
      (Guarded (LifecycleOperation.Step defaults) (LifecycleOperation.Lawful defaults))
      queue later next)
    {operation : LifecycleOperation} (handed : operation.handedOut next = some item) :
    item.itemId ≠ itemId := by
  have opened := keepsFinished_of_run before List.nodup_nil
  have kept := keepsFinished_of_run after opened.1
  exact (kept.2 itemId finished).not_handedOut kept.1 handed

def noDefaults (_ : ℕ) : ItemDefaults where
  shortUuid := []
  utcNow := []
  intOfText _ := .error .valueError

/-- The queue after a list of operations on a new queue. -/
def lifecycleAfter (operations : List LifecycleOperation) : BacklogQueue :=
  operations.foldl (LifecycleOperation.perform noDefaults) BacklogQueue.init

def completedRun : List LifecycleOperation :=
  [.queue .load, .manager (.append sampleItem), .manager (.assignNextTask "alpha"),
    .manager (.handleTaskCompleted "alpha" "4f2a91c0")]

def nextItem : BacklogItem where
  itemId := "7c31b2de"
  title := "Build billing"
  createdAt := "2026-01-02T00:00:00+00:00"

/-- After an item is completed and another one is added, the other one is claimed. -/
theorem completed_item_not_claimed : (nextItem.claimed "beta").itemId ≠ ("4f2a91c0" : Text) := by
  have before : Run (Guarded (LifecycleOperation.Step noDefaults)
      (LifecycleOperation.Lawful noDefaults)) { items := [], memory := fun _ => none } completedRun
      (lifecycleAfter completedRun) := by
    refine .cons ⟨?_, rfl⟩ (.cons ⟨?_, rfl⟩ (.cons ⟨trivial, rfl⟩ (.cons ⟨trivial, rfl⟩ (.nil _))))
    · exact fun items loaded => Except.ok.inj loaded ▸ KeepsFinished.refl List.nodup_nil
    · exact List.not_mem_nil
  have after : Run (Guarded (LifecycleOperation.Step noDefaults)
      (LifecycleOperation.Lawful noDefaults)) (lifecycleAfter completedRun)
      [.queue (.call .succeeds (.append nextItem))]
      (lifecycleAfter (completedRun ++ [.queue (.call .succeeds (.append nextItem))])) := by
    refine .cons ⟨?_, rfl⟩ (.nil _)
    change nextItem.itemId ∉ [sampleItem.itemId]
    decide
  have handed : (LifecycleOperation.queue (.call .succeeds (.claimNext "beta"))).handedOut
      (lifecycleAfter (completedRun ++ [.queue (.call .succeeds (.append nextItem))])) =
      some (nextItem.claimed "beta") := rfl
  exact finished_never_handed_out before (by decide) after handed

/-- An item that was cancelled while an agent worked on it is claimed again once the agent
has reported a failure. -/
theorem cancelled_item_claimed :
    ¬ ∀ (defaults : ℕ → ItemDefaults) earlier later (queue next : BacklogQueue) itemId
        (operation : LifecycleOperation) (item : BacklogItem),
      Run (LifecycleOperation.Step defaults) BacklogQueue.init earlier queue →
      Finished queue.items itemId → Run (LifecycleOperation.Step defaults) queue later next →
      operation.handedOut next = some item → item.itemId ≠ itemId := by
  intro never
  exact never noDefaults
    [.manager (.append sampleItem), .manager (.assignNextTask "alpha"),
      .manager (.cancel "4f2a91c0")]
    [.manager (.handleTaskFailed "alpha" "4f2a91c0")] _ _ "4f2a91c0"
    (.queue (.call .succeeds (.claimNext "beta"))) (sampleItem.claimed "beta")
    (.cons rfl (.cons rfl (.cons rfl (.nil _)))) (by decide) (.cons rfl (.nil _)) rfl rfl

end Vcompany.Autonomy
