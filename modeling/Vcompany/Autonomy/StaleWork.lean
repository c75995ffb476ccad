import Vcompany.Autonomy.ProjectState

/-! # Recovery of stale work

`reassign_stale` takes the items back from the agents that are not active.
`reassignStale_exact_iff` says in which states the recovery is exact: every stale item is
requeued and returned, no record of an inactive agent names one of them, and nothing else
changes.
-/

namespace Vcompany.Autonomy

open Foundation Shared

/-- An exact recovery. -/
structure Recovered (active : List Text) (before : BacklogQueue)
    (outcome : BacklogQueue × Except PyExc (List Text)) : Prop where
  positions : outcome.1.items.length = before.items.length
  noneStale : ∀ item ∈ outcome.1.items, item.isStale active = false
  requeued : ∀ (position : ℕ) item, before.items[position]? = some item →
    item.isStale active = true → outcome.1.items[position]? = some item.requeued
  returned : ∃ reassigned, outcome.2 = .ok reassigned ∧
    ∀ item ∈ before.items, item.isStale active = true → item.itemId ∈ reassigned
  others : ∀ (position : ℕ) item, before.items[position]? = some item →
    item.isStale active = false → outcome.1.items[position]? = some item
  cleared : ∀ agentId ∉ active, ∀ item ∈ before.items, item.isStale active = true →
    outcome.1.recordOf agentId ≠ some item.itemId
  kept : ∀ agentId ∈ active,
    outcome.1.memory (assignmentKey (some agentId)) = before.memory (assignmentKey (some agentId))

/-- The condition on the state: no stale item has the id of an earlier item; no inactive agent
has a record that names a stale item, unless it is called "None"; and an active agent of this
name has no record when an item is stale. -/
structure Recoverable (active : List Text) (queue : BacklogQueue) : Prop where
  first : StaleFirst active [] queue.items
  unrecorded : ∀ agentId ∉ active, agentId ≠ ("None" : Text) → ∀ item ∈ queue.items,
    item.isStale active = true → queue.recordOf agentId ≠ some item.itemId
  unnamed : ∀ item ∈ queue.items, item.isStale active = true → ("None" : Text) ∈ active →
    queue.memory (assignmentKey none) = none

variable {active : List Text} {queue : BacklogQueue}

/-! ## Items behind another one with their id -/

/-- An earlier item has the id of the item at the position. -/
def Shadowed (items : List BacklogItem) (position : ℕ) : Prop :=
  ∃ (earlier : ℕ) (other item : BacklogItem), earlier < position ∧
    items[earlier]? = some other ∧ items[position]? = some item ∧ other.itemId = item.itemId

/-- A change of the first item with an id leaves the ids, and the items that are behind
another one with theirs. -/
theorem changeFirst_shadowed {itemId : Text} {change : BacklogItem → BacklogItem}
    (keeps : ∀ item, (change item).itemId = item.itemId) {items changed : List BacklogItem}
    {item : BacklogItem}
    (found : changeFirst (BacklogItem.hasId itemId) change items = some (item, changed))
    {position : ℕ} (shadowed : Shadowed items position) :
    changed[position]? = items[position]? ∧ Shadowed changed position := by
  obtain ⟨before, old, after, rfl, apart, own, rfl, rfl⟩ := changeFirst_eq_some_iff.mp found
  obtain ⟨earlier, other, last, before', atEarlier, atPosition, same⟩ := shadowed
  have behind : position ≠ before.length := by
    rintro rfl
    rw [List.getElem?_append_left before'] at atEarlier
    have distinct := apart other (List.mem_of_getElem? atEarlier)
    have isOld : last = old := by simpa using atPosition.symm
    rw [isOld, BacklogItem.hasId_iff.mp own] at same
    rw [BacklogItem.hasId_iff.mpr same] at distinct
    cases distinct
  have elsewhere : ∀ place, place ≠ before.length →
      (before ++ change old :: after)[place]? = (before ++ old :: after)[place]? := by
    intro place apart
    rcases Nat.lt_or_gt_of_ne apart with inside | beyond
    · rw [List.getElem?_append_left inside, List.getElem?_append_left inside]
    · obtain ⟨more, rfl⟩ := Nat.exists_eq_add_of_lt beyond
      simp [Nat.add_assoc, List.getElem?_append_right]
  refine ⟨elsewhere position behind, ?_⟩
  by_cases here : earlier = before.length
  · have isOld : other = old := by simpa [here] using atEarlier.symm
    refine ⟨earlier, change old, last, before', by simp [here], ?_, ?_⟩
    · rw [elsewhere position behind, atPosition]
    · rw [keeps, ← isOld, same]
  · exact ⟨earlier, other, last, before', by rw [elsewhere earlier here, atEarlier],
      by rw [elsewhere position behind, atPosition], same⟩

/-- The loop leaves the items that are behind another one with their id. -/
theorem reassignFrom_shadowed (positions : List ℕ) (reassigned : List Text) {position : ℕ}
    (shadowed : Shadowed queue.items position) :
    (reassignFrom active positions queue reassigned).1.items[position]? =
      queue.items[position]? := by
  induction positions generalizing queue reassigned with
  | nil => rfl
  | cons place places ih =>
      unfold reassignFrom
      rcases queue.items[place]? with _ | item
      · rfl
      · dsimp only
        by_cases stale : item.isStale active = true
        · rw [if_pos stale]
          unfold markPending
          rw [changeItem_finish]
          rcases found : changeFirst (BacklogItem.hasId item.itemId) BacklogItem.requeued
            queue.items with _ | ⟨changed, items⟩
          · rfl
          · obtain ⟨same, still⟩ := changeFirst_shadowed BacklogItem.requeued_itemId found shadowed
            dsimp only
            rw [@ih ((queue.saved items).deleteAssignment _) _ still]
            exact same
        · rw [if_neg stale]
          exact ih reassigned shadowed

/-- In an exact recovery no stale item has the id of an earlier one. -/
theorem Recovered.first (recovered : Recovered active queue (reassignStale active queue)) :
    StaleFirst active [] queue.items := by
  intro earlier item later split stale other member same
  rw [List.nil_append] at member
  obtain ⟨place, within, atPlace⟩ := List.getElem_of_mem member
  have here : queue.items[earlier.length]? = some item := by simp [split]
  have shadowed : Shadowed queue.items earlier.length := by
    refine ⟨place, other, item, within, ?_, here, same⟩
    rw [split, List.getElem?_append_left within, List.getElem?_eq_getElem within]
    exact congrArg some atPlace
  have stays := @reassignFrom_shadowed active queue (List.range queue.items.length) [] _ shadowed
  rw [here] at stays
  have fresh := recovered.noneStale item (List.mem_of_getElem? stays)
  rw [stale] at fresh
  cases fresh

/-! ## The exact condition -/

/-- What the recovery does where no stale item has the id of an earlier one. -/
theorem reassignStale_of_first (first : StaleFirst active [] queue.items) :
    ∃ next : BacklogQueue,
      reassignStale active queue =
        (next, .ok ((queue.items.filter (BacklogItem.isStale active)).map BacklogItem.itemId)) ∧
      next.items = queue.items.map (BacklogItem.refreshed active) ∧
      ∀ agentId, next.memory (assignmentKey agentId) =
        if queue.items.any (BacklogItem.isStale active) ∧
            assignmentKey agentId = assignmentKey none
        then none else queue.memory (assignmentKey agentId) := by
  obtain ⟨next, loop, items, memory⟩ := reassignFrom_of_staleFirst active rfl first []
  refine ⟨next, ?_, items, memory⟩
  unfold reassignStale
  rw [List.range_eq_range']
  exact loop

theorem BacklogItem.refreshed_isStale (item : BacklogItem) :
    (item.refreshed active).isStale active = false := by
  unfold refreshed
  split
  · rfl
  · next fresh => exact Bool.eq_false_iff.mpr fresh

theorem any_isStale_iff :
    queue.items.any (BacklogItem.isStale active) = true ↔
      ∃ item ∈ queue.items, item.isStale active = true :=
  List.any_eq_true

/-- The items after the recovery, whatever becomes of the records. -/
theorem recovered_items {next : BacklogQueue}
    (items : next.items = queue.items.map (BacklogItem.refreshed active))
    {position : ℕ} {item : BacklogItem} (here : queue.items[position]? = some item) :
    next.items[position]? = some (item.refreshed active) := by
  rw [items, List.getElem?_map, here]
  rfl

/-- **Recovery of stale work.** It is exact in exactly the states that meet the condition. -/
theorem reassignStale_exact_iff (active : List Text) (queue : BacklogQueue) :
    Recovered active queue (reassignStale active queue) ↔ Recoverable active queue := by
  constructor
  · intro recovered
    have first := recovered.first
    obtain ⟨next, outcome, _, memory⟩ := reassignStale_of_first first
    rw [outcome] at recovered
    refine ⟨first, ?_, ?_⟩
    · intro agentId inactive named item member stale record
      apply recovered.cleared agentId inactive item member stale
      rw [recordOf_of_memory memory, if_pos (any_isStale_iff.mpr ⟨item, member, stale⟩),
        Function.update_of_ne named, record]
    · intro item member stale isActive
      have kept := recovered.kept ("None" : Text) isActive
      rw [memory, if_pos ⟨any_isStale_iff.mpr ⟨item, member, stale⟩, rfl⟩] at kept
      exact kept.symm
  · rintro ⟨first, unrecorded, unnamed⟩
    obtain ⟨next, outcome, items, memory⟩ := reassignStale_of_first first
    rw [outcome]
    exact {
      positions := by rw [items, List.length_map]
      noneStale := by
        intro item member
        rw [items] at member
        obtain ⟨before, _, rfl⟩ := List.mem_map.mp member
        exact before.refreshed_isStale
      requeued := by
        intro position item here stale
        rw [recovered_items items here, BacklogItem.refreshed, if_pos stale]
      returned := by
        refine ⟨_, rfl, fun item member stale => ?_⟩
        exact List.mem_map_of_mem (List.mem_filter.mpr ⟨member, stale⟩)
      others := by
        intro position item here fresh
        rw [recovered_items items here, BacklogItem.refreshed, if_neg (by simp [fresh])]
      cleared := by
        intro agentId inactive item member stale
        rw [recordOf_of_memory memory, if_pos (any_isStale_iff.mpr ⟨item, member, stale⟩)]
        by_cases named : agentId = ("None" : Text)
        · simp [named]
        · rw [Function.update_of_ne named]
          exact unrecorded agentId inactive named item member stale
      kept := by
        intro agentId isActive
        rw [memory]
        split
        · next deleted =>
            obtain ⟨item, member, stale⟩ := any_isStale_iff.mp deleted.1
            obtain rfl := assignmentKey_some_eq_none_iff.mp deleted.2
            exact (unnamed item member stale isActive).symm
        · rfl }

/-- The agent of an item is not active any more: the item is requeued and returned, and the
agent's record stays. -/
theorem inactive_record_remains :
    ¬ ∀ active queue, Recovered active queue (reassignStale active queue) := by
  intro claim
  have cleared := (claim [] (afterAll assignedRun)).cleared "alpha" (by decide)
    (sampleItem.claimed "alpha") (by decide) (by decide)
  exact cleared (by decide)

end Vcompany.Autonomy
