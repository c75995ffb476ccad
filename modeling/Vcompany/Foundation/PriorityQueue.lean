import Mathlib.Algebra.Order.Group.Multiset

/-! # Priority queues

The entries of a priority queue, in the order in which they were put. A least entry is
taken first, and of several that are least the one that was put first.
-/

namespace Vcompany.Foundation

structure PriorityQueue (α : Type) where
  entries : List α

namespace PriorityQueue

variable {α : Type}

def empty : PriorityQueue α := ⟨[]⟩

def put (queue : PriorityQueue α) (entry : α) : PriorityQueue α := ⟨queue.entries ++ [entry]⟩

/-- The first of the least entries of a list, and the others. -/
def takeLeast [LT α] [DecidableLT α] : List α → Option (α × List α)
  | [] => none
  | entry :: later =>
      match takeLeast later with
      | none => some (entry, [])
      | some (least, others) =>
          if least < entry then some (least, entry :: others) else some (entry, later)

def take? [LT α] [DecidableLT α] (queue : PriorityQueue α) : Option (α × PriorityQueue α) :=
  (takeLeast queue.entries).map fun taken => (taken.1, ⟨taken.2⟩)

/-- The entries, whatever their order. -/
def contents (queue : PriorityQueue α) : Multiset α := queue.entries

@[simp] theorem contents_put (queue : PriorityQueue α) (entry : α) :
    (queue.put entry).contents = queue.contents + {entry} := by
  unfold contents put
  rw [← Multiset.coe_add, Multiset.coe_singleton]

theorem contents_foldl_put (queue : PriorityQueue α) (entries : List α) :
    (entries.foldl put queue).contents = queue.contents + entries := by
  induction entries generalizing queue with
  | nil => simp
  | cons entry entries ih =>
      rw [List.foldl_cons, ih, contents_put, add_assoc, Multiset.singleton_add, Multiset.cons_coe]

variable [LT α] [DecidableLT α]

private theorem takeLeast_perm : ∀ {entries others : List α} {least : α},
    takeLeast entries = some (least, others) → entries.Perm (least :: others)
  | entry :: later, others, least, taken => by
      unfold takeLeast at taken
      rcases rest : takeLeast later with _ | ⟨first, behind⟩
      · rw [rest] at taken
        cases later with
        | nil => cases taken; exact .refl _
        | cons second later =>
            unfold takeLeast at rest
            split at rest
            · cases rest
            · split at rest <;> cases rest
      · rw [rest] at taken
        dsimp only at taken
        split at taken
        · cases taken
          exact ((takeLeast_perm rest).cons entry).trans (.swap least entry behind)
        · cases taken
          exact .refl _

/-- Where entries are compared by a key, none has a lesser key than the one that is taken. -/
private theorem takeLeast_le {β : Type*} [LinearOrder β] {key : α → β}
    (byKey : ∀ first second : α, first < second ↔ key first < key second) :
    ∀ {entries others : List α} {least : α}, takeLeast entries = some (least, others) →
      ∀ other ∈ others, key least ≤ key other
  | entry :: later, others, least, taken => by
      unfold takeLeast at taken
      rcases rest : takeLeast later with _ | ⟨first, behind⟩
      · rw [rest] at taken
        cases taken
        exact nofun
      · have before := takeLeast_le byKey rest
        rw [rest] at taken
        dsimp only at taken
        split at taken
        · next less =>
            cases taken
            intro other member
            rcases List.mem_cons.mp member with rfl | later
            · exact ((byKey _ _).mp less).le
            · exact before other later
        · next notLess =>
            cases taken
            rw [byKey, not_lt] at notLess
            intro other member
            rcases List.mem_cons.mp ((takeLeast_perm rest).mem_iff.mp member) with rfl | later
            · exact notLess
            · exact notLess.trans (before other later)

theorem le_of_take? {β : Type*} [LinearOrder β] {key : α → β}
    (byKey : ∀ first second : α, first < second ↔ key first < key second)
    {queue rest : PriorityQueue α} {least : α} (taken : queue.take? = some (least, rest))
    {other : α} (waiting : other ∈ rest.contents) : key least ≤ key other := by
  unfold take? at taken
  obtain ⟨⟨first, others⟩, found, same⟩ := Option.map_eq_some_iff.mp taken
  cases same
  exact takeLeast_le byKey found other waiting

theorem contents_of_take? {queue rest : PriorityQueue α} {least : α}
    (taken : queue.take? = some (least, rest)) : queue.contents = rest.contents + {least} := by
  unfold take? at taken
  obtain ⟨⟨first, others⟩, found, same⟩ := Option.map_eq_some_iff.mp taken
  cases same
  have same : queue.contents = first ::ₘ (others : Multiset α) :=
    Multiset.coe_eq_coe.mpr (takeLeast_perm found)
  rw [same, ← Multiset.singleton_add, add_comm]
  rfl

end PriorityQueue

end Vcompany.Foundation
