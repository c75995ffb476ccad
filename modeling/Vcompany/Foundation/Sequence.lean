import Mathlib.Data.List.Infix
import Mathlib.Data.List.InsertIdx
import Mathlib.Data.List.Perm.Basic
import Mathlib.Data.Int.Notation
import Mathlib.Order.Lattice

/-! # Lists that are changed in place

The first item that meets a condition is changed, or an item is inserted at a
position, which counts from the end when it is negative. A search through the tails of a list
finds the place before which nothing meets the condition.
-/

namespace Vcompany.Foundation

variable {α β : Type}

/-- Change the first item that meets the condition: the changed item, and the items. -/
def changeFirst (meets : α → Bool) (change : α → α) : List α → Option (α × List α)
  | [] => none
  | item :: rest =>
      if meets item then some (change item, change item :: rest)
      else (changeFirst meets change rest).map fun (changed, items) => (changed, item :: items)

/-- The place before which `list.insert` puts an item, in a list of the length. -/
def insertPlace (position : ℤ) (length : ℕ) : ℕ :=
  if position < 0 then (length + position).toNat else min position.toNat length

/-- `list.insert`. -/
def insertAt (position : ℤ) (item : α) (items : List α) : List α :=
  if position < 0 then items.insertIdx (items.length + position).toNat item
  else items.insertIdx (min position.toNat items.length) item

variable {meets : α → Bool} {change : α → α}

/-- The items before the changed one do not meet the condition. -/
theorem changeFirst_eq_some_iff {items changed : List α} {item : α} :
    changeFirst meets change items = some (item, changed) ↔
      ∃ before old after, items = before ++ old :: after ∧
        (∀ earlier ∈ before, meets earlier = false) ∧ meets old = true ∧
        item = change old ∧ changed = before ++ change old :: after := by
  induction items generalizing changed with
  | nil => simp [changeFirst]
  | cons head rest ih =>
      unfold changeFirst
      constructor
      · intro found
        split at found
        · next own =>
            obtain ⟨rfl, rfl⟩ := Prod.mk.inj (Option.some.inj found)
            exact ⟨[], head, rest, rfl, by simp, own, rfl, rfl⟩
        · next other =>
            obtain ⟨⟨_, items⟩, inner, same⟩ := Option.map_eq_some_iff.mp found
            obtain ⟨rfl, rfl⟩ := Prod.mk.inj same
            obtain ⟨before, old, after, rfl, earlier, own, rfl, rfl⟩ := ih.mp inner
            refine ⟨head :: before, old, after, rfl, ?_, own, rfl, rfl⟩
            rintro _ (_ | ⟨_, member⟩)
            · exact Bool.not_eq_true _ ▸ other
            · exact earlier _ member
      · rintro ⟨before, old, after, split, earlier, own, rfl, rfl⟩
        cases before with
        | nil =>
            obtain ⟨rfl, rfl⟩ := List.cons.inj split
            rw [if_pos own]
            rfl
        | cons first others =>
            obtain ⟨rfl, rfl⟩ := List.cons.inj split
            have other := earlier head List.mem_cons_self
            rw [if_neg (by simp [other]), ih.mpr ⟨others, old, after, rfl,
              fun item member => earlier item (List.mem_cons_of_mem _ member), own, rfl, rfl⟩]
            rfl

theorem changeFirst_eq_none_iff {items : List α} :
    changeFirst meets change items = none ↔ ∀ item ∈ items, meets item = false := by
  induction items with
  | nil => simp [changeFirst]
  | cons head rest ih =>
      unfold changeFirst
      by_cases own : meets head = true
      · simp [own]
      · simp [own, ih]

/-- The changed item is the first that meets the condition. -/
theorem changeFirst_find? (items : List α) :
    (changeFirst meets change items).map Prod.fst = (items.find? meets).map change := by
  induction items with
  | nil => rfl
  | cons head rest ih =>
      unfold changeFirst
      by_cases own : meets head = true
      · simp [own]
      · rw [if_neg own, List.find?_cons_of_neg own, ← ih, Option.map_map]
        rfl

/-- The items stay as they are when there is none to change, or the change leaves the first
as it is. -/
theorem changeFirst_getD_eq_iff {items : List α} :
    ((changeFirst meets change items).map Prod.snd).getD items = items ↔
      ∀ item, items.find? meets = some item → change item = item := by
  induction items with
  | nil => simp [changeFirst]
  | cons head rest ih =>
      unfold changeFirst
      by_cases own : meets head = true
      · simp [own]
      · rw [if_neg own, List.find?_cons_of_neg own, ← ih]
        rcases changeFirst meets change rest with _ | ⟨item, items⟩ <;> simp

/-- What the change keeps of an item is kept of all. -/
theorem changeFirst_map {key : α → β} (keeps : ∀ item, key (change item) = key item)
    {items changed : List α} {item : α}
    (found : changeFirst meets change items = some (item, changed)) :
    changed.map key = items.map key := by
  obtain ⟨before, old, after, rfl, _, _, _, rfl⟩ := changeFirst_eq_some_iff.mp found
  simp [keeps]

theorem insertAt_eq (position : ℤ) (item : α) (items : List α) :
    insertAt position item items = items.insertIdx (insertPlace position items.length) item := by
  unfold insertAt insertPlace
  split <;> rfl

theorem insertPlace_le (position : ℤ) (length : ℕ) : insertPlace position length ≤ length := by
  unfold insertPlace
  split <;> omega

/-- An item that is taken out and put back leaves the list as it was exactly when there is
nothing but its likes from its place to the new one. -/
theorem insertIdx_eraseIdx_eq_iff {items : List α} {item : α} {index place : ℕ}
    (here : items[index]? = some item) (bound : place < items.length) :
    (items.eraseIdx index).insertIdx place item = items ↔
      ∀ (position : ℕ) other, min index place ≤ position → position ≤ max index place →
        items[position]? = some other → other = item := by
  have within : index < items.length := (List.getElem?_eq_some_iff.mp here).1
  have moved : ∀ position : ℕ, ((items.eraseIdx index).insertIdx place item)[position]? =
      if position < place then (if position < index then items[position]? else items[position + 1]?)
      else if position = place then some item
      else if position - 1 < index then items[position - 1]? else items[position]? := by
    intro position
    rw [List.getElem?_insertIdx, List.getElem?_eraseIdx, List.getElem?_eraseIdx]
    have shorter := List.length_eraseIdx_of_lt within
    grind
  constructor
  · intro same position other above below found
    have pointwise : ∀ position : ℕ, ((items.eraseIdx index).insertIdx place item)[position]? =
        items[position]? := fun position => by rw [same]
    simp only [moved] at pointwise
    rcases Nat.le_total index place with forward | backward
    · have chain : ∀ distance : ℕ, index + distance ≤ place →
          items[index + distance]? = some item := by
        intro distance
        induction distance with
        | zero => exact fun _ => here
        | succ distance ih =>
            intro bounded
            have before := pointwise (index + distance)
            rw [if_pos (by omega), if_neg (by omega), ih (by omega)] at before
            exact before
      have reached := chain (position - index) (by omega)
      rw [show index + (position - index) = position by omega, found] at reached
      exact Option.some.inj reached
    · have chain : ∀ distance : ℕ, place + distance ≤ index →
          items[place + distance]? = some item := by
        intro distance
        induction distance with
        | zero =>
            intro _
            have first := pointwise place
            rw [if_neg (by omega), if_pos rfl] at first
            exact first.symm
        | succ distance ih =>
            intro bounded
            have next := pointwise (place + (distance + 1))
            rw [if_neg (by omega), if_neg (by omega), if_pos (by omega)] at next
            rw [← next]
            exact ih (by omega)
      have reached := chain (position - place) (by omega)
      rw [show place + (position - place) = position by omega, found] at reached
      exact Option.some.inj reached
  · intro likes
    have between : ∀ position : ℕ, min index place ≤ position → position ≤ max index place →
        items[position]? = some item := by
      intro position above below
      have inside : position < items.length := by omega
      rw [List.getElem?_eq_getElem inside]
      exact congrArg some (likes position _ above below (List.getElem?_eq_getElem inside))
    apply List.ext_getElem?
    intro position
    rw [moved]
    split
    · split
      · rfl
      · rw [between position (by omega) (by omega), between (position + 1) (by omega) (by omega)]
    · split
      · next own => rw [own, between place (by omega) (by omega)]
      · split
        · rw [between (position - 1) (by omega) (by omega)]
          by_cases inside : position ≤ index
          · rw [between position (by omega) (by omega)]
          · omega
        · rfl

/-- Nothing but the item is added. -/
theorem insertAt_perm (position : ℤ) (item : α) (items : List α) :
    (insertAt position item items).Perm (item :: items) := by
  unfold insertAt
  split
  · exact List.perm_insertIdx item items (by omega)
  · exact List.perm_insertIdx item items (Nat.min_le_right _ _)

/-! ## The first place that meets a condition -/

section Leftmost

variable {meets : List α → Prop} {item : α} {items before rest : List α}

/-- The rest of the items is the longest that meets the condition. -/
def Leftmost (meets : List α → Prop) (items before rest : List α) : Prop :=
  items = before ++ rest ∧ meets rest ∧
    ∀ sooner later, items = sooner ++ later → meets later → before.length ≤ sooner.length

variable (meets) in
theorem leftmost_of_meets (here : meets items) :
    Leftmost meets items before rest ↔ before = [] ∧ rest = items := by
  constructor
  · rintro ⟨same, -, least⟩
    obtain rfl := List.length_eq_zero_iff.mp (Nat.le_zero.mp (least [] items rfl here))
    exact ⟨rfl, same.symm⟩
  · rintro ⟨rfl, rfl⟩
    exact ⟨rfl, here, fun _ _ _ _ => Nat.zero_le _⟩

variable (meets) in
theorem leftmost_cons_iff (missed : ¬ meets (item :: items)) :
    Leftmost meets (item :: items) before rest ↔
      ∃ earlier, before = item :: earlier ∧ Leftmost meets items earlier rest := by
  constructor
  · rintro ⟨same, here, least⟩
    cases before with
    | nil =>
        obtain rfl : item :: items = rest := same
        exact absurd here missed
    | cons other earlier =>
        obtain ⟨rfl, tail⟩ := List.cons.inj same
        refine ⟨earlier, rfl, tail, here, fun sooner later same there => ?_⟩
        exact Nat.le_of_succ_le_succ
          (least (item :: sooner) later (congrArg (List.cons item) same) there)
  · rintro ⟨earlier, rfl, rfl, here, least⟩
    refine ⟨rfl, here, fun sooner later same there => ?_⟩
    cases sooner with
    | nil =>
        obtain rfl : item :: (earlier ++ rest) = later := same
        exact absurd there missed
    | cons other sooner =>
        exact Nat.succ_le_succ (least sooner later (List.cons.inj same).2 there)

theorem Leftmost.unique {before' rest' : List α} (first : Leftmost meets items before rest)
    (other : Leftmost meets items before' rest') : before = before' ∧ rest = rest' := by
  obtain ⟨rfl, here, least⟩ := first
  obtain ⟨same, here', least'⟩ := other
  exact List.append_inj same
    (Nat.le_antisymm (least before' rest' same here') (least' before rest rfl here))

theorem Leftmost.isSuffix (first : Leftmost meets items before rest) : rest <:+ items :=
  ⟨before, first.1.symm⟩

theorem leftmost_congr {meets' : List α → Prop}
    (same : ∀ tail, tail <:+ items → (meets tail ↔ meets' tail)) :
    Leftmost meets items before rest ↔ Leftmost meets' items before rest := by
  unfold Leftmost
  refine and_congr_right fun parts => ?_
  rw [same rest ⟨before, parts.symm⟩]
  refine and_congr_right fun _ => ?_
  constructor
  · exact fun least sooner later split there =>
      least sooner later split ((same later ⟨sooner, split.symm⟩).mpr there)
  · exact fun least sooner later split there =>
      least sooner later split ((same later ⟨sooner, split.symm⟩).mp there)

/-- What is found first in the tails of a list. -/
theorem findSome?_tails_eq_some_iff {find : List α → Option β} {found : β} :
    items.tails.findSome? find = some found ↔
      ∃ before rest, Leftmost (find · ≠ none) items before rest ∧ find rest = some found := by
  have first {tail : List α} {result : β} (here : find tail = some result) :
      some result = some found ↔
        ∃ before rest, Leftmost (find · ≠ none) tail before rest ∧ find rest = some found := by
    have start : find tail ≠ none := by
      rw [here]
      exact Option.some_ne_none _
    simp only [leftmost_of_meets (find · ≠ none) start, and_assoc, exists_and_left, exists_eq_left,
      here]
  induction items with
  | nil =>
      rw [List.tails, List.findSome?_singleton]
      rcases here : find [] with _ | result
      · refine iff_of_false (Option.some_ne_none _).symm ?_
        rintro ⟨before, rest, ⟨same, meets, -⟩, -⟩
        rw [(List.append_eq_nil_iff.mp same.symm).2] at meets
        exact meets here
      · exact first here
  | cons item items ih =>
      rw [List.tails_cons]
      rcases here : find (item :: items) with _ | result
      · rw [List.findSome?_cons_of_isNone (by rw [here]; rfl)]
        refine ih.trans ?_
        simp only [leftmost_cons_iff (find · ≠ none) (not_not_intro here)]
        constructor
        · rintro ⟨before, rest, first, found⟩
          exact ⟨item :: before, rest, ⟨before, rfl, first⟩, found⟩
        · rintro ⟨_, rest, ⟨before, rfl, first⟩, found⟩
          exact ⟨before, rest, first, found⟩
      · rw [List.findSome?_cons_of_isSome (by rw [here]; rfl), here]
        exact first here

end Leftmost

end Vcompany.Foundation
