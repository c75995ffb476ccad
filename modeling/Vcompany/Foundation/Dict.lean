import Mathlib.Data.List.Nodup
import Mathlib.Data.Nat.Notation

/-! # Dictionaries in insertion order

The entries of a `dict`, in the order in which their keys were first set. A key has one
entry; setting it again changes the value in its place.
-/

namespace Vcompany.Foundation

structure Dict (κ ν : Type) where
  entries : List (κ × ν)
  distinct : (entries.map Prod.fst).Nodup
  deriving DecidableEq

namespace Dict

variable {κ ν : Type}

def empty : Dict κ ν := ⟨[], List.nodup_nil⟩

theorem eq_of_entries {first second : Dict κ ν} (same : first.entries = second.entries) :
    first = second := by
  cases first
  cases second
  cases same
  rfl

variable [DecidableEq κ]

/-- `d.get(key)`. -/
def get? (dict : Dict κ ν) (key : κ) : Option ν :=
  (dict.entries.find? fun entry => entry.1 = key).map Prod.snd

/-- The entry, with the value under the key. -/
def revalue (key : κ) (value : ν) (entry : κ × ν) : κ × ν :=
  if entry.1 = key then (key, value) else entry

theorem revalue_fst (key : κ) (value : ν) (entry : κ × ν) :
    (revalue key value entry).1 = entry.1 := by
  unfold revalue
  split
  · next same => exact same.symm
  · rfl

/-- `d[key] = value`. -/
def set (dict : Dict κ ν) (key : κ) (value : ν) : Dict κ ν where
  entries :=
    if key ∈ dict.entries.map Prod.fst then dict.entries.map (revalue key value)
    else dict.entries ++ [(key, value)]
  distinct := by
    split
    · rw [List.map_map, show Prod.fst ∘ revalue key value = Prod.fst from
        funext fun entry => revalue_fst key value entry]
      exact dict.distinct
    · next fresh =>
        rw [List.map_append]
        exact List.nodup_append'.mpr ⟨dict.distinct, List.nodup_singleton _,
          List.disjoint_singleton.mpr fresh⟩

/-- `d.pop(key, None)`. -/
def pop (dict : Dict κ ν) (key : κ) : Dict κ ν where
  entries := dict.entries.filter fun entry => entry.1 ≠ key
  distinct := dict.distinct.sublist (List.filter_sublist.map _)

/-- `d.values()`. -/
def values (dict : Dict κ ν) : List ν := dict.entries.map Prod.snd

/-- `d.keys()`. -/
def keys (dict : Dict κ ν) : List κ := dict.entries.map Prod.fst

/-- The entries that meet a condition. -/
def keep (dict : Dict κ ν) (meets : κ × ν → Bool) : Dict κ ν where
  entries := dict.entries.filter meets
  distinct := dict.distinct.sublist (List.filter_sublist.map _)

/-- The values that are found for the entries, under their keys. -/
def filterMap {μ : Type} (dict : Dict κ ν) (find : κ × ν → Option μ) : Dict κ μ where
  entries := dict.entries.filterMap fun entry => (find entry).map fun value => (entry.1, value)
  distinct := by
    have keys : (dict.entries.filterMap fun entry =>
        (find entry).map fun value => (entry.1, value)).map Prod.fst =
          (dict.entries.filter fun entry => (find entry).isSome).map Prod.fst := by
      induction dict.entries with
      | nil => rfl
      | cons entry rest ih => rcases found : find entry with _ | value <;> simp [found, ih]
    rw [keys]
    exact dict.distinct.sublist (List.filter_sublist.map _)

theorem get?_eq_some_iff {dict : Dict κ ν} {key : κ} {value : ν} :
    dict.get? key = some value ↔ (key, value) ∈ dict.entries := by
  unfold get?
  constructor
  · intro found
    obtain ⟨⟨other, _⟩, first, rfl⟩ := Option.map_eq_some_iff.mp found
    obtain rfl : other = key := by simpa using List.find?_some first
    exact List.mem_of_find?_eq_some first
  · intro member
    rcases found : dict.entries.find? fun entry => entry.1 = key with _ | entry
    · have other := List.find?_eq_none.mp found (key, value) member
      simp at other
    · have own : entry.1 = key := by simpa using List.find?_some found
      have same := List.inj_on_of_nodup_map dict.distinct (List.mem_of_find?_eq_some found) member
        own
      rw [found, same]
      rfl

theorem get?_eq_none_iff {dict : Dict κ ν} {key : κ} :
    dict.get? key = none ↔ key ∉ dict.entries.map Prod.fst := by
  unfold get?
  simp only [Option.map_eq_none_iff, List.find?_eq_none, decide_eq_true_eq, List.mem_map,
    not_exists, not_and]

@[simp] theorem get?_set_self (dict : Dict κ ν) (key : κ) (value : ν) :
    (dict.set key value).get? key = some value := by
  rw [get?_eq_some_iff]
  unfold set
  dsimp only
  split
  · next present =>
      obtain ⟨entry, member, same⟩ := List.mem_map.mp present
      exact List.mem_map.mpr ⟨entry, member, if_pos same⟩
  · simp

theorem get?_set_of_ne (dict : Dict κ ν) {key other : κ} (value : ν) (apart : other ≠ key) :
    (dict.set key value).get? other = dict.get? other := by
  apply Option.ext
  intro found
  rw [get?_eq_some_iff, get?_eq_some_iff]
  unfold set
  dsimp only
  split
  · constructor
    · intro member
      obtain ⟨entry, member, same⟩ := List.mem_map.mp member
      have key' := revalue_fst key value entry
      rw [same] at key'
      unfold revalue at same
      rw [if_neg fun own => apart (key'.trans own)] at same
      exact same ▸ member
    · exact fun member => List.mem_map.mpr ⟨_, member, if_neg apart⟩
  · simp [apart]

theorem get?_set_eq_some_iff {dict : Dict κ ν} {key other : κ} {value found : ν} :
    (dict.set key value).get? other = some found ↔
      other = key ∧ value = found ∨ other ≠ key ∧ dict.get? other = some found := by
  by_cases own : other = key
  · subst own
    simp
  · rw [get?_set_of_ne dict value own]
    simp [own]

theorem get?_set_eq_none_iff {dict : Dict κ ν} {key other : κ} {value : ν} :
    (dict.set key value).get? other = none ↔ other ≠ key ∧ dict.get? other = none := by
  by_cases own : other = key
  · subst own
    simp
  · rw [get?_set_of_ne dict value own, and_iff_right own]

@[simp] theorem get?_pop_self (dict : Dict κ ν) (key : κ) : (dict.pop key).get? key = none := by
  rw [get?_eq_none_iff]
  unfold pop
  simp

theorem get?_pop_of_ne (dict : Dict κ ν) {key other : κ} (apart : other ≠ key) :
    (dict.pop key).get? other = dict.get? other := by
  apply Option.ext
  intro found
  rw [get?_eq_some_iff, get?_eq_some_iff]
  unfold pop
  simp [apart]

theorem mem_keys_iff {dict : Dict κ ν} {key : κ} : key ∈ dict.keys ↔ dict.get? key ≠ none :=
  (not_congr get?_eq_none_iff).trans not_not |>.symm

theorem mem_keys_of_get? {dict : Dict κ ν} {key : κ} {value : ν}
    (found : dict.get? key = some value) : key ∈ dict.keys :=
  mem_keys_iff.mpr (found ▸ nofun)

@[simp] theorem mem_keys_set {dict : Dict κ ν} {key other : κ} {value : ν} :
    other ∈ (dict.set key value).keys ↔ other = key ∨ other ∈ dict.keys := by
  rw [mem_keys_iff, mem_keys_iff]
  by_cases own : other = key
  · simp [own]
  · rw [get?_set_of_ne dict value own, or_iff_right own]

theorem keys_set_of_mem {dict : Dict κ ν} {key : κ} (value : ν) (present : key ∈ dict.keys) :
    (dict.set key value).keys = dict.keys := by
  unfold keys at present ⊢
  unfold set
  dsimp only
  rw [if_pos present, List.map_map]
  exact List.map_congr_left fun entry _ => revalue_fst key value entry

theorem keys_set_of_notMem {dict : Dict κ ν} {key : κ} (value : ν) (fresh : key ∉ dict.keys) :
    (dict.set key value).keys = dict.keys ++ [key] := by
  unfold keys at fresh ⊢
  unfold set
  dsimp only
  rw [if_neg fresh, List.map_append]
  rfl

theorem values_set_of_notMem {dict : Dict κ ν} {key : κ} (value : ν) (fresh : key ∉ dict.keys) :
    (dict.set key value).values = dict.values ++ [value] := by
  unfold keys at fresh
  unfold values set
  dsimp only
  rw [if_neg fresh, List.map_append]
  rfl

theorem entries_set_of_notMem {dict : Dict κ ν} {key : κ} (value : ν) (fresh : key ∉ dict.keys) :
    (dict.set key value).entries = dict.entries ++ [(key, value)] := if_neg fresh

@[simp] theorem mem_keys_pop {dict : Dict κ ν} {key other : κ} :
    other ∈ (dict.pop key).keys ↔ other ≠ key ∧ other ∈ dict.keys := by
  rw [mem_keys_iff, mem_keys_iff]
  by_cases own : other = key
  · simp [own]
  · rw [get?_pop_of_ne dict own, and_iff_right own]

theorem mem_keys_iff_exists {dict : Dict κ ν} {key : κ} :
    key ∈ dict.keys ↔ ∃ value, dict.get? key = some value := by
  rw [mem_keys_iff, Option.ne_none_iff_exists']

theorem get?_keep_eq_some_iff {dict : Dict κ ν} {meets : κ × ν → Bool} {key : κ} {value : ν} :
    (dict.keep meets).get? key = some value ↔
      dict.get? key = some value ∧ meets (key, value) = true := by
  simp [keep, get?_eq_some_iff]

theorem mem_keys_keep {dict : Dict κ ν} {meets : κ × ν → Bool} {key : κ} :
    key ∈ (dict.keep meets).keys ↔
      ∃ value, dict.get? key = some value ∧ meets (key, value) = true := by
  simp [keys, keep, get?_eq_some_iff]

theorem mem_keys_filterMap {μ : Type} {dict : Dict κ ν} {find : κ × ν → Option μ} {key : κ} :
    key ∈ (dict.filterMap find).keys ↔
      ∃ value, dict.get? key = some value ∧ (find (key, value)).isSome = true := by
  simp only [keys, filterMap, get?_eq_some_iff, List.mem_map, List.mem_filterMap,
    Option.map_eq_some_iff, Option.isSome_iff_exists]
  constructor
  · rintro ⟨_, ⟨⟨own, value⟩, member, found, same, rfl⟩, rfl⟩
    exact ⟨value, member, found, same⟩
  · rintro ⟨value, member, found, same⟩
    exact ⟨_, ⟨_, member, found, same, rfl⟩, rfl⟩

theorem get?_filterMap_eq_some_iff {μ : Type} {dict : Dict κ ν} {find : κ × ν → Option μ}
    {key : κ} {value : μ} :
    (dict.filterMap find).get? key = some value ↔
      ∃ old, dict.get? key = some old ∧ find (key, old) = some value := by
  simp only [filterMap, get?_eq_some_iff, List.mem_filterMap, Option.map_eq_some_iff,
    Prod.mk.injEq]
  constructor
  · rintro ⟨⟨_, old⟩, member, _, found, rfl, rfl⟩
    exact ⟨old, member, found⟩
  · rintro ⟨old, member, found⟩
    exact ⟨(key, old), member, value, found, rfl, rfl⟩

omit [DecidableEq κ] in
@[simp] theorem not_mem_keys_empty {key : κ} : key ∉ (empty : Dict κ ν).keys := nofun

/-- Two dictionaries that hold the same have as many entries. -/
theorem length_eq_of_get? {first second : Dict κ ν}
    (same : ∀ key value, first.get? key = some value ↔ second.get? key = some value) :
    first.entries.length = second.entries.length := by
  have members : ∀ entry, entry ∈ first.entries ↔ entry ∈ second.entries := by
    rintro ⟨key, value⟩
    rw [← get?_eq_some_iff, ← get?_eq_some_iff, same]
  exact ((List.perm_ext_iff_of_nodup (.of_map Prod.fst first.distinct)
    (.of_map Prod.fst second.distinct)).mpr members).length_eq

/-- The number of entries once a key is set: one, and those under other keys. -/
theorem length_set (dict : Dict κ ν) (key : κ) (value : ν) :
    (dict.set key value).entries.length =
      (dict.entries.filter fun entry => entry.1 ≠ key).length + 1 := by
  unfold set
  dsimp only
  split
  · next present =>
      rw [List.length_map]
      obtain ⟨entry, member, rfl⟩ := List.mem_map.mp present
      have counted := List.count_eq_one_of_mem dict.distinct (List.mem_map_of_mem member)
      rw [List.count, List.countP_map] at counted
      have one : (dict.entries.filter fun other => !decide (other.1 ≠ entry.1)).length = 1 := by
        rw [← List.countP_eq_length_filter, ← counted]
        apply List.countP_congr
        intro other _
        simp
      rw [List.length_eq_length_filter_add fun other => decide (other.1 ≠ entry.1), one]
  · next fresh =>
      rw [List.length_append, List.length_singleton, List.filter_eq_self.mpr]
      rintro ⟨other, _⟩ member
      apply decide_eq_true
      rintro rfl
      exact fresh (List.mem_map.mpr ⟨_, member, rfl⟩)

private theorem map_revalue_of_fresh {key : κ} (value : ν) {entries : List (κ × ν)}
    (fresh : key ∉ entries.map Prod.fst) : entries.map (revalue key value) = entries := by
  refine (List.map_congr_left fun entry member => ?_).trans (List.map_id entries)
  have other : entry.1 ≠ key := fun own => fresh (own ▸ List.mem_map_of_mem member)
  exact if_neg other

private theorem revalued_perm {key : κ} {old : ν} (value : ν) : ∀ {entries : List (κ × ν)},
    (entries.map Prod.fst).Nodup → (key, old) ∈ entries →
      ((entries.map (revalue key value)).map Prod.snd ++ [old]).Perm
        (entries.map Prod.snd ++ [value])
  | entry :: later, distinct, member => by
      have parts := List.nodup_cons.mp distinct
      by_cases own : entry.1 = key
      · have fresh : key ∉ later.map Prod.fst := own ▸ parts.1
        obtain rfl : (key, old) = entry := by
          rcases List.mem_cons.mp member with same | behind
          · exact same
          · exact absurd (List.mem_map_of_mem behind) fresh
        rw [List.map_cons, map_revalue_of_fresh value fresh]
        simp only [revalue, if_true, List.map_cons]
        apply List.perm_append_comm.trans
        exact (@List.perm_append_comm _ [value] _).cons old
      · rcases List.mem_cons.mp member with rfl | behind
        · exact absurd rfl own
        · simp only [List.map_cons, List.cons_append, revalue, own, if_false]
          exact (revalued_perm value parts.2 behind).cons _

/-- What setting a key does to the values: the new one comes in, an old one goes. -/
theorem values_set_perm (dict : Dict κ ν) (key : κ) (value : ν) :
    ((dict.set key value).values ++ (dict.get? key).toList).Perm (dict.values ++ [value]) := by
  unfold values set
  dsimp only
  rcases found : dict.get? key with _ | old
  · rw [if_neg (get?_eq_none_iff.mp found)]
    simp
  · have member := get?_eq_some_iff.mp found
    rw [if_pos (List.mem_map_of_mem member)]
    exact revalued_perm value dict.distinct member

end Dict

end Vcompany.Foundation
