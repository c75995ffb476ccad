import Vcompany.Foundation.Dict

/-! # Two dictionaries that are inverse to each other

A dictionary and its reverse stay inverse when a pair is put into both, if and only if neither
key had another partner, and when a pair is taken out of both.
-/

namespace Vcompany.Foundation.Dict

variable {κ ν : Type} [DecidableEq κ] [DecidableEq ν]

/-- Each of the dictionaries holds the pairs of the other, turned round. -/
def Inverse (forward : Dict κ ν) (backward : Dict ν κ) : Prop :=
  ∀ key value, forward.get? key = some value ↔ backward.get? value = some key

variable {forward : Dict κ ν} {backward : Dict ν κ} {key : κ} {value : ν}

/-- Neither the key nor the value belongs to another. -/
def Unclaimed (forward : Dict κ ν) (backward : Dict ν κ) (key : κ) (value : ν) : Prop :=
  (∀ held, forward.get? key = some held → held = value) ∧
    ∀ holder, backward.get? value = some holder → holder = key

theorem Inverse.set (inverse : Inverse forward backward)
    (unclaimed : Unclaimed forward backward key value) :
    Inverse (forward.set key value) (backward.set value key) := by
  intro key' value'
  by_cases ownKey : key' = key <;> by_cases ownValue : value' = value
  · subst ownKey ownValue
    simp
  · subst ownKey
    rw [get?_set_self, get?_set_of_ne _ _ ownValue]
    refine iff_of_false (fun same => ownValue (Option.some.inj same).symm) fun found => ?_
    exact ownValue (unclaimed.1 value' ((inverse key' value').mpr found))
  · subst ownValue
    rw [get?_set_self, get?_set_of_ne _ _ ownKey]
    refine iff_of_false (fun found => ?_) fun same => ownKey (Option.some.inj same).symm
    exact ownKey (unclaimed.2 key' ((inverse key' value').mp found))
  · rw [get?_set_of_ne _ _ ownKey, get?_set_of_ne _ _ ownValue]
    exact inverse key' value'

theorem inverse_set_iff (inverse : Inverse forward backward) :
    Inverse (forward.set key value) (backward.set value key) ↔
      Unclaimed forward backward key value := by
  refine ⟨fun after => ⟨fun held found => ?_, fun holder found => ?_⟩, inverse.set⟩
  · by_contra other
    have stale : (backward.set value key).get? held = some key :=
      (get?_set_of_ne _ _ other).trans ((inverse key held).mp found)
    have back := (after key held).mpr stale
    rw [get?_set_self] at back
    exact other (Option.some.inj back).symm
  · by_contra other
    have stale : (forward.set key value).get? holder = some value :=
      (get?_set_of_ne _ _ other).trans ((inverse holder value).mpr found)
    have back := (after holder value).mp stale
    rw [get?_set_self] at back
    exact other (Option.some.inj back).symm

theorem Inverse.pop (inverse : Inverse forward backward) (found : forward.get? key = some value) :
    Inverse (forward.pop key) (backward.pop value) := by
  intro key' value'
  by_cases ownKey : key' = key <;> by_cases ownValue : value' = value
  · subst ownKey ownValue
    simp
  · subst ownKey
    rw [get?_pop_self, get?_pop_of_ne _ ownValue]
    refine iff_of_false (Option.some_ne_none _).symm fun back => ownValue ?_
    exact Option.some.inj (((inverse key' value').mpr back).symm.trans found)
  · subst ownValue
    rw [get?_pop_self, get?_pop_of_ne _ ownKey]
    refine iff_of_false (fun there => ownKey ?_) (Option.some_ne_none _).symm
    exact Option.some.inj (((inverse key' value').mp there).symm.trans
      ((inverse key value').mp found))
  · rw [get?_pop_of_ne _ ownKey, get?_pop_of_ne _ ownValue]
    exact inverse key' value'

/-- A key that is taken out of one dictionary alone must not have been in it. -/
theorem inverse_pop_left_iff (inverse : Inverse forward backward) :
    Inverse (forward.pop key) backward ↔ forward.get? key = none := by
  constructor
  · intro after
    rcases found : forward.get? key with _ | value
    · rfl
    · have back := (after key value).mpr ((inverse key value).mp found)
      rw [get?_pop_self] at back
      cases back
  · intro absent key' value'
    by_cases own : key' = key
    · subst own
      rw [get?_pop_self, ← inverse key' value', absent]
    · rw [get?_pop_of_ne _ own]
      exact inverse key' value'

end Vcompany.Foundation.Dict
