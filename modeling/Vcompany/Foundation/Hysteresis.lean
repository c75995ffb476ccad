import Mathlib.Data.List.DropRight
import Mathlib.Data.List.Infix
import Mathlib.Data.Nat.Notation

/-! # Filters with hysteresis

A filter of two states rises after so many failures in a row, and falls after so many successes
in a row. It is up exactly if a run of failures has occurred and no run of successes has
occurred since (`Hysteresis.raised_iff`); that run of failures can be chosen to have begun and
gone on while the filter was down.
-/

namespace Vcompany.Foundation

variable {results before after : List Bool} {value result : Bool} {count : ℕ}

/-- How many results at the end are the value. -/
def streak (value : Bool) (results : List Bool) : ℕ :=
  (results.rtakeWhile fun result => result = value).length

@[simp] theorem streak_nil : streak value [] = 0 := rfl

theorem streak_concat :
    streak value (results ++ [result]) =
      if result = value then streak value results + 1 else 0 := by
  unfold streak
  rw [List.rtakeWhile_concat]
  by_cases same : result = value
  · rw [if_pos (decide_eq_true same), if_pos same, List.length_append]
    rfl
  · rw [if_neg (by simpa using same), if_neg same]
    rfl

/-- A run at the end, one result later. -/
theorem replicate_suffix_concat_iff :
    List.replicate (count + 1) value <:+ results ++ [result] ↔
      result = value ∧ List.replicate count value <:+ results := by
  rw [List.replicate_succ']
  constructor
  · rintro ⟨earlier, whole⟩
    rw [← List.append_assoc] at whole
    obtain ⟨same, last⟩ := List.append_inj' whole rfl
    exact ⟨(List.singleton_inj.mp last).symm, ⟨earlier, same⟩⟩
  · rintro ⟨rfl, earlier, rfl⟩
    exact ⟨earlier, (List.append_assoc _ _ _).symm⟩

theorem le_streak_iff : count ≤ streak value results ↔ List.replicate count value <:+ results := by
  induction results using List.reverseRecOn generalizing count with
  | nil =>
      rw [streak_nil, Nat.le_zero, List.suffix_nil, List.replicate_eq_nil_iff]
  | append_singleton results result ih =>
      cases count with
      | zero => exact iff_of_true (Nat.zero_le _) List.nil_suffix
      | succ count =>
          rw [streak_concat, replicate_suffix_concat_iff, ← ih]
          split
          · next same => rw [and_iff_right same, Nat.add_le_add_iff_right]
          · next other => exact iff_of_false (Nat.not_succ_le_zero count) fun run => other run.1

/-- A filter, given by its state after the results: it rises with a run of failures at the end,
and falls with a run of successes. -/
structure Hysteresis (failures recoveries : ℕ) (raised : List Bool → Bool) : Prop where
  start : raised [] = false
  rises : ∀ results result, raised results = false →
    (raised (results ++ [result]) = true ↔
      List.replicate failures false <:+ results ++ [result])
  falls : ∀ results result, raised results = true →
    (raised (results ++ [result]) = false ↔
      List.replicate recoveries true <:+ results ++ [result])

namespace Hysteresis

variable {failures recoveries : ℕ} {raised : List Bool → Bool}

/-- A failure never lets the filter fall. -/
theorem stays_raised (filter : Hysteresis failures recoveries raised) (recovers : 0 < recoveries)
    (up : raised results = true) : raised (results ++ [false]) = true := by
  by_contra down
  rw [Bool.not_eq_true, filter.falls results false up] at down
  obtain ⟨count, rfl⟩ := Nat.exists_eq_succ_of_ne_zero recovers.ne'
  exact Bool.false_ne_true (replicate_suffix_concat_iff.mp down).1

theorem stays_raised_replicate (filter : Hysteresis failures recoveries raised)
    (recovers : 0 < recoveries) (up : raised results = true) (count : ℕ) :
    raised (results ++ List.replicate count false) = true := by
  induction count with
  | zero => rwa [List.replicate_zero, List.append_nil]
  | succ count ih =>
      rw [List.replicate_succ', ← List.append_assoc]
      exact filter.stays_raised recovers ih

/-- After a run of failures the filter is up. -/
theorem raised_of_failures (filter : Hysteresis failures recoveries raised) (fails : 0 < failures)
    (recovers : 0 < recoveries) (before : List Bool) :
    raised (before ++ List.replicate failures false) = true := by
  obtain ⟨count, rfl⟩ := Nat.exists_eq_succ_of_ne_zero fails.ne'
  rw [List.replicate_succ', ← List.append_assoc]
  rcases up : raised (before ++ List.replicate count false) with _ | _
  · rw [filter.rises _ _ up, List.append_assoc, ← List.replicate_succ']
    exact List.suffix_append _ _
  · exact filter.stays_raised recovers up

/-- The filter stays up until a run of successes occurs. -/
theorem raised_append (filter : Hysteresis failures recoveries raised)
    (up : raised (before ++ [false]) = true)
    (none : ¬ List.replicate recoveries true <:+: after) :
    raised (before ++ [false] ++ after) = true := by
  induction after using List.reverseRecOn with
  | nil => rwa [List.append_nil]
  | append_singleton after result ih =>
      have still := ih fun run => none (run.trans (List.prefix_append after [result]).isInfix)
      rw [← List.append_assoc]
      by_contra down
      rw [Bool.not_eq_true, filter.falls _ _ still, List.append_assoc] at down
      rcases List.suffix_or_suffix_of_suffix down (List.suffix_append _ _) with short | long
      · exact none short.isInfix
      · -- a longer run would hold the failure
        obtain ⟨more, same⟩ := long
        obtain ⟨rest, whole⟩ := down
        rw [← same, ← List.append_assoc, List.append_left_inj] at whole
        rcases List.eq_nil_or_concat more with rfl | ⟨earlier, last, rfl⟩
        · rw [List.nil_append] at same
          exact none (same ▸ List.infix_rfl)
        · rw [List.concat_eq_append] at same whole
          rw [← List.append_assoc] at whole
          obtain rfl := List.singleton_inj.mp (List.append_inj' whole rfl).2
          have held : false ∈ List.replicate recoveries true := by
            rw [← same]
            exact List.mem_append_left _ (List.mem_append_right _ List.mem_cons_self)
          exact Bool.false_ne_true (List.eq_of_mem_replicate held)

/-- **The state of the filter.** -/
theorem raised_iff (filter : Hysteresis failures recoveries raised) (fails : 0 < failures)
    (recovers : 0 < recoveries) (results : List Bool) :
    raised results = true ↔ ∃ before after,
      results = before ++ List.replicate failures false ++ after ∧
        (∀ count < failures, raised (before ++ List.replicate count false) = false) ∧
        ¬ List.replicate recoveries true <:+: after := by
  constructor
  · intro up
    induction results using List.reverseRecOn with
    | nil => exact absurd (filter.start.symm.trans up) Bool.false_ne_true
    | append_singleton results result ih =>
        rcases was : raised results with _ | _
        · obtain ⟨before, whole⟩ := (filter.rises results result was).mp up
          refine ⟨before, [], by rw [whole, List.append_nil], fun count fewer => ?_, ?_⟩
          · by_contra early
            rw [Bool.not_eq_false] at early
            obtain ⟨more, rfl⟩ := Nat.exists_eq_add_of_lt fewer
            have still := filter.stays_raised_replicate recovers early more
            rw [List.append_assoc, ← List.replicate_add] at still
            rw [List.replicate_succ', ← List.append_assoc] at whole
            rw [(List.append_inj' whole rfl).1, was] at still
            cases still
          · rw [List.infix_nil, List.replicate_eq_nil_iff]
            exact recovers.ne'
        · obtain ⟨before, after, rfl, normal, none⟩ := ih was
          refine ⟨before, after ++ [result], List.append_assoc _ _ _, normal, fun run => ?_⟩
          rcases List.infix_concat_iff.mp run with atEnd | inside
          · have down := (filter.falls _ result was).mpr
              (by rw [List.append_assoc]; exact atEnd.trans (List.suffix_append _ _))
            rw [up] at down
            cases down
          · exact none inside
  · rintro ⟨before, after, rfl, -, none⟩
    obtain ⟨count, rfl⟩ := Nat.exists_eq_succ_of_ne_zero fails.ne'
    have up := filter.raised_of_failures fails recovers before
    rw [List.replicate_succ', ← List.append_assoc] at up ⊢
    exact filter.raised_append up none

end Hysteresis

end Vcompany.Foundation
