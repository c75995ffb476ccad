import Mathlib.Algebra.Order.Field.Rat
import Mathlib.Data.Finset.Card
import Mathlib.Algebra.Order.Field.Basic
import Mathlib.Data.List.Perm.Basic

/-! # Similarity of finite sets

The Jaccard similarity of two finite sets lies between zero and one, and a set that is not empty
is similar to itself to the degree of one. The best of a list of degrees does not depend on their
order, and never falls as degrees are added.
-/

namespace Vcompany.Foundation

section Jaccard

variable {α : Type*} [DecidableEq α] {first second : Finset α}

/-- How many of the elements of two sets are in both. -/
def jaccard (first second : Finset α) : ℚ :=
  (first ∩ second).card / (first ∪ second).card

theorem jaccard_nonneg : 0 ≤ jaccard first second :=
  div_nonneg (Nat.cast_nonneg _) (Nat.cast_nonneg _)

theorem jaccard_le_one : jaccard first second ≤ 1 := by
  refine div_le_one_of_le₀ ?_ (Nat.cast_nonneg _)
  exact Nat.cast_le.mpr (Finset.card_le_card Finset.inter_subset_union)

theorem jaccard_self (inhabited : first ≠ ∅) : jaccard first first = 1 := by
  unfold jaccard
  rw [Finset.inter_self, Finset.union_self]
  exact div_self (Nat.cast_ne_zero.mpr (Finset.card_ne_zero.mpr
    (Finset.nonempty_iff_ne_empty.mpr inhabited)))

end Jaccard

/-! ## The best of a list -/

/-- The greatest of the degrees, or zero. -/
def best (degrees : List ℚ) : ℚ := degrees.foldl max 0

variable {degrees : List ℚ} {degree bound : ℚ}

theorem best_concat : best (degrees ++ [degree]) = max (best degrees) degree := by
  unfold best
  rw [List.foldl_append]
  rfl

theorem best_nonneg : 0 ≤ best degrees := by
  induction degrees using List.reverseRecOn with
  | nil => exact le_rfl
  | append_singleton degrees degree ih =>
      rw [best_concat]
      exact le_max_of_le_left ih

theorem best_le (positive : 0 ≤ bound) (bounded : ∀ degree ∈ degrees, degree ≤ bound) :
    best degrees ≤ bound := by
  induction degrees using List.reverseRecOn with
  | nil => exact positive
  | append_singleton degrees degree ih =>
      rw [List.forall_mem_append, List.forall_mem_singleton] at bounded
      rw [best_concat]
      exact max_le (ih bounded.1) bounded.2

theorem le_best (member : degree ∈ degrees) : degree ≤ best degrees := by
  induction degrees using List.reverseRecOn with
  | nil => cases member
  | append_singleton degrees other ih =>
      rw [best_concat]
      rcases List.mem_append.mp member with earlier | last
      · exact le_max_of_le_left (ih earlier)
      · exact le_max_of_le_right (List.mem_singleton.mp last).le

/-- More degrees have no lower best. -/
theorem best_mono {more : List ℚ} (within : degrees ⊆ more) : best degrees ≤ best more :=
  best_le best_nonneg fun _ member => le_best (within member)

end Vcompany.Foundation
