import Mathlib.Data.List.TakeWhile
import Mathlib.Order.Lattice

/-! # Sliding windows

How many times of a list lie in a closed window. A limiter that keeps the times after a
cutoff, and adds a time while it keeps fewer than its limit, never exceeds the limit in a
window whose earliest time the cutoff does not pass (`countWithin_concat_le`).
-/

namespace Vcompany.Foundation

variable {α : Type*} [LinearOrder α]

/-- The number of the times that lie in the closed window. -/
def countWithin (first last : α) (times : List α) : ℕ :=
  times.countP fun time => first ≤ time ∧ time ≤ last

variable {first last cutoff : α} {times expired kept : List α}

@[simp]
theorem countWithin_nil : countWithin first last ([] : List α) = 0 := rfl

@[simp]
theorem countWithin_append :
    countWithin first last (expired ++ kept) =
      countWithin first last expired + countWithin first last kept :=
  List.countP_append

theorem countWithin_le_length : countWithin first last times ≤ times.length :=
  List.countP_le_length

theorem countWithin_eq_length (inside : ∀ time ∈ times, first ≤ time ∧ time ≤ last) :
    countWithin first last times = times.length :=
  List.countP_eq_length.mpr fun time member => decide_eq_true (inside time member)

theorem countWithin_eq_zero (before : ∀ time ∈ times, time < first) :
    countWithin first last times = 0 :=
  List.countP_eq_zero.mpr fun time member within =>
    not_le_of_gt (before time member) (of_decide_eq_true within).1

theorem lt_of_mem_takeWhile :
    ∀ time ∈ times.takeWhile fun time => decide (time < cutoff), time < cutoff := by
  intro time member
  simpa using List.mem_takeWhile_imp member

/-- What is kept of times in order lies at the cutoff or after it. -/
theorem le_of_mem_dropWhile (ordered : times.Pairwise (· ≤ ·)) :
    ∀ time ∈ times.dropWhile fun time => decide (time < cutoff), cutoff ≤ time := by
  induction times with
  | nil => simp
  | cons earliest later ih =>
      rw [List.pairwise_cons] at ordered
      by_cases gone : earliest < cutoff
      · rw [List.dropWhile_cons_of_pos (by simpa using gone)]
        exact ih ordered.2
      · rw [List.dropWhile_cons_of_neg (by simpa using gone)]
        intro time member
        rcases List.mem_cons.mp member with rfl | after
        · exact not_lt.mp gone
        · exact (not_lt.mp gone).trans (ordered.1 time after)

/-- One more time: if the kept times leave room below the limit, and no expired time lies in
a window that the new one lies in, then the windows stay within the limit. -/
theorem countWithin_concat_le {limit : ℕ} {time : α}
    (bounded : countWithin first last (expired ++ kept) ≤ limit) (room : kept.length < limit)
    (gone : first ≤ time → time ≤ last → ∀ earlier ∈ expired, earlier < first) :
    countWithin first last (expired ++ kept ++ [time]) ≤ limit := by
  rw [countWithin_append]
  by_cases inside : first ≤ time ∧ time ≤ last
  · have none : countWithin first last expired = 0 :=
      countWithin_eq_zero (gone inside.1 inside.2)
    have few : countWithin first last kept ≤ kept.length := countWithin_le_length
    have one : countWithin first last [time] ≤ 1 := countWithin_le_length
    rw [countWithin_append, none]
    omega
  · have outside : countWithin first last [time] = 0 :=
      List.countP_eq_zero.mpr fun other member within =>
        inside (List.mem_singleton.mp member ▸ of_decide_eq_true within)
    rw [outside]
    exact bounded

end Vcompany.Foundation
