import Vcompany.Foundation.SlidingWindow
import Vcompany.Supervisor.RestartTracker
import Mathlib.Tactic.Linarith

/-! # Restart intensity over a run

A tracker is asked for restarts and reset in any order, and reads a clock that does not go
back. `restart_intensity_exact` bounds the restarts that it allows in every window, and
says when it denies one.
-/

namespace Vcompany.Supervisor

open Foundation

inductive RestartCall where
  | allowRestart
  | reset

/-- A tracker in use: the number of its readings of the clock, and the times of the restarts
that it has allowed since the last reset. -/
structure RestartHistory where
  tracker : RestartTracker
  reads : ℕ
  grants : List ℚ

namespace RestartHistory

/-- A new tracker. -/
def init (maxRestarts : ℤ) (windowSeconds : ℚ) : RestartHistory where
  tracker := { maxRestarts, windowSeconds }
  reads := 0
  grants := []

/-- Whether `allow_restart` allows a restart now. -/
def allows (clock : ℕ → ℚ) (history : RestartHistory) : Bool :=
  (history.tracker.allowRestart (clock history.reads) (clock (history.reads + 1))).2

/-- A call, with what the clock shows at each reading. -/
def perform (clock : ℕ → ℚ) (history : RestartHistory) : RestartCall → RestartHistory
  | .allowRestart =>
      match history.tracker.allowRestart (clock history.reads) (clock (history.reads + 1)) with
      | (tracker, true) =>
          { tracker
            reads := history.reads + 2
            grants := history.grants ++ [clock (history.reads + 1)] }
      | (tracker, false) => { history with tracker, reads := history.reads + 1 }
  | .reset => { history with tracker := history.tracker.reset, grants := [] }

/-- The tracker holds the latest of the restarts that it allowed: the others lie before every
window that the clock can still show, and no window holds more than the limit. -/
structure Tracked (clock : ℕ → ℚ) (maxRestarts : ℤ) (windowSeconds : ℚ)
    (history : RestartHistory) : Prop where
  limit : history.tracker.maxRestarts = maxRestarts
  window : history.tracker.windowSeconds = windowSeconds
  ordered : history.grants.Pairwise (· ≤ ·)
  past : ∀ read ≥ history.reads, ∀ time ∈ history.grants, time ≤ clock read
  latest : ∃ expired, history.grants = expired ++ history.tracker.timestamps ∧
    ∀ read ≥ history.reads, ∀ time ∈ expired, time < clock read - windowSeconds
  bounded : ∀ start, countWithin start (start + windowSeconds) history.grants ≤ maxRestarts.toNat

variable {clock : ℕ → ℚ} {maxRestarts : ℤ} {windowSeconds : ℚ} {history : RestartHistory}

theorem tracked_init :
    (init maxRestarts windowSeconds).Tracked clock maxRestarts windowSeconds where
  limit := rfl
  window := rfl
  ordered := .nil
  past _ _ := by simp [init]
  latest := ⟨[], rfl, by simp⟩
  bounded _ := Nat.zero_le _

theorem Tracked.reset (tracked : history.Tracked clock maxRestarts windowSeconds) :
    (history.perform clock .reset).Tracked clock maxRestarts windowSeconds where
  limit := tracked.limit
  window := tracked.window
  ordered := .nil
  past _ _ := by simp [perform]
  latest := ⟨[], rfl, by simp⟩
  bounded _ := Nat.zero_le _

/-- What the purge keeps, and what it leaves of the restarts before. -/
theorem Tracked.purge (tracked : history.Tracked clock maxRestarts windowSeconds)
    (nondecreasing : Monotone clock) :
    ∃ expired, history.grants =
        expired ++ (history.tracker.purge (clock history.reads)).timestamps ∧
      ∀ read ≥ history.reads, ∀ time ∈ expired, time < clock read - windowSeconds := by
  obtain ⟨expired, split, gone⟩ := tracked.latest
  refine ⟨expired ++ history.tracker.timestamps.takeWhile
    fun time => time < clock history.reads - history.tracker.windowSeconds, ?_, ?_⟩
  · rw [List.append_assoc, split]
    exact congrArg _ (List.takeWhile_append_dropWhile).symm
  · intro read later time member
    rcases List.mem_append.mp member with early | early
    · exact gone read later time early
    · have before := lt_of_mem_takeWhile time early
      rw [tracked.window] at before
      exact before.trans_le (sub_le_sub_right (nondecreasing later) _)

/-- The purged tracker holds the restarts of the window that ends now. -/
theorem Tracked.mem_purge (tracked : history.Tracked clock maxRestarts windowSeconds) :
    ∀ time ∈ (history.tracker.purge (clock history.reads)).timestamps,
      clock history.reads - windowSeconds ≤ time ∧ time ≤ clock history.reads := by
  intro time member
  obtain ⟨expired, split, _⟩ := tracked.latest
  have ordered : history.tracker.timestamps.Pairwise (· ≤ ·) :=
    (List.pairwise_append.mp (split ▸ tracked.ordered)).2.1
  have held : time ∈ history.tracker.timestamps :=
    (List.dropWhile_sublist _).subset member
  constructor
  · rw [← tracked.window]
    exact le_of_mem_dropWhile ordered time member
  · apply tracked.past _ le_rfl
    rw [split]
    exact List.mem_append_right expired held

/-- A restart is denied only when the window that ends now is full. -/
theorem Tracked.denied (tracked : history.Tracked clock maxRestarts windowSeconds)
    (nondecreasing : Monotone clock) (denied : history.allows clock = false) :
    maxRestarts ≤ countWithin (clock history.reads - windowSeconds) (clock history.reads)
      history.grants := by
  obtain ⟨expired, split, _⟩ := tracked.purge nondecreasing
  have full : maxRestarts ≤ (history.tracker.purge (clock history.reads)).timestamps.length := by
    unfold allows RestartTracker.allowRestart at denied
    dsimp only at denied
    split at denied
    · next reached => exact tracked.limit ▸ reached
    · cases denied
  rw [split, countWithin_append, countWithin_eq_length tracked.mem_purge]
  push_cast
  omega

theorem Tracked.allowRestart (tracked : history.Tracked clock maxRestarts windowSeconds)
    (nondecreasing : Monotone clock) :
    (history.perform clock .allowRestart).Tracked clock maxRestarts windowSeconds := by
  obtain ⟨expired, split, gone⟩ := tracked.purge nondecreasing
  unfold perform RestartTracker.allowRestart
  by_cases reached : (history.tracker.purge (clock history.reads)).maxRestarts ≤
      (history.tracker.purge (clock history.reads)).timestamps.length
  · simp only [reached, if_true]
    exact {
      limit := tracked.limit
      window := tracked.window
      ordered := tracked.ordered
      past := fun read later => tracked.past read ((Nat.le_succ _).trans later)
      latest := ⟨expired, split, fun read later => gone read ((Nat.le_succ _).trans later)⟩
      bounded := tracked.bounded }
  · simp only [reached, if_false]
    have room : (history.tracker.purge (clock history.reads)).timestamps.length <
        maxRestarts.toNat := by
      have limit : (history.tracker.purge (clock history.reads)).maxRestarts = maxRestarts :=
        tracked.limit
      omega
    have now : ∀ read ≥ history.reads + 2, clock (history.reads + 1) ≤ clock read :=
      fun read later => nondecreasing ((Nat.le_succ _).trans later)
    exact {
      limit := tracked.limit
      window := tracked.window
      ordered := by
        rw [List.pairwise_append]
        refine ⟨tracked.ordered, List.pairwise_singleton _ _, ?_⟩
        intro time member other new
        rw [List.mem_singleton.mp new]
        exact tracked.past _ (Nat.le_succ _) time member
      past := by
        intro read later time member
        rcases List.mem_append.mp member with early | new
        · exact tracked.past read ((Nat.le_add_right _ 2).trans later) time early
        · rw [List.mem_singleton.mp new]
          exact now read later
      latest := by
        refine ⟨expired, ?_, fun read later => gone read ((Nat.le_add_right _ 2).trans later)⟩
        rw [split, List.append_assoc]
      bounded := by
        intro start
        rw [split]
        apply countWithin_concat_le (split ▸ tracked.bounded start) room
        -- the window holds the new time, so it starts after the cutoff of the purge
        intro _ ends time member
        have before := gone _ le_rfl time member
        have advanced := nondecreasing (Nat.le_succ history.reads)
        linarith }

theorem Tracked.perform (tracked : history.Tracked clock maxRestarts windowSeconds)
    (nondecreasing : Monotone clock) (call : RestartCall) :
    (history.perform clock call).Tracked clock maxRestarts windowSeconds := by
  cases call with
  | allowRestart => exact tracked.allowRestart nondecreasing
  | reset => exact tracked.reset

theorem tracked_run (nondecreasing : Monotone clock) (calls : List RestartCall)
    (tracked : history.Tracked clock maxRestarts windowSeconds) :
    (calls.foldl (RestartHistory.perform clock) history).Tracked clock maxRestarts
      windowSeconds := by
  induction calls generalizing history with
  | nil => exact tracked
  | cons call calls ih => exact ih (tracked.perform nondecreasing call)

/-- **Restart intensity is exact.** After any calls, no closed window of the tracker's length
holds more restarts than the limit, of those allowed since the last reset; and a restart is
denied only when the window that ends at the time of the call holds as many as the limit. -/
theorem restart_intensity_exact (nondecreasing : Monotone clock) (maxRestarts : ℤ)
    (windowSeconds : ℚ) (calls : List RestartCall) :
    let history := calls.foldl (RestartHistory.perform clock) (init maxRestarts windowSeconds)
    (∀ start, (countWithin start (start + windowSeconds) history.grants : ℤ) ≤
        max maxRestarts 0) ∧
      (history.allows clock = false →
        maxRestarts ≤ countWithin (clock history.reads - windowSeconds) (clock history.reads)
          history.grants) := by
  intro history
  have tracked : history.Tracked clock maxRestarts windowSeconds :=
    tracked_run nondecreasing calls tracked_init
  refine ⟨fun start => ?_, tracked.denied nondecreasing⟩
  have bounded := tracked.bounded start
  omega

/-- A third restart within two seconds is denied when two are allowed in ten. -/
theorem third_restart_denied :
    let history := [.allowRestart, .allowRestart].foldl (RestartHistory.perform fun read => read)
      (init 2 10)
    history.allows (fun read => read) = false ∧
      (2 : ℤ) ≤ countWithin (history.reads - 10 : ℚ) history.reads history.grants := by
  have denied : ([.allowRestart, .allowRestart].foldl (RestartHistory.perform fun read => read)
      (init 2 10)).allows (fun read => read) = false := by decide +kernel
  exact ⟨denied, (restart_intensity_exact Nat.mono_cast 2 10
    [.allowRestart, .allowRestart]).2 denied⟩

end RestartHistory

end Vcompany.Supervisor
