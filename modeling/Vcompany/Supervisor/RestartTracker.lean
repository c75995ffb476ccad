import Mathlib.Algebra.Order.Ring.Rat

/-! # Restart intensity

The tracker keeps the times of the restarts in its sliding window, oldest first, and
allows a restart while there are fewer than the limit. Times are in seconds.
-/

namespace Vcompany.Supervisor

structure RestartTracker where
  maxRestarts : ℤ := 3
  windowSeconds : ℚ := 600
  timestamps : List ℚ := []

namespace RestartTracker

/-- `_purge`, when the clock shows `now`. -/
def purge (now : ℚ) (tracker : RestartTracker) : RestartTracker :=
  { tracker with
    timestamps := tracker.timestamps.dropWhile fun time => time < now - tracker.windowSeconds }

/-- `allow_restart`; the clock is read to purge and again to record. -/
def allowRestart (purgedAt recordedAt : ℚ) (tracker : RestartTracker) : RestartTracker × Bool :=
  let purged := tracker.purge purgedAt
  if purged.maxRestarts ≤ purged.timestamps.length then (purged, false)
  else ({ purged with timestamps := purged.timestamps ++ [recordedAt] }, true)

/-- `reset`. -/
def reset (tracker : RestartTracker) : RestartTracker := { tracker with timestamps := [] }

end RestartTracker

end Vcompany.Supervisor
