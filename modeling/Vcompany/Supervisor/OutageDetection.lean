import Vcompany.Foundation.Transition
import Vcompany.Supervisor.FailureHandling
import Mathlib.Tactic.Linarith

/-! # Detection of outages over a run

A supervisor fixes the threshold of its detector when it is constructed, from the number of
its children at that time. Children join and leave later. `outage_detection_matches_iff` says
for which failures the detector reports an outage exactly when at least two children, and at
least half of them, have failed within the window.
-/

namespace Vcompany.Supervisor

open Foundation Resilience

/-- The default `correlation_window`. -/
def correlationWindow : ℚ := 30

/-- The default `threshold_ratio`. -/
def thresholdRatio : ℚ := 1 / 2

/-- A supervisor, as far as its detector goes, with the number of readings of the clock and the
time of each child's latest failure outside a backoff. -/
structure OutageWatch where
  childSpecs : List ChildSpec
  bulkDetector : Option BulkFailureDetector
  reads : ℕ
  latest : Dict Text ℚ

inductive WatchEvent where
  /-- `add_child_spec`, or the part of a delegation that puts the specification on the list. -/
  | added (spec : ChildSpec)
  /-- `remove_child`. -/
  | removed (childId : Text)
  | failed (childId : Text)
  /-- The timer of the backoff fires. -/
  | backoffExpires

namespace OutageWatch

/-- The detector of a new supervisor. -/
def init (childSpecs : List ChildSpec) : OutageWatch where
  childSpecs := childSpecs
  bulkDetector := if 2 ≤ childSpecs.length then some (.init childSpecs.length) else none
  reads := 0
  latest := .empty

/-- The part of `_handle_child_failure` that asks the detector: the detector, and whether it
reports an outage. -/
def detect (purgedAt recordedAt : ℚ) (childId : Text) (bulkDetector : Option BulkFailureDetector) :
    Option BulkFailureDetector × Bool :=
  match bulkDetector with
  | none => (none, false)
  | some detector =>
      if detector.inBackoff then (some detector, false)
      else
        match detector.recordFailure purgedAt recordedAt childId with
        | (recorded, outage) => (some recorded, outage)

/-- The supervisor is in a global backoff. -/
def inBackoff (watch : OutageWatch) : Bool :=
  watch.bulkDetector.any BulkFailureDetector.inBackoff

/-- Each failure reads the clock to purge and again to record. -/
def perform (clock : ℕ → ℚ) (watch : OutageWatch) : WatchEvent → OutageWatch
  | .added spec => { watch with childSpecs := watch.childSpecs ++ [spec] }
  | .removed childId =>
      { watch with childSpecs := watch.childSpecs.filter fun spec => spec.childId ≠ childId }
  | .failed childId =>
      if watch.inBackoff then watch
      else
        { watch with
          bulkDetector := (detect (clock watch.reads) (clock (watch.reads + 1)) childId
            watch.bulkDetector).1
          reads := watch.reads + 2
          latest := watch.latest.set childId (clock (watch.reads + 1)) }
  | .backoffExpires =>
      { watch with
        bulkDetector := watch.bulkDetector.map fun detector =>
          detector.escalateBackoff.resetBackoff }

/-- How many distinct children have their latest failure in the window, with this one. -/
def failing (clock : ℕ → ℚ) (watch : OutageWatch) (childId : Text) : ℕ :=
  ((watch.latest.set childId (clock (watch.reads + 1))).keep fun failure =>
    clock watch.reads - correlationWindow ≤ failure.2).entries.length

/-- An outage, by its definition. -/
structure Outage (clock : ℕ → ℚ) (watch : OutageWatch) (childId : Text) : Prop where
  several : 2 ≤ watch.failing clock childId
  fraction : watch.childSpecs.length * thresholdRatio ≤ watch.failing clock childId

/-- A failure outside a backoff is reported as an outage exactly when it is one. -/
def Matches (clock : ℕ → ℚ) (watch : OutageWatch) : WatchEvent → Prop
  | .failed childId =>
      watch.inBackoff = false →
        ((detect (clock watch.reads) (clock (watch.reads + 1)) childId
          watch.bulkDetector).2 = true ↔ watch.Outage clock childId)
  | _ => True

/-- The failing children are at least the rounded half of those at construction. Without a
detector, which takes two children at construction, they never are. -/
def reachesThreshold (clock : ℕ → ℚ) (watch : OutageWatch) (childId : Text) : Bool :=
  watch.bulkDetector.any fun detector => detector.childCount / 2 ≤ watch.failing clock childId

/-- The condition on the state before a failure: fewer than two children are failing, or they
reach the rounded half of those at construction exactly if they are half of those now. -/
def Calibrated (clock : ℕ → ℚ) (watch : OutageWatch) : WatchEvent → Prop
  | .failed childId =>
      watch.inBackoff = false → 2 ≤ watch.failing clock childId →
        (watch.reachesThreshold clock childId = true ↔
          watch.childSpecs.length ≤ 2 * watch.failing clock childId)
  | _ => True

instance (clock : ℕ → ℚ) (watch : OutageWatch) : ∀ event, Decidable (watch.Calibrated clock event)
  | .failed _ => inferInstanceAs (Decidable (_ = false → 2 ≤ _ → (_ ↔ _)))
  | .added _ => isTrue trivial
  | .removed _ => isTrue trivial
  | .backoffExpires => isTrue trivial

/-- The detector's threshold is that of its construction, and it holds the latest failures but
for those that lie before every window that the clock can still show. -/
structure Follows (clock : ℕ → ℚ) (watch : OutageWatch) (detector : BulkFailureDetector) :
    Prop where
  threshold : detector.threshold =
    BulkFailureDetector.thresholdOf detector.childCount thresholdRatio
  window : detector.correlationWindow = correlationWindow
  recorded : ∀ childId time, detector.recentFailures.get? childId = some time →
    watch.latest.get? childId = some time
  expired : ∀ childId time, watch.latest.get? childId = some time →
    detector.recentFailures.get? childId = some time ∨
      ∀ read ≥ watch.reads, time < clock read - correlationWindow

variable {clock : ℕ → ℚ} {watch : OutageWatch} {detector : BulkFailureDetector} {childId : Text}

/-- The supervisor's own handling of failures uses the detector in this way. -/
theorem handleChildFailure_bulkDetector (failure : FailureClock) (failedId : Text)
    (supervisor : SupervisorState) :
    (supervisor.handleChildFailure failure failedId).1.bulkDetector =
      (detect failure.purgedAt failure.failedAt failedId supervisor.bulkDetector).1 := by
  have kept : ∀ state : SupervisorState,
      (state.applyPolicy failure failedId).1.bulkDetector = state.bulkDetector := by
    intro state
    unfold SupervisorState.applyPolicy
    split
    · split
      · rfl
      · split
        · rfl
        · split <;> rfl
    · rfl
  unfold SupervisorState.handleChildFailure detect
  rcases present : supervisor.bulkDetector with _ | detector
  · exact (kept supervisor).trans present
  · by_cases quiet : detector.inBackoff = true
    · simp only [quiet, if_true]
      exact present
    · simp only [quiet]
      rcases detector.recordFailure failure.purgedAt failure.failedAt failedId with ⟨_, _ | _⟩
      · exact kept _
      · rfl

/-! ## The counts -/

/-- What the detector holds after a failure are the children that are failing. -/
theorem Follows.length_recorded (follows : watch.Follows clock detector)
    (childId : Text) (advanced : clock watch.reads - correlationWindow ≤ clock (watch.reads + 1)) :
    ((detector.purgeOld (clock watch.reads)).recentFailures.set childId
        (clock (watch.reads + 1))).entries.length = watch.failing clock childId := by
  apply Dict.length_eq_of_get?
  intro key time
  rw [Dict.get?_set_eq_some_iff, BulkFailureDetector.get?_purgeOld_iff,
    Dict.get?_keep_eq_some_iff, Dict.get?_set_eq_some_iff, follows.window, decide_eq_true_eq]
  constructor
  · rintro (⟨own, rfl⟩ | ⟨other, held, inside⟩)
    · exact ⟨.inl ⟨own, rfl⟩, advanced⟩
    · exact ⟨.inr ⟨other, follows.recorded key time held⟩, inside⟩
  · rintro ⟨⟨own, rfl⟩ | ⟨other, latest⟩, inside⟩
    · exact .inl ⟨own, rfl⟩
    · rcases follows.expired key time latest with held | gone
      · exact .inr ⟨other, held, inside⟩
      · exact absurd inside (not_le.mpr (gone _ le_rfl))

theorem thresholdOf_le_iff (count failing : ℕ) :
    BulkFailureDetector.thresholdOf count thresholdRatio ≤ (failing : ℤ) ↔
      2 ≤ failing ∧ count / 2 ≤ failing := by
  have half : ⌊(count : ℚ) * thresholdRatio⌋ = ((count / 2 : ℕ) : ℤ) := by
    have quotient : (count : ℚ) * thresholdRatio = (count : ℚ) / (2 : ℕ) := by
      rw [thresholdRatio, mul_one_div, Nat.cast_ofNat]
    rw [quotient, Rat.floor_natCast_div_natCast]
    rfl
  unfold BulkFailureDetector.thresholdOf
  rw [half, max_le_iff]
  omega

theorem outage_iff :
    watch.Outage clock childId ↔
      2 ≤ watch.failing clock childId ∧
        watch.childSpecs.length ≤ 2 * watch.failing clock childId := by
  have half : (watch.childSpecs.length * thresholdRatio ≤ (watch.failing clock childId : ℚ)) ↔
      watch.childSpecs.length ≤ 2 * watch.failing clock childId := by
    rw [thresholdRatio, ← @Nat.cast_le ℚ, Nat.cast_mul, Nat.cast_ofNat]
    constructor
    · intro fraction
      linarith
    · intro fraction
      linarith
  rw [← half]
  exact ⟨fun outage => ⟨outage.several, outage.fraction⟩, fun ⟨several, fraction⟩ =>
    ⟨several, fraction⟩⟩

/-- The detector reports an outage at the rounded half of the children at construction. -/
theorem Follows.reports_iff (follows : watch.Follows clock detector)
    (nondecreasing : Monotone clock) (childId : Text) :
    (detector.recordFailure (clock watch.reads) (clock (watch.reads + 1)) childId).2 = true ↔
      2 ≤ watch.failing clock childId ∧
        detector.childCount / 2 ≤ watch.failing clock childId := by
  have advanced : clock watch.reads - correlationWindow ≤ clock (watch.reads + 1) := by
    have later := nondecreasing (Nat.le_succ watch.reads)
    unfold correlationWindow
    linarith
  have count := follows.length_recorded childId advanced
  rw [← thresholdOf_le_iff, ← follows.threshold, ← count]
  unfold BulkFailureDetector.recordFailure
  dsimp only
  split
  · next outage => exact iff_of_true rfl outage
  · next quiet => exact iff_of_false Bool.false_ne_true quiet

/-! ## Runs -/

/-- The detector that a supervisor starts with. -/
theorem eq_init_of_bulkDetector {childSpecs : List ChildSpec} {detector : BulkFailureDetector}
    (present : (init childSpecs).bulkDetector = some detector) :
    detector = BulkFailureDetector.init childSpecs.length := by
  change (if 2 ≤ childSpecs.length then some (BulkFailureDetector.init childSpecs.length)
    else none) = some detector at present
  split at present
  · exact (Option.some.inj present).symm
  · cases present

/-- Whatever detector there is follows the failures. -/
def Followed (clock : ℕ → ℚ) (watch : OutageWatch) : Prop :=
  ∀ detector, watch.bulkDetector = some detector → watch.Follows clock detector

theorem followed_init (childSpecs : List ChildSpec) : (init childSpecs).Followed clock := by
  intro detector present
  obtain rfl := eq_init_of_bulkDetector present
  exact ⟨rfl, rfl, fun _ _ held => absurd held (by simp [BulkFailureDetector.init, Dict.empty,
    Dict.get?]), fun _ _ held => absurd held (by simp [init, Dict.empty, Dict.get?])⟩

/-- A recorded failure. -/
theorem Follows.recordFailure (follows : watch.Follows clock detector)
    (nondecreasing : Monotone clock) (childId : Text) :
    Follows clock
      { watch with
        bulkDetector := some (detector.recordFailure (clock watch.reads)
          (clock (watch.reads + 1)) childId).1
        reads := watch.reads + 2
        latest := watch.latest.set childId (clock (watch.reads + 1)) }
      (detector.recordFailure (clock watch.reads) (clock (watch.reads + 1)) childId).1 := by
  constructor
  · rw [BulkFailureDetector.recordFailure_threshold, BulkFailureDetector.recordFailure_childCount]
    exact follows.threshold
  · rw [BulkFailureDetector.recordFailure_correlationWindow]
    exact follows.window
  · intro key time held
    rw [BulkFailureDetector.recordFailure_recentFailures, Dict.get?_set_eq_some_iff,
      BulkFailureDetector.get?_purgeOld_iff] at held
    rw [Dict.get?_set_eq_some_iff]
    rcases held with own | ⟨other, held, _⟩
    · exact .inl own
    · exact .inr ⟨other, follows.recorded key time held⟩
  · intro key time latest
    rw [Dict.get?_set_eq_some_iff] at latest
    rw [BulkFailureDetector.recordFailure_recentFailures, Dict.get?_set_eq_some_iff,
      BulkFailureDetector.get?_purgeOld_iff, follows.window]
    rcases latest with own | ⟨other, latest⟩
    · exact .inl (.inl own)
    · rcases follows.expired key time latest with held | gone
      · by_cases inside : clock watch.reads - correlationWindow ≤ time
        · exact .inl (.inr ⟨other, held, inside⟩)
        · right
          intro read later
          have onward := nondecreasing ((Nat.le_add_right watch.reads 2).trans later)
          rw [not_le] at inside
          linarith
      · exact .inr fun read later => gone read ((Nat.le_add_right watch.reads 2).trans later)

theorem Followed.perform (followed : watch.Followed clock) (nondecreasing : Monotone clock)
    (event : WatchEvent) : (watch.perform clock event).Followed clock := by
  cases event with
  | added spec =>
      intro detector present
      exact ⟨(followed detector present).threshold, (followed detector present).window,
        (followed detector present).recorded, (followed detector present).expired⟩
  | removed childId =>
      intro detector present
      exact ⟨(followed detector present).threshold, (followed detector present).window,
        (followed detector present).recorded, (followed detector present).expired⟩
  | failed childId =>
      unfold OutageWatch.perform
      dsimp only
      by_cases quiet : watch.inBackoff = true
      · rw [if_pos quiet]
        exact followed
      · rw [if_neg quiet]
        rcases present : watch.bulkDetector with _ | detector
        · exact fun _ none => absurd none (Option.some_ne_none _).symm
        · have active : detector.inBackoff = false := by
            unfold inBackoff at quiet
            rw [present] at quiet
            exact Bool.eq_false_iff.mpr quiet
          intro next recorded
          unfold detect at recorded
          dsimp only at recorded
          rw [active, if_neg Bool.false_ne_true] at recorded
          obtain rfl := Option.some.inj recorded
          have follows := (followed detector present).recordFailure nondecreasing childId
          exact ⟨follows.threshold, follows.window, follows.recorded, follows.expired⟩
  | backoffExpires =>
      intro detector present
      obtain ⟨before, own, rfl⟩ := Option.map_eq_some_iff.mp present
      exact ⟨(followed before own).threshold, (followed before own).window,
        (followed before own).recorded, (followed before own).expired⟩

/-- **One failure.** Its report matches the definition exactly under the condition. -/
theorem Followed.matches_iff (followed : watch.Followed clock) (nondecreasing : Monotone clock)
    (event : WatchEvent) : watch.Matches clock event ↔ watch.Calibrated clock event := by
  cases event with
  | failed childId =>
      unfold Matches Calibrated
      dsimp only
      refine forall_congr' fun awake => ?_
      rw [outage_iff]
      unfold reachesThreshold
      rcases present : watch.bulkDetector with _ | detector
      · have silent : (detect (clock watch.reads) (clock (watch.reads + 1)) childId none).2 =
            false := rfl
        rw [silent, Option.any_none]
        simp only [Bool.false_eq_true, false_iff, not_and]
      · have active : detector.inBackoff = false := by
          unfold inBackoff at awake
          rw [present] at awake
          exact awake
        have reports := (followed detector present).reports_iff nondecreasing childId
        unfold detect
        dsimp only
        rw [active, if_neg Bool.false_ne_true]
        dsimp only
        rw [reports, and_congr_right_iff, Option.any_some, decide_eq_true_eq]
  | added spec => exact Iff.rfl
  | removed childId => exact Iff.rfl
  | backoffExpires => exact Iff.rfl

/-- **Detection of outages.** In a run of failures of children that join and leave, every failure
outside a backoff is reported as an outage exactly when it is one, if and only if every failure
meets the condition. -/
theorem outage_detection_matches_iff (nondecreasing : Monotone clock)
    (childSpecs : List ChildSpec) (events : List WatchEvent) :
    EachMeets (OutageWatch.perform clock) (Matches clock) (init childSpecs) events ↔
      EachMeets (OutageWatch.perform clock) (Calibrated clock) (init childSpecs) events :=
  @EachMeets.congr_within _ _ _ (Followed clock) _ _
    (fun _ event followed => Followed.perform followed nondecreasing event)
    (fun _ event followed => followed.matches_iff nondecreasing event)
    _ (followed_init childSpecs) events

/-- While the children are those of the construction, the detector is wrong only where the
rounded half of an odd number of them has failed. -/
theorem calibrated_iff_of_unchanged (present : watch.bulkDetector = some detector)
    (unchanged : detector.childCount = watch.childSpecs.length) (awake : watch.inBackoff = false) :
    watch.Calibrated clock (.failed childId) ↔
      2 ≤ watch.failing clock childId →
        watch.childSpecs.length ≠ 2 * watch.failing clock childId + 1 := by
  unfold Calibrated reachesThreshold
  dsimp only
  rw [present, forall_prop_of_true awake, Option.any_some, decide_eq_true_eq, unchanged]
  refine forall_congr' fun several => ?_
  omega

private def named (names : List String) : List ChildSpec :=
  names.map fun name => { childId := name.toList }

/-- Two of four children fail at one time: an outage, and reported as one. -/
theorem half_of_four_reported :
    EachMeets (OutageWatch.perform fun _ => 0) (Matches fun _ => 0)
      (init (named ["a", "b", "c", "d"])) [.failed "a".toList, .failed "b".toList] := by
  exact (outage_detection_matches_iff monotone_const (named ["a", "b", "c", "d"])
    [.failed "a".toList, .failed "b".toList]).mpr (by decide +kernel)

/-- Two of five children fail at one time, fewer than half of them: an outage is reported. -/
theorem two_of_five_reported :
    ¬ ∀ (clock : ℕ → ℚ) (childSpecs : List ChildSpec) (events : List WatchEvent), Monotone clock →
      EachMeets (OutageWatch.perform clock) (Matches clock) (init childSpecs) events := by
  intro claim
  obtain ⟨_, exact, _⟩ := claim (fun _ => 0) (named ["a", "b", "c", "d", "e"])
    [.failed "a".toList, .failed "b".toList] monotone_const
  have outage := (exact (by decide +kernel)).mp (by decide +kernel)
  have two : failing (fun _ => 0) ((init (named ["a", "b", "c", "d", "e"])).perform (fun _ => 0)
      (.failed "a".toList)) "b".toList = 2 := by decide +kernel
  have half := (outage_iff.mp outage).2
  rw [two] at half
  exact absurd half (by decide)

end OutageWatch

end Vcompany.Supervisor
