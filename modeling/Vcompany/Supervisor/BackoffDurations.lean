import Vcompany.Supervisor.OutageDetection

/-! # How long the backoffs last

A supervisor that takes failures for an outage reads the duration of the backoff from its
detector. When the backoff expires, it escalates the duration and resets it at once, so every
backoff lasts as long as the first. `backs_off_exponentially_iff` says for which runs the
durations double up to the maximum.
-/

namespace Vcompany.Supervisor

open Foundation Resilience

/-- The default `backoff_seconds`. -/
def backoffSeconds : ℚ := 120

/-- The default `max_backoff`. -/
def maxBackoff : ℚ := 600

/-- The duration of each backoff is double that of the one before, up to the maximum. -/
def Exponential (durations : List ℚ) : Prop :=
  ∀ k duration, durations[k]? = some duration →
    duration = min (backoffSeconds * 2 ^ k) maxBackoff

namespace OutageWatch

variable (clock : ℕ → ℚ)

/-- The failure is reported as an outage. -/
def detectsOutage (watch : OutageWatch) : WatchEvent → Bool
  | .failed childId =>
      (detect (clock watch.reads) (clock (watch.reads + 1)) childId watch.bulkDetector).2
  | _ => false

/-- The duration that `_enter_global_backoff` reads once the failure is recorded. -/
def currentBackoff (watch : OutageWatch) : Option ℚ :=
  watch.bulkDetector.map BulkFailureDetector.currentBackoff

/-- The duration of the backoff that the event begins. -/
def backoffEntered (watch : OutageWatch) (event : WatchEvent) : Option ℚ :=
  if watch.detectsOutage clock event then (watch.perform clock event).currentBackoff else none

/-- The durations of the backoffs of a run, in order. -/
def backoffs : OutageWatch → List WatchEvent → List ℚ
  | _, [] => []
  | watch, event :: events =>
      (watch.backoffEntered clock event).toList ++ backoffs (watch.perform clock event) events

/-- How many outages are reported in a run. -/
def outages : OutageWatch → List WatchEvent → ℕ
  | _, [] => 0
  | watch, event :: events =>
      (watch.detectsOutage clock event).toNat + outages (watch.perform clock event) events

/-- Whatever detector there is has the duration that it started with. -/
def Initial (watch : OutageWatch) : Prop :=
  ∀ detector, watch.bulkDetector = some detector →
    detector.backoffSeconds = backoffSeconds ∧ detector.currentBackoff = backoffSeconds

variable {clock} {watch : OutageWatch}

theorem initial_init (childSpecs : List ChildSpec) : (init childSpecs).Initial := by
  intro detector present
  obtain rfl := eq_init_of_bulkDetector present
  exact ⟨rfl, rfl⟩

/-- A detection leaves the durations of the detector as they are. -/
theorem detect_durations {purgedAt recordedAt : ℚ} {childId : Text}
    {before : Option BulkFailureDetector} {after : BulkFailureDetector}
    (detected : (detect purgedAt recordedAt childId before).1 = some after) :
    ∃ detector, before = some detector ∧ after.backoffSeconds = detector.backoffSeconds ∧
      after.currentBackoff = detector.currentBackoff := by
  rcases before with _ | detector
  · cases detected
  · refine ⟨detector, rfl, ?_⟩
    unfold detect at detected
    dsimp only at detected
    split at detected
    · obtain rfl := Option.some.inj detected
      exact ⟨rfl, rfl⟩
    · obtain rfl := Option.some.inj detected
      unfold BulkFailureDetector.recordFailure
      dsimp only
      split
      · exact ⟨rfl, rfl⟩
      · exact ⟨rfl, rfl⟩

/-- **One event.** The duration that is escalated when a backoff expires is reset at once. -/
theorem Initial.perform (initial : watch.Initial) (event : WatchEvent) :
    (watch.perform clock event).Initial := by
  cases event with
  | added spec => exact initial
  | removed childId => exact initial
  | failed childId =>
      unfold OutageWatch.perform
      dsimp only
      split
      · exact initial
      · intro after detected
        obtain ⟨detector, present, seconds, current⟩ := detect_durations detected
        rw [seconds, current]
        exact initial detector present
  | backoffExpires =>
      intro after expired
      obtain ⟨detector, present, rfl⟩ := Option.map_eq_some_iff.mp expired
      exact ⟨(initial detector present).1, (initial detector present).1⟩

/-- An outage begins a backoff. -/
theorem backoffEntered_isSome {event : WatchEvent}
    (detected : watch.detectsOutage clock event = true) :
    (watch.backoffEntered clock event).isSome = true := by
  unfold backoffEntered
  rw [if_pos detected]
  cases event with
  | failed childId =>
      unfold detectsOutage at detected
      dsimp only at detected
      rcases present : watch.bulkDetector with _ | detector
      · rw [present] at detected
        cases detected
      · have awake : watch.inBackoff = false := by
          unfold inBackoff
          rw [present, Option.any_some, Bool.eq_false_iff]
          intro quiet
          rw [present, detect, if_pos quiet] at detected
          cases detected
        unfold currentBackoff OutageWatch.perform
        dsimp only
        rw [awake, if_neg Bool.false_ne_true, Option.isSome_map, present]
        unfold detect
        dsimp only
        split <;> rfl
  | added spec => cases detected
  | removed childId => cases detected
  | backoffExpires => cases detected

/-- A run has one backoff for each outage. -/
theorem length_backoffs (watch : OutageWatch) (events : List WatchEvent) :
    (watch.backoffs clock events).length = watch.outages clock events := by
  induction events generalizing watch with
  | nil => rfl
  | cons event events ih =>
      rw [backoffs, outages, List.length_append, ih, Nat.add_right_cancel_iff]
      rcases detected : watch.detectsOutage clock event with _ | _
      · unfold backoffEntered
        rw [detected]
        rfl
      · obtain ⟨duration, entered⟩ := Option.isSome_iff_exists.mp (backoffEntered_isSome detected)
        rw [entered]
        rfl

/-- Every backoff lasts as long as the first. -/
theorem Initial.eq_of_mem_backoffs (initial : watch.Initial) {events : List WatchEvent}
    {duration : ℚ} (member : duration ∈ watch.backoffs clock events) :
    duration = backoffSeconds := by
  induction events generalizing watch with
  | nil => cases member
  | cons event events ih =>
      rcases List.mem_append.mp member with now | later
      · rw [Option.mem_toList] at now
        unfold backoffEntered at now
        split at now
        · obtain ⟨detector, present, rfl⟩ := Option.map_eq_some_iff.mp now
          exact ((initial.perform event) detector present).2
        · cases now
      · exact ih (initial.perform event) later

/-- **The durations of the backoffs.** They double up to the maximum only in the runs with at
most one outage. -/
theorem backoffs_exponential_iff (clock : ℕ → ℚ) (childSpecs : List ChildSpec)
    (events : List WatchEvent) :
    Exponential ((init childSpecs).backoffs clock events) ↔
      (init childSpecs).outages clock events ≤ 1 := by
  have first : ∀ duration ∈ (init childSpecs).backoffs clock events, duration = backoffSeconds :=
    fun _ => (initial_init childSpecs).eq_of_mem_backoffs
  rw [← length_backoffs]
  constructor
  · intro exponential
    by_contra several
    rw [not_le] at several
    have doubled := exponential 1 _ (List.getElem?_eq_getElem several)
    rw [first _ (List.getElem_mem several)] at doubled
    exact absurd doubled (by decide +kernel)
  · intro few k duration lasts
    have inside := (List.getElem?_eq_some_iff.mp lasts).1
    obtain rfl : k = 0 := by omega
    rw [first duration (List.mem_of_getElem? lasts)]
    decide +kernel

private def twins : List ChildSpec := [{ childId := "a".toList }, { childId := "b".toList }]

/-- The second backoff is no longer than the first. -/
theorem second_backoff_not_doubled :
    ¬ ∀ (clock : ℕ → ℚ) (childSpecs : List ChildSpec) (events : List WatchEvent),
      Exponential ((init childSpecs).backoffs clock events) := by
  intro claim
  have doubled := claim (fun _ => 0) twins [.failed "a".toList, .failed "b".toList,
    .backoffExpires, .failed "a".toList] 1 120 (by decide +kernel)
  exact absurd doubled (by decide +kernel)

end OutageWatch

end Vcompany.Supervisor
