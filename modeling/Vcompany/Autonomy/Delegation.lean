import Vcompany.Foundation.PyValue
import Vcompany.Foundation.Transition
import Mathlib.Data.Finset.Card
import Mathlib.Data.Rat.Defs
import Mathlib.Algebra.Order.Ring.Rat
import Mathlib.Tactic.Linarith

/-! # Delegation budgets

A `DelegationPolicy` caps the active delegations of each requester and the delegations of
an hour. The tracker keeps the active delegations by requester, and the times of all
delegations in one list.

`canDelegate_eq_iff` compares the answers after two histories that are the same for the
requester: the concurrent cap is the requester's own, the hourly one is shared.
-/

namespace Vcompany.Autonomy

open Foundation

structure DelegationPolicy where
  maxConcurrentDelegations : ℤ := 3
  maxDelegationsPerHour : ℤ := 10
  allowedAgentTypes : List Text := [("gsd" : Text)]
  deriving DecidableEq

/-- The set of a requester without an entry is empty. Times are in seconds. -/
structure DelegationTracker where
  policy : DelegationPolicy
  active : Text → Finset Text
  history : List ℚ

namespace DelegationTracker

/-- `DelegationTracker(policy)`. -/
def init (policy : DelegationPolicy) : DelegationTracker where
  policy := policy
  active _ := ∅
  history := []

/-- How many delegations the sliding hour before `now` holds. -/
def recent (tracker : DelegationTracker) (now : ℚ) : ℕ :=
  (tracker.history.filter fun time => now - 3600 < time).length

def typeReason (py : PyRuntime) (policy : DelegationPolicy) (agentType : Text) : Text :=
  ("Agent type '" : Text) ++ agentType ++ ("' not in allowed types: " : Text) ++
    py.format (.list (policy.allowedAgentTypes.map .str))

def concurrentReason (policy : DelegationPolicy) (requesterId : Text) : Text :=
  ("Concurrent delegation limit reached (" : Text) ++
    (toString policy.maxConcurrentDelegations).toList ++ (") for requester " : Text) ++ requesterId

def hourlyReason (policy : DelegationPolicy) : Text :=
  ("Hourly rate limit reached (" : Text) ++
    (toString policy.maxDelegationsPerHour).toList ++ ("/hour)" : Text)

/-- `can_delegate`, when the clock shows `now`. -/
def canDelegate (py : PyRuntime) (now : ℚ) (requesterId agentType : Text)
    (tracker : DelegationTracker) : Bool × Text :=
  if agentType ∉ tracker.policy.allowedAgentTypes then
    (false, typeReason py tracker.policy agentType)
  else if tracker.policy.maxConcurrentDelegations ≤ (tracker.active requesterId).card then
    (false, concurrentReason tracker.policy requesterId)
  else if tracker.policy.maxDelegationsPerHour ≤ tracker.recent now then
    (false, hourlyReason tracker.policy)
  else (true, [])

/-- `record_delegation`, when the clock shows `now`. -/
def recordDelegation (now : ℚ) (requesterId agentId : Text) (tracker : DelegationTracker) :
    DelegationTracker where
  policy := tracker.policy
  active := Function.update tracker.active requesterId (insert agentId (tracker.active requesterId))
  history := tracker.history ++ [now]

/-- `record_completion`. -/
def recordCompletion (requesterId agentId : Text) (tracker : DelegationTracker) :
    DelegationTracker where
  policy := tracker.policy
  active := Function.update tracker.active requesterId ((tracker.active requesterId).erase agentId)
  history := tracker.history

/-- A delegation is allowed below both caps. -/
theorem canDelegate_iff {py : PyRuntime} {now : ℚ} {requesterId agentType : Text}
    {tracker : DelegationTracker} :
    (tracker.canDelegate py now requesterId agentType).1 = true ↔
      agentType ∈ tracker.policy.allowedAgentTypes ∧
        (tracker.active requesterId).card < tracker.policy.maxConcurrentDelegations ∧
        tracker.recent now < tracker.policy.maxDelegationsPerHour := by
  unfold canDelegate
  split
  · next other => simp [other]
  · next allowed =>
      rw [not_not] at allowed
      split
      · next full => simp [allowed, full]
      · next free =>
          split
          · next full => simp [full]
          · next under => simpa [allowed] using ⟨not_le.mp free, not_le.mp under⟩

end DelegationTracker

/-! ## The caps -/

namespace DelegationTracker

/-- How many delegations a window of one hour holds. -/
def within (tracker : DelegationTracker) (start : ℚ) : ℕ :=
  tracker.history.countP fun time => start < time ∧ time ≤ start + 3600

/-- No requester has more active delegations than the policy allows, and no hour holds
more. -/
structure WithinCaps (tracker : DelegationTracker) : Prop where
  concurrent : ∀ requesterId,
    (tracker.active requesterId).card ≤ tracker.policy.maxConcurrentDelegations
  hourly : ∀ start, tracker.within start ≤ tracker.policy.maxDelegationsPerHour

variable {tracker : DelegationTracker} {now : ℚ} {requesterId agentId : Text}

theorem withinCaps_init {policy : DelegationPolicy}
    (concurrent : 0 ≤ policy.maxConcurrentDelegations)
    (hourly : 0 ≤ policy.maxDelegationsPerHour) : (init policy).WithinCaps :=
  ⟨fun _ => concurrent, fun _ => hourly⟩

theorem within_recordDelegation (start : ℚ) :
    (tracker.recordDelegation now requesterId agentId).within start =
      tracker.within start + if start < now ∧ now ≤ start + 3600 then 1 else 0 := by
  unfold within recordDelegation
  rw [List.countP_append, List.countP_singleton]
  simp

/-- The sliding hour that ends now. -/
theorem within_now (past : ∀ time ∈ tracker.history, time ≤ now) :
    tracker.within (now - 3600) = tracker.recent now := by
  unfold within recent
  rw [List.countP_eq_length_filter]
  congr 1
  apply List.filter_congr
  intro time member
  have before : time ≤ now := past time member
  simp [before]

/-- A window that holds this moment holds nothing that the sliding hour does not. -/
theorem within_le_recent {start : ℚ} (inside : now ≤ start + 3600) :
    tracker.within start ≤ tracker.recent now := by
  unfold within recent
  rw [← List.countP_eq_length_filter]
  apply List.countP_mono_left
  intro time _ counted
  have later : start < time := (of_decide_eq_true counted).1
  have hour : now - 3600 ≤ start := by simpa using sub_le_sub_right inside 3600
  exact decide_eq_true (hour.trans_lt later)

/-- Recording a delegation keeps the caps exactly if the check would pass at that
moment. -/
theorem withinCaps_recordDelegation_iff (caps : tracker.WithinCaps)
    (past : ∀ time ∈ tracker.history, time ≤ now)
    (fresh : agentId ∉ tracker.active requesterId) :
    (tracker.recordDelegation now requesterId agentId).WithinCaps ↔
      (tracker.active requesterId).card < tracker.policy.maxConcurrentDelegations ∧
        tracker.recent now < tracker.policy.maxDelegationsPerHour := by
  have grown : (insert agentId (tracker.active requesterId)).card =
      (tracker.active requesterId).card + 1 := Finset.card_insert_of_notMem fresh
  constructor
  · rintro ⟨concurrent, hourly⟩
    have own := concurrent requesterId
    have hour := hourly (now - 3600)
    rw [within_recordDelegation, if_pos ⟨by linarith, by linarith⟩, within_now past] at hour
    simp only [recordDelegation, Function.update_self, grown] at own
    exact ⟨by omega, by push_cast at hour; exact hour⟩
  · rintro ⟨free, under⟩
    constructor
    · intro requester
      by_cases own : requester = requesterId
      · rw [own]
        simp only [recordDelegation, Function.update_self, grown]
        omega
      · simpa [recordDelegation, own] using caps.concurrent requester
    · intro start
      rw [within_recordDelegation]
      split
      · next inside =>
          have bound := @within_le_recent tracker now start inside.2
          change _ ≤ tracker.policy.maxDelegationsPerHour
          omega
      · exact caps.hourly start

theorem WithinCaps.recordCompletion (caps : tracker.WithinCaps) (requesterId agentId : Text) :
    (tracker.recordCompletion requesterId agentId).WithinCaps := by
  refine ⟨fun requester => ?_, caps.hourly⟩
  by_cases own : requester = requesterId
  · have fewer : ((tracker.active requester).erase agentId).card ≤
        (tracker.active requester).card := Finset.card_erase_le
    have before := caps.concurrent requester
    subst own
    simp only [DelegationTracker.recordCompletion, Function.update_self]
    omega
  · simpa [DelegationTracker.recordCompletion, own] using caps.concurrent requester

end DelegationTracker

/-! ## Histories of calls -/

/-- A call that is recorded, with its time. -/
inductive TrackerEvent where
  | delegation (time : ℚ) (requesterId agentId : Text)
  | completion (time : ℚ) (requesterId agentId : Text)
  deriving DecidableEq

namespace TrackerEvent

def time : TrackerEvent → ℚ
  | delegation time _ _ => time
  | completion time _ _ => time

/-- The event is of the requester. -/
def concerns (requesterId : Text) : TrackerEvent → Bool
  | delegation _ requester _ => requester = requesterId
  | completion _ requester _ => requester = requesterId

/-- The event is a delegation, by anyone, in the hour before `now`. -/
def isRecent (now : ℚ) : TrackerEvent → Bool
  | delegation time _ _ => now - 3600 < time
  | completion _ _ _ => false

def record (tracker : DelegationTracker) : TrackerEvent → DelegationTracker
  | delegation time requesterId agentId => tracker.recordDelegation time requesterId agentId
  | completion _ requesterId agentId => tracker.recordCompletion requesterId agentId

end TrackerEvent

/-- The tracker after a history of calls. -/
def trackerAfter (policy : DelegationPolicy) (events : List TrackerEvent) : DelegationTracker :=
  events.foldl TrackerEvent.record (.init policy)

/-- The agents that the requester has delegated to and that have not completed. -/
def outstanding (requesterId : Text) (events : List TrackerEvent) : Finset Text :=
  events.foldl
    (fun agents event =>
      match event with
      | .delegation _ requester agentId =>
          if requester = requesterId then insert agentId agents else agents
      | .completion _ requester agentId =>
          if requester = requesterId then agents.erase agentId else agents)
    ∅

variable {policy : DelegationPolicy} {requesterId : Text}

theorem trackerAfter_policy (events : List TrackerEvent) :
    (trackerAfter policy events).policy = policy := by
  unfold trackerAfter
  induction events using List.reverseRecOn with
  | nil => rfl
  | append_singleton events event ih =>
      rw [List.foldl_concat]
      cases event <;> exact ih

theorem trackerAfter_active (events : List TrackerEvent) :
    (trackerAfter policy events).active requesterId = outstanding requesterId events := by
  unfold trackerAfter outstanding
  induction events using List.reverseRecOn with
  | nil => rfl
  | append_singleton events event ih =>
      rw [List.foldl_concat, List.foldl_concat, ← ih]
      cases event with
      | delegation time requester agentId =>
          by_cases own : requester = requesterId
          · subst own
            simp [TrackerEvent.record, DelegationTracker.recordDelegation]
          · simp [TrackerEvent.record, DelegationTracker.recordDelegation, own, Ne.symm own]
      | completion time requester agentId =>
          by_cases own : requester = requesterId
          · subst own
            simp [TrackerEvent.record, DelegationTracker.recordCompletion]
          · simp [TrackerEvent.record, DelegationTracker.recordCompletion, own, Ne.symm own]

theorem trackerAfter_recent (events : List TrackerEvent) (now : ℚ) :
    (trackerAfter policy events).recent now = events.countP (TrackerEvent.isRecent now) := by
  unfold trackerAfter
  induction events using List.reverseRecOn with
  | nil => rfl
  | append_singleton events event ih =>
      rw [List.foldl_concat, List.countP_append, ← ih]
      cases event with
      | delegation time requester agentId =>
          unfold DelegationTracker.recent
          by_cases inside : now - 3600 < time <;>
            simp [TrackerEvent.record, DelegationTracker.recordDelegation, TrackerEvent.isRecent,
              inside]
      | completion time requester agentId =>
          simp [TrackerEvent.record, DelegationTracker.recordCompletion, TrackerEvent.isRecent,
            DelegationTracker.recent]

/-- What a requester has outstanding depends on its own events. -/
theorem outstanding_own (events : List TrackerEvent) :
    outstanding requesterId events =
      outstanding requesterId (events.filter (TrackerEvent.concerns requesterId)) := by
  refine @foldl_purge _ _ _ _ id _ ?_ ?_ events _ _ rfl
  · rintro agents (⟨time, requester, agentId⟩ | ⟨time, requester, agentId⟩) other
    · exact if_neg (of_decide_eq_false other)
    · exact if_neg (of_decide_eq_false other)
  · rintro agents other event _ rfl
    rfl

/-! ## Answers after two histories -/

/-- The clock does not go back, and shows `now` after the events. -/
def Chronological (events : List TrackerEvent) (now : ℚ) : Prop :=
  (events.map TrackerEvent.time ++ [now]).Pairwise (· ≤ ·)

instance (events : List TrackerEvent) (now : ℚ) : Decidable (Chronological events now) :=
  inferInstanceAs (Decidable (List.Pairwise _ _))

variable {py : PyRuntime}

theorem DelegationTracker.canDelegate_congr {first second : DelegationTracker} {now : ℚ}
    (agentType : Text) (samePolicy : first.policy = second.policy)
    (sameActive : first.active requesterId = second.active requesterId) :
    first.canDelegate py now requesterId agentType =
        second.canDelegate py now requesterId agentType ↔
      agentType ∉ first.policy.allowedAgentTypes ∨
        first.policy.maxConcurrentDelegations ≤ (first.active requesterId).card ∨
        (first.policy.maxDelegationsPerHour ≤ first.recent now ↔
          first.policy.maxDelegationsPerHour ≤ second.recent now) := by
  unfold canDelegate
  rw [← samePolicy, ← sameActive]
  by_cases other : agentType ∉ first.policy.allowedAgentTypes
  · simp [other]
  rw [if_neg other, if_neg other, or_iff_right other]
  by_cases full : first.policy.maxConcurrentDelegations ≤ (first.active requesterId).card
  · simp [full]
  rw [if_neg full, if_neg full, or_iff_right full]
  by_cases busy : first.policy.maxDelegationsPerHour ≤ first.recent now <;>
    by_cases busy' : first.policy.maxDelegationsPerHour ≤ second.recent now <;>
      simp [busy, busy']

/-- **Budgets.** After two histories with the same events of a requester, the requester is
given the same answer exactly where the agent type is not allowed, the requester's own
cap is reached, or the hourly rate, which everyone's delegations count for, is reached in
both or in neither. -/
theorem canDelegate_eq_iff (first second : List TrackerEvent)
    (own : first.filter (TrackerEvent.concerns requesterId) =
      second.filter (TrackerEvent.concerns requesterId)) (now : ℚ) (agentType : Text) :
    (trackerAfter policy first).canDelegate py now requesterId agentType =
        (trackerAfter policy second).canDelegate py now requesterId agentType ↔
      agentType ∉ policy.allowedAgentTypes ∨
        policy.maxConcurrentDelegations ≤ (outstanding requesterId first).card ∨
        (policy.maxDelegationsPerHour ≤ first.countP (TrackerEvent.isRecent now) ↔
          policy.maxDelegationsPerHour ≤ second.countP (TrackerEvent.isRecent now)) := by
  have sameActive : (trackerAfter policy first).active requesterId =
      (trackerAfter policy second).active requesterId := by
    rw [trackerAfter_active, trackerAfter_active, outstanding_own first, own, ← outstanding_own]
  rw [DelegationTracker.canDelegate_congr agentType
    ((trackerAfter_policy first).trans (trackerAfter_policy second).symm) sameActive,
    trackerAfter_policy, trackerAfter_active, trackerAfter_recent, trackerAfter_recent]

/-- A runtime that shows a list of one agent type. -/
def typeRuntime : PyRuntime where
  casing := .plain
  safeLoad _ := .error .yamlError
  loads _ := .error .jsonDecodeError
  dumps _ := []
  repr _ := "['gsd']"

def pmDelegation : TrackerEvent := .delegation 0 "pm" "delegated-pm-1f00aa"

def strategistDelegation : TrackerEvent := .delegation 30 "strategist" "delegated-strategist-22b0c4"

/-- With a budget of ten an hour, one delegation of another agent changes nothing. -/
theorem canDelegate_within_budget :
    (trackerAfter {} [pmDelegation]).canDelegate typeRuntime 60 ("pm" : Text) ("gsd" : Text) =
      (trackerAfter {} [pmDelegation, strategistDelegation]).canDelegate typeRuntime 60
        ("pm" : Text) ("gsd" : Text) :=
  (canDelegate_eq_iff [pmDelegation] [pmDelegation, strategistDelegation] rfl 60 _).mpr
    (.inr (.inr (by decide +kernel)))

/-- With a budget of one an hour, a delegation of another agent uses it up. -/
theorem budget_used_by_another :
    ¬ ∀ (py : PyRuntime) (policy : DelegationPolicy) (requesterId : Text)
        (first second : List TrackerEvent) (now : ℚ) (agentType : Text),
      Chronological first now → Chronological second now →
      first.filter (TrackerEvent.concerns requesterId) =
        second.filter (TrackerEvent.concerns requesterId) →
      (trackerAfter policy first).canDelegate py now requesterId agentType =
        (trackerAfter policy second).canDelegate py now requesterId agentType := by
  intro same
  have answers := same typeRuntime { maxDelegationsPerHour := 1 } "pm" [] [strategistDelegation] 60
    "gsd" (by decide) (by decide) (by decide)
  exact absurd (congrArg Prod.fst answers) (by decide +kernel)

end Vcompany.Autonomy
