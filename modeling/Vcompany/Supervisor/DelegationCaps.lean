import Vcompany.Supervisor.DelegationRequests

/-! # The caps of delegation

The caps are checked before the start of the child and the delegation is recorded after
it. `withinCaps_step_iff` gives the condition under which a step keeps the caps, and
`live_within_caps` carries it to runs of overlapping requests.
-/

namespace Vcompany.Supervisor

open Foundation Autonomy

variable {py : PyRuntime} {policy : DelegationPolicy} {world next : DelegationWorld}
  {event : DelegationEvent}

/-- The condition on the state before an event: a request is given a fresh id, and when the
start of a child returns, the caps that were checked before it still leave room. -/
def StillAdmitted (py : PyRuntime) (world : DelegationWorld) (event : DelegationEvent) : Prop :=
  Fresh py world event ∧
    match event with
    | .started start now =>
        (world.supervisor.tracker.active start.requesterId).card <
            world.supervisor.tracker.policy.maxConcurrentDelegations ∧
          world.supervisor.tracker.recent now <
            world.supervisor.tracker.policy.maxDelegationsPerHour
    | _ => True

theorem Tracked.history_past (tracked : Tracked policy world) {now : ℚ}
    (later : world.clock ≤ now) : ∀ time ∈ world.supervisor.tracker.history, time ≤ now := by
  intro time member
  rw [tracked.recorded] at member
  obtain ⟨grant, granted, rfl⟩ := List.mem_map.mp member
  exact (tracked.past grant granted).trans later

/-- **One step and the caps.** The tracker stays within the caps exactly under the
condition on the state before the step. -/
theorem withinCaps_step_iff (tracked : Tracked policy world)
    (caps : world.supervisor.tracker.WithinCaps) (fresh : Fresh py world event)
    (stepped : world.Step py event next) :
    next.supervisor.tracker.WithinCaps ↔ StillAdmitted py world event := by
  obtain ⟨rfl, enabled⟩ := stepped
  unfold StillAdmitted
  rw [and_iff_right fresh]
  cases event with
  | request request hex now =>
      refine iff_of_true ?_ trivial
      change (world.supervisor.requestDelegation py now request hex).1.tracker.WithinCaps
      rcases requestDelegation_cases world.supervisor request hex now with same | ⟨_, waits⟩
      · rw [same]
        exact caps
      · rw [waits]
        exact caps
  | started start now =>
      exact DelegationTracker.withinCaps_recordDelegation_iff caps
        (tracked.history_past enabled.2) (tracked.starting_inactive enabled.1 start.requesterId)
  | startFailed start => exact iff_of_true caps trivial
  | report childId state =>
      refine iff_of_true ?_ trivial
      change (world.supervisor.stateChanged childId state).tracker.WithinCaps
      rcases stateChanged_cases world.supervisor childId state with
        ⟨requesterId, _, _, released⟩ | ⟨_, same⟩
      · rw [released]
        exact caps.recordCompletion requesterId childId
      · rw [same]
        exact caps

theorem Tracked.live_le (tracked : Tracked policy world) (requesterId : Text) :
    (world.live requesterId).length ≤ (world.supervisor.tracker.active requesterId).card := by
  have distinct : ((world.live requesterId).map Grant.agentId).Nodup :=
    (List.Nodup.of_append_right tracked.distinct).sublist (List.filter_sublist.map _)
  have counted := List.toFinset_card_of_nodup distinct
  rw [List.length_map] at counted
  rw [← counted]
  apply Finset.card_le_card
  intro agentId member
  obtain ⟨grant, isLive, rfl⟩ := List.mem_map.mp (List.mem_toFinset.mp member)
  obtain ⟨granted, running⟩ := List.mem_filter.mp isLive
  obtain ⟨own, running⟩ := of_decide_eq_true running
  exact own ▸ tracked.kept grant granted running

theorem Tracked.grantedWithin_eq (tracked : Tracked policy world) (start : ℚ) :
    world.grantedWithin start = world.supervisor.tracker.within start := by
  unfold DelegationWorld.grantedWithin DelegationTracker.within
  rw [tracked.recorded, List.countP_map]
  rfl

/-- **The caps under concurrency.** In a run of overlapping requests and reports in which
the caps leave room whenever a start returns, no requester ever has more live delegated
children than the policy allows, and no hour holds more approved requests. -/
theorem live_within_caps {clock : ℚ} {events : List DelegationEvent}
    (concurrent : 0 ≤ policy.maxConcurrentDelegations)
    (hourly : 0 ≤ policy.maxDelegationsPerHour)
    (run : Run (Guarded (DelegationWorld.Step py) (StillAdmitted py)) (.init policy clock)
      events world) :
    (∀ requesterId, (world.live requesterId).length ≤ policy.maxConcurrentDelegations) ∧
      ∀ start, world.grantedWithin start ≤ policy.maxDelegationsPerHour := by
  have kept : Tracked policy world ∧ world.supervisor.tracker.WithinCaps := by
    refine run.invariant
      (fun world => Tracked policy world ∧ world.supervisor.tracker.WithinCaps) ?_
      ⟨tracked_init policy clock, DelegationTracker.withinCaps_init concurrent hourly⟩
    rintro before event after ⟨tracked, caps⟩ ⟨admitted, stepped⟩
    exact ⟨tracked.step admitted.1 stepped,
      (withinCaps_step_iff tracked caps admitted.1 stepped).mpr admitted⟩
  obtain ⟨tracked, caps⟩ := kept
  constructor
  · intro requesterId
    have bound := caps.concurrent requesterId
    rw [tracked.policy_eq] at bound
    have fewer := tracked.live_le requesterId
    omega
  · intro start
    rw [tracked.grantedWithin_eq, ← tracked.policy_eq]
    exact caps.hourly start

/-- Requests one after the other stay within a cap of one. -/
theorem sequential_within_caps :
    (∀ requesterId, ((worldAfter onePolicy sequentialEvents).live requesterId).length ≤ (1 : ℤ)) ∧
      ∀ start, (worldAfter onePolicy sequentialEvents).grantedWithin start ≤ (10 : ℤ) := by
  refine @live_within_caps typeRuntime onePolicy _ 0 sequentialEvents (by decide) (by decide)
    (.cons ⟨⟨fun _ => ?_, trivial⟩, rfl, ?_⟩ (.cons ⟨⟨trivial, ?_⟩, rfl, ?_⟩
      (.cons ⟨⟨trivial, trivial⟩, rfl, trivial⟩ (.cons ⟨⟨fun _ => ?_, trivial⟩, rfl, ?_⟩
        (.cons ⟨⟨trivial, ?_⟩, rfl, ?_⟩ (.nil _))))))
  all_goals decide +kernel

/-- Two requests that wait for their starts at the same time are both approved under a cap
of one. -/
theorem overlapping_over_cap :
    ¬ ∀ (py : PyRuntime) (policy : DelegationPolicy) clock events (world : DelegationWorld),
      0 ≤ policy.maxConcurrentDelegations → 0 ≤ policy.maxDelegationsPerHour →
      Run (Guarded (DelegationWorld.Step py) (Fresh py)) (.init policy clock) events world →
      (∀ requesterId, (world.live requesterId).length ≤ policy.maxConcurrentDelegations) ∧
        ∀ start, world.grantedWithin start ≤ policy.maxDelegationsPerHour := by
  intro capped
  have run : Run (Guarded (DelegationWorld.Step typeRuntime) (Fresh typeRuntime))
      (.init onePolicy 0)
      [.request pmRequest "1f00aa" 1, .request pmRequest "93c4e1" 1, .started firstStart 2,
        .started secondStart 2]
      (worldAfter onePolicy
        [.request pmRequest "1f00aa" 1, .request pmRequest "93c4e1" 1, .started firstStart 2,
          .started secondStart 2]) := by
    refine .cons ⟨fun _ => ?_, rfl, ?_⟩ (.cons ⟨fun _ => ?_, rfl, ?_⟩
      (.cons ⟨trivial, rfl, ?_⟩ (.cons ⟨trivial, rfl, ?_⟩ (.nil _))))
    all_goals decide +kernel
  exact absurd ((capped _ _ _ _ _ (by decide) (by decide) run).1 "pm") (by decide +kernel)

end Vcompany.Supervisor
