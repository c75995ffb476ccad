import Vcompany.Supervisor.DelegationRequests

/-! # The release of delegated capacity

The state callback releases a delegation when its child stops or is destroyed, provided
that it is recorded by then. `releasedExactly_step_iff` gives the condition under which
the active delegations stay those of the children that have not ended, and
`active_of_prompt` carries it to runs.
-/

namespace Vcompany.Supervisor

open Foundation Autonomy

variable {py : PyRuntime} {policy : DelegationPolicy} {world next : DelegationWorld}
  {event : DelegationEvent}

/-- The child has stopped, was destroyed, or has errored. -/
def DelegationWorld.Ended (world : DelegationWorld) (agentId : Text) : Prop :=
  agentId ∈ world.terminated ∨ agentId ∈ world.errored

instance (world : DelegationWorld) (agentId : Text) : Decidable (world.Ended agentId) :=
  inferInstanceAs (Decidable (_ ∨ _))

/-- The delegated children of the requester that have not ended. -/
def DelegationWorld.unended (world : DelegationWorld) (requesterId : Text) : Finset Text :=
  ((world.granted.filter fun grant =>
    grant.requesterId = requesterId ∧ ¬ world.Ended grant.agentId).map Grant.agentId).toFinset

/-- The active delegations of each requester are its children that have not ended. -/
def ReleasedExactly (world : DelegationWorld) : Prop :=
  ∀ requesterId, world.supervisor.tracker.active requesterId = world.unended requesterId

/-- The condition on the state before an event: a request is given a fresh id; a child has
not ended by the time its start returns; and a delegated child that has not ended does not
error. -/
def Prompt (py : PyRuntime) (world : DelegationWorld) (event : DelegationEvent) : Prop :=
  Fresh py world event ∧
    match event with
    | .started start _ => ¬ world.Ended start.agentId
    | .report childId .errored =>
        ∀ grant ∈ world.granted, grant.agentId = childId → world.Ended childId
    | _ => True

theorem mem_unended {requesterId agentId : Text} :
    agentId ∈ world.unended requesterId ↔
      (∃ grant ∈ world.granted, grant.agentId = agentId ∧ grant.requesterId = requesterId) ∧
        ¬ world.Ended agentId := by
  unfold DelegationWorld.unended
  rw [List.mem_toFinset, List.mem_map]
  constructor
  · rintro ⟨grant, member, rfl⟩
    obtain ⟨granted, kept⟩ := List.mem_filter.mp member
    obtain ⟨own, unended⟩ := of_decide_eq_true kept
    exact ⟨⟨grant, granted, rfl, own⟩, unended⟩
  · rintro ⟨⟨grant, granted, rfl, own⟩, unended⟩
    exact ⟨grant, List.mem_filter.mpr ⟨granted, decide_eq_true ⟨own, unended⟩⟩, rfl⟩

theorem releasedExactly_iff : ReleasedExactly world ↔ ∀ requesterId agentId,
    agentId ∈ world.supervisor.tracker.active requesterId ↔
      (∃ grant ∈ world.granted, grant.agentId = agentId ∧ grant.requesterId = requesterId) ∧
        ¬ world.Ended agentId := by
  unfold ReleasedExactly
  simp only [Finset.ext_iff, mem_unended]

/-- Events that change neither the active delegations, the approved requests nor the ended
children. -/
private theorem ReleasedExactly.congr (released : ReleasedExactly world)
    (active : next.supervisor.tracker.active = world.supervisor.tracker.active)
    (granted : next.granted = world.granted)
    (ended : ∀ agentId, next.Ended agentId ↔ world.Ended agentId) : ReleasedExactly next := by
  rw [releasedExactly_iff] at released ⊢
  intro requesterId agentId
  rw [active, granted, ended]
  exact released requesterId agentId

private theorem releasedExactly_started_iff (tracked : Tracked policy world)
    (released : ReleasedExactly world) {start : DelegatedStart} {now : ℚ}
    (waiting : start ∈ world.supervisor.starting) :
    ReleasedExactly (world.perform py (.started start now)) ↔ ¬ world.Ended start.agentId := by
  rw [releasedExactly_iff] at released ⊢
  have inactive := tracked.starting_inactive waiting
  have active : ∀ requesterId agentId,
      agentId ∈ (world.perform py (.started start now)).supervisor.tracker.active requesterId ↔
        (agentId = start.agentId ∧ requesterId = start.requesterId) ∨
          agentId ∈ world.supervisor.tracker.active requesterId := by
    intro requesterId agentId
    change agentId ∈ Function.update world.supervisor.tracker.active start.requesterId _
      requesterId ↔ _
    by_cases own : requesterId = start.requesterId
    · simp [own]
    · simp [own]
  have approved : ∀ requesterId agentId,
      (∃ grant ∈ (world.perform py (.started start now)).granted,
          grant.agentId = agentId ∧ grant.requesterId = requesterId) ↔
        (agentId = start.agentId ∧ requesterId = start.requesterId) ∨
          ∃ grant ∈ world.granted, grant.agentId = agentId ∧ grant.requesterId = requesterId := by
    intro requesterId agentId
    change (∃ grant ∈ world.granted ++ [_], _) ↔ _
    constructor
    · rintro ⟨grant, member, rfl, rfl⟩
      rcases List.mem_append.mp member with before | new
      · exact .inr ⟨grant, before, rfl, rfl⟩
      · obtain rfl := List.mem_singleton.mp new
        exact .inl ⟨rfl, rfl⟩
    · rintro (⟨rfl, rfl⟩ | ⟨grant, member, named⟩)
      · exact ⟨_, List.mem_append_right _ (List.mem_singleton.mpr rfl), rfl, rfl⟩
      · exact ⟨grant, List.mem_append_left _ member, named⟩
  constructor
  · intro released'
    exact ((released' start.requesterId start.agentId).mp
      ((active _ _).mpr (.inl ⟨rfl, rfl⟩))).2
  · intro unended requesterId agentId
    change _ ↔ _ ∧ ¬ world.Ended agentId
    rw [active, approved, released]
    constructor
    · rintro (⟨rfl, rfl⟩ | ⟨granted, running⟩)
      · exact ⟨.inl ⟨rfl, rfl⟩, unended⟩
      · exact ⟨.inr granted, running⟩
    · rintro ⟨new | granted, running⟩
      · exact .inl new
      · exact .inr ⟨granted, running⟩

theorem ended_report_iff {childId agentId : Text} {state : ContainerState} :
    (world.perform py (.report childId state)).Ended agentId ↔
      world.Ended agentId ∨
        agentId = childId ∧ (state = .stopped ∨ state = .destroyed ∨ state = .errored) := by
  have errored : agentId ∈ (world.perform py (.report childId state)).errored ↔
      agentId ∈ world.errored ∨ agentId = childId ∧ state = .errored := by
    change agentId ∈ ite _ _ _ ↔ _
    by_cases fails : state = .errored
    · rw [if_pos fails, Finset.mem_insert, and_iff_left fails, or_comm]
    · rw [if_neg fails, iff_self_or]
      exact fun own => absurd own.2 fails
  unfold DelegationWorld.Ended
  rw [DelegationWorld.mem_terminated_report, errored]
  tauto

private theorem releasedExactly_report_iff (tracked : Tracked policy world)
    (released : ReleasedExactly world) (childId : Text) (state : ContainerState) :
    ReleasedExactly (world.perform py (.report childId state)) ↔
      (state = .errored → ∀ grant ∈ world.granted, grant.agentId = childId →
        world.Ended childId) := by
  rw [releasedExactly_iff] at released ⊢
  by_cases ends : state = .stopped ∨ state = .destroyed
  · have quiet : state ≠ .errored := by
      rintro rfl
      rcases ends with same | same <;> cases same
    refine iff_of_true (fun requesterId agentId => ?_) fun fails => absurd fails quiet
    refine (tracked.active_report childId ends requesterId agentId).trans ?_
    rw [released, ended_report_iff, not_or, and_assoc]
    refine and_congr_right fun _ => and_congr_right fun _ => ?_
    rw [not_and]
    constructor
    · exact fun other own => absurd own other
    · intro last own
      exact last own (ends.elim .inl fun destroyed => .inr (.inl destroyed))
  · have active : (world.perform py (.report childId state)).supervisor = world.supervisor :=
      stateChanged_of_not_ends ends
    by_cases fails : state = .errored
    · rw [active, forall_prop_of_true fails]
      constructor
      · rintro released' grant member rfl
        by_contra running
        have isActive := (released grant.requesterId grant.agentId).mpr
          ⟨⟨grant, member, rfl, rfl⟩, running⟩
        exact ((released' grant.requesterId grant.agentId).mp isActive).2
          (ended_report_iff.mpr (.inr ⟨rfl, .inr (.inr fails)⟩))
      · intro done requesterId agentId
        rw [released]
        refine and_congr_right fun ⟨grant, member, same, _⟩ => ?_
        rw [ended_report_iff, not_iff_not]
        constructor
        · exact .inl
        · rintro (ended | ⟨own, _⟩)
          · exact ended
          · exact own ▸ done grant member (same.trans own)
    · refine iff_of_true (fun requesterId agentId => ?_) fun same => absurd same fails
      rw [active, released]
      refine and_congr_right fun _ => ?_
      rw [ended_report_iff, not_iff_not, iff_self_or]
      rintro ⟨_, stopped | destroyed | errored⟩
      · exact absurd (.inl stopped) ends
      · exact absurd (.inr destroyed) ends
      · exact absurd errored fails

/-- **One step and the release.** The active delegations are the children that have not
ended exactly under the condition on the state before the step. -/
theorem releasedExactly_step_iff (tracked : Tracked policy world)
    (released : ReleasedExactly world) (fresh : Fresh py world event)
    (stepped : world.Step py event next) : ReleasedExactly next ↔ Prompt py world event := by
  obtain ⟨rfl, enabled⟩ := stepped
  unfold Prompt
  rw [and_iff_right fresh]
  cases event with
  | request request hex now =>
      refine iff_of_true ?_ trivial
      have active : (world.perform py (.request request hex now)).supervisor.tracker =
          world.supervisor.tracker := by
        change (world.supervisor.requestDelegation py now request hex).1.tracker = _
        rcases requestDelegation_cases world.supervisor request hex now with same | ⟨_, waits⟩
        · rw [same]
        · rw [waits]
      exact released.congr (congrArg DelegationTracker.active active) rfl fun _ => .rfl
  | started start now => exact releasedExactly_started_iff tracked released enabled.1
  | startFailed start => exact iff_of_true (released.congr rfl rfl fun _ => .rfl) trivial
  | report childId state =>
      refine (releasedExactly_report_iff tracked released childId state).trans ?_
      cases state <;> simp

/-- **Release of capacity.** In a run in which no child ends before its start has returned
and none errors, the active delegations of each requester are at every moment its
children that have not ended. -/
theorem active_of_prompt {clock : ℚ} {events : List DelegationEvent}
    (run : Run (Guarded (DelegationWorld.Step py) (Prompt py)) (.init policy clock) events world)
    (requesterId : Text) :
    world.supervisor.tracker.active requesterId = world.unended requesterId := by
  have kept : Tracked policy world ∧ ReleasedExactly world := by
    refine run.invariant (fun world => Tracked policy world ∧ ReleasedExactly world) ?_
      ⟨tracked_init policy clock, fun _ => rfl⟩
    rintro before event after ⟨tracked, released⟩ ⟨prompt, stepped⟩
    exact ⟨tracked.step prompt.1 stepped,
      (releasedExactly_step_iff tracked released prompt.1 stepped).mpr prompt⟩
  exact kept.2 requesterId

/-- A child that stops is released, and one that runs is not. -/
theorem sequential_release :
    (worldAfter onePolicy sequentialEvents).supervisor.tracker.active "pm" =
      (worldAfter onePolicy sequentialEvents).unended "pm" := by
  refine @active_of_prompt typeRuntime onePolicy _ 0 sequentialEvents
    (.cons ⟨⟨fun _ => ?_, trivial⟩, rfl, ?_⟩ (.cons ⟨⟨trivial, ?_⟩, rfl, ?_⟩
      (.cons ⟨⟨trivial, trivial⟩, rfl, trivial⟩ (.cons ⟨⟨fun _ => ?_, trivial⟩, rfl, ?_⟩
        (.cons ⟨⟨trivial, ?_⟩, rfl, ?_⟩ (.nil _)))))) "pm"
  all_goals decide +kernel

/-- The capacity of a child that has errored is not released. -/
theorem errored_child_active :
    ¬ ∀ (py : PyRuntime) (policy : DelegationPolicy) clock events (world : DelegationWorld),
      Run (Guarded (DelegationWorld.Step py) (Fresh py)) (.init policy clock) events world →
      world.supervisor.starting = [] →
      ∀ requesterId, world.supervisor.tracker.active requesterId = world.unended requesterId := by
  intro released
  have run : Run (Guarded (DelegationWorld.Step typeRuntime) (Fresh typeRuntime))
      (.init onePolicy 0)
      [.request pmRequest "1f00aa" 1, .started firstStart 2, .report firstStart.agentId .errored]
      (worldAfter onePolicy [.request pmRequest "1f00aa" 1, .started firstStart 2,
        .report firstStart.agentId .errored]) := by
    refine .cons ⟨fun _ => ?_, rfl, ?_⟩ (.cons ⟨trivial, rfl, ?_⟩
      (.cons ⟨trivial, rfl, trivial⟩ (.nil _)))
    all_goals decide +kernel
  exact absurd (released _ _ _ _ _ run (by decide +kernel) "pm") (by decide +kernel)

end Vcompany.Supervisor
