import Vcompany.Autonomy.Delegation
import Vcompany.Supervisor.ChildSpec

/-! # Delegation requests at the supervisor

`handle_delegation_request` checks the caps, waits for the child's start, and records the
delegation when the start returns. Other requests are handled while it waits, and the
child may report its states. The state callback releases the delegation of a child that
has stopped or was destroyed, if it is recorded.

Beside the supervisor, the model keeps the approved requests and the children that have
ended. `Tracked.step` is what every step preserves of the two.
-/

namespace Vcompany.Supervisor

open Foundation Autonomy

structure DelegationRequest where
  requesterId : Text
  agentType : Text := "gsd"
  deriving DecidableEq

structure DelegationResult where
  approved : Bool
  agentId : Option Text := none
  reason : Text := []
  deriving DecidableEq

/-- A request that waits for `_start_child`. -/
structure DelegatedStart where
  agentId : Text
  requesterId : Text
  deriving DecidableEq

/-- A supervisor with a delegation policy. -/
structure DelegatingSupervisor where
  tracker : DelegationTracker
  starting : List DelegatedStart
  delegatedChildren : Text → Option Text

/-- `f"delegated-{request.requester_id}-{uuid.uuid4().hex[:6]}"`. -/
def delegatedId (requesterId hex : Text) : Text :=
  ("delegated-" : Text) ++ requesterId ++ ("-" : Text) ++ hex

namespace DelegatingSupervisor

/-- `Supervisor(delegation_policy=policy)`. -/
def init (policy : DelegationPolicy) : DelegatingSupervisor where
  tracker := .init policy
  starting := []
  delegatedChildren _ := none

/-- `handle_delegation_request`, until it waits for the child's start or returns. -/
def requestDelegation (py : PyRuntime) (now : ℚ) (request : DelegationRequest) (hex : Text)
    (supervisor : DelegatingSupervisor) : DelegatingSupervisor × Option DelegationResult :=
  match supervisor.tracker.canDelegate py now request.requesterId request.agentType with
  | (false, reason) => (supervisor, some { approved := false, reason })
  | (true, _) =>
      let start : DelegatedStart :=
        ⟨delegatedId request.requesterId hex, request.requesterId⟩
      ({ supervisor with starting := supervisor.starting ++ [start] }, none)

/-- `handle_delegation_request`, when the start of its child has returned. -/
def startReturns (now : ℚ) (start : DelegatedStart) (supervisor : DelegatingSupervisor) :
    DelegatingSupervisor × DelegationResult :=
  ({ tracker := supervisor.tracker.recordDelegation now start.requesterId start.agentId
     starting := supervisor.starting.erase start
     delegatedChildren :=
       Function.update supervisor.delegatedChildren start.agentId (some start.requesterId) },
    { approved := true, agentId := some start.agentId })

/-- `handle_delegation_request`, when the start of its child has raised. -/
def startRaises (start : DelegatedStart) (supervisor : DelegatingSupervisor) :
    DelegatingSupervisor :=
  { supervisor with starting := supervisor.starting.erase start }

/-- The part of the state callback that cleans up delegations. -/
def stateChanged (childId : Text) (state : ContainerState) (supervisor : DelegatingSupervisor) :
    DelegatingSupervisor :=
  match supervisor.delegatedChildren childId with
  | none => supervisor
  | some requesterId =>
      if state = .stopped ∨ state = .destroyed then
        { supervisor with
          tracker := supervisor.tracker.recordCompletion requesterId childId
          delegatedChildren := Function.update supervisor.delegatedChildren childId none }
      else supervisor

end DelegatingSupervisor

/-- An approved request. -/
structure Grant where
  agentId : Text
  requesterId : Text
  time : ℚ
  deriving DecidableEq

/-- The supervisor, with the clock, the approved requests, and the children that have
stopped or were destroyed and those that have errored. -/
structure DelegationWorld where
  supervisor : DelegatingSupervisor
  clock : ℚ
  granted : List Grant
  terminated : Finset Text
  errored : Finset Text

inductive DelegationEvent where
  | request (request : DelegationRequest) (hex : Text) (now : ℚ)
  | started (start : DelegatedStart) (now : ℚ)
  | startFailed (start : DelegatedStart)
  | report (childId : Text) (state : ContainerState)

namespace DelegationWorld

def init (policy : DelegationPolicy) (clock : ℚ) : DelegationWorld where
  supervisor := .init policy
  clock := clock
  granted := []
  terminated := ∅
  errored := ∅

def perform (py : PyRuntime) (world : DelegationWorld) : DelegationEvent → DelegationWorld
  | .request request hex now =>
      { world with
        supervisor := (world.supervisor.requestDelegation py now request hex).1
        clock := now }
  | .started start now =>
      { world with
        supervisor := (world.supervisor.startReturns now start).1
        clock := now
        granted := world.granted ++ [⟨start.agentId, start.requesterId, now⟩] }
  | .startFailed start =>
      { world with supervisor := world.supervisor.startRaises start }
  | .report childId state =>
      { world with
        supervisor := world.supervisor.stateChanged childId state
        terminated :=
          if state = .stopped ∨ state = .destroyed then insert childId world.terminated
          else world.terminated
        errored := if state = .errored then insert childId world.errored else world.errored }

/-- The clock does not go back, and a start ends once. -/
def Step (py : PyRuntime) (world : DelegationWorld) (event : DelegationEvent)
    (next : DelegationWorld) : Prop :=
  next = world.perform py event ∧
    match event with
    | .request _ _ now => world.clock ≤ now
    | .started start now => start ∈ world.supervisor.starting ∧ world.clock ≤ now
    | .startFailed start => start ∈ world.supervisor.starting
    | .report _ _ => True

/-- The delegated children of the requester that have not terminated. -/
def live (world : DelegationWorld) (requesterId : Text) : List Grant :=
  world.granted.filter fun grant =>
    grant.requesterId = requesterId ∧ grant.agentId ∉ world.terminated

/-- How many requests were approved in a window of one hour. -/
def grantedWithin (world : DelegationWorld) (start : ℚ) : ℕ :=
  world.granted.countP fun grant => start < grant.time ∧ grant.time ≤ start + 3600

/-- The id is of a child whose start was begun. -/
def Known (world : DelegationWorld) (agentId : Text) : Prop :=
  agentId ∈ world.supervisor.starting.map DelegatedStart.agentId ++
    world.granted.map Grant.agentId

instance (world : DelegationWorld) (agentId : Text) : Decidable (world.Known agentId) :=
  inferInstanceAs (Decidable (_ ∈ _))

end DelegationWorld

/-! ## What the supervisor keeps track of -/

/-- A request that passes the check is given an id that no child had. -/
def Fresh (py : PyRuntime) (world : DelegationWorld) : DelegationEvent → Prop
  | .request request hex now =>
      (world.supervisor.tracker.canDelegate py now request.requesterId request.agentType).1 = true →
        ¬ world.Known (delegatedId request.requesterId hex)
  | _ => True

/-- The ids are distinct; the tracker has the times of the approved requests, and its
active delegations are approved, those of the live children among them; and the
supervisor's map of delegated children is the map of the active delegations. -/
structure Tracked (policy : DelegationPolicy) (world : DelegationWorld) : Prop where
  policy_eq : world.supervisor.tracker.policy = policy
  distinct : (world.supervisor.starting.map DelegatedStart.agentId ++
    world.granted.map Grant.agentId).Nodup
  recorded : world.supervisor.tracker.history = world.granted.map Grant.time
  past : ∀ grant ∈ world.granted, grant.time ≤ world.clock
  kept : ∀ grant ∈ world.granted, grant.agentId ∉ world.terminated →
    grant.agentId ∈ world.supervisor.tracker.active grant.requesterId
  approved : ∀ requesterId, ∀ agentId ∈ world.supervisor.tracker.active requesterId,
    ∃ grant ∈ world.granted, grant.agentId = agentId ∧ grant.requesterId = requesterId
  mapped : ∀ agentId requesterId, world.supervisor.delegatedChildren agentId = some requesterId ↔
    agentId ∈ world.supervisor.tracker.active requesterId

variable {py : PyRuntime} {policy : DelegationPolicy} {world next : DelegationWorld}
  {event : DelegationEvent}

theorem tracked_init (policy : DelegationPolicy) (clock : ℚ) :
    Tracked policy (.init policy clock) where
  policy_eq := rfl
  distinct := List.nodup_nil
  recorded := rfl
  past _ member := nomatch member
  kept _ member := nomatch member
  approved _ _ member := absurd member (Finset.notMem_empty _)
  mapped _ _ := iff_of_false (fun none => nomatch none) (Finset.notMem_empty _)

/-- A request is refused, or waits for a start under its id. -/
theorem requestDelegation_cases (supervisor : DelegatingSupervisor) (request : DelegationRequest)
    (hex : Text) (now : ℚ) :
    (supervisor.requestDelegation py now request hex).1 = supervisor ∨
      (supervisor.tracker.canDelegate py now request.requesterId request.agentType).1 = true ∧
        (supervisor.requestDelegation py now request hex).1 =
          { supervisor with
            starting := supervisor.starting ++
              [⟨delegatedId request.requesterId hex, request.requesterId⟩] } := by
  unfold DelegatingSupervisor.requestDelegation
  rcases supervisor.tracker.canDelegate py now request.requesterId request.agentType with
    ⟨_ | _, reason⟩
  · exact .inl rfl
  · exact .inr ⟨rfl, rfl⟩

/-- A start that is under way has an id that no active delegation has. -/
theorem Tracked.starting_inactive (tracked : Tracked policy world) {start : DelegatedStart}
    (waiting : start ∈ world.supervisor.starting) (requesterId : Text) :
    start.agentId ∉ world.supervisor.tracker.active requesterId := by
  intro member
  obtain ⟨grant, granted, same, _⟩ := tracked.approved requesterId start.agentId member
  have apart := List.disjoint_of_nodup_append tracked.distinct
    (List.mem_map_of_mem waiting)
  rw [← same] at apart
  exact apart (List.mem_map_of_mem granted)

theorem Tracked.started (tracked : Tracked policy world) {start : DelegatedStart} {now : ℚ}
    (waiting : start ∈ world.supervisor.starting) (later : world.clock ≤ now) :
    Tracked policy (world.perform py (.started start now)) where
  policy_eq := tracked.policy_eq
  distinct := by
    have moved : ((world.supervisor.starting.erase start).map DelegatedStart.agentId ++
        (world.granted ++ [Grant.mk start.agentId start.requesterId now]).map Grant.agentId).Perm
        (world.supervisor.starting.map DelegatedStart.agentId ++
          world.granted.map Grant.agentId) := by
      rw [List.map_append, ← List.append_assoc]
      refine List.perm_append_comm.trans ?_
      exact ((List.perm_cons_erase waiting).map DelegatedStart.agentId).symm.append_right _
    exact moved.nodup_iff.mpr tracked.distinct
  recorded := by
    change world.supervisor.tracker.history ++ [now] = _
    rw [tracked.recorded]
    simp [DelegationWorld.perform]
  past := by
    intro grant member
    rcases List.mem_append.mp member with before | new
    · exact (tracked.past grant before).trans later
    · obtain rfl := List.mem_singleton.mp new
      exact le_refl now
  kept := by
    intro grant member running
    change grant.agentId ∈ Function.update world.supervisor.tracker.active start.requesterId _ _
    rcases List.mem_append.mp member with before | new
    · have active := tracked.kept grant before running
      by_cases own : grant.requesterId = start.requesterId
      · rw [own, Function.update_self]
        exact Finset.mem_insert_of_mem (own ▸ active)
      · rwa [Function.update_of_ne own]
    · obtain rfl := List.mem_singleton.mp new
      rw [Function.update_self]
      exact Finset.mem_insert_self _ _
  approved := by
    intro requesterId agentId member
    change agentId ∈ Function.update world.supervisor.tracker.active start.requesterId _ _ at member
    by_cases own : requesterId = start.requesterId
    · rw [own, Function.update_self] at member
      rcases Finset.mem_insert.mp member with new | before
      · exact ⟨⟨start.agentId, start.requesterId, now⟩, by simp [DelegationWorld.perform],
          new.symm, own.symm⟩
      · obtain ⟨grant, granted, named⟩ := tracked.approved start.requesterId agentId before
        exact ⟨grant, List.mem_append_left _ granted, named.1, named.2.trans own.symm⟩
    · rw [Function.update_of_ne own] at member
      obtain ⟨grant, granted, named⟩ := tracked.approved requesterId agentId member
      exact ⟨grant, List.mem_append_left _ granted, named⟩
  mapped := by
    intro agentId requesterId
    change Function.update world.supervisor.delegatedChildren start.agentId _ agentId = _ ↔
      agentId ∈ Function.update world.supervisor.tracker.active start.requesterId _ requesterId
    have inactive := tracked.starting_inactive waiting requesterId
    by_cases same : agentId = start.agentId
    · rw [same, Function.update_self, Option.some.injEq]
      by_cases own : requesterId = start.requesterId
      · simp [own]
      · rw [Function.update_of_ne own]
        exact iff_of_false (Ne.symm own) inactive
    · rw [Function.update_of_ne same, tracked.mapped]
      by_cases own : requesterId = start.requesterId
      · simp [own, same]
      · rw [Function.update_of_ne own]

/-- A report releases the delegation of its child, or changes nothing. -/
theorem stateChanged_cases (supervisor : DelegatingSupervisor) (childId : Text)
    (state : ContainerState) :
    (∃ requesterId, supervisor.delegatedChildren childId = some requesterId ∧
      (state = .stopped ∨ state = .destroyed) ∧
      supervisor.stateChanged childId state =
        { supervisor with
          tracker := supervisor.tracker.recordCompletion requesterId childId
          delegatedChildren := Function.update supervisor.delegatedChildren childId none }) ∨
    ((supervisor.delegatedChildren childId = none ∨ ¬ (state = .stopped ∨ state = .destroyed)) ∧
      supervisor.stateChanged childId state = supervisor) := by
  unfold DelegatingSupervisor.stateChanged
  rcases supervisor.delegatedChildren childId with _ | requesterId
  · exact .inr ⟨.inl rfl, rfl⟩
  · by_cases ends : state = .stopped ∨ state = .destroyed
    · exact .inl ⟨requesterId, rfl, ends, if_pos ends⟩
    · exact .inr ⟨.inr ends, if_neg ends⟩

theorem DelegationWorld.mem_terminated_report {childId agentId : Text} {state : ContainerState} :
    agentId ∈ (world.perform py (.report childId state)).terminated ↔
      agentId ∈ world.terminated ∨
        agentId = childId ∧ (state = .stopped ∨ state = .destroyed) := by
  change agentId ∈ ite _ _ _ ↔ _
  by_cases ends : state = .stopped ∨ state = .destroyed
  · rw [if_pos ends, Finset.mem_insert, and_iff_left ends, or_comm]
  · rw [if_neg ends, iff_self_or]
    exact fun own => absurd own.2 ends

/-- The report of its end takes a child out of the active delegations. -/
theorem Tracked.active_report (tracked : Tracked policy world) (childId : Text)
    {state : ContainerState} (ends : state = .stopped ∨ state = .destroyed)
    (requester agentId : Text) :
    agentId ∈ (world.supervisor.stateChanged childId state).tracker.active requester ↔
      agentId ∈ world.supervisor.tracker.active requester ∧ agentId ≠ childId := by
  rcases stateChanged_cases world.supervisor childId state with
    ⟨requesterId, delegated, _, released⟩ | ⟨missing, same⟩
  · rw [released]
    change agentId ∈ Function.update world.supervisor.tracker.active requesterId _ requester ↔ _
    by_cases own : requester = requesterId
    · rw [own, Function.update_self, Finset.mem_erase, and_comm]
    · rw [Function.update_of_ne own, iff_self_and]
      rintro member rfl
      have elsewhere := (tracked.mapped agentId requester).mpr member
      rw [delegated] at elsewhere
      exact own (Option.some.inj elsewhere).symm
  · rw [same, iff_self_and]
    rintro member rfl
    have delegated := (tracked.mapped agentId requester).mpr member
    rw [missing.resolve_right (not_not_intro ends)] at delegated
    cases delegated

theorem stateChanged_of_not_ends {supervisor : DelegatingSupervisor} {childId : Text}
    {state : ContainerState} (runs : ¬ (state = .stopped ∨ state = .destroyed)) :
    supervisor.stateChanged childId state = supervisor := by
  rcases stateChanged_cases supervisor childId state with ⟨_, _, ends, _⟩ | ⟨_, same⟩
  · exact absurd ends runs
  · exact same

theorem Tracked.reported (tracked : Tracked policy world) (childId : Text)
    (state : ContainerState) : Tracked policy (world.perform py (.report childId state)) := by
  have outside : ∀ {agentId}, agentId ∉ (world.perform py (.report childId state)).terminated →
      agentId ∉ world.terminated := fun apart inside =>
    apart (DelegationWorld.mem_terminated_report.mpr (.inl inside))
  rcases stateChanged_cases world.supervisor childId state with
    ⟨requesterId, delegated, ends, released⟩ | ⟨_, same⟩
  · have active := tracked.active_report childId ends
    constructor
    · change (world.supervisor.stateChanged childId state).tracker.policy = policy
      rw [released]
      exact tracked.policy_eq
    · change ((world.supervisor.stateChanged childId state).starting.map _ ++ _).Nodup
      rw [released]
      exact tracked.distinct
    · change (world.supervisor.stateChanged childId state).tracker.history = _
      rw [released]
      exact tracked.recorded
    · exact tracked.past
    · intro grant member running
      refine (active _ _).mpr ⟨tracked.kept grant member (outside running), ?_⟩
      rintro same
      exact running (DelegationWorld.mem_terminated_report.mpr (.inr ⟨same, ends⟩))
    · intro requester agentId member
      exact tracked.approved requester agentId ((active _ _).mp member).1
    · intro agentId requester
      rw [show (world.perform py (.report childId state)).supervisor =
        world.supervisor.stateChanged childId state from rfl, active, released]
      change Function.update world.supervisor.delegatedChildren childId none agentId = _ ↔ _
      by_cases own : agentId = childId
      · rw [own, Function.update_self]
        exact iff_of_false (fun none => nomatch none) fun ⟨_, other⟩ => other rfl
      · rw [Function.update_of_ne own, tracked.mapped, and_iff_left own]
  · have supervisor : (world.perform py (.report childId state)).supervisor = world.supervisor :=
      same
    constructor
    · exact supervisor ▸ tracked.policy_eq
    · exact supervisor ▸ tracked.distinct
    · exact supervisor ▸ tracked.recorded
    · exact tracked.past
    · intro grant member running
      rw [supervisor]
      exact tracked.kept grant member (outside running)
    · exact supervisor ▸ tracked.approved
    · exact supervisor ▸ tracked.mapped

/-- What the supervisor keeps track of stays so in every step with a fresh id. -/
theorem Tracked.step (tracked : Tracked policy world) (fresh : Fresh py world event)
    (stepped : world.Step py event next) : Tracked policy next := by
  obtain ⟨rfl, enabled⟩ := stepped
  cases event with
  | request request hex now =>
      have past : ∀ grant ∈ world.granted, grant.time ≤ now := fun grant member =>
        (tracked.past grant member).trans enabled
      rcases requestDelegation_cases world.supervisor request hex now with same | ⟨passes, waits⟩
      · have supervisor : (world.perform py (.request request hex now)).supervisor =
            world.supervisor := same
        exact ⟨supervisor ▸ tracked.policy_eq, supervisor ▸ tracked.distinct,
          supervisor ▸ tracked.recorded, past, supervisor ▸ tracked.kept,
          supervisor ▸ tracked.approved, supervisor ▸ tracked.mapped⟩
      · have supervisor : (world.perform py (.request request hex now)).supervisor = _ := waits
        have new : ¬ world.Known (delegatedId request.requesterId hex) := fresh passes
        have distinct : ((world.supervisor.starting ++
            [DelegatedStart.mk (delegatedId request.requesterId hex) request.requesterId]).map
              DelegatedStart.agentId ++ world.granted.map Grant.agentId).Nodup := by
          rw [List.map_append, List.append_assoc]
          exact List.nodup_middle.mpr (List.nodup_cons.mpr ⟨new, tracked.distinct⟩)
        constructor
        · exact supervisor ▸ tracked.policy_eq
        · exact supervisor ▸ distinct
        · exact supervisor ▸ tracked.recorded
        · exact past
        · exact supervisor ▸ tracked.kept
        · exact supervisor ▸ tracked.approved
        · exact supervisor ▸ tracked.mapped
  | started start now => exact tracked.started enabled.1 enabled.2
  | startFailed start =>
      refine { tracked with distinct := ?_ }
      have fewer : ((world.supervisor.starting.erase start).map DelegatedStart.agentId ++
          world.granted.map Grant.agentId).Sublist (world.supervisor.starting.map
            DelegatedStart.agentId ++ world.granted.map Grant.agentId) :=
        (List.erase_sublist.map _).append_right _
      exact tracked.distinct.sublist fewer
  | report childId state => exact tracked.reported childId state

def pmRequest : DelegationRequest := { requesterId := "pm" }

def firstStart : DelegatedStart := ⟨delegatedId "pm" "1f00aa", "pm"⟩

def secondStart : DelegatedStart := ⟨delegatedId "pm" "93c4e1", "pm"⟩

/-- The policy that lets a requester have one delegated child. -/
def onePolicy : DelegationPolicy := { maxConcurrentDelegations := 1 }

/-- The world after a list of events. -/
def worldAfter (policy : DelegationPolicy) (events : List DelegationEvent) : DelegationWorld :=
  events.foldl (DelegationWorld.perform typeRuntime) (.init policy 0)

/-- A child is started and stops before the next request. -/
def sequentialEvents : List DelegationEvent :=
  [.request pmRequest "1f00aa" 1, .started firstStart 2, .report firstStart.agentId .stopped,
    .request pmRequest "93c4e1" 3, .started secondStart 4]

end Vcompany.Supervisor
