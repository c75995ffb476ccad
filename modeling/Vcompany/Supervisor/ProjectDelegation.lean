import Vcompany.Foundation.Transition
import Vcompany.Supervisor.DelegatedSpawn

/-! # Delegation in a project

A `ProjectSupervisor` is given a delegation policy and is asked for delegated children, whose
ends it is told. `project_policy_honoured_iff` compares its answers with the policy.
-/

namespace Vcompany.Supervisor

open Foundation Autonomy

/-- A request, whose start succeeds, or the report of a child. -/
inductive ProjectEvent where
  | request (request : SpawnRequest) (hex : Text) (checkedAt recordedAt : ℚ)
  | report (childId : Text) (state : ContainerState)

/-- The supervisor, with the approved requests and the children that have ended. -/
structure ProjectWorld where
  supervisor : SpawningSupervisor
  granted : List Grant
  terminated : Finset Text

namespace ProjectWorld

def init (projectId : Text) (childSpecs : List SpawnSpec) (policy : DelegationPolicy) :
    ProjectWorld where
  supervisor := .projectSupervisor projectId childSpecs (some policy)
  granted := []
  terminated := ∅

def perform (setting : SpawnSetting) (world : ProjectWorld) : ProjectEvent → ProjectWorld
  | .request request hex checkedAt recordedAt =>
      match world.supervisor.handleDelegationRequest setting ⟨hex, checkedAt, recordedAt, none⟩
        request with
      | (supervisor, .ok ⟨true, some agentId, _⟩) =>
          { world with
            supervisor
            granted := world.granted ++ [⟨agentId, request.requesterId, recordedAt⟩] }
      | (supervisor, _) => { world with supervisor }
  | .report childId state =>
      { world with
        supervisor := world.supervisor.stateChanged childId state
        terminated :=
          if state = .stopped ∨ state = .destroyed then insert childId world.terminated
          else world.terminated }

/-- The delegated children of the requester that have not ended. -/
def live (world : ProjectWorld) (requesterId : Text) : List Grant :=
  world.granted.filter fun grant =>
    grant.requesterId = requesterId ∧ grant.agentId ∉ world.terminated

/-- The requests of the requester that were approved in the hour before `now`. -/
def recent (world : ProjectWorld) (requesterId : Text) (now : ℚ) : List Grant :=
  world.granted.filter fun grant => grant.requesterId = requesterId ∧ now - 3600 < grant.time

/-- The policy allows the type, and the requester is below both caps. -/
structure Entitled (policy : DelegationPolicy) (world : ProjectWorld) (request : SpawnRequest)
    (now : ℚ) : Prop where
  agentType : request.agentType ∈ policy.allowedAgentTypes
  concurrent : (world.live request.requesterId).length < policy.maxConcurrentDelegations
  hourly : (world.recent request.requesterId now).length < policy.maxDelegationsPerHour

/-- A request is approved if and only if the policy entitles the requester to it. -/
def Honours (setting : SpawnSetting) (policy : DelegationPolicy) (world : ProjectWorld) :
    ProjectEvent → Prop
  | .request request hex checkedAt recordedAt =>
      Approved (world.supervisor.handleDelegationRequest setting
          ⟨hex, checkedAt, recordedAt, none⟩ request).2 ↔
        world.Entitled policy request checkedAt
  | .report _ _ => True

/-- The policy never lets a request of this type through. -/
def Excluded (policy : DelegationPolicy) : ProjectEvent → Prop
  | .request request _ _ _ =>
      request.agentType ∉ policy.allowedAgentTypes ∨ policy.maxConcurrentDelegations ≤ 0 ∨
        policy.maxDelegationsPerHour ≤ 0
  | .report _ _ => True

/-- The supervisor has no tracker, and nothing was approved. -/
structure Refusing (world : ProjectWorld) : Prop where
  untracked : world.supervisor.delegationTracker = none
  none_granted : world.granted = []

variable {setting : SpawnSetting} {policy : DelegationPolicy} {world : ProjectWorld}

theorem refusing_init (projectId : Text) (childSpecs : List SpawnSpec)
    (policy : DelegationPolicy) : (init projectId childSpecs policy).Refusing :=
  ⟨rfl, rfl⟩

theorem Refusing.refuses (refusing : world.Refusing) (course : SpawnCourse)
    (request : SpawnRequest) :
    world.supervisor.handleDelegationRequest setting course request =
      (world.supervisor, .ok { approved := false, reason := "Delegation not enabled" }) := by
  unfold SpawningSupervisor.handleDelegationRequest
  rw [refusing.untracked]

theorem Refusing.perform (refusing : world.Refusing) (event : ProjectEvent) :
    (world.perform setting event).Refusing := by
  cases event with
  | request request hex checkedAt recordedAt =>
      unfold ProjectWorld.perform
      dsimp only
      rw [refusing.refuses]
      exact ⟨refusing.untracked, refusing.none_granted⟩
  | report childId state =>
      refine ⟨?_, refusing.none_granted⟩
      change (world.supervisor.stateChanged childId state).delegationTracker = none
      unfold SpawningSupervisor.stateChanged
      split
      · exact refusing.untracked
      · split
        · exact congrArg (Option.map _) refusing.untracked
        · exact refusing.untracked

/-- The answer to a request agrees with the policy exactly if the policy never lets it
through. -/
theorem Refusing.honours_iff (refusing : world.Refusing) (event : ProjectEvent) :
    world.Honours setting policy event ↔ Excluded policy event := by
  cases event with
  | request request hex checkedAt recordedAt =>
      have refused :
          ¬ Approved (.ok { approved := false, reason := "Delegation not enabled" }) := by
        rintro ⟨_, ⟨⟩, approved⟩
        cases approved
      have entitled : world.Entitled policy request checkedAt ↔
          request.agentType ∈ policy.allowedAgentTypes ∧ 0 < policy.maxConcurrentDelegations ∧
            0 < policy.maxDelegationsPerHour := by
        have noLive : world.live request.requesterId = [] := by
          rw [live, refusing.none_granted, List.filter_nil]
        have noRecent : world.recent request.requesterId checkedAt = [] := by
          rw [recent, refusing.none_granted, List.filter_nil]
        constructor
        · rintro ⟨agentType, concurrent, hourly⟩
          rw [noLive] at concurrent
          rw [noRecent] at hourly
          exact ⟨agentType, concurrent, hourly⟩
        · rintro ⟨agentType, concurrent, hourly⟩
          exact ⟨agentType, by rwa [noLive], by rwa [noRecent]⟩
      unfold Honours Excluded
      dsimp only
      rw [refusing.refuses, iff_false_left refused, entitled]
      rw [not_and_or, not_and_or, not_lt, not_lt]
  | report childId state => exact Iff.rfl

/-- **The policy of a project.** Over a history of requests and reports, every request is
answered as the policy says exactly if the policy never lets any of them through. -/
theorem project_policy_honoured_iff (setting : SpawnSetting) (projectId : Text)
    (childSpecs : List SpawnSpec) (policy : DelegationPolicy) (events : List ProjectEvent) :
    EachMeets (ProjectWorld.perform setting) (Honours setting policy)
        (init projectId childSpecs policy) events ↔
      ∀ event ∈ events, Excluded policy event := by
  rw [← @eachMeets_labels_iff _ _ (ProjectWorld.perform setting) _
    (init projectId childSpecs policy) events]
  exact @EachMeets.congr_within _ _ _ Refusing _ _
    (fun _ event refusing => refusing.perform event)
    (fun _ event refusing => refusing.honours_iff event)
    _ (refusing_init projectId childSpecs policy) events

/-- A requester that has delegated nothing is refused a type that its project allows. -/
theorem entitled_request_refused :
    ¬ ∀ (setting : SpawnSetting) (projectId : Text) (childSpecs : List SpawnSpec)
      (policy : DelegationPolicy) (events : List ProjectEvent),
      EachMeets (ProjectWorld.perform setting) (Honours setting policy)
        (init projectId childSpecs policy) events := by
  intro claim
  have honoured := (claim SpawningSupervisor.plainSetting "alpha" [] {}
    [.request { requesterId := "pm" } "1f00aa" 1 1]).1
  obtain ⟨_, ⟨⟩, approved⟩ := honoured.mpr ⟨by decide, by decide, by decide⟩
  cases approved

end ProjectWorld

end Vcompany.Supervisor
