import Vcompany.Supervisor.CompanyRoot
import Vcompany.Supervisor.DelegationRequests

/-! # The child that a delegation spawns

`handle_delegation_request` builds the context of the child, lets the request override its
attributes, puts the specification on the list, waits for the start, and records the
delegation. `failed_delegation_leaves_no_trace_iff` says when a delegation that is not
approved leaves nothing behind, `overrides_respect_policy_iff` which overrides leave the
policy in force.
-/

namespace Vcompany.Supervisor

open Foundation Autonomy

/-- The context of a child. The values of an override are texts, also for the fields of
another type. -/
structure ContainerContext where
  agentId : Text
  agentType : Text
  parentId : Option Text := none
  projectId : Option Text := none
  ownedDirs : PyValue := .list []
  gsdMode : Text := "full"
  systemPrompt : Text := []
  gsdCommand : Option Text := none
  usesTmux : PyValue := .num 0

/-- A specification with what a supervisor passes to the child. -/
structure SpawnSpec extends ChildSpec where
  agentType : Text
  context : ContainerContext
  transport : Text := "local"

/-- A definition of an agent type, with its transport. -/
structure SpawnTypeConfig extends AgentTypeConfig where
  transport : Text := "local"

/-- What `hasattr` and `object.__setattr__` do for a name that is no field. -/
inductive OtherAttribute where
  | absent
  | assignable
  | raises (raised : PyExc)

/-- What does not change between requests: the text forms of values, the agent types if they
are set, and the other attributes of a context. -/
structure SpawnSetting where
  py : PyRuntime
  agentTypes : Option (Text → Option SpawnTypeConfig)
  otherAttribute : Text → OtherAttribute

/-- A request to delegate, with what it overrides in the context of the child. -/
structure SpawnRequest extends DelegationRequest where
  contextOverrides : Dict Text Text := .empty

/-- How one request goes on: the id it is given, the clock before and after the start, and the
exception of the start, if it raises. -/
structure SpawnCourse where
  hex : Text
  checkedAt : ℚ
  recordedAt : ℚ
  startRaises : Option PyExc

structure SpawningSupervisor where
  supervisorId : Text
  childSpecs : List SpawnSpec
  delegationTracker : Option DelegationTracker
  delegatedChildren : Text → Option Text

namespace ContainerContext

/-- The fields of a context. -/
def fields : List Text :=
  ["agent_id".toList, "agent_type".toList, "parent_id".toList, "project_id".toList,
    "owned_dirs".toList, "gsd_mode".toList, "system_prompt".toList, "gsd_command".toList,
    "uses_tmux".toList]

def setField (key value : Text) (context : ContainerContext) : ContainerContext where
  agentId := if key = ("agent_id" : Text) then value else context.agentId
  agentType := if key = ("agent_type" : Text) then value else context.agentType
  parentId := if key = ("parent_id" : Text) then some value else context.parentId
  projectId := if key = ("project_id" : Text) then some value else context.projectId
  ownedDirs := if key = ("owned_dirs" : Text) then .str value else context.ownedDirs
  gsdMode := if key = ("gsd_mode" : Text) then value else context.gsdMode
  systemPrompt := if key = ("system_prompt" : Text) then value else context.systemPrompt
  gsdCommand := if key = ("gsd_command" : Text) then some value else context.gsdCommand
  usesTmux := if key = ("uses_tmux" : Text) then .str value else context.usesTmux

/-- `if hasattr(context, key): object.__setattr__(context, key, value)`. -/
def override (otherAttribute : Text → OtherAttribute) (context : ContainerContext)
    (entry : Text × Text) : Except PyExc ContainerContext :=
  if entry.1 ∈ fields then .ok (context.setField entry.1 entry.2)
  else
    match otherAttribute entry.1 with
    | .raises raised => .error raised
    | _ => .ok context

/-- The loop over `request.context_overrides.items()`. -/
def applyOverrides (otherAttribute : Text → OtherAttribute) :
    List (Text × Text) → ContainerContext → Except PyExc ContainerContext
  | [], context => .ok context
  | entry :: entries, context => do
      let context ← context.override otherAttribute entry
      applyOverrides otherAttribute entries context

end ContainerContext

namespace SpawningSupervisor

/-- `Supervisor.__init__`. -/
def init (supervisorId : Text) (childSpecs : List SpawnSpec)
    (delegationPolicy : Option DelegationPolicy := none) : SpawningSupervisor where
  supervisorId := supervisorId
  childSpecs := childSpecs
  delegationTracker := delegationPolicy.map DelegationTracker.init
  delegatedChildren _ := none

/-- `ProjectSupervisor.__init__`, which does not pass its policy on. -/
def projectSupervisor (projectId : Text) (childSpecs : List SpawnSpec)
    (_delegationPolicy : Option DelegationPolicy) : SpawningSupervisor :=
  init (("project-" : Text) ++ projectId) childSpecs

/-- The project, by the first specification. -/
def projectId (supervisor : SpawningSupervisor) : Option Text :=
  supervisor.childSpecs.head?.bind fun spec => spec.context.projectId

/-- `agent_types.get_type(request.agent_type) if agent_types else None`. -/
def typeConfig (setting : SpawnSetting) (agentType : Text) :
    Except PyExc (Option SpawnTypeConfig) :=
  match setting.agentTypes with
  | none => .ok none
  | some agentTypes =>
      match agentTypes agentType with
      | none => .error .keyError
      | some config => .ok (some config)

/-- The context, before the overrides. -/
def context (supervisor : SpawningSupervisor) (agentId agentType : Text)
    (config : Option SpawnTypeConfig) : ContainerContext where
  agentId := agentId
  agentType := agentType
  parentId := some supervisor.supervisorId
  projectId := supervisor.projectId
  usesTmux := .num (if usesTmux (config.map SpawnTypeConfig.toAgentTypeConfig) then 1 else 0)
  gsdCommand := config.bind fun config => config.gsdCommand

/-- The specification of the child. -/
def spec (setting : SpawnSetting) (supervisor : SpawningSupervisor) (agentId : Text)
    (request : SpawnRequest) : Except PyExc SpawnSpec := do
  let config ← typeConfig setting request.agentType
  let context ← (supervisor.context agentId request.agentType config).applyOverrides
    setting.otherAttribute request.contextOverrides.entries
  return {
    childId := agentId
    agentType := request.agentType
    context
    restartPolicy := .temporary
    transport := (config.map SpawnTypeConfig.transport).getD "local" }

/-- `handle_delegation_request`. -/
def handleDelegationRequest (setting : SpawnSetting) (course : SpawnCourse)
    (request : SpawnRequest) (supervisor : SpawningSupervisor) :
    SpawningSupervisor × Except PyExc DelegationResult :=
  match supervisor.delegationTracker with
  | none => (supervisor, .ok { approved := false, reason := "Delegation not enabled" })
  | some tracker =>
      match tracker.canDelegate setting.py course.checkedAt request.requesterId
        request.agentType with
      | (false, reason) => (supervisor, .ok { approved := false, reason })
      | (true, _) =>
          let agentId := delegatedId request.requesterId course.hex
          match supervisor.spec setting agentId request with
          | .error raised => (supervisor, .error raised)
          | .ok spec =>
              let appended := { supervisor with childSpecs := supervisor.childSpecs ++ [spec] }
              match course.startRaises with
              | some raised => (appended, .error raised)
              | none =>
                  ({ appended with
                      delegationTracker := some
                        (tracker.recordDelegation course.recordedAt request.requesterId agentId)
                      delegatedChildren := Function.update supervisor.delegatedChildren agentId
                        (some request.requesterId) },
                    .ok { approved := true, agentId := some agentId })

/-- The part of the state callback that cleans up delegations. -/
def stateChanged (childId : Text) (state : ContainerState) (supervisor : SpawningSupervisor) :
    SpawningSupervisor :=
  match supervisor.delegatedChildren childId with
  | none => supervisor
  | some requesterId =>
      if state = .stopped ∨ state = .destroyed then
        { supervisor with
          delegationTracker := supervisor.delegationTracker.map
            (DelegationTracker.recordCompletion requesterId childId)
          delegatedChildren := Function.update supervisor.delegatedChildren childId none }
      else supervisor

end SpawningSupervisor

/-- The call returns an approval. -/
def Approved (reply : Except PyExc DelegationResult) : Prop :=
  ∃ result, reply = .ok result ∧ result.approved = true

/-! ## The overrides -/

namespace ContainerContext

/-- The name may be overridden, or is ignored. -/
def Overridable (otherAttribute : Text → OtherAttribute) (key : Text) : Prop :=
  key ∉ fields → ∀ raised, otherAttribute key ≠ .raises raised

variable {otherAttribute : Text → OtherAttribute} {context final : ContainerContext}
  {entry : Text × Text} {entries : List (Text × Text)}

theorem override_ok_iff :
    (∃ next, context.override otherAttribute entry = .ok next) ↔
      Overridable otherAttribute entry.1 := by
  unfold override Overridable
  by_cases field : entry.1 ∈ fields
  · simp [field]
  · rw [if_neg field, forall_prop_of_true field]
    rcases otherAttribute entry.1 with _ | _ | raised <;> simp

/-- The overrides are applied when none of them raises. -/
theorem applyOverrides_ok_iff :
    (∃ final, context.applyOverrides otherAttribute entries = .ok final) ↔
      ∀ entry ∈ entries, Overridable otherAttribute entry.1 := by
  induction entries generalizing context with
  | nil => exact iff_of_true ⟨context, rfl⟩ (by simp)
  | cons entry entries ih =>
      rw [List.forall_mem_cons, ← @override_ok_iff otherAttribute context entry]
      unfold applyOverrides
      simp only [PyExc.bind_eq_ok_iff]
      constructor
      · rintro ⟨final, next, overridden, rest⟩
        exact ⟨⟨next, overridden⟩, ih.mp ⟨final, rest⟩⟩
      · rintro ⟨⟨next, overridden⟩, rest⟩
        obtain ⟨final, applied⟩ := (@ih next).mpr rest
        exact ⟨final, next, overridden, applied⟩

/-- A field of the context that one key sets has the value of the override with this key, if
there is one. -/
theorem applyOverrides_field {α : Type} {field : ContainerContext → α} {name : Text}
    {write : Text → α} (known : name ∈ fields)
    (sets : ∀ key value context,
      field (setField key value context) = if key = name then write value else field context)
    (distinct : (entries.map Prod.fst).Nodup)
    (applied : context.applyOverrides otherAttribute entries = .ok final) :
    field final =
      (((entries.find? fun entry => entry.1 = name).map Prod.snd).map write).getD
        (field context) := by
  induction entries generalizing context with
  | nil =>
      cases applied
      rfl
  | cons entry entries ih =>
      rw [List.map_cons, List.nodup_cons] at distinct
      unfold applyOverrides at applied
      obtain ⟨next, overridden, rest⟩ := PyExc.bind_eq_ok_iff.mp applied
      rw [ih distinct.2 rest]
      by_cases own : entry.1 = name
      · have later : entries.find? (fun entry => entry.1 = name) = none := by
          rw [List.find?_eq_none]
          intro other member same
          apply distinct.1
          rw [own, ← of_decide_eq_true same]
          exact List.mem_map_of_mem member
        unfold override at overridden
        rw [if_pos (own ▸ known)] at overridden
        cases overridden
        rw [later, List.find?_cons_of_pos (by simpa using own), sets, if_pos own]
        rfl
      · have same : field next = field context := by
          unfold override at overridden
          split at overridden
          · cases overridden
            rw [sets, if_neg own]
          · split at overridden
            · cases overridden
            · cases overridden
              rfl
        rw [List.find?_cons_of_neg (by simpa using own), same]

end ContainerContext

/-! ## The outcome of a request -/

namespace SpawningSupervisor

/-- The request passes the check of the policy. -/
def PassesPolicy (setting : SpawnSetting) (course : SpawnCourse) (request : SpawnRequest)
    (supervisor : SpawningSupervisor) : Prop :=
  ∃ tracker, supervisor.delegationTracker = some tracker ∧
    (tracker.canDelegate setting.py course.checkedAt request.requesterId
      request.agentType).1 = true

/-- The agent types, if they are set, have the type of the request, and no override raises. -/
def Buildable (setting : SpawnSetting) (request : SpawnRequest) : Prop :=
  (∀ agentTypes, setting.agentTypes = some agentTypes → agentTypes request.agentType ≠ none) ∧
    ∀ entry ∈ request.contextOverrides.entries,
      ContainerContext.Overridable setting.otherAttribute entry.1

variable {setting : SpawnSetting} {course : SpawnCourse} {request : SpawnRequest}
  {supervisor : SpawningSupervisor} {agentId : Text}

theorem typeConfig_ok_iff {agentType : Text} :
    (∃ config, typeConfig setting agentType = .ok config) ↔
      ∀ agentTypes, setting.agentTypes = some agentTypes → agentTypes agentType ≠ none := by
  unfold typeConfig
  rcases setting.agentTypes with _ | agentTypes
  · simp
  · rcases found : agentTypes agentType with _ | config
    · simp [found]
    · simp [found]

theorem spec_ok_iff :
    (∃ spec, supervisor.spec setting agentId request = .ok spec) ↔ Buildable setting request := by
  unfold spec Buildable
  rw [← typeConfig_ok_iff]
  simp only [PyExc.bind_eq_ok_iff]
  constructor
  · rintro ⟨_, config, found, context, applied, _⟩
    exact ⟨⟨config, found⟩, ContainerContext.applyOverrides_ok_iff.mp ⟨context, applied⟩⟩
  · rintro ⟨⟨config, found⟩, overridable⟩
    obtain ⟨context, applied⟩ := (@ContainerContext.applyOverrides_ok_iff setting.otherAttribute
      (supervisor.context agentId request.agentType config) _).mpr overridable
    exact ⟨_, config, found, context, applied, rfl⟩

/-- The three ways of a request: nothing happens; the start raises, and the specification is on
the list; or the delegation is recorded. -/
theorem handleDelegationRequest_cases (setting : SpawnSetting) (course : SpawnCourse)
    (request : SpawnRequest) (supervisor : SpawningSupervisor) :
    (¬ (supervisor.PassesPolicy setting course request ∧ Buildable setting request) ∧
      (supervisor.handleDelegationRequest setting course request).1 = supervisor ∧
      ¬ Approved (supervisor.handleDelegationRequest setting course request).2) ∨
    ∃ tracker spec, supervisor.delegationTracker = some tracker ∧
      (supervisor.PassesPolicy setting course request ∧ Buildable setting request) ∧
      supervisor.spec setting (delegatedId request.requesterId course.hex) request = .ok spec ∧
      supervisor.handleDelegationRequest setting course request =
        match course.startRaises with
        | some raised =>
            ({ supervisor with childSpecs := supervisor.childSpecs ++ [spec] }, .error raised)
        | none =>
            ({ supervisor with
                childSpecs := supervisor.childSpecs ++ [spec]
                delegationTracker := some (tracker.recordDelegation course.recordedAt
                  request.requesterId (delegatedId request.requesterId course.hex))
                delegatedChildren := Function.update supervisor.delegatedChildren
                  (delegatedId request.requesterId course.hex) (some request.requesterId) },
              .ok { approved := true
                    agentId := some (delegatedId request.requesterId course.hex) }) := by
  unfold handleDelegationRequest PassesPolicy
  rcases supervisor.delegationTracker with _ | tracker
  · left
    refine ⟨?_, rfl, ?_⟩
    · rintro ⟨⟨tracker, enabled, _⟩, _⟩
      cases enabled
    · rintro ⟨_, ⟨⟩, approved⟩
      cases approved
  · dsimp only
    rcases check : tracker.canDelegate setting.py course.checkedAt request.requesterId
      request.agentType with ⟨_ | _, reason⟩
    · left
      refine ⟨?_, rfl, ?_⟩
      · rintro ⟨⟨_, ⟨⟩, passes⟩, _⟩
        rw [check] at passes
        cases passes
      · rintro ⟨_, ⟨⟩, approved⟩
        cases approved
    · rw [← @spec_ok_iff setting request supervisor (delegatedId request.requesterId course.hex)]
      dsimp only
      rcases supervisor.spec setting (delegatedId request.requesterId course.hex) request with
        raised | spec
      · left
        refine ⟨?_, rfl, ?_⟩
        · rintro ⟨_, _, built⟩
          cases built
        · rintro ⟨_, returned, _⟩
          cases returned
      · right
        refine ⟨tracker, spec, rfl, ⟨⟨tracker, rfl, by rw [check]⟩, spec, rfl⟩, rfl, ?_⟩
        cases course.startRaises <;> rfl

/-! ## The tracker and the map

A supervisor with a tracker, seen as a `DelegatingSupervisor` with no start under way. -/

/-- The tracker and the map of delegated children. -/
def delegating (tracker : DelegationTracker) (supervisor : SpawningSupervisor) :
    DelegatingSupervisor where
  tracker := tracker
  starting := []
  delegatedChildren := supervisor.delegatedChildren

/-- A request whose start returns is answered and recorded as in the model of overlapping
requests. -/
theorem handleDelegationRequest_delegating {tracker : DelegationTracker}
    (enabled : supervisor.delegationTracker = some tracker)
    (buildable : Buildable setting request) (started : course.startRaises = none) :
    let waiting := (supervisor.delegating tracker).requestDelegation setting.py course.checkedAt
      request.toDelegationRequest course.hex
    let outcome := supervisor.handleDelegationRequest setting course request
    match waiting.2 with
    | some refusal => outcome = (supervisor, .ok refusal)
    | none =>
        ∃ start tracker', waiting.1.starting = [start] ∧
          outcome.1.delegationTracker = some tracker' ∧
          (waiting.1.startReturns course.recordedAt start) =
            (outcome.1.delegating tracker', { approved := true, agentId := some start.agentId }) ∧
          outcome.2 = .ok { approved := true, agentId := some start.agentId } := by
  intro waiting outcome
  rcases supervisor.handleDelegationRequest_cases setting course request with
    ⟨refused, _, _⟩ | ⟨_, spec, same, ⟨⟨_, same', passes⟩, _⟩, _, recorded⟩
  · rcases check : tracker.canDelegate setting.py course.checkedAt request.requesterId
      request.agentType with ⟨_ | _, reason⟩
    · have refusal : waiting.2 = some { approved := false, reason } := by
        unfold waiting DelegatingSupervisor.requestDelegation delegating
        rw [check]
      rw [refusal]
      unfold outcome handleDelegationRequest
      rw [enabled]
      dsimp only
      rw [check]
    · exact absurd ⟨⟨tracker, enabled, by rw [check]⟩, buildable⟩ refused
  · obtain rfl := Option.some.inj (enabled.symm.trans same)
    obtain rfl := Option.some.inj (enabled.symm.trans same')
    rcases check : tracker.canDelegate setting.py course.checkedAt request.requesterId
      request.agentType with ⟨_ | _, reason⟩
    · rw [check] at passes
      cases passes
    · have waits : waiting =
          ({ supervisor.delegating tracker with
              starting :=
                [⟨delegatedId request.requesterId course.hex, request.requesterId⟩] }, none) := by
        unfold waiting DelegatingSupervisor.requestDelegation
        rw [show (supervisor.delegating tracker).tracker = tracker from rfl, check]
        rfl
      rw [started] at recorded
      rw [waits, show outcome = _ from recorded]
      refine ⟨_, _, rfl, rfl, ?_, rfl⟩
      simp [DelegatingSupervisor.startReturns, delegating]

/-- A report releases a delegation as in the model of overlapping requests. -/
theorem stateChanged_delegating {tracker : DelegationTracker}
    (enabled : supervisor.delegationTracker = some tracker) (childId : Text)
    (state : ContainerState) :
    ∃ tracker', (supervisor.stateChanged childId state).delegationTracker = some tracker' ∧
      (supervisor.stateChanged childId state).delegating tracker' =
        (supervisor.delegating tracker).stateChanged childId state := by
  unfold stateChanged DelegatingSupervisor.stateChanged delegating
  rcases delegated : supervisor.delegatedChildren childId with _ | requesterId
  · exact ⟨tracker, enabled, by simp [delegated]⟩
  · by_cases ends : state = .stopped ∨ state = .destroyed
    · simp [ends, enabled, delegated]
    · exact ⟨tracker, by simp [ends, enabled], by simp [ends, delegated]⟩

/-! ## Failed delegations -/

/-- The specifications, the tracker and the map of delegated children are the same. -/
structure NoTrace (before after : SpawningSupervisor) : Prop where
  childSpecs : after.childSpecs = before.childSpecs
  tracker : after.delegationTracker = before.delegationTracker
  delegated : after.delegatedChildren = before.delegatedChildren

/-- **Failed delegations.** A request that is not approved leaves no trace exactly if it does
not come as far as the start of its child, or the start returns. -/
theorem failed_delegation_leaves_no_trace_iff (setting : SpawnSetting) (course : SpawnCourse)
    (request : SpawnRequest) (supervisor : SpawningSupervisor) :
    (¬ Approved (supervisor.handleDelegationRequest setting course request).2 →
        NoTrace supervisor (supervisor.handleDelegationRequest setting course request).1) ↔
      ¬ (supervisor.PassesPolicy setting course request ∧ Buildable setting request) ∨
        course.startRaises = none := by
  rcases supervisor.handleDelegationRequest_cases setting course request with
    ⟨refused, same, _⟩ | ⟨tracker, spec, _, reached, _, outcome⟩
  · rw [same]
    exact iff_of_true (fun _ => ⟨rfl, rfl, rfl⟩) (.inl refused)
  · rw [outcome, or_iff_right (not_not_intro reached)]
    rcases course.startRaises with _ | raised
    · refine iff_of_true (fun refused => absurd ?_ refused) rfl
      exact ⟨_, rfl, rfl⟩
    · refine iff_of_false (fun noTrace => ?_) (Option.some_ne_none raised)
      have unapproved : ¬ Approved (.error raised) := by
        rintro ⟨_, returned, _⟩
        cases returned
      have grown := (noTrace unapproved).childSpecs
      exact List.cons_ne_nil _ _ (List.append_right_eq_self.mp grown)

/-- A supervisor that lets its agents delegate. -/
def delegatingSupervisor : SpawningSupervisor := init "project-alpha" [] (some {})

def plainSetting : SpawnSetting where
  py := typeRuntime
  agentTypes := none
  otherAttribute _ := .absent

/-- The start of the child raises: its specification stays on the list. -/
theorem unstarted_child_stays_listed :
    ¬ ∀ (setting : SpawnSetting) (course : SpawnCourse) (request : SpawnRequest)
      (supervisor : SpawningSupervisor),
      ¬ Approved (supervisor.handleDelegationRequest setting course request).2 →
        NoTrace supervisor (supervisor.handleDelegationRequest setting course request).1 := by
  intro claim
  have noTrace := claim plainSetting ⟨"1f00aa", 1, 1, some .other⟩ { requesterId := "pm" }
    delegatingSupervisor (by rintro ⟨_, ⟨⟩, _⟩)
  exact List.cons_ne_nil _ _ noTrace.childSpecs

/-! ## Overrides and the policy -/

/-- The context of the child that was put on the list is within the policy, and names the child
and the supervisor. -/
def PolicyHeld (policy : DelegationPolicy) (request : SpawnRequest) (result : DelegationResult)
    (before after : SpawningSupervisor) : Prop :=
  ∃ spec, after.childSpecs = before.childSpecs ++ [spec] ∧
    result.agentId = some spec.childId ∧
    after.delegatedChildren spec.childId = some request.requesterId ∧
    spec.context.agentType ∈ policy.allowedAgentTypes ∧
    spec.context.agentId = spec.childId ∧
    spec.context.parentId = some before.supervisorId ∧
    spec.context.projectId = before.projectId

/-- The condition on the overrides: a type is an allowed one, and an id or a parent or a project
is what the context has anyway. -/
structure OverridesRespect (policy : DelegationPolicy) (agentId : Text)
    (supervisor : SpawningSupervisor) (overrides : Dict Text Text) : Prop where
  agentType : ∀ value ∈ overrides.get? "agent_type", value ∈ policy.allowedAgentTypes
  agentId : ∀ value ∈ overrides.get? "agent_id", value = agentId
  parentId : ∀ value ∈ overrides.get? "parent_id", value = supervisor.supervisorId
  projectId : ∀ value ∈ overrides.get? "project_id", some value = supervisor.projectId

/-- What the overrides leave of the context. -/
theorem spec_context {spec : SpawnSpec}
    (built : supervisor.spec setting agentId request = .ok spec) :
    spec.childId = agentId ∧
      spec.context.agentType =
        ((request.contextOverrides.get? "agent_type").map id).getD request.agentType ∧
      spec.context.agentId = ((request.contextOverrides.get? "agent_id").map id).getD agentId ∧
      spec.context.parentId =
        ((request.contextOverrides.get? "parent_id").map some).getD
          (some supervisor.supervisorId) ∧
      spec.context.projectId =
        ((request.contextOverrides.get? "project_id").map some).getD supervisor.projectId := by
  unfold SpawningSupervisor.spec at built
  obtain ⟨config, _, rest⟩ := PyExc.bind_eq_ok_iff.mp built
  obtain ⟨context, applied, returned⟩ := PyExc.bind_eq_ok_iff.mp rest
  cases returned
  have distinct := request.contextOverrides.distinct
  refine ⟨rfl, ?_, ?_, ?_, ?_⟩
  · exact ContainerContext.applyOverrides_field (by decide) (fun _ _ _ => rfl) distinct applied
  · exact ContainerContext.applyOverrides_field (by decide) (fun _ _ _ => rfl) distinct applied
  · exact ContainerContext.applyOverrides_field (by decide) (fun _ _ _ => rfl) distinct applied
  · exact ContainerContext.applyOverrides_field (by decide) (fun _ _ _ => rfl) distinct applied

private theorem forall_getD_iff {α : Type} {found : Option Text} {write : Text → α} {default : α}
    {meets : α → Prop} (otherwise : meets default) :
    meets ((found.map write).getD default) ↔ ∀ value ∈ found, meets (write value) := by
  cases found <;> simp [otherwise]

/-- **Overrides and the policy.** The child of an approved request is within the policy exactly
if the overrides of its type, its id, its parent and its project are. -/
theorem overrides_respect_policy_iff {tracker : DelegationTracker} {result : DelegationResult}
    (enabled : supervisor.delegationTracker = some tracker)
    (returned : (supervisor.handleDelegationRequest setting course request).2 = .ok result)
    (approved : result.approved = true) :
    PolicyHeld tracker.policy request result supervisor
        (supervisor.handleDelegationRequest setting course request).1 ↔
      OverridesRespect tracker.policy (delegatedId request.requesterId course.hex) supervisor
        request.contextOverrides := by
  rcases supervisor.handleDelegationRequest_cases setting course request with
    ⟨_, _, refused⟩ | ⟨_, spec, same, ⟨⟨_, same', passes⟩, _⟩, built, outcome⟩
  · exact absurd ⟨result, returned, approved⟩ refused
  obtain rfl := Option.some.inj (enabled.symm.trans same)
  obtain rfl := Option.some.inj (enabled.symm.trans same')
  have allowed := (DelegationTracker.canDelegate_iff.mp passes).1
  obtain ⟨childId, agentType, agentId, parentId, projectId⟩ := spec_context built
  rw [outcome] at returned ⊢
  rcases started : course.startRaises with _ | raised
  · rw [started] at returned
    obtain rfl := Except.ok.inj returned
    dsimp only [PolicyHeld]
    constructor
    · rintro ⟨other, appended, _, _, held⟩
      obtain rfl := List.singleton_injective (List.append_cancel_left appended)
      rw [agentType, agentId, parentId, projectId, childId] at held
      exact {
        agentType := (forall_getD_iff allowed).mp held.1
        agentId := (@forall_getD_iff _ _ id _ (· = _) rfl).mp held.2.1
        parentId := fun value given => Option.some.inj
          ((@forall_getD_iff _ _ some _ (· = _) rfl).mp held.2.2.1 value given)
        projectId := (@forall_getD_iff _ _ some _ (· = _) rfl).mp held.2.2.2 }
    · intro respect
      refine ⟨spec, rfl, by rw [childId], by rw [childId, Function.update_self], ?_⟩
      rw [agentType, agentId, parentId, projectId, childId]
      exact ⟨(forall_getD_iff allowed).mpr respect.agentType,
        (@forall_getD_iff _ _ id _ (· = _) rfl).mpr respect.agentId,
        (@forall_getD_iff _ _ some _ (· = _) rfl).mpr fun value given =>
          congrArg some (respect.parentId value given),
        (@forall_getD_iff _ _ some _ (· = _) rfl).mpr respect.projectId⟩
  · rw [started] at returned
    cases returned

/-- A request whose overrides name an allowed type and the supervisor, beside a command. -/
def confinedRequest : SpawnRequest where
  requesterId := "pm"
  contextOverrides :=
    Dict.set (Dict.set (Dict.set Dict.empty "agent_type" "gsd") "parent_id" "project-alpha")
      "gsd_command" "/gsd:quick"

theorem confined_request_within_policy :
    PolicyHeld {} confinedRequest ⟨true, some (delegatedId "pm" "1f00aa"), []⟩
      delegatingSupervisor
      (delegatingSupervisor.handleDelegationRequest plainSetting ⟨"1f00aa", 1, 1, none⟩
        confinedRequest).1 := by
  refine (@overrides_respect_policy_iff plainSetting ⟨"1f00aa", 1, 1, none⟩ confinedRequest
    delegatingSupervisor (.init {}) _ rfl rfl rfl).mpr ?_
  exact ⟨by decide, by decide, by decide, by decide⟩

/-- A request for a type that is allowed, which overrides it by one that is not. -/
def overridingRequest : SpawnRequest where
  requesterId := "pm"
  contextOverrides := Dict.empty.set "agent_type" "company"

/-- The child of an approved request has a type that the policy does not allow. -/
theorem override_escapes_policy :
    ¬ ∀ (setting : SpawnSetting) (course : SpawnCourse) (request : SpawnRequest)
      (supervisor : SpawningSupervisor) (tracker : DelegationTracker) (result : DelegationResult),
      supervisor.delegationTracker = some tracker →
      (supervisor.handleDelegationRequest setting course request).2 = .ok result →
      result.approved = true →
        PolicyHeld tracker.policy request result supervisor
          (supervisor.handleDelegationRequest setting course request).1 := by
  intro claim
  obtain ⟨spec, appended, _, _, allowed, _⟩ := claim plainSetting ⟨"1f00aa", 1, 1, none⟩
    overridingRequest delegatingSupervisor (.init {}) _ rfl rfl rfl
  have company : spec.context.agentType = ("company" : Text) := by
    rw [← List.singleton_injective (List.append_cancel_left appended)]
    rfl
  rw [company] at allowed
  exact absurd allowed (by decide)

end SpawningSupervisor

end Vcompany.Supervisor
