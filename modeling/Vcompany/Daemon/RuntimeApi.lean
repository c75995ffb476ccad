import Vcompany.Bot.MentionRouter
import Vcompany.Supervisor.RoutingRecords

/-! # Who is reachable

The runtime API hires and dismisses agents through the company root, and registers the agents
that it has hired with the mention router. The root also takes an agent back after a restart, and
loses one by a dismissal, without a word to the router; and a project that is removed takes the
Strategist out of it. The two agree as long as no agent comes or goes in one of these ways
(`agents_stay_reachable`).

A handle is an object. It is known here by its agent and by the number of the operation that
created it.
-/

namespace Vcompany.Daemon

open Foundation Transport Supervisor Vcompany.Bot

/-- What is registered with the router: a handle of the company root, or a child of a project. -/
inductive Registrant where
  | handle (agentId : Text) (number : ℕ)
  | child (childId : Text)
  deriving DecidableEq

/-- `RuntimeAPI`, with the router that it was given. -/
structure RuntimeApi where
  channelIds : Dict Text Text
  mentionRouter : Option (MentionRouter Registrant)

/-- A child of a project supervisor. The project manager is the one that has a `backlog`. -/
structure ProjectChild where
  childId : Text
  hasBacklog : Bool

/-- A daemon: the company, the numbers of the handles in `_company_agents`, and the projects of
the root. There is no runtime API before the daemon has started. -/
structure DaemonState where
  company : Company
  handles : Dict Text ℕ
  created : ℕ
  projects : Dict Text (List ProjectChild)
  runtimeApi : Option RuntimeApi

def strategistId : Text := "strategist".toList

def strategistHandle : Text := "Strategist".toList

def agentPrefix : Text := "agent-".toList

def taskPrefix : Text := "task-".toList

def pmPrefix : Text := "PM".toList

namespace RuntimeApi

variable (api : RuntimeApi)

/-- `get_channel_id`. -/
def getChannelId (name : Text) : Option Text := api.channelIds.get? name

/-- `register_channels`. -/
def registerChannels (channels : Dict Text Text) : RuntimeApi :=
  { api with
    channelIds :=
      channels.entries.foldl (fun known (name, id) => known.set name id) api.channelIds }

/-- Change the router, if there is one. -/
def adjustRouter (change : MentionRouter Registrant → MentionRouter Registrant) : RuntimeApi :=
  { api with mentionRouter := api.mentionRouter.map change }

/-- What the router has under the name. -/
def registrant (name : Text) : Option Registrant :=
  api.mentionRouter.bind (·.agentHandles.get? name)

/-- The channel that the router has for the name. -/
def channelOf (name : Text) : Option Text :=
  api.mentionRouter.bind (·.handleChannels.get? name)

end RuntimeApi

/-- A call of `RuntimeAPI.hire`, and how it goes: what `create_channel` gives, the steps of the
root, and whether the confirmation can be sent. -/
structure Hiring where
  agentId : Text
  agentType : Option Text := none
  channel : Except PyExc (Option Text)
  outcome : HireOutcome
  confirmed : Bool

namespace Hiring

variable (hiring : Hiring)

def request (channelId : Option Text) : HireRequest where
  agentId := hiring.agentId
  agentType := hiring.agentType
  channelId := channelId

/-- The name of the channel. -/
def channelName : Text := taskPrefix ++ hiring.agentId

/-- The name with the router. -/
def handleName : Text := agentPrefix ++ hiring.agentId

end Hiring

/-- `if channel_id`. -/
def isGiven (channelId : Option Text) : Bool := decide (channelId ≠ none ∧ channelId ≠ some [])

/-- How a project is initialized: whether the supervisor is added, with which children, and whether
the backlog can be loaded. -/
structure ProjectStart where
  project : Text
  added : Bool
  children : List ProjectChild
  loaded : Bool

/-- How a daemon starts: what the root does, whether the bot has the router's cog, the system
channels, the text of the Strategist's persona, how it is hired, and the project, if there is
one. -/
structure DaemonStart where
  restart : Company.Restart
  routerLoaded : Bool
  systemChannels : Dict Text Text
  persona : Except PyExc Text
  strategist : HireOutcome
  project : Option ProjectStart

namespace DaemonState

variable (installation : Installation) (state : DaemonState)

/-- `CompanyRoot.hire`: the handle it returns is the one it has stored. -/
def engage (request : HireRequest) (outcome : HireOutcome) :
    Except PyExc Registrant × DaemonState :=
  let (result, company) := state.company.hire installation request outcome
  (result.map fun _ => .handle request.agentId state.created,
    if state.company.Registers request outcome then
      { state with
        company
        handles := state.handles.set request.agentId state.created
        created := state.created + 1 }
    else { state with company })

/-- `RuntimeAPI.hire`. -/
def hire (hiring : Hiring) : Except PyExc Text × DaemonState :=
  match state.runtimeApi with
  | none => (.error .other, state)
  | some api =>
      match hiring.channel with
      | .error raised => (.error raised, state)
      | .ok channel =>
          let noted := match channel with
            | none => api
            | some id => { api with channelIds := api.channelIds.set hiring.channelName id }
          match { state with runtimeApi := some noted }.engage installation
              (hiring.request channel) hiring.outcome with
          | (.error raised, left) => (.error raised, left)
          | (.ok handle, left) =>
              if isGiven channel && !hiring.confirmed then (.error .other, left)
              else (.ok hiring.agentId, { left with runtimeApi := some (noted.adjustRouter
                (·.registerAgentHandle hiring.handleName handle channel)) })

/-- `RuntimeAPI.dismiss`. -/
def dismiss (agentId : Text) (stopping : Stopping) (saving : Saving) :
    Except PyExc Unit × DaemonState :=
  match state.runtimeApi with
  | none => (.error .other, state)
  | some _ =>
      let (result, company) := state.company.dismiss installation agentId stopping saving
      (result, { state with company })

/-- The names that `remove_project` unregisters. -/
def leavingNames (projectName : Text) : List Text :=
  ((state.projects.get? projectName).getD []).map (fun child =>
    if child.hasBacklog then pmPrefix ++ projectName else agentPrefix ++ child.childId) ++
      [strategistHandle]

/-- `RuntimeAPI.remove_project`, when the supervisor's `stop` goes through or raises. -/
def removeProject (projectName : Text) (stopped : Bool) : Except PyExc Unit × DaemonState :=
  match state.runtimeApi with
  | none => (.error .other, state)
  | some api =>
      let unregistered := { state with runtimeApi := some (api.adjustRouter fun router =>
        (state.leavingNames projectName).foldl MentionRouter.unregisterAgent router) }
      match state.projects.get? projectName with
      | none => (.error .keyError, unregistered)
      | some _ =>
          (if stopped then .ok () else .error .other,
            { unregistered with projects := state.projects.pop projectName })

def strategistRequest (channelId : Option Text) (persona : Text) : HireRequest where
  agentId := strategistId
  agentType := some "company".toList
  channelId := channelId
  persona := some persona

/-- `create_strategist`. -/
def createStrategist (persona : Except PyExc Text) (outcome : HireOutcome) :
    Except PyExc Unit × DaemonState :=
  match state.runtimeApi, persona with
  | none, _ => (.error .other, state)
  | some _, .error raised => (.error raised, state)
  | some api, .ok text =>
      let channel := api.getChannelId strategistId
      match state.engage installation (strategistRequest channel text) outcome with
      | (.error raised, left) => (.error raised, left)
      | (.ok handle, left) => (.ok (), { left with runtimeApi := some (api.adjustRouter
          (·.registerAgentHandle strategistHandle handle channel)) })

/-- The registration of the children of a project, that of the project manager first. -/
def registerChildren (project : Text) (children : List ProjectChild) (api : RuntimeApi) :
    RuntimeApi :=
  let managed := match children.find? ProjectChild.hasBacklog with
    | none => api
    | some manager => api.adjustRouter (·.registerAgent (pmPrefix ++ project)
        (.child manager.childId) (api.getChannelId "decisions".toList))
  (children.filter (!·.hasBacklog)).foldl (fun api child =>
    api.adjustRouter (·.registerAgent (agentPrefix ++ child.childId) (.child child.childId)
      (api.getChannelId (agentPrefix ++ child.childId)))) managed

/-- `new_project`, after the Strategist. -/
def addProject (start : ProjectStart) : Except PyExc Unit × DaemonState :=
  if start.added = false then (.error .other, state)
  else
    let added := { state with projects := state.projects.set start.project start.children }
    if (start.children.find? ProjectChild.hasBacklog).isSome && !start.loaded then
      (.error .other, added)
    else (.ok (), { added with
      runtimeApi := state.runtimeApi.map (registerChildren start.project start.children) })

/-- `_init_project`. -/
def initProject (start : DaemonStart) : Except PyExc Unit × DaemonState :=
  match state.createStrategist installation start.persona start.strategist, start.project with
  | (.error raised, left), _ => (.error raised, left)
  | (.ok _, created), none => (.ok (), created)
  | (.ok _, created), some project => created.addProject project

/-- There is no root and no runtime API any more. -/
def down : DaemonState :=
  { state with company := { state.company with root := none }, runtimeApi := none }

/-- `_create_runtime_api`, once the root has started. -/
def createRuntimeApi (start : DaemonStart) (company : Company) : DaemonState where
  company := company
  handles := match company.root with
    | none => .empty
    | some root => root.agents.filterMap fun _ => some state.created
  created := state.created + 1
  projects := .empty
  runtimeApi := some (RuntimeApi.registerChannels
    ⟨.empty, if start.routerLoaded then some .empty else none⟩ start.systemChannels)

/-- The daemon ends, and a new one starts. An exception ends it. -/
def restart (start : DaemonStart) : DaemonState :=
  match state.company.restart installation start.restart with
  | (.error _, company) => { state with company }.down
  | (.ok _, company) =>
      match (state.createRuntimeApi start company).initProject installation start with
      | (.error _, left) => left.down
      | (.ok _, started) => started

end DaemonState

/-- What happens to a daemon, with how it goes. -/
inductive RuntimeCall where
  | hire (hiring : Hiring)
  | dismiss (agentId : Text) (stopping : Stopping) (saving : Saving)
  | removeProject (projectName : Text) (stopped : Bool)
  | restart (start : DaemonStart)

namespace DaemonState

/-- What a call leaves. -/
def perform (installation : Installation) (state : DaemonState) : RuntimeCall → DaemonState
  | .hire hiring => (state.hire installation hiring).2
  | .dismiss agentId stopping saving => (state.dismiss installation agentId stopping saving).2
  | .removeProject projectName stopped => (state.removeProject projectName stopped).2
  | .restart start => state.restart installation start

/-- A daemon that has not started yet. -/
def unstarted (company : Company) : DaemonState where
  company := { company with root := none }
  handles := .empty
  created := 0
  projects := .empty
  runtimeApi := none

end DaemonState

/-! ## Reachability -/

/-- The name of an agent's channel. -/
def channelName (agentId : Text) : Text :=
  if agentId = strategistId then strategistId else taskPrefix ++ agentId

/-- The agents that are registered with the router are those of the root, each with the handle
that the root has stored and with its channel; and an agent's channel can be looked up. -/
structure Registered (api : RuntimeApi) (agents : Dict Text AgentHandle) (handles : Dict Text ℕ) :
    Prop where
  registered : ∀ agentId, agentId ∈ agents.keys ↔
    ∃ name number, api.registrant name = some (.handle agentId number)
  current : ∀ name agentId number, api.registrant name = some (.handle agentId number) →
    handles.get? agentId = some number ∧ ∃ handle, agents.get? agentId = some handle ∧
      api.channelOf name = handle.channelId
  resolved : ∀ agentId handle channel, agents.get? agentId = some handle →
    handle.channelId = some channel → api.getChannelId (channelName agentId) = some channel

namespace DaemonState

variable (installation : Installation) (state : DaemonState)

/-- While the daemon runs, its agents are reachable. -/
def Reachable : Prop :=
  ∀ api root, state.runtimeApi = some api → state.company.root = some root →
    Registered api root.agents state.handles

/-- A hire that comes to the registration with the root comes to that with the router, where the
agent has no other name or channel; and one that does not come to the former notes no other
channel for an agent that is there. -/
def GoesThrough (api : RuntimeApi) (hiring : Hiring) : Prop :=
  ∀ channel, hiring.channel = .ok channel →
    (state.company.Registers (hiring.request channel) hiring.outcome →
      (installation.dataDir = true → hiring.outcome.saving = .succeeds) ∧
        (isGiven channel = true → hiring.confirmed = true) ∧
        hiring.agentId ≠ strategistId ∧ api.mentionRouter.isSome = true ∧
        (channel = none → api.channelOf hiring.handleName = none)) ∧
    (¬ state.company.Registers (hiring.request channel) hiring.outcome →
      ∀ root handle known, state.company.root = some root →
        root.agents.get? hiring.agentId = some handle → handle.channelId = some known →
          hiring.agentId = strategistId ∨ channel = none ∨ channel = some known)

/-- The call leaves no agent without its registration: a hire goes through, no agent of the root
is dismissed, no name of one is unregistered with a project, and a daemon that starts has the
router and reconnects to no other agent than the Strategist. -/
def Covered : RuntimeCall → Prop
  | .hire hiring => ∀ api, state.runtimeApi = some api →
      state.GoesThrough installation api hiring
  | .dismiss agentId _ _ => ∀ root, state.runtimeApi.isSome = true →
      state.company.root = some root → agentId ∉ root.agents.keys
  | .removeProject projectName _ => ∀ api, state.runtimeApi = some api →
      ∀ name ∈ state.leavingNames projectName, ∀ agentId number,
        api.registrant name ≠ some (.handle agentId number)
  | .restart start => start.routerLoaded = true ∧ (installation.dataDir = true →
      ∀ stored, RoutingState.load state.company.file = .ok stored →
        ∀ agentId routing, stored.agents.get? agentId = some routing →
          Company.Reachable (state.company.survivors start.restart.shutdown)
            start.restart.reaches agentId routing → agentId = strategistId)

end DaemonState

/-! ## Names -/

/-- The name that an agent has with the router. -/
def handleName (agentId : Text) : Text :=
  if agentId = strategistId then strategistHandle else agentPrefix ++ agentId

theorem handleName_inj {agentId other : Text} (same : handleName agentId = handleName other) :
    agentId = other := by
  unfold handleName at same
  split at same <;> split at same
  · next own own' => exact own.trans own'.symm
  · cases same
  · cases same
  · exact List.append_cancel_left same

theorem channelName_ne {agentId other : Text} (apart : other ≠ agentId ∨ other = strategistId) :
    channelName other ≠ taskPrefix ++ agentId := by
  unfold channelName
  split
  · exact nofun
  · next plain => exact fun same => apart.elim (· (List.append_cancel_left same)) plain

/-! ## Registrations -/

namespace RuntimeApi

variable {api : RuntimeApi} {name other : Text} {registrant : Registrant} {channel : Option Text}

theorem registrant_enter (present : api.mentionRouter.isSome = true) :
    (api.adjustRouter (·.enter name registrant channel)).registrant name = some registrant := by
  obtain ⟨router, found⟩ := Option.isSome_iff_exists.mp present
  unfold adjustRouter RuntimeApi.registrant
  rw [found]
  cases channel <;> exact Dict.get?_set_self _ _ _

theorem registrant_enter_of_ne (apart : other ≠ name) :
    (api.adjustRouter (·.enter name registrant channel)).registrant other =
      api.registrant other := by
  unfold adjustRouter RuntimeApi.registrant
  cases api.mentionRouter with
  | none => rfl
  | some router => cases channel <;> exact Dict.get?_set_of_ne _ _ apart

theorem channelOf_enter (present : api.mentionRouter.isSome = true)
    (fresh : channel = none → api.channelOf name = none) :
    (api.adjustRouter (·.enter name registrant channel)).channelOf name = channel := by
  obtain ⟨router, found⟩ := Option.isSome_iff_exists.mp present
  unfold adjustRouter channelOf at *
  rw [found] at fresh ⊢
  cases channel with
  | none => exact fresh rfl
  | some id => exact Dict.get?_set_self _ _ _

theorem channelOf_enter_of_ne (apart : other ≠ name) :
    (api.adjustRouter (·.enter name registrant channel)).channelOf other = api.channelOf other := by
  unfold adjustRouter channelOf
  cases api.mentionRouter with
  | none => rfl
  | some router =>
      cases channel with
      | none => rfl
      | some id => exact Dict.get?_set_of_ne _ _ apart

theorem registrant_unregister_of_ne (apart : other ≠ name) :
    (api.adjustRouter (·.unregisterAgent name)).registrant other = api.registrant other := by
  unfold adjustRouter RuntimeApi.registrant
  cases api.mentionRouter with
  | none => rfl
  | some router => exact Dict.get?_pop_of_ne _ apart

theorem registrant_unregister :
    (api.adjustRouter (·.unregisterAgent name)).registrant name = none := by
  unfold adjustRouter RuntimeApi.registrant
  cases api.mentionRouter with
  | none => rfl
  | some router => exact Dict.get?_pop_self _ _

theorem channelOf_unregister_of_ne (apart : other ≠ name) :
    (api.adjustRouter (·.unregisterAgent name)).channelOf other = api.channelOf other := by
  unfold adjustRouter channelOf
  cases api.mentionRouter with
  | none => rfl
  | some router => exact Dict.get?_pop_of_ne _ apart

theorem adjustRouter_foldl (names : List Text) (api : RuntimeApi) :
    api.adjustRouter (fun router => names.foldl MentionRouter.unregisterAgent router) =
      names.foldl (fun api name => api.adjustRouter (·.unregisterAgent name)) api := by
  induction names generalizing api with
  | nil =>
      obtain ⟨channelIds, router⟩ := api
      cases router <;> rfl
  | cons name names ih =>
      rw [List.foldl_cons, ← ih]
      obtain ⟨channelIds, router⟩ := api
      cases router <;> rfl

end RuntimeApi

/-- The agents are registered, each under its own name. -/
structure Kept (api : RuntimeApi) (agents : Dict Text AgentHandle) (handles : Dict Text ℕ) :
    Prop extends Registered api agents handles where
  named : ∀ name agentId number, api.registrant name = some (.handle agentId number) →
    name = handleName agentId

namespace Kept

variable {api noted : RuntimeApi} {agents : Dict Text AgentHandle} {handles : Dict Text ℕ}

theorem of_empty (channelIds : Dict Text Text) :
    Kept ⟨channelIds, some .empty⟩ .empty handles where
  registered agentId := by
    refine iff_of_false Dict.not_mem_keys_empty ?_
    rintro ⟨_, _, found⟩
    cases found
  current := nofun
  resolved := nofun
  named := nofun

theorem congr (kept : Kept api agents handles) {agents' : Dict Text AgentHandle}
    {handles' : Dict Text ℕ} (same : ∀ agentId, agents'.get? agentId = agents.get? agentId)
    (same' : ∀ agentId ∈ agents.keys, handles'.get? agentId = handles.get? agentId) :
    Kept api agents' handles' where
  registered agentId := by
    rw [← kept.registered, Dict.mem_keys_iff, Dict.mem_keys_iff, same]
  current name agentId number found := by
    obtain ⟨own, handle, stored, channel⟩ := kept.current name agentId number found
    rw [same, same' agentId (Dict.mem_keys_of_get? stored)]
    exact ⟨own, handle, stored, channel⟩
  resolved agentId handle channel stored :=
    kept.resolved agentId handle channel ((same agentId).symm.trans stored)
  named := kept.named

/-- Other channels are noted. -/
theorem note (kept : Kept api agents handles) (router : noted.mentionRouter = api.mentionRouter)
    (resolved : ∀ agentId handle channel, agents.get? agentId = some handle →
      handle.channelId = some channel →
        noted.getChannelId (channelName agentId) = some channel) : Kept noted agents handles := by
  obtain ⟨channelIds, _⟩ := noted
  obtain rfl : _ = api.mentionRouter := router
  exact ⟨⟨kept.registered, kept.current, resolved⟩, kept.named⟩

/-- An agent is hired and registered under its name. -/
theorem hire (kept : Kept api agents handles) {agentId : Text} {number : ℕ} {handle : AgentHandle}
    (router : noted.mentionRouter = api.mentionRouter)
    (present : api.mentionRouter.isSome = true)
    (others : ∀ other, other ≠ agentId →
      noted.getChannelId (channelName other) = api.getChannelId (channelName other))
    (own : ∀ channel, handle.channelId = some channel →
      noted.getChannelId (channelName agentId) = some channel)
    (fresh : handle.channelId = none → api.channelOf (handleName agentId) = none) :
    Kept (noted.adjustRouter (·.enter (handleName agentId) (.handle agentId number)
      handle.channelId)) (agents.set agentId handle) (handles.set agentId number) := by
  obtain ⟨channelIds, _⟩ := noted
  obtain rfl : _ = api.mentionRouter := router
  have registered := @RuntimeApi.registrant_enter ⟨channelIds, api.mentionRouter⟩
    (handleName agentId) (.handle agentId number) handle.channelId present
  have channelOf := @RuntimeApi.channelOf_enter ⟨channelIds, api.mentionRouter⟩
    (handleName agentId) (.handle agentId number) handle.channelId present fresh
  have before {name : Text} (apart : name ≠ handleName agentId) :
      (RuntimeApi.adjustRouter ⟨channelIds, api.mentionRouter⟩ (·.enter (handleName agentId)
        (.handle agentId number) handle.channelId)).registrant name = api.registrant name :=
    RuntimeApi.registrant_enter_of_ne apart
  refine ⟨⟨fun other => ?_, fun name other number' found => ?_, fun other handle' channel => ?_⟩,
    fun name other number' found => ?_⟩
  · rw [Dict.mem_keys_set]
    constructor
    · rintro (rfl | known)
      · exact ⟨_, number, registered⟩
      · by_cases same : other = agentId
        · subst same
          exact ⟨_, number, registered⟩
        · obtain ⟨name, number', found⟩ := (kept.registered other).mp known
          have apart : name ≠ handleName agentId := fun taken =>
            same (handleName_inj ((kept.named name other number' found).symm.trans taken))
          exact ⟨name, number', (before apart).trans found⟩
    · rintro ⟨name, number', found⟩
      by_cases taken : name = handleName agentId
      · subst taken
        cases registered.symm.trans found
        exact .inl rfl
      · exact .inr ((kept.registered other).mpr ⟨name, number', (before taken).symm.trans found⟩)
  · by_cases taken : name = handleName agentId
    · subst taken
      cases registered.symm.trans found
      exact ⟨Dict.get?_set_self _ _ _, handle, Dict.get?_set_self _ _ _, channelOf⟩
    · have old := (before taken).symm.trans found
      obtain ⟨current, handle', stored, channel⟩ := kept.current name other number' old
      have apart : other ≠ agentId := fun same =>
        taken (same ▸ kept.named name other number' old)
      rw [Dict.get?_set_of_ne _ _ apart, Dict.get?_set_of_ne _ _ apart]
      exact ⟨current, handle', stored, (RuntimeApi.channelOf_enter_of_ne taken).trans channel⟩
  · intro stored given
    rcases Dict.get?_set_eq_some_iff.mp stored with ⟨rfl, rfl⟩ | ⟨same, stored⟩
    · exact own channel given
    · exact (others other same).trans (kept.resolved other handle' channel stored given)
  · by_cases taken : name = handleName agentId
    · subst taken
      cases registered.symm.trans found
      rfl
    · exact kept.named name other number' ((before taken).symm.trans found)

/-- What is registered under a name that is no agent's changes, and nothing else does. -/
theorem frame (kept : Kept api agents handles) {name : Text}
    (channelIds : noted.channelIds = api.channelIds)
    (foreign : ∀ agentId number, api.registrant name ≠ some (.handle agentId number))
    (foreign' : ∀ agentId number, noted.registrant name ≠ some (.handle agentId number))
    (others : ∀ other, other ≠ name → noted.registrant other = api.registrant other ∧
      noted.channelOf other = api.channelOf other) : Kept noted agents handles := by
  have same (other agentId : Text) (number : ℕ) :
      noted.registrant other = some (.handle agentId number) ↔
        api.registrant other = some (.handle agentId number) := by
    by_cases own : other = name
    · subst own
      exact iff_of_false (foreign' agentId number) (foreign agentId number)
    · rw [(others other own).1]
  refine ⟨⟨fun agentId => ?_, fun other agentId number found => ?_, ?_⟩,
    fun other agentId number found => kept.named other agentId number ((same _ _ _).mp found)⟩
  · exact (kept.registered agentId).trans (exists₂_congr fun other number => (same _ _ _).symm)
  · have found := (same _ _ _).mp found
    have apart : other ≠ name := by
      rintro rfl
      exact foreign agentId number found
    rw [(others other apart).2]
    exact kept.current other agentId number found
  · unfold RuntimeApi.getChannelId
    rw [channelIds]
    exact kept.resolved

theorem registerChild (kept : Kept api agents handles) {name childId : Text}
    {channel : Option Text}
    (foreign : ∀ agentId number, api.registrant name ≠ some (.handle agentId number)) :
    Kept (api.adjustRouter (·.registerAgent name (.child childId) channel)) agents handles := by
  refine kept.frame rfl foreign (fun agentId number => ?_) fun other apart => ?_
  · rcases absent : api.mentionRouter with _ | router
    · unfold RuntimeApi.registrant RuntimeApi.adjustRouter
      rw [absent]
      exact nofun
    · have present : api.mentionRouter.isSome = true := absent ▸ rfl
      exact fun found => nomatch (RuntimeApi.registrant_enter present).symm.trans found
  · exact ⟨RuntimeApi.registrant_enter_of_ne apart, RuntimeApi.channelOf_enter_of_ne apart⟩

theorem unregister (kept : Kept api agents handles) {names : List Text}
    (foreign : ∀ name ∈ names, ∀ agentId number,
      api.registrant name ≠ some (.handle agentId number)) :
    Kept (api.adjustRouter fun router => names.foldl MentionRouter.unregisterAgent router)
      agents handles := by
  rw [RuntimeApi.adjustRouter_foldl]
  induction names generalizing api with
  | nil => exact kept
  | cons name names ih =>
      rw [List.forall_mem_cons] at foreign
      rw [List.foldl_cons]
      apply ih
      · refine kept.frame rfl foreign.1 (fun _ _ found => ?_) fun other apart => ?_
        · cases RuntimeApi.registrant_unregister.symm.trans found
        · exact ⟨RuntimeApi.registrant_unregister_of_ne apart,
            RuntimeApi.channelOf_unregister_of_ne apart⟩
      · intro other member agentId number found
        by_cases same : other = name
        · subst same
          cases RuntimeApi.registrant_unregister.symm.trans found
        · exact foreign.2 other member agentId number
            ((RuntimeApi.registrant_unregister_of_ne same).symm.trans found)

end Kept

/-! ## Calls -/

namespace DaemonState

variable {installation : Installation} {state : DaemonState}

/-- A daemon that runs has a root, whose agents are registered under their names. -/
def KeptUp (state : DaemonState) : Prop :=
  ∀ api, state.runtimeApi = some api → ∃ root, state.company.root = some root ∧
    Kept api root.agents state.handles

theorem KeptUp.reachable (kept : state.KeptUp) : state.Reachable := by
  intro api root running up
  obtain ⟨root', up', kept⟩ := kept api running
  obtain rfl := Option.some.inj (up.symm.trans up')
  exact kept.toRegistered

theorem engage_of_registers {root : CompanyRoot} (up : state.company.root = some root)
    {request : HireRequest} {outcome : HireOutcome}
    (registers : state.company.Registers request outcome)
    (saves : installation.dataDir = true → outcome.saving = .succeeds) :
    ∃ company after peer, state.engage installation request outcome =
        (.ok (.handle request.agentId state.created),
          { state with
            company
            handles := state.handles.set request.agentId state.created
            created := state.created + 1 }) ∧
      company.root = some after ∧
        after.agents = root.agents.set request.agentId (request.handle installation peer) := by
  obtain ⟨returns, after, peer, same, agents⟩ :=
    @Company.hire_of_registers _ installation root up request outcome registers
  refine ⟨(state.company.hire installation request outcome).2, after, peer, ?_, same, agents⟩
  unfold engage
  dsimp only
  rw [returns.mpr saves, if_pos registers]
  rfl

theorem engage_of_not_registers {root : CompanyRoot} (up : state.company.root = some root)
    {request : HireRequest} {outcome : HireOutcome}
    (silent : ¬ state.company.Registers request outcome) :
    ∃ raised company, state.engage installation request outcome =
        (.error raised, { state with company }) ∧ company.root = some root := by
  obtain ⟨⟨raised, raises⟩, same⟩ :=
    @Company.hire_of_not_registers _ installation root up request outcome silent
  refine ⟨raised, (state.company.hire installation request outcome).2, ?_, same⟩
  unfold engage
  dsimp only
  rw [raises, if_neg silent]
  rfl

theorem engage_ok {root : CompanyRoot} (up : state.company.root = some root)
    {request : HireRequest} {outcome : HireOutcome} {handle : Registrant} {left : DaemonState}
    (engaged : state.engage installation request outcome = (.ok handle, left)) :
    handle = .handle request.agentId state.created ∧ left.runtimeApi = state.runtimeApi ∧
      left.handles = state.handles.set request.agentId state.created ∧
      ∃ after peer, left.company.root = some after ∧
        after.agents = root.agents.set request.agentId (request.handle installation peer) := by
  by_cases registers : state.company.Registers request outcome
  · obtain ⟨returns, after, peer, same, agents⟩ :=
      @Company.hire_of_registers _ installation root up request outcome registers
    unfold engage at engaged
    dsimp only at engaged
    rw [if_pos registers] at engaged
    cases result : (state.company.hire installation request outcome).1 with
    | error raised =>
        rw [result] at engaged
        cases engaged
    | ok _ =>
        rw [result] at engaged
        cases engaged
        exact ⟨rfl, rfl, rfl, after, peer, same, agents⟩
  · obtain ⟨raised, company, refused, _⟩ :=
      @engage_of_not_registers installation state root up request outcome registers
    cases refused.symm.trans engaged

theorem KeptUp.hire (kept : state.KeptUp) {hiring : Hiring}
    (covered : state.Covered installation (.hire hiring)) :
    (state.hire installation hiring).2.KeptUp := by
  unfold DaemonState.hire
  rcases running : state.runtimeApi with _ | api
  · exact kept
  rcases given : hiring.channel with raised | channel
  · exact kept
  obtain ⟨root, up, registered⟩ := kept api running
  obtain ⟨through, refused⟩ := covered api running channel given
  dsimp only
  generalize noting : (match channel with
    | none => api
    | some id => { api with channelIds := api.channelIds.set hiring.channelName id }) = noted
  have router : noted.mentionRouter = api.mentionRouter := by
    subst noting
    cases channel <;> rfl
  have others {other : Text} (apart : other ≠ hiring.agentId ∨ other = strategistId) :
      noted.getChannelId (channelName other) = api.getChannelId (channelName other) := by
    subst noting
    cases channel with
    | none => rfl
    | some id => exact Dict.get?_set_of_ne _ _ (channelName_ne apart)
  have own {known : Text} (same : channel = some known) :
      noted.getChannelId hiring.channelName = some known := by
    subst same noting
    exact Dict.get?_set_self _ _ _
  by_cases registers : state.company.Registers (hiring.request channel) hiring.outcome
  · obtain ⟨saves, confirms, plain, present, fresh⟩ := through registers
    obtain ⟨company, after, peer, engaged, up', agents⟩ := @engage_of_registers installation
      { state with runtimeApi := some noted } root up (hiring.request channel) hiring.outcome
      registers saves
    have confirmed : ¬ (isGiven channel && !hiring.confirmed) = true := by
      rcases sends : isGiven channel with _ | _
      · exact nofun
      · rw [confirms sends]
        exact nofun
    have name : handleName hiring.agentId = hiring.handleName := if_neg plain
    have channelName : channelName hiring.agentId = hiring.channelName := if_neg plain
    rw [engaged]
    dsimp only
    rw [if_neg confirmed]
    rintro _ ⟨⟩
    refine ⟨after, up', ?_⟩
    rw [agents, ← name]
    exact @Kept.hire _ _ _ _ registered _ _ ((hiring.request channel).handle installation peer)
      router present (fun other apart => others (.inl apart))
      (fun known same => channelName ▸ own same) (fun absent => name ▸ fresh absent)
  · obtain ⟨raised, company, engaged, up'⟩ := @engage_of_not_registers installation
      { state with runtimeApi := some noted } root up (hiring.request channel) hiring.outcome
      registers
    rw [engaged]
    rintro _ ⟨⟩
    refine ⟨root, up', registered.note router fun agentId handle known stored same => ?_⟩
    have before := registered.resolved agentId handle known stored same
    by_cases apart : agentId ≠ hiring.agentId ∨ agentId = strategistId
    · exact (others apart).trans before
    · obtain ⟨rfl, plain⟩ := not_or.mp apart |>.imp_left not_not.mp
      have channelName : channelName hiring.agentId = hiring.channelName := if_neg plain
      rcases (refused registers root handle known up stored same).resolve_left plain with
        absent | noted
      · subst absent noting
        exact before
      · rw [channelName]
        exact own noted

theorem KeptUp.dismiss (kept : state.KeptUp) {agentId : Text} {stopping : Stopping}
    {saving : Saving} (covered : state.Covered installation (.dismiss agentId stopping saving)) :
    (state.dismiss installation agentId stopping saving).2.KeptUp := by
  unfold DaemonState.dismiss
  rcases running : state.runtimeApi with _ | api
  · exact kept
  obtain ⟨root, up, registered⟩ := kept api running
  have unknown := covered root (running ▸ rfl) up
  dsimp only
  rw [Company.dismiss_unknown up unknown]
  rintro _ ⟨⟩
  exact ⟨root, up, registered⟩

theorem KeptUp.removeProject (kept : state.KeptUp) {projectName : Text} {stopped : Bool}
    (covered : state.Covered installation (.removeProject projectName stopped)) :
    (state.removeProject projectName stopped).2.KeptUp := by
  unfold DaemonState.removeProject
  rcases running : state.runtimeApi with _ | api
  · exact kept
  obtain ⟨root, up, registered⟩ := kept api running
  have left := registered.unregister (covered api running)
  dsimp only
  split
  · rintro _ ⟨⟩
    exact ⟨root, up, left⟩
  · rintro _ ⟨⟩
    exact ⟨root, up, left⟩

/-- There is no other agent than the Strategist. -/
def StrategistOnly (agents : Dict Text AgentHandle) : Prop :=
  ∀ agentId ∈ agents.keys, agentId = strategistId

/-- A new daemon hires the Strategist and registers it. -/
theorem kept_createStrategist {root : CompanyRoot} (up : state.company.root = some root)
    (only : StrategistOnly root.agents) {channelIds : Dict Text Text}
    (running : state.runtimeApi = some ⟨channelIds, some .empty⟩) {persona : Except PyExc Text}
    {outcome : HireOutcome} {left : DaemonState}
    (created : state.createStrategist installation persona outcome = (.ok (), left)) :
    ∃ api after, left.runtimeApi = some api ∧ left.company.root = some after ∧
      Kept api after.agents left.handles ∧ StrategistOnly after.agents := by
  unfold createStrategist at created
  rw [running] at created
  cases persona with
  | error raised => cases created
  | ok text =>
      dsimp only at created
      split at created
      · cases created
      · next handle engaged' engaged =>
          obtain ⟨rfl, _, handles, after, peer, up', agents⟩ := engage_ok up engaged
          cases created
          refine ⟨_, after, rfl, up', ?_, ?_⟩
          · have named : handleName strategistId = strategistHandle := if_pos rfl
            have hired := @Kept.hire _ ⟨channelIds, some .empty⟩ _ state.handles
              (.of_empty channelIds) strategistId state.created
              ((strategistRequest (channelIds.get? strategistId) text).handle installation peer)
              rfl rfl (fun _ _ => rfl) (fun _ given => given) (fun _ => rfl)
            rw [named] at hired
            refine hired.congr (fun agentId => ?_) fun agentId _ =>
              congrArg (·.get? agentId) handles
            rw [agents]
            by_cases own : agentId = strategistId
            · subst own
              exact (Dict.get?_set_self _ _ _).trans (Dict.get?_set_self _ _ _).symm
            · rw [Dict.get?_set_of_ne _ _ own]
              refine (Dict.get?_set_of_ne _ _ own).trans ?_
              exact Dict.get?_eq_none_iff.mpr fun member => own (only agentId member)
          · intro agentId member
            rw [agents, Dict.mem_keys_set] at member
            exact member.elim id (only agentId)

theorem Kept.foreign {api : RuntimeApi} {agents : Dict Text AgentHandle} {handles : Dict Text ℕ}
    (kept : Kept api agents handles) (only : StrategistOnly agents) {name : Text}
    (apart : name ≠ strategistHandle) (agentId : Text) (number : ℕ) :
    api.registrant name ≠ some (.handle agentId number) := by
  intro found
  have own := only agentId ((kept.registered agentId).mpr ⟨name, number, found⟩)
  exact apart ((kept.named name agentId number found).trans (if_pos own))

/-- The children of a project have other names than the Strategist. -/
theorem kept_registerChildren {api : RuntimeApi} {agents : Dict Text AgentHandle}
    {handles : Dict Text ℕ} (kept : Kept api agents handles) (only : StrategistOnly agents)
    (project : Text) (children : List ProjectChild) :
    Kept (registerChildren project children api) agents handles := by
  have registered : ∀ (children : List ProjectChild) (api : RuntimeApi), Kept api agents handles →
      Kept (children.foldl (fun api child => api.adjustRouter (·.registerAgent
        (agentPrefix ++ child.childId) (.child child.childId)
          (api.getChannelId (agentPrefix ++ child.childId)))) api) agents handles := by
    intro children
    induction children with
    | nil => exact fun _ kept => kept
    | cons child children ih =>
        exact fun api kept => ih _ (kept.registerChild (Kept.foreign kept only nofun))
  unfold registerChildren
  apply registered
  split
  · exact kept
  · exact kept.registerChild (Kept.foreign kept only nofun)

theorem KeptUp.restart {start : DaemonStart}
    (covered : state.Covered installation (.restart start)) :
    (state.restart installation start).KeptUp := by
  obtain ⟨routerLoaded, reconnects⟩ := covered
  unfold DaemonState.restart
  rcases started : state.company.restart installation start.restart with ⟨_ | _, company⟩
  · exact nofun
  obtain ⟨stored, root, loaded, up, agents⟩ := Company.restart_root started
  have only : StrategistOnly root.agents := by
    intro agentId member
    rw [agents, Company.mem_reconnected_iff] at member
    obtain ⟨routing, known, reached⟩ := member
    by_cases dataDir : installation.dataDir = true
    · rw [if_pos dataDir] at loaded
      exact reconnects dataDir stored loaded agentId routing known reached
    · rw [if_neg dataDir] at loaded
      cases loaded
      cases known
  dsimp only
  unfold initProject
  rcases created : (state.createRuntimeApi start company).createStrategist installation
    start.persona start.strategist with ⟨_ | _, left⟩
  · exact nofun
  have running : ∃ channelIds, (state.createRuntimeApi start company).runtimeApi =
      some ⟨channelIds, some .empty⟩ := by
    unfold createRuntimeApi
    rw [routerLoaded]
    exact ⟨_, rfl⟩
  obtain ⟨channelIds, running⟩ := running
  obtain ⟨api, after, running, up, kept, only⟩ := kept_createStrategist up only running created
  cases start.project with
  | none =>
      rintro api' same
      obtain rfl := Option.some.inj (running.symm.trans same)
      exact ⟨after, up, kept⟩
  | some project =>
      dsimp only
      rcases added : left.addProject project with ⟨_ | _, joined⟩
      · exact nofun
      unfold addProject at added
      split at added
      · cases added
      · dsimp only at added
        split at added
        · cases added
        · cases added
          rintro api' same
          obtain ⟨_, running', rfl⟩ := Option.map_eq_some_iff.mp same
          obtain rfl := Option.some.inj (running.symm.trans running')
          exact ⟨after, up, kept_registerChildren kept only project.project project.children⟩

theorem KeptUp.perform (kept : state.KeptUp) {call : RuntimeCall}
    (covered : state.Covered installation call) : (state.perform installation call).KeptUp := by
  cases call with
  | hire hiring => exact kept.hire covered
  | dismiss agentId stopping saving => exact kept.dismiss covered
  | removeProject projectName stopped => exact kept.removeProject covered
  | restart start => exact KeptUp.restart covered

/-- **Live agents stay reachable.** While each call leaves no agent without its registration, the
agents that the router knows are those of the root after every call, each with the handle that is
stored there and its channel. -/
theorem agents_stay_reachable (installation : Installation) (company : Company)
    (calls : List RuntimeCall)
    (covered : EachMeets (perform installation) (Covered installation) (unstarted company) calls) :
    Throughout (perform installation) Reachable (unstarted company) calls :=
  (covered.throughout (fun _ _ kept covered => KeptUp.perform kept covered) nofun).mono
    fun _ => KeptUp.reachable

/-! ## A restart -/

def smooth (spawning : Spawning) : HireOutcome where
  prepared := true
  spawning := spawning
  starting := .starts
  saving := .succeeds

/-- A project with two agents, of which one manages the backlog. -/
def projectAlpha : ProjectStart where
  project := "alpha"
  added := true
  children := [⟨"manager", true⟩, ⟨"b", false⟩]
  loaded := true

/-- A start with the project that reconnects to every worker, whose Strategist is spawned in the
given way. -/
def hosting (spawning : Spawning) : DaemonStart where
  restart := { cwd := ["srv"], shutdown := none, reaches := fun _ => true, saving := .succeeds }
  routerLoaded := true
  systemChannels := Dict.empty.set strategistId "10"
  persona := .ok "You are the Strategist."
  strategist := smooth spawning
  project := some projectAlpha

def hiringA : Hiring where
  agentId := "a"
  channel := .ok (some "20")
  outcome := smooth .answers
  confirmed := true

def hiredRun : List RuntimeCall := [.restart (hosting .answers), .hire hiringA]

theorem hired_agent_reachable : Throughout (perform bareInstallation) Reachable
    (unstarted (.fresh ["srv"])) hiredRun := by
  refine agents_stay_reachable bareInstallation (.fresh ["srv"]) hiredRun
    ⟨⟨rfl, ?_⟩, ?_, trivial⟩
  · rintro _ _ ⟨⟩ agentId routing found
    cases found
  · rintro api running _ ⟨⟩
    have present : ((perform bareInstallation (unstarted (.fresh ["srv"]))
        (.restart (hosting .answers))).runtimeApi.bind RuntimeApi.mentionRouter).isSome =
          true := by decide +kernel
    rw [running] at present
    refine ⟨fun _ => ⟨fun _ => rfl, fun _ => rfl, by decide, present, nofun⟩, fun refused => ?_⟩
    exact absurd ⟨rfl, List.mem_cons_self, .inl rfl, nofun⟩ refused

/-- The daemon is restarted and reaches the worker of the agent again. -/
def restartedRun : List RuntimeCall := hiredRun ++ [.restart (hosting .inUse)]

/-- An agent that is reached again after a restart is not registered with the router. -/
theorem reconnected_agent_unreachable : ¬ Throughout (perform bareInstallation) Reachable
    (unstarted (.fresh ["srv"])) restartedRun := by
  intro always
  have reachable := always.last
  revert reachable
  generalize ending : restartedRun.foldl (perform bareInstallation) (unstarted (.fresh ["srv"])) =
    state
  intro reachable
  have agents : state.company.root.map (·.agents.keys) = some [strategistId, "a".toList] := by
    rw [← ending]
    decide +kernel
  have names : (state.runtimeApi.bind RuntimeApi.mentionRouter).map (·.agentHandles.entries) =
      some [(strategistHandle, .handle strategistId 4),
        (pmPrefix ++ "alpha".toList, .child "manager".toList),
        (agentPrefix ++ "b".toList, .child "b".toList)] := by
    rw [← ending]
    decide +kernel
  obtain ⟨root, up, keys⟩ := Option.map_eq_some_iff.mp agents
  obtain ⟨router, wired, entries⟩ := Option.map_eq_some_iff.mp names
  obtain ⟨api, running, wired⟩ := Option.bind_eq_some_iff.mp wired
  have known : "a".toList ∈ root.agents.keys := keys ▸ List.mem_cons_of_mem _ List.mem_cons_self
  obtain ⟨name, number, found⟩ := ((reachable api root running up).registered "a".toList).mp known
  unfold RuntimeApi.registrant at found
  rw [wired] at found
  have entry := Dict.get?_eq_some_iff.mp found
  rw [entries, List.mem_cons, List.mem_cons, List.mem_singleton] at entry
  rcases entry with same | same | same <;> cases same

end DaemonState

end Vcompany.Daemon
