import Vcompany.Daemon.RoutingState
import Vcompany.Transport.ChannelTransport

/-! # The company root

The daemon knows an agent by a handle in `_company_agents`, by an entry in the routing state and
by one in its file; the worker itself is a process of its own that outlives the daemon. The
operations below change these one after another, and each call to the outside may raise in
between.
-/

namespace Vcompany.Supervisor

open Foundation Daemon Transport

/-- What the daemon takes from the definition of an agent type. -/
structure AgentTypeConfig where
  handler : Option Text
  capabilities : List Text
  gsdCommand : Option Text

/-- A handle, with the worker at the other end of its socket while the connection is open. -/
structure AgentHandle where
  agentId : Text
  agentType : Text
  handlerType : Text
  config : JsonObject
  capabilities : List Text
  channelId : Option Text
  socket : Option Peer

/-- `is_alive`. -/
def AgentHandle.isAlive (handle : AgentHandle) : Bool := handle.socket.isSome

structure CompanyRoot where
  agents : Dict Text AgentHandle
  routingState : RoutingState

/-- What does not change from one daemon to the next: the home directory, the agent types, and
whether the root has a data directory. -/
structure Installation where
  home : List Text
  agentTypes : Text → Option AgentTypeConfig
  dataDir : Bool

/-- A daemon in its working directory, the routing file, and the workers. There is no root
after a start that has failed. -/
structure Company where
  cwd : List Text
  root : Option CompanyRoot
  file : RoutingFile
  host : Host

/-! ## Hiring -/

/-- The arguments of `hire`, but for the template, which only chooses the files that are
deployed. -/
structure HireRequest where
  agentId : Text
  agentType : Option Text := none
  channelId : Option Text := none
  transportName : Text := nativeName
  persona : Option Text := none

/-- How the steps of `hire` go. Its preparations are the steps before the transport. -/
structure HireOutcome where
  prepared : Bool
  spawning : Spawning
  starting : Starting
  saving : Saving

/-- `x or default`. -/
def orDefault (text : Option Text) (default : Text) : Text :=
  match text with
  | some (c :: rest) => c :: rest
  | _ => default

/-- `"uses_tmux" in type_config.capabilities if type_config else True`. -/
def usesTmux (typeConfig : Option AgentTypeConfig) : Bool :=
  match typeConfig with
  | some config => decide ("uses_tmux".toList ∈ config.capabilities)
  | none => true

/-- The configuration of the worker. -/
def workerConfig (typeConfig : Option AgentTypeConfig) (effectiveType : Text)
    (persona : Option Text) : JsonObject :=
  let chosen : JsonObject := match persona with
    | some (c :: rest) => [("persona", .str (c :: rest))]
    | _ => []
  let config : JsonObject :=
    [("handler_type", .str (orDefault (typeConfig.bind AgentTypeConfig.handler) "session")),
      ("agent_type", .str effectiveType),
      ("capabilities", .list (((typeConfig.map AgentTypeConfig.capabilities).getD []).map .str)),
      ("gsd_command", ((typeConfig.bind AgentTypeConfig.gsdCommand).map PyValue.str).getD .none),
      ("uses_tmux", .num (if usesTmux typeConfig then 1 else 0))]
  config ++ chosen

/-- `Path.home() / "vco-tasks" / agent_id`. -/
def workingDirectory (home : List Text) (agentId : Text) : List Text :=
  PathName.resolve (PathName.resolve home "vco-tasks") agentId

namespace HireRequest

def effectiveType (request : HireRequest) : Text := orDefault request.agentType "task"

/-- The handle of the agent, connected to its worker. -/
def handle (installation : Installation) (request : HireRequest) (peer : Peer) : AgentHandle :=
  let typeConfig := installation.agentTypes request.effectiveType
  { agentId := request.agentId
    agentType := request.effectiveType
    handlerType := orDefault (typeConfig.bind AgentTypeConfig.handler) "session"
    config := workerConfig typeConfig request.effectiveType request.persona
    capabilities := (typeConfig.map AgentTypeConfig.capabilities).getD []
    channelId := request.channelId
    socket := some peer }

end HireRequest

def AgentHandle.routing (handle : AgentHandle) (transportName : Text) : AgentRouting where
  agentId := handle.agentId
  channelId := handle.channelId
  agentType := handle.agentType
  handlerType := handle.handlerType
  config := handle.config
  capabilities := handle.capabilities
  transportType := transportName

namespace Company

variable (installation : Installation) (company : Company)

/-- Replace the routing state, and save it. -/
def saveRouting (root : CompanyRoot) (state : RoutingState) (saving : Saving) :
    Except PyExc Unit × Company :=
  if installation.dataDir then
    let (saved, file) := state.save company.file saving
    (saved, { company with root := some { root with routingState := state }, file := file })
  else (.ok (), { company with root := some root })

/-- `hire`: how it ends, and what it leaves. -/
def hire (request : HireRequest) (outcome : HireOutcome) : Except PyExc Unit × Company :=
  match company.root with
  | none => (.error .other, company)
  | some root =>
      if outcome.prepared = false then (.error .osError, company)
      else if request.transportName ∉ transportNames then (.error .valueError, company)
      else
        match company.host.spawn request.transportName request.agentId
            (workingDirectory installation.home request.agentId) outcome.spawning with
        | (.error raised, host) => (.error raised, { company with host := host })
        | (.ok peer, host) =>
            match outcome.starting with
            | .raises => (.error .osError, { company with host := host })
            | starting =>
                let handle := request.handle installation peer
                { company with
                  host := if starting = Starting.starts then host.start peer else host }.saveRouting
                    installation { root with agents := root.agents.set request.agentId handle }
                    (root.routingState.addAgent (handle.routing request.transportName))
                    outcome.saving

/-! ## Stopping -/

/-- `stop_process`: how it ends, and the processes it leaves. Nothing is sent when the handle is
not alive. -/
def stopProcess (host : Host) (handle : AgentHandle) (stopping : Stopping) :
    Except PyExc Unit × Host :=
  match handle.socket with
  | none => (.ok (), host)
  | some peer =>
      (if stopping.returns then .ok () else .error .other,
        if stopping.heard then host.exit peer else host)

/-- `dismiss`. -/
def dismiss (agentId : Text) (stopping : Stopping) (saving : Saving) :
    Except PyExc Unit × Company :=
  match company.root with
  | none => (.error .other, company)
  | some root =>
      match root.agents.get? agentId with
      | none => (.error .keyError, company)
      | some handle =>
          let popped := { root with agents := root.agents.pop agentId }
          match stopProcess company.host handle stopping with
          | (.error raised, host) =>
              (.error raised, { company with root := some popped, host := host })
          | (.ok _, host) =>
              { company with host := host }.saveRouting installation popped
                (root.routingState.removeAgent agentId) saving

/-- `RuntimeAPI.kill`. -/
def kill (agentId : Text) (stopping : Stopping) : Except PyExc Unit × Company :=
  match company.root with
  | none => (.error .other, company)
  | some root =>
      match root.agents.get? agentId with
      | none => (.error .keyError, company)
      | some handle =>
          match stopProcess company.host handle stopping with
          | (.error raised, host) => (.error raised, { company with host := host })
          | (.ok _, host) =>
              (.ok (), { company with
                root := some { root with
                  agents := root.agents.set agentId { handle with socket := none } }
                host := host })

/-- `RuntimeAPI.relaunch`, which leaves it to `dispatch` to respawn the worker. -/
def relaunch (agentId : Text) (stopping : Stopping) : Except PyExc Unit × Company :=
  company.kill agentId stopping

/-! ## Respawning -/

/-- `RuntimeAPI.dispatch`: the worker of a handle that is not alive is spawned again, in the
working directory of the daemon. -/
def dispatch (agentId : Text) (spawning : Spawning) (starting : Starting) :
    Except PyExc Unit × Company :=
  match company.root with
  | none => (.error .other, company)
  | some root =>
      match root.agents.get? agentId with
      | none => (.error .keyError, company)
      | some handle =>
          if handle.isAlive then (.ok (), company)
          else
            let transportName :=
              ((root.routingState.getAgent agentId).map AgentRouting.transportType).getD nativeName
            if transportName ∉ transportNames then (.error .valueError, company)
            else
              match company.host.spawn transportName agentId company.cwd spawning with
              | (.error raised, host) => (.error raised, { company with host := host })
              | (.ok peer, host) =>
                  let attached := { root with
                    agents := root.agents.set agentId { handle with socket := some peer } }
                  match starting with
                  | .raises =>
                      (.error .osError, { company with root := some attached, host := host })
                  | starting =>
                      (.ok (), { company with
                        root := some attached
                        host := if starting = Starting.starts then host.start peer else host })

/-! ## Restarting the daemon -/

/-- How a restart goes: where the new daemon runs, how `stop` of the old root went unless it
crashed, which agents are reached again, and how the routing file is saved. -/
structure Restart where
  cwd : List Text
  shutdown : Option (Text → Stopping)
  reaches : Text → Bool
  saving : Saving

/-- What `CompanyRoot.stop` does to the processes. -/
def shutDown (root : CompanyRoot) (host : Host) (stopping : Text → Stopping) : Host :=
  root.agents.values.foldl
    (fun host handle => (stopProcess host handle (stopping handle.agentId)).2) host

/-- The handle of an agent that is reached again. -/
def reconnected (host : Host) (reaches : Text → Bool) (entry : Text × AgentRouting) :
    Option AgentHandle :=
  let (agentId, routing) := entry
  if routing.transportType ∉ transportNames then none
  else match host.connect routing.transportType agentId (reaches agentId) with
    | .error _ => none
    | .ok peer => some {
        agentId := routing.agentId
        agentType := routing.agentType
        handlerType := routing.handlerType
        config := routing.config
        capabilities := routing.capabilities
        channelId := routing.channelId
        socket := some peer }

/-- `reconnect_agents`, for a root without agents. -/
def reconnectAgents (state : RoutingState) (reaches : Text → Bool) (saving : Saving) :
    Except PyExc Unit × Company :=
  let reconnected := reconnected company.host reaches
  let root := { agents := state.agents.filterMap reconnected, routingState := state }
  if ∀ entry ∈ state.agents.entries, (reconnected entry).isSome then
    (.ok (), { company with root := some root })
  else
    company.saveRouting installation root
      ⟨state.agents.keep fun entry => (reconnected entry).isSome⟩ saving

/-- The processes that outlive the daemon. -/
def survivors (shutdown : Option (Text → Stopping)) : Host :=
  match shutdown, company.root with
  | some stopping, some root => shutDown root company.host stopping
  | _, _ => company.host

/-- The old daemon ends, and a new one starts. -/
def restart (restart : Restart) : Except PyExc Unit × Company :=
  let next := { company with
    cwd := restart.cwd, root := none, host := company.survivors restart.shutdown }
  match if installation.dataDir then RoutingState.load company.file else .ok .empty with
  | .error raised => (.error raised, next)
  | .ok state => next.reconnectAgents installation state restart.reaches restart.saving

/-- The connection to the worker of an agent is lost. -/
def disconnect (agentId : Text) : Company :=
  match company.root with
  | none => company
  | some root =>
      match root.agents.get? agentId with
      | none => company
      | some handle => { company with root := some { root with
          agents := root.agents.set agentId { handle with socket := none } } }

end Company

/-- What happens to a company, with how it goes. -/
inductive CompanyOperation where
  | hire (request : HireRequest) (outcome : HireOutcome)
  | dismiss (agentId : Text) (stopping : Stopping) (saving : Saving)
  | kill (agentId : Text) (stopping : Stopping)
  | relaunch (agentId : Text) (stopping : Stopping)
  | dispatch (agentId : Text) (spawning : Spawning) (starting : Starting)
  | restart (restart : Company.Restart)
  | exits (peer : Peer)
  | disconnects (agentId : Text)

/-- What an operation leaves. -/
def Company.perform (installation : Installation) (company : Company) :
    CompanyOperation → Company
  | .hire request outcome => (company.hire installation request outcome).2
  | .dismiss agentId stopping saving => (company.dismiss installation agentId stopping saving).2
  | .kill agentId stopping => (company.kill agentId stopping).2
  | .relaunch agentId stopping => (company.relaunch agentId stopping).2
  | .dispatch agentId spawning starting => (company.dispatch agentId spawning starting).2
  | .restart restart => (company.restart installation restart).2
  | .exits peer => { company with host := company.host.exit peer }
  | .disconnects agentId => company.disconnect agentId

/-- A root that has never hired, in a fresh data directory. -/
def Company.fresh (cwd : List Text) : Company where
  cwd := cwd
  root := some { agents := Dict.empty, routingState := RoutingState.empty }
  file := .missing
  host := { processes := [], nextPid := 0 }

/-- An installation without agent types. -/
def bareInstallation : Installation where
  home := ["home".toList, "user".toList]
  agentTypes _ := none
  dataDir := true

def hireA (starting : Starting) : CompanyOperation :=
  .hire { agentId := "a" }
    { prepared := true, spawning := .answers, starting := starting, saving := .succeeds }

end Vcompany.Supervisor
