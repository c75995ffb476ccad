import Vcompany.Foundation.Dict
import Vcompany.Transport.Messages

/-! # The routing state

The daemon keeps what it knows of its agents in `routing.json`, so that it can reach their
workers again after a restart.
-/

namespace Vcompany.Daemon

open Foundation Transport

structure AgentRouting where
  agentId : Text
  channelId : Option Text := none
  categoryId : Option Text := none
  agentType : Text := "task"
  handlerType : Text := "session"
  config : JsonObject := []
  capabilities : List Text := []
  transportType : Text := "native"

structure RoutingState where
  agents : Dict Text AgentRouting

/-- `routing.json`. A file is torn when an exception came between its truncation and its last
byte. -/
inductive RoutingFile where
  | missing
  | written (state : RoutingState)
  | torn

/-- How saving the file goes. -/
inductive Saving where
  | succeeds
  | refused
  | torn
  deriving DecidableEq, Repr

namespace RoutingState

def empty : RoutingState := ⟨Dict.empty⟩

/-- `add_agent`. -/
def addAgent (state : RoutingState) (routing : AgentRouting) : RoutingState :=
  ⟨state.agents.set routing.agentId routing⟩

/-- `remove_agent`. -/
def removeAgent (state : RoutingState) (agentId : Text) : RoutingState :=
  ⟨state.agents.pop agentId⟩

/-- `get_agent`. -/
def getAgent (state : RoutingState) (agentId : Text) : Option AgentRouting :=
  state.agents.get? agentId

/-- `save`: how it ends, and the file it leaves. -/
def save (state : RoutingState) (file : RoutingFile) : Saving → Except PyExc Unit × RoutingFile
  | .succeeds => (.ok (), .written state)
  | .refused => (.error .osError, file)
  | .torn => (.error .osError, .torn)

/-- `load`. -/
def load : RoutingFile → Except PyExc RoutingState
  | .missing => .ok empty
  | .written state => .ok state
  | .torn => .error .valueError

end RoutingState

end Vcompany.Daemon
