import Vcompany.Foundation.PyValue

/-! # Messages between the head and a worker

The typed messages of the head-worker channel, six from the head to a worker and
five from a worker to the head. Both packages declare the same models.
-/

namespace Vcompany.Transport

open Foundation

/-- A JSON object carried by a message. -/
abbrev JsonObject := List (Text × PyValue)

/-- Head tells worker to initialize with given config. -/
structure StartMessage where
  agentId : Text
  config : JsonObject := []

/-- Head assigns a task to the worker. -/
structure GiveTaskMessage where
  taskId : Text
  description : Text
  context : JsonObject := []

/-- Head forwards an inbound message to the worker. -/
structure InboundMessage where
  sender : Text
  channel : Text
  content : Text
  messageId : Option Text := none
  deriving DecidableEq

/-- Head tells worker to shut down. -/
structure StopMessage where
  reason : Text := []
  graceful : Bool := true
  deriving DecidableEq

/-- Head tells worker it has reconnected. -/
structure ReconnectMessage where
  agentId : Text
  deriving DecidableEq

inductive HeadMessage where
  | start (message : StartMessage)
  | giveTask (message : GiveTaskMessage)
  | message (message : InboundMessage)
  | stop (message : StopMessage)
  | healthCheck
  | reconnect (message : ReconnectMessage)

/-- Worker signals a state change or event to head. -/
structure SignalMessage where
  signal : Text
  detail : Text := []
  deriving DecidableEq

/-- Worker sends a report to a channel via head. -/
structure ReportMessage where
  channel : Text
  content : Text
  taskId : Option Text := none
  deriving DecidableEq

/-- Worker asks a question to a channel via head. -/
structure AskMessage where
  channel : Text
  question : Text
  context : JsonObject := []

/-- Worker sends a file to a channel via head. -/
structure SendFileMessage where
  channel : Text
  filename : Text
  contentB64 : Text
  description : Text := []
  deriving DecidableEq

/-- Worker responds to a health check with its status. -/
structure HealthReportMessage where
  status : Text
  agentState : Text := []
  uptimeSeconds : ℚ := 0
  detail : JsonObject := []

inductive WorkerMessage where
  | signal (message : SignalMessage)
  | report (message : ReportMessage)
  | ask (message : AskMessage)
  | sendFile (message : SendFileMessage)
  | healthReport (message : HealthReportMessage)

end Vcompany.Transport
