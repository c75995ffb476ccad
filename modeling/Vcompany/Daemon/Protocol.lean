import Vcompany.Foundation.PyValue

/-! # The daemon's socket protocol

Requests, responses and notifications of the daemon's Unix socket, one JSON object a line.
A response carries the id of its request; a line that is no request is answered by an
error without an id.
-/

namespace Vcompany.Daemon

open Foundation

/-- `PROTOCOL_VERSION`. -/
def protocolVersion : ℤ := 1

/-- The error codes of JSON-RPC 2.0 that the daemon uses. -/
inductive ErrorCode where
  | parseError
  | invalidRequest
  | methodNotFound
  | internalError
  deriving DecidableEq, Repr

def ErrorCode.value : ErrorCode → ℤ
  | parseError => -32700
  | invalidRequest => -32600
  | methodNotFound => -32601
  | internalError => -32603

/-- `Request`: the parameters are a `dict`, empty by default. -/
structure Request where
  id : Text
  method : Text
  params : PyValue := .dict []

/-- A line the daemon sends: `Response`, `ErrorResponse` or `Event`. -/
inductive Outgoing where
  | response (id : Text) (result : PyValue)
  | error (id : Option Text) (code : ErrorCode) (message : Text)
  | event (method : Text) (params : PyValue)

namespace Outgoing

/-- The id that a response carries. An event is no response. -/
def answers : Outgoing → Option (Option Text)
  | response id _ => some (some id)
  | error id _ _ => some id
  | event _ _ => none

@[simp] theorem answers_response (id : Text) (result : PyValue) :
    (response id result).answers = some (some id) := rfl

@[simp] theorem answers_error (id : Option Text) (code : ErrorCode) (message : Text) :
    (error id code message).answers = some id := rfl

@[simp] theorem answers_event (method : Text) (params : PyValue) :
    (event method params).answers = none := rfl

/-- The outcome of a method as a response to the request with the id: the result, or the
text of the exception that was raised. -/
def ofResult (id : Text) : Except Text PyValue → Outgoing
  | .ok result => response id result
  | .error message => error (some id) .internalError message

@[simp] theorem answers_ofResult (id : Text) (result : Except Text PyValue) :
    (ofResult id result).answers = some (some id) := by
  cases result <;> rfl

end Outgoing

end Vcompany.Daemon
