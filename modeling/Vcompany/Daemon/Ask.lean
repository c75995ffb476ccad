import Vcompany.Foundation.Dict
import Vcompany.Foundation.PyValue

/-! # Questions of agents

An agent asks through the daemon's socket. `_handle_ask` formats the first question as an
embed, posts it through the communication port and polls for a reply. The port is whatever
platform is behind it, with a state of its own.
-/

namespace Vcompany.Daemon

open Foundation

structure EmbedField where
  name : Text
  value : Text
  inline : Bool := false
  deriving DecidableEq

structure PostEmbedPayload where
  channelId : Text
  title : Text
  description : Text := []
  color : Option ℕ := none
  fields : List EmbedField := []
  deriving DecidableEq

/-- The payload of `poll_reply`; the interval between two polls is left out. -/
structure PollReplyPayload where
  channelId : Text
  messageId : ℕ
  maxPolls : ℕ := 120
  deriving DecidableEq

/-- The methods of the port that a question uses. Posting gives the id of the message. -/
structure CommunicationPort (σ : Type) where
  postEmbed : PostEmbedPayload → σ → Except PyExc (Option ℕ) × σ
  pollReply : PollReplyPayload → σ → Except PyExc (Option Text) × σ

inductive AskStatus where
  | ok
  | timeout
  | error
  deriving DecidableEq, Repr

/-- What `_handle_ask` returns: a status with a message or an answer. -/
structure AskReply where
  status : AskStatus
  message : Option Text := none
  answer : Option Text := none
  deriving DecidableEq

/-- `value[0]`. -/
def firstItem : PyValue → Except PyExc PyValue
  | .list (item :: _) => .ok item
  | .str (c :: _) => .ok (.str [c])
  | .bytes (octet :: _) => .ok (.num octet)
  | .list [] | .str [] | .bytes [] => .error .indexError
  | .dict entries =>
      match entries.find? fun entry => match entry.1 with
        | .num value => value == 0
        | _ => false with
      | some entry => .ok entry.2
      | none => .error .keyError
  | _ => .error .typeError

/-- `value[key]` with a string key. -/
def item (key : Text) : PyValue → Except PyExc PyValue
  | .dict entries =>
      match entries.find? fun entry => entry.1.isStr key with
      | some entry => .ok entry.2
      | none => .error .keyError
  | _ => .error .typeError

section

variable (py : PyRuntime)

/-- The line of an option, numbered from one. -/
def optionLine (number : ℕ) (option : PyValue) : Except PyExc Text := do
  let label ← item "label" option
  let description ← option.get "description" (.str [])
  return "**".toList ++ Nat.toDigits 10 number ++ ". ".toList ++ py.format label ++
    "** — ".toList ++ py.format description

def optionLines : ℕ → List PyValue → Except PyExc (List Text)
  | _, [] => .ok []
  | number, option :: rest => do
      let line ← optionLine py number option
      return line :: (← optionLines (number + 1) rest)

/-- The payload for a question: the title names the agent, the description has the question
and its options. -/
def questionPayload (channelId : Text) (agentId question options : PyValue) :
    Except PyExc PostEmbedPayload := do
  let lines ← optionLines py 1 (← options.iter)
  let text ← question.get "question" (.str [])
  return { channelId
           title := "Question from ".toList ++ py.format agentId
           description := py.format text ++ "\n\n".toList ++ List.intercalate "\n".toList lines
           color := some 0x3498DB }

/-- `runtime_api.get_channel_id(name)`, where an empty id counts as none. -/
def channelNamed (channelIds : Dict Text Text) (name : Text) : Option Text :=
  (channelIds.get? name).filter fun channelId => channelId ≠ []

/-- The channel of an agent: that of its task, or else its own. -/
def askChannel (channelIds : Dict Text Text) (agentId : PyValue) : Option Text :=
  (channelNamed channelIds ("task-".toList ++ py.format agentId)).or
    (channelNamed channelIds ("agent-".toList ++ py.format agentId))

/-- The reply to an answer, or to its absence. -/
def answerReply (timeoutMode options : PyValue) : Option Text → Except PyExc AskReply
  | some answer => .ok { status := .ok, answer := some answer }
  | none =>
      if timeoutMode.isStr "continue" && options.truthy then do
        let first ← firstItem options
        let label ← first.get "label" (.str "Unknown")
        return { status := .timeout
                 answer := some ("Auto-selected (timeout): ".toList ++ py.format label) }
      else .ok { status := .timeout, answer := some "No answer received within timeout" }

variable {σ : Type}

/-- Posting a question in a channel and waiting for the answer. -/
def postQuestion (port : CommunicationPort σ) (channelId : Text)
    (agentId question timeoutMode : PyValue) (state : σ) : Except PyExc AskReply × σ :=
  match question.get "options" (.list []) with
  | .error raised => (.error raised, state)
  | .ok options =>
      match questionPayload py channelId agentId question options with
      | .error raised => (.error raised, state)
      | .ok payload =>
          match port.postEmbed payload state with
          | (.error raised, posted) => (.error raised, posted)
          | (.ok none, posted) =>
              (.ok { status := .error, answer := some "Failed to post question" }, posted)
          | (.ok (some messageId), posted) =>
              match port.pollReply { channelId, messageId } posted with
              | (.error raised, polled) => (.error raised, polled)
              | (.ok answer, polled) => (answerReply py timeoutMode options answer, polled)

/-- What `_handle_ask` reads of its parameters: the agent, the questions and the mode. -/
def askParams (params : PyValue) : Except PyExc (PyValue × PyValue × PyValue) := do
  let agentId ← params.get "agent_id" (.str [])
  let questions ← params.get "questions" (.list [])
  let timeoutMode ← params.get "timeout_mode" (.str "continue")
  return (agentId, questions, timeoutMode)

/-- `Daemon._handle_ask`, with the daemon's port once it is initialized. -/
def handleAsk (port : Option (CommunicationPort σ)) (channelIds : Dict Text Text)
    (params : PyValue) (state : σ) : Except PyExc AskReply × σ :=
  match port with
  | none => (.error .other, state)
  | some port =>
      match askParams params with
      | .error raised => (.error raised, state)
      | .ok (agentId, questions, timeoutMode) =>
          if !questions.truthy then
            (.ok { status := .error, message := some "No questions provided" }, state)
          else
            match askChannel py channelIds agentId with
            | none =>
                (.ok { status := .error
                       answer := some ("No channel found for agent ".toList ++
                         py.format agentId) }, state)
            | some channelId =>
                match firstItem questions with
                | .error raised => (.error raised, state)
                | .ok question =>
                    postQuestion py port channelId agentId question timeoutMode state

end

end Vcompany.Daemon
