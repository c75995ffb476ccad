import Vcompany.Daemon.ConnectionWrites
import Vcompany.Foundation.Transition

/-! # The daemon's client

`DaemonClient` numbers its requests and takes for the answer to one whatever the socket gives
from then on, up to a chunk that ends in a newline. It does not look at the id of the answer.
`own_answers` gives the runs in which a call still returns the result of its own response: it
is made while nothing is unread or owed, and no event comes while it waits.

The client shares one connection with a server that has others; what the server writes is a
stream of bytes, which `recv` cuts in any way.
-/

namespace Vcompany.Daemon

open Foundation Transport

/-- What the client and the server use of their libraries. -/
structure ClientRuntime where
  server : SocketRuntime
  /-- `model_dump_json` of what the server sends, encoded. -/
  dump : Outgoing → Octets
  /-- `json.loads` of the bytes of a line. -/
  loads : Octets → Except PyExc PyValue
  /-- A `dict` as `model_dump_json` writes and `json.loads` reads it. -/
  written : PyValue → PyValue

/-- The object that the line of a message shows. -/
def Outgoing.object (written : PyValue → PyValue) : Outgoing → PyValue
  | .response id result =>
      .dict [(.str "jsonrpc".toList, .str "2.0".toList), (.str "id".toList, .str id),
        (.str "result".toList, written result)]
  | .error id code message =>
      .dict [(.str "jsonrpc".toList, .str "2.0".toList),
        (.str "id".toList, (id.map PyValue.str).getD .none),
        (.str "error".toList, .dict [(.str "code".toList, .num code.value),
          (.str "message".toList, .str message)])]
  | .event method params =>
      .dict [(.str "jsonrpc".toList, .str "2.0".toList), (.str "method".toList, .str method),
        (.str "params".toList, written params)]

namespace ClientRuntime

variable (runtime : ClientRuntime)

/-- `to_line`. -/
def toLine (message : Outgoing) : Octets := runtime.dump message ++ [newline]

/-- The bytes of the messages. -/
def stream (messages : List Outgoing) : Octets := messages.flatMap runtime.toLine

/-- The JSON text of a message is one line, and is parsed to the message's object. -/
structure Carries (message : Outgoing) : Prop where
  oneLine : newline ∉ runtime.dump message
  loaded : runtime.loads (runtime.toLine message) = .ok (message.object runtime.written)

end ClientRuntime

/-! ## The client -/

def helloId : Text := "hello".toList

/-- Who waits in `_recv_line`: `connect`, for the answer to its `hello`, or a call. -/
inductive Caller where
  | connect
  | call (id : Text)

def Caller.requestId : Caller → Text
  | connect => helloId
  | call id => id

/-- A `DaemonClient` that has a socket. -/
structure DaemonClient where
  requestCounter : ℕ := 0
  /-- The caller that waits in `_recv_line`, with its `buf`. -/
  waiting : Option (Caller × Octets) := none
  /-- How many bytes `recv` has returned. -/
  received : ℕ := 0
  /-- What was sent of request lines in which `sendall` raised. -/
  cut : Octets := []
  /-- The requests that were sent. -/
  asked : List Request := []
  /-- The calls that have returned, with their results. -/
  returned : List (Text × PyValue) := []

/-- What `call` makes of a parsed line: an error raises, and so does what is no object. -/
def callResult : PyValue → Except PyExc PyValue
  | .dict entries =>
      if entries.any fun entry => entry.1.isStr "error".toList then .error .other
      else (PyValue.dict entries).get "result".toList (.dict [])
  | _ => .error .typeError

namespace DaemonClient

/-- The hello handshake of `connect`. -/
def hello : Request where
  id := helloId
  method := helloMethod
  params := .dict [(.str "version".toList, .num protocolVersion)]

/-- The request of the next call. -/
def request (client : DaemonClient) (method : Text) (params : PyValue) : Request where
  id := "req-".toList ++ Nat.toDigits 10 (client.requestCounter + 1)
  method := method
  params := if params.truthy then params else .dict []

/-- What the caller returns for the line: the result, if it is a call that does not raise. -/
def answer (runtime : ClientRuntime) (line : Octets) : Caller → Option (Text × PyValue)
  | .connect => none
  | .call id =>
      match runtime.loads line >>= callResult with
      | .ok result => some (id, result)
      | .error _ => none

/-- `recv` returns a chunk to `_recv_line`. -/
def take (runtime : ClientRuntime) (chunk : Octets) (client : DaemonClient) : DaemonClient :=
  match client.waiting with
  | none => client
  | some (caller, buf) =>
      let received := client.received + chunk.length
      if (buf ++ chunk).getLast? = some newline then
        { client with
          received
          waiting := none
          returned := client.returned ++ (answer runtime (buf ++ chunk) caller).toList }
      else { client with received, waiting := some (caller, buf ++ chunk) }

end DaemonClient

/-! ## The client and its server -/

/-- A client, with the server that it is connected to. -/
structure ClientWorld where
  server : SocketServer
  client : DaemonClient

inductive ClientEvent where
  /-- `call` sends its request and comes to `_recv_line`. -/
  | call (method : Text) (params : PyValue)
  /-- `call` raises in `sendall`, which has sent a part of the line. -/
  | cut (method : Text) (params : PyValue) (count : ℕ)
  /-- `recv` returns up to so many bytes. -/
  | recv (count : ℕ)
  /-- `recv` raises, after a timeout for one, or finds the connection closed. -/
  | fail
  /-- Something happens on the server. -/
  | server (event : ServerEvent)

namespace ClientWorld

variable (runtime : ClientRuntime) (number : ℕ) (world : ClientWorld)

/-- The client sends the line of a request, and waits. -/
def send (request : Request) (caller : Caller) : ClientWorld where
  server := serverStep runtime.server world.server
    (.receive number (world.client.cut ++ encode runtime.server.requests request))
  client := { world.client with
    waiting := some (caller, [])
    cut := []
    asked := world.client.asked ++ [request] }

/-- `connect`, up to the wait for the answer. -/
def connected (server : SocketServer) : ClientWorld :=
  send runtime number { server, client := {} } DaemonClient.hello .connect

/-- What the server has written on the connection. -/
def sent : List Outgoing :=
  ((world.server.connections.get? number).map Connection.sent).getD []

/-- What `recv` can return. -/
def unread : Octets := (runtime.stream (world.sent number)).drop world.client.received

/-- A step of the client or of its server. An event that cannot happen in the state changes
nothing. -/
def perform (world : ClientWorld) : ClientEvent → ClientWorld
  | .call method params =>
      match world.client.waiting with
      | some _ => world
      | none =>
          let request := world.client.request method params
          send runtime number
            { world with
              client := { world.client with requestCounter := world.client.requestCounter + 1 } }
            request (.call request.id)
  | .cut method params count =>
      match world.client.waiting with
      | some _ => world
      | none =>
          let line := runtime.server.requests.modelDumpJson (world.client.request method params)
          { world with
            client := { world.client with
              requestCounter := world.client.requestCounter + 1
              cut := world.client.cut ++ line.take count } }
  | .recv count =>
      let chunk := (world.unread runtime number).take (min count 4096)
      if chunk = [] then world
      else { world with client := world.client.take runtime chunk }
  | .fail => { world with client := { world.client with waiting := none } }
  | .server event =>
      if event.isForeign number then
        { world with server := serverStep runtime.server world.server event }
      else world

/-- Every call that has returned gave the result of the response with its id. -/
def OwnAnswers : Prop :=
  ∀ id result, (id, result) ∈ world.client.returned →
    ∃ value, Outgoing.response id value ∈ world.sent number ∧ result = runtime.written value

/-- The client has read all that was sent, no line of it was cut, and the server owes it
nothing. -/
structure Quiet : Prop where
  read : world.unread runtime number = []
  whole : world.client.cut = []
  settled : ∀ connection, world.server.connections.get? number = some connection →
    connection.isOpen = true → connection.pending = [] ∧ connection.inbox = []

/-- The condition on the state before an event: a call is made while nothing is unread or
owed, and no event is written while a call waits. -/
def InTurn (world : ClientWorld) : ClientEvent → Prop
  | .call _ _ => world.client.waiting = none → world.Quiet runtime number
  | .server event => world.client.waiting ≠ none → ¬ world.server.Pushes number event
  | _ => True

instance (runtime : ClientRuntime) (number : ℕ) (world : ClientWorld) :
    Decidable (world.Quiet runtime number) :=
  decidable_of_iff (world.unread runtime number = [] ∧ world.client.cut = [] ∧
      ∀ connection ∈ world.server.connections.get? number,
        connection.isOpen = true → connection.pending = [] ∧ connection.inbox = [])
    ⟨fun ⟨read, whole, settled⟩ => ⟨read, whole, settled⟩,
      fun quiet => ⟨quiet.read, quiet.whole, quiet.settled⟩⟩

instance (runtime : ClientRuntime) (number : ℕ) (world : ClientWorld) :
    ∀ event, Decidable (world.InTurn runtime number event)
  | .call _ _ => inferInstanceAs (Decidable (_ → world.Quiet runtime number))
  | .server event => inferInstanceAs (Decidable (_ → ¬ world.server.Pushes number event))
  | .cut _ _ _ | .recv _ | .fail => isTrue trivial

/-- The libraries have carried every request and every message. -/
structure Carried : Prop where
  requests : ∀ request ∈ world.client.asked, runtime.server.requests.RoundTrips request
  messages : ∀ message ∈ world.sent number, runtime.Carries message

end ClientWorld

/-! ## A call that waits -/

variable {runtime : ClientRuntime} {connection after : Connection} {id : Text} {buf : Octets}
  {received : ℕ} {old new : List Outgoing}

theorem stream_append (first second : List Outgoing) :
    runtime.stream (first ++ second) = runtime.stream first ++ runtime.stream second :=
  List.flatMap_append

theorem stream_singleton (message : Outgoing) : runtime.stream [message] = runtime.toLine message :=
  List.flatMap_singleton _ _

/-- Whoever is owed one answer has been sent none, or that one. -/
theorem answering_cases {messages : List Outgoing} (answering : Answering messages)
    {owed : Option Text} {later : List (Option Text)}
    (same : messages.filterMap Outgoing.answers ++ later = [owed]) :
    messages = [] ∨ ∃ message, messages = [message] ∧ message.answers = some owed := by
  cases messages with
  | nil => exact .inl rfl
  | cons message messages =>
      right
      unfold Answering at answering
      rw [List.forall_mem_cons] at answering
      obtain ⟨answered, answers⟩ := Option.ne_none_iff_exists'.mp answering.1
      rw [List.filterMap_cons_some answers, List.cons_append] at same
      obtain ⟨rfl, rest⟩ := List.cons.inj same
      cases messages with
      | nil => exact ⟨message, rfl, answers⟩
      | cons other messages =>
          obtain ⟨second, answers'⟩ :=
            Option.ne_none_iff_exists'.mp (answering.2 other List.mem_cons_self)
          rw [List.filterMap_cons_some answers'] at rest
          cases rest

/-- A caller waits on the connection for the answer with its id. What was sent before its
request, `old`, has been read; `buf` is the start of what was sent since, `new`, which is at
most the answer. -/
structure Awaits (runtime : ClientRuntime) (connection : Connection) (id : Text) (buf : Octets)
    (received : ℕ) (old new : List Outgoing) : Prop where
  sent : connection.sent = old ++ new
  own : new = [] ∨ ∃ message, new = [message] ∧ message.answers = some (some id)
  owed : connection.isOpen = true → connection.lines.map (answerId runtime.server) =
    old.filterMap Outgoing.answers ++ [some id]
  read : (runtime.stream old).length + buf.length = received
  part : buf <+: runtime.stream new

/-- What the server writes while a call waits is the answer to the call. -/
theorem Awaits.extend {more : List Outgoing}
    (awaits : Awaits runtime connection id buf received old new)
    (grows : connection.Extends after more) (answering : Answering more)
    (sound : after.Sound runtime.server) :
    Awaits runtime after id buf received old (new ++ more) where
  sent := by rw [grows.sent, awaits.sent, List.append_assoc]
  own := by
    by_cases written : more = []
    · rw [written, List.append_nil]
      exact awaits.own
    · have isOpen := grows.wrote written
      have answered := sound.answered isOpen
      unfold Connection.answers at answered
      rw [grows.lines, awaits.owed (grows.stays isOpen), grows.sent, awaits.sent,
        List.append_assoc old, List.filterMap_append, List.append_assoc, List.append_assoc,
        List.append_cancel_left_eq] at answered
      apply answering_cases _ answered
      intro message member
      rcases List.mem_append.mp member with earlier | later
      · rcases awaits.own with rfl | ⟨answer, rfl, answers⟩
        · cases earlier
        · rw [List.mem_singleton.mp earlier, answers]
          exact Option.some_ne_none _
      · exact answering message later
  owed isOpen := by rw [grows.lines, awaits.owed (grows.stays isOpen)]
  read := awaits.read
  part := awaits.part.trans (stream_append new more ▸ List.prefix_append _ _)

/-- What is unread is what was sent since the request and is not in `buf`. -/
theorem Awaits.unread (awaits : Awaits runtime connection id buf received old new) :
    (runtime.stream connection.sent).drop received = (runtime.stream new).drop buf.length := by
  rw [awaits.sent, stream_append, ← awaits.read, ← List.drop_drop, List.drop_left]

/-- A chunk goes on with what was sent since the request. -/
theorem Awaits.chunk (awaits : Awaits runtime connection id buf received old new) (count : ℕ) :
    buf ++ ((runtime.stream connection.sent).drop received).take count <+: runtime.stream new := by
  obtain ⟨rest, whole⟩ := awaits.part
  rw [awaits.unread, ← whole, List.drop_left]
  exact (List.prefix_append_right_inj buf).mpr (List.take_prefix count rest)

/-- What was received since the request is the line of the answer once it ends in a newline. -/
theorem Awaits.finished {line : Octets}
    (awaits : Awaits runtime connection id buf received old new)
    (carries : ∀ message ∈ connection.sent, runtime.Carries message)
    (start : line <+: runtime.stream new) (ended : line.getLast? = some newline) :
    ∃ message ∈ connection.sent, message.answers = some (some id) ∧
      line = runtime.toLine message := by
  rcases awaits.own with rfl | ⟨message, rfl, answers⟩
  · rw [List.prefix_nil.mp start] at ended
    cases ended
  · have member : message ∈ connection.sent := by
      rw [awaits.sent]
      exact List.mem_append_right _ List.mem_cons_self
    rw [stream_singleton] at start
    exact ⟨message, member, answers, eq_line_of_prefix (carries message member).oneLine start ended⟩

theorem callResult_response (written : PyValue → PyValue) (value : PyValue) :
    callResult ((Outgoing.response id value).object written) = .ok (written value) := rfl

theorem callResult_error (written : PyValue → PyValue) (owed : Option Text) (code : ErrorCode)
    (message : Text) :
    callResult ((Outgoing.error owed code message).object written) = .error .other := rfl

/-- What a call returns for the line of its answer is the result of a response. -/
theorem answer_own {message : Outgoing} {caller : Caller} {result : PyValue}
    (carries : runtime.Carries message) (answers : message.answers = some (some caller.requestId))
    (returns : DaemonClient.answer runtime (runtime.toLine message) caller = some (id, result)) :
    ∃ value, message = .response id value ∧ result = runtime.written value := by
  cases caller with
  | connect => cases returns
  | call requestId =>
      unfold DaemonClient.answer at returns
      dsimp only at returns
      rw [carries.loaded, PyExc.ok_bind] at returns
      cases message with
      | response answered value =>
          obtain rfl : answered = requestId := Option.some.inj (Option.some.inj answers)
          rw [callResult_response] at returns
          cases returns
          exact ⟨value, rfl, rfl⟩
      | error answered code text =>
          rw [callResult_error] at returns
          cases returns
      | event method params => cases answers

namespace ClientWorld

variable {number : ℕ} {world : ClientWorld}

theorem sent_eq (found : world.server.connections.get? number = some connection) :
    world.sent number = connection.sent := by
  unfold sent
  rw [found]
  rfl

theorem sent_of_missing (missing : world.server.connections.get? number = none) :
    world.sent number = [] := by
  unfold sent
  rw [missing]
  rfl

/-- The client has read some of what was sent to it; a caller that waits does so for its own
answer, and the calls that returned have had theirs. -/
structure Sync (runtime : ClientRuntime) (number : ℕ) (world : ClientWorld) : Prop where
  sound : world.server.Sound runtime.server
  own : world.OwnAnswers runtime number
  stream : ∃ connection, world.server.connections.get? number = some connection ∧
    world.client.received ≤ (runtime.stream connection.sent).length ∧
      ∀ caller buf, world.client.waiting = some (caller, buf) →
        ∃ old new, Awaits runtime connection caller.requestId buf world.client.received old new

/-- What was returned stays right when more is sent. -/
theorem OwnAnswers.mono {next : ClientWorld} (own : world.OwnAnswers runtime number)
    (returned : next.client.returned = world.client.returned)
    (sent : world.sent number ⊆ next.sent number) : next.OwnAnswers runtime number := by
  intro id result member
  rw [returned] at member
  obtain ⟨value, response, same⟩ := own id result member
  exact ⟨value, sent response, same⟩

theorem Sync.server (sync : world.Sync runtime number) {event : ServerEvent}
    (foreign : event.isForeign number = true)
    (quiet : world.client.waiting ≠ none → ¬ world.server.Pushes number event) :
    Sync runtime number { world with server := serverStep runtime.server world.server event } := by
  obtain ⟨connection, found, bound, awaits⟩ := sync.stream
  obtain ⟨after, more, reached, grows, answering⟩ :=
    SocketServer.goesOn_serverStep runtime.server found foreign
  have sound := sync.sound.step event
  have grown : (runtime.stream connection.sent).length ≤ (runtime.stream after.sent).length := by
    rw [grows.sent, stream_append, List.length_append]
    exact Nat.le_add_right _ _
  refine ⟨sound, sync.own.mono rfl ?_, after, reached, bound.trans grown, ?_⟩
  · rw [sent_eq found, sent_eq reached, grows.sent]
    exact List.subset_append_left _ _
  · intro caller buf waiting
    obtain ⟨old, new, waits⟩ := awaits caller buf waiting
    have answers := answering (quiet (waiting ▸ Option.some_ne_none _))
    exact ⟨old, new ++ more, waits.extend grows answers (sound.each number after reached)⟩

/-- The line of a request is answered with its id. -/
theorem answerId_encode {request : Request}
    (roundTrips : runtime.server.requests.RoundTrips request) :
    answerId runtime.server (encode runtime.server.requests request) = some request.id := by
  unfold answerId Request.fromLine
  rw [decode_encode roundTrips]

theorem sent_subset_send (request : Request) (caller : Caller) :
    world.sent number ⊆ (world.send runtime number request caller).sent number := by
  rcases found : world.server.connections.get? number with _ | connection
  · rw [sent_of_missing found]
    exact List.nil_subset _
  · have reached := SocketServer.adjust_get? found
      (·.receive (world.client.cut ++ encode runtime.server.requests request))
    rw [sent_eq found, @sent_eq _ number (world.send runtime number request caller) reached,
      Connection.sent_receive]
    exact List.Subset.refl _

/-- A request that is sent while nothing is unread or owed is waited for. -/
theorem Sync.send (sync : world.Sync runtime number) (quiet : world.Quiet runtime number)
    {request : Request} {caller : Caller} (own : request.id = caller.requestId)
    (roundTrips : runtime.server.requests.RoundTrips request) :
    (world.send runtime number request caller).Sync runtime number := by
  obtain ⟨connection, found, bound, -⟩ := sync.stream
  have line : world.client.cut ++ encode runtime.server.requests request =
      encode runtime.server.requests request := by rw [quiet.whole, List.nil_append]
  have reached : (world.send runtime number request caller).server.connections.get? number =
      some (connection.receive (world.client.cut ++ encode runtime.server.requests request)) :=
    SocketServer.adjust_get? found _
  have read : world.client.received = (runtime.stream connection.sent).length := by
    have rest := quiet.read
    unfold unread at rest
    rw [sent_eq found, List.drop_eq_nil_iff] at rest
    exact le_antisymm bound rest
  refine ⟨sync.sound.step (.receive number _), sync.own.mono rfl (sent_subset_send request caller),
    _, reached, ?_, ?_⟩
  · rw [Connection.sent_receive]
    exact bound
  · rintro _ _ ⟨⟩
    refine ⟨connection.sent, [], ?_, .inl rfl, ?_, read.symm, List.nil_prefix⟩
    · rw [Connection.sent_receive, List.append_nil]
    intro isOpen
    have opened : connection.isOpen = true := FanOut.receive_stays _ _ isOpen
    obtain ⟨pending, inbox⟩ := quiet.settled connection found opened
    have answered := (sync.sound.each number connection found).answered opened
    rw [pending, inbox, List.append_nil, List.map_nil, List.append_nil] at answered
    unfold Connection.receive
    rw [if_pos opened, List.map_append, ← answered, line, List.map_singleton,
      answerId_encode roundTrips, own]
    rfl

/-- A chunk that ends a line is the end of the answer. -/
theorem Sync.recv (sync : world.Sync runtime number) (carried : world.Carried runtime number)
    (count : ℕ) : (perform runtime number world (.recv count)).Sync runtime number := by
  obtain ⟨connection, found, bound, awaits⟩ := sync.stream
  unfold perform unread
  rw [sent_eq found]
  dsimp only
  generalize taken : ((runtime.stream connection.sent).drop world.client.received).take
    (min count 4096) = chunk
  split
  · exact sync
  · next inhabited =>
      have bound' : world.client.received + chunk.length ≤
          (runtime.stream connection.sent).length := by
        have room := (List.take_prefix (min count 4096)
          ((runtime.stream connection.sent).drop world.client.received)).length_le
        rw [taken, List.length_drop] at room
        omega
      unfold DaemonClient.take
      rcases waiting : world.client.waiting with _ | ⟨caller, buf⟩
      · exact ⟨sync.sound, sync.own, connection, found, bound,
          fun caller buf waits => nomatch waiting.symm.trans waits⟩
      obtain ⟨old, new, waits⟩ := awaits caller buf waiting
      have start := waits.chunk (min count 4096)
      rw [taken] at start
      dsimp only
      split
      · next ended =>
          refine ⟨sync.sound, ?_, connection, found, bound', nofun⟩
          have carries : ∀ message ∈ connection.sent, runtime.Carries message := by
            rw [← sent_eq found]
            exact carried.messages
          obtain ⟨message, member, answers, whole⟩ := waits.finished carries start ended
          intro id result returned
          rw [whole] at returned
          rcases List.mem_append.mp returned with earlier | now
          · exact sync.own id result earlier
          · rw [Option.mem_toList] at now
            obtain ⟨value, rfl, same⟩ := answer_own (carries message member) answers now
            exact ⟨value, sent_eq found ▸ member, same⟩
      · refine ⟨sync.sound, sync.own, connection, found, bound', ?_⟩
        rintro _ _ ⟨⟩
        refine ⟨old, new, waits.sent, waits.own, waits.owed, ?_, start⟩
        rw [List.length_append, ← Nat.add_assoc, waits.read]

/-! ## Runs -/

theorem carried_of_subset {next : ClientWorld} (carried : next.Carried runtime number)
    (asked : world.client.asked ⊆ next.client.asked)
    (sent : world.sent number ⊆ next.sent number) : world.Carried runtime number where
  requests request member := carried.requests request (asked member)
  messages message member := carried.messages message (sent member)

theorem sent_subset_server {event : ServerEvent} (foreign : event.isForeign number = true) :
    world.sent number ⊆
      sent number { world with server := serverStep runtime.server world.server event } := by
  rcases found : world.server.connections.get? number with _ | connection
  · rw [sent_of_missing found]
    exact List.nil_subset _
  · obtain ⟨after, more, reached, grows, -⟩ :=
      SocketServer.goesOn_serverStep runtime.server found foreign
    rw [sent_eq found, sent_eq reached, grows.sent]
    exact List.subset_append_left _ _

/-- Nothing that was sent is taken back. -/
theorem carried_of_perform (event : ClientEvent)
    (carried : (world.perform runtime number event).Carried runtime number) :
    world.Carried runtime number := by
  cases event with
  | call method params =>
      unfold perform at carried
      dsimp only at carried
      split at carried
      · exact carried
      · let request := world.client.request method params
        have kept := @sent_subset_send runtime number { world with
            client := { world.client with requestCounter := world.client.requestCounter + 1 } }
            request (.call request.id)
        exact carried_of_subset carried (List.subset_append_left _ _) kept
  | cut method params count =>
      unfold perform at carried
      dsimp only at carried
      split at carried
      · exact carried
      · exact ⟨carried.requests, carried.messages⟩
  | recv count =>
      unfold perform at carried
      dsimp only at carried
      split at carried
      · exact carried
      · refine carried_of_subset carried ?_ (List.Subset.refl _)
        unfold DaemonClient.take
        split
        · exact List.Subset.refl _
        · dsimp only
          split <;> exact List.Subset.refl _
  | fail => exact ⟨carried.requests, carried.messages⟩
  | server event =>
      unfold perform at carried
      dsimp only at carried
      split at carried
      · next foreign =>
          exact carried_of_subset carried (List.Subset.refl _) (sent_subset_server foreign)
      · exact carried

/-- **One event.** In turn, the client stays in step with its server. -/
theorem Sync.perform (sync : world.Sync runtime number) {event : ClientEvent}
    (inTurn : world.InTurn runtime number event)
    (carried : (world.perform runtime number event).Carried runtime number) :
    (world.perform runtime number event).Sync runtime number := by
  cases event with
  | call method params =>
      unfold ClientWorld.perform at carried ⊢
      dsimp only at carried ⊢
      rcases waiting : world.client.waiting with _ | _
      · rw [waiting] at carried
        have quiet := inTurn waiting
        have counted : Sync runtime number
            { world with
              client := { world.client with requestCounter := world.client.requestCounter + 1 } } :=
          ⟨sync.sound, sync.own, sync.stream⟩
        exact counted.send ⟨quiet.read, quiet.whole, quiet.settled⟩ rfl
          (carried.requests _ (List.mem_append_right _ List.mem_cons_self))
      · exact sync
  | cut method params count =>
      unfold ClientWorld.perform
      dsimp only
      split
      · exact sync
      · exact ⟨sync.sound, sync.own, sync.stream⟩
  | recv count => exact sync.recv (carried_of_perform _ carried) count
  | fail =>
      obtain ⟨connection, found, bound, -⟩ := sync.stream
      exact ⟨sync.sound, sync.own, connection, found, bound, nofun⟩
  | server event =>
      unfold ClientWorld.perform
      dsimp only
      split
      · next foreign => exact sync.server foreign inTurn
      · exact sync

/-- The client comes to wait for the answer to its `hello` on a new connection. -/
theorem sync_connected {server : SocketServer} (sound : server.Sound runtime.server)
    {clientId : ℕ} (opened : server.connections.get? number = some { clientId })
    (carried : (connected runtime number server).Carried runtime number) :
    (connected runtime number server).Sync runtime number := by
  have start : Sync runtime number { server, client := {} } :=
    ⟨sound, nofun, _, opened, Nat.zero_le _, nofun⟩
  refine start.send ⟨?_, rfl, ?_⟩ rfl (carried.requests _ List.mem_cons_self)
  · unfold unread
    rw [sent_eq opened]
    rfl
  · intro connection found _
    obtain rfl := Option.some.inj (opened.symm.trans found)
    exact ⟨rfl, rfl⟩

/-- **The client's calls.** Let a client be connected to a server on which anything may have
happened, and let it make calls that return or raise at any point, with the stream cut in any
way. If each call is made while nothing is unread or owed, and no event is written on the
connection while a call waits, then every call that returns gives the result of the response
with its id. -/
theorem own_answers (runtime : ClientRuntime) (registered : List Text)
    (earlier : List ServerEvent) (number clientId : ℕ)
    (opened : (serve runtime.server registered earlier).connections.get? number =
      some { clientId }) (events : List ClientEvent)
    (carried : (events.foldl (perform runtime number)
      (connected runtime number (serve runtime.server registered earlier))).Carried runtime number)
    (inTurn : EachMeets (perform runtime number) (InTurn runtime number)
      (connected runtime number (serve runtime.server registered earlier)) events) :
    Throughout (perform runtime number) (OwnAnswers runtime number)
      (connected runtime number (serve runtime.server registered earlier)) events := by
  have sound : (serve runtime.server registered earlier).Sound runtime.server :=
    (SocketServer.sound_start registered).run earlier
  have within := Throughout.of_last (fun _ event => carried_of_perform event) carried
  have synced : Throughout (perform runtime number)
      (fun world => world.Carried runtime number → world.Sync runtime number)
      (connected runtime number (serve runtime.server registered earlier)) events :=
    inTurn.throughout (fun world event sync meets carried =>
      (sync (carried_of_perform event carried)).perform meets carried) (sync_connected sound opened)
  exact (synced.mp within).mono fun _ => Sync.own

/-! ## Runs of a client that pings -/

/-- What follows the id of a request, or of a response. -/
def lineFields (id rest : Text) : Text :=
  "\"jsonrpc\":\"2.0\",\"id\":\"".toList ++ id ++ "\",".toList ++ rest

def helloFields : Text :=
  lineFields helloId "\"method\":\"hello\",\"params\":\x7b\"version\":1\x7d".toList

def pingFields (id : Text) : Text :=
  lineFields id "\"method\":\"ping\",\"params\":\x7b\x7d".toList

def subscribeFields (id : Text) : Text :=
  lineFields id "\"method\":\"subscribe\",\"params\":\x7b\x7d".toList

def greetingFields : Text :=
  lineFields helloId "\"result\":\x7b\"version\":1,\"daemon_version\":\"0.1.0\"\x7d".toList

def pongFields (id : Text) : Text :=
  lineFields id "\"result\":\x7b\"pong\":true\x7d".toList

def firstId : Text := "req-1".toList

def secondId : Text := "req-2".toList

def ping : Request := ⟨firstId, pingMethod, .dict []⟩

def subscribe : Request := ⟨secondId, subscribeMethod, .dict []⟩

def greeting : Outgoing :=
  .response helloId (.dict [(.str "version".toList, .num protocolVersion),
    (.str "daemon_version".toList, .str "0.1.0".toList)])

def pong : PyValue := .dict [(.str "pong".toList, .num 1)]

/-- The libraries, as they behave on these lines. -/
def pingRuntime : ClientRuntime where
  server := {
    requests := {
      modelDumpJson := fun request =>
        if request.method = helloMethod then objectOctets helloFields
        else if request.method = pingMethod then objectOctets (pingFields request.id)
        else objectOctets (subscribeFields request.id)
      validateJson := fun octets =>
        if octets = objectOctets helloFields then .ok DaemonClient.hello
        else if octets = objectOctets (pingFields firstId) then .ok ping
        else if octets = objectOctets (subscribeFields secondId) then .ok subscribe
        else .error .valueError }
    helloVersion := fun _ => .ok protocolVersion
    sorted := fun _ => .ok []
    describe := fun _ _ => [] }
  dump
    | .response id _ =>
        objectOctets (if id = helloId then greetingFields else pongFields id)
    | _ => []
  loads octets :=
    if octets = objectOctets greetingFields ++ [newline] then
      .ok (greeting.object fun value => value)
    else if octets = objectOctets (pongFields firstId) ++ [newline] then
      .ok ((Outgoing.response firstId pong).object fun value => value)
    else .error .jsonDecodeError
  written value := value

/-- A client has connected to a server on which nothing else has happened. -/
def pinging : ClientWorld :=
  connected pingRuntime 0 (serve pingRuntime.server [] [.connect 0 0])

/-- The handshake, and a `ping` that is answered. -/
def answeredPing : List ClientEvent :=
  [.server (.handle 0), .server (.drain 0), .recv 4096, .call pingMethod (.dict []),
    .server (.handle 0), .recv 20, .server (.drain 0), .recv 4096]

theorem carries_greeting : pingRuntime.Carries greeting := ⟨by decide +kernel, rfl⟩

theorem carries_pong : pingRuntime.Carries (.response firstId pong) := ⟨by decide +kernel, rfl⟩

theorem roundTrips_hello : pingRuntime.server.requests.RoundTrips DaemonClient.hello :=
  ⟨rfl, ⟨_, rfl⟩, by decide +kernel⟩

theorem roundTrips_ping : pingRuntime.server.requests.RoundTrips ping :=
  ⟨rfl, ⟨_, rfl⟩, by decide +kernel⟩

theorem roundTrips_subscribe : pingRuntime.server.requests.RoundTrips subscribe :=
  ⟨rfl, ⟨_, rfl⟩, by decide +kernel⟩

theorem ping_answered :
    Throughout (perform pingRuntime 0) (OwnAnswers pingRuntime 0) pinging answeredPing := by
  refine own_answers pingRuntime [] [.connect 0 0] 0 0 rfl answeredPing ⟨?_, ?_⟩
    (by decide +kernel)
  · change ∀ request ∈ [DaemonClient.hello, ping], _
    rw [List.forall_mem_cons, List.forall_mem_singleton]
    exact ⟨roundTrips_hello, roundTrips_ping⟩
  · change ∀ message ∈ [greeting, .response firstId pong], _
    rw [List.forall_mem_cons, List.forall_mem_singleton]
    exact ⟨carries_greeting, carries_pong⟩

/-- A `ping` that times out before its answer comes, and a `subscribe` after it. -/
def latePong : List ClientEvent :=
  [.server (.handle 0), .server (.drain 0), .recv 4096, .call pingMethod (.dict []), .fail,
    .server (.handle 0), .server (.drain 0), .call subscribeMethod (.dict []), .recv 4096]

/-- The second call returns the answer to the first. -/
theorem late_answer_returned :
    ¬ ∀ (runtime : ClientRuntime) (registered : List Text) (earlier : List ServerEvent)
      (number clientId : ℕ),
      (serve runtime.server registered earlier).connections.get? number = some { clientId } →
      ∀ events : List ClientEvent,
        (events.foldl (perform runtime number) (connected runtime number
          (serve runtime.server registered earlier))).Carried runtime number →
        Throughout (perform runtime number) (OwnAnswers runtime number)
          (connected runtime number (serve runtime.server registered earlier)) events := by
  intro claim
  have always := claim pingRuntime [] [.connect 0 0] 0 0 rfl latePong ⟨?_, ?_⟩
  · have returned : (secondId, pong) ∈
        (latePong.foldl (perform pingRuntime 0) pinging).client.returned :=
      List.mem_singleton.mpr rfl
    obtain ⟨value, response, -⟩ := always.last secondId pong returned
    change _ ∈ [greeting, .response firstId pong] at response
    rcases List.mem_pair.mp response with greets | pongs
    · exact absurd (Outgoing.response.inj greets).1 (by decide)
    · exact absurd (Outgoing.response.inj pongs).1 (by decide)
  · change ∀ request ∈ [DaemonClient.hello, ping, subscribe], _
    rw [List.forall_mem_cons, List.forall_mem_cons, List.forall_mem_singleton]
    exact ⟨roundTrips_hello, roundTrips_ping, roundTrips_subscribe⟩
  · change ∀ message ∈ [greeting, .response firstId pong], _
    rw [List.forall_mem_cons, List.forall_mem_singleton]
    exact ⟨carries_greeting, carries_pong⟩

end ClientWorld

end Vcompany.Daemon
