import Vcompany.Daemon.Protocol
import Vcompany.Foundation.Dict
import Vcompany.Transport.Framing
import Mathlib.Data.Finset.Erase

/-! # The daemon's socket server

One handler for each connection reads lines and answers them; broadcasts write events on
the connections of subscribed clients. They run on one event loop and change the server's
tables between two `await`s. The tables know a client by `id(writer)`, which another
connection may get once the writer is gone.

A connection has a number of its own here, with what was received, sent and dispatched on
it. Lines are whole: their ends and the reader's limit are the stream's.
-/

namespace Vcompany.Daemon

open Foundation Transport

/-- What the server uses of its libraries. -/
structure SocketRuntime where
  /-- The serialization of `Request`. -/
  requests : Codec Request
  /-- The version in `HelloParams.model_validate(params)`, or the text of the error. -/
  helloVersion : PyValue → Except Text ℤ
  /-- `sorted` of a set, or the text of the error. -/
  sorted : Finset HashKey → Except Text (List PyValue)
  /-- The text of the exception that an operation on the value raises. -/
  describe : PyExc → PyValue → Text

/-- `Request.from_line`. -/
def Request.fromLine (runtime : SocketRuntime) (line : Octets) : Except PyExc Request :=
  decode runtime.requests line

def helloMethod : Text := "hello".toList

def pingMethod : Text := "ping".toList

def subscribeMethod : Text := "subscribe".toList

/-- A handler in the table of methods: one of the server's own, or a registered one. -/
inductive Handler where
  | hello
  | ping
  | subscribe
  | registered
  deriving DecidableEq, Repr

/-- Where the handler of a connection stands: at `reader.readline()`, in a registered
method for the request with the id, at `writer.drain()`, at `writer.wait_closed()` or at its
end, where the writer may be collected. -/
inductive Phase where
  | reading
  | running (id : Text)
  | draining
  | closing
  | released
  deriving DecidableEq

/-- The handler has not reached its `finally`. -/
def Phase.isServing : Phase → Bool
  | reading | running _ | draining => true
  | closing | released => false

/-- The writer exists, so that no other has its identity. -/
def Phase.holdsWriter : Phase → Bool
  | released => false
  | _ => true

/-- A call of `_dispatch`: the request, and what the method gave if it did not wait. -/
structure DispatchCall where
  request : Request
  result : Option (Except Text PyValue)

structure Connection where
  /-- `id(writer)`. -/
  clientId : ℕ
  phase : Phase := .reading
  /-- Neither side has closed the connection or lost it. -/
  isOpen : Bool := true
  /-- The lines received while the connection was open. -/
  lines : List Octets := []
  /-- Those that the handler has not read. -/
  inbox : List Octets := []
  /-- What was written while the connection was open. -/
  sent : List Outgoing := []
  /-- The calls of `_dispatch` for this connection, the latest last. -/
  calls : List DispatchCall := []

namespace Connection

/-- `writer.write(message.to_line())`. -/
def write (connection : Connection) (message : Outgoing) : Connection :=
  if connection.isOpen then { connection with sent := connection.sent ++ [message] }
  else connection

/-- Writing the answer to a line, up to the `await` after it. -/
def answer (connection : Connection) (message : Outgoing) : Connection :=
  { connection.write message with phase := .draining }

def record (connection : Connection) (request : Request)
    (result : Option (Except Text PyValue)) : Connection :=
  { connection with calls := connection.calls ++ [⟨request, result⟩] }

/-- A line arrives. -/
def receive (connection : Connection) (line : Octets) : Connection :=
  if connection.isOpen then
    { connection with
      lines := connection.lines ++ [line], inbox := connection.inbox ++ [line] }
  else connection

/-- A registered method returns, or raises the exception with the text. -/
def finish (connection : Connection) (result : Except Text PyValue) : Connection :=
  match connection.phase with
  | .running id => connection.answer (.ofResult id result)
  | _ => connection

/-- `writer.drain()` returns to the handler. -/
def drain (connection : Connection) : Connection :=
  match connection.phase with
  | .draining => { connection with phase := .reading }
  | _ => connection

/-- The handler ends. -/
def release (connection : Connection) : Connection :=
  match connection.phase with
  | .closing => { connection with phase := .released }
  | _ => connection

end Connection

/-- A call of `broadcast_event`: the event, the clients that it has found dead, and the
client and connection whose `writer.drain()` it awaits. -/
structure Broadcast where
  eventType : Text
  params : PyValue
  deadClients : List ℕ := []
  awaits : Option (ℕ × ℕ) := none

/-- `SocketServer`, with the connections and the broadcasts under way. A client in
`clients` is the number of its connection. -/
structure SocketServer where
  clients : Dict ℕ ℕ
  subscriptions : Dict ℕ (Finset HashKey)
  methods : Dict Text Handler
  handshakeDone : Finset ℕ
  connections : Dict ℕ Connection
  broadcasts : Dict ℕ Broadcast

namespace SocketServer

/-- `register_method`. -/
def registerMethod (server : SocketServer) (name : Text) : SocketServer :=
  { server with methods := server.methods.set name .registered }

/-- `_register_builtins`. -/
def registerBuiltins (server : SocketServer) : SocketServer :=
  { server with
    methods := ((server.methods.set helloMethod .hello).set pingMethod .ping).set
      subscribeMethod .subscribe }

/-- `SocketServer(socket_path)`. -/
def new : SocketServer where
  clients := .empty
  subscriptions := .empty
  methods := .empty
  handshakeDone := ∅
  connections := .empty
  broadcasts := .empty

/-- The server after `start`, with the methods that were registered before it. -/
def start (registered : List Text) : SocketServer :=
  (registered.foldl registerMethod new).registerBuiltins

/-- `_remove_client`. -/
def removeClient (server : SocketServer) (clientId : ℕ) : SocketServer :=
  { server with
    clients := server.clients.pop clientId
    subscriptions := server.subscriptions.pop clientId
    handshakeDone := server.handshakeDone.erase clientId }

def put (server : SocketServer) (number : ℕ) (connection : Connection) : SocketServer :=
  { server with connections := server.connections.set number connection }

end SocketServer

/-! ## The methods -/

section

variable (runtime : SocketRuntime)

/-- `_handle_hello`. -/
def handleHello (clientId : ℕ) (params : PyValue) (server : SocketServer) :
    Except Text PyValue × SocketServer :=
  match runtime.helloVersion params with
  | .error message => (.error message, server)
  | .ok version =>
      if version ≠ protocolVersion then
        (.error ("Unsupported protocol version ".toList ++ (toString version).toList ++
          ". Supported: [".toList ++ (toString protocolVersion).toList ++ "]".toList), server)
      else
        (.ok (.dict [(.str "version".toList, .num protocolVersion),
            (.str "daemon_version".toList, .str "0.1.0".toList)]),
          { server with handshakeDone := insert clientId server.handshakeDone })

/-- `_handle_ping`. -/
def handlePing (_params : PyValue) : Except Text PyValue :=
  .ok (.dict [(.str "pong".toList, .num 1)])

/-- `held.update(items)`, which keeps the items before the one that cannot be hashed. -/
def updateSet (held : Finset HashKey) : List PyValue → Finset HashKey × Option PyExc
  | [] => (held, none)
  | item :: rest =>
      match item.hash with
      | .error raised => (held, some raised)
      | .ok key => updateSet (insert key held) rest

/-- `_handle_subscribe`. -/
def handleSubscribe (clientId : ℕ) (params : PyValue) (server : SocketServer) :
    Except Text PyValue × SocketServer :=
  match params.get "events".toList (.list []) with
  | .error raised => (.error (runtime.describe raised params), server)
  | .ok events =>
      let held := (server.subscriptions.get? clientId).getD ∅
      let subscribed (keys : Finset HashKey) : SocketServer :=
        { server with subscriptions := server.subscriptions.set clientId keys }
      match events.iter with
      | .error raised => (.error (runtime.describe raised events), subscribed held)
      | .ok items =>
          match updateSet held items with
          | (keys, some raised) => (.error (runtime.describe raised events), subscribed keys)
          | (keys, none) =>
              match runtime.sorted keys with
              | .error message => (.error message, subscribed keys)
              | .ok values =>
                  (.ok (.dict [(.str "subscribed".toList, .list values)]), subscribed keys)

/-! ## The handler of a connection -/

/-- `_dispatch` and the answer to it, up to the next `await` that waits. A registered
method may wait; the others do not. -/
def dispatch (number : ℕ) (connection : Connection) (request : Request)
    (server : SocketServer) : SocketServer :=
  match server.methods.get? request.method with
  | none =>
      server.put number ((connection.record request none).answer
        (.error (some request.id) .methodNotFound
          ("Method not found: ".toList ++ request.method)))
  | some .hello =>
      let (result, next) := handleHello runtime connection.clientId request.params server
      next.put number ((connection.record request (some result)).answer
        (.ofResult request.id result))
  | some .ping =>
      let result := handlePing request.params
      server.put number ((connection.record request (some result)).answer
        (.ofResult request.id result))
  | some .subscribe =>
      let (result, next) := handleSubscribe runtime connection.clientId request.params server
      next.put number ((connection.record request (some result)).answer
        (.ofResult request.id result))
  | some .registered =>
      server.put number
        { connection.record request none with phase := .running request.id }

/-- The body of the loop of `_handle_client` for a line, up to the next `await` that
waits. -/
def handleLine (number : ℕ) (connection : Connection) (line : Octets)
    (server : SocketServer) : SocketServer :=
  match Request.fromLine runtime line with
  | .error _ =>
      server.put number (connection.answer (.error none .parseError "Parse error".toList))
  | .ok request =>
      if connection.clientId ∉ server.handshakeDone ∧ request.method ≠ helloMethod then
        server.put number (connection.answer
          (.error (some request.id) .invalidRequest "Must send hello first".toList))
      else dispatch runtime number connection request server

end

/-! ## What happens on the server -/

/-- What happens between two `await`s, or to a connection. -/
inductive ServerEvent where
  /-- A client connects, and the handler of its connection starts. -/
  | connect (number clientId : ℕ)
  /-- A line arrives on the connection. -/
  | receive (number : ℕ) (line : Octets)
  /-- The handler reads the next line and handles it. -/
  | handle (number : ℕ)
  /-- The registered method returns, or raises the exception with the text. -/
  | finish (number : ℕ) (result : Except Text PyValue)
  /-- `writer.drain()` returns to the handler. -/
  | drain (number : ℕ)
  /-- The connection is lost, or closed by the client. -/
  | lose (number : ℕ)
  /-- The handler leaves its loop: at the end of the input, after 300 seconds without a
  line, on a broken connection or cancelled. -/
  | leave (number : ℕ)
  /-- The handler ends. -/
  | release (number : ℕ)
  | register (name : Text)
  /-- A call of `broadcast_event` starts. -/
  | broadcast (call : ℕ) (eventType : Text) (params : PyValue)
  /-- The broadcast comes to a client. Which one is next is left open: the table may have
  changed while it waited. -/
  | visit (call clientId : ℕ)
  /-- `writer.drain()` returns to the broadcast, or raises. -/
  | resume (call : ℕ) (raised : Bool)
  /-- The broadcast comes to the end of the table and removes the dead clients. -/
  | conclude (call : ℕ)
  /-- The table has changed its size, so the iteration over it raises. -/
  | abandon (call : ℕ)
  /-- `stop` closes the connections and clears the tables. -/
  | stop

namespace SocketServer

/-- A change of one connection. -/
def adjust (server : SocketServer) (number : ℕ) (change : Connection → Connection) :
    SocketServer :=
  match server.connections.get? number with
  | none => server
  | some connection => server.put number (change connection)

/-- No writer has the identity. -/
def Unused (server : SocketServer) (clientId : ℕ) : Prop :=
  ∀ entry ∈ server.connections.entries,
    entry.2.phase.holdsWriter = true → entry.2.clientId ≠ clientId

instance (server : SocketServer) (clientId : ℕ) : Decidable (server.Unused clientId) :=
  inferInstanceAs (Decidable (∀ _ ∈ _, _))

/-- The handler of a new connection, up to its first `await`. -/
def connect (number clientId : ℕ) (server : SocketServer) : SocketServer :=
  match server.connections.get? number with
  | some _ => server
  | none =>
      if server.Unused clientId then
        { server with
          clients := server.clients.set clientId number
          connections := server.connections.set number { clientId } }
      else server

/-- The handler goes on with the next line. -/
def handle (runtime : SocketRuntime) (number : ℕ) (server : SocketServer) : SocketServer :=
  match server.connections.get? number with
  | none => server
  | some connection =>
      match connection.phase, connection.inbox with
      | .reading, line :: rest =>
          handleLine runtime number { connection with inbox := rest } line server
      | _, _ => server

/-- The `finally` of `_handle_client`, up to its `await`. -/
def leave (number : ℕ) (server : SocketServer) : SocketServer :=
  match server.connections.get? number with
  | none => server
  | some connection =>
      if connection.phase.isServing then
        (server.removeClient connection.clientId).put number
          { connection with phase := .closing, isOpen := false }
      else server

/-- The body of the loop of `broadcast_event` for a client, up to its `await`. -/
def visit (call clientId : ℕ) (server : SocketServer) : SocketServer :=
  match server.broadcasts.get? call with
  | none => server
  | some broadcast =>
      match broadcast.awaits, server.subscriptions.get? clientId,
          server.clients.get? clientId with
      | none, some subscribed, some number =>
          if .str broadcast.eventType ∈ subscribed then
            let message := Outgoing.event ("event.".toList ++ broadcast.eventType)
              broadcast.params
            { server.adjust number (·.write message) with
              broadcasts := server.broadcasts.set call
                { broadcast with awaits := some (clientId, number) } }
          else server
      | _, _, _ => server

/-- The connection is open. -/
def isOpenAt (server : SocketServer) (number : ℕ) : Bool :=
  ((server.connections.get? number).map Connection.isOpen).getD false

/-- The broadcast goes on after an `await`, which raises only on a lost connection. -/
def resume (call : ℕ) (raised : Bool) (server : SocketServer) : SocketServer :=
  match server.broadcasts.get? call with
  | none => server
  | some broadcast =>
      match broadcast.awaits with
      | none => server
      | some (clientId, number) =>
          if raised && server.isOpenAt number then server
          else
            { server with
              broadcasts := server.broadcasts.set call
                { broadcast with
                  awaits := none
                  deadClients :=
                    if raised then broadcast.deadClients ++ [clientId]
                    else broadcast.deadClients } }

/-- The end of `broadcast_event`. -/
def conclude (call : ℕ) (server : SocketServer) : SocketServer :=
  match server.broadcasts.get? call with
  | none => server
  | some broadcast =>
      match broadcast.awaits with
      | some _ => server
      | none =>
          broadcast.deadClients.foldl removeClient
            { server with broadcasts := server.broadcasts.pop call }

/-- `stop`, once no more clients are accepted. -/
def stop (server : SocketServer) : SocketServer :=
  { server.clients.values.foldl
      (fun server number => server.adjust number ({ · with isOpen := false })) server with
    clients := .empty
    subscriptions := .empty
    handshakeDone := ∅ }

end SocketServer

/-- A step of the server. An event that cannot happen in the state changes nothing. -/
def serverStep (runtime : SocketRuntime) (server : SocketServer) : ServerEvent → SocketServer
  | .connect number clientId => server.connect number clientId
  | .receive number line => server.adjust number (·.receive line)
  | .handle number => server.handle runtime number
  | .finish number result => server.adjust number (·.finish result)
  | .drain number => server.adjust number (·.drain)
  | .lose number => server.adjust number ({ · with isOpen := false })
  | .leave number => server.leave number
  | .release number => server.adjust number (·.release)
  | .register name => server.registerMethod name
  | .broadcast call eventType params =>
      match server.broadcasts.get? call with
      | some _ => server
      | none =>
          { server with broadcasts := server.broadcasts.set call { eventType, params } }
  | .visit call clientId => server.visit call clientId
  | .resume call raised => server.resume call raised
  | .conclude call => server.conclude call
  | .abandon call => { server with broadcasts := server.broadcasts.pop call }
  | .stop => server.stop

/-- The server after `start` and a list of events. -/
def serve (runtime : SocketRuntime) (registered : List Text) (events : List ServerEvent) :
    SocketServer :=
  events.foldl (serverStep runtime) (.start registered)

end Vcompany.Daemon
