import Vcompany.Daemon.Broadcast
import Vcompany.Daemon.SocketProtocol

/-! # What the server writes on a connection

Whatever happens on the server, a connection that it has goes on: no line is received on it but
from its own client, and only messages are added to those that were written, none of them once
it is closed. They are answers, unless a broadcast comes to the client of the connection
(`SocketServer.goesOn_serverStep`).
-/

namespace Vcompany.Daemon

open Foundation Transport

/-- Only the client writes on its own connection. -/
def ServerEvent.isForeign (number : ℕ) : ServerEvent → Bool
  | receive other _ => other != number
  | _ => true

/-- A broadcast writes its event on the connection. -/
def SocketServer.Pushes (server : SocketServer) (number : ℕ) : ServerEvent → Prop
  | .visit call clientId =>
      ∃ asked ∈ server.broadcasts.get? call, asked.awaits = none ∧
        server.recipient asked.eventType clientId = some number
  | _ => False

instance (server : SocketServer) (number : ℕ) : ∀ event, Decidable (server.Pushes number event)
  | .visit call _ => inferInstanceAs (Decidable (∃ asked ∈ server.broadcasts.get? call, _))
  | .connect _ _ | .receive _ _ | .handle _ | .finish _ _ | .drain _ | .lose _ | .leave _
  | .release _ | .register _ | .broadcast _ _ _ | .resume _ _ | .conclude _ | .abandon _ | .stop =>
      isFalse id

/-- None of the messages is an event. -/
def Answering (messages : List Outgoing) : Prop := ∀ message ∈ messages, message.answers ≠ none

/-- One connection takes the place of another, with more messages written on it. -/
structure Connection.Extends (before after : Connection) (more : List Outgoing) : Prop where
  lines : after.lines = before.lines
  sent : after.sent = before.sent ++ more
  stays : after.isOpen = true → before.isOpen = true
  wrote : more ≠ [] → after.isOpen = true

theorem answering_nil : Answering [] := nofun

namespace Connection

variable {connection after : Connection}

theorem Extends.of_eq (lines : after.lines = connection.lines) (sent : after.sent = connection.sent)
    (stays : after.isOpen = true → connection.isOpen = true) : connection.Extends after [] :=
  ⟨lines, sent.trans (List.append_nil _).symm, stays, fun written => absurd rfl written⟩

theorem Extends.refl (connection : Connection) : connection.Extends connection [] :=
  .of_eq rfl rfl id

theorem write_extends (connection : Connection) (message : Outgoing) :
    ∃ more, connection.Extends (connection.write message) more ∧ more ⊆ [message] := by
  unfold write
  split
  · next isOpen =>
      exact ⟨[message], ⟨rfl, rfl, fun _ => isOpen, fun _ => isOpen⟩, List.Subset.refl _⟩
  · exact ⟨[], .refl connection, List.nil_subset _⟩

/-- Writing an answer. What else changes is not seen on the connection. -/
theorem answer_extends {recorded : Connection} (lines : recorded.lines = connection.lines)
    (sent : recorded.sent = connection.sent) (isOpen : recorded.isOpen = connection.isOpen)
    {message : Outgoing} {id : Option Text} (answers : message.answers = some id) :
    ∃ more, connection.Extends (recorded.answer message) more ∧ Answering more := by
  obtain ⟨more, written, own⟩ := recorded.write_extends message
  refine ⟨more, ⟨written.lines.trans lines, ?_, ?_, written.wrote⟩, fun other member => ?_⟩
  · exact written.sent.trans (congrArg (· ++ more) sent)
  · exact fun stays => isOpen ▸ written.stays stays
  · rw [List.mem_singleton.mp (own member), answers]
    exact Option.some_ne_none id

theorem finish_extends (connection : Connection) (result : Except Text PyValue) :
    ∃ more, connection.Extends (connection.finish result) more ∧ Answering more := by
  unfold finish
  split
  · exact answer_extends rfl rfl rfl (Outgoing.answers_ofResult _ result)
  · exact ⟨[], .refl connection, answering_nil⟩

theorem drain_extends (connection : Connection) : connection.Extends connection.drain [] := by
  unfold drain
  split
  · exact .of_eq rfl rfl id
  · exact .refl connection

theorem release_extends (connection : Connection) : connection.Extends connection.release [] := by
  unfold release
  split
  · exact .of_eq rfl rfl id
  · exact .refl connection

theorem sent_receive (connection : Connection) (line : Octets) :
    (connection.receive line).sent = connection.sent := by
  unfold receive
  split <;> rfl

theorem close_extends (connection : Connection) :
    connection.Extends { connection with isOpen := false } [] :=
  .of_eq rfl rfl nofun

end Connection

/-! ## A line -/

section

variable {runtime : SocketRuntime} {connection : Connection} {line : Octets}

theorem dispatch_extends (number : ℕ) (request : Request) (server : SocketServer) :
    ∃ (next : SocketServer) (after : Connection) (more : List Outgoing),
      dispatch runtime number connection request server = next.put number after ∧
        next.connections = server.connections ∧ connection.Extends after more ∧
        Answering more := by
  unfold dispatch
  split
  · obtain ⟨more, written⟩ := @Connection.answer_extends connection (connection.record request none)
      rfl rfl rfl (.error (some request.id) .methodNotFound
        ("Method not found: ".toList ++ request.method)) _ rfl
    exact ⟨server, _, more, rfl, rfl, written⟩
  · obtain ⟨more, written⟩ := @Connection.answer_extends connection (connection.record request
      (some (handleHello runtime connection.clientId request.params server).1)) rfl rfl rfl _ _
        (Outgoing.answers_ofResult request.id _)
    exact ⟨_, _, more, rfl, (handleHello_frame _ _ server).1, written⟩
  · obtain ⟨more, written⟩ := @Connection.answer_extends connection (connection.record request
      (some (handlePing request.params))) rfl rfl rfl _ _ (Outgoing.answers_ofResult request.id _)
    exact ⟨_, _, more, rfl, rfl, written⟩
  · obtain ⟨more, written⟩ := @Connection.answer_extends connection (connection.record request
      (some (handleSubscribe runtime connection.clientId request.params server).1)) rfl rfl rfl _ _
        (Outgoing.answers_ofResult request.id _)
    exact ⟨_, _, more, rfl, (handleSubscribe_frame _ _ server).1, written⟩
  · exact ⟨server, _, [], rfl, rfl, .of_eq rfl rfl id, answering_nil⟩

theorem handleLine_extends (number : ℕ) (server : SocketServer) :
    ∃ (next : SocketServer) (after : Connection) (more : List Outgoing),
      handleLine runtime number connection line server = next.put number after ∧
        next.connections = server.connections ∧ connection.Extends after more ∧
        Answering more := by
  unfold handleLine
  rcases Request.fromLine runtime line with raised | request
  · obtain ⟨more, written⟩ := @Connection.answer_extends connection connection rfl rfl rfl
      (.error none .parseError "Parse error".toList) _ rfl
    exact ⟨server, _, more, rfl, rfl, written⟩
  · dsimp only
    split
    · obtain ⟨more, written⟩ := @Connection.answer_extends connection connection rfl rfl rfl
        (.error (some request.id) .invalidRequest "Must send hello first".toList) _ rfl
      exact ⟨server, _, more, rfl, rfl, written⟩
    · exact dispatch_extends number request server

end

/-! ## One event -/

namespace SocketServer

variable {runtime : SocketRuntime} {server : SocketServer} {number : ℕ} {connection : Connection}

/-- The connection goes on in the server, with answers written on it, and with an event only
if one is pushed. -/
def GoesOn (server : SocketServer) (number : ℕ) (connection : Connection) (pushed : Prop) : Prop :=
  ∃ after more, server.connections.get? number = some after ∧ connection.Extends after more ∧
    (¬ pushed → Answering more)

theorem goesOn_of_get? {pushed : Prop} (found : server.connections.get? number = some connection) :
    server.GoesOn number connection pushed :=
  ⟨connection, [], found, .refl connection, fun _ => answering_nil⟩

theorem get?_adjust (found : server.connections.get? number = some connection) (other : ℕ)
    (change : Connection → Connection) :
    (server.adjust other change).connections.get? number =
      some (if other = number then change connection else connection) := by
  by_cases own : other = number
  · subst own
    rw [if_pos rfl]
    exact adjust_get? found change
  · rw [if_neg own]
    unfold adjust
    split
    · exact found
    · exact (get?_put_of_ne (Ne.symm own)).trans found

theorem goesOn_adjust {pushed : Prop} (found : server.connections.get? number = some connection)
    (other : ℕ) {change : Connection → Connection}
    (changed : other = number → ∃ more, connection.Extends (change connection) more ∧
      (¬ pushed → Answering more)) :
    (server.adjust other change).GoesOn number connection pushed := by
  have adjusted := get?_adjust found other change
  by_cases own : other = number
  · obtain ⟨more, grows, answering⟩ := changed own
    rw [if_pos own] at adjusted
    exact ⟨_, more, adjusted, grows, answering⟩
  · rw [if_neg own] at adjusted
    exact goesOn_of_get? adjusted

theorem goesOn_handle {pushed : Prop} (found : server.connections.get? number = some connection)
    (other : ℕ) : (server.handle runtime other).GoesOn number connection pushed := by
  unfold handle
  rcases reader : server.connections.get? other with _ | reading
  · exact goesOn_of_get? found
  dsimp only
  split
  · next line rest waits unread =>
      obtain ⟨next, after, more, handled, connections, grows, answering⟩ :=
        @handleLine_extends runtime { reading with inbox := rest } line other server
      rw [handled]
      by_cases own : other = number
      · subst own
        obtain rfl := Option.some.inj (reader.symm.trans found)
        refine ⟨after, more, get?_put_self, ?_, fun _ => answering⟩
        exact ⟨grows.lines, grows.sent, grows.stays, grows.wrote⟩
      · refine goesOn_of_get? ((get?_put_of_ne (Ne.symm own)).trans ?_)
        rw [connections]
        exact found
  · exact goesOn_of_get? found

theorem goesOn_leave {pushed : Prop} (found : server.connections.get? number = some connection)
    (other : ℕ) : (server.leave other).GoesOn number connection pushed := by
  unfold leave
  rcases leaver : server.connections.get? other with _ | leaving
  · exact goesOn_of_get? found
  dsimp only
  split
  · by_cases own : other = number
    · subst own
      obtain rfl := Option.some.inj (leaver.symm.trans found)
      exact ⟨_, [], get?_put_self, .of_eq rfl rfl nofun, fun _ => answering_nil⟩
    · exact goesOn_of_get? ((get?_put_of_ne (Ne.symm own)).trans found)
  · exact goesOn_of_get? found

theorem goesOn_visit (found : server.connections.get? number = some connection)
    (call clientId : ℕ) : (server.visit call clientId).GoesOn number connection
      (server.Pushes number (.visit call clientId)) := by
  unfold visit
  rcases asked : server.broadcasts.get? call with _ | broadcast
  · exact goesOn_of_get? found
  dsimp only
  split
  · next subscribed target awaits listens served =>
      split
      · next member =>
          refine @goesOn_adjust server number connection _ found target
            (·.write (.event ("event.".toList ++ broadcast.eventType) broadcast.params)) ?_
          rintro rfl
          obtain ⟨more, grows, _⟩ := connection.write_extends
            (.event ("event.".toList ++ broadcast.eventType) broadcast.params)
          refine ⟨more, grows, fun silent => absurd ?_ silent⟩
          refine ⟨broadcast, asked, awaits, ?_⟩
          unfold recipient
          rw [if_pos ⟨subscribed, listens, member⟩]
          exact served
      · exact goesOn_of_get? found
  · exact goesOn_of_get? found

theorem removeClients_connections (dead : List ℕ) (server : SocketServer) :
    (dead.foldl removeClient server).connections = server.connections := by
  induction dead generalizing server with
  | nil => rfl
  | cons clientId dead ih => exact ih (server.removeClient clientId)

theorem goesOn_stop {pushed : Prop} (found : server.connections.get? number = some connection) :
    server.stop.GoesOn number connection pushed := by
  have closed (numbers : List ℕ) : ∀ {server : SocketServer} {connection : Connection},
      server.connections.get? number = some connection →
      ∃ after, (numbers.foldl (fun server number =>
          server.adjust number ({ · with isOpen := false })) server).connections.get? number =
            some after ∧ connection.Extends after [] := by
    induction numbers with
    | nil => exact fun {_ connection} found => ⟨connection, found, .refl connection⟩
    | cons other numbers ih =>
        intro server connection found
        obtain ⟨after, reached, grows⟩ := ih (get?_adjust found other _)
        refine ⟨after, reached, ?_⟩
        by_cases own : other = number
        · rw [if_pos own] at grows
          exact .of_eq grows.lines (grows.sent.trans (List.append_nil _))
            fun isOpen => nomatch grows.stays isOpen
        · rwa [if_neg own] at grows
  obtain ⟨after, reached, grows⟩ := closed server.clients.values found
  exact ⟨after, [], reached, grows, fun _ => answering_nil⟩

/-- **One event of the server.** A connection goes on, and but for an event that is pushed only
answers are written on it. -/
theorem goesOn_serverStep (runtime : SocketRuntime)
    (found : server.connections.get? number = some connection) {event : ServerEvent}
    (foreign : event.isForeign number = true) :
    (serverStep runtime server event).GoesOn number connection (server.Pushes number event) := by
  cases event with
  | connect other clientId =>
      change (server.connect other clientId).GoesOn number connection _
      unfold connect
      rcases absent : server.connections.get? other with _ | _
      · dsimp only
        split
        · have apart : number ≠ other := by
            rintro rfl
            cases absent.symm.trans found
          exact goesOn_of_get? ((Dict.get?_set_of_ne _ _ apart).trans found)
        · exact goesOn_of_get? found
      · exact goesOn_of_get? found
  | receive other line =>
      exact goesOn_adjust found other fun own =>
        absurd own (by simpa [ServerEvent.isForeign] using foreign)
  | handle other => exact goesOn_handle found other
  | finish other result =>
      refine goesOn_adjust found other fun _ => ?_
      obtain ⟨more, grows, answering⟩ := connection.finish_extends result
      exact ⟨more, grows, fun _ => answering⟩
  | drain other =>
      exact goesOn_adjust found other fun _ =>
        ⟨[], connection.drain_extends, fun _ => answering_nil⟩
  | lose other =>
      exact goesOn_adjust found other fun _ =>
        ⟨[], connection.close_extends, fun _ => answering_nil⟩
  | leave other => exact goesOn_leave found other
  | release other =>
      exact goesOn_adjust found other fun _ =>
        ⟨[], connection.release_extends, fun _ => answering_nil⟩
  | register name => exact goesOn_of_get? found
  | broadcast call eventType params =>
      unfold serverStep
      dsimp only
      split
      · exact goesOn_of_get? found
      · exact goesOn_of_get? found
  | visit call clientId => exact goesOn_visit found call clientId
  | resume call raised =>
      change (server.resume call raised).GoesOn number connection _
      unfold resume
      split
      · exact goesOn_of_get? found
      · split
        · exact goesOn_of_get? found
        · split
          · exact goesOn_of_get? found
          · exact goesOn_of_get? found
  | conclude call =>
      change (server.conclude call).GoesOn number connection _
      unfold conclude
      split
      · exact goesOn_of_get? found
      · split
        · exact goesOn_of_get? found
        · refine goesOn_of_get? ?_
          rw [removeClients_connections]
          exact found
  | abandon call => exact goesOn_of_get? found
  | stop => exact goesOn_stop found

end SocketServer

end Vcompany.Daemon
