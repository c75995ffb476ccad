import Vcompany.Daemon.SocketInvariant

/-! # Answers and the handshake

`protocol_enforced` states for every run of the server that an open connection is sent one
answer for each line, in order, and that a method other than `hello` is dispatched after a
handshake on the same connection only. The answers still to come are sent by the steps of the
connection's own handler.
-/

namespace Vcompany.Daemon

open Foundation Transport

namespace SocketServer

variable {runtime : SocketRuntime} {server : SocketServer}

/-! ## The handler by itself -/

/-- A step of the connection's handler, where a registered method gives the result. -/
def IsOwnStep (number : ℕ) (gives : Text → Except Text PyValue) (event : ServerEvent) : Prop :=
  event = .handle number ∨ event = .drain number ∨ ∃ id, event = .finish number (gives id)

theorem adjust_get? {number : ℕ} {connection : Connection}
    (found : server.connections.get? number = some connection)
    (change : Connection → Connection) :
    (server.adjust number change).connections.get? number = some (change connection) := by
  unfold adjust
  rw [found]
  exact get?_put_self

/-- The handler comes to read the next line. -/
theorem comes_to_read {number : ℕ} {connection : Connection}
    (found : server.connections.get? number = some connection)
    (serving : connection.phase.isServing = true) (gives : Text → Except Text PyValue) :
    ∃ events : List ServerEvent, (∀ event ∈ events, IsOwnStep number gives event) ∧
      ∃ after, (events.foldl (serverStep runtime) server).connections.get? number = some after ∧
        after.phase = .reading ∧ after.isOpen = connection.isOpen ∧
          after.lines = connection.lines ∧ after.inbox = connection.inbox := by
  rcases phase : connection.phase with _ | id | _ | _ | _
  · exact ⟨[], nofun, connection, found, phase, rfl, rfl, rfl⟩
  · have finished := adjust_get? found (·.finish (gives id))
    refine ⟨[.finish number (gives id), .drain number], ?_, _,
      adjust_get? finished (·.drain), ?_⟩
    · intro event member
      rcases List.mem_pair.mp member with rfl | rfl
      · exact .inr (.inr ⟨id, rfl⟩)
      · exact .inr (.inl rfl)
    · dsimp only [Connection.finish]
      rw [phase]
      refine ⟨rfl, ?_, ?_, ?_⟩
      · exact Connection.answer_isOpen _ _
      · exact Connection.answer_lines _ _
      · exact Connection.answer_inbox _ _
  · refine ⟨[.drain number], ?_, _, adjust_get? found (·.drain), ?_⟩
    · intro event member
      exact .inr (.inl (List.mem_singleton.mp member))
    · dsimp only [Connection.drain]
      rw [phase]
      exact ⟨rfl, rfl, rfl, rfl⟩
  · rw [phase] at serving
    cases serving
  · rw [phase] at serving
    cases serving

/-- The handler reads what it has received. -/
theorem comes_to_wait {number : ℕ} (gives : Text → Except Text PyValue) :
    ∀ (inbox : List Octets) {server : SocketServer} {connection : Connection},
      server.Sound runtime → server.connections.get? number = some connection →
      connection.phase.isServing = true → connection.inbox = inbox →
      ∃ events : List ServerEvent, (∀ event ∈ events, IsOwnStep number gives event) ∧
        ∃ after, (events.foldl (serverStep runtime) server).connections.get? number =
            some after ∧
          after.phase = .reading ∧ after.isOpen = connection.isOpen ∧
            after.lines = connection.lines ∧ after.inbox = []
  | [], server, connection, _, found, serving, read => by
      obtain ⟨events, own, after, found', reading, isOpen, lines, inbox⟩ :=
        @comes_to_read runtime server number connection found serving gives
      exact ⟨events, own, after, found', reading, isOpen, lines, inbox.trans read⟩
  | line :: rest, server, connection, sound, found, serving, unread => by
      obtain ⟨events, own, middle, reaches, reading, isOpen, lines, inbox⟩ :=
        @comes_to_read runtime server number connection found serving gives
      have sound' := sound.run events
      obtain ⟨next, taken, handled, takes⟩ :=
        handle_takes sound' reaches reading (inbox.trans unread)
      have took : ((events.foldl (serverStep runtime) server).handle
          runtime number).connections.get? number = some taken := by
        rw [handled]
        exact get?_put_self
      obtain ⟨later, own', after, waits, reading', isOpen', lines', done⟩ :=
        comes_to_wait gives rest (sound'.handle number) took takes.serving takes.inbox
      refine ⟨events ++ .handle number :: later, ?_, after, ?_, reading',
        isOpen'.trans (takes.isOpen.trans isOpen), lines'.trans (takes.lines.trans lines), done⟩
      · intro event member
        rcases List.mem_append.mp member with earlier | last
        · exact own event earlier
        · rcases List.mem_cons.mp last with rfl | last
          · exact .inl rfl
          · exact own' event last
      · rw [List.foldl_append]
        exact waits

end SocketServer

/-! ## The protocol -/

/-- What the socket promises to every client.

* `answered`: on an open connection, the answers sent and those still to come are the answers
  to the lines received, one for each and in order.
* `settles`: those still to come are sent by the handler's own steps, whatever the registered
  methods give.
* `helloFirst`: a method other than `hello` is dispatched after a handshake on the same
  connection only. -/
structure SocketServer.Enforces (runtime : SocketRuntime) (server : SocketServer) : Prop where
  answered : ∀ number connection, server.connections.get? number = some connection →
    connection.isOpen = true →
      connection.answers ++ connection.pending ++ connection.inbox.map (answerId runtime) =
        connection.lines.map (answerId runtime)
  settles : ∀ number connection, server.connections.get? number = some connection →
    connection.isOpen = true → ∀ gives : Text → Except Text PyValue,
      ∃ events : List ServerEvent, (∀ event ∈ events, SocketServer.IsOwnStep number gives event) ∧
        ∃ after, (events.foldl (serverStep runtime) server).connections.get? number =
            some after ∧
          after.isOpen = true ∧ after.answers = connection.lines.map (answerId runtime)
  helloFirst : ∀ number connection, server.connections.get? number = some connection →
    HelloFirst runtime connection.calls

/-- **The socket keeps its protocol.** Whatever methods are registered, and in whatever order
clients connect, send lines and leave, methods return and broadcasts run, every open
connection gets one answer for each line, in order and with the line's id, and no method but
`hello` is dispatched on a connection that has not shaken hands. -/
theorem protocol_enforced (runtime : SocketRuntime) (registered : List Text)
    (events : List ServerEvent) : (serve runtime registered events).Enforces runtime := by
  have sound : (serve runtime registered events).Sound runtime :=
    (SocketServer.sound_start registered).run events
  refine ⟨?_, ?_, fun number connection found => (sound.each number connection found).helloFirst⟩
  · exact fun number connection found => (sound.each number connection found).answered
  · intro number connection found isOpen gives
    have serving := (sound.each number connection found).serving isOpen
    obtain ⟨later, own, after, found', reading, isOpen', lines, inbox⟩ :=
      SocketServer.comes_to_wait gives connection.inbox sound found serving rfl
    refine ⟨later, own, after, found', isOpen'.trans isOpen, ?_⟩
    have answered := ((sound.run later).each number after found').answered (isOpen'.trans isOpen)
    unfold Connection.pending at answered
    rw [reading, inbox, lines] at answered
    simpa using answered

end Vcompany.Daemon
