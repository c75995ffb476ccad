import Vcompany.Foundation.Transition
import Vcompany.Transport.Messages
import Mathlib.Logic.Function.Basic

/-! # The worker's socket to the head

A worker in socket mode serves any number of head connections, one handler each,
and writes all its messages through one proxy, `SocketWriter`. A handler points
the proxy at its own connection when it starts, and clears it when it ends. What a
handler reads in between touches the proxy only through the messages that the
worker emits, and by ending the handler.

`written_to_newest` shows that the worker's messages reach the newest open
connection in the runs where a connection ends only when no other is open.
-/

namespace Vcompany.Worker

open Foundation Transport

/-- The state of an accepted connection: open; closed by the head, with its
transport still up; lost, its transport closing; or left by its handler. -/
inductive ConnState where
  | opened
  | closedByHead
  | lost
  | finished
  deriving DecidableEq, Repr

/-- `writer.is_closing()`. -/
def ConnState.isClosing : ConnState → Bool
  | lost => true
  | finished => true
  | _ => false

/-- The socket's connections, in the order of their acceptance with the latest
first, the proxy's writer, and what was written to which connection. -/
structure HeadSocket where
  accepted : List ℕ
  conns : ℕ → Option ConnState
  writer : Option ℕ
  written : List (ℕ × WorkerMessage)

namespace HeadSocket

/-- The socket before the first connection. -/
def init : HeadSocket where
  accepted := []
  conns _ := none
  writer := none
  written := []

/-- `SocketWriter.write`. -/
def write (socket : HeadSocket) (message : WorkerMessage) : HeadSocket :=
  match socket.writer with
  | none => socket
  | some writer =>
      match socket.conns writer with
      | none => socket
      | some state =>
          if state.isClosing then socket
          else { socket with written := (writer, message) :: socket.written }

def setConn (socket : HeadSocket) (conn : ℕ) (state : ConnState) : HeadSocket :=
  { socket with conns := Function.update socket.conns conn (some state) }

/-- The connection is open. -/
def IsOpen (socket : HeadSocket) (conn : ℕ) : Prop := socket.conns conn = some .opened

instance (socket : HeadSocket) (conn : ℕ) : Decidable (socket.IsOpen conn) :=
  inferInstanceAs (Decidable (_ = _))

/-- The most recently accepted connection that is still open. -/
def newestOpen (socket : HeadSocket) : Option ℕ :=
  socket.accepted.find? fun conn => decide (socket.IsOpen conn)

end HeadSocket

/-- What happens on the socket. -/
inductive SocketEvent where
  /-- A head connects, and the handler of its connection starts. -/
  | accept (conn : ℕ)
  /-- The worker emits a message. -/
  | emit (message : WorkerMessage)
  /-- The head closes its connection. -/
  | headCloses (conn : ℕ)
  /-- The connection is lost. -/
  | lose (conn : ℕ)
  /-- The handler ends: at the end of its input, on an exception or after a stop. -/
  | finish (conn : ℕ)

/-- `handle_connection` and `SocketWriter`, between two awaits. -/
def socketStep (socket : HeadSocket) : SocketEvent → Option HeadSocket
  | .accept conn =>
      match socket.conns conn with
      | some _ => none
      | none =>
          some { socket.setConn conn .opened with
            accepted := conn :: socket.accepted, writer := some conn }
  | .emit message => some (socket.write message)
  | .headCloses conn =>
      match socket.conns conn with
      | some .opened => some (socket.setConn conn .closedByHead)
      | _ => none
  | .lose conn =>
      match socket.conns conn with
      | some .opened => some (socket.setConn conn .lost)
      | some .closedByHead => some (socket.setConn conn .lost)
      | _ => none
  | .finish conn =>
      match socket.conns conn with
      | none => none
      | some .finished => none
      | some _ => some { socket.setConn conn .finished with writer := none }

/-- A step of the socket. -/
def HeadSocket.Step (socket : HeadSocket) (event : SocketEvent) (next : HeadSocket) : Prop :=
  socketStep socket event = some next

/-- No connection other than the given one is open. -/
def LastOpen (socket : HeadSocket) (conn : ℕ) : Prop :=
  ∀ other, socket.IsOpen other → other = conn

/-- The newest open connection goes, and the handler of any connection ends, only
when no other connection is open. -/
def Exclusive (socket : HeadSocket) : SocketEvent → Prop
  | .headCloses conn => socket.newestOpen = some conn → LastOpen socket conn
  | .lose conn => socket.newestOpen = some conn → LastOpen socket conn
  | .finish conn => LastOpen socket conn
  | _ => True

/-! ## Where the proxy points -/

/-- The proxy points at the newest open connection, if there is one. -/
def Pointed (socket : HeadSocket) : Prop :=
  ∀ conn, socket.newestOpen = some conn → socket.writer = some conn

variable {socket next : HeadSocket}

/-- A message is written to the open connection that the proxy points at. -/
theorem write_written {conn : ℕ} (pointed : socket.writer = some conn)
    (isOpen : socket.IsOpen conn) (message : WorkerMessage) :
    (socket.write message).written = (conn, message) :: socket.written := by
  unfold HeadSocket.write
  rw [pointed]
  dsimp only
  rw [isOpen]
  rfl

private theorem write_eq (socket : HeadSocket) (message : WorkerMessage) :
    ∃ written, socket.write message = { socket with written := written } := by
  unfold HeadSocket.write
  split
  · exact ⟨_, rfl⟩
  · split
    · exact ⟨_, rfl⟩
    · split <;> exact ⟨_, rfl⟩

private theorem newestOpen_isOpen {conn : ℕ} (newest : socket.newestOpen = some conn) :
    socket.IsOpen conn := by
  simpa using List.find?_some newest

/-- A search that skips an element it did not stop at stops where it did. -/
private theorem find?_of_skipped {before after : ℕ → Bool} {skipped found : ℕ}
    (off : after skipped = false) (agree : ∀ other, other ≠ skipped → after other = before other)
    {conns : List ℕ} (stops : conns.find? after = some found)
    (elsewhere : conns.find? before ≠ some skipped) : conns.find? before = some found := by
  induction conns with
  | nil => cases stops
  | cons first rest ih =>
      rw [List.find?_cons] at stops elsewhere ⊢
      by_cases own : first = skipped
      · subst own
        simp only [off] at stops
        cases wasOn : before first with
        | true => simp [wasOn] at elsewhere
        | false =>
            simp only [wasOn] at elsewhere ⊢
            exact ih stops elsewhere
      · rw [agree first own] at stops
        cases wasOn : before first with
        | true => simpa only [wasOn] using stops
        | false =>
            simp only [wasOn] at stops elsewhere ⊢
            exact ih stops elsewhere

/-- When a connection that is not the newest open one goes, the newest stays. -/
private theorem newestOpen_of_setConn {conn other : ℕ} {state : ConnState}
    (gone : state ≠ .opened) (newest : (socket.setConn conn state).newestOpen = some other)
    (older : socket.newestOpen ≠ some conn) : socket.newestOpen = some other := by
  refine find?_of_skipped ?_ (fun third different => decide_eq_decide.mpr ?_) newest older
  · simp [HeadSocket.IsOpen, HeadSocket.setConn, gone]
  · simp [HeadSocket.IsOpen, HeadSocket.setConn, Function.update_of_ne different]

private theorem newestOpen_eq_none {conn : ℕ} {state : ConnState} (gone : state ≠ .opened)
    (last : LastOpen socket conn) : (socket.setConn conn state).newestOpen = none := by
  refine List.find?_eq_none.mpr fun other _ isOpen => ?_
  have opened : (socket.setConn conn state).IsOpen other := of_decide_eq_true isOpen
  by_cases own : other = conn
  · subst own
    simp [HeadSocket.IsOpen, HeadSocket.setConn, gone] at opened
  · refine own (last other ?_)
    simpa [HeadSocket.IsOpen, HeadSocket.setConn, Function.update_of_ne own] using opened

private theorem pointed_setConn {conn : ℕ} {state : ConnState} (pointed : Pointed socket)
    (gone : state ≠ .opened)
    (exclusive : socket.newestOpen = some conn → LastOpen socket conn) :
    Pointed (socket.setConn conn state) := by
  intro other newest
  by_cases own : socket.newestOpen = some conn
  · rw [newestOpen_eq_none gone (exclusive own)] at newest
    cases newest
  · exact pointed other (newestOpen_of_setConn gone newest own)

/-- An exclusive step keeps the proxy at the newest open connection. -/
theorem pointed_step {event : SocketEvent} (pointed : Pointed socket)
    (exclusive : Exclusive socket event) (moved : socket.Step event next) : Pointed next := by
  unfold HeadSocket.Step socketStep at moved
  cases event with
  | accept conn =>
      dsimp only at moved
      split at moved
      · cases moved
      · cases Option.some.inj moved
        intro other newest
        have own : HeadSocket.newestOpen { socket.setConn conn .opened with
            accepted := conn :: socket.accepted, writer := some conn } = some conn := by
          unfold HeadSocket.newestOpen
          rw [List.find?_cons_of_pos]
          simp [HeadSocket.IsOpen, HeadSocket.setConn]
        rw [own] at newest
        exact newest
  | emit message =>
      cases Option.some.inj moved
      obtain ⟨written, wrote⟩ := write_eq socket message
      rw [wrote]
      exact pointed
  | headCloses conn =>
      dsimp only at moved
      split at moved
      · cases Option.some.inj moved
        exact pointed_setConn pointed nofun exclusive
      · cases moved
  | lose conn =>
      dsimp only at moved
      split at moved
      · cases Option.some.inj moved
        exact pointed_setConn pointed nofun exclusive
      · cases Option.some.inj moved
        exact pointed_setConn pointed nofun exclusive
      · cases moved
  | finish conn =>
      dsimp only at moved
      split at moved
      · cases moved
      · cases moved
      · cases Option.some.inj moved
        intro other newest
        have none := @newestOpen_eq_none _ _ .finished nofun exclusive
        cases none.symm.trans newest

/-- **Whom the worker talks to.** In a run whose steps are all exclusive, a message
that the worker emits is written to the most recently accepted connection that is
still open, if there is one. -/
theorem written_to_newest {events : List SocketEvent}
    (run : Run (Guarded HeadSocket.Step Exclusive) HeadSocket.init events socket) {conn : ℕ}
    (newest : socket.newestOpen = some conn) (message : WorkerMessage) :
    (socket.write message).written = (conn, message) :: socket.written := by
  have pointed : Pointed socket := by
    apply run.invariant Pointed
    · rintro socket event next pointed ⟨exclusive, moved⟩
      exact pointed_step pointed exclusive moved
    · exact nofun
  exact write_written (pointed conn newest) (newestOpen_isOpen newest) message

def readySignal : WorkerMessage := .signal { signal := "ready" }

private theorem only_conn {accepted : List ℕ} {state : ConnState} {writer : Option ℕ}
    {written : List (ℕ × WorkerMessage)} {conns : ℕ → Option ConnState} {conn : ℕ}
    (alone : ∀ other, other ≠ conn → conns other = none) :
    LastOpen ⟨accepted, Function.update conns conn (some state), writer, written⟩ conn := by
  intro other isOpen
  by_contra different
  simp [HeadSocket.IsOpen, Function.update_of_ne different, alone other different] at isOpen

/-- A head that reconnects after its first connection ended. -/
theorem reconnected_head_served :
    ∃ socket, (HeadSocket.write socket readySignal).written = [(1, readySignal)] := by
  have reconnected : Run (Guarded HeadSocket.Step Exclusive) HeadSocket.init
      [.accept 0, .headCloses 0, .finish 0, .accept 1] _ :=
    .cons ⟨trivial, rfl⟩ <| .cons ⟨fun _ => only_conn fun _ _ => rfl, rfl⟩ <|
      .cons ⟨only_conn fun _ different => Function.update_of_ne different _ _, rfl⟩ <|
        .cons ⟨trivial, rfl⟩ (.nil _)
  exact ⟨_, written_to_newest reconnected rfl readySignal⟩

/-- The first of two connections ends, and with it the second is cut off. -/
theorem old_connection_cuts_off_new :
    ∃ events socket, Run HeadSocket.Step HeadSocket.init events socket ∧
      HeadSocket.newestOpen socket = some 1 ∧
      (HeadSocket.write socket readySignal).written = [] :=
  ⟨[.accept 0, .accept 1, .headCloses 0, .finish 0], _,
    .cons rfl <| .cons rfl <| .cons rfl <| .cons rfl (.nil _), rfl, rfl⟩

end Vcompany.Worker
