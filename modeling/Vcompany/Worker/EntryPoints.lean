import Vcompany.Foundation.ReadLoop
import Vcompany.Transport.Framing
import Vcompany.Worker.Main

/-! # The two entry points of a worker

A worker reads the head's messages from a stream, with `run_worker`, or from the connections of
its socket, with `handle_connection`. Each has its own dispatch of the messages, for any kind of
container. `entry_points_alike` shows that the two take the same turns.
-/

namespace Vcompany.Worker

open Foundation Transport

variable {κ τ : Type}

/-- What an operation on the container emits through the writer that the container was given,
the container after it, and the exception that it raises, if it does. -/
structure Effect (κ : Type) where
  emitted : List WorkerMessage
  container : κ
  raised : Option PyExc

/-- The operations of a container. Each depends on what it finds in its moment. -/
structure ContainerOps (κ τ : Type) where
  bootstrap : τ → StartMessage → List WorkerMessage × Except PyExc κ
  giveTask : τ → κ → Text → Effect κ
  handleInbound : τ → κ → InboundMessage → Effect κ
  healthReport : τ → κ → HealthReportMessage
  stop : τ → κ → Effect κ

/-- How a loop ends before its input does. -/
inductive LoopEnd where
  | left
  | raised (raised : PyExc)
  deriving DecidableEq, Repr

/-! ## The stream -/

/-- The variables of `run_worker`: the container, and what was written to the stream. -/
structure StreamLoop (κ : Type) where
  container : Option κ
  written : List WorkerMessage

namespace StreamLoop

def write (loop : StreamLoop κ) (messages : List WorkerMessage) : StreamLoop κ :=
  { loop with written := loop.written ++ messages }

/-- An operation on the container writes what it emits. -/
def perform (loop : StreamLoop κ) (effect : Effect κ) : Option LoopEnd × StreamLoop κ :=
  let next := { loop with container := some effect.container }.write effect.emitted
  match effect.raised with
  | none => (none, next)
  | some raised => (some (.raised raised), next)

end StreamLoop

variable (ops : ContainerOps κ τ) (now : τ)

/-- The dispatch of `run_worker`. -/
def runWorkerMessage (loop : StreamLoop κ) : HeadMessage → Option LoopEnd × StreamLoop κ
  | .start message =>
      match loop.container with
      | some _ => (none, loop)
      | none =>
          match ops.bootstrap now message with
          | (emitted, .ok container) =>
              (none, ({ loop with container := some container }.write emitted).write
                [.signal { signal := "ready" }])
          | (emitted, .error raised) => (some (.raised raised), loop.write emitted)
  | .reconnect _ =>
      match loop.container with
      | some container => (none, loop.write [.healthReport (ops.healthReport now container)])
      | none => (none, loop.write [.healthReport { status := "unknown" }])
  | .giveTask message =>
      match loop.container with
      | none => (none, loop)
      | some container => loop.perform (ops.giveTask now container message.description)
  | .message message =>
      match loop.container with
      | none => (none, loop)
      | some container => loop.perform (ops.handleInbound now container message)
  | .healthCheck =>
      match loop.container with
      | none => (none, loop)
      | some container => (none, loop.write [.healthReport (ops.healthReport now container)])
  | .stop _ =>
      match loop.container with
      | some container =>
          match loop.perform (ops.stop now container) with
          | (none, next) => (some .left, next.write [.signal { signal := "stopped" }])
          | (some raised, next) => (some raised, next)
      | none => (some .left, loop)

/-- The body of the loop in `run_worker`, for a line and the moment of its handling. Blank and
undecodable lines are skipped. -/
def runWorkerLine (codec : Codec HeadMessage) (loop : StreamLoop κ) (line : τ × Octets) :
    Option LoopEnd × StreamLoop κ :=
  match decodeLine codec line.2 with
  | none => (none, loop)
  | some message => runWorkerMessage ops line.1 loop message

/-! ## The socket -/

/-- A connection of the head. -/
structure HeadConnection where
  closing : Bool
  written : List WorkerMessage

/-- `SocketWriter`, with the connection of the head. It writes to the connection that is set,
unless it is closing. -/
structure SocketWriter where
  connected : Bool
  connection : HeadConnection

def SocketWriter.write (writer : SocketWriter) (messages : List WorkerMessage) : SocketWriter :=
  if writer.connected && !writer.connection.closing then
    { writer with connection := { writer.connection with
      written := writer.connection.written ++ messages } }
  else writer

/-- What `handle_connection` works on: the container holder, the writer proxy, and the event that
ends the worker. -/
structure SocketLoop (κ : Type) where
  containerHolder : Option κ
  writerProxy : SocketWriter
  connectionEvent : Bool

namespace SocketLoop

def write (loop : SocketLoop κ) (messages : List WorkerMessage) : SocketLoop κ :=
  { loop with writerProxy := loop.writerProxy.write messages }

def perform (loop : SocketLoop κ) (effect : Effect κ) : Option LoopEnd × SocketLoop κ :=
  let next := { loop with containerHolder := some effect.container }.write effect.emitted
  match effect.raised with
  | none => (none, next)
  | some raised => (some (.raised raised), next)

end SocketLoop

/-- The dispatch of `handle_connection`. -/
def handleConnectionMessage (loop : SocketLoop κ) : HeadMessage → Option LoopEnd × SocketLoop κ
  | .start message =>
      match loop.containerHolder with
      | some _ => (none, loop)
      | none =>
          match ops.bootstrap now message with
          | (emitted, .ok container) =>
              (none, ({ loop with containerHolder := some container }.write emitted).write
                [.signal { signal := "ready" }])
          | (emitted, .error raised) => (some (.raised raised), loop.write emitted)
  | .reconnect _ =>
      match loop.containerHolder with
      | some container => (none, loop.write [.healthReport (ops.healthReport now container)])
      | none => (none, loop.write [.healthReport { status := "unknown" }])
  | .giveTask message =>
      match loop.containerHolder with
      | some container => loop.perform (ops.giveTask now container message.description)
      | none => (none, loop)
  | .message message =>
      match loop.containerHolder with
      | some container => loop.perform (ops.handleInbound now container message)
      | none => (none, loop)
  | .healthCheck =>
      match loop.containerHolder with
      | some container => (none, loop.write [.healthReport (ops.healthReport now container)])
      | none => (none, loop)
  | .stop _ =>
      match loop.containerHolder with
      | some container =>
          match loop.perform (ops.stop now container) with
          | (none, next) => (some .left,
              { next.write [.signal { signal := "stopped" }] with connectionEvent := true })
          | (some raised, next) => (some raised, next)
      | none => (some .left, { loop with connectionEvent := true })

/-- The body of the loop in `handle_connection`. -/
def handleConnectionLine (codec : Codec HeadMessage) (loop : SocketLoop κ) (line : τ × Octets) :
    Option LoopEnd × SocketLoop κ :=
  match decodeLine codec line.2 with
  | none => (none, loop)
  | some message => handleConnectionMessage ops line.1 loop message

/-! ## The two loops -/

/-- A worker that was just started. -/
def StreamLoop.start : StreamLoop κ := ⟨none, []⟩

/-- A worker at its first connection. -/
def SocketLoop.start : SocketLoop κ := ⟨none, ⟨true, ⟨false, []⟩⟩, false⟩

/-- The same container, and the same messages to a head that is connected. -/
structure Alike (stream : StreamLoop κ) (socket : SocketLoop κ) : Prop where
  container : stream.container = socket.containerHolder
  written : stream.written = socket.writerProxy.connection.written
  connected : socket.writerProxy.connected = true
  opened : socket.writerProxy.connection.closing = false

variable {ops} {now} {stream : StreamLoop κ} {socket : SocketLoop κ}

theorem Alike.write (alike : Alike stream socket) (messages : List WorkerMessage) :
    Alike (stream.write messages) (socket.write messages) := by
  have goes : (socket.writerProxy.connected && !socket.writerProxy.connection.closing) = true := by
    rw [alike.connected, alike.opened]
    rfl
  unfold SocketLoop.write SocketWriter.write
  rw [if_pos goes]
  exact ⟨alike.container, congrArg (· ++ messages) alike.written, alike.connected, alike.opened⟩

theorem Alike.hold (alike : Alike stream socket) (container : κ) :
    Alike { stream with container := some container }
      { socket with containerHolder := some container } :=
  ⟨rfl, alike.written, alike.connected, alike.opened⟩

theorem Alike.perform (alike : Alike stream socket) (effect : Effect κ) :
    Agree Alike (stream.perform effect) (socket.perform effect) := by
  have next := (alike.hold effect.container).write effect.emitted
  unfold StreamLoop.perform SocketLoop.perform
  dsimp only
  cases effect.raised with
  | none => exact ⟨rfl, next⟩
  | some raised => exact ⟨rfl, next⟩

/-- The two dispatches agree on every message. -/
theorem Alike.message (alike : Alike stream socket) (message : HeadMessage) :
    Agree Alike (runWorkerMessage ops now stream message)
      (handleConnectionMessage ops now socket message) := by
  obtain ⟨container, written⟩ := stream
  obtain ⟨holder, proxy, event⟩ := socket
  obtain rfl : container = holder := alike.container
  cases message with
  | start message =>
      cases container with
      | some container => exact ⟨rfl, alike⟩
      | none =>
          dsimp only [runWorkerMessage, handleConnectionMessage]
          rcases ops.bootstrap now message with ⟨emitted, raised | container⟩
          · exact ⟨rfl, alike.write emitted⟩
          · exact ⟨rfl, ((alike.hold container).write emitted).write _⟩
  | reconnect message =>
      cases container with
      | some container => exact ⟨rfl, alike.write _⟩
      | none => exact ⟨rfl, alike.write _⟩
  | giveTask message =>
      cases container with
      | some container => exact alike.perform (ops.giveTask now container message.description)
      | none => exact ⟨rfl, alike⟩
  | message message =>
      cases container with
      | some container => exact alike.perform (ops.handleInbound now container message)
      | none => exact ⟨rfl, alike⟩
  | healthCheck =>
      cases container with
      | some container => exact ⟨rfl, alike.write _⟩
      | none => exact ⟨rfl, alike⟩
  | stop message =>
      cases container with
      | none => exact ⟨rfl, alike.container, alike.written, alike.connected, alike.opened⟩
      | some container =>
          have performed := alike.perform (ops.stop now container)
          dsimp only [runWorkerMessage, handleConnectionMessage]
          generalize StreamLoop.perform ⟨some container, written⟩ (ops.stop now container) =
            outcome at performed ⊢
          generalize SocketLoop.perform ⟨some container, proxy, event⟩ (ops.stop now container) =
            outcome' at performed ⊢
          obtain ⟨ending, next⟩ := outcome
          obtain ⟨ending', next'⟩ := outcome'
          obtain ⟨rfl, later⟩ : ending = ending' ∧ Alike next next' := performed
          cases ending with
          | some raised => exact ⟨rfl, later⟩
          | none =>
              have told := later.write [.signal { signal := "stopped" }]
              exact ⟨rfl, told.container, told.written, told.connected, told.opened⟩

theorem Alike.line (alike : Alike stream socket) (codec : Codec HeadMessage)
    (line : τ × Octets) :
    Agree Alike (runWorkerLine ops codec stream line)
      (handleConnectionLine ops codec socket line) := by
  unfold runWorkerLine handleConnectionLine
  rcases decodeLine codec line.2 with _ | message
  · exact ⟨rfl, alike⟩
  · exact alike.message message

/-- A stop ends the stream's loop, with or without a container. -/
theorem runWorkerMessage_stop (stream : StreamLoop κ) (message : StopMessage) :
    (runWorkerMessage ops now stream (.stop message)).1 ≠ none := by
  dsimp only [runWorkerMessage]
  rcases stream.container with _ | container
  · nofun
  · dsimp only
    rcases stream.perform (ops.stop now container) with ⟨_ | raised, next⟩
    · nofun
    · nofun

theorem handleConnectionMessage_stop (socket : SocketLoop κ) (message : StopMessage) :
    (handleConnectionMessage ops now socket (.stop message)).1 ≠ none := by
  dsimp only [handleConnectionMessage]
  rcases socket.containerHolder with _ | container
  · nofun
  · dsimp only
    rcases socket.perform (ops.stop now container) with ⟨_ | raised, next⟩
    · nofun
    · nofun

/-- **Entry points.** For any lines, the loops over the stream and over a connection take turns
that end in the same way, with the same container and the same messages sent; and neither reads
a line after the first stop. -/
theorem entry_points_alike (ops : ContainerOps κ τ) (codec : Codec HeadMessage)
    (lines : List (τ × Octets)) :
    List.Forall₂ (Agree Alike) (trace (runWorkerLine ops codec) .start lines)
        (trace (handleConnectionLine ops codec) .start lines) ∧
      ∀ before line after message, lines = before ++ line :: after →
        decodeLine codec line.2 = some (.stop message) →
          trace (runWorkerLine ops codec) .start lines =
              trace (runWorkerLine ops codec) .start (before ++ [line]) ∧
            trace (handleConnectionLine ops codec) .start lines =
              trace (handleConnectionLine ops codec) .start (before ++ [line]) := by
  constructor
  · have start : Alike (.start : StreamLoop κ) .start := ⟨rfl, rfl, rfl, rfl⟩
    exact trace_related (fun _ _ line alike => alike.line codec line) start lines
  · rintro before line after message rfl stop
    constructor
    · apply trace_append_of_ends
      intro stream
      unfold runWorkerLine
      rw [stop]
      exact runWorkerMessage_stop stream message
    · apply trace_append_of_ends
      intro socket
      unfold handleConnectionLine
      rw [stop]
      exact handleConnectionMessage_stop socket message

/-! ## The worker's container -/

/-- The effect of an operation that emits nothing itself. -/
def Effect.ofExcept (hosted : HostedContainer) :
    Except PyExc HostedContainer → Effect HostedContainer
  | .ok next => ⟨[], next, none⟩
  | .error raised => ⟨[], hosted, some raised⟩

/-- The operations of a container with the handler that it was given. -/
def hostedOps (env : WorkerEnv) : ContainerOps HostedContainer Moment where
  bootstrap _ message := ([], bootstrapContainer env message.agentId message.config)
  giveTask _ hosted description :=
    ⟨[], { hosted with container := hosted.container.giveTask description }, none⟩
  handleInbound now hosted message :=
    .ofExcept hosted ((hosted.handler.handleMessage now hosted.container message).map
      fun container => { hosted with container := container })
  healthReport now hosted := hosted.container.healthReport now
  stop now hosted := .ofExcept hosted (hosted.stop now)

theorem StreamLoop.write_nil (loop : StreamLoop κ) : loop.write [] = loop := by
  unfold StreamLoop.write
  rw [List.append_nil]

theorem StreamLoop.perform_ofExcept (sent : List WorkerMessage) (hosted : HostedContainer)
    (result : Except PyExc HostedContainer) :
    StreamLoop.perform ⟨some hosted, sent⟩ (.ofExcept hosted result) =
      match result with
      | .ok next => (none, ⟨some next, sent⟩)
      | .error raised => (some (.raised raised), ⟨some hosted, sent⟩) := by
  unfold StreamLoop.perform Effect.ofExcept
  cases result with
  | ok next => simp only [StreamLoop.write_nil]
  | error raised => simp only [StreamLoop.write_nil]

/-- The stream's dispatch, for that container, is the worker's. -/
theorem runWorkerMessage_hosted (env : WorkerEnv) (now : Moment) (loop : WorkerLoop)
    (message : HeadMessage) :
    runWorkerMessage (hostedOps env) now ⟨loop.container, loop.sent⟩ message =
      match dispatch env now loop message with
      | .ok (.reading, next) => (none, ⟨next.container, next.sent⟩)
      | .ok (.left, next) => (some .left, ⟨next.container, next.sent⟩)
      | .error raised => (some (.raised raised), ⟨loop.container, loop.sent⟩) := by
  obtain ⟨container, sent⟩ := loop
  cases message with
  | start message =>
      cases container with
      | some hosted => rfl
      | none =>
          dsimp only [runWorkerMessage, dispatch, hostedOps]
          rcases bootstrapContainer env message.agentId message.config with raised | hosted
          · dsimp only
            rw [StreamLoop.write_nil]
            rfl
          · dsimp only
            rw [StreamLoop.write_nil]
            rfl
  | reconnect message => cases container <;> rfl
  | giveTask message =>
      cases container with
      | some hosted =>
          exact StreamLoop.perform_ofExcept sent hosted (.ok { hosted with
            container := hosted.container.giveTask message.description })
      | none => rfl
  | message message =>
      cases container with
      | some hosted =>
          dsimp only [runWorkerMessage, dispatch, hostedOps]
          rw [StreamLoop.perform_ofExcept]
          rcases hosted.handler.handleMessage now hosted.container message with raised | container
          · rfl
          · rfl
      | none => rfl
  | healthCheck => cases container <;> rfl
  | stop message =>
      cases container with
      | some hosted =>
          dsimp only [runWorkerMessage, dispatch, hostedOps]
          rw [StreamLoop.perform_ofExcept]
          rcases hosted.stop now with raised | stopped
          · rfl
          · rfl
      | none => rfl

end Vcompany.Worker
