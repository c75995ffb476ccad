import Vcompany.Foundation.CutStream
import Vcompany.Transport.Framing
import Vcompany.Worker.HeadSocket

/-! # The outbox of a worker

The processes that an agent starts speak to the head through the outbox of the worker: each
connects, and the handler of its connection writes what it reads, line by line, to the connection
of the head, between the messages of the worker itself. A line that is written while no head is
connected goes nowhere. Whatever the order of things, the lines from one child are written in the
order in which it sent them, each once (`Forwards`).
-/

namespace Vcompany.Worker

open Foundation Transport

/-- Who writes to the head. -/
inductive Author where
  | container
  | child (conn : ℕ)
  deriving DecidableEq, Repr

/-- A call of `SocketWriter.write`: who makes it, the connection that it reaches, if any, and the
line, which is written with a newline. -/
structure WrittenLine where
  author : Author
  destination : Option ℕ
  line : Octets

/-- Where `handle_outbox_connection` is: it waits for a line, has read to the end, or was left
because `drain` raised. -/
inductive ChildPhase where
  | reading
  | finished
  | broken
  deriving DecidableEq, Repr

structure ChildConnection where
  reader : LineReader UInt8
  phase : ChildPhase

/-- What has been read from a child. The end of its stream may leave a line unfinished. -/
def ChildConnection.taken (child : ChildConnection) : List Octets :=
  child.reader.lines ++ if child.phase = .finished then [child.reader.buffer] else []

/-- A worker in socket mode: the socket of the head, the connections to the outbox, and all that
was written through the proxy. -/
structure Outbox where
  socket : HeadSocket
  children : ℕ → Option ChildConnection
  written : List WrittenLine

/-- The connection that `SocketWriter.write` reaches. -/
def HeadSocket.target (socket : HeadSocket) : Option ℕ :=
  match socket.writer with
  | none => none
  | some writer =>
      match socket.conns writer with
      | none => none
      | some state => if state.isClosing then none else some writer

theorem HeadSocket.write_eq (socket : HeadSocket) (message : WorkerMessage) :
    socket.write message = match socket.target with
      | none => socket
      | some conn => { socket with written := (conn, message) :: socket.written } := by
  unfold HeadSocket.write HeadSocket.target
  rcases socket.writer with _ | writer
  · rfl
  · dsimp only
    rcases socket.conns writer with _ | state
    · rfl
    · by_cases closing : state.isClosing = true
      · simp only [closing, if_true]
      · simp only [closing, if_false, Bool.false_eq_true]

/-- What the handler forwards of the data that it reads as a line, without the newline. -/
def forwarded (data : Octets) : Option Octets :=
  let stripped := stripBytes data
  if stripped = [] then none else some stripped

/-- Where the handler is behind a line. It does not call `drain` if it writes nothing. -/
def phaseAfter (data : Octets) (drains : Bool) : ChildPhase :=
  if (forwarded data).isSome && !drains then .broken else .reading

inductive OutboxEvent where
  /-- Something happens on the socket of the head, or the worker itself emits a message. -/
  | head (event : SocketEvent)
  | accepts (conn : ℕ)
  | feeds (conn : ℕ) (chunk : Octets)
  /-- A line of a child is read, and written; `drain` may raise then. -/
  | forwards (conn : ℕ) (drains : Bool)
  /-- A child has closed its connection, or died. -/
  | childEnds (conn : ℕ)

namespace Outbox

/-- A worker that has just begun to listen. -/
def init : Outbox where
  socket := HeadSocket.init
  children _ := none
  written := []

def write (author : Author) (line : Octets) (outbox : Outbox) : Outbox :=
  { outbox with written := outbox.written ++ [⟨author, outbox.socket.target, line⟩] }

def forward (conn : ℕ) (data : Octets) (outbox : Outbox) : Outbox :=
  match forwarded data with
  | none => outbox
  | some line => outbox.write (.child conn) line

def setChild (conn : ℕ) (child : ChildConnection) (outbox : Outbox) : Outbox :=
  { outbox with children := Function.update outbox.children conn (some child) }

variable (codec : Codec WorkerMessage)

/-- The worker between two awaits. -/
def next (outbox : Outbox) : OutboxEvent → Option Outbox
  | .head event =>
      (socketStep outbox.socket event).map fun socket =>
        match event with
        | .emit message =>
            { outbox.write .container (codec.modelDumpJson message) with socket := socket }
        | _ => { outbox with socket := socket }
  | .accepts conn =>
      match outbox.children conn with
      | none => some (outbox.setChild conn ⟨LineReader.init, .reading⟩)
      | some _ => none
  | .feeds conn chunk =>
      match outbox.children conn with
      | some ⟨reader, .reading⟩ =>
          (reader.next newline streamLimit (.feed chunk)).map fun later =>
            outbox.setChild conn ⟨later, .reading⟩
      | _ => none
  | .forwards conn drains =>
      match outbox.children conn with
      | some ⟨reader, .reading⟩ =>
          match reader.take newline streamLimit with
          | none => none
          | some (none, later) => some (outbox.setChild conn ⟨later, .reading⟩)
          | some (some line, later) =>
              some ((outbox.forward conn (line ++ [newline])).setChild conn
                ⟨later, phaseAfter (line ++ [newline]) drains⟩)
      | _ => none
  | .childEnds conn =>
      match outbox.children conn with
      | some ⟨reader, .reading⟩ =>
          if reader.failed = false ∧ (reader.take newline streamLimit).isNone then
            some ((outbox.forward conn reader.buffer).setChild conn ⟨reader, .finished⟩)
          else none
      | _ => none

def Step (outbox : Outbox) (event : OutboxEvent) (later : Outbox) : Prop :=
  outbox.next codec event = some later

/-- The lines that an author has written. -/
def linesBy (author : Author) (outbox : Outbox) : List Octets :=
  (outbox.written.filter fun entry => entry.author = author).map WrittenLine.line

/-- The lines that were written to a connection of the head. -/
def linesTo (conn : ℕ) (outbox : Outbox) : List Octets :=
  (outbox.written.filter fun entry => entry.destination = some conn).map WrittenLine.line

/-- What has been read from a child, if it has connected. -/
def takenFrom (conn : ℕ) (outbox : Outbox) : List Octets :=
  match outbox.children conn with
  | some child => child.taken
  | none => []

/-- What has arrived from a child. -/
def arrivedFrom (conn : ℕ) (outbox : Outbox) : Octets :=
  match outbox.children conn with
  | some child => child.reader.arrived
  | none => []

/-- A reader that was given the data of its stream in some chunks. -/
def Fed (reader : LineReader UInt8) : Prop :=
  ∃ events, Run (LineReader.Step newline streamLimit) LineReader.init events reader

/-- What the worker has forwarded of each child is what it has read from it. -/
structure Forwards (outbox : Outbox) : Prop where
  fed : ∀ conn child, outbox.children conn = some child → Fed child.reader
  rests : ∀ conn child, outbox.children conn = some child → child.phase = .finished →
    LineReader.Idle newline streamLimit child.reader
  lines : ∀ conn, outbox.linesBy (.child conn) = (outbox.takenFrom conn).filterMap forwarded

end Outbox

/-- The message that the worker emits in an event. -/
def OutboxEvent.emitted : OutboxEvent → Option WorkerMessage
  | .head (.emit message) => some message
  | _ => none

/-! ## Stripped lines -/

theorem stripBytes_concat_newline (data : Octets) :
    stripBytes (data ++ [newline]) = stripBytes data := by
  unfold stripBytes
  rw [List.dropWhile_append]
  split
  · next blank =>
      rw [List.isEmpty_iff.mp blank]
      decide
  · exact List.rdropWhile_concat_pos _ _ _ (by decide)

@[simp] theorem forwarded_concat_newline (data : Octets) :
    forwarded (data ++ [newline]) = forwarded data := by
  unfold forwarded
  rw [stripBytes_concat_newline]

theorem stripBytes_sublist (data : Octets) : List.Sublist (stripBytes data) data :=
  (List.rdropWhile_prefix _ _).sublist.trans (List.dropWhile_sublist _)

namespace Outbox

variable {codec : Codec WorkerMessage} {outbox later : Outbox} {author other : Author}
  {line data : Octets} {conn : ℕ} {child : ChildConnection} {event : OutboxEvent}

/-! ## What is written -/

theorem linesBy_write_self :
    (outbox.write author line).linesBy author = outbox.linesBy author ++ [line] := by
  simp [linesBy, write]

theorem linesBy_write_of_ne (apart : other ≠ author) :
    (outbox.write author line).linesBy other = outbox.linesBy other := by
  simp [linesBy, write, apart.symm]

theorem linesBy_forward_self :
    (outbox.forward conn data).linesBy (.child conn) =
      outbox.linesBy (.child conn) ++ [data].filterMap forwarded := by
  unfold forward
  rcases strips : forwarded data with _ | line
  · rw [List.filterMap_cons_none strips, List.filterMap_nil, List.append_nil]
  · rw [List.filterMap_cons_some strips, List.filterMap_nil]
    exact linesBy_write_self

theorem linesBy_forward_of_ne (apart : other ≠ .child conn) :
    (outbox.forward conn data).linesBy other = outbox.linesBy other := by
  unfold forward
  split
  · rfl
  · exact linesBy_write_of_ne apart

theorem children_forward : (outbox.forward conn data).children = outbox.children := by
  unfold forward
  split <;> rfl

theorem forward_concat_newline :
    outbox.forward conn (data ++ [newline]) = outbox.forward conn data := by
  unfold forward
  rw [forwarded_concat_newline]

/-- Several lines of a child are forwarded. -/
def forwardAll (conn : ℕ) (data : List Octets) (outbox : Outbox) : Outbox :=
  data.foldl (fun outbox line => outbox.forward conn line) outbox

theorem linesBy_forwardAll_self {all : List Octets} :
    (outbox.forwardAll conn all).linesBy (.child conn) =
      outbox.linesBy (.child conn) ++ all.filterMap forwarded := by
  induction all generalizing outbox with
  | nil => exact (List.append_nil _).symm
  | cons data all ih =>
      rw [← List.singleton_append, List.filterMap_append, ← List.append_assoc,
        ← linesBy_forward_self]
      exact ih

theorem linesBy_forwardAll_of_ne {all : List Octets} (apart : other ≠ .child conn) :
    (outbox.forwardAll conn all).linesBy other = outbox.linesBy other := by
  induction all generalizing outbox with
  | nil => rfl
  | cons data all ih => exact ih.trans (linesBy_forward_of_ne apart)

theorem children_forwardAll {all : List Octets} :
    (outbox.forwardAll conn all).children = outbox.children := by
  induction all generalizing outbox with
  | nil => rfl
  | cons data all ih => exact ih.trans children_forward

theorem written_forwardAll (all : List Octets) :
    outbox.written <+: (outbox.forwardAll conn all).written := by
  induction all generalizing outbox with
  | nil => exact List.prefix_rfl
  | cons data all ih =>
      have one : outbox.written <+: (outbox.forward conn data).written := by
        unfold forward
        split
        · exact List.prefix_rfl
        · exact List.prefix_append _ _
      exact one.trans ih

theorem linesBy_congr (written : outbox.written = later.written) :
    outbox.linesBy author = later.linesBy author := by
  unfold linesBy
  rw [written]

theorem linesBy_setChild : (outbox.setChild conn child).linesBy author = outbox.linesBy author :=
  rfl

theorem children_setChild_self : (outbox.setChild conn child).children conn = some child :=
  Function.update_self ..

theorem children_setChild_of_ne {away : ℕ} (apart : away ≠ conn) :
    (outbox.setChild conn child).children away = outbox.children away :=
  Function.update_of_ne apart _ _

theorem takenFrom_setChild_self : (outbox.setChild conn child).takenFrom conn = child.taken := by
  unfold takenFrom
  rw [children_setChild_self]

theorem takenFrom_setChild_of_ne {away : ℕ} (apart : away ≠ conn) :
    (outbox.setChild conn child).takenFrom away = outbox.takenFrom away := by
  unfold takenFrom
  rw [children_setChild_of_ne apart]

theorem takenFrom_forwardAll {away : ℕ} {all : List Octets} :
    (outbox.forwardAll conn all).takenFrom away = outbox.takenFrom away := by
  unfold takenFrom
  rw [children_forwardAll]

/-! ## One step -/

/-- What a step that concerns the connection of a child makes of the connection, and what is
forwarded in it. -/
structure Serves (outbox : Outbox) (event : OutboxEvent) (conn : ℕ) (child : ChildConnection)
    (data : List Octets) : Prop where
  silent : event.emitted = none
  taken : child.taken = outbox.takenFrom conn ++ data
  fed : (∀ old, outbox.children conn = some old → Fed old.reader) → Fed child.reader
  rests : child.phase = .finished → LineReader.Idle newline streamLimit child.reader
  arrived : child.reader.arrived = outbox.arrivedFrom conn ∨
    ∃ chunk, event = .feeds conn chunk ∧ child.reader.arrived = outbox.arrivedFrom conn ++ chunk

theorem Fed.step {reader after : LineReader UInt8} {event : ReaderEvent UInt8} (fed : Fed reader)
    (moved : LineReader.Step newline streamLimit reader event after) : Fed after := by
  obtain ⟨events, run⟩ := fed
  exact ⟨events ++ [event], run.concat moved⟩

theorem serves_of_take {reader after : LineReader UInt8} {given : Option Octets}
    {phase : ChildPhase} {drains : Bool} (present : outbox.children conn = some ⟨reader, .reading⟩)
    (took : reader.take newline streamLimit = some (given, after)) (goesOn : phase ≠ .finished) :
    outbox.Serves (.forwards conn drains) conn ⟨after, phase⟩ given.toList := by
  obtain ⟨moved, read⟩ := LineReader.take_cases took
  refine ⟨rfl, ?_, fun fed => (fed _ present).step moved, fun ends => absurd ends goesOn, .inl ?_⟩
  · unfold takenFrom ChildConnection.taken
    rw [present]
    dsimp only
    rw [if_neg goesOn, if_neg nofun, List.append_nil, List.append_nil]
    rcases read with ⟨rfl, -, same⟩ | ⟨line, rfl, -, more⟩
    · rw [same, Option.toList_none, List.append_nil]
    · rw [more, Option.toList_some]
  · unfold arrivedFrom
    rw [present]
    exact LineReader.read_arrived moved

/-- What a step of the worker does: something happens on the socket of the head, and the worker
may emit a message there; or the connection of one child is served. -/
theorem next_cases (stepped : outbox.Step codec event later) :
    (later.children = outbox.children ∧
      later.written = (event.emitted.elim outbox fun message =>
        outbox.write .container (codec.modelDumpJson message)).written) ∨
    ∃ conn child data, outbox.Serves event conn child data ∧
      later = (outbox.forwardAll conn data).setChild conn child := by
  unfold Step at stepped
  cases event with
  | head event =>
      obtain ⟨socket, -, rfl⟩ := Option.map_eq_some_iff.mp stepped
      refine .inl ?_
      cases event <;> exact ⟨rfl, rfl⟩
  | accepts conn =>
      simp only [next] at stepped
      split at stepped
      · next absent =>
          refine .inr ⟨conn, ⟨LineReader.init, .reading⟩, [],
            ⟨rfl, ?_, fun _ => ⟨[], .nil _⟩, nofun, .inl ?_⟩, (Option.some.inj stepped).symm⟩
          · simp [takenFrom, absent, ChildConnection.taken, LineReader.init]
          · simp [arrivedFrom, absent, LineReader.init]
      · cases stepped
  | feeds conn chunk =>
      simp only [next] at stepped
      split at stepped
      · next reader present =>
          obtain ⟨after, moved, rfl⟩ := Option.map_eq_some_iff.mp stepped
          refine .inr ⟨conn, ⟨after, .reading⟩, [],
            ⟨rfl, ?_, fun fed => (fed _ present).step moved, nofun, .inr ⟨chunk, rfl, ?_⟩⟩, rfl⟩
          all_goals obtain rfl := Option.some.inj moved
          · simp [takenFrom, present, ChildConnection.taken]
          · simp [arrivedFrom, present]
      · cases stepped
  | forwards conn drains =>
      simp only [next] at stepped
      split at stepped
      · next reader present =>
          split at stepped
          · cases stepped
          · next after took =>
              have waits : ChildPhase.reading ≠ .finished := nofun
              exact .inr ⟨conn, ⟨after, .reading⟩, [], serves_of_take present took waits,
                (Option.some.inj stepped).symm⟩
          · next line after took =>
              obtain rfl := Option.some.inj stepped
              refine .inr ⟨conn, ⟨after, phaseAfter (line ++ [newline]) drains⟩, [line],
                serves_of_take present took ?_, ?_⟩
              · unfold phaseAfter
                split <;> exact nofun
              · rw [forward_concat_newline]
                rfl
      · cases stepped
  | childEnds conn =>
      simp only [next] at stepped
      split at stepped
      · next reader present =>
          split at stepped
          · next read =>
            have idle := LineReader.idle_iff_take.mpr (Option.isNone_iff_eq_none.mp read.2)
            refine .inr ⟨conn, ⟨reader, .finished⟩, [reader.buffer],
              ⟨rfl, ?_, fun fed => fed ⟨reader, .reading⟩ present, fun _ => idle, .inl ?_⟩,
              (Option.some.inj stepped).symm⟩
            · simp [takenFrom, present, ChildConnection.taken]
            · simp [arrivedFrom, present]
          · cases stepped
      · cases stepped

/-- More has been written than before. -/
theorem written_isPrefix (stepped : outbox.Step codec event later) :
    outbox.written <+: later.written := by
  rcases next_cases stepped with ⟨-, written⟩ | ⟨conn, child, data, -, rfl⟩
  · rw [written]
    cases event.emitted with
    | none => exact List.prefix_rfl
    | some message => exact List.prefix_append _ _
  · exact written_forwardAll data

theorem linesTo_isPrefix (stepped : outbox.Step codec event later) (conn : ℕ) :
    outbox.linesTo conn <+: later.linesTo conn :=
  ((written_isPrefix stepped).filter _).map WrittenLine.line

/-! ## Runs -/

theorem forwards_init : init.Forwards where
  fed := nofun
  rests := nofun
  lines _ := rfl

theorem Forwards.served {data : List Octets} (forwards : outbox.Forwards)
    (serves : outbox.Serves event conn child data) :
    ((outbox.forwardAll conn data).setChild conn child).Forwards where
  fed := by
    intro other connected present
    by_cases own : other = conn
    · subst own
      rw [children_setChild_self] at present
      exact Option.some.inj present ▸ serves.fed (forwards.fed other)
    · rw [children_setChild_of_ne own, children_forwardAll] at present
      exact forwards.fed other connected present
  rests := by
    intro other connected present
    by_cases own : other = conn
    · subst own
      rw [children_setChild_self] at present
      exact Option.some.inj present ▸ serves.rests
    · rw [children_setChild_of_ne own, children_forwardAll] at present
      exact forwards.rests other connected present
  lines := by
    intro other
    by_cases own : other = conn
    · subst own
      rw [linesBy_setChild, linesBy_forwardAll_self, forwards.lines other, takenFrom_setChild_self,
        serves.taken, List.filterMap_append]
    · rw [linesBy_setChild, linesBy_forwardAll_of_ne (by simpa using own), forwards.lines other,
        takenFrom_setChild_of_ne own, takenFrom_forwardAll]

/-- **One step.** What is forwarded of each child stays what is read from it. -/
theorem Forwards.next (forwards : outbox.Forwards) (stepped : outbox.Step codec event later) :
    later.Forwards := by
  rcases next_cases stepped with ⟨children, written⟩ | ⟨conn, child, data, serves, rfl⟩
  · refine ⟨children ▸ forwards.fed, children ▸ forwards.rests, fun conn => ?_⟩
    have same : later.takenFrom conn = outbox.takenFrom conn := by
      unfold takenFrom
      rw [children]
    rw [same, ← forwards.lines conn, linesBy_congr written]
    cases event.emitted with
    | none => rfl
    | some message => exact linesBy_write_of_ne nofun
  · exact forwards.served serves

end Outbox

end Vcompany.Worker
