import Vcompany.Foundation.Simulation
import Vcompany.Supervisor.ChannelReader
import Vcompany.Worker.ChildMessages

/-! # Reports of a worker

The processes of an agent speak to their worker, and the worker, between its own messages, passes
on what they say to the daemon that is connected; the daemon reads the lines of the connection and
routes them. All streams are cut into chunks in any way, the reads interleave in any way, daemons
come and go, and each of the parties may die at any point. What a daemon deals with are the first
of the messages that were written to its connection, and these are the messages of the worker and
of its children, each once and in order (`reports_relayed`).
-/

namespace Vcompany.Supervisor

open Foundation Transport Worker

variable {σ : Type}

/-- The daemon's end of a connection: its stream, the loop that reads it, and whether the end of
the stream has been read. -/
structure HeadEnd (σ : Type) where
  reader : LineReader UInt8
  channel : ChannelReader σ
  ended : Bool

/-- The lines that the loop has got. The end of the stream may leave a line unfinished. -/
def HeadEnd.taken (head : HeadEnd σ) : List Octets :=
  head.reader.lines ++ if head.ended then [head.reader.buffer] else []

/-- A worker, the communication port of the daemon, and its ends of the connections. -/
structure WorkerLink (σ : Type) where
  outbox : Outbox
  port : σ
  heads : ℕ → Option (HeadEnd σ)

inductive LinkEvent where
  | worker (event : OutboxEvent)
  /-- The daemon starts to read the channel. -/
  | attaches (conn : ℕ)
  | delivers (conn : ℕ) (chunk : Octets)
  | hears (conn : ℕ)
  /-- The end of the stream is read, after the worker has closed the connection or died. -/
  | ends (conn : ℕ)

def LinkEvent.ofWorker : LinkEvent → Option OutboxEvent
  | .worker event => some event
  | _ => none

namespace WorkerLink

/-- A worker that has just begun to listen, and a daemon. -/
def init (port : σ) : WorkerLink σ where
  outbox := Outbox.init
  port := port
  heads _ := none

/-- The stream of a connection, as far as the worker has written it. -/
def stream (conn : ℕ) (link : WorkerLink σ) : Octets :=
  joinLines newline (link.outbox.linesTo conn)

def setHead (conn : ℕ) (head : HeadEnd σ) (link : WorkerLink σ) : WorkerLink σ :=
  { link with heads := Function.update link.heads conn (some head) }

variable (codec : Codec WorkerMessage) (send : SendMessage σ) (handle : ℕ → AgentHandle)

/-- The loop takes lines, and routes them by the port that all connections share. -/
def route (conn : ℕ) (head : HeadEnd σ) (lines : List Octets) (link : WorkerLink σ) :
    WorkerLink σ :=
  let channel := ChannelReader.readLines send (handle conn) codec
    { head.channel with port := link.port } lines
  { link.setHead conn { head with channel := channel } with port := channel.port }

/-- The worker takes a step, or the daemon between two awaits. -/
def next (link : WorkerLink σ) : LinkEvent → Option (WorkerLink σ)
  | .worker event =>
      (link.outbox.next codec event).map fun outbox => { link with outbox := outbox }
  | .attaches conn =>
      match link.heads conn with
      | none => some (link.setHead conn ⟨LineReader.init, ChannelReader.start link.port, false⟩)
      | some _ => none
  | .delivers conn chunk =>
      match link.heads conn with
      | none => none
      | some head =>
          if head.ended = false ∧ head.reader.arrived ++ chunk <+: link.stream conn then
            (head.reader.next newline streamLimit (.feed chunk)).map fun reader =>
              link.setHead conn { head with reader := reader }
          else none
  | .hears conn =>
      match link.heads conn with
      | none => none
      | some head =>
          if head.ended = false ∧ head.channel.reading then
            (head.reader.take newline streamLimit).map fun taken =>
              link.route codec send handle conn { head with reader := taken.2 } taken.1.toList
          else none
  | .ends conn =>
      match link.heads conn with
      | none => none
      | some head =>
          if head.ended = false ∧ head.channel.reading ∧ head.reader.failed = false ∧
              (head.reader.take newline streamLimit).isNone then
            some (link.route codec send handle conn { head with ended := true }
              [head.reader.buffer])
          else none

def Step (link : WorkerLink σ) (event : LinkEvent) (later : WorkerLink σ) : Prop :=
  link.next codec send handle event = some later

end WorkerLink

/-! ## What a loop has dealt with -/

namespace ChannelReader

/-- The loop has dealt with the first of the messages, and with all of them while it reads; the
handle keeps the last health report. -/
structure Heard (reader : ChannelReader σ) (messages : List WorkerMessage) : Prop where
  first : reader.processed <+: messages
  all : reader.reading = true → reader.processed = messages
  lastHealth : reader.lastHealth = reader.processed.foldl health none

variable {send : SendMessage σ} {handle : AgentHandle} {codec : Codec WorkerMessage}
  {reader : ChannelReader σ} {messages : List WorkerMessage}

theorem heard_start (port : σ) : (start port).Heard [] := ⟨List.nil_prefix, fun _ => rfl, rfl⟩

/-- What the port has done in between does not matter. -/
theorem Heard.withPort (heard : reader.Heard messages) (port : σ) :
    { reader with port := port }.Heard messages := ⟨heard.first, heard.all, heard.lastHealth⟩

theorem Heard.dispatch (heard : reader.Heard messages) (reads : reader.reading = true)
    (message : WorkerMessage) :
    (reader.dispatch send handle message).Heard (messages ++ [message]) := by
  unfold ChannelReader.dispatch
  split
  · next port =>
      have same := heard.all reads
      refine ⟨?_, fun _ => congrArg (· ++ [message]) same, ?_⟩
      · rw [same]
      · change health reader.lastHealth message = _
        rw [List.foldl_append, ← heard.lastHealth]
        rfl
  · next port =>
      exact ⟨heard.first.trans (List.prefix_append _ _), nofun, heard.lastHealth⟩

/-- What comes in once the loop is left is not dealt with. -/
theorem Heard.more (heard : reader.Heard messages) (left : reader.reading = false)
    (later : List WorkerMessage) : reader.Heard (messages ++ later) where
  first := heard.first.trans (List.prefix_append _ _)
  all reads := by
    rw [left] at reads
    cases reads
  lastHealth := heard.lastHealth

theorem Heard.readLines (heard : reader.Heard messages) (lines : List Octets) :
    (readLines send handle codec reader lines).Heard
      (messages ++ lines.filterMap (decodeLine codec)) := by
  induction lines generalizing reader messages with
  | nil =>
      rw [List.filterMap_nil, List.append_nil]
      exact heard
  | cons line lines ih =>
      unfold ChannelReader.readLines
      by_cases reads : reader.reading = true
      · rw [if_pos reads]
        rcases decoded : decodeLine codec line with _ | message
        · rw [List.filterMap_cons_none decoded]
          exact ih heard
        · rw [List.filterMap_cons_some decoded, ← List.singleton_append, ← List.append_assoc]
          exact ih (heard.dispatch reads message)
      · rw [if_neg reads]
        exact heard.more (Bool.not_eq_true _ ▸ reads) _

end ChannelReader

/-! ## One step -/

/-- What holds of the daemon's end of a connection with the given stream. -/
structure HeadEnd.Follows (codec : Codec WorkerMessage) (stream : Octets) (head : HeadEnd σ) :
    Prop where
  fed : Outbox.Fed head.reader
  rests : head.ended = true → LineReader.Idle newline streamLimit head.reader
  arrived : head.reader.arrived <+: stream
  heard : head.channel.Heard (head.taken.filterMap (decodeLine codec))

variable {codec : Codec WorkerMessage} {send : SendMessage σ} {handle : ℕ → AgentHandle}

namespace HeadEnd.Follows

variable {stream longer : Octets} {head : HeadEnd σ}

theorem start (port : σ) (stream : Octets) :
    (⟨LineReader.init, ChannelReader.start port, false⟩ : HeadEnd σ).Follows codec stream where
  fed := ⟨[], .nil _⟩
  rests := nofun
  arrived := List.nil_prefix
  heard := ChannelReader.heard_start port

theorem mono (follows : head.Follows codec stream) (grows : stream <+: longer) :
    head.Follows codec longer :=
  { follows with arrived := follows.arrived.trans grows }

theorem delivered (follows : head.Follows codec stream) (goesOn : head.ended = false)
    {chunk : Octets} (within : head.reader.arrived ++ chunk <+: stream) {reader : LineReader UInt8}
    (moved : LineReader.Step newline streamLimit head.reader (.feed chunk) reader) :
    { head with reader := reader }.Follows codec stream where
  fed := follows.fed.step moved
  rests ends := by
    rw [goesOn] at ends
    cases ends
  arrived := by
    obtain rfl := Option.some.inj moved
    exact within
  heard := by
    have heard := follows.heard
    obtain rfl := Option.some.inj moved
    unfold HeadEnd.taken at heard ⊢
    dsimp only
    rw [goesOn] at heard ⊢
    exact heard

theorem routed (follows : head.Follows codec stream) (send : SendMessage σ) (handle : AgentHandle)
    (port : σ) (lines : List Octets) :
    (ChannelReader.readLines send handle codec { head.channel with port := port } lines).Heard
      ((head.taken ++ lines).filterMap (decodeLine codec)) := by
  rw [List.filterMap_append]
  exact (follows.heard.withPort port).readLines lines

theorem hears (follows : head.Follows codec stream) (goesOn : head.ended = false)
    {given : Option Octets} {reader : LineReader UInt8}
    (took : head.reader.take newline streamLimit = some (given, reader)) (conn : ℕ) (port : σ) :
    { head with
      reader := reader
      channel := ChannelReader.readLines send (handle conn) codec
        { head.channel with port := port } given.toList }.Follows codec stream := by
  obtain ⟨moved, read⟩ := LineReader.take_cases took
  refine ⟨follows.fed.step moved, fun ends => ?_, ?_, ?_⟩
  · rw [goesOn] at ends
    cases ends
  · dsimp only
    rw [LineReader.read_arrived moved]
    exact follows.arrived
  · have lines : reader.lines = head.reader.lines ++ given.toList := by
      rcases read with ⟨rfl, -, same⟩ | ⟨line, rfl, -, more⟩
      · rw [same, Option.toList_none, List.append_nil]
      · rw [more, Option.toList_some]
    have taken : head.taken ++ given.toList = reader.lines ++ [] := by
      unfold HeadEnd.taken
      rw [goesOn, lines, if_neg nofun, List.append_nil, List.append_nil]
    unfold HeadEnd.taken
    dsimp only
    rw [goesOn, if_neg nofun, ← taken]
    exact follows.routed send (handle conn) port given.toList

theorem cut (follows : head.Follows codec stream) (goesOn : head.ended = false)
    (idle : LineReader.Idle newline streamLimit head.reader) (conn : ℕ) (port : σ) :
    { head with
      ended := true
      channel := ChannelReader.readLines send (handle conn) codec
        { head.channel with port := port } [head.reader.buffer] }.Follows codec stream where
  fed := follows.fed
  rests _ := idle
  arrived := follows.arrived
  heard := by
    have routed := follows.routed send (handle conn) port [head.reader.buffer]
    unfold HeadEnd.taken at routed ⊢
    rw [goesOn, if_neg nofun, List.append_nil] at routed
    exact routed

end HeadEnd.Follows

namespace WorkerLink

variable {link later : WorkerLink σ} {event : LinkEvent} {conn : ℕ} {head : HeadEnd σ}

/-- What a step does: the worker takes one, or the daemon does something at its end of one
connection. -/
theorem next_cases (stepped : link.Step codec send handle event later) :
    (∃ inner outbox, event = .worker inner ∧ link.outbox.Step codec inner outbox ∧
      later = { link with outbox := outbox }) ∨
    (event.ofWorker = none ∧ ∃ conn head port,
      later = { link.setHead conn head with port := port } ∧
      ((∀ old, link.heads conn = some old → old.Follows codec (link.stream conn)) →
        head.Follows codec (link.stream conn))) := by
  unfold Step at stepped
  cases event with
  | worker event =>
      obtain ⟨outbox, inner, rfl⟩ := Option.map_eq_some_iff.mp stepped
      exact .inl ⟨event, outbox, rfl, inner, rfl⟩
  | attaches conn =>
      simp only [next] at stepped
      split at stepped
      · obtain rfl := Option.some.inj stepped
        exact .inr ⟨rfl, conn, _, link.port, rfl, fun _ => .start link.port _⟩
      · cases stepped
  | delivers conn chunk =>
      simp only [next] at stepped
      split at stepped
      · cases stepped
      · next head present =>
          split at stepped
          · next guard =>
              obtain ⟨reader, moved, rfl⟩ := Option.map_eq_some_iff.mp stepped
              exact .inr ⟨rfl, conn, _, link.port, rfl, fun follows =>
                (follows head present).delivered guard.1 guard.2 moved⟩
          · cases stepped
  | hears conn =>
      simp only [next] at stepped
      split at stepped
      · cases stepped
      · next head present =>
          split at stepped
          · next guard =>
              obtain ⟨⟨given, reader⟩, took, rfl⟩ := Option.map_eq_some_iff.mp stepped
              exact .inr ⟨rfl, conn, _, _, rfl, fun follows =>
                (follows head present).hears guard.1 took conn link.port⟩
          · cases stepped
  | ends conn =>
      simp only [next] at stepped
      split at stepped
      · cases stepped
      · next head present =>
          split at stepped
          · next guard =>
              obtain rfl := Option.some.inj stepped
              have idle := LineReader.idle_iff_take.mpr (Option.isNone_iff_eq_none.mp guard.2.2.2)
              exact .inr ⟨rfl, conn, _, _, rfl, fun follows =>
                (follows head present).cut guard.1 idle conn link.port⟩
          · cases stepped

/-! ## Runs -/

/-- Each end of a connection follows its stream. -/
def Follows (codec : Codec WorkerMessage) (link : WorkerLink σ) : Prop :=
  ∀ conn head, link.heads conn = some head → head.Follows codec (link.stream conn)

theorem stream_mono {inner : OutboxEvent} {outbox : Outbox}
    (stepped : link.outbox.Step codec inner outbox) (conn : ℕ) :
    link.stream conn <+: { link with outbox := outbox }.stream conn := by
  obtain ⟨more, same⟩ := Outbox.linesTo_isPrefix stepped conn
  exact ⟨joinLines newline more, by rw [stream, stream, ← same, joinLines_append]⟩

/-- **One step.** The ends of the connections follow their streams. -/
theorem Follows.next (follows : link.Follows codec)
    (stepped : link.Step codec send handle event later) : later.Follows codec := by
  rcases next_cases stepped with ⟨inner, outbox, rfl, moved, rfl⟩ |
    ⟨-, conn, head, port, rfl, serves⟩
  · intro conn head present
    exact (follows conn head present).mono (stream_mono moved conn)
  · intro other found present
    by_cases own : other = conn
    · subst own
      change Function.update link.heads other (some head) other = _ at present
      rw [Function.update_self] at present
      exact Option.some.inj present ▸ serves (follows other)
    · change Function.update link.heads conn (some head) other = _ at present
      rw [Function.update_of_ne own] at present
      exact follows other found present

/-- The condition on an event: the children say what they are to say, and the worker emits
messages that fit. -/
def Speaks (codec : Codec WorkerMessage) (asks : ℕ → List WorkerMessage) (link : WorkerLink σ)
    (event : LinkEvent) : Prop :=
  ∀ inner, event.ofWorker = some inner → link.outbox.Speaks codec asks inner

/-- What holds behind the events so far. -/
structure Relays (codec : Codec WorkerMessage) (asks : ℕ → List WorkerMessage)
    (past : List LinkEvent) (link : WorkerLink σ) : Prop where
  faithful : link.outbox.Faithful codec asks (past.filterMap LinkEvent.ofWorker)
  follows : link.Follows codec

variable {asks : ℕ → List WorkerMessage} {past : List LinkEvent}

theorem relays_init (port : σ) : (init port).Relays codec asks [] where
  faithful := Outbox.faithful_init
  follows := nofun

theorem Relays.next (relays : link.Relays codec asks past) (speaks : link.Speaks codec asks event)
    (stepped : link.Step codec send handle event later) :
    later.Relays codec asks (past ++ [event]) where
  faithful := by
    rw [List.filterMap_append]
    rcases next_cases stepped with ⟨inner, outbox, rfl, moved, rfl⟩ |
      ⟨silent, conn, head, port, rfl, -⟩
    · exact relays.faithful.next (speaks inner rfl) moved
    · rw [List.filterMap_cons_none silent, List.filterMap_nil, List.append_nil]
      exact relays.faithful
  follows := relays.follows.next stepped

section

variable (whole : ∀ child, ∀ message ∈ asks child, Whole codec message)

include whole

theorem Relays.fragment (relays : link.Relays codec asks past) (conn : ℕ) :
    ∀ line ∈ link.outbox.linesTo conn, Fragment codec line := by
  intro line member
  obtain ⟨entry, written, rfl⟩ := List.mem_map.mp member
  exact relays.faithful.fragment whole (List.mem_filter.mp written).1

theorem Relays.readable (relays : link.Relays codec asks past) (conn : ℕ) :
    Readable newline streamLimit (link.outbox.linesTo conn) := by
  intro line member
  obtain ⟨message, sound, start⟩ := relays.fragment whole conn line member
  exact sound.readable start

/-- What the daemon gets on a connection are the first of the messages written there. -/
theorem Relays.taken_isPrefix (relays : link.Relays codec asks past)
    (present : link.heads conn = some head) :
    head.taken.filterMap (decodeLine codec) <+: link.outbox.messagesTo codec conn := by
  have follows := relays.follows conn head present
  obtain ⟨events, run⟩ := follows.fed
  have reads := LineReader.reads_prefix run (relays.readable whole conn) follows.arrived
  unfold HeadEnd.taken Outbox.messagesTo
  by_cases ends : head.ended = true
  · rw [if_pos ends]
    refine LineReader.taken_isPrefix ?_ rfl reads (follows.rests ends)
    exact fun line member => (relays.fragment whole conn line member).uncut
  · rw [if_neg ends, List.append_nil]
    exact reads.isPrefix.filterMap _

/-- Nothing is left out, once the stream has arrived and there is nothing left to read. -/
theorem Relays.processed_eq (relays : link.Relays codec asks past)
    (present : link.heads conn = some head) (reading : head.channel.reading = true)
    (arrived : head.reader.arrived = link.stream conn)
    (idle : LineReader.Idle newline streamLimit head.reader) :
    head.channel.processed = link.outbox.messagesTo codec conn := by
  have follows := relays.follows conn head present
  obtain ⟨events, run⟩ := follows.fed
  have all := LineReader.Reads.lines_eq run (relays.readable whole conn) arrived idle
  rw [follows.heard.all reading]
  refine (relays.taken_isPrefix whole present).eq_of_length_le ?_
  unfold HeadEnd.taken Outbox.messagesTo
  rw [all, List.filterMap_append, List.length_append]
  exact Nat.le_add_right _ _

end

/-- What the worker has written of itself are the messages that it has emitted. -/
theorem Relays.messagesBy_container (relays : link.Relays codec asks past) :
    link.outbox.messagesBy codec .container =
      (past.filterMap LinkEvent.ofWorker).filterMap OutboxEvent.emitted := by
  unfold Outbox.messagesBy
  rw [relays.faithful.own, List.filterMap_map]
  refine Eq.trans (List.filterMap_congr ?_) List.filterMap_some
  exact fun message member => decodeLine_dump (relays.faithful.whole message member).roundTrips

theorem relays_run {port : σ} {events : List LinkEvent}
    (run : Run (Guarded (Step codec send handle) (Speaks codec asks)) (init port) events link) :
    link.Relays codec asks events :=
  run.recorded (Relays codec asks)
    (fun _ _ _ _ relays moved => relays.next moved.1 moved.2) (relays_init port)

/-- **Reports of a worker.** In every run, what was written for a child are the first of the
messages that it is to send, and all of them once they have arrived and are read; what the worker
has written of itself is what it has emitted; and a daemon has dealt with the first of the
messages that were written to its connection, and with all of them once they have arrived and are
read, unless the port has raised. -/
theorem reports_relayed {port : σ} {events : List LinkEvent}
    (whole : ∀ child, ∀ message ∈ asks child, Whole codec message)
    (run : Run (Guarded (Step codec send handle) (Speaks codec asks)) (init port) events link) :
    (∀ child, link.outbox.messagesBy codec (.child child) <+: asks child ∧
      ∀ found, link.outbox.children child = some found →
        found.reader.arrived = (asks child).flatMap (encode codec) →
        LineReader.Idle newline streamLimit found.reader →
        link.outbox.messagesBy codec (.child child) = asks child) ∧
    link.outbox.messagesBy codec .container =
      (events.filterMap LinkEvent.ofWorker).filterMap OutboxEvent.emitted ∧
    ∀ conn head, link.heads conn = some head →
      head.channel.processed <+: link.outbox.messagesTo codec conn ∧
      head.channel.lastHealth = head.channel.processed.foldl ChannelReader.health none ∧
      (head.channel.reading = true → head.reader.arrived = link.stream conn →
        LineReader.Idle newline streamLimit head.reader →
        head.channel.processed = link.outbox.messagesTo codec conn) := by
  have relays := relays_run run
  refine ⟨fun child => ⟨relays.faithful.messagesBy_isPrefix whole child, ?_⟩,
    relays.messagesBy_container, fun conn head present => ⟨?_, ?_, ?_⟩⟩
  · exact fun found present => relays.faithful.messagesBy_eq whole present
  · exact (relays.follows conn head present).heard.first.trans
      (relays.taken_isPrefix whole present)
  · exact (relays.follows conn head present).heard.lastHealth
  · exact relays.processed_eq whole present

/-! ## A report that arrives -/

private theorem uncut_report :
    LineReader.Uncut (decodeLine (longReportCodec 1))
      ((longReportCodec 1).modelDumpJson (longReport 1)) := by
  intro part start
  by_cases same : part = (longReportCodec 1).modelDumpJson (longReport 1)
  · exact .inl same
  · have shorter : part.length ≠ ((longReportCodec 1).modelDumpJson (longReport 1)).length :=
      fun long => same (start.eq_of_length long)
    have strips := (stripBytes_sublist (stripBytes (part ++ [newline]))).length_le
    rw [stripBytes_concat_newline] at strips
    have once := (stripBytes_sublist part).length_le
    have within := start.length_le
    have rejected : stripBytes (stripBytes part) ≠ objectOctets (longReportFields 1) := by
      intro accepted
      have length := congrArg List.length accepted
      change _ = ((longReportCodec 1).modelDumpJson (longReport 1)).length at length
      omega
    have refused : (longReportCodec 1).validateJson (stripBytes (stripBytes part)) =
        .error .valueError := if_neg rejected
    refine .inr ?_
    unfold decodeLine decode
    dsimp only
    rw [stripBytes_concat_newline, refused]
    split <;> rfl

private theorem report_whole : Whole (longReportCodec 1) (longReport 1) where
  roundTrips := longReport_roundTrips 1
  fits := by decide
  uncut := uncut_report

private def reportLine : Octets := encode (longReportCodec 1) (longReport 1)

private def oneReport (child : ℕ) : List WorkerMessage := if child = 5 then [longReport 1] else []

private def reportEvents : List LinkEvent :=
  [.worker (.head (.accept 0)), .attaches 0, .worker (.accepts 5), .worker (.feeds 5 reportLine),
    .worker (.forwards 5 true), .delivers 0 reportLine, .hears 0]

private theorem report_run : ∃ (link : WorkerLink (List SendMessagePayload)) (head : HeadEnd _),
    Run (Guarded (Step (longReportCodec 1) (sendMessage fun _ => some discordAccepts)
      fun _ => connectedHandle) (Speaks (longReportCodec 1) oneReport))
        (init []) reportEvents link ∧
    link.heads 0 = some head ∧ head.channel.port.length = 1 ∧ head.channel.reading = true ∧
    head.reader.arrived = link.stream 0 ∧
    LineReader.Idle newline streamLimit head.reader := by
  refine ⟨_, _, .cons ⟨?_, rfl⟩ <| .cons ⟨?_, rfl⟩ <| .cons ⟨?_, rfl⟩ <| .cons ⟨?_, rfl⟩ <|
    .cons ⟨?_, rfl⟩ <| .cons ⟨?_, rfl⟩ <| .cons ⟨?_, rfl⟩ (.nil _), rfl, rfl, rfl, rfl, rfl⟩
  all_goals
    rintro inner ⟨⟩
  · trivial
  · trivial
  · exact List.prefix_rfl
  · trivial

/-- A report of a child is dealt with by the daemon. -/
theorem report_arrives : ∃ (link : WorkerLink (List SendMessagePayload)) (head : HeadEnd _),
    link.heads 0 = some head ∧ head.channel.port.length = 1 ∧
      head.channel.processed = link.outbox.messagesTo (longReportCodec 1) 0 := by
  have whole : ∀ child, ∀ message ∈ oneReport child, Whole (longReportCodec 1) message := by
    intro child message member
    unfold oneReport at member
    split at member
    · obtain rfl := List.mem_singleton.mp member
      exact report_whole
    · exact absurd member List.not_mem_nil
  obtain ⟨link, head, run, present, posted, reading, arrived, idle⟩ := report_run
  exact ⟨link, head, present, posted,
    ((reports_relayed whole run).2.2 0 head present).2.2 reading arrived idle⟩

end WorkerLink

end Vcompany.Supervisor
