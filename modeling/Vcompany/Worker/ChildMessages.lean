import Vcompany.Worker.Outbox

/-! # What the children of a worker say

Each child of a worker is to say some messages, and may die in between. If every message that is
sent fits in a line, and nothing is read from the start of one, then what the worker has written
for a child reads as the first of these messages (`Faithful.messagesBy_isPrefix`), and as all of
them once they have arrived and are read (`Faithful.messagesBy_eq`).
-/

namespace Vcompany.Worker

open Foundation Transport

/-- The message arrives if it is sent whole, and nothing arrives of a part of it. -/
structure Whole (codec : Codec WorkerMessage) (message : WorkerMessage) : Prop where
  roundTrips : codec.RoundTrips message
  fits : (codec.modelDumpJson message).length ≤ streamLimit
  uncut : LineReader.Uncut (decodeLine codec) (codec.modelDumpJson message)

/-- A line that is a message, or the start of one. -/
def Fragment (codec : Codec WorkerMessage) (line : Octets) : Prop :=
  ∃ message, Whole codec message ∧ line <+: codec.modelDumpJson message

/-- What the head reads of what a child sends. -/
def heardOf (codec : Codec WorkerMessage) (data : Octets) : Option WorkerMessage :=
  (forwarded data).bind (decodeLine codec)

variable {codec : Codec WorkerMessage} {message : WorkerMessage} {part line : Octets}

theorem Whole.readable (whole : Whole codec message) (start : line <+:
    codec.modelDumpJson message) : newline ∉ line ∧ line.length ≤ streamLimit :=
  ⟨fun member => whole.roundTrips.oneLine (start.subset member), start.length_le.trans whole.fits⟩

theorem Fragment.uncut (fragment : Fragment codec line) :
    LineReader.Uncut (decodeLine codec) line := by
  obtain ⟨message, whole, start⟩ := fragment
  intro part inner
  rcases whole.uncut part (inner.trans start) with same | nothing
  · exact .inl (inner.eq_of_length_le (same ▸ start.length_le))
  · exact .inr nothing

/-- At the start of a message only spaces behind are stripped. -/
theorem stripBytes_isPrefix (whole : Whole codec message)
    (start : part <+: codec.modelDumpJson message) : stripBytes part <+: part := by
  obtain ⟨fields, object⟩ := whole.roundTrips.object
  cases part with
  | nil => exact List.nil_prefix
  | cons c part =>
      rw [object, List.cons_append] at start
      obtain rfl : c = 123 := (List.cons_prefix_cons.mp start).1
      unfold stripBytes
      rw [List.dropWhile_cons_of_neg (by decide)]
      exact List.rdropWhile_prefix _ _

theorem heardOf_dump (whole : Whole codec message) :
    heardOf codec (codec.modelDumpJson message) = some message := by
  obtain ⟨fields, object⟩ := whole.roundTrips.object
  have strips : stripBytes (codec.modelDumpJson message) = codec.modelDumpJson message := by
    rw [← stripBytes_concat_newline, object]
    exact stripBytes_object fields
  have kept : forwarded (codec.modelDumpJson message) = some (codec.modelDumpJson message) := by
    unfold forwarded
    rw [strips]
    exact if_neg (by simp [object])
  unfold heardOf
  rw [kept]
  exact decodeLine_dump whole.roundTrips

theorem uncut_heardOf (whole : Whole codec message) :
    LineReader.Uncut (heardOf codec) (codec.modelDumpJson message) := by
  intro part start
  have shorter := stripBytes_isPrefix whole start
  rcases whole.uncut _ (shorter.trans start) with same | nothing
  · refine .inl (start.eq_of_length_le ?_)
    rw [← same]
    exact shorter.length_le
  · refine .inr ?_
    unfold heardOf forwarded
    dsimp only
    split
    · rfl
    · exact nothing

namespace Outbox

variable {outbox later : Outbox} {event : OutboxEvent} {asks : ℕ → List WorkerMessage}
  {past : List OutboxEvent} {conn : ℕ}

/-- The messages that an author has written, as the head reads them. -/
def messagesBy (codec : Codec WorkerMessage) (author : Author) (outbox : Outbox) :
    List WorkerMessage :=
  (outbox.linesBy author).filterMap (decodeLine codec)

/-- The messages that were written to a connection of the head. -/
def messagesTo (codec : Codec WorkerMessage) (conn : ℕ) (outbox : Outbox) : List WorkerMessage :=
  (outbox.linesTo conn).filterMap (decodeLine codec)

/-- The condition on an event: what arrives from a child is what it is to say, up to some point,
and the worker emits messages that fit. -/
def Speaks (codec : Codec WorkerMessage) (asks : ℕ → List WorkerMessage) (outbox : Outbox) :
    OutboxEvent → Prop
  | .feeds conn chunk => outbox.arrivedFrom conn ++ chunk <+: (asks conn).flatMap (encode codec)
  | .head (.emit message) => Whole codec message
  | _ => True

/-- What holds of a worker whose children say what they are to say, behind the events so far. -/
structure Faithful (codec : Codec WorkerMessage) (asks : ℕ → List WorkerMessage)
    (past : List OutboxEvent) (outbox : Outbox) : Prop where
  forwards : outbox.Forwards
  spoken : ∀ conn, outbox.arrivedFrom conn <+: (asks conn).flatMap (encode codec)
  own : outbox.linesBy .container =
    (past.filterMap OutboxEvent.emitted).map codec.modelDumpJson
  whole : ∀ message ∈ past.filterMap OutboxEvent.emitted, Whole codec message

theorem faithful_init : init.Faithful codec asks [] where
  forwards := forwards_init
  spoken _ := List.nil_prefix
  own := rfl
  whole := nofun

theorem arrivedFrom_setChild_self {child : ChildConnection} :
    (outbox.setChild conn child).arrivedFrom conn = child.reader.arrived := by
  unfold arrivedFrom
  rw [children_setChild_self]

theorem arrivedFrom_setChild_of_ne {child : ChildConnection} {away : ℕ} (apart : away ≠ conn) :
    (outbox.setChild conn child).arrivedFrom away = outbox.arrivedFrom away := by
  unfold arrivedFrom
  rw [children_setChild_of_ne apart]

theorem arrivedFrom_congr (same : outbox.children = later.children) :
    outbox.arrivedFrom conn = later.arrivedFrom conn := by
  unfold arrivedFrom
  rw [same]

theorem spoken_served {child : ChildConnection} {data : List Octets}
    (faithful : outbox.Faithful codec asks past) (speaks : Speaks codec asks outbox event)
    (serves : outbox.Serves event conn child data) :
    child.reader.arrived <+: (asks conn).flatMap (encode codec) := by
  rcases serves.arrived with same | ⟨chunk, rfl, more⟩
  · rw [same]
    exact faithful.spoken conn
  · rw [more]
    exact speaks

theorem whole_of_emitted (speaks : Speaks codec asks outbox event)
    (emitted : event.emitted = some message) : Whole codec message := by
  cases event with
  | head event =>
      cases event with
      | emit => exact Option.some.inj emitted ▸ speaks
      | accept | headCloses | lose | finish => cases emitted
  | accepts | feeds | forwards | childEnds => cases emitted

/-- **One step** in which the children say what they are to say. -/
theorem Faithful.next (faithful : outbox.Faithful codec asks past)
    (speaks : Speaks codec asks outbox event) (stepped : outbox.Step codec event later) :
    later.Faithful codec asks (past ++ [event]) where
  forwards := faithful.forwards.next stepped
  spoken := by
    intro other
    rcases next_cases stepped with ⟨children, -⟩ | ⟨conn, child, data, serves, rfl⟩
    · rw [arrivedFrom_congr children]
      exact faithful.spoken other
    · by_cases own : other = conn
      · subst own
        rw [arrivedFrom_setChild_self]
        exact spoken_served faithful speaks serves
      · rw [arrivedFrom_setChild_of_ne own, arrivedFrom_congr children_forwardAll]
        exact faithful.spoken other
  own := by
    rw [List.filterMap_append, List.map_append, ← faithful.own]
    rcases next_cases stepped with ⟨-, written⟩ | ⟨conn, child, data, serves, rfl⟩
    · rw [linesBy_congr written]
      rcases emitted : event.emitted with _ | message
      · rw [List.filterMap_cons_none emitted]
        simp
      · rw [List.filterMap_cons_some emitted]
        exact linesBy_write_self
    · have apart : Author.container ≠ .child conn := nofun
      rw [linesBy_setChild, linesBy_forwardAll_of_ne apart,
        List.filterMap_cons_none serves.silent]
      simp
  whole := by
    intro message member
    rw [List.filterMap_append] at member
    rcases List.mem_append.mp member with earlier | new
    · exact faithful.whole message earlier
    · obtain ⟨last, same, emitted⟩ := List.mem_filterMap.mp new
      obtain rfl := List.mem_singleton.mp same
      exact whole_of_emitted speaks emitted

/-! ## What is read of a child -/

/-- The lines that a child is to send can be read. -/
theorem readable_dumps {messages : List WorkerMessage}
    (whole : ∀ message ∈ messages, Whole codec message) :
    Readable newline streamLimit (messages.map codec.modelDumpJson) := by
  intro line member
  obtain ⟨message, asked, rfl⟩ := List.mem_map.mp member
  exact (whole message asked).readable List.prefix_rfl

theorem joinLines_dumps (messages : List WorkerMessage) :
    messages.flatMap (encode codec) = joinLines newline (messages.map codec.modelDumpJson) := by
  rw [joinLines, List.flatMap_map]
  rfl

theorem heardOf_dumps {messages : List WorkerMessage}
    (whole : ∀ message ∈ messages, Whole codec message) :
    (messages.map codec.modelDumpJson).filterMap (heardOf codec) = messages := by
  rw [List.filterMap_map]
  calc messages.filterMap (heardOf codec ∘ codec.modelDumpJson)
    _ = messages.filterMap some :=
        List.filterMap_congr fun message member => heardOf_dump (whole message member)
    _ = messages := List.filterMap_some

section

variable {child : ChildConnection} (whole : ∀ conn, ∀ message ∈ asks conn, Whole codec message)

include whole

theorem Faithful.reads (faithful : outbox.Faithful codec asks past)
    (present : outbox.children conn = some child) :
    child.reader.Reads newline streamLimit ((asks conn).map codec.modelDumpJson) := by
  obtain ⟨events, run⟩ := faithful.forwards.fed conn child present
  refine LineReader.reads_prefix run (readable_dumps (whole conn)) ?_
  have spoken := faithful.spoken conn
  unfold arrivedFrom at spoken
  rw [present] at spoken
  rw [← joinLines_dumps]
  exact spoken

/-- What is read of a child are the first of the messages that it is to send. -/
theorem Faithful.taken_isPrefix (faithful : outbox.Faithful codec asks past)
    (present : outbox.children conn = some child) :
    child.taken.filterMap (heardOf codec) <+: asks conn := by
  have reads := faithful.reads whole present
  rw [← heardOf_dumps (whole conn)]
  unfold ChildConnection.taken
  by_cases ends : child.phase = .finished
  · rw [if_pos ends]
    refine LineReader.taken_isPrefix ?_ rfl reads (faithful.forwards.rests conn child present ends)
    intro line member
    obtain ⟨message, asked, rfl⟩ := List.mem_map.mp member
    exact uncut_heardOf (whole conn message asked)
  · rw [if_neg ends, List.append_nil]
    exact reads.isPrefix.filterMap (heardOf codec)

/-- What is taken from a child is one of its lines, or the start of one. -/
theorem Faithful.taken_starts (faithful : outbox.Faithful codec asks past)
    (present : outbox.children conn = some child) :
    ∀ data ∈ child.taken,
      data = [] ∨ ∃ message ∈ asks conn, data <+: codec.modelDumpJson message := by
  intro data taken
  have reads := faithful.reads whole present
  rcases List.mem_append.mp taken with line | last
  · obtain ⟨message, asked, rfl⟩ := List.mem_map.mp (reads.isPrefix.subset line)
    exact .inr ⟨message, asked, List.prefix_rfl⟩
  · split at last
    · next ends =>
        obtain rfl := List.mem_singleton.mp last
        have idle := faithful.forwards.rests conn child present ends
        rcases LineReader.buffer_of_idle reads idle with ⟨-, empty⟩ | ⟨line, more, split, start⟩
        · exact .inl empty
        · have member : line ∈ (asks conn).map codec.modelDumpJson := by simp [split]
          obtain ⟨message, asked, rfl⟩ := List.mem_map.mp member
          exact .inr ⟨message, asked, start⟩
    · exact absurd last List.not_mem_nil

omit whole in
theorem mem_takenFrom {data : Octets} (member : data ∈ outbox.takenFrom conn) :
    ∃ child, outbox.children conn = some child ∧ data ∈ child.taken := by
  unfold takenFrom at member
  split at member
  · next child present => exact ⟨child, present, member⟩
  · exact absurd member List.not_mem_nil

omit whole in
theorem messagesBy_child (faithful : outbox.Faithful codec asks past) (conn : ℕ) :
    outbox.messagesBy codec (.child conn) =
      (outbox.takenFrom conn).filterMap (heardOf codec) := by
  unfold messagesBy
  rw [faithful.forwards.lines conn, List.filterMap_filterMap]
  rfl

/-- The messages that were written for a child are the first of those that it is to send. -/
theorem Faithful.messagesBy_isPrefix (faithful : outbox.Faithful codec asks past) (conn : ℕ) :
    outbox.messagesBy codec (.child conn) <+: asks conn := by
  rw [messagesBy_child faithful]
  unfold takenFrom
  split
  · next child present => exact faithful.taken_isPrefix whole present
  · exact List.nil_prefix

/-- All the messages of a child are written, once they have arrived and there is nothing left to
read. -/
theorem Faithful.messagesBy_eq (faithful : outbox.Faithful codec asks past)
    (present : outbox.children conn = some child)
    (arrived : child.reader.arrived = (asks conn).flatMap (encode codec))
    (idle : LineReader.Idle newline streamLimit child.reader) :
    outbox.messagesBy codec (.child conn) = asks conn := by
  obtain ⟨events, run⟩ := faithful.forwards.fed conn child present
  have all : child.reader.lines = (asks conn).map codec.modelDumpJson :=
    LineReader.Reads.lines_eq run (readable_dumps (whole conn))
      (arrived.trans (joinLines_dumps (asks conn))) idle
  refine (faithful.messagesBy_isPrefix whole conn).eq_of_length_le ?_
  rw [messagesBy_child faithful]
  unfold takenFrom ChildConnection.taken
  rw [present]
  dsimp only
  rw [all, List.filterMap_append, heardOf_dumps (whole conn), List.length_append]
  exact Nat.le_add_right _ _

/-- Each line that is written is a message, or the start of one. -/
theorem Faithful.fragment (faithful : outbox.Faithful codec asks past) {entry : WrittenLine}
    (member : entry ∈ outbox.written) : Fragment codec entry.line := by
  have own : entry.line ∈ outbox.linesBy entry.author :=
    List.mem_map_of_mem (List.mem_filter.mpr ⟨member, by simp⟩)
  rcases author : entry.author with _ | conn
  · rw [author] at own
    rw [faithful.own] at own
    obtain ⟨message, emitted, same⟩ := List.mem_map.mp own
    exact ⟨message, faithful.whole message emitted, same ▸ List.prefix_rfl⟩
  · rw [author, faithful.forwards.lines conn] at own
    obtain ⟨data, taken, strips⟩ := List.mem_filterMap.mp own
    obtain ⟨child, present, taken⟩ := mem_takenFrom taken
    unfold forwarded at strips
    dsimp only at strips
    split at strips
    · cases strips
    · next some =>
        rw [← Option.some.inj strips]
        rcases faithful.taken_starts whole present data taken with rfl | ⟨message, asked, start⟩
        · exact absurd rfl some
        · have sound := whole conn message asked
          exact ⟨message, sound, (stripBytes_isPrefix sound start).trans start⟩

end

end Outbox

end Vcompany.Worker
