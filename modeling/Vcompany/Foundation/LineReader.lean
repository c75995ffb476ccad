import Vcompany.Foundation.Transition
import Mathlib.Data.List.Basic

/-! # Reading lines with a length limit

A reader collects what arrives on a stream in a buffer and takes lines from it,
each up to a separator. A line that is longer than the limit, or that fills the
buffer beyond the limit before its separator arrives, makes it fail.

However the stream is cut into chunks and however their arrival interleaves with
the reads, a reader that has nothing left to do has read the lines of the stream
exactly when none of them is too long (`LineReader.reads_iff`).
-/

namespace Vcompany.Foundation

variable {α : Type} [DecidableEq α]

/-- The outcome of an attempt to read a line. -/
inductive ReadOutcome (α : Type) where
  | line (body rest : List α)
  | overrun (rest : List α)
  | wait
  deriving DecidableEq

/-- An attempt to read a line from a buffer. A line that is too long is dropped, and
so is a buffer without a separator. -/
def readline (sep : α) (limit : ℕ) (buffer : List α) : ReadOutcome α :=
  if sep ∈ buffer then
    let body := buffer.takeWhile fun c => c ≠ sep
    let rest := (buffer.dropWhile fun c => c ≠ sep).drop 1
    if body.length ≤ limit then .line body rest else .overrun rest
  else if buffer.length ≤ limit then .wait
  else .overrun []

/-- The lines of a stream, each followed by the separator. -/
def joinLines (sep : α) (lines : List (List α)) : List α := lines.flatMap fun line => line ++ [sep]

/-- A reader, with all that has arrived on its stream. -/
structure LineReader (α : Type) where
  arrived : List α
  buffer : List α
  lines : List (List α)
  failed : Bool

inductive ReaderEvent (α : Type) where
  | feed (chunk : List α)
  | read

namespace LineReader

variable {sep : α} {limit : ℕ}

/-- The reader of a stream on which nothing has arrived. -/
def init : LineReader α where
  arrived := []
  buffer := []
  lines := []
  failed := false

/-- A chunk arrives, or the reader reads a line; it waits while there is none. -/
def next (sep : α) (limit : ℕ) (reader : LineReader α) : ReaderEvent α → Option (LineReader α)
  | .feed chunk =>
      some { reader with arrived := reader.arrived ++ chunk, buffer := reader.buffer ++ chunk }
  | .read =>
      if reader.failed then none
      else match readline sep limit reader.buffer with
        | .line body rest => some { reader with buffer := rest, lines := reader.lines ++ [body] }
        | .overrun rest => some { reader with buffer := rest, failed := true }
        | .wait => none

def Step (sep : α) (limit : ℕ) (reader : LineReader α) (event : ReaderEvent α)
    (later : LineReader α) : Prop :=
  next sep limit reader event = some later

/-- The reader has nothing left to do. -/
def Idle (sep : α) (limit : ℕ) (reader : LineReader α) : Prop :=
  next sep limit reader .read = none

end LineReader

/-! ## One line -/

variable {sep : α} {limit : ℕ}

theorem readline_append_cons {body : List α} (absent : sep ∉ body) (rest : List α) :
    readline sep limit (body ++ sep :: rest) =
      if body.length ≤ limit then .line body rest else .overrun rest := by
  have solid : ∀ c ∈ body, decide (c ≠ sep) = true := fun c member =>
    decide_eq_true fun same => absent (same ▸ member)
  have line : (body ++ sep :: rest).takeWhile (fun c => c ≠ sep) = body := by
    rw [List.takeWhile_append_of_pos solid]
    simp
  have left : (body ++ sep :: rest).dropWhile (fun c => c ≠ sep) = sep :: rest := by
    rw [List.dropWhile_append_of_pos solid]
    simp
  unfold readline
  rw [if_pos (by simp)]
  dsimp only
  rw [line, left]
  rfl

theorem readline_of_notMem {buffer : List α} (absent : sep ∉ buffer) :
    readline sep limit buffer = if buffer.length ≤ limit then .wait else .overrun [] :=
  if_neg absent

/-- A buffer is a first line with what follows it, or part of a line. -/
theorem readline_cases (sep : α) (limit : ℕ) (buffer : List α) :
    (∃ body rest, buffer = body ++ sep :: rest ∧ sep ∉ body ∧
      readline sep limit buffer = if body.length ≤ limit then .line body rest else .overrun rest) ∨
    (sep ∉ buffer ∧
      readline sep limit buffer = if buffer.length ≤ limit then .wait else .overrun []) := by
  by_cases member : sep ∈ buffer
  · obtain ⟨body, rest, rfl, absent⟩ := List.eq_append_cons_of_mem member
    exact Or.inl ⟨body, rest, rfl, absent, readline_append_cons absent rest⟩
  · exact Or.inr ⟨member, readline_of_notMem member⟩

/-! ## Lines of a stream -/

omit [DecidableEq α] in
/-- Texts that lack the separator are told apart by it. -/
theorem append_sep_inj {first second rest more : List α} (absent : sep ∉ first)
    (alsoAbsent : sep ∉ second) (same : first ++ sep :: rest = second ++ sep :: more) :
    first = second ∧ rest = more := by
  induction first generalizing second with
  | nil =>
      cases second with
      | nil => exact ⟨rfl, (List.cons.inj same).2⟩
      | cons c second => exact absurd (by simp [(List.cons.inj same).1]) alsoAbsent
  | cons c first ih =>
      cases second with
      | nil => exact absurd (by simp [(List.cons.inj same).1]) absent
      | cons d second =>
          obtain ⟨rfl, inner⟩ := List.cons.inj same
          obtain ⟨rfl, tails⟩ := ih (fun member => absent (List.mem_cons_of_mem c member))
            (fun member => alsoAbsent (List.mem_cons_of_mem c member)) inner
          exact ⟨rfl, tails⟩

omit [DecidableEq α] in
/-- A start of a line that ends in the separator is the whole line. -/
theorem eq_line_of_prefix {body part : List α} (absent : sep ∉ body)
    (start : part <+: body ++ [sep]) (ended : part.getLast? = some sep) : part = body ++ [sep] := by
  rcases List.prefix_concat_iff.mp start with whole | within
  · exact whole
  · exact absurd (within.subset (List.mem_of_getLast? ended)) absent

omit [DecidableEq α] in
theorem joinLines_cons (line : List α) (lines : List (List α)) :
    joinLines sep (line :: lines) = line ++ sep :: joinLines sep lines := by
  simp [joinLines]

omit [DecidableEq α] in
theorem joinLines_append (first second : List (List α)) :
    joinLines sep (first ++ second) = joinLines sep first ++ joinLines sep second :=
  List.flatMap_append

omit [DecidableEq α] in
/-- A stream that starts with given lines consists of them and the lines after. -/
theorem lines_of_joinLines_append_eq {first all : List (List α)} {tail : List α}
    (firstSolid : ∀ line ∈ first, sep ∉ line) (allSolid : ∀ line ∈ all, sep ∉ line)
    (same : joinLines sep first ++ tail = joinLines sep all) :
    ∃ rest, all = first ++ rest ∧ tail = joinLines sep rest := by
  induction first generalizing all with
  | nil => exact ⟨all, rfl, same⟩
  | cons line first ih =>
      cases all with
      | nil => simp [joinLines] at same
      | cons other all =>
          rw [List.forall_mem_cons] at firstSolid allSolid
          rw [joinLines_cons, joinLines_cons, List.append_assoc, List.cons_append] at same
          obtain ⟨rfl, inner⟩ := append_sep_inj firstSolid.1 allSolid.1 same
          obtain ⟨rest, rfl, rfl⟩ := ih firstSolid.2 allSolid.2 inner
          exact ⟨rest, rfl, rfl⟩

namespace LineReader

/-- What a reader has read: the lines at the start of the stream, none of them too
long, with the rest of the stream in the buffer. -/
def Faithful (sep : α) (limit : ℕ) (reader : LineReader α) : Prop :=
  (∀ line ∈ reader.lines, sep ∉ line ∧ line.length ≤ limit) ∧
    (reader.failed = false → joinLines sep reader.lines ++ reader.buffer = reader.arrived)

/-- The reader did not fail if the stream starts with what has arrived. -/
def Survives (sep : α) (all : List (List α)) (reader : LineReader α) : Prop :=
  reader.arrived <+: joinLines sep all → reader.failed = false

/-- What a read does: it takes the first line, or fails at one that is too long. -/
theorem read_cases {reader later : LineReader α} (moved : Step sep limit reader .read later) :
    reader.failed = false ∧
      ((∃ body rest, reader.buffer = body ++ sep :: rest ∧ sep ∉ body ∧ body.length ≤ limit ∧
          later = { reader with buffer := rest, lines := reader.lines ++ [body] }) ∨
        ∃ dropped, readline sep limit reader.buffer = .overrun dropped ∧
          later = { reader with buffer := dropped, failed := true }) := by
  unfold Step next at moved
  dsimp only at moved
  split at moved
  · cases moved
  · next alive =>
      refine ⟨Bool.eq_false_iff.mpr alive, ?_⟩
      rcases readline_cases sep limit reader.buffer with
        ⟨body, rest, filled, absent, outcome⟩ | ⟨_, outcome⟩
      · by_cases short : body.length ≤ limit
        · rw [outcome, if_pos short] at moved
          exact .inl ⟨body, rest, filled, absent, short, (Option.some.inj moved).symm⟩
        · rw [outcome, if_neg short] at moved
          exact .inr ⟨rest, outcome.trans (if_neg short), (Option.some.inj moved).symm⟩
      · by_cases short : reader.buffer.length ≤ limit
        · rw [outcome, if_pos short] at moved
          cases moved
        · rw [outcome, if_neg short] at moved
          exact .inr ⟨[], outcome.trans (if_neg short), (Option.some.inj moved).symm⟩

/-- A reader that did not fail takes a line that is there. -/
theorem step_line {reader : LineReader α} {line rest : List α} (alive : reader.failed = false)
    (found : readline sep limit reader.buffer = .line line rest) :
    Step sep limit reader .read
      { reader with buffer := rest, lines := reader.lines ++ [line] } := by
  simp [Step, next, alive, found]

theorem step_overrun {reader : LineReader α} {rest : List α} (alive : reader.failed = false)
    (found : readline sep limit reader.buffer = .overrun rest) :
    Step sep limit reader .read { reader with buffer := rest, failed := true } := by
  simp [Step, next, alive, found]

theorem read_arrived {reader later : LineReader α} (moved : Step sep limit reader .read later) :
    later.arrived = reader.arrived := by
  obtain ⟨-, ⟨_, _, -, -, -, rfl⟩ | ⟨_, -, rfl⟩⟩ := read_cases moved
  · rfl
  · rfl

theorem faithful_step {reader later : LineReader α} {event : ReaderEvent α}
    (faithful : Faithful sep limit reader) (moved : Step sep limit reader event later) :
    Faithful sep limit later := by
  obtain ⟨solid, split⟩ := faithful
  cases event with
  | feed chunk =>
      cases Option.some.inj moved
      exact ⟨solid, fun alive => by rw [← split alive, List.append_assoc]⟩
  | read =>
      obtain ⟨alive, ⟨body, rest, filled, absent, short, rfl⟩ | ⟨_, -, rfl⟩⟩ := read_cases moved
      · refine ⟨List.forall_mem_append.mpr ⟨solid, ?_⟩, fun _ => ?_⟩
        · exact List.forall_mem_singleton.mpr ⟨absent, short⟩
        · rw [← split alive, filled, joinLines_append]
          simp [joinLines]
      · exact ⟨solid, nofun⟩

theorem faithful_run {reader : LineReader α} {events : List (ReaderEvent α)}
    (run : Run (Step sep limit) init events reader) : Faithful sep limit reader :=
  run.invariant (Faithful sep limit) (fun _ _ _ holds moved => faithful_step holds moved)
    ⟨nofun, fun _ => rfl⟩

/-- What has arrived of a stream of short lines holds no line that is too long. -/
theorem readline_ne_overrun {rest : List (List α)} {buffer remaining : List α}
    (solid : ∀ line ∈ rest, sep ∉ line) (short : ∀ line ∈ rest, line.length ≤ limit)
    (ahead : buffer ++ remaining = joinLines sep rest) (dropped : List α) :
    readline sep limit buffer ≠ .overrun dropped := by
  rcases readline_cases sep limit buffer with ⟨body, more, rfl, absent, outcome⟩ | ⟨absent, outcome⟩
  · cases rest with
    | nil => simp [joinLines] at ahead
    | cons line rest =>
        rw [joinLines_cons, List.append_assoc, List.cons_append] at ahead
        obtain ⟨rfl, -⟩ := append_sep_inj absent (solid line List.mem_cons_self) ahead
        rw [outcome, if_pos (short body List.mem_cons_self)]
        exact nofun
  · have fitting : buffer.length ≤ limit := by
      cases rest with
      | nil =>
          obtain ⟨rfl, -⟩ := List.append_eq_nil_iff.mp ahead
          exact Nat.zero_le limit
      | cons line rest =>
          rw [joinLines_cons] at ahead
          have start : buffer <+: line ++ sep :: joinLines sep rest := ⟨remaining, ahead⟩
          rcases List.prefix_or_prefix_of_prefix start (List.prefix_append line _) with
            inner | ⟨tail, rfl⟩
          · exact inner.length_le.trans (short line List.mem_cons_self)
          · cases tail with
            | nil =>
                rw [List.append_nil]
                exact short line List.mem_cons_self
            | cons c tail =>
                -- the buffer lacks the separator, so it does not reach over the line
                rw [List.prefix_append_right_inj] at start
                obtain rfl : c = sep := (List.cons_prefix_cons.mp start).1
                exact absurd (List.mem_append_right line List.mem_cons_self) absent
    rw [outcome, if_pos fitting]
    exact nofun

/-- A reader does not fail on a stream of short lines. -/
theorem survives_step {all : List (List α)} {reader later : LineReader α} {event : ReaderEvent α}
    (solid : ∀ line ∈ all, sep ∉ line) (short : ∀ line ∈ all, line.length ≤ limit)
    (faithful : Faithful sep limit reader) (survives : Survives sep all reader)
    (moved : Step sep limit reader event later) : Survives sep all later := by
  cases event with
  | feed chunk =>
      cases Option.some.inj moved
      exact fun start => survives ((List.prefix_append _ _).trans start)
  | read =>
      intro start
      rw [read_arrived moved] at start
      obtain ⟨remaining, whole⟩ := start
      obtain ⟨alive, ⟨_, _, -, -, -, rfl⟩ | ⟨dropped, overrun, rfl⟩⟩ := read_cases moved
      · exact alive
      · rw [← faithful.2 alive, List.append_assoc] at whole
        obtain ⟨rest, rfl, ahead⟩ := lines_of_joinLines_append_eq
          (fun line member => (faithful.1 line member).1) solid whole
        rw [List.forall_mem_append] at solid short
        exact absurd overrun (readline_ne_overrun solid.2 short.2 ahead dropped)

variable {events : List (ReaderEvent α)} {reader : LineReader α}

/-- An idle reader that did not fail has read every complete line. -/
theorem lines_eq_of_idle {all : List (List α)} (solid : ∀ line ∈ all, sep ∉ line)
    (faithful : Faithful sep limit reader) (arrived : reader.arrived = joinLines sep all)
    (idle : Idle sep limit reader) (alive : reader.failed = false) : reader.lines = all := by
  have whole := faithful.2 alive
  rw [arrived] at whole
  obtain ⟨rest, rfl, ahead⟩ := lines_of_joinLines_append_eq
    (fun line member => (faithful.1 line member).1) solid whole
  unfold Idle next at idle
  simp only [alive, Bool.false_eq_true, if_false] at idle
  cases rest with
  | nil => exact (List.append_nil _).symm
  | cons line rest =>
      rw [joinLines_cons] at ahead
      have own : line ∈ reader.lines ++ line :: rest := by simp
      rw [ahead, readline_append_cons (solid line own)] at idle
      by_cases short : line.length ≤ limit
      · simp [short] at idle
      · simp [short] at idle

/-- On a stream that starts as one of short lines does, a reader does not fail. -/
theorem alive_of_short (run : Run (Step sep limit) init events reader) {all : List (List α)}
    (solid : ∀ line ∈ all, sep ∉ line) (short : ∀ line ∈ all, line.length ≤ limit)
    (start : reader.arrived <+: joinLines sep all) : reader.failed = false := by
  have survives : Faithful sep limit reader ∧ Survives sep all reader :=
    run.invariant (fun reader => Faithful sep limit reader ∧ Survives sep all reader)
      (fun _ _ _ holds moved => ⟨faithful_step holds.1 moved,
        survives_step solid short holds.1 holds.2 moved⟩)
      ⟨⟨nofun, fun _ => rfl⟩, fun _ => rfl⟩
  exact survives.2 start

omit [DecidableEq α] in
/-- A reader that did not fail has read the first lines of its stream. -/
theorem lines_isPrefix {all : List (List α)} (solid : ∀ line ∈ all, sep ∉ line)
    (faithful : Faithful sep limit reader) (arrived : reader.arrived = joinLines sep all)
    (alive : reader.failed = false) : reader.lines <+: all := by
  have whole := faithful.2 alive
  rw [arrived] at whole
  obtain ⟨rest, rfl, -⟩ := lines_of_joinLines_append_eq
    (fun line member => (faithful.1 line member).1) solid whole
  exact List.prefix_append reader.lines rest

/-- **Reading a stream.** An idle reader has read exactly the lines of its stream
and did not fail, if and only if none of them is too long. -/
theorem reads_iff (run : Run (Step sep limit) init events reader) {all : List (List α)}
    (solid : ∀ line ∈ all, sep ∉ line) (arrived : reader.arrived = joinLines sep all)
    (idle : Idle sep limit reader) :
    (reader.lines = all ∧ reader.failed = false) ↔ ∀ line ∈ all, line.length ≤ limit := by
  have faithful := faithful_run run
  constructor
  · rintro ⟨rfl, _⟩ line member
    exact (faithful.1 line member).2
  · intro short
    have alive := alive_of_short run solid short (arrived ▸ List.prefix_rfl)
    exact ⟨lines_eq_of_idle solid faithful arrived idle alive, alive⟩

/-- A read leaves less in the buffer, or is the last one. -/
theorem read_shrinks {reader later : LineReader α} (moved : Step sep limit reader .read later) :
    later.arrived = reader.arrived ∧
      (later.failed = true ∨ later.buffer.length < reader.buffer.length) := by
  refine ⟨read_arrived moved, ?_⟩
  obtain ⟨-, ⟨body, rest, filled, -, -, rfl⟩ | ⟨_, -, rfl⟩⟩ := read_cases moved
  · right
    dsimp only
    rw [filled, List.length_append, List.length_cons]
    omega
  · exact .inl rfl

/-- A run may begin with the arrival of chunks. -/
theorem run_feed {chunks : List (List α)} {events : List (ReaderEvent α)}
    {reader later : LineReader α}
    (run : Run (Step sep limit) { reader with
      arrived := reader.arrived ++ chunks.flatten
      buffer := reader.buffer ++ chunks.flatten } events later) :
    Run (Step sep limit) reader (chunks.map .feed ++ events) later := by
  induction chunks generalizing reader with
  | nil => simpa using run
  | cons chunk chunks ih =>
      have fed : Step sep limit reader (.feed chunk) { reader with
          arrived := reader.arrived ++ chunk, buffer := reader.buffer ++ chunk } := rfl
      refine .cons fed (ih ?_)
      simpa only [List.flatten_cons, List.append_assoc] using run

/-- A reader becomes idle by reading on. -/
theorem exists_idle (sep : α) (limit : ℕ) (reader : LineReader α) :
    ∃ events later, Run (Step sep limit) reader events later ∧ Idle sep limit later ∧
      later.arrived = reader.arrived := by
  cases read : next sep limit reader .read with
  | none => exact ⟨[], reader, .nil reader, read, rfl⟩
  | some middle =>
      obtain ⟨sameArrived, failed | shorter⟩ := read_shrinks read
      · refine ⟨[.read], middle, .cons read (.nil middle), ?_, sameArrived⟩
        simp [Idle, next, failed]
      · obtain ⟨events, later, run, idle, arrived⟩ := exists_idle sep limit middle
        exact ⟨.read :: events, later, .cons read run, idle, arrived.trans sameArrived⟩
  termination_by reader.buffer.length

end LineReader

end Vcompany.Foundation
