import Vcompany.Foundation.LineReader

/-! # Streams that are cut

A writer writes short lines, and a reader has got the stream up to some point, which may lie
inside of a line. The reader does not fail. It has read the first lines (`reads_prefix`), and when
it has nothing left to do, what is left in its buffer is the start of the next line
(`buffer_of_idle`). So if nothing is read from the start of a line, whoever also takes what is left
at the end of the stream reads no more than what was written (`taken_isPrefix`).
-/

namespace Vcompany.Foundation

variable {α : Type} [DecidableEq α] {sep : α} {limit : ℕ}

/-- The lines can be read: they lack the separator and are not too long. -/
def Readable (sep : α) (limit : ℕ) (lines : List (List α)) : Prop :=
  ∀ line ∈ lines, sep ∉ line ∧ line.length ≤ limit

omit [DecidableEq α] in
theorem Readable.of_append {first second : List (List α)}
    (readable : Readable sep limit (first ++ second)) :
    Readable sep limit first ∧ Readable sep limit second :=
  List.forall_mem_append.mp readable

namespace LineReader

/-- A read, with the line that it gives, unless it fails. -/
def take (sep : α) (limit : ℕ) (reader : LineReader α) : Option (Option (List α) × LineReader α) :=
  (reader.next sep limit .read).map fun later => (later.lines[reader.lines.length]?, later)

variable {reader later : LineReader α} {event : ReaderEvent α} {line : List α}

theorem take_cases {given : Option (List α)} (took : reader.take sep limit = some (given, later)) :
    Step sep limit reader .read later ∧
      (given = none ∧ later.failed = true ∧ later.lines = reader.lines ∨
        ∃ line, given = some line ∧ later.failed = false ∧
          later.lines = reader.lines ++ [line]) := by
  obtain ⟨next, moved, same⟩ := Option.map_eq_some_iff.mp took
  obtain ⟨rfl, rfl⟩ := Prod.mk.inj same
  refine ⟨moved, ?_⟩
  obtain ⟨alive, ⟨body, rest, -, -, -, rfl⟩ | ⟨dropped, -, rfl⟩⟩ := read_cases moved
  · exact .inr ⟨body, List.getElem?_concat_length, alive, rfl⟩
  · exact .inl ⟨List.getElem?_eq_none le_rfl, rfl, rfl⟩

theorem idle_iff_take : Idle sep limit reader ↔ reader.take sep limit = none :=
  Option.map_eq_none_iff.symm

/-- What can be said of a reader whose stream holds readable lines, as far as it has arrived. -/
structure Reads (sep : α) (limit : ℕ) (reader : LineReader α) (all : List (List α)) : Prop where
  alive : reader.failed = false
  rest : ∃ rest, all = reader.lines ++ rest ∧ reader.buffer <+: joinLines sep rest

/-- A reader that has got a part of readable lines has read the first of them. -/
theorem reads_prefix {events : List (ReaderEvent α)} {all : List (List α)}
    (run : Run (Step sep limit) init events reader) (readable : Readable sep limit all)
    (arrived : reader.arrived <+: joinLines sep all) : reader.Reads sep limit all := by
  have solid : ∀ line ∈ all, sep ∉ line := fun line member => (readable line member).1
  have short : ∀ line ∈ all, line.length ≤ limit := fun line member => (readable line member).2
  have kept : Faithful sep limit reader ∧ Survives sep all reader :=
    run.invariant (fun reader => Faithful sep limit reader ∧ Survives sep all reader)
      (fun _ _ _ holds moved => ⟨faithful_step holds.1 moved,
        survives_step solid short holds.1 holds.2 moved⟩)
      ⟨⟨nofun, fun _ => rfl⟩, fun _ => rfl⟩
  have alive := kept.2 arrived
  refine ⟨alive, ?_⟩
  obtain ⟨remaining, whole⟩ := arrived
  rw [← kept.1.2 alive, List.append_assoc] at whole
  obtain ⟨rest, split, ahead⟩ := lines_of_joinLines_append_eq
    (fun line member => (kept.1.1 line member).1) solid whole
  exact ⟨rest, split, remaining, ahead⟩

omit [DecidableEq α] in
theorem Reads.isPrefix {all : List (List α)} (reads : reader.Reads sep limit all) :
    reader.lines <+: all := by
  obtain ⟨rest, split, -⟩ := reads.rest
  exact ⟨rest, split.symm⟩

omit [DecidableEq α] in
/-- A part of a stream that lacks the separator lies in the first line. -/
theorem isPrefix_of_notMem {part : List α} {rest : List (List α)} (absent : sep ∉ part)
    (start : part <+: joinLines sep (line :: rest)) : part <+: line := by
  rw [joinLines_cons] at start
  rcases List.prefix_or_prefix_of_prefix start (List.prefix_append line _) with inner | ⟨tail, rfl⟩
  · exact inner
  · cases tail with
    | nil => exact ⟨[], by simp⟩
    | cons c tail =>
        rw [List.prefix_append_right_inj] at start
        obtain rfl : c = sep := (List.cons_prefix_cons.mp start).1
        exact absurd (List.mem_append_right line List.mem_cons_self) absent

theorem notMem_of_idle (alive : reader.failed = false) (idle : Idle sep limit reader) :
    sep ∉ reader.buffer := by
  intro member
  obtain ⟨body, rest, filled, absent⟩ := List.eq_append_cons_of_mem member
  unfold Idle next at idle
  simp only [alive, Bool.false_eq_true, if_false] at idle
  rw [filled, readline_append_cons absent] at idle
  by_cases short : body.length ≤ limit
  · simp [short] at idle
  · simp [short] at idle

/-- When there is nothing left to do, the buffer holds the start of the next line. -/
theorem buffer_of_idle {all : List (List α)} (reads : reader.Reads sep limit all)
    (idle : Idle sep limit reader) :
    (reader.lines = all ∧ reader.buffer = []) ∨
      ∃ line more, all = reader.lines ++ line :: more ∧ reader.buffer <+: line := by
  obtain ⟨rest, split, start⟩ := reads.rest
  cases rest with
  | nil => exact .inl ⟨by simpa using split.symm, List.prefix_nil.mp start⟩
  | cons line more =>
      exact .inr ⟨line, more, split, isPrefix_of_notMem (notMem_of_idle reads.alive idle) start⟩

/-- A reader with the whole stream has read all the lines when there is nothing left to do. -/
theorem Reads.lines_eq {events : List (ReaderEvent α)} {all : List (List α)}
    (run : Run (Step sep limit) init events reader) (readable : Readable sep limit all)
    (arrived : reader.arrived = joinLines sep all) (idle : Idle sep limit reader) :
    reader.lines = all :=
  ((reads_iff run (fun line member => (readable line member).1) arrived idle).mpr
    fun line member => (readable line member).2).1

variable {β : Type} {read : List α → Option β}

/-- Nothing is read of a line of which only the start has arrived. -/
def Uncut (read : List α → Option β) (line : List α) : Prop :=
  ∀ part, part <+: line → part = line ∨ read part = none

/-- What is read from the lines, and from what is left behind them at the end of the stream, is
what would be read from the first of all lines. -/
theorem taken_isPrefix {all : List (List α)} (uncut : ∀ line ∈ all, Uncut read line)
    (blank : read [] = none) (reads : reader.Reads sep limit all)
    (idle : Idle sep limit reader) :
    (reader.lines ++ [reader.buffer]).filterMap read <+: all.filterMap read := by
  rw [List.filterMap_append]
  rcases buffer_of_idle reads idle with ⟨whole, empty⟩ | ⟨line, more, split, start⟩
  · rw [whole, empty, List.filterMap_cons_none blank, List.filterMap_nil, List.append_nil]
  · rw [split, List.filterMap_append, List.prefix_append_right_inj]
    have member : line ∈ all := by simp [split]
    rcases uncut line member _ start with same | nothing
    · rw [same]
      exact (List.prefix_append [line] more).filterMap read
    · rw [List.filterMap_cons_none nothing]
      exact List.nil_prefix

end LineReader

end Vcompany.Foundation
