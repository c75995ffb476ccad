import Vcompany.Foundation.Sequence
import Vcompany.Foundation.Text

/-! # Patterns at the starts of lines

A pattern that begins with `^` is tried at the start of each line, on the text from there on, so
that what it matches can go over into the next lines. `searchLines` is the search, and the lemmas
say what whitespace at such a place covers: the rest of the line, and blank lines below it.
-/

namespace Vcompany.Foundation

namespace Text

/-- The lines of a text, which line feeds separate. -/
def feedLines (text : Text) : List Text := text.splitOn '\n'

/-- What stands behind a line if these lines follow. -/
def behind : List Text → Text
  | [] => []
  | line :: rest => '\n' :: (line ++ behind rest)

/-- `re.search` for a pattern with `^`: the lines before the first at which it is found, and the
result. -/
def searchLines {β : Type} (found : Text → Option β) : List Text → Option (List Text × β)
  | [] => none
  | line :: rest =>
      match found (line ++ behind rest) with
      | some result => some ([], result)
      | none => (searchLines found rest).map fun parts => (line :: parts.1, parts.2)

/-- `\s*$`: what follows the longest run of whitespace that ends where a line does. -/
def blankEnd : Text → Option Text
  | [] => some []
  | c :: rest =>
      if isSpace c then
        match blankEnd rest with
        | some text => some text
        | none => if c = '\n' then some (c :: rest) else none
      else none

variable {line : Text} {lines : List Text}

/-- No line has a line feed. -/
theorem notMem_of_mem_feedLines {text : Text} (member : line ∈ feedLines text) :
    '\n' ∉ line := by
  unfold feedLines at member
  induction text generalizing line with
  | nil =>
      rw [List.splitOn_nil] at member
      rw [List.mem_singleton.mp member]
      exact List.not_mem_nil
  | cons c text ih =>
      rw [List.splitOn_cons_eq_if_modifyHead] at member
      split at member
      · rcases List.mem_cons.mp member with rfl | later
        · exact List.not_mem_nil
        · exact ih later
      · next other =>
          obtain ⟨first, others, parts⟩ :=
            List.exists_cons_of_ne_nil (List.splitOn_ne_nil '\n' text)
          rw [parts] at member ih
          rcases List.mem_cons.mp member with rfl | later
          · rw [List.mem_cons, not_or]
            exact ⟨fun same => other (beq_iff_eq.mpr same.symm), ih List.mem_cons_self⟩
          · exact ih (List.mem_cons_of_mem first later)

theorem intercalate_eq_behind (line : Text) (lines : List Text) :
    List.intercalate ['\n'] (line :: lines) = line ++ behind lines := by
  induction lines generalizing line with
  | nil => simp [behind]
  | cons next lines ih =>
      rw [List.intercalate_cons_cons, ih, behind]
      simp

theorem feedLines_append_behind (own : '\n' ∉ line) (others : ∀ other ∈ lines, '\n' ∉ other) :
    feedLines (line ++ behind lines) = line :: lines := by
  rw [← intercalate_eq_behind]
  exact List.splitOn_intercalate '\n' (List.forall_mem_cons.mpr ⟨own, others⟩)
    (List.cons_ne_nil _ _)

theorem feedLines_behind (others : ∀ other ∈ lines, '\n' ∉ other) :
    feedLines (behind lines) = [] :: lines :=
  feedLines_append_behind List.not_mem_nil others

/-- A text without line feeds starts a line and what is behind it if it starts the line. -/
theorem prefix_append_behind_iff {start : Text} (inline : '\n' ∉ start) :
    start <+: line ++ behind lines ↔ start <+: line := by
  cases lines with
  | nil => rw [behind, List.append_nil]
  | cons next lines => exact prefix_append_cons_iff inline

theorem dropWhile_append_behind (line : Text) (lines : List Text) :
    (line ++ behind lines).dropWhile isSpace =
      if Blank line then (behind lines).dropWhile isSpace
      else line.dropWhile isSpace ++ behind lines := by
  have blank : (line.dropWhile isSpace).isEmpty = true ↔ Blank line := by
    rw [List.isEmpty_iff, List.dropWhile_eq_nil_iff]
    rfl
  rw [List.dropWhile_append]
  exact if_congr blank rfl rfl

theorem behind_append (first second : List Text) :
    behind (first ++ second) = behind first ++ behind second := by
  induction first with
  | nil => rfl
  | cons line first ih =>
      rw [List.cons_append, behind, behind, ih, List.cons_append, List.append_assoc]

theorem blank_behind (blank : ∀ line ∈ lines, Blank line) : Blank (behind lines) := by
  induction lines with
  | nil => exact fun c member => absurd member List.not_mem_nil
  | cons line lines ih =>
      obtain ⟨own, later⟩ := List.forall_mem_cons.mp blank
      refine List.forall_mem_cons.mpr ⟨by decide, fun c member => ?_⟩
      exact (List.mem_append.mp member).elim (own c) (ih later c)

/-- Blank lines are whitespace in front of a text. -/
theorem dropWhile_behind (lines : List Text) :
    (behind lines).dropWhile isSpace =
      match lines.dropWhile (Blank ·) with
      | [] => []
      | line :: rest => line.dropWhile isSpace ++ behind rest := by
  induction lines with
  | nil => rfl
  | cons line lines ih =>
      rw [behind, List.dropWhile_cons_of_pos (by decide), dropWhile_append_behind]
      by_cases blank : Blank line
      · rw [if_pos blank, ih, List.dropWhile_cons_of_pos (by simpa using blank)]
      · rw [if_neg blank, List.dropWhile_cons_of_neg (by simpa using blank)]

/-- The search finds something at the first of these lines. -/
def FoundAt {β : Type} (found : Text → Option β) : List Text → Prop
  | [] => False
  | line :: rest => found (line ++ behind rest) ≠ none

/-- What the search finds, and where. -/
theorem searchLines_eq_some_iff {β : Type} {found : Text → Option β} {before : List Text}
    {result : β} :
    searchLines found lines = some (before, result) ↔
      ∃ line rest, Leftmost (FoundAt found) lines before (line :: rest) ∧
        found (line ++ behind rest) = some result := by
  induction lines generalizing before with
  | nil =>
      refine iff_of_false (Option.some_ne_none _).symm ?_
      rintro ⟨line, rest, ⟨same, -⟩, -⟩
      cases (List.append_eq_nil_iff.mp same.symm).2
  | cons first lines ih =>
      rw [searchLines]
      rcases here : found (first ++ behind lines) with _ | own
      · simp only [Option.map_eq_some_iff, leftmost_cons_iff (FoundAt found) (not_not_intro here)]
        constructor
        · rintro ⟨⟨earlier, _⟩, searched, same⟩
          obtain ⟨rfl, rfl⟩ := Prod.mk.inj same
          obtain ⟨line, rest, first, matched⟩ := ih.mp searched
          exact ⟨line, rest, ⟨earlier, rfl, first⟩, matched⟩
        · rintro ⟨line, rest, ⟨earlier, rfl, first⟩, matched⟩
          exact ⟨(earlier, result), ih.mpr ⟨line, rest, first, matched⟩, rfl⟩
      · have start : FoundAt found (first :: lines) := by
          rw [FoundAt, here]
          exact Option.some_ne_none _
        simp only [leftmost_of_meets (FoundAt found) start]
        constructor
        · rintro ⟨⟩
          exact ⟨first, lines, ⟨rfl, rfl⟩, here⟩
        · rintro ⟨line, rest, ⟨rfl, same⟩, matched⟩
          obtain ⟨rfl, rfl⟩ := List.cons.inj same
          rw [here] at matched
          rw [Option.some.inj matched]

theorem blank_cons_iff {c : Char} : Blank (c :: line) ↔ isSpace c = true ∧ Blank line :=
  List.forall_mem_cons

/-- Whitespace that ends where a line does cannot end inside one. -/
theorem blankEnd_append {rest text : Text} (own : '\n' ∉ line)
    (ends : blankEnd rest = some text) :
    blankEnd (line ++ rest) = if Blank line then some text else none := by
  induction line with
  | nil => rw [List.nil_append, ends, if_pos (by simp [Blank])]
  | cons c line ih =>
      rw [List.mem_cons, not_or] at own
      rw [List.cons_append, blankEnd, ih own.2]
      by_cases space : isSpace c = true
      · by_cases blank : Blank line
        · rw [if_pos space, if_pos blank, if_pos (blank_cons_iff.mpr ⟨space, blank⟩)]
        · rw [if_pos space, if_neg blank, if_neg fun all => blank (blank_cons_iff.mp all).2]
          exact if_neg (Ne.symm own.1)
      · rw [if_neg space, if_neg fun all => space (blank_cons_iff.mp all).1]

/-- At the end of a line the whitespace goes on in the blank lines below. -/
theorem blankEnd_behind (others : ∀ other ∈ lines, '\n' ∉ other) :
    blankEnd (behind lines) = some (behind (lines.dropWhile (Blank ·))) := by
  induction lines with
  | nil => rfl
  | cons line lines ih =>
      obtain ⟨own, later⟩ := List.forall_mem_cons.mp others
      rw [behind, blankEnd, if_pos (by decide), blankEnd_append own (ih later)]
      by_cases blank : Blank line
      · rw [if_pos blank, List.dropWhile_cons_of_pos (by simpa using blank)]
      · rw [if_neg blank, List.dropWhile_cons_of_neg (by simpa using blank)]
        rfl

end Text

end Vcompany.Foundation
