import Vcompany.Foundation.Text
import Mathlib.Data.List.Basic

/-! # Texts made of lines

A needle without line breaks occurs in a text made of lines exactly when it occurs in one of
them. A needle is not found where one of its characters is missing. A line ends at a line break,
and trimming takes whitespace away at both ends.
-/

namespace Vcompany.Foundation

namespace Text

variable {needle : Text}

/-- A needle is not found in a text whose lower case lacks one of its characters. -/
theorem not_mentions_of_lacks {text : Text} {c : Char} (member : c ∈ needle)
    (lacks : c ∉ fold text) : ¬ Mentions needle text :=
  fun mentioned => lacks (mentioned.subset member)

/-- Nothing before the first character of a needle matters. -/
theorem mentions_append_of_lacks {before : Text} {c : Char} (lacks : c ∉ fold before)
    (text : Text) :
    Mentions (c :: needle) (before ++ text) ↔ Mentions (c :: needle) text := by
  unfold Mentions
  rw [fold_append]
  generalize fold before = image at lacks
  induction image with
  | nil => rfl
  | cons d image ih =>
      obtain ⟨other, later⟩ := not_or.mp (mt List.mem_cons.mpr lacks)
      rw [List.cons_append, List.infix_cons_iff, ih later, or_iff_right]
      exact fun start => other (List.cons_prefix_cons.mp start).1

/-- The characters of a lower case are those of the lower case of a character. -/
theorem mem_fold_iff {text : Text} {c : Char} :
    c ∈ fold text ↔ ∃ d ∈ text, c ∈ (asciiLower d).getD [d] := List.mem_flatMap

/-- Two parts of a text separated by a character that is its own lower case. -/
private theorem mentions_append_break_iff {before after : Text} {c : Char} (absent : c ∉ needle)
    (alone : (asciiLower c).getD [c] = [c]) :
    Mentions needle (before ++ c :: after) ↔ Mentions needle before ∨ Mentions needle after := by
  simp only [Mentions, fold_append, fold_cons, alone, List.singleton_append]
  exact infix_append_cons_iff absent

/-- Lines joined to a text mention a needle without line feeds exactly when one does. -/
theorem mentions_lines_iff (inhabited : needle ≠ []) (absent : '\n' ∉ needle)
    (lines : List Text) :
    Mentions needle (List.intercalate ['\n'] lines) ↔ ∃ line ∈ lines, Mentions needle line := by
  induction lines with
  | nil => simp [List.intercalate, mentions_nil inhabited]
  | cons line rest ih =>
      cases rest with
      | nil => simp
      | cons next rest =>
          rw [List.intercalate_cons_cons, List.append_assoc, List.singleton_append,
            mentions_append_cons_iff absent (by decide), ih]
          simp only [List.mem_cons, exists_eq_or_imp]

/-- A character that ends a line is whitespace. -/
theorem isSpace_of_isLineBreak (c : Char) (ends : isLineBreak c = true) : isSpace c = true := by
  simp only [isLineBreak, isSpace, Bool.or_eq_true, Bool.and_eq_true, decide_eq_true_eq,
    beq_iff_eq] at ends ⊢
  omega

/-- A character that ends a line is its own lower case. -/
private theorem lineBreak_alone {c : Char} (ends : isLineBreak c = true) :
    (asciiLower c).getD [c] = [c] := by
  have same : c = Char.ofNat c.toNat := c.ofNat_toNat.symm
  have codes : c.toNat = 10 ∨ c.toNat = 11 ∨ c.toNat = 12 ∨ c.toNat = 13 ∨ c.toNat = 28 ∨
      c.toNat = 29 ∨ c.toNat = 30 ∨ c.toNat = 0x85 ∨ c.toNat = 0x2028 ∨ c.toNat = 0x2029 := by
    simp only [isLineBreak, Bool.or_eq_true, Bool.and_eq_true, decide_eq_true_eq, beq_iff_eq]
      at ends
    omega
  rcases codes with code | code | code | code | code | code | code | code | code | code <;>
    (rw [same, code]; decide)

/-- The lines of a text mention a needle without line breaks exactly when the text does. -/
theorem mentions_splitlines_iff (inhabited : needle ≠ [])
    (absent : ∀ c ∈ needle, isLineBreak c = false) (text : Text) :
    (∃ line ∈ splitlines text, Mentions needle line) ↔ Mentions needle text := by
  have lacks {c : Char} (ends : isLineBreak c = true) : c ∉ needle := by
    intro member
    rw [absent c member] at ends
    exact Bool.false_ne_true ends
  have from_line (line : Text) :
      (∃ found ∈ splitlinesFrom line text, Mentions needle found) ↔
        Mentions needle (line.reverse ++ text) := by
    fun_induction splitlinesFrom line text with
    | case1 line empty =>
        obtain rfl := List.isEmpty_iff.mp empty
        simp [mentions_nil inhabited]
    | case2 line => simp
    | case3 line rest ih =>
        rw [mentions_append_break_iff (lacks (by decide)) (by decide),
          mentions_cons_iff inhabited (lacks (by decide)) (by decide)]
        simp only [List.mem_cons, exists_eq_or_imp]
        rw [ih]
        rfl
    | case4 line c rest _ ends ih =>
        rw [mentions_append_break_iff (lacks ends) (lineBreak_alone ends)]
        simp only [List.mem_cons, exists_eq_or_imp]
        rw [ih]
        rfl
    | case5 line c rest _ _ ih =>
        rw [ih, List.reverse_cons, List.append_assoc, List.singleton_append]
  exact from_line []

/-! ## The lines of a text -/

/-- A line ends at its first line break. -/
theorem splitlines_append_break {line : Text} {c : Char}
    (plain : ∀ d ∈ line, isLineBreak d = false) (ends : isLineBreak c = true)
    (feed : c ≠ '\r') (rest : Text) :
    splitlines (line ++ c :: rest) = line :: splitlines rest := by
  have from_start (start : Text) :
      splitlinesFrom start (line ++ c :: rest) = (start.reverse ++ line) :: splitlines rest := by
    induction line generalizing start with
    | nil =>
        rw [List.nil_append, splitlinesFrom, if_pos ends, List.append_nil]
        · rfl
        · exact fun _ same _ => feed same
    | cons d line ih =>
        obtain ⟨solid, later⟩ := List.forall_mem_cons.mp plain
        have inside : ¬ isLineBreak d = true := by rw [solid]; exact Bool.false_ne_true
        rw [List.cons_append, splitlinesFrom, if_neg inside, ih later]
        · simp
        · rintro _ rfl _
          exact inside (by decide)
  exact from_start []

/-- A text has no line break, or it is cut at its first one. -/
theorem exists_cut_lineBreak (text : Text) :
    (∀ c ∈ text, isLineBreak c = false) ∨
      ∃ line c rest, text = line ++ c :: rest ∧ isLineBreak c = true ∧
        ∀ d ∈ line, isLineBreak d = false := by
  induction text with
  | nil => exact .inl (by simp)
  | cons c text ih =>
      rcases ends : isLineBreak c with _ | _
      · rcases ih with plain | ⟨line, d, rest, rfl, breaks, plain⟩
        · exact .inl (List.forall_mem_cons.mpr ⟨ends, plain⟩)
        · exact .inr ⟨c :: line, d, rest, rfl, breaks, List.forall_mem_cons.mpr ⟨ends, plain⟩⟩
      · exact .inr ⟨[], c, text, rfl, ends, by simp⟩

/-! ## Trimming -/

/-- Nothing is trimmed from a text that starts and ends with other characters. -/
theorem strip_of_solid {first last : Char} (starts : isSpace first = false)
    (ends : isSpace last = false) (between : Text) :
    strip (first :: between ++ [last]) = first :: between ++ [last] := by
  rw [strip, List.cons_append, List.dropWhile_cons_of_neg (by simp [starts]), ← List.cons_append,
    List.rdropWhile_concat_neg _ _ _ (by simp [ends])]

/-- A line feed behind such a text is trimmed. -/
theorem strip_append_newline {first last : Char} (starts : isSpace first = false)
    (ends : isSpace last = false) (between : Text) :
    strip (first :: between ++ [last] ++ ['\n']) = first :: between ++ [last] := by
  rw [strip, List.cons_append, List.cons_append, List.dropWhile_cons_of_neg (by simp [starts]),
    ← List.cons_append, List.rdropWhile_concat_pos _ _ _ (by decide), ← List.cons_append,
    List.rdropWhile_concat_neg _ _ _ (by simp [ends])]

/-- Behind such a text, what follows is trimmed at its end alone. -/
theorem strip_append_of_solid {first last : Char} (starts : isSpace first = false)
    (ends : isSpace last = false) (between after : Text) :
    ∃ rest, strip (first :: between ++ [last] ++ after) = first :: between ++ [last] ++ rest := by
  have trimmed : ∃ rest, (first :: between ++ [last] ++ after).rdropWhile isSpace =
      first :: between ++ [last] ++ rest := by
    induction after using List.reverseRecOn with
    | nil => exact ⟨[], by rw [List.append_nil, List.rdropWhile_concat_neg _ _ _ (by simp [ends])]⟩
    | append_singleton after c ih =>
        rw [← List.append_assoc]
        by_cases space : isSpace c = true
        · rw [List.rdropWhile_concat_pos _ _ _ space]
          exact ih
        · exact ⟨after ++ [c], by rw [List.rdropWhile_concat_neg _ _ _ space, List.append_assoc]⟩
  obtain ⟨rest, same⟩ := trimmed
  refine ⟨rest, ?_⟩
  rw [strip, List.cons_append, List.cons_append, List.dropWhile_cons_of_neg (by simp [starts]),
    ← List.cons_append, ← List.cons_append, same]

/-- A text is its trimmed part with whitespace around it. -/
theorem exists_strip (text : Text) :
    ∃ before after, text = before ++ strip text ++ after ∧
      (∀ c ∈ before, isSpace c = true) ∧ ∀ c ∈ after, isSpace c = true := by
  refine ⟨text.takeWhile isSpace, (text.dropWhile isSpace).rtakeWhile isSpace, ?_, ?_, ?_⟩
  · rw [strip, List.append_assoc, List.rdropWhile_append_rtakeWhile,
      List.takeWhile_append_dropWhile]
  · exact fun c member => List.mem_takeWhile_imp member
  · exact fun c member => List.mem_rtakeWhile_imp member

theorem strip_isInfix (text : Text) : strip text <:+: text := by
  obtain ⟨before, after, same, _⟩ := exists_strip text
  exact ⟨before, after, same.symm⟩

/-! ## Splitting -/

/-- A text is not cut at a separator with a character that it lacks. -/
theorem cut_of_lacks {sep text : Text} {c : Char} (own : c ∈ sep) (lacks : c ∉ text) :
    cut sep text = none := by
  induction text with
  | nil =>
      unfold cut
      exact if_neg fun start => List.ne_nil_of_mem own (List.prefix_nil.mp start)
  | cons d text ih =>
      rw [List.mem_cons, not_or] at lacks
      unfold cut
      rw [if_neg fun start => (List.mem_cons.mp (start.subset own)).elim lacks.1 lacks.2,
        ih lacks.2]
      rfl

/-- The first word of a text that a space follows. -/
theorem exists_takeWhile_append (text after : Text) :
    ∃ rest, text ++ ' ' :: after = text.takeWhile (· ≠ ' ') ++ ' ' :: rest := by
  induction text with
  | nil => exact ⟨after, rfl⟩
  | cons c text ih =>
      by_cases space : c = ' '
      · subst space
        exact ⟨text ++ ' ' :: after, rfl⟩
      · obtain ⟨rest, same⟩ := ih
        refine ⟨rest, ?_⟩
        rw [List.cons_append, same, List.takeWhile_cons_of_pos (by simpa using space)]
        rfl

/-- The parts between separators stand in the text, and the first one at its start. -/
theorem splitOn_parts (separator : Char) (text : Text) :
    (∀ part ∈ text.splitOn separator, part <:+: text) ∧
      ∀ part ∈ (text.splitOn separator).head?, part <+: text := by
  induction text with
  | nil => simp
  | cons c text ih =>
      obtain ⟨first, others, parts⟩ :=
        List.exists_cons_of_ne_nil (List.splitOn_ne_nil separator text)
      rw [List.splitOn_cons_eq_if_modifyHead, parts]
      rw [parts] at ih
      split
      · refine ⟨List.forall_mem_cons.mpr ⟨ List.nil_infix, fun part member => ?_⟩, by simp⟩
        exact List.infix_cons (ih.1 part member)
      · have starts : c :: first <+: c :: text :=
          List.cons_prefix_cons.mpr ⟨rfl, ih.2 first rfl⟩
        refine ⟨List.forall_mem_cons.mpr ⟨starts.isInfix, fun part member => ?_⟩, ?_⟩
        · exact List.infix_cons (ih.1 part (List.mem_cons_of_mem first member))
        · rintro part ⟨⟩
          exact starts

/-! ## Lower case -/

/-- The lower case of a text of ASCII. -/
theorem lower_of_ascii (casing : Casing) {text : Text} (ascii : Ascii text) :
    lower casing text = text.map Char.toLower := by
  have from_before (before : Text) : lowerFrom casing before text = text.map Char.toLower := by
    induction text generalizing before with
    | nil => rfl
    | cons c rest ih =>
        obtain ⟨low, others⟩ := List.forall_mem_cons.mp ascii
        rw [lowerFrom, ih others, Casing.lowerChar, asciiLower, if_pos low]
        rfl
  exact from_before []

theorem Mentions.of_isInfix {needle part text : Text} (mentioned : Mentions needle part)
    (inside : part <:+: text) : Mentions needle text := by
  obtain ⟨before, after, rfl⟩ := inside
  unfold Mentions
  rw [fold_append, fold_append]
  exact mentioned.trans (List.infix_append _ _ _)

/-! ## Lower case before a space -/

/-- Case tables that look behind a character only up to the next space, as the rule for the final
sigma does. -/
structure WordCasing extends Casing where
  other_space : ∀ before c after rest, other before c (after ++ ' ' :: rest) = other before c after

/-- The mapping that leaves every other character as it is. -/
def WordCasing.plain : WordCasing where
  toCasing := .plain
  other_space _ _ _ _ := rfl

/-- What stands behind a space does not change the lower case before it. -/
theorem isPrefix_lower (casing : WordCasing) (text rest : Text) :
    lower casing.toCasing text <+: lower casing.toCasing (text ++ ' ' :: rest) := by
  have from_before (before : Text) :
      lowerFrom casing.toCasing before text <+:
        lowerFrom casing.toCasing before (text ++ ' ' :: rest) := by
    induction text generalizing before with
    | nil => exact List.nil_prefix
    | cons c text ih =>
        rw [List.cons_append, lowerFrom, lowerFrom]
        unfold Casing.lowerChar
        rw [casing.other_space]
        exact (List.prefix_append_right_inj _).mpr (ih (before ++ [c]))
  exact from_before []

end Text

end Vcompany.Foundation
