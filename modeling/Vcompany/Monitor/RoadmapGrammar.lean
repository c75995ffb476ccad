import Vcompany.Foundation.Partition
import Vcompany.Foundation.Search
import Vcompany.Foundation.Sequence
import Vcompany.Monitor.StatusGenerator

/-! # The lines of a roadmap

The lines that the patterns for roadmaps find, stated by what such a line is made of: a phase of
a checklist, the heading of a phase, and an item below one.
-/

namespace Vcompany.Monitor

open Foundation

/-- A box of a checklist. -/
def box (ticked : Bool) : Text := if ticked then "- [x]" else "- [ ]"

/-- The number that a text of digits stands for. -/
def Numerals.read (numerals : Numerals) (text : Text) : ℕ :=
  text.foldl (fun number c => 10 * number + (numerals.value c).getD 0) 0

/-- Digits, none of which is whitespace. -/
structure Decimals extends Numerals where
  solid : ∀ c, (value c).isSome = true → Text.isSpace c = false

/-- The digits of ASCII alone. -/
def Decimals.plain : Decimals where
  toNumerals := .plain
  solid c isDigit := by
    rcases digit : c.isDigit with _ | _
    · simp [Numerals.plain, digit] at isDigit
    · simp only [Char.isDigit, Bool.and_eq_true, decide_eq_true_eq] at digit
      have low : 48 ≤ c.toNat ∧ c.toNat ≤ 57 := digit
      simp only [Text.isSpace, Bool.or_eq_false_iff, Bool.and_eq_false_iff, beq_eq_false_iff_ne,
        decide_eq_false_iff_not]
      omega

section Grammar

variable (numerals : Numerals)

/-- A text of digits, at least one. -/
def IsNumber (text : Text) : Prop :=
  text ≠ [] ∧ ∀ c ∈ text, (numerals.value c).isSome = true

/-- The text starts with a box and a phase in bold behind it. The description ends at the first
two stars that leave something of it. -/
structure PhaseMark (text : Text) (ticked : Bool) (number description : Text) : Prop where
  number_isNumber : IsNumber numerals number
  description_inhabited : description ≠ []
  starts : box ticked ++ " **Phase ".toList ++ number ++ ": ".toList ++ description ++
    "**".toList <+: text
  shortest : ∀ shorter, shorter ≠ [] →
    box ticked ++ " **Phase ".toList ++ number ++ ": ".toList ++ shorter ++ "**".toList <+: text →
      description.length ≤ shorter.length

/-- The first phase that the line has in its checklist form. -/
def PhaseLine (line : Text) (ticked : Bool) (number description : Text) : Prop :=
  ∃ before marked, line = before ++ marked ∧ PhaseMark numerals marked ticked number description ∧
    ∀ sooner later, line = sooner ++ later →
      (∃ ticked number description, PhaseMark numerals later ticked number description) →
        before.length ≤ sooner.length

def IsPhaseLine (line : Text) : Prop :=
  ∃ ticked number description, PhaseLine numerals line ticked number description

/-- The heading of a phase, whose description is trimmed. -/
def HeadingLine (line number description : Text) : Prop :=
  ∃ first second third rest, line = "###".toList ++ first ++ "Phase".toList ++ second ++ number ++
      ":".toList ++ third ++ rest ∧
    (∀ blank ∈ [first, second, third], blank ≠ [] ∧ Text.Blank blank) ∧
    IsNumber numerals number ∧ rest ≠ [] ∧ description = Text.strip rest

def IsHeading (line : Text) : Prop :=
  ∃ number description, HeadingLine numerals line number description

end Grammar

/-- An item of a checklist, with a box at its start. -/
def IsItem (line : Text) : Prop := ∃ ticked, box ticked <+: line

/-- An item with its box ticked. -/
def IsTicked (line : Text) : Prop := box true <+: line

instance : DecidablePred IsTicked := fun _ => inferInstanceAs (Decidable (_ <+: _))

instance : DecidablePred IsItem := fun line =>
  decidable_of_iff (box false <+: line ∨ box true <+: line)
    (Bool.exists_bool (p := (box · <+: line))).symm

/-! ## The pieces of the patterns -/

theorem after_eq_some_iff {start text rest : Text} :
    after start text = some rest ↔ text = start ++ rest := by
  unfold after
  constructor
  · intro found
    split at found
    · next starts =>
        obtain ⟨tail, rfl⟩ := starts
        rw [List.drop_left] at found
        rw [Option.some.inj found]
    · cases found
  · rintro rfl
    rw [if_pos (List.prefix_append start rest), List.drop_left]

theorem checkbox_eq_some_iff {text rest : Text} {ticked : Bool} :
    checkbox text = some (ticked, rest) ↔ text = box ticked ++ rest := by
  have other : ∀ rest, after "- [x]".toList ("- [ ]".toList ++ rest) = none := fun rest => by
    rcases found : after "- [x]".toList ("- [ ]".toList ++ rest) with _ | tail
    · rfl
    · exact absurd (after_eq_some_iff.mp found) (by simp)
  unfold checkbox
  rw [Option.or_eq_some_iff, Option.map_eq_some_iff, Option.map_eq_none_iff,
    Option.map_eq_some_iff]
  constructor
  · rintro (⟨tail, found, same⟩ | ⟨_, tail, found, same⟩)
    · obtain ⟨rfl, rfl⟩ := Prod.mk.inj same
      exact after_eq_some_iff.mp found
    · obtain ⟨rfl, rfl⟩ := Prod.mk.inj same
      exact after_eq_some_iff.mp found
  · rintro rfl
    cases ticked with
    | true => exact .inl ⟨rest, after_eq_some_iff.mpr rfl, rfl⟩
    | false => exact .inr ⟨other rest, rest, after_eq_some_iff.mpr rfl, rfl⟩

theorem checkbox_isSome_iff {line : Text} : (checkbox line).isSome = true ↔ IsItem line := by
  rw [Option.isSome_iff_exists]
  constructor
  · rintro ⟨⟨ticked, rest⟩, found⟩
    exact ⟨ticked, rest, (checkbox_eq_some_iff.mp found).symm⟩
  · rintro ⟨ticked, rest, same⟩
    exact ⟨(ticked, rest), checkbox_eq_some_iff.mpr same.symm⟩

/-- What `spaces` skips. -/
theorem eq_of_spaces {text rest : Text} (found : spaces text = some rest) :
    ∃ blank, text = blank ++ rest ∧ blank ≠ [] ∧ Text.Blank blank := by
  cases text with
  | nil => cases found
  | cons c text =>
      rw [spaces] at found
      split at found
      · next space =>
          rw [← Option.some.inj found]
          refine ⟨c :: text.takeWhile Text.isSpace, ?_, List.cons_ne_nil _ _,
            List.forall_mem_cons.mpr ⟨space, fun d member => List.mem_takeWhile_imp member⟩⟩
          rw [List.cons_append, List.takeWhile_append_dropWhile]
      · cases found

theorem spaces_append {blank : Text} (inhabited : blank ≠ []) (isBlank : Text.Blank blank)
    {c : Char} (solid : Text.isSpace c = false) (rest : Text) :
    spaces (blank ++ c :: rest) = some (c :: rest) := by
  obtain ⟨space, blank, rfl⟩ := List.exists_cons_of_ne_nil inhabited
  obtain ⟨first, later⟩ := List.forall_mem_cons.mp isBlank
  rw [List.cons_append, spaces, if_pos first, List.dropWhile_append_of_pos later,
    List.dropWhile_cons_of_neg (by simp [solid])]

/-- `strip` skips whitespace in front. -/
theorem strip_append_blank {blank : Text} (isBlank : Text.Blank blank) (rest : Text) :
    Text.strip (blank ++ rest) = Text.strip rest := by
  unfold Text.strip
  rw [List.dropWhile_append_of_pos isBlank]

theorem digits_eq_some_iff {numerals : Numerals} {text number rest : Text} :
    digits numerals text = some (number, rest) ↔
      text = number ++ rest ∧ IsNumber numerals number ∧
        ∀ c ∈ rest.head?, numerals.value c = none := by
  unfold digits
  dsimp only
  constructor
  · intro found
    split at found
    · cases found
    · next inhabited =>
        obtain ⟨rfl, rfl⟩ := Prod.mk.inj (Option.some.inj found)
        refine ⟨List.takeWhile_append_dropWhile.symm, ⟨inhabited, fun c member => ?_⟩,
          fun c first => ?_⟩
        · exact List.mem_takeWhile_imp (p := fun c => (numerals.value c).isSome) member
        · have stopped := List.head?_dropWhile_not (fun c => (numerals.value c).isSome) text
          rw [Option.mem_def.mp first] at stopped
          simpa using stopped
  · rintro ⟨rfl, ⟨inhabited, isDigits⟩, stopped⟩
    have none_left : rest.takeWhile (fun c => (numerals.value c).isSome) = [] ∧
        rest.dropWhile (fun c => (numerals.value c).isSome) = rest := by
      cases rest with
      | nil => exact ⟨rfl, rfl⟩
      | cons c rest =>
          have other : ¬ (numerals.value c).isSome = true := by simp [stopped c rfl]
          exact ⟨List.takeWhile_cons_of_neg other, List.dropWhile_cons_of_neg other⟩
    rw [List.takeWhile_append_of_pos isDigits, List.dropWhile_append_of_pos isDigits,
      none_left.1, none_left.2, List.append_nil, if_neg inhabited]

theorem untilStars_eq_some_iff {text description : Text} :
    untilStars text = some description ↔ description ≠ [] ∧
      description ++ "**".toList <+: text ∧
      ∀ shorter, shorter ≠ [] → shorter ++ "**".toList <+: text →
        description.length ≤ shorter.length := by
  cases text with
  | nil =>
      refine iff_of_false (Option.some_ne_none _).symm fun ended => ended.1 ?_
      exact (List.append_eq_nil_iff.mp (List.prefix_nil.mp ended.2.1)).1
  | cons c text =>
      rw [untilStars, Option.map_eq_some_iff]
      constructor
      · rintro ⟨⟨before, after⟩, found, rfl⟩
        obtain ⟨rfl, -, first⟩ := Text.cut_eq_some_iff.mp found
        refine ⟨List.cons_ne_nil _ _, ⟨after, by simp⟩, fun shorter inhabited starts => ?_⟩
        obtain ⟨d, shorter, rfl⟩ := List.exists_cons_of_ne_nil inhabited
        obtain ⟨rest, same⟩ := (List.cons_prefix_cons.mp starts).2
        rw [List.append_eq, List.append_assoc] at same
        exact Nat.succ_le_succ (first shorter _ same.symm (List.prefix_append _ _))
      · rintro ⟨inhabited, ⟨after, same⟩, first⟩
        obtain ⟨d, before, rfl⟩ := List.exists_cons_of_ne_nil inhabited
        obtain ⟨rfl, parts⟩ := List.cons.inj same
        change before ++ "**".toList ++ after = text at parts
        rw [List.append_assoc] at parts
        refine ⟨(before, after), Text.cut_eq_some_iff.mpr
          ⟨parts.symm, List.prefix_append _ _, fun shorter later same starts => ?_⟩, rfl⟩
        refine Nat.le_of_succ_le_succ (first (d :: shorter) (List.cons_ne_nil _ _) ?_)
        rw [same, List.cons_append]
        exact List.cons_prefix_cons.mpr ⟨rfl, (List.prefix_append_right_inj shorter).mpr starts⟩

/-! ## The lines that the patterns find -/

section Lines

variable {numerals : Numerals}

private theorem phaseMark_iff {text number description : Text} {ticked : Bool} :
    PhaseMark numerals text ticked number description ↔
      ∃ rest, text = box ticked ++ (" **Phase ".toList ++ (number ++ (": ".toList ++ rest))) ∧
        IsNumber numerals number ∧ untilStars rest = some description := by
  simp only [untilStars_eq_some_iff]
  constructor
  · rintro ⟨isNumber, inhabited, ⟨after, rfl⟩, shortest⟩
    simp only [List.append_assoc] at shortest ⊢
    refine ⟨_, rfl, isNumber, inhabited, ⟨after, by rw [List.append_assoc]⟩,
      fun shorter long starts => shortest shorter long ?_⟩
    simpa only [List.prefix_append_right_inj] using starts
  · rintro ⟨rest, rfl, isNumber, inhabited, starts, shortest⟩
    refine ⟨isNumber, inhabited, ?_, fun shorter long starts => shortest shorter long ?_⟩
    · simpa only [List.append_assoc, List.prefix_append_right_inj] using starts
    · simpa only [List.append_assoc, List.prefix_append_right_inj] using starts

theorem checklistAt_eq_some_iff {text number description : Text} {ticked : Bool} :
    checklistAt numerals text = some (ticked, number, description) ↔
      PhaseMark numerals text ticked number description := by
  have colon : numerals.value ':' = none := numerals.value_ascii ':' (by decide)
  rw [phaseMark_iff]
  unfold checklistAt
  simp only [Option.bind_eq_bind, Option.bind_eq_some_iff, Option.pure_def, Option.some.injEq,
    Prod.exists, Prod.mk.injEq, checkbox_eq_some_iff, after_eq_some_iff, digits_eq_some_iff]
  constructor
  · rintro ⟨_, _, rfl, _, rfl, _, _, ⟨rfl, isNumber, _⟩, rest, rfl, _, ended, rfl, rfl, rfl⟩
    exact ⟨rest, rfl, isNumber, ended⟩
  · rintro ⟨rest, rfl, isNumber, ended⟩
    refine ⟨ticked, _, rfl, _, rfl, number, _, ⟨rfl, isNumber, ?_⟩, rest, rfl, description, ended,
      rfl, rfl, rfl⟩
    rintro c ⟨⟩
    exact colon

theorem phaseLine_iff {line number description : Text} {ticked : Bool} :
    line.tails.findSome? (checklistAt numerals) = some (ticked, number, description) ↔
      PhaseLine numerals line ticked number description := by
  have marked (text : Text) : checklistAt numerals text ≠ none ↔
      ∃ ticked number description, PhaseMark numerals text ticked number description := by
    simp only [Option.ne_none_iff_exists', Prod.exists, checklistAt_eq_some_iff]
  simp only [findSome?_tails_eq_some_iff, checklistAt_eq_some_iff, Leftmost, marked]
  refine exists_congr fun before => exists_congr fun text => ?_
  constructor
  · rintro ⟨⟨same, -, first⟩, mark⟩
    exact ⟨same, mark, first⟩
  · rintro ⟨same, mark, first⟩
    exact ⟨⟨same, ⟨_, _, _, mark⟩, first⟩, mark⟩

theorem isPhaseLine_iff {line : Text} :
    (line.tails.findSome? (checklistAt numerals)).isSome = true ↔ IsPhaseLine numerals line := by
  simp only [Option.isSome_iff_exists, Prod.exists, phaseLine_iff]
  rfl

instance : DecidablePred (IsPhaseLine numerals) := fun _ => decidable_of_iff _ isPhaseLine_iff

end Lines

section Headings

variable {decimals : Decimals}

theorem headingMatch_eq_some_iff {line number description : Text} :
    headingMatch decimals.toNumerals line = some (number, description) ↔
      HeadingLine decimals.toNumerals line number description := by
  have colon : decimals.value ':' = none := decimals.value_ascii ':' (by decide)
  unfold headingMatch
  simp only [Option.bind_eq_bind, Option.bind_eq_some_iff, Prod.exists, after_eq_some_iff,
    digits_eq_some_iff]
  constructor
  · rintro ⟨_, rfl, _, afterMarks, _, rfl, _, afterPhase, _, _, ⟨rfl, isNumber, _⟩, text, rfl,
      ended⟩
    obtain ⟨first, rfl, firstBlank⟩ := eq_of_spaces afterMarks
    obtain ⟨second, rfl, secondBlank⟩ := eq_of_spaces afterPhase
    split at ended
    · next c d rest _ =>
        split at ended
        · next space =>
            obtain ⟨rfl, rfl⟩ := Prod.mk.inj (Option.some.inj ended)
            refine ⟨first, second, [c], d :: rest, by simp, ?_, isNumber, List.cons_ne_nil _ _,
              @strip_append_blank [c] (by simpa [Text.Blank] using space) _⟩
            simp only [List.forall_mem_cons]
            exact ⟨firstBlank, secondBlank,
              ⟨List.cons_ne_nil _ _, by simpa [Text.Blank] using space⟩, by simp⟩
        · cases ended
    · cases ended
  · rintro ⟨first, second, third, rest, rfl, blanks, isNumber, inhabited, rfl⟩
    simp only [List.forall_mem_cons] at blanks
    obtain ⟨⟨firstInhabited, firstBlank⟩, ⟨secondInhabited, secondBlank⟩,
      ⟨thirdInhabited, thirdBlank⟩, -⟩ := blanks
    obtain ⟨digit, more, rfl⟩ := List.exists_cons_of_ne_nil isNumber.1
    obtain ⟨space, third, rfl⟩ := List.exists_cons_of_ne_nil thirdInhabited
    have solid := decimals.solid digit (isNumber.2 digit List.mem_cons_self)
    refine ⟨_, by simp only [List.append_assoc]; rfl, _,
      spaces_append firstInhabited firstBlank (c := 'P') rfl _, _, rfl, _,
      spaces_append secondInhabited secondBlank solid _, digit :: more, _, ⟨rfl, isNumber, ?_⟩, _,
      rfl, ?_⟩
    · rintro c ⟨⟩
      exact colon
    · obtain ⟨d, text, same⟩ := List.exists_cons_of_ne_nil
        (List.append_ne_nil_of_right_ne_nil third inhabited)
      obtain ⟨spaceBlank, -⟩ := List.forall_mem_cons.mp thirdBlank
      have trimmed := strip_append_blank thirdBlank rest
      rw [List.cons_append, same] at trimmed ⊢
      dsimp only
      rw [if_pos spaceBlank, trimmed]

end Headings

end Vcompany.Monitor
