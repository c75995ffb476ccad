import Mathlib.Data.List.Infix
import Mathlib.Data.List.DropRight
import Mathlib.Data.Nat.Notation

/-! # Text as a sequence of code points

A text is the list of its code points, with the operations of Python's `str`
that programs apply to it: whitespace trimming and splitting, substring
replacement, cutting at a separator, and case folding. The case tables enter as
a parameter (`Casing`): only the characters whose lower case meets ASCII are
fixed, which is all that a search for an ASCII needle can observe
(`Text.infix_lower_iff`).
-/

namespace Vcompany.Foundation

/-- A text is the list of its code points. -/
abbrev Text := List Char

instance : Coe String Text := ⟨String.toList⟩

instance (text : Text) (texts : List Text) : Decidable (text ∈ texts) := inferInstance

namespace Text

/-- The characters `str.isspace` accepts. `str.strip`, `str.split` and the `\s`
of a pattern all use this set. -/
def isSpace (c : Char) : Bool :=
  (9 ≤ c.toNat && c.toNat ≤ 13) || (28 ≤ c.toNat && c.toNat ≤ 32) || c.toNat == 0x85 ||
    c.toNat == 0xA0 || c.toNat == 0x1680 || (0x2000 ≤ c.toNat && c.toNat ≤ 0x200A) ||
    c.toNat == 0x2028 || c.toNat == 0x2029 || c.toNat == 0x202F || c.toNat == 0x205F ||
    c.toNat == 0x3000

/-- Every character of the text is whitespace; the empty text is blank. -/
def Blank (text : Text) : Prop := ∀ c ∈ text, isSpace c = true

instance (text : Text) : Decidable (Blank text) :=
  List.decidableBAll _ text

/-- `str.strip()`. -/
def strip (text : Text) : Text := (text.dropWhile isSpace).rdropWhile isSpace

/-- `str.split()`: the maximal runs of characters that are not whitespace. -/
def words (text : Text) : List Text := (text.splitOnP isSpace).filter fun word => !word.isEmpty

/-- The characters at which `str.splitlines` ends a line. -/
def isLineBreak (c : Char) : Bool :=
  (10 ≤ c.toNat && c.toNat ≤ 13) || (28 ≤ c.toNat && c.toNat ≤ 30) || c.toNat == 0x85 ||
    c.toNat == 0x2028 || c.toNat == 0x2029

/-- The lines of a text whose current line, read so far, is `line` reversed. -/
def splitlinesFrom (line : Text) : Text → List Text
  | [] => if line.isEmpty then [] else [line.reverse]
  | '\r' :: '\n' :: rest => line.reverse :: splitlinesFrom [] rest
  | c :: rest =>
      if isLineBreak c then line.reverse :: splitlinesFrom [] rest
      else splitlinesFrom (c :: line) rest

/-- `str.splitlines()`. -/
def splitlines (text : Text) : List Text := splitlinesFrom [] text

/-- `str.partition(sep)`: the texts before and after the first `sep`. -/
def cut (sep : Text) : Text → Option (Text × Text)
  | [] => if sep <+: [] then some ([], []) else none
  | c :: rest =>
      if sep <+: c :: rest then some ([], (c :: rest).drop sep.length)
      else (cut sep rest).map fun parts => (c :: parts.1, parts.2)

/-- `str.replace(old, new)` on the text left after skipping `skip` characters of
an occurrence already replaced. -/
def replaceFrom (old new : Text) : ℕ → Text → Text
  | _, [] => []
  | skip + 1, _ :: rest => replaceFrom old new skip rest
  | 0, c :: rest =>
      if old <+: c :: rest then new ++ replaceFrom old new (old.length - 1) rest
      else c :: replaceFrom old new 0 rest

/-- `str.replace(old, new)` for a nonempty `old`. -/
def replace (old new text : Text) : Text := replaceFrom old new 0 text

/-- Replacing a character by nothing drops it. -/
theorem replace_drop (c : Char) (text : Text) : replace [c] [] text = text.filter (· ≠ c) := by
  unfold replace
  induction text with
  | nil => rfl
  | cons d rest ih =>
      rw [replaceFrom]
      by_cases same : c = d
      · subst same
        rw [if_pos (List.cons_prefix_cons.mpr ⟨rfl, List.nil_prefix⟩),
          List.filter_cons_of_neg (by simp), ← ih]
        rfl
      · rw [if_neg fun start => same (List.cons_prefix_cons.mp start).1,
          List.filter_cons_of_pos (by simpa using Ne.symm same), ih]

/-! ## Letters and digits -/

/-- The characters `str.isalnum` accepts: of ASCII the letters and digits, and no
whitespace. -/
structure Alphabet where
  isAlnum : Char → Bool
  isAlnum_ascii : ∀ c, c.toNat < 128 → isAlnum c = c.isAlphanum
  isAlnum_solid : ∀ c, isAlnum c = true → isSpace c = false

/-- `str.isalnum()`. -/
def isAlnumText (alphabet : Alphabet) (text : Text) : Bool :=
  text ≠ [] && text.all alphabet.isAlnum

/-- The letters and digits of ASCII alone. -/
def Alphabet.plain : Alphabet where
  isAlnum := Char.isAlphanum
  isAlnum_ascii _ _ := rfl
  isAlnum_solid c alnum := by
    have code : 48 ≤ c.toNat ∧ c.toNat ≤ 122 := by
      rcases (Bool.or_eq_true _ _).mp alnum with letter | digit
      · rcases (Bool.or_eq_true _ _).mp letter with upper | lower
        · have bounds := of_decide_eq_true upper
          exact ⟨le_trans (by decide) (UInt32.le_iff_toNat_le.mp bounds.1),
            le_trans (UInt32.le_iff_toNat_le.mp bounds.2) (by decide)⟩
        · have bounds := (Bool.and_eq_true _ _).mp lower
          exact ⟨le_trans (by decide) (UInt32.le_iff_toNat_le.mp (of_decide_eq_true bounds.1)),
            UInt32.le_iff_toNat_le.mp (of_decide_eq_true bounds.2)⟩
      · have bounds := (Bool.and_eq_true _ _).mp digit
        exact ⟨UInt32.le_iff_toNat_le.mp (of_decide_eq_true bounds.1),
          le_trans (UInt32.le_iff_toNat_le.mp (of_decide_eq_true bounds.2)) (by decide)⟩
    unfold isSpace
    simp
    omega

/-! ## Whitespace -/

@[simp] theorem words_nil : words [] = [] := by simp [words]

/-- Whitespace at the front of a text belongs to no word. -/
theorem words_cons_space {c : Char} (space : isSpace c = true) (text : Text) :
    words (c :: text) = words text := by
  unfold words
  rw [List.splitOnP_cons_eq_if_modifyHead, if_pos space, List.filter_cons_of_neg (by simp)]

/-- A character that is not whitespace starts or extends a word. -/
theorem words_cons_solid {c : Char} (solid : ¬ isSpace c = true) (text : Text) :
    words (c :: text) ≠ [] := by
  unfold words
  obtain ⟨word, others, split⟩ :=
    List.exists_cons_of_ne_nil (List.splitOnP_ne_nil isSpace text)
  rw [List.splitOnP_cons_eq_if_modifyHead, if_neg solid, split]
  simp

/-- A text has no words exactly when it is blank. -/
theorem words_eq_nil_iff (text : Text) : words text = [] ↔ Blank text := by
  induction text with
  | nil => simp [Blank]
  | cons c rest ih =>
      by_cases space : isSpace c = true
      · rw [words_cons_space space, ih]
        simp [Blank, space]
      · simp [words_cons_solid space, Blank, space]

private theorem blank_dropWhile (text : Text) :
    Blank (text.dropWhile isSpace) ↔ Blank text := by
  induction text with
  | nil => rfl
  | cons c rest ih =>
      by_cases space : isSpace c = true
      · rw [List.dropWhile_cons_of_pos space, ih]
        simp [Blank, space]
      · rw [List.dropWhile_cons_of_neg space]

private theorem blank_reverse (text : Text) : Blank text.reverse ↔ Blank text := by
  simp [Blank]

/-- Trimming drops only whitespace. -/
theorem blank_strip (text : Text) : Blank (strip text) ↔ Blank text := by
  unfold strip List.rdropWhile
  rw [blank_reverse, blank_dropWhile, blank_reverse, blank_dropWhile]

/-! ## Substrings across a separator -/

/-- An occurrence of a needle at the start of a text ends before the first
character the needle lacks. -/
theorem prefix_append_cons_iff {needle before after : Text} {c : Char} (absent : c ∉ needle) :
    needle <+: before ++ c :: after ↔ needle <+: before := by
  constructor
  · intro found
    rcases List.prefix_or_prefix_of_prefix found (List.prefix_append before (c :: after)) with
      inner | ⟨tail, rfl⟩
    · exact inner
    · cases tail with
      | nil => simp
      | cons d tail =>
          rw [List.prefix_append_right_inj] at found
          have same : d = c := (List.cons_prefix_cons.mp found).1
          exact absurd (by simp [same]) absent
  · exact fun inner => inner.trans (List.prefix_append _ _)

/-- A needle occurs in a text cut at a character it lacks exactly when it occurs
on one of the two sides. -/
theorem infix_append_cons_iff {needle before after : Text} {c : Char} (absent : c ∉ needle) :
    needle <:+: before ++ c :: after ↔ needle <:+: before ∨ needle <:+: after := by
  induction before with
  | nil =>
      have start := @prefix_append_cons_iff needle [] after c absent
      rw [List.nil_append, List.prefix_nil] at start
      rw [List.nil_append, List.infix_cons_iff, start, List.infix_nil]
  | cons d before ih =>
      have inside : needle <:+: d :: before ↔ needle <+: d :: before ∨ needle <:+: before :=
        List.infix_cons_iff
      rw [List.cons_append, List.infix_cons_iff, inside, ih, ← List.cons_append,
        prefix_append_cons_iff absent, or_assoc]

/-- A needle occurs in parts joined by characters it lacks exactly when it occurs
in one of the parts. -/
theorem infix_intercalate_iff {needle : Text} {c d : Char} (parts : List Text)
    (inhabited : needle ≠ []) (first : c ∉ needle) (second : d ∉ needle) :
    needle <:+: List.intercalate [c, d] parts ↔ ∃ part ∈ parts, needle <:+: part := by
  induction parts with
  | nil => simp [List.intercalate, inhabited]
  | cons part rest ih =>
      cases rest with
      | nil => simp [List.intercalate]
      | cons next rest =>
          have unfolded : List.intercalate [c, d] (part :: next :: rest) =
              part ++ c :: ([] ++ d :: List.intercalate [c, d] (next :: rest)) := by
            simp [List.intercalate]
          rw [unfolded, infix_append_cons_iff first, infix_append_cons_iff second, ih,
            List.infix_nil]
          simp only [inhabited, false_or, List.mem_cons, exists_eq_or_imp]

/-! ## Case folding -/

/-- The part of the Unicode lower-case mapping outside ASCII. A mapping may look
at the text around the character, as that of the final sigma does. No character
other than those `lowerChar` lists has an ASCII letter in its lower case. -/
structure Casing where
  other : Text → Char → Text → Text
  other_ne_nil : ∀ before c after, other before c after ≠ []
  other_nonAscii : ∀ before c after, ∀ d ∈ other before c after, 128 ≤ d.toNat

/-- The mapping that leaves every other character as it is. -/
def Casing.plain : Casing where
  other _ c _ := if 128 ≤ c.toNat then [c] else ['\u0080']
  other_ne_nil := by intro _ c _; split <;> simp
  other_nonAscii := by
    intro _ c _ d member
    split at member
    · rename_i high
      rw [List.mem_singleton] at member
      exact member ▸ high
    · rw [List.mem_singleton] at member
      subst member
      decide

/-- The lower case of a character of ASCII, or of one of the two characters
outside ASCII whose lower case meets it: the Kelvin sign and the dotted I. -/
def asciiLower (c : Char) : Option Text :=
  if c.toNat < 128 then some [c.toLower]
  else if c.toNat = 0x212A then some ['k']
  else if c.toNat = 0x130 then some ['i', '\u0307']
  else none

/-- The lower case of a character between the texts `before` and `after`. -/
def Casing.lowerChar (casing : Casing) (before : Text) (c : Char) (after : Text) : Text :=
  (asciiLower c).getD (casing.other before c after)

/-- The lower case of a text that follows `before`. -/
def lowerFrom (casing : Casing) : Text → Text → Text
  | _, [] => []
  | before, c :: after =>
      casing.lowerChar before c after ++ lowerFrom casing (before ++ [c]) after

/-- `str.lower()`. -/
def lower (casing : Casing) (text : Text) : Text := lowerFrom casing [] text

/-- A text of lower-case characters is its own lower case. -/
theorem lower_of_caseless (casing : Casing) {text : Text}
    (caseless : ∀ c ∈ text, asciiLower c = some [c]) : lower casing text = text := by
  have from_before (before : Text) : lowerFrom casing before text = text := by
    induction text generalizing before with
    | nil => rfl
    | cons c rest ih =>
        rw [List.forall_mem_cons] at caseless
        rw [lowerFrom, ih caseless.2, Casing.lowerChar, caseless.1]
        rfl
  exact from_before []

/-- The lower case of a text as far as ASCII is concerned: characters whose lower
case avoids ASCII stand for themselves. -/
def fold (text : Text) : Text := text.flatMap fun c => (asciiLower c).getD [c]

@[simp] theorem fold_nil : fold [] = [] := rfl

@[simp] theorem fold_cons (c : Char) (text : Text) :
    fold (c :: text) = (asciiLower c).getD [c] ++ fold text := rfl

@[simp] theorem fold_append (first second : Text) :
    fold (first ++ second) = fold first ++ fold second := List.flatMap_append

/-- Every character of the text is in ASCII. -/
def Ascii (text : Text) : Prop := ∀ c ∈ text, c.toNat < 128

instance (text : Text) : Decidable (Ascii text) :=
  List.decidableBAll _ text

/-- Two nonempty blocks outside ASCII are alike for the prefixes and substrings
that an ASCII needle can have in a text starting with them. -/
private theorem prefix_block_iff {needle block rest : Text} (ascii : Ascii needle)
    (inhabited : block ≠ []) (high : ∀ d ∈ block, 128 ≤ d.toNat) :
    needle <+: block ++ rest ↔ needle = [] := by
  constructor
  · intro found
    cases needle with
    | nil => rfl
    | cons c needle =>
        obtain ⟨d, block, rfl⟩ := List.exists_cons_of_ne_nil inhabited
        have same : c = d := (List.cons_prefix_cons.mp found).1
        have low := ascii c List.mem_cons_self
        have above := high d List.mem_cons_self
        subst same
        omega
  · rintro rfl
    exact List.nil_prefix

private theorem infix_block_iff {needle block rest : Text} (ascii : Ascii needle)
    (nonempty : needle ≠ []) (high : ∀ d ∈ block, 128 ≤ d.toNat) :
    needle <:+: block ++ rest ↔ needle <:+: rest := by
  induction block with
  | nil => rfl
  | cons d block ih =>
      rw [List.cons_append, List.infix_cons_iff,
        ih fun e member => high e (List.mem_cons_of_mem d member)]
      have start := @prefix_block_iff needle [d] (block ++ rest) ascii
        (List.cons_ne_nil d []) (fun e member => high e
          (List.mem_of_mem_head? (by rw [List.mem_singleton] at member; simp [member])))
      rw [List.singleton_append] at start
      simp [start, nonempty]

private theorem asciiLower_none {c : Char} (none : asciiLower c = none) : 128 ≤ c.toNat := by
  unfold asciiLower at none
  by_contra low
  rw [if_pos (by omega)] at none
  exact Option.some_ne_none _ none

private theorem prefix_append_congr {first second : Text} (image : Text)
    (same : ∀ needle, Ascii needle → (needle <+: first ↔ needle <+: second)) :
    ∀ needle, Ascii needle → (needle <+: image ++ first ↔ needle <+: image ++ second) := by
  induction image with
  | nil => exact same
  | cons d image ih =>
      intro needle ascii
      cases needle with
      | nil => simp
      | cons e needle =>
          rw [List.cons_append, List.cons_append, List.cons_prefix_cons, List.cons_prefix_cons,
            ih needle fun f member => ascii f (List.mem_cons_of_mem e member)]

private theorem infix_append_congr {needle first second : Text} (ascii : Ascii needle)
    (image : Text) (starts : ∀ needle, Ascii needle → (needle <+: first ↔ needle <+: second))
    (inside : needle <:+: first ↔ needle <:+: second) :
    needle <:+: image ++ first ↔ needle <:+: image ++ second := by
  induction image with
  | nil => exact inside
  | cons d image ih =>
      have start := prefix_append_congr (d :: image) starts needle ascii
      rw [List.cons_append, List.cons_append] at start ⊢
      rw [List.infix_cons_iff, List.infix_cons_iff, ih, start]

private theorem prefix_lowerFrom_iff (casing : Casing) (text : Text) :
    ∀ before needle : Text, Ascii needle →
      (needle <+: lowerFrom casing before text ↔ needle <+: fold text) := by
  induction text with
  | nil => intro before needle _; rfl
  | cons c rest ih =>
      intro before needle ascii
      simp only [lowerFrom, fold_cons, Casing.lowerChar]
      cases table : asciiLower c with
      | none =>
          simp only [Option.getD_none]
          rw [prefix_block_iff ascii (casing.other_ne_nil before c rest)
              (casing.other_nonAscii before c rest),
            prefix_block_iff ascii (List.cons_ne_nil c [])
              (fun d member => List.mem_singleton.mp member ▸ asciiLower_none table)]
      | some image => exact prefix_append_congr image (ih (before ++ [c])) needle ascii

private theorem infix_lowerFrom_iff (casing : Casing) {needle : Text} (ascii : Ascii needle)
    (nonempty : needle ≠ []) (text : Text) :
    ∀ before : Text, needle <:+: lowerFrom casing before text ↔ needle <:+: fold text := by
  induction text with
  | nil => intro before; rfl
  | cons c rest ih =>
      intro before
      simp only [lowerFrom, fold_cons, Casing.lowerChar]
      cases table : asciiLower c with
      | none =>
          simp only [Option.getD_none]
          rw [infix_block_iff ascii nonempty (casing.other_nonAscii before c rest),
            infix_block_iff ascii nonempty
              (fun d member => List.mem_singleton.mp member ▸ asciiLower_none table), ih]
      | some image =>
          exact infix_append_congr ascii image (prefix_lowerFrom_iff casing rest (before ++ [c]))
            (ih (before ++ [c]))

/-- **Searching a lower-cased text.** Whether an ASCII needle occurs in the lower
case of a text does not depend on the case tables. -/
theorem infix_lower_iff (casing : Casing) {needle : Text} (ascii : Ascii needle)
    (nonempty : needle ≠ []) (text : Text) :
    needle <:+: lower casing text ↔ needle <:+: fold text :=
  infix_lowerFrom_iff casing ascii nonempty text []

/-- A lower-case ASCII word occurs in a text, whatever the case of its letters
there. -/
def Mentions (needle text : Text) : Prop := needle <:+: fold text

instance (needle text : Text) : Decidable (Mentions needle text) :=
  inferInstanceAs (Decidable (needle <:+: fold text))

/-- A longer text mentions what its start mentions. -/
theorem Mentions.append {needle text : Text} (mentioned : Mentions needle text) (rest : Text) :
    Mentions needle (text ++ rest) := by
  unfold Mentions
  rw [fold_append]
  exact mentioned.trans (List.prefix_append _ _).isInfix

theorem mentions_nil {needle : Text} (inhabited : needle ≠ []) : ¬ Mentions needle [] := by
  simpa [Mentions] using inhabited

/-- Two parts of a text separated by a character the needle lacks are searched
one by one. -/
theorem mentions_append_cons_iff {needle before after : Text} {c : Char} (absent : c ∉ needle)
    (caseless : asciiLower c = some [c]) :
    Mentions needle (before ++ c :: after) ↔ Mentions needle before ∨ Mentions needle after := by
  simp only [Mentions, fold_append, fold_cons, caseless, Option.getD_some, List.singleton_append]
  exact infix_append_cons_iff absent

theorem mentions_cons_iff {needle after : Text} {c : Char} (inhabited : needle ≠ [])
    (absent : c ∉ needle) (caseless : asciiLower c = some [c]) :
    Mentions needle (c :: after) ↔ Mentions needle after := by
  have split := @mentions_append_cons_iff needle [] after c absent caseless
  rw [List.nil_append] at split
  rw [split, or_iff_right (mentions_nil inhabited)]

private theorem fold_intercalate {c d : Char} (first : asciiLower c = some [c])
    (second : asciiLower d = some [d]) (parts : List Text) :
    fold (List.intercalate [c, d] parts) = List.intercalate [c, d] (parts.map fold) := by
  induction parts with
  | nil => rfl
  | cons part rest ih =>
      cases rest with
      | nil => simp [List.intercalate]
      | cons next rest =>
          have unfolded (head : Text) (others : List Text) (tail : Text) :
              List.intercalate [c, d] (head :: tail :: others) =
                head ++ c :: d :: List.intercalate [c, d] (tail :: others) := by
            simp [List.intercalate]
          rw [unfolded, List.map_cons, List.map_cons, unfolded, ← List.map_cons, ← ih]
          simp [first, second]

/-- Joined parts mention a needle that avoids the separator exactly when one of
them does. -/
theorem mentions_intercalate_iff {needle : Text} {c d : Char} (parts : List Text)
    (inhabited : needle ≠ []) (first : c ∉ needle) (second : d ∉ needle)
    (firstCaseless : asciiLower c = some [c]) (secondCaseless : asciiLower d = some [d]) :
    Mentions needle (List.intercalate [c, d] parts) ↔ ∃ part ∈ parts, Mentions needle part := by
  unfold Mentions
  rw [fold_intercalate firstCaseless secondCaseless,
    infix_intercalate_iff _ inhabited first second]
  simp only [List.mem_map, exists_exists_and_eq_and]

end Text

end Vcompany.Foundation
