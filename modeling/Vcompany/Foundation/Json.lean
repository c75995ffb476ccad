import Vcompany.Foundation.Text

/-! # JSON objects on a line

An object of strings as a serializer writes it on one line, with what a reader can tell of the
text: whether its quotation marks are closed (`Closed`), and whether it starts like an object
with members (`ObjectStart`). The serializer escapes quotation marks, backslashes and control
characters, and leaves every other character as it is. So a line break that it writes, such as
U+2028, stands inside a string, and what follows it does not start like an object
(`ObjectTail.not_objectStart`).
-/

namespace Vcompany.Foundation

namespace Json

/-! ## Writing -/

/-- The escape of a character in a string. -/
def escapeChar (c : Char) : Text :=
  if c = '"' then ['\\', '"']
  else if c = '\\' then ['\\', '\\']
  else if c = '\n' then ['\\', 'n']
  else if c = '\r' then ['\\', 'r']
  else if c = '\t' then ['\\', 't']
  else if c = '\u0008' then ['\\', 'b']
  else if c = '\u000c' then ['\\', 'f']
  else if c.toNat < 32 then
    "\\u00".toList ++ [Nat.digitChar (c.toNat / 16), Nat.digitChar (c.toNat % 16)]
  else [c]

def escape (text : Text) : Text := text.flatMap escapeChar

/-- The opening of a member, up to the quotation mark of its value. -/
def opening (key : Text) : Text := '"' :: key ++ ['"', ':', '"']

/-- From behind a member to the end of the object. -/
def rest : List (Text × Text) → Text
  | [] => ['}']
  | (key, value) :: members => ',' :: (opening key ++ (escape value ++ '"' :: rest members))

/-- From inside a value, of which a part is left, to the end of the object. -/
def tail (value : Text) (members : List (Text × Text)) : Text :=
  escape value ++ '"' :: rest members

/-- The object of the members, of which there is a first. -/
def object (key value : Text) (members : List (Text × Text)) : Text :=
  '{' :: (opening key ++ tail value members)

/-! ## What a reader can tell -/

/-- Where a reader is: outside of strings, inside one, or behind a backslash in one. -/
inductive Place where
  | outside
  | inside
  | escaped
  deriving DecidableEq, Repr

def Place.next : Place → Char → Place
  | outside, c => if c = '"' then inside else outside
  | inside, c => if c = '"' then outside else if c = '\\' then escaped else inside
  | escaped, _ => inside

def scan (place : Place) (text : Text) : Place := text.foldl Place.next place

/-- Every string is closed. -/
def Closed (text : Text) : Prop := scan .outside text = .outside

instance (text : Text) : Decidable (Closed text) := inferInstanceAs (Decidable (_ = _))

/-- The text has no quotation mark or backslash other than in escapes. -/
def IsBody : Text → Prop
  | [] => True
  | ['\\'] => False
  | '\\' :: _ :: more => IsBody more
  | c :: more => c ≠ '"' ∧ IsBody more

/-- The whitespace between tokens. -/
def Space (text : Text) : Prop := ∀ c ∈ text, c = ' ' ∨ c = '\t' ∨ c = '\n' ∨ c = '\r'

/-- The text starts with a brace, a string and a colon, with whitespace before each. -/
def ObjectStart (text : Text) : Prop :=
  ∃ first second third name more, Space first ∧ Space second ∧ Space third ∧ IsBody name ∧
    text = first ++ '{' :: (second ++ '"' :: (name ++ '"' :: (third ++ ':' :: more)))

/-! ## Escapes -/

/-- An escape: a backslash, a character, and further characters none of which matter to a
reader of strings. -/
def isEscape : Text → Bool
  | '\\' :: c :: more => !Text.isLineBreak c &&
      more.all fun d => !Text.isLineBreak d && d ≠ '"' && d ≠ '\\'
  | _ => false

/-- A character outside ASCII stands for itself. -/
theorem escapeChar_of_high {c : Char} (high : 128 ≤ c.toNat) : escapeChar c = [c] := by
  have apart (d : Char) (ascii : d.toNat < 128) : c ≠ d := by
    rintro rfl
    omega
  unfold escapeChar
  rw [if_neg (apart _ (by decide)), if_neg (apart _ (by decide)), if_neg (apart _ (by decide)),
    if_neg (apart _ (by decide)), if_neg (apart _ (by decide)), if_neg (apart _ (by decide)),
    if_neg (apart _ (by decide)), if_neg (by omega)]

/-- A character is escaped, or it stands for itself. -/
theorem escapeChar_cases (c : Char) :
    isEscape (escapeChar c) = true ∨
      escapeChar c = [c] ∧ c ≠ '"' ∧ c ≠ '\\' ∧ 32 ≤ c.toNat := by
  by_cases low : c.toNat < 128
  · have all : ∀ code < 128, isEscape (escapeChar (Char.ofNat code)) = true ∨
        escapeChar (Char.ofNat code) = [Char.ofNat code] ∧ Char.ofNat code ≠ '"' ∧
          Char.ofNat code ≠ '\\' ∧ 32 ≤ (Char.ofNat code).toNat := by
      decide
    have found := all c.toNat low
    rwa [c.ofNat_toNat] at found
  · have apart (d : Char) (ascii : d.toNat < 128) : c ≠ d := by
      rintro rfl
      exact low ascii
    exact .inr ⟨escapeChar_of_high (by omega), apart _ (by decide), apart _ (by decide), by omega⟩

theorem scan_append (place : Place) (first second : Text) :
    scan place (first ++ second) = scan (scan place first) second := List.foldl_append

/-- Characters other than quotation marks and backslashes leave a reader where it is. -/
theorem scan_plain {place : Place} (apart : place ≠ .escaped) {text : Text}
    (plain : ∀ c ∈ text, c ≠ '"' ∧ c ≠ '\\') : scan place text = place := by
  unfold scan
  induction text with
  | nil => rfl
  | cons c more ih =>
      obtain ⟨⟨quote, backslash⟩, later⟩ := List.forall_mem_cons.mp plain
      have stays : place.next c = place := by
        cases place with
        | outside => exact if_neg quote
        | inside => exact (if_neg quote).trans (if_neg backslash)
        | escaped => exact absurd rfl apart
      rw [List.foldl_cons, stays, ih later]

theorem shape_of_isEscape {text : Text} (escaped : isEscape text = true) :
    ∃ c more, text = '\\' :: c :: more ∧ Text.isLineBreak c = false ∧
      ∀ d ∈ more, Text.isLineBreak d = false ∧ d ≠ '"' ∧ d ≠ '\\' := by
  unfold isEscape at escaped
  split at escaped
  · next c more =>
      obtain ⟨first, all⟩ := Bool.and_eq_true_iff.mp escaped
      refine ⟨c, more, rfl, by simpa using first, fun d member => ?_⟩
      simpa [and_assoc] using List.all_eq_true.mp all d member
  · cases escaped

theorem scan_inside_escape (value : Text) : scan .inside (escape value) = .inside := by
  induction value with
  | nil => rfl
  | cons c value ih =>
      have one : scan .inside (escapeChar c) = .inside := by
        rcases escapeChar_cases c with escaped | ⟨same, quote, backslash, _⟩
        · obtain ⟨d, more, shape, _, plain⟩ := shape_of_isEscape escaped
          rw [shape]
          change scan .inside more = .inside
          exact scan_plain (by decide) fun e member => (plain e member).2
        · rw [same]
          exact scan_plain (by decide) (List.forall_mem_singleton.mpr ⟨quote, backslash⟩)
      unfold escape at ih ⊢
      rw [List.flatMap_cons, scan_append, one, ih]

/-! ## Line breaks in an object -/

/-- A text cut behind some characters, or within them, at a character. -/
private theorem append_eq_cut {first second before after : Text} {c : Char}
    (same : first ++ second = before ++ c :: after) :
    (∃ later, first = before ++ c :: later ∧ after = later ++ second) ∨
      ∃ later, before = first ++ later ∧ second = later ++ c :: after := by
  rcases List.append_eq_append_iff.mp same with ⟨later, rfl, split⟩ | ⟨later, rfl, split⟩
  · exact .inr ⟨later, rfl, split⟩
  · cases later with
    | nil => exact .inr ⟨[], by simp, by simpa using split.symm⟩
    | cons d later =>
        obtain ⟨rfl, rfl⟩ := List.cons.inj split
        exact .inl ⟨later, rfl, rfl⟩

/-- A line break in what a character is written as is the character. -/
private theorem lineBreak_of_mem_escapeChar {c d : Char} (ends : Text.isLineBreak c = true)
    (member : c ∈ escapeChar d) : c = d ∧ escapeChar d = [d] ∧ 32 ≤ d.toNat := by
  rcases escapeChar_cases d with escaped | ⟨alone, _, _, printable⟩
  · obtain ⟨e, more, shape, solid, plain⟩ := shape_of_isEscape escaped
    rw [shape] at member
    rcases List.mem_cons.mp member with rfl | member
    · cases ends
    rcases List.mem_cons.mp member with rfl | member
    · rw [solid] at ends
      cases ends
    · rw [(plain c member).1] at ends
      cases ends
  · rw [alone] at member
    exact ⟨List.mem_singleton.mp member, alone, printable⟩

/-- A line break in an escaped text stands for itself. -/
theorem escape_cut {value before after : Text} {c : Char} (ends : Text.isLineBreak c = true)
    (same : escape value = before ++ c :: after) :
    32 ≤ c.toNat ∧ ∃ earlier later, before = escape earlier ∧ after = escape later := by
  induction value generalizing before with
  | nil =>
      have none : before ++ c :: after = [] := same.symm
      simp at none
  | cons d value ih =>
      have split : escapeChar d ++ escape value = before ++ c :: after := same
      rcases append_eq_cut split with ⟨later, here, rfl⟩ | ⟨later, rfl, there⟩
      · have member : c ∈ escapeChar d := by rw [here]; simp
        obtain ⟨rfl, alone, printable⟩ := lineBreak_of_mem_escapeChar ends member
        rw [alone] at here
        cases before with
        | nil =>
            obtain rfl := (List.cons.inj here).2
            exact ⟨printable, [], value, rfl, rfl⟩
        | cons e before => simp at here
      · obtain ⟨printable, earlier, later', rfl, rfl⟩ := ih there
        exact ⟨printable, d :: earlier, later', rfl, rfl⟩

/-- The key has no line breaks, quotation marks or backslashes, and starts with a letter. -/
structure IsKey (key : Text) : Prop where
  plain : ∀ c ∈ key, c ≠ '"' ∧ c ≠ '\\' ∧ Text.isLineBreak c = false
  letter : ∃ c more, key = c :: more ∧ c.isAlpha = true

/-- The text goes on from inside a value to the end of an object. -/
def ObjectTail (text : Text) : Prop :=
  ∃ value members, text = tail value members ∧ ∀ member ∈ members, IsKey member.1

theorem scan_outside_opening {key : Text} (isKey : IsKey key) :
    scan .outside (opening key) = .inside := by
  have inside : scan .inside key = .inside :=
    scan_plain (by decide) fun c member => ⟨(isKey.plain c member).1, (isKey.plain c member).2.1⟩
  have opens : opening key = ['"'] ++ key ++ ['"', ':', '"'] := rfl
  rw [opens, scan_append, scan_append]
  change scan (scan .inside key) ['"', ':', '"'] = .inside
  rw [inside]
  rfl

theorem opening_oneLine {key : Text} (isKey : IsKey key) :
    ∀ c ∈ opening key, Text.isLineBreak c = false := by
  unfold opening
  simp only [List.cons_append, List.forall_mem_cons, List.forall_mem_append]
  exact ⟨by decide, fun c member => (isKey.plain c member).2.2, by decide, by decide, by decide,
    by simp⟩

/-- A line break behind the start of a value stands inside a string, and the text goes on from
inside a value. -/
theorem tail_cut {value before after : Text} {members : List (Text × Text)} {c : Char}
    (keys : ∀ member ∈ members, IsKey member.1) (ends : Text.isLineBreak c = true)
    (same : tail value members = before ++ c :: after) :
    32 ≤ c.toNat ∧ scan .inside before = .inside ∧ ObjectTail after := by
  induction members generalizing value before with
  | nil =>
      rcases append_eq_cut same with ⟨later, here, rfl⟩ | ⟨later, rfl, there⟩
      · obtain ⟨printable, earlier, remaining, rfl, rfl⟩ := escape_cut ends here
        exact ⟨printable, scan_inside_escape earlier, remaining, [], rfl, keys⟩
      · have member : c ∈ ['"', '}'] := by
          change c ∈ '"' :: rest []
          rw [there]
          simp
        rcases List.mem_cons.mp member with rfl | member
        · cases ends
        · rw [List.mem_singleton.mp member] at ends
          cases ends
  | cons first members ih =>
      obtain ⟨isKey, others⟩ := List.forall_mem_cons.mp keys
      rcases append_eq_cut same with ⟨later, here, rfl⟩ | ⟨later, rfl, there⟩
      · obtain ⟨printable, earlier, remaining, rfl, rfl⟩ := escape_cut ends here
        exact ⟨printable, scan_inside_escape earlier, remaining, first :: members, rfl, keys⟩
      · have split : (['"', ','] ++ opening first.1) ++ tail first.2 members =
            later ++ c :: after := there
        have solid : ∀ d ∈ ['"', ','] ++ opening first.1, Text.isLineBreak d = false := by
          simp only [List.forall_mem_append, List.forall_mem_cons]
          exact ⟨⟨by decide, by decide, by simp⟩, opening_oneLine isKey⟩
        rcases append_eq_cut split with ⟨more, here, _⟩ | ⟨more, rfl, later⟩
        · have member : c ∈ ['"', ','] ++ opening first.1 := by rw [here]; simp
          rw [solid c member] at ends
          cases ends
        · obtain ⟨printable, inside, goesOn⟩ := ih others later
          refine ⟨printable, ?_, goesOn⟩
          rw [scan_append, scan_inside_escape, scan_append, scan_append]
          change scan (scan .outside (opening first.1)) more = .inside
          rw [scan_outside_opening isKey, inside]

theorem ObjectTail.cut {before after : Text} {c : Char} (ends : Text.isLineBreak c = true)
    (goesOn : ObjectTail (before ++ c :: after)) : 32 ≤ c.toNat ∧ ObjectTail after := by
  obtain ⟨value, members, same, keys⟩ := goesOn
  obtain ⟨printable, _, later⟩ := tail_cut keys ends same.symm
  exact ⟨printable, later⟩

/-- A line break in an object stands inside a string, and the text goes on from inside a
value. -/
theorem object_cut {key value before after : Text} {members : List (Text × Text)} {c : Char}
    (isKey : IsKey key) (keys : ∀ member ∈ members, IsKey member.1)
    (ends : Text.isLineBreak c = true) (same : object key value members = before ++ c :: after) :
    32 ≤ c.toNat ∧ scan .outside before = .inside ∧ ObjectTail after := by
  have split : ('{' :: opening key) ++ tail value members = before ++ c :: after := same
  rcases append_eq_cut split with ⟨more, here, _⟩ | ⟨more, rfl, there⟩
  · have member : c ∈ '{' :: opening key := by rw [here]; simp
    rcases List.mem_cons.mp member with rfl | member
    · cases ends
    · rw [opening_oneLine isKey c member] at ends
      cases ends
  · obtain ⟨printable, inside, goesOn⟩ := tail_cut keys ends there
    refine ⟨printable, ?_, goesOn⟩
    rw [scan_append]
    change scan (scan .outside (opening key)) more = .inside
    rw [scan_outside_opening isKey, inside]

/-- Which line breaks an escaped text has. -/
theorem mem_escape_iff {value : Text} {c : Char} (ends : Text.isLineBreak c = true) :
    c ∈ escape value ↔ 32 ≤ c.toNat ∧ c ∈ value := by
  constructor
  · intro member
    obtain ⟨d, inValue, found⟩ := List.mem_flatMap.mp member
    obtain ⟨rfl, _, printable⟩ := lineBreak_of_mem_escapeChar ends found
    exact ⟨printable, inValue⟩
  · rintro ⟨printable, member⟩
    have high : 128 ≤ c.toNat := by
      simp only [Text.isLineBreak, Bool.or_eq_true, Bool.and_eq_true, decide_eq_true_eq,
        beq_iff_eq] at ends
      omega
    have kept : escapeChar c = [c] := escapeChar_of_high high
    exact List.mem_flatMap.mpr ⟨c, member, kept ▸ List.mem_cons_self⟩

/-- Which line breaks an object has: those of its values that are not escaped. -/
theorem mem_object_iff {key value : Text} {members : List (Text × Text)} {c : Char}
    (isKey : IsKey key) (keys : ∀ member ∈ members, IsKey member.1)
    (ends : Text.isLineBreak c = true) :
    c ∈ object key value members ↔
      32 ≤ c.toNat ∧ (c ∈ value ∨ ∃ member ∈ members, c ∈ member.2) := by
  have other (d : Char) (solid : Text.isLineBreak d = false) : c ≠ d := by
    rintro rfl
    rw [solid] at ends
    cases ends
  have notOpening {key : Text} (isKey : IsKey key) : c ∉ opening key := fun member =>
    other c (opening_oneLine isKey c member) rfl
  have inRest (members : List (Text × Text)) (keys : ∀ member ∈ members, IsKey member.1) :
      c ∈ rest members ↔ 32 ≤ c.toNat ∧ ∃ member ∈ members, c ∈ member.2 := by
    induction members with
    | nil => simp [rest, other '}' (by decide)]
    | cons first members ih =>
        obtain ⟨isKey, others⟩ := List.forall_mem_cons.mp keys
        simp only [rest, List.mem_cons, List.mem_append, other ',' (by decide),
          other '"' (by decide), notOpening isKey, mem_escape_iff ends, ih others, false_or,
          exists_eq_or_imp, ← and_or_left]
  simp only [object, tail, List.mem_cons, List.mem_append, other '{' (by decide),
    other '"' (by decide), notOpening isKey, mem_escape_iff ends, inRest members keys, false_or,
    ← and_or_left]

/-! ## What a reader makes of the parts -/

/-- Text without quotation marks and backslashes, up to a quotation mark, is the whole value. -/
private theorem escape_of_quote {value start more later : Text}
    (plain : ∀ c ∈ start, c ≠ '"' ∧ c ≠ '\\')
    (within : start ++ '"' :: more <+: escape value ++ '"' :: later) : more <+: later := by
  induction value generalizing start with
  | nil =>
      cases start with
      | nil => exact (List.cons_prefix_cons.mp within).2
      | cons c start =>
          exact absurd (List.cons_prefix_cons.mp within).1
            (List.forall_mem_cons.mp plain).1.1
  | cons d value ih =>
      have split : start ++ '"' :: more <+: escapeChar d ++ (escape value ++ '"' :: later) := by
        rw [← List.append_assoc]
        exact within
      rcases escapeChar_cases d with escaped | ⟨alone, quote, _, _⟩
      · obtain ⟨e, others, shape, _, _⟩ := shape_of_isEscape escaped
        rw [shape] at split
        cases start with
        | nil => exact absurd (List.cons_prefix_cons.mp split).1 (by decide)
        | cons c start =>
            exact absurd (List.cons_prefix_cons.mp split).1
              (List.forall_mem_cons.mp plain).1.2
      · rw [alone] at split
        cases start with
        | nil => exact absurd (List.cons_prefix_cons.mp split).1.symm quote
        | cons c start =>
            exact ih (List.forall_mem_cons.mp plain).2 (List.cons_prefix_cons.mp split).2

/-- What stands behind the closed string of a value is not a colon. -/
private theorem not_colon_of_rest {name third more : Text} {members : List (Text × Text)}
    (keys : ∀ member ∈ members, IsKey member.1) (body : IsBody name) (space : Space third) :
    ¬ name ++ '"' :: (third ++ ':' :: more) <+: rest members := by
  intro within
  cases members with
  | nil =>
      have short := within.length_le
      simp only [rest, List.length_append, List.length_cons, List.length_nil] at short
      omega
  | cons first members =>
      obtain ⟨isKey, _⟩ := List.forall_mem_cons.mp keys
      obtain ⟨letter, others, shape, alpha⟩ := isKey.letter
      have starts : rest (first :: members) =
          ',' :: '"' :: letter :: (others ++ ['"', ':', '"'] ++ tail first.2 members) := by
        simp [rest, opening, shape, tail]
      rw [starts] at within
      cases name with
      | nil => exact absurd (List.cons_prefix_cons.mp within).1 (by decide)
      | cons c name =>
          obtain ⟨comma, within⟩ := List.cons_prefix_cons.mp within
          cases name with
          | nil =>
              have behind := (List.cons_prefix_cons.mp within).2
              cases third with
              | nil =>
                  rw [← (List.cons_prefix_cons.mp behind).1] at alpha
                  exact absurd alpha (by decide)
              | cons d third =>
                  have same : d = letter := (List.cons_prefix_cons.mp behind).1
                  rcases (List.forall_mem_cons.mp space).1 with rfl | rfl | rfl | rfl <;>
                    (rw [← same] at alpha; exact absurd alpha (by decide))
          | cons d name =>
              obtain rfl : d = '"' := (List.cons_prefix_cons.mp within).1
              subst comma
              exact body.2.1 rfl

theorem Space.plain {text : Text} (space : Space text) : ∀ c ∈ text, c ≠ '"' ∧ c ≠ '\\' := by
  intro c member
  rcases space c member with rfl | rfl | rfl | rfl <;> decide

/-- The start of a text that goes on from inside a value does not start like an object, with
whitespace before it or not. -/
theorem ObjectTail.not_objectStart {text blank part : Text} (goesOn : ObjectTail text)
    (plain : ∀ c ∈ blank, Text.isSpace c = true) (within : blank ++ part <+: text) :
    ¬ ObjectStart part := by
  rintro ⟨first, second, third, name, more, space, space', space'', body, rfl⟩
  obtain ⟨value, members, rfl, keys⟩ := goesOn
  have quoteless : ∀ c ∈ blank ++ first ++ '{' :: second, c ≠ '"' ∧ c ≠ '\\' := by
    simp only [List.forall_mem_append, List.forall_mem_cons]
    refine ⟨⟨fun c member => ?_, space.plain⟩, by decide, space'.plain⟩
    have isSpace := plain c member
    constructor <;>
    · rintro rfl
      exact absurd isSpace (by decide)
  have shape : blank ++ (first ++ '{' :: (second ++ '"' :: (name ++ '"' ::
      (third ++ ':' :: more)))) =
      (blank ++ first ++ '{' :: second) ++ '"' :: (name ++ '"' :: (third ++ ':' :: more)) := by
    simp
  rw [shape] at within
  exact not_colon_of_rest keys body space'' (escape_of_quote quoteless within)

/-! ## Whole objects -/

theorem rest_ends (members : List (Text × Text)) : ∃ before, rest members = before ++ ['}'] := by
  induction members with
  | nil => exact ⟨[], rfl⟩
  | cons first members ih =>
      obtain ⟨before, ends⟩ := ih
      refine ⟨',' :: (opening first.1 ++ (escape first.2 ++ '"' :: before)), ?_⟩
      simp [rest, ends]

/-- An object stands between braces. -/
theorem object_braces (key value : Text) (members : List (Text × Text)) :
    ∃ fields, object key value members = '{' :: fields ++ ['}'] := by
  obtain ⟨before, ends⟩ := rest_ends members
  refine ⟨opening key ++ (escape value ++ '"' :: before), ?_⟩
  simp [object, tail, ends]

theorem object_closed {key : Text} (value : Text) {members : List (Text × Text)}
    (isKey : IsKey key) (keys : ∀ member ∈ members, IsKey member.1) :
    Closed (object key value members) := by
  have closes (members : List (Text × Text)) (keys : ∀ member ∈ members, IsKey member.1) :
      ∀ value, scan .inside (tail value members) = .outside := by
    induction members with
    | nil =>
        intro value
        rw [tail, scan_append, scan_inside_escape]
        rfl
    | cons first members ih =>
        intro value
        obtain ⟨isKey, others⟩ := List.forall_mem_cons.mp keys
        rw [tail, scan_append, scan_inside_escape]
        change scan .outside (opening first.1 ++ tail first.2 members) = .outside
        rw [scan_append, scan_outside_opening isKey, ih others]
  unfold Closed object
  change scan .outside (opening key ++ tail value members) = .outside
  rw [scan_append, scan_outside_opening isKey, closes members keys]

theorem isBody_of_plain {name : Text} (plain : ∀ c ∈ name, c ≠ '"' ∧ c ≠ '\\') :
    IsBody name := by
  fun_induction IsBody name with
  | case1 => trivial
  | case2 => exact absurd rfl (plain '\\' List.mem_cons_self).2
  | case3 => exact absurd rfl (plain '\\' List.mem_cons_self).2
  | case4 c more _ _ ih =>
      obtain ⟨first, later⟩ := List.forall_mem_cons.mp plain
      exact ⟨first.1, ih later⟩

theorem object_start {key : Text} (value : Text) (members : List (Text × Text))
    (isKey : IsKey key) : ObjectStart (object key value members) := by
  refine ⟨[], [], [], key, '"' :: tail value members, by simp [Space], by simp [Space],
    by simp [Space], ?_, ?_⟩
  · exact isBody_of_plain fun c member => ⟨(isKey.plain c member).1, (isKey.plain c member).2.1⟩
  · simp [object, opening]

end Json

end Vcompany.Foundation
