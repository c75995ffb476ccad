import Vcompany.Foundation.Json
import Vcompany.Foundation.PyValue

/-! # JSON documents

The values of a JSON document, the texts that are written for them, and `json.loads`, which reads
a text or raises. A writer has a style: `json.dumps` escapes every character outside ASCII by
the units of its UTF-16, and other serializers leave such characters as they are. A number with a
fraction or an exponent is known by its literal, as are `NaN` and the infinities.

`loads_write`: a value without such numbers, whose objects have distinct keys, is read back from
its text, whatever the style.
-/

namespace Vcompany.Foundation

/-- A value of a document. -/
inductive JsonValue where
  | null
  | bool (value : Bool)
  | int (value : ℤ)
  | float (literal : Text)
  | str (text : Text)
  | list (items : List JsonValue)
  | object (members : List (Text × JsonValue))

namespace JsonValue

/-- A field of an object. Validation raises a `ValueError` where it is missing. -/
def requiredField (key : Text) (members : List (Text × JsonValue)) : Except PyExc JsonValue :=
  match members.find? fun member => member.1 = key with
  | some member => .ok member.2
  | none => .error .valueError

/-- A field of type `str`. -/
def textField : JsonValue → Except PyExc Text
  | .str text => .ok text
  | _ => .error .valueError

mutual

/-- The object that `json.loads` makes of a value, where `parse` makes that of a literal. -/
def py (parse : Text → PyValue) : JsonValue → PyValue
  | .null => .none
  | .bool value => .num (if value then 1 else 0)
  | .int value => .num value
  | .float literal => parse literal
  | .str text => .str text
  | .list items => .list (pyItems parse items)
  | .object members => .dict (pyMembers parse members)

def pyItems (parse : Text → PyValue) : List JsonValue → List PyValue
  | [] => []
  | item :: rest => item.py parse :: pyItems parse rest

def pyMembers (parse : Text → PyValue) : List (Text × JsonValue) → List (PyValue × PyValue)
  | [] => []
  | (key, value) :: rest => (.str key, value.py parse) :: pyMembers parse rest

end

end JsonValue

namespace JsonText

/-! ## Reading -/

def isSpace (c : Char) : Bool := c == ' ' || c == '\t' || c == '\n' || c == '\r'

def skip (text : Text) : Text := text.dropWhile isSpace

def hexValue (c : Char) : Option ℕ :=
  if '0' ≤ c ∧ c ≤ '9' then some (c.toNat - 48)
  else if 'a' ≤ c ∧ c ≤ 'f' then some (c.toNat - 87)
  else if 'A' ≤ c ∧ c ≤ 'F' then some (c.toNat - 55)
  else none

/-- The character that a backslash and this stand for. -/
def unescape : Char → Option Char
  | '"' => some '"'
  | '\\' => some '\\'
  | '/' => some '/'
  | 'n' => some '\n'
  | 'r' => some '\r'
  | 't' => some '\t'
  | 'b' => some '\u0008'
  | 'f' => some '\u000c'
  | _ => none

/-- The units of a string, from behind its quotation mark, and what is behind the string. -/
def units : Text → Option (List ℕ × Text)
  | '"' :: rest => some ([], rest)
  | '\\' :: 'u' :: a :: b :: c :: d :: rest => do
      let unit := 4096 * (← hexValue a) + 256 * (← hexValue b) + 16 * (← hexValue c) +
        (← hexValue d)
      let (more, rest) ← units rest
      return (unit :: more, rest)
  | '\\' :: c :: rest => do
      let plain ← unescape c
      let (more, rest) ← units rest
      return (plain.toNat :: more, rest)
  | c :: rest =>
      if c.toNat < 32 then none
      else do
        let (more, rest) ← units rest
        return (c.toNat :: more, rest)
  | [] => none

/-- The characters of the units. A surrogate that is not in a pair stands for no character. -/
def characters : List ℕ → Option Text
  | [] => some []
  | unit :: rest =>
      if unit < 0xD800 ∨ 0xDFFF < unit then do return Char.ofNat unit :: (← characters rest)
      else
        match rest with
        | low :: rest =>
            if unit < 0xDC00 ∧ 0xDC00 ≤ low ∧ low ≤ 0xDFFF then do
              return Char.ofNat (0x10000 + (unit - 0xD800) * 0x400 + (low - 0xDC00)) ::
                (← characters rest)
            else none
        | [] => none

/-- A string, from behind its quotation mark. -/
def string (text : Text) : Option (Text × Text) := do
  let (found, rest) ← units text
  return (← characters found, rest)

/-- A fraction, if there is one. -/
def fraction : Text → Text × Text
  | '.' :: c :: rest =>
      if c.isDigit then
        ('.' :: (c :: rest).takeWhile Char.isDigit, (c :: rest).dropWhile Char.isDigit)
      else ([], '.' :: c :: rest)
  | text => ([], text)

/-- An exponent, if there is one. -/
def exponent : Text → Text × Text
  | mark :: rest =>
      let sign := (rest.take 1).filter fun c => c == '+' || c == '-'
      let digits := (rest.drop sign.length).takeWhile Char.isDigit
      if (mark = 'e' ∨ mark = 'E') ∧ digits ≠ [] then
        (mark :: (sign ++ digits), rest.drop (sign.length + digits.length))
      else ([], mark :: rest)
  | [] => ([], [])

/-- The digits before the fraction: a zero, or digits that do not start with one. -/
def whole : Text → Option (Text × Text)
  | '0' :: rest => some (['0'], rest)
  | c :: rest =>
      if c.isDigit then
        some ((c :: rest).takeWhile Char.isDigit, (c :: rest).dropWhile Char.isDigit)
      else none
  | [] => none

def unsigned (negative : Bool) (text : Text) : Option (JsonValue × Text) := do
  let (digits, rest) ← whole text
  let (fraction, rest) := fraction rest
  let (exponent, rest) := exponent rest
  let sign : ℤ := if negative then -1 else 1
  if fraction = [] ∧ exponent = [] then
    return (.int (sign * Nat.ofDigitChars 10 digits 0), rest)
  else
    return (.float ((if negative then ['-'] else []) ++ digits ++ fraction ++ exponent), rest)

def number : Text → Option (JsonValue × Text)
  | '-' :: rest => unsigned true rest
  | text => unsigned false text

/-- The constants. -/
def constants : List (Text × JsonValue) :=
  [(['n', 'u', 'l', 'l'], .null), (['t', 'r', 'u', 'e'], .bool true),
    (['f', 'a', 'l', 's', 'e'], .bool false), (['N', 'a', 'N'], .float "NaN"),
    (['I', 'n', 'f', 'i', 'n', 'i', 't', 'y'], .float "Infinity"),
    (['-', 'I', 'n', 'f', 'i', 'n', 'i', 't', 'y'], .float "-Infinity")]

def constant (text : Text) : Option (JsonValue × Text) :=
  constants.findSome? fun entry => (text.dropPrefix? entry.1).map fun rest => (entry.2, rest)

/-- `members[key] = value`. -/
def setMember (key : Text) (value : JsonValue) :
    List (Text × JsonValue) → List (Text × JsonValue)
  | [] => [(key, value)]
  | (other, old) :: rest =>
      if other = key then (other, value) :: rest else (other, old) :: setMember key value rest

/-- The `dict` of the members. -/
def toDict (members : List (Text × JsonValue)) : List (Text × JsonValue) :=
  members.foldl (fun found member => setMember member.1 member.2 found) []

mutual

/-- A value at the start of the text, and what is behind it. -/
def value : ℕ → Text → Option (JsonValue × Text)
  | 0, _ => none
  | fuel + 1, text =>
      match text with
      | '"' :: rest => (string rest).map fun found => (.str found.1, found.2)
      | '[' :: rest =>
          match skip rest with
          | ']' :: rest => some (.list [], rest)
          | rest => (items fuel rest).map fun found => (.list found.1, found.2)
      | '{' :: rest =>
          match skip rest with
          | '}' :: rest => some (.object [], rest)
          | rest => (members fuel rest).map fun found => (.object (toDict found.1), found.2)
      | text => (constant text).or (number text)

/-- The items of a list, from the first one on, and what is behind the list. -/
def items : ℕ → Text → Option (List JsonValue × Text)
  | 0, _ => none
  | fuel + 1, text => do
      let (item, rest) ← value fuel text
      match skip rest with
      | ']' :: rest => some ([item], rest)
      | ',' :: rest => do
          let (more, rest) ← items fuel (skip rest)
          return (item :: more, rest)
      | _ => none

/-- The members of an object, from the first one on, and what is behind the object. -/
def members : ℕ → Text → Option (List (Text × JsonValue) × Text)
  | 0, _ => none
  | fuel + 1, text =>
      match text with
      | '"' :: rest => do
          let (key, rest) ← string rest
          match skip rest with
          | ':' :: rest => do
              let (item, rest) ← value fuel (skip rest)
              match skip rest with
              | '}' :: rest => some ([(key, item)], rest)
              | ',' :: rest => do
                  let (more, rest) ← members fuel (skip rest)
                  return ((key, item) :: more, rest)
              | _ => none
          | _ => none
      | _ => none

end

/-- `json.loads`. A text that starts with a byte order mark is refused. -/
def loads (text : Text) : Except PyExc JsonValue :=
  if text.head? = some '\uFEFF' then .error .jsonDecodeError
  else
    match value (text.length + 1) (skip text) with
    | some (found, rest) => if skip rest = [] then .ok found else .error .jsonDecodeError
    | none => .error .jsonDecodeError

/-! ## Escapes -/

/-- Four hexadecimal digits. -/
def hex4 (unit : ℕ) : Text :=
  [Nat.digitChar (unit / 4096 % 16), Nat.digitChar (unit / 256 % 16),
    Nat.digitChar (unit / 16 % 16), Nat.digitChar (unit % 16)]

/-- The units of a character in UTF-16. -/
def utf16 (c : Char) : List ℕ :=
  if c.toNat < 0x10000 then [c.toNat]
  else [0xD800 + (c.toNat - 0x10000) / 0x400, 0xDC00 + (c.toNat - 0x10000) % 0x400]

/-- A character of a string, with `ensure_ascii`. -/
def escapeChar (c : Char) : Text :=
  if c = '"' then ['\\', '"']
  else if c = '\\' then ['\\', '\\']
  else if c = '\n' then ['\\', 'n']
  else if c = '\r' then ['\\', 'r']
  else if c = '\t' then ['\\', 't']
  else if c = '\u0008' then ['\\', 'b']
  else if c = '\u000c' then ['\\', 'f']
  else if 32 ≤ c.toNat ∧ c.toNat ≤ 126 then [c]
  else (utf16 c).flatMap fun unit => '\\' :: 'u' :: hex4 unit

theorem hexValue_digitChar : ∀ digit < 16, hexValue (Nat.digitChar digit) = some digit := by
  decide

theorem units_hex4 {unit : ℕ} (small : unit < 0x10000) (rest : Text) :
    units ('\\' :: 'u' :: (hex4 unit ++ rest)) =
      (units rest).map fun found => (unit :: found.1, found.2) := by
  have digit (place : ℕ) : hexValue (Nat.digitChar (place % 16)) = some (place % 16) :=
    hexValue_digitChar _ (Nat.mod_lt _ (by omega))
  have total : 4096 * (unit / 4096 % 16) + 256 * (unit / 256 % 16) + 16 * (unit / 16 % 16) +
      unit % 16 = unit := by
    omega
  unfold hex4
  rw [List.cons_append, List.cons_append, List.cons_append, List.cons_append, List.nil_append,
    units, digit, digit, digit, digit]
  simp only [bind, Option.bind, total, pure]
  cases units rest <;> rfl

theorem units_backslash {mark plain : Char} (stands : unescape mark = some plain) (rest : Text) :
    units ('\\' :: mark :: rest) =
      (units rest).map fun found => (plain.toNat :: found.1, found.2) := by
  have other : mark ≠ 'u' := by
    rintro rfl
    cases stands
  rw [units]
  · simp only [stands, bind, Option.bind, pure]
    cases units rest <;> rfl
  · intro a b c d more same
    exact absurd same other

theorem units_plain {c : Char} (quote : c ≠ '"') (backslash : c ≠ '\\') (printed : 32 ≤ c.toNat)
    (rest : Text) :
    units (c :: rest) = (units rest).map fun found => (c.toNat :: found.1, found.2) := by
  rw [units]
  · rw [if_neg (by omega)]
    simp only [bind, Option.bind, pure]
    cases units rest <;> rfl
  · exact quote
  · intro a b c' d more same
    exact absurd same backslash
  · intro c' more same
    exact absurd same backslash

theorem toNat_scalar (c : Char) : c.toNat < 0xD800 ∨ 0xDFFF < c.toNat := by
  rcases c.valid with low | ⟨high, _⟩
  · exact Or.inl low
  · exact Or.inr high

theorem toNat_lt (c : Char) : c.toNat < 0x110000 := by
  rcases c.valid with low | ⟨_, high⟩
  · exact Nat.lt_trans low (by decide)
  · exact high

theorem utf16_of_small {c : Char} (small : c.toNat < 0x10000) : utf16 c = [c.toNat] := if_pos small

/-- A character of a string is read as its units. -/
theorem units_escapeChar (c : Char) (rest : Text) :
    units (escapeChar c ++ rest) =
      (units rest).map fun found => (utf16 c ++ found.1, found.2) := by
  unfold escapeChar
  split_ifs with quote backslash newline return_ tab back feed plain
  · rw [quote]
    exact units_backslash rfl rest
  · rw [backslash]
    exact units_backslash rfl rest
  · rw [newline]
    exact units_backslash rfl rest
  · rw [return_]
    exact units_backslash rfl rest
  · rw [tab]
    exact units_backslash rfl rest
  · rw [back]
    exact units_backslash rfl rest
  · rw [feed]
    exact units_backslash rfl rest
  · rw [utf16_of_small (by omega)]
    exact units_plain quote backslash plain.1 rest
  · unfold utf16
    split
    · next small => exact units_hex4 small rest
    · next large =>
      have bound := toNat_lt c
      have cut (high low : ℕ) : ([high, low].flatMap fun unit => '\\' :: 'u' :: hex4 unit) ++ rest =
          '\\' :: 'u' :: (hex4 high ++ '\\' :: 'u' :: (hex4 low ++ rest)) := by
        simp
      rw [cut, units_hex4 (by omega), units_hex4 (by omega), Option.map_map]
      rfl

theorem characters_utf16 (c : Char) (rest : List ℕ) :
    characters (utf16 c ++ rest) = (characters rest).map (c :: ·) := by
  unfold utf16
  split
  · have scalar : c.toNat < 0xD800 ∨ 0xDFFF < c.toNat := toNat_scalar c
    rw [List.singleton_append, characters.eq_def]
    dsimp only
    rw [if_pos scalar, Char.ofNat_toNat]
    cases characters rest <;> rfl
  · next large =>
    have bound := toNat_lt c
    have high : ¬ (0xD800 + (c.toNat - 0x10000) / 0x400 < 0xD800 ∨
        0xDFFF < 0xD800 + (c.toNat - 0x10000) / 0x400) := by
      omega
    have paired : 0xD800 + (c.toNat - 0x10000) / 0x400 < 0xDC00 ∧
        0xDC00 ≤ 0xDC00 + (c.toNat - 0x10000) % 0x400 ∧
          0xDC00 + (c.toNat - 0x10000) % 0x400 ≤ 0xDFFF := by
      omega
    have whole : 0x10000 + (0xD800 + (c.toNat - 0x10000) / 0x400 - 0xD800) * 0x400 +
        (0xDC00 + (c.toNat - 0x10000) % 0x400 - 0xDC00) = c.toNat := by
      omega
    rw [List.cons_append, List.singleton_append, characters.eq_def]
    dsimp only
    rw [if_neg high, if_pos paired, whole, Char.ofNat_toNat]
    cases characters rest <;> rfl

/-- A scalar value is the unit of its character. -/
theorem characters_toNat (c : Char) (rest : List ℕ) :
    characters ([c.toNat] ++ rest) = (characters rest).map (c :: ·) := by
  have scalar : c.toNat < 0xD800 ∨ 0xDFFF < c.toNat := toNat_scalar c
  rw [List.singleton_append, characters.eq_def]
  dsimp only
  rw [if_pos scalar, Char.ofNat_toNat]
  cases characters rest <;> rfl

/-- A character that a serializer escapes only where it has to. -/
theorem units_json_escapeChar (c : Char) (rest : Text) :
    units (Json.escapeChar c ++ rest) =
      (units rest).map fun found => ([c.toNat] ++ found.1, found.2) := by
  unfold Json.escapeChar
  split_ifs with quote backslash newline return_ tab back feed control
  · rw [quote]
    exact units_backslash rfl rest
  · rw [backslash]
    exact units_backslash rfl rest
  · rw [newline]
    exact units_backslash rfl rest
  · rw [return_]
    exact units_backslash rfl rest
  · rw [tab]
    exact units_backslash rfl rest
  · rw [back]
    exact units_backslash rfl rest
  · rw [feed]
    exact units_backslash rfl rest
  · have digits : "\\u00".toList ++
        [Nat.digitChar (c.toNat / 16), Nat.digitChar (c.toNat % 16)] =
          '\\' :: 'u' :: hex4 c.toNat := by
      have low : c.toNat / 16 % 16 = c.toNat / 16 := Nat.mod_eq_of_lt (by omega)
      have none : c.toNat / 256 % 16 = 0 ∧ c.toNat / 4096 % 16 = 0 := by omega
      rw [hex4, low, none.1, none.2]
      rfl
    rw [digits]
    exact units_hex4 (by omega) rest
  · exact units_plain quote backslash (by omega) rest

/-! ## Writing -/

/-- How the characters of a string are written, so that they can be read back, and the spaces
behind a comma or a colon. -/
structure Style where
  escape : Char → Text
  gap : Text
  readable : ∀ c, ∃ code,
    (∀ rest, units (escape c ++ rest) =
      (units rest).map fun found => (code ++ found.1, found.2)) ∧
    ∀ rest, characters (code ++ rest) = (characters rest).map (c :: ·)
  blank : ∀ c ∈ gap, isSpace c = true

/-- The style of `json.dumps`. -/
def ascii : Style where
  escape := escapeChar
  gap := [' ']
  readable c := ⟨utf16 c, units_escapeChar c, characters_utf16 c⟩
  blank := List.forall_mem_singleton.mpr rfl

/-- The style of `model_dump_json`. -/
def compact : Style where
  escape := Json.escapeChar
  gap := []
  readable c := ⟨[c.toNat], units_json_escapeChar c, characters_toNat c⟩
  blank := List.forall_mem_nil _

section

variable (style : Style)

def quote (text : Text) : Text := '"' :: (text.flatMap style.escape ++ ['"'])

def dumpsInt : ℤ → Text
  | .ofNat value => Nat.toDigits 10 value
  | .negSucc value => '-' :: Nat.toDigits 10 (value + 1)

mutual

/-- The text of a value. -/
def write : JsonValue → Text
  | .null => ['n', 'u', 'l', 'l']
  | .bool true => ['t', 'r', 'u', 'e']
  | .bool false => ['f', 'a', 'l', 's', 'e']
  | .int value => dumpsInt value
  | .float literal => literal
  | .str text => quote style text
  | .list [] => ['[', ']']
  | .list (first :: rest) => '[' :: (write first ++ writeItems rest)
  | .object [] => ['{', '}']
  | .object ((key, value) :: rest) =>
      '{' :: (quote style key ++ ':' :: (style.gap ++ (write value ++ writeMembers rest)))

/-- From behind an item of a list to the end of the list. -/
def writeItems : List JsonValue → Text
  | [] => [']']
  | item :: rest => ',' :: (style.gap ++ (write item ++ writeItems rest))

/-- From behind a member of an object to the end of the object. -/
def writeMembers : List (Text × JsonValue) → Text
  | [] => ['}']
  | (key, value) :: rest =>
      ',' :: (style.gap ++
        (quote style key ++ ':' :: (style.gap ++ (write value ++ writeMembers rest))))

end

end

/-- `json.dumps`. -/
def dumps : JsonValue → Text := write ascii

/-! ## Strings are read back -/

section

variable {style : Style}

/-- The characters of a string are read as units that stand for them. -/
theorem units_escape (text rest : Text) : ∃ code,
    units (text.flatMap style.escape ++ '"' :: rest) = some (code, rest) ∧
      characters code = some text := by
  induction text with
  | nil => exact ⟨[], rfl, rfl⟩
  | cons c text ih =>
      obtain ⟨code, read, stands⟩ := ih
      obtain ⟨own, reads, spells⟩ := style.readable c
      refine ⟨own ++ code, ?_, ?_⟩
      · rw [List.flatMap_cons, List.append_assoc, reads, read]
        rfl
      · rw [spells, stands]
        rfl

/-- A string is read back, and what is behind it is left. -/
theorem string_quote (text rest : Text) :
    string (text.flatMap style.escape ++ '"' :: rest) = some (text, rest) := by
  obtain ⟨code, read, stands⟩ := @units_escape style text rest
  unfold string
  rw [read]
  simp only [bind, Option.bind, stands]
  rfl

theorem skip_gap (rest : Text) : skip (style.gap ++ rest) = skip rest :=
  List.dropWhile_append_of_pos style.blank

/-! ## Numbers are read back -/

/-- Nothing at the start of the text belongs to a number before it. -/
def Ends (text : Text) : Prop :=
  ∀ c ∈ text.head?, c.isDigit = false ∧ c ≠ '.' ∧ c ≠ 'e' ∧ c ≠ 'E'

theorem ends_cons {c : Char} {text : Text}
    (other : c.isDigit = false ∧ c ≠ '.' ∧ c ≠ 'e' ∧ c ≠ 'E') : Ends (c :: text) := by
  intro d first
  obtain rfl := Option.some.inj first
  exact other

/-- The digits of a positive number start with another digit than zero. -/
theorem toDigits_pos {value : ℕ} (positive : 0 < value) :
    ∃ c digits, Nat.toDigits 10 value = c :: digits ∧ c ≠ '0' := by
  induction value using Nat.strong_induction_on with
  | _ value ih =>
      by_cases small : value < 10
      · refine ⟨_, [], Nat.toDigits_of_lt_base small, ?_⟩
        simp only [ne_eq, Nat.digitChar_eq_zero]
        omega
      · obtain ⟨c, digits, same, nonzero⟩ := ih (value / 10) (by omega) (by omega)
        rw [Nat.toDigits_of_base_le (by decide) (by omega), same]
        exact ⟨c, _, rfl, nonzero⟩

theorem isDigit_toDigits (value : ℕ) : ∀ c ∈ Nat.toDigits 10 value, c.isDigit = true :=
  fun _ member => Nat.isDigit_of_mem_toDigits (by decide) (by decide) member

theorem whole_toDigits (value : ℕ) {rest : Text} (ends : Ends rest) :
    whole (Nat.toDigits 10 value ++ rest) = some (Nat.toDigits 10 value, rest) := by
  rcases Nat.eq_zero_or_pos value with rfl | positive
  · rfl
  · obtain ⟨c, digits, same, nonzero⟩ := toDigits_pos positive
    have all := isDigit_toDigits value
    rw [same] at all ⊢
    have stops : rest.takeWhile Char.isDigit = [] ∧ rest.dropWhile Char.isDigit = rest := by
      cases rest with
      | nil => exact ⟨rfl, rfl⟩
      | cons d rest =>
          have other := (ends d rfl).1
          exact ⟨List.takeWhile_cons_of_neg (by simp [other]),
            List.dropWhile_cons_of_neg (by simp [other])⟩
    rw [List.cons_append, whole]
    · rw [if_pos (all c List.mem_cons_self), ← List.cons_append,
        List.takeWhile_append_of_pos all, List.dropWhile_append_of_pos all, stops.1, stops.2,
        List.append_nil]
    · exact nonzero

theorem fraction_of_ends {rest : Text} (ends : Ends rest) : fraction rest = ([], rest) := by
  unfold fraction
  split
  · next c rest => exact absurd rfl (ends '.' rfl).2.1
  · rfl

theorem exponent_of_ends {rest : Text} (ends : Ends rest) : exponent rest = ([], rest) := by
  unfold exponent
  split
  · next mark rest =>
    have other := ends mark rfl
    simp [other]
  · rfl

theorem unsigned_toDigits (negative : Bool) (value : ℕ) {rest : Text} (ends : Ends rest) :
    unsigned negative (Nat.toDigits 10 value ++ rest) =
      some (.int ((if negative then -1 else 1) * value), rest) := by
  unfold unsigned
  rw [whole_toDigits value ends]
  simp only [bind, Option.bind, fraction_of_ends ends, exponent_of_ends ends, and_self, if_true,
    Nat.ofDigitChars_ten_toDigits, pure]

theorem ne_of_isDigit {c d : Char} (digit : c.isDigit = true) (other : d.isDigit = false) :
    c ≠ d := by
  rintro rfl
  rw [other] at digit
  cases digit

theorem toDigits_cons (value : ℕ) :
    ∃ c digits, Nat.toDigits 10 value = c :: digits ∧ c.isDigit = true := by
  have all := isDigit_toDigits value
  rcases same : Nat.toDigits 10 value with _ | ⟨c, digits⟩
  · exact absurd same Nat.toDigits_ne_nil
  · exact ⟨c, digits, rfl, all c (by rw [same]; exact List.mem_cons_self)⟩

theorem number_dumpsInt (value : ℤ) {rest : Text} (ends : Ends rest) :
    number (dumpsInt value ++ rest) = some (.int value, rest) := by
  cases value with
  | ofNat value =>
      obtain ⟨c, digits, same, digit⟩ := toDigits_cons value
      have read := unsigned_toDigits false value ends
      rw [same] at read
      rw [dumpsInt, same, List.cons_append, number, ← List.cons_append, read]
      · simp
      · exact fun more => ne_of_isDigit digit rfl ∘ fun same => (List.cons.inj same).1
  | negSucc value =>
      have read := unsigned_toDigits true (value + 1) ends
      rw [dumpsInt, List.cons_append, number, read]
      simp [Int.negSucc_eq]

/-! ## Values are read back -/

/-- The value has no number with a fraction or an exponent, and its objects have distinct
keys. -/
inductive Plain : JsonValue → Prop where
  | null : Plain .null
  | bool (value : Bool) : Plain (.bool value)
  | int (value : ℤ) : Plain (.int value)
  | str (text : Text) : Plain (.str text)
  | list {items : List JsonValue} (each : ∀ item ∈ items, Plain item) : Plain (.list items)
  | object {members : List (Text × JsonValue)} (distinct : (members.map Prod.fst).Nodup)
      (each : ∀ member ∈ members, Plain member.2) : Plain (.object members)

/-- The value is read back from its text, with fuel for every character of it. -/
def Reads (style : Style) (found : JsonValue) : Prop :=
  ∀ fuel rest, (write style found).length ≤ fuel → Ends rest →
    value fuel (write style found ++ rest) = some (found, rest)

theorem value_other {c : Char} (quote : c ≠ '"') (bracket : c ≠ '[') (brace : c ≠ '{') (fuel : ℕ)
    (rest : Text) :
    value (fuel + 1) (c :: rest) = (constant (c :: rest)).or (number (c :: rest)) := by
  rw [value]
  · exact fun more same => quote (List.cons.inj same).1
  · exact fun more same => bracket (List.cons.inj same).1
  · exact fun more same => brace (List.cons.inj same).1

theorem constant_of_isDigit {c : Char} (digit : c.isDigit = true) (rest : Text) :
    constant (c :: rest) = none ∧ constant ('-' :: c :: rest) = none := by
  have apart (d : Char) (other : d.isDigit = false) : (c == d) = false :=
    beq_false_of_ne (ne_of_isDigit digit other)
  simp [constant, constants, List.findSome?, List.dropPrefix?, apart]

theorem reads_of_succ {found : JsonValue} (written : write style found ≠ [])
    (reads : ∀ fuel rest, (write style found).length ≤ fuel + 1 → Ends rest →
      value (fuel + 1) (write style found ++ rest) = some (found, rest)) : Reads style found := by
  intro fuel rest enough ends
  cases fuel with
  | zero => exact absurd (List.length_eq_zero_iff.mp (Nat.le_zero.mp enough)) written
  | succ fuel => exact reads fuel rest enough ends

theorem reads_int (found : ℤ) : Reads style (.int found) := by
  have number (rest : Text) (ends : Ends rest) := number_dumpsInt found ends
  cases found with
  | ofNat found =>
      obtain ⟨c, digits, same, digit⟩ := toDigits_cons found
      have written : write style (.int (.ofNat found)) = c :: digits := same
      have read : dumpsInt (.ofNat found) = c :: digits := same
      refine reads_of_succ (by rw [written]; exact List.cons_ne_nil _ _) fun fuel rest _ ends => ?_
      have found_ := number rest ends
      rw [read] at found_
      rw [written, List.cons_append, value_other (ne_of_isDigit digit rfl)
        (ne_of_isDigit digit rfl) (ne_of_isDigit digit rfl), (constant_of_isDigit digit _).1]
      exact found_
  | negSucc found =>
      obtain ⟨c, digits, same, digit⟩ := toDigits_cons (found + 1)
      have written : write style (.int (.negSucc found)) = '-' :: c :: digits := congrArg _ same
      have read : dumpsInt (.negSucc found) = '-' :: c :: digits := congrArg _ same
      refine reads_of_succ (by rw [written]; exact List.cons_ne_nil _ _) fun fuel rest _ ends => ?_
      have found_ := number rest ends
      rw [read] at found_
      rw [written, List.cons_append, List.cons_append, value_other (by decide) (by decide)
        (by decide), (constant_of_isDigit digit _).2]
      exact found_

theorem quote_append (text rest : Text) :
    quote style text ++ rest = '"' :: (text.flatMap style.escape ++ '"' :: rest) := by
  rw [quote, List.cons_append, List.append_assoc]
  rfl

theorem reads_str (text : Text) : Reads style (.str text) := by
  refine reads_of_succ (List.cons_ne_nil _ _) fun fuel rest _ _ => ?_
  rw [write, quote_append, value, string_quote]
  rfl

/-- The first character of a value: no space, no end of a list, and no byte order mark. -/
theorem write_starts (style : Style) {found : JsonValue} (plain : Plain found) :
    ∃ c more, write style found = c :: more ∧ isSpace c = false ∧ c ≠ ']' ∧ c ≠ '\uFEFF' := by
  cases plain with
  | null => exact ⟨'n', _, rfl, by decide, by decide, by decide⟩
  | bool value => cases value <;> exact ⟨_, _, rfl, by decide, by decide, by decide⟩
  | int value =>
      cases value with
      | ofNat value =>
          obtain ⟨c, digits, same, digit⟩ := toDigits_cons value
          refine ⟨c, digits, same, ?_, ne_of_isDigit digit rfl, ne_of_isDigit digit rfl⟩
          have apart (d : Char) (other : d.isDigit = false) : (c == d) = false :=
            beq_false_of_ne (ne_of_isDigit digit other)
          simp [isSpace, apart]
      | negSucc value => exact ⟨'-', _, rfl, by decide, by decide, by decide⟩
  | str text => exact ⟨'"', _, rfl, by decide, by decide, by decide⟩
  | @list items _ => cases items <;> exact ⟨'[', _, rfl, by decide, by decide, by decide⟩
  | @object members _ _ => cases members <;> exact ⟨'{', _, rfl, by decide, by decide, by decide⟩

theorem skip_of_start {c : Char} (solid : isSpace c = false) (rest : Text) :
    skip (c :: rest) = c :: rest := List.dropWhile_cons_of_neg (by simp [solid])

theorem skip_write {found : JsonValue} (plain : Plain found) (rest : Text) :
    skip (write style found ++ rest) = write style found ++ rest := by
  obtain ⟨c, more, same, solid, _⟩ := write_starts style plain
  rw [same]
  exact skip_of_start solid _

/-- The items of a list are read back up to the end of the list. -/
theorem items_write {first : JsonValue} {more : List JsonValue}
    (each : ∀ item ∈ first :: more, Plain item ∧ Reads style item) (fuel : ℕ) (rest : Text)
    (enough : (write style first ++ writeItems style more).length ≤ fuel) :
    items fuel (write style first ++ (writeItems style more ++ rest)) =
      some (first :: more, rest) := by
  induction more generalizing first fuel with
  | nil =>
      have reads := (each first List.mem_cons_self).2
      rw [writeItems, List.length_append, List.length_singleton] at enough
      obtain ⟨fuel, rfl⟩ : ∃ less, fuel = less + 1 := ⟨fuel - 1, by omega⟩
      rw [writeItems, List.singleton_append, items,
        reads fuel _ (by omega) (ends_cons (by decide))]
      rfl
  | cons second more ih =>
      obtain ⟨⟨_, reads⟩, later⟩ := List.forall_mem_cons.mp each
      rw [writeItems, List.length_append, List.length_cons, List.length_append] at enough
      obtain ⟨fuel, rfl⟩ : ∃ less, fuel = less + 1 := ⟨fuel - 1, by omega⟩
      have onward := ih later fuel (by omega)
      rw [writeItems, List.cons_append, List.append_assoc, List.append_assoc, items,
        reads fuel _ (by omega) (ends_cons (by decide))]
      simp only [bind, Option.bind, skip_of_start (rfl : isSpace ',' = false)]
      rw [skip_gap, skip_write (later second List.mem_cons_self).1, onward]
      rfl

theorem reads_list {found : List JsonValue}
    (each : ∀ item ∈ found, Plain item ∧ Reads style item) : Reads style (.list found) := by
  cases found with
  | nil =>
      refine reads_of_succ (List.cons_ne_nil _ _) fun fuel rest _ _ => ?_
      change value (fuel + 1) ('[' :: ']' :: rest) = _
      rw [value, skip_of_start (by decide)]
      rfl
  | cons first more =>
      refine reads_of_succ (List.cons_ne_nil _ _) fun fuel rest enough _ => ?_
      have plain := (each first List.mem_cons_self).1
      obtain ⟨c, text, same, _, apart, _⟩ := write_starts style plain
      rw [write, List.length_cons] at enough
      have read := items_write each fuel rest (by omega)
      rw [write, List.cons_append, List.append_assoc, value, skip_write plain]
      split
      · next more' cut =>
        rw [same] at cut
        exact absurd (List.cons.inj cut).1 apart
      · rw [read]
        rfl

/-- The members of an object are read back up to the end of the object. -/
theorem members_write {key : Text} {first : JsonValue} {more : List (Text × JsonValue)}
    (each : ∀ member ∈ (key, first) :: more, Plain member.2 ∧ Reads style member.2) (fuel : ℕ)
    (rest : Text)
    (enough : (quote style key ++
      ':' :: (style.gap ++ (write style first ++ writeMembers style more))).length ≤ fuel) :
    members fuel (quote style key ++
        ':' :: (style.gap ++ (write style first ++ (writeMembers style more ++ rest)))) =
      some ((key, first) :: more, rest) := by
  induction more generalizing key first fuel with
  | nil =>
      obtain ⟨plain, reads⟩ : Plain first ∧ Reads style first := each _ List.mem_cons_self
      simp only [writeMembers, List.length_append, List.length_cons, List.length_nil] at enough
      obtain ⟨fuel, rfl⟩ : ∃ less, fuel = less + 1 := ⟨fuel - 1, by omega⟩
      rw [writeMembers, List.singleton_append, quote_append, members, string_quote]
      simp only [bind, Option.bind, skip_of_start (rfl : isSpace ':' = false)]
      rw [skip_gap, skip_write plain, reads fuel _ (by omega) (ends_cons (by decide))]
      rfl
  | cons second more ih =>
      obtain ⟨plain, reads⟩ : Plain first ∧ Reads style first := each _ List.mem_cons_self
      obtain ⟨name, item⟩ := second
      rw [writeMembers] at enough ⊢
      simp only [List.length_append, List.length_cons] at enough
      obtain ⟨fuel, rfl⟩ : ∃ less, fuel = less + 1 := ⟨fuel - 1, by omega⟩
      have onward := ih (fun member mem => each member (List.mem_cons_of_mem _ mem)) fuel
        (by simp only [List.length_append, List.length_cons]; omega)
      rw [quote_append, members, string_quote]
      simp only [bind, Option.bind, skip_of_start (rfl : isSpace ':' = false)]
      rw [skip_gap, skip_write plain, List.cons_append,
        reads fuel _ (by omega) (ends_cons (by decide))]
      simp only [skip_of_start (rfl : isSpace ',' = false), List.cons_append, List.append_assoc]
      have start (after : Text) :
          skip (style.gap ++ (quote style name ++ after)) = quote style name ++ after := by
        rw [skip_gap, quote_append]
        exact skip_of_start rfl _
      rw [start, onward]
      rfl

theorem setMember_of_fresh {key : Text} {members : List (Text × JsonValue)}
    (fresh : key ∉ members.map Prod.fst) (item : JsonValue) :
    setMember key item members = members ++ [(key, item)] := by
  induction members with
  | nil => rfl
  | cons member members ih =>
      obtain ⟨other, later⟩ := List.ne_and_not_mem_of_not_mem_cons fresh
      rw [setMember, if_neg (Ne.symm other), ih later]
      rfl

/-- Members with distinct keys are a `dict` already. -/
theorem toDict_of_nodup {members : List (Text × JsonValue)}
    (distinct : (members.map Prod.fst).Nodup) : toDict members = members := by
  have onward (found later : List (Text × JsonValue))
      (distinct : ((found ++ later).map Prod.fst).Nodup) :
      later.foldl (fun found member => setMember member.1 member.2 found) found =
        found ++ later := by
    induction later generalizing found with
    | nil => exact (List.append_nil found).symm
    | cons member later ih =>
        have fresh : member.1 ∉ found.map Prod.fst := fun old =>
          (List.nodup_append.mp (List.map_append ▸ distinct)).2.2 _ old _
            (List.mem_map.mpr ⟨member, List.mem_cons_self, rfl⟩) rfl
        rw [List.foldl_cons, setMember_of_fresh fresh, ih _ (by rwa [List.append_assoc])]
        exact List.append_assoc ..
  exact onward [] members distinct

theorem reads_object {found : List (Text × JsonValue)} (distinct : (found.map Prod.fst).Nodup)
    (each : ∀ member ∈ found, Plain member.2 ∧ Reads style member.2) :
    Reads style (.object found) := by
  cases found with
  | nil =>
      refine reads_of_succ (List.cons_ne_nil _ _) fun fuel rest _ _ => ?_
      change value (fuel + 1) ('{' :: '}' :: rest) = _
      rw [value, skip_of_start (by decide)]
      rfl
  | cons member more =>
      obtain ⟨key, first⟩ := member
      refine reads_of_succ (List.cons_ne_nil _ _) fun fuel rest enough _ => ?_
      rw [write, List.length_cons] at enough
      have read := members_write each fuel rest (by omega)
      rw [write, List.cons_append, List.append_assoc, List.cons_append, List.append_assoc,
        List.append_assoc, value]
      rw [quote_append] at read ⊢
      rw [skip_of_start rfl]
      change Option.map (fun found : List (Text × JsonValue) × Text =>
        (JsonValue.object (toDict found.1), found.2)) (members fuel _) = _
      rw [read]
      exact congrArg (fun members => some (JsonValue.object members, rest))
        (toDict_of_nodup distinct)

theorem reads_constant {found : JsonValue} {c : Char} {more : Text}
    (written : write style found = c :: more) (letter : c = 'n' ∨ c = 't' ∨ c = 'f')
    (read : ∀ rest, constant (c :: (more ++ rest)) = some (found, rest)) : Reads style found := by
  refine reads_of_succ (by rw [written]; exact List.cons_ne_nil _ _) fun fuel rest _ _ => ?_
  have apart (d : Char) (other : d ≠ 'n' ∧ d ≠ 't' ∧ d ≠ 'f') : c ≠ d := by
    rintro rfl
    rcases letter with same | same | same
    · exact other.1 same
    · exact other.2.1 same
    · exact other.2.2 same
  rw [written, List.cons_append, value_other (apart _ (by decide)) (apart _ (by decide))
    (apart _ (by decide)), read]
  rfl

theorem reads_of_plain {found : JsonValue} (plain : Plain found) : Reads style found := by
  induction plain with
  | null =>
      refine reads_constant rfl (Or.inl rfl) fun rest => ?_
      simp [constant, constants, List.dropPrefix?]
  | bool value =>
      cases value with
      | true =>
          refine reads_constant rfl (Or.inr (Or.inl rfl)) fun rest => ?_
          simp [constant, constants, List.findSome?, List.dropPrefix?]
      | false =>
          refine reads_constant rfl (Or.inr (Or.inr rfl)) fun rest => ?_
          simp [constant, constants, List.findSome?, List.dropPrefix?]
  | int value => exact reads_int value
  | str text => exact reads_str text
  | list each ih => exact reads_list fun item member => ⟨each item member, ih item member⟩
  | object distinct each ih =>
      exact reads_object distinct fun member mem => ⟨each member mem, ih member mem⟩

/-- **The round trip.** A value is read back from its text. -/
theorem loads_write (style : Style) {found : JsonValue} (plain : Plain found) :
    loads (write style found) = .ok found := by
  obtain ⟨c, more, written, _, _, unmarked⟩ := write_starts style plain
  have start : (write style found).head? ≠ some '\uFEFF' := by
    rw [written]
    exact fun same => unmarked (Option.some.inj same)
  have skipped := @skip_write style _ plain []
  have read := @reads_of_plain style _ plain ((write style found).length + 1) [] (Nat.le_succ _)
    nofun
  rw [List.append_nil] at skipped read
  rw [loads, if_neg start, skipped, read]
  exact if_pos rfl

end

end JsonText

end Vcompany.Foundation
