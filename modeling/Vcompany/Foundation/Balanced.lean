import Vcompany.Foundation.Json
import Vcompany.Foundation.Transition

/-! # Balanced texts

A text with its brackets in pairs and its strings closed, over any alphabet whose symbols have a
role. A reader that counts brackets is at the depth where it began once it has read such a text,
and never below (`Balanced.scan`, `Balanced.never_below`). So what is left of a bracketed text when
its end is cut off is not balanced (`Group.not_balanced`).
-/

namespace Vcompany.Foundation

/-- What a symbol is to a reader of brackets and strings. -/
inductive SymbolRole where
  | quote
  | escape
  | opens
  | closes
  | plain
  deriving DecidableEq

section Balanced

variable {α : Type} (role : α → SymbolRole)

/-- The inside of a string, where an escape covers the symbol behind it. -/
inductive StringBody : List α → Prop where
  | nil : StringBody []
  | escaped {c d : α} {rest : List α} :
      role c = .escape → StringBody rest → StringBody (c :: d :: rest)
  | symbol {c : α} {rest : List α} :
      role c ≠ .quote → role c ≠ .escape → StringBody rest → StringBody (c :: rest)

/-- The brackets are in pairs and the strings are closed. -/
inductive Balanced : List α → Prop where
  | nil : Balanced []
  | plain {c : α} {rest : List α} : role c = .plain → Balanced rest → Balanced (c :: rest)
  | quoted {c d : α} {body rest : List α} :
      role c = .quote → StringBody role body → role d = .quote → Balanced rest →
        Balanced (c :: (body ++ d :: rest))
  | group {c d : α} {inner rest : List α} :
      role c = .opens → Balanced inner → role d = .closes → Balanced rest →
        Balanced (c :: (inner ++ d :: rest))

/-- A balanced text in brackets. -/
def Group (text : List α) : Prop :=
  ∃ c inner d, text = c :: (inner ++ [d]) ∧ role c = .opens ∧ Balanced role inner ∧
    role d = .closes

/-- A reader: how many brackets are open, and where it is. -/
structure BracketReader where
  depth : ℤ
  place : Json.Place
  deriving DecidableEq

/-- Read a symbol. -/
def BracketReader.next (reader : BracketReader) (symbol : α) : BracketReader :=
  match reader.place, role symbol with
  | .outside, .opens => { reader with depth := reader.depth + 1 }
  | .outside, .closes => { reader with depth := reader.depth - 1 }
  | .outside, .quote => { reader with place := .inside }
  | .outside, _ => reader
  | .inside, .quote => { reader with place := .outside }
  | .inside, .escape => { reader with place := .escaped }
  | .inside, _ => reader
  | .escaped, _ => { reader with place := .inside }

/-- Read a text. -/
def scanBrackets (reader : BracketReader) (text : List α) : BracketReader :=
  text.foldl (BracketReader.next role) reader

variable {role}

theorem scanBrackets_cons (reader : BracketReader) (c : α) (text : List α) :
    scanBrackets role reader (c :: text) = scanBrackets role (reader.next role c) text := rfl

theorem scanBrackets_append (reader : BracketReader) (first second : List α) :
    scanBrackets role reader (first ++ second) =
      scanBrackets role (scanBrackets role reader first) second :=
  List.foldl_append

variable (role) in
/-- The reader is at the depth or deeper, all along the text. -/
def NeverBelow (low : ℤ) (reader : BracketReader) (text : List α) : Prop :=
  Throughout (BracketReader.next role) (fun reader => low ≤ reader.depth) reader text

/-! ## Strings -/

namespace StringBody

variable {body : List α}

/-- A string is read without a change of the depth. -/
theorem scan (isBody : StringBody role body) (depth : ℤ) :
    scanBrackets role ⟨depth, .inside⟩ body = ⟨depth, .inside⟩ ∧
      NeverBelow role depth ⟨depth, .inside⟩ body := by
  induction isBody with
  | nil => exact ⟨rfl, Int.le_refl depth⟩
  | @escaped c d rest escapes _ ih =>
      have read : BracketReader.next role ⟨depth, .inside⟩ c = ⟨depth, .escaped⟩ := by
        simp only [BracketReader.next, escapes]
      rw [scanBrackets_cons, scanBrackets_cons, read]
      refine ⟨ih.1, Int.le_refl depth, ?_⟩
      rw [read]
      exact ⟨Int.le_refl depth, ih.2⟩
  | @symbol c rest noQuote noEscape _ ih =>
      have read : BracketReader.next role ⟨depth, .inside⟩ c = ⟨depth, .inside⟩ := by
        cases own : role c with
        | quote => exact absurd own noQuote
        | escape => exact absurd own noEscape
        | opens | closes | plain => simp only [BracketReader.next, own]
      rw [scanBrackets_cons, read]
      refine ⟨ih.1, Int.le_refl depth, ?_⟩
      rw [read]
      exact ih.2

end StringBody

/-! ## Balanced texts -/

theorem NeverBelow.mono {low lower : ℤ} {reader : BracketReader} {text : List α}
    (always : NeverBelow role low reader text) (below : lower ≤ low) :
    NeverBelow role lower reader text :=
  Throughout.mono (fun _ above => Int.le_trans below above) always

/-- A part of the text, and what is behind it. -/
theorem NeverBelow.append {low : ℤ} {reader middle : BracketReader} {first second : List α}
    (always : NeverBelow role low reader first) (read : scanBrackets role reader first = middle)
    (later : NeverBelow role low middle second) : NeverBelow role low reader (first ++ second) :=
  throughout_append_iff.mpr ⟨always, by subst read; exact later⟩

namespace Balanced

variable {text : List α}

/-- A balanced text is read at the depth at which it begins, or deeper, and ends at it. -/
theorem scan (balanced : Balanced role text) (depth : ℤ) :
    scanBrackets role ⟨depth, .outside⟩ text = ⟨depth, .outside⟩ ∧
      NeverBelow role depth ⟨depth, .outside⟩ text := by
  induction balanced generalizing depth with
  | nil => exact ⟨rfl, Int.le_refl depth⟩
  | @plain c rest isPlain _ ih =>
      have read : BracketReader.next role ⟨depth, .outside⟩ c = ⟨depth, .outside⟩ := by
        simp only [BracketReader.next, isPlain]
      rw [scanBrackets_cons, read]
      refine ⟨(ih depth).1, Int.le_refl depth, ?_⟩
      rw [read]
      exact (ih depth).2
  | @quoted c d body rest opensString isBody closesString _ ih =>
      have opened : BracketReader.next role ⟨depth, .outside⟩ c = ⟨depth, .inside⟩ := by
        simp only [BracketReader.next, opensString]
      have closed : BracketReader.next role ⟨depth, .inside⟩ d = ⟨depth, .outside⟩ := by
        simp only [BracketReader.next, closesString]
      obtain ⟨read, above⟩ := isBody.scan depth
      rw [scanBrackets_cons, opened, scanBrackets_append, read, scanBrackets_cons, closed]
      refine ⟨(ih depth).1, Int.le_refl depth, ?_⟩
      rw [opened]
      refine above.append read ⟨Int.le_refl depth, ?_⟩
      rw [closed]
      exact (ih depth).2
  | @group c d inner rest isOpening _ isClosing _ ihInner ihRest =>
      have opened : BracketReader.next role ⟨depth, .outside⟩ c = ⟨depth + 1, .outside⟩ := by
        simp only [BracketReader.next, isOpening]
      have closed : BracketReader.next role ⟨depth + 1, .outside⟩ d = ⟨depth, .outside⟩ := by
        simp only [BracketReader.next, isClosing, Int.add_sub_cancel]
      obtain ⟨read, above⟩ := ihInner (depth + 1)
      have deeper : depth ≤ depth + 1 := by omega
      rw [scanBrackets_cons, opened, scanBrackets_append, read, scanBrackets_cons, closed]
      refine ⟨(ihRest depth).1, Int.le_refl depth, ?_⟩
      rw [opened]
      refine (above.mono deeper).append read ⟨deeper, ?_⟩
      rw [closed]
      exact (ihRest depth).2

theorem append {first second : List α} (balanced : Balanced role first)
    (later : Balanced role second) : Balanced role (first ++ second) := by
  induction balanced with
  | nil => exact later
  | plain isPlain _ ih => exact .plain isPlain ih
  | quoted opensString isBody closesString _ ih =>
      rw [List.cons_append, List.append_assoc]
      exact .quoted opensString isBody closesString ih
  | group isOpening inner isClosing _ _ ih =>
      rw [List.cons_append, List.append_assoc]
      exact .group isOpening inner isClosing ih

end Balanced

theorem Group.balanced {text : List α} (group : Group role text) : Balanced role text := by
  obtain ⟨c, inner, d, rfl, isOpening, balanced, isClosing⟩ := group
  exact .group isOpening balanced isClosing .nil

/-- A bracketed text without its end is not balanced: its first bracket is open. -/
theorem Group.not_balanced {text start : List α} (group : Group role text)
    (starts : start <+: text) (inhabited : start ≠ []) (cutOff : start ≠ text) :
    ¬ Balanced role start := by
  obtain ⟨c, inner, d, rfl, isOpening, balanced, -⟩ := group
  intro wrong
  obtain ⟨c, start, rfl⟩ := List.exists_cons_of_ne_nil inhabited
  obtain ⟨rfl, tail⟩ := List.cons_prefix_cons.mp starts
  have within : start <+: inner := by
    rcases List.prefix_concat_iff.mp tail with rfl | within
    · exact absurd rfl cutOff
    · exact within
  have opened : BracketReader.next role ⟨0, .outside⟩ c = ⟨1, .outside⟩ := by
    simp only [BracketReader.next, isOpening, Int.zero_add]
  have above : 1 ≤ (scanBrackets role ⟨1, .outside⟩ start).depth :=
    Throughout.last ((balanced.scan 1).2.of_isPrefix within)
  have read := (wrong.scan 0).1
  rw [scanBrackets_cons, opened] at read
  rw [read] at above
  exact absurd above (by decide)

end Balanced

end Vcompany.Foundation
