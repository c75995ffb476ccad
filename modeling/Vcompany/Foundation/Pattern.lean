import Vcompany.Foundation.Text

/-! # Patterns tried by backtracking

A pattern is a sequence of pieces, each a character of a class or a run of one or more of
them. A run is tried at its longest first. Beside it, the search for a lower-case phrase
whatever the case of the letters, by the equivalences of Python's `re.IGNORECASE`.
-/

namespace Vcompany.Foundation

structure Piece where
  accepts : Char → Bool
  repeated : Bool

abbrev Pattern := List Piece

namespace Pattern

/-- `\S`. -/
def isSolid (c : Char) : Bool := !Text.isSpace c

/-- `.`. -/
def isInline (c : Char) : Bool := c ≠ '\n'

/-- A run of accepted characters, the longest with whose rest the match goes on. -/
def greedy {β : Type} (accepts : Char → Bool) (next : Text → Option β) :
    Text → Option (Text × β)
  | [] => none
  | c :: rest =>
      if accepts c then
        match greedy accepts next rest with
        | some (run, result) => some (c :: run, result)
        | none => (next rest).map fun result => ([c], result)
      else none

/-- The match of a pattern between `^` and `$`: the text of each piece. -/
def fullMatch : Pattern → Text → Option (List Text)
  | [], text => if text = [] ∨ text = ['\n'] then some [] else none
  | ⟨accepts, true⟩ :: pieces, text =>
      (greedy accepts (fullMatch pieces) text).map fun found => found.1 :: found.2
  | ⟨accepts, false⟩ :: pieces, c :: text =>
      if accepts c then (fullMatch pieces text).map fun texts => [c] :: texts else none
  | ⟨_, false⟩ :: _, [] => none

section
variable {β : Type} {accepts : Char → Bool} {next : Text → Option β} {result : β}
  {run rest : Text} {c : Char}

theorem greedy_stop (refused : accepts c = false) : greedy accepts next (c :: rest) = none := by
  unfold greedy
  rw [if_neg (by rw [refused]; exact Bool.false_ne_true)]

/-- A run ends where the match goes on, if no longer run does. -/
theorem greedy_append (accepted : ∀ c ∈ run, accepts c = true) (inhabited : run ≠ [])
    (stops : greedy accepts next rest = none) (goes : next rest = some result) :
    greedy accepts next (run ++ rest) = some (run, result) := by
  induction run with
  | nil => exact absurd rfl inhabited
  | cons c run ih =>
      obtain ⟨first, later⟩ := List.forall_mem_cons.mp accepted
      rw [List.cons_append, greedy, if_pos first]
      cases run with
      | nil => rw [List.nil_append, stops, goes]; rfl
      | cons second run => rw [ih later (List.cons_ne_nil second run)]

theorem fullMatch_run {pieces : Pattern} {texts : List Text}
    (accepted : ∀ c ∈ run, accepts c = true) (inhabited : run ≠ [])
    (stops : greedy accepts (fullMatch pieces) rest = none)
    (goes : fullMatch pieces rest = some texts) :
    fullMatch (⟨accepts, true⟩ :: pieces) (run ++ rest) = some (run :: texts) := by
  rw [fullMatch, greedy_append accepted inhabited stops goes]
  rfl

theorem fullMatch_one {pieces : Pattern} {texts : List Text} (accepted : accepts c = true)
    (goes : fullMatch pieces rest = some texts) :
    fullMatch (⟨accepts, false⟩ :: pieces) (c :: rest) = some ([c] :: texts) := by
  rw [fullMatch, if_pos accepted, goes]
  rfl

end

/-- A character stands for a lower-case letter, whatever its case. -/
def sameLetter (letter c : Char) : Bool :=
  c.toLower = letter || (letter = 'i' && (c = '\u0130' || c = '\u0131')) ||
    (letter = 's' && c = '\u017F') || (letter = 'k' && c = '\u212A')

/-- The text starts with the phrase, whatever the case of its letters. -/
def startsIgnoringCase : Text → Text → Bool
  | [], _ => true
  | _ :: _, [] => false
  | letter :: phrase, c :: text => sameLetter letter c && startsIgnoringCase phrase text

/-- `re.search` for a phrase in lower case, under `re.IGNORECASE`. -/
def searchIgnoringCase (phrase text : Text) : Bool := text.tails.any (startsIgnoringCase phrase)

end Pattern

end Vcompany.Foundation
