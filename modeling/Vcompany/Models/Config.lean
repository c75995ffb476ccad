import Vcompany.Foundation.Text

/-! # Agent configurations

The ids that the configuration of a project accepts for its agents.
-/

namespace Vcompany.Models

open Foundation

inductive AgentIdError where
  /-- "Agent ID must not be empty". -/
  | empty
  /-- "Agent ID must be alphanumeric (with - or _)", and the id. -/
  | notAlphanumeric (id : Text)
  deriving DecidableEq

/-- `AgentConfig.id_must_be_alphanumeric`. -/
def idMustBeAlphanumeric (alphabet : Text.Alphabet) (v : Text) : Except AgentIdError Text :=
  if v = [] then .error .empty
  else if Text.isAlnumText alphabet (Text.replace ['_'] [] (Text.replace ['-'] [] v)) then .ok v
  else .error (.notAlphanumeric v)

/-- Every character of an accepted id is a letter, a digit, a hyphen or an underscore. -/
theorem alnum_of_accepted {alphabet : Text.Alphabet} {v : Text}
    (accepted : idMustBeAlphanumeric alphabet v = .ok v) :
    ∀ c ∈ v, alphabet.isAlnum c = true ∨ c = '-' ∨ c = '_' := by
  unfold idMustBeAlphanumeric at accepted
  split at accepted
  · cases accepted
  · split at accepted
    · next alnum =>
        rw [Text.replace_drop, Text.replace_drop] at alnum
        intro c member
        by_cases hyphen : c = '-'
        · exact .inr (.inl hyphen)
        by_cases underscore : c = '_'
        · exact .inr (.inr underscore)
        have kept : c ∈ (v.filter (· ≠ '-')).filter (· ≠ '_') := by
          simpa [hyphen, underscore] using member
        exact .inl (List.all_eq_true.mp (Bool.and_eq_true_iff.mp alnum).2 c kept)
    · cases accepted

/-- An accepted id has no whitespace. -/
theorem solid_of_accepted {alphabet : Text.Alphabet} {v : Text}
    (accepted : idMustBeAlphanumeric alphabet v = .ok v) : ∀ c ∈ v, Text.isSpace c = false := by
  intro c member
  rcases alnum_of_accepted accepted c member with alnum | rfl | rfl
  · exact alphabet.isAlnum_solid c alnum
  · decide
  · decide

end Vcompany.Models
