import Vcompany.Foundation.Sequence
import Vcompany.Foundation.Text

/-! # Texts around a separator

Where `cut` parts a text. A separator whose first character does not come again in it
cannot begin before an occurrence and end inside it, so that what is joined with it is
parted at it (`cut_append_separator`), unless it occurs earlier (`cut_append`).
-/

namespace Vcompany.Foundation

namespace Text

variable {separator text before after : Text}

/-- The parts and the separator make up the text. -/
theorem eq_of_cut (found : cut separator text = some (before, after)) :
    text = before ++ separator ++ after := by
  induction text generalizing before with
  | nil =>
      unfold cut at found
      split at found
      · next empty =>
          obtain ⟨rfl, rfl⟩ := Prod.mk.inj (Option.some.inj found)
          simpa using (List.prefix_nil.mp empty).symm
      · cases found
  | cons c text ih =>
      unfold cut at found
      split at found
      · next starts =>
          obtain ⟨rfl, rfl⟩ := Prod.mk.inj (Option.some.inj found)
          exact (List.prefix_append_drop starts)
      · obtain ⟨⟨earlier, later⟩, parted, same⟩ := Option.map_eq_some_iff.mp found
        obtain ⟨rfl, rfl⟩ := Prod.mk.inj same
        exact congrArg (List.cons c) (ih parted)

/-- The text is cut at the first separator. -/
theorem cut_eq_some_iff : cut separator text = some (before, after) ↔
    Leftmost (separator <+: ·) text before (separator ++ after) := by
  have starting {text before : Text} (starts : separator <+: text) :
      some ([], text.drop separator.length) = some (before, after) ↔
        Leftmost (separator <+: ·) text before (separator ++ after) := by
    obtain ⟨rest, rfl⟩ := starts
    rw [leftmost_of_meets (separator <+: ·) (List.prefix_append separator rest), List.drop_left,
      Option.some.injEq, Prod.mk.injEq, List.append_cancel_left_eq, @eq_comm _ [], @eq_comm _ rest]
  induction text generalizing before with
  | nil =>
      unfold cut
      split
      · next empty =>
          rw [← starting empty, List.drop_nil]
      · next inhabited =>
          refine iff_of_false (Option.some_ne_none _).symm ?_
          rintro ⟨same, -⟩
          obtain ⟨-, none⟩ := List.append_eq_nil_iff.mp same.symm
          exact inhabited ((List.append_eq_nil_iff.mp none).1 ▸ List.nil_prefix)
  | cons c text ih =>
      unfold cut
      split
      · next starts => exact starting starts
      · next other =>
          rw [Option.map_eq_some_iff, leftmost_cons_iff (separator <+: ·) other]
          constructor
          · rintro ⟨⟨earlier, later⟩, found, same⟩
            obtain ⟨rfl, rfl⟩ := Prod.mk.inj same
            exact ⟨earlier, rfl, ih.mp found⟩
          · rintro ⟨earlier, rfl, first⟩
            exact ⟨(earlier, after), ih.mpr first, rfl⟩

theorem cut_eq_none_iff : cut separator text = none ↔ ¬ separator <:+: text := by
  induction text with
  | nil =>
      unfold cut
      split
      · next empty => exact iff_of_false (Option.some_ne_none _) (not_not_intro empty.isInfix)
      · next inhabited =>
          exact iff_of_true rfl fun inside => inhabited (List.infix_nil.mp inside ▸ List.nil_prefix)
  | cons c text ih =>
      unfold cut
      split
      · next starts => exact iff_of_false (Option.some_ne_none _) (not_not_intro starts.isInfix)
      · next other =>
          rw [Option.map_eq_none_iff, ih, List.infix_cons_iff, not_or, and_iff_right other]

/-- What follows a text does not change where it is parted. -/
theorem cut_append (found : cut separator text = some (before, after)) (rest : Text) :
    cut separator (text ++ rest) = some (before, after ++ rest) := by
  induction text generalizing before with
  | nil =>
      unfold cut at found
      split at found
      · next empty =>
          obtain ⟨rfl, rfl⟩ := Prod.mk.inj (Option.some.inj found)
          obtain rfl := List.prefix_nil.mp empty
          cases rest <;> rfl
      · cases found
  | cons c text ih =>
      unfold cut at found
      rw [List.cons_append]
      unfold cut
      split at found
      · next starts =>
          obtain ⟨rfl, rfl⟩ := Prod.mk.inj (Option.some.inj found)
          have still : separator <+: c :: (text ++ rest) :=
            starts.trans (List.prefix_append (c :: text) rest)
          rw [if_pos still, ← List.cons_append, List.drop_append_of_le_length starts.length_le]
      · next other =>
          obtain ⟨⟨earlier, later⟩, parted, same⟩ := Option.map_eq_some_iff.mp found
          obtain ⟨rfl, rfl⟩ := Prod.mk.inj same
          -- an occurrence at the start would lie inside the text, which holds a later one
          have stays : ¬ separator <+: c :: (text ++ rest) := by
            intro starts
            apply other
            have fits : separator.length ≤ (c :: text).length := by
              rw [eq_of_cut parted]
              simp only [List.length_cons, List.length_append]
              omega
            exact List.prefix_of_prefix_length_le starts
              (List.prefix_append (c :: text) rest) fits
          rw [if_neg stays, ih parted]
          rfl

/-- A text without the separator is parted from what follows at the separator. -/
theorem cut_append_separator {c : Char} {tail : Text} (alone : c ∉ tail)
    (absent : cut (c :: tail) before = none) (after : Text) :
    cut (c :: tail) (before ++ (c :: tail) ++ after) = some (before, after) := by
  induction before with
  | nil =>
      rw [List.nil_append, List.cons_append]
      unfold cut
      rw [if_pos (List.cons_prefix_cons.mpr ⟨rfl, List.prefix_append tail after⟩)]
      simp
  | cons d before ih =>
      unfold cut at absent
      split at absent
      · cases absent
      · next other =>
          rw [List.cons_append, List.cons_append]
          unfold cut
          have stays : ¬ c :: tail <+: d :: (before ++ (c :: tail) ++ after) := by
            intro starts
            rcases Nat.lt_or_ge before.length tail.length with short | long
            · -- the separator would hold its own first character once more
              apply alone
              have inside := (List.cons_prefix_cons.mp starts).2
              have here := List.prefix_iff_getElem?.mp inside before.length short
              rw [List.append_assoc, List.getElem?_append_right le_rfl, Nat.sub_self] at here
              have same : tail[before.length] = c := Option.some.inj here.symm
              exact same ▸ List.getElem_mem short
            · apply other
              refine List.prefix_of_prefix_length_le starts ?_ (Nat.succ_le_succ long)
              rw [List.append_assoc]
              exact List.prefix_append (d :: before) _
          rw [if_neg stays, ih (Option.map_eq_none_iff.mp absent)]
          rfl

end Text

end Vcompany.Foundation
