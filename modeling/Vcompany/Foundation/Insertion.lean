import Mathlib.Algebra.GroupWithZero.Nat
import Vcompany.Foundation.Partition
import Vcompany.Foundation.Pattern

/-! # Insertions into a text

A piece is inserted before the first occurrence of an anchor. A needle in which neither the piece
nor the anchor can begin, but at its start, occurs afterwards where it did before, or in the piece
(`infix_insertBefore_iff`); one that no anchor overlaps is not torn apart
(`infix_insertBefore_of_solid`). A needle between two delimiters is found on one side of any other
delimiter (`bracketed_infix_iff`).
-/

namespace Vcompany.Foundation

namespace Text

/-- `text.replace(anchor, piece + anchor, 1)`. -/
def insertBefore (anchor piece text : Text) : Text :=
  match cut anchor text with
  | none => text
  | some (before, after) => before ++ (piece ++ (anchor ++ after))

/-- The pieces, the last one first, have been put into the text. -/
inductive Inserted : List Text → Text → Text → Prop where
  | none (text : Text) : Inserted [] text text
  | insert {pieces : List Text} {original before after : Text} (piece : Text) :
      Inserted pieces original (before ++ after) →
        Inserted (piece :: pieces) original (before ++ (piece ++ after))

variable {anchor piece text original result needle core before after : Text}
  {pieces : List Text} {c : Char}

theorem insertBefore_of_absent (absent : ¬ anchor <:+: text) (piece : Text) :
    insertBefore anchor piece text = text := by
  unfold insertBefore
  rw [cut_eq_none_iff.mpr absent]

/-- Where the piece stands. -/
theorem insertBefore_of_present (present : anchor <:+: text) (piece : Text) :
    ∃ before after, text = before ++ (anchor ++ after) ∧
      insertBefore anchor piece text = before ++ (piece ++ (anchor ++ after)) := by
  unfold insertBefore
  rcases parted : cut anchor text with _ | ⟨before, after⟩
  · exact absurd present (cut_eq_none_iff.mp parted)
  · refine ⟨before, after, ?_, rfl⟩
    rw [← List.append_assoc]
    exact eq_of_cut parted

theorem piece_infix_insertBefore (present : anchor <:+: text) (piece : Text) :
    piece <:+: insertBefore anchor piece text := by
  obtain ⟨before, after, -, same⟩ := insertBefore_of_present present piece
  rw [same]
  exact ⟨before, anchor ++ after, List.append_assoc ..⟩

theorem Inserted.insertBefore (inserted : Inserted pieces original text)
    (present : anchor <:+: text) (piece : Text) :
    Inserted (piece :: pieces) original (insertBefore anchor piece text) := by
  obtain ⟨before, after, rfl, same⟩ := insertBefore_of_present present piece
  rw [same]
  exact .insert piece inserted

/-- A text grows by what is put into it. -/
theorem Inserted.length (inserted : Inserted pieces original result) :
    result.length = original.length + (pieces.map List.length).sum := by
  induction inserted with
  | none text => rfl
  | insert piece _ ih =>
      rw [List.length_append] at ih
      rw [List.length_append, List.length_append, List.map_cons, List.sum_cons]
      omega

/-! ## What occurs after an insertion -/

/-- A needle whose rest lacks a character occurs before an occurrence of the character, or from
there on. -/
theorem infix_append_iff_of_head (alone : c ∉ needle.tail) :
    needle <:+: before ++ c :: after ↔ needle <:+: before ∨ needle <:+: c :: after := by
  rcases needle with _ | ⟨d, rest⟩
  · exact iff_of_true List.nil_infix (.inl List.nil_infix)
  · induction before with
    | nil =>
        rw [List.nil_append, List.infix_nil]
        exact (or_iff_right (List.cons_ne_nil d rest)).symm
    | cons e before ih =>
        have later : rest <+: before ++ c :: after ↔ rest <+: before :=
          prefix_append_cons_iff alone
        have inside : d :: rest <:+: e :: before ↔
            d :: rest <+: e :: before ∨ d :: rest <:+: before :=
          List.infix_cons_iff
        rw [List.cons_append, List.infix_cons_iff, List.cons_prefix_cons, later, ih, inside,
          List.cons_prefix_cons, or_assoc]

/-- The needle can only begin where the text does. -/
def BeginsApart (needle text : Text) : Prop := text ≠ [] ∧ ∀ c ∈ text.head?, c ∉ needle.tail

instance (needle text : Text) : Decidable (BeginsApart needle text) :=
  @instDecidableAnd _ _ inferInstance (Option.decidableForallMem text.head?)

theorem BeginsApart.infix_append_iff (apart : BeginsApart needle text) (before after : Text) :
    needle <:+: before ++ (text ++ after) ↔ needle <:+: before ∨ needle <:+: text ++ after := by
  obtain ⟨inhabited, alone⟩ := apart
  rcases text with _ | ⟨c, text⟩
  · exact absurd rfl inhabited
  · exact infix_append_iff_of_head (alone c rfl)

/-- A needle that neither the piece nor the anchor begins in occurs after the insertion where it
did, or in the piece. -/
theorem infix_insertBefore_iff (pieceApart : BeginsApart needle piece)
    (anchorApart : BeginsApart needle anchor) :
    needle <:+: insertBefore anchor piece text ↔
      needle <:+: text ∨ anchor <:+: text ∧ needle <:+: piece := by
  by_cases present : anchor <:+: text
  · obtain ⟨before, after, rfl, same⟩ := insertBefore_of_present present piece
    rw [same, pieceApart.infix_append_iff, anchorApart.infix_append_iff,
      anchorApart.infix_append_iff, and_iff_right present, or_assoc]
    exact or_congr_right or_comm
  · rw [insertBefore_of_absent present, or_iff_left fun both => present both.1]

/-- No occurrence of the anchor begins inside the needle. -/
def Solid (anchor needle : Text) : Prop :=
  ∀ rest ∈ needle.tail.tails, rest ≠ [] → ¬ (rest <+: anchor ∨ anchor <+: rest)

instance (anchor needle : Text) : Decidable (Solid anchor needle) :=
  inferInstanceAs (Decidable (∀ _ ∈ _, _ → ¬ (_ ∨ _)))

/-- What is left of a needle of which a part stands before the anchor. -/
theorem Solid.eq_nil_of_overlap {first rest finish : Text} (solid : Solid anchor (first ++ rest))
    (overlap : anchor ++ after = rest ++ finish) : first = [] ∨ rest = [] := by
  by_contra torn
  obtain ⟨begun, unfinished⟩ := not_or.mp torn
  have inside : rest ∈ (first ++ rest).tail.tails := by
    rw [List.tail_append_of_ne_nil begun]
    exact (List.mem_tails rest _).mpr (List.suffix_append _ rest)
  apply solid rest inside unfinished
  have starts : rest <+: anchor ++ after := overlap ▸ List.prefix_append rest finish
  exact List.prefix_or_prefix_of_prefix starts (List.prefix_append anchor after)

/-- An insertion does not tear such a needle apart. -/
theorem infix_insertBefore_of_solid (solid : Solid anchor needle) (occurs : needle <:+: text)
    (piece : Text) : needle <:+: insertBefore anchor piece text := by
  by_cases present : anchor <:+: text
  · obtain ⟨before, after, rfl, same⟩ := insertBefore_of_present present piece
    rw [same]
    obtain ⟨start, finish, whole⟩ := occurs
    rw [List.append_assoc] at whole
    rcases List.append_eq_append_iff.mp whole with ⟨gap, rfl, rest⟩ | ⟨gap, rfl, rest⟩
    · rcases List.append_eq_append_iff.mp rest with ⟨more, rfl, -⟩ | ⟨more, rfl, overlap⟩
      · exact ⟨start, more ++ (piece ++ (anchor ++ after)), by simp⟩
      · rcases solid.eq_nil_of_overlap overlap with rfl | rfl
        · rw [overlap]
          exact ⟨start ++ piece, finish, by simp⟩
        · exact ⟨start, piece ++ (anchor ++ after), by simp⟩
    · rw [rest]
      exact ⟨before ++ piece ++ gap, finish, by simp⟩
  · rw [insertBefore_of_absent present]
    exact occurs

/-! ## Needles between delimiters -/

/-- The text between two delimiters. -/
def bracketed (c : Char) (core : Text) : Text := c :: (core ++ [c])

theorem prefix_append_delimiter_iff (absent : c ∉ core) :
    core ++ [c] <+: before ++ c :: after ↔ core ++ [c] <+: before ++ [c] := by
  have shorter : before ++ [c] <+: before ++ c :: after :=
    (List.prefix_append_right_inj before).mpr (List.prefix_append [c] after)
  constructor
  · intro starts
    apply List.prefix_of_prefix_length_le starts shorter
    rw [List.length_append, List.length_append, Nat.add_le_add_iff_right]
    by_contra longer
    -- a longer core would reach over the delimiter
    have whole : before ++ [c] <+: core := by
      apply List.prefix_of_prefix_length_le shorter ((List.prefix_append core [c]).trans starts)
      rw [List.length_append, List.length_singleton]
      omega
    exact absent (whole.subset (List.mem_append_right before (List.mem_singleton_self c)))
  · exact fun starts => starts.trans shorter

/-- An occurrence does not go over a delimiter. -/
theorem bracketed_infix_iff (absent : c ∉ core) :
    bracketed c core <:+: before ++ c :: after ↔
      bracketed c core <:+: before ++ [c] ∨ bracketed c core <:+: c :: after := by
  unfold bracketed
  induction before with
  | nil =>
      refine (or_iff_right fun inside => ?_).symm
      have longer := inside.length_le
      simp at longer
  | cons d before ih =>
      have inside : c :: (core ++ [c]) <:+: d :: (before ++ [c]) ↔
          c :: (core ++ [c]) <+: d :: (before ++ [c]) ∨ c :: (core ++ [c]) <:+: before ++ [c] :=
        List.infix_cons_iff
      rw [List.cons_append, List.infix_cons_iff, List.cons_prefix_cons,
        prefix_append_delimiter_iff absent, ih, List.cons_append, inside, List.cons_prefix_cons,
        or_assoc]

/-- What stands between two other delimiters does not matter, unless it is the needle. -/
theorem bracketed_infix_between_iff {other : Text} (absent : c ∉ core)
    (apart : ¬ bracketed c core <:+: bracketed c other) :
    bracketed c core <:+: before ++ (bracketed c other ++ after) ↔
      bracketed c core <:+: before ++ c :: after := by
  have rest : bracketed c core <:+: c :: (other ++ c :: after) ↔
      bracketed c core <:+: c :: after := by
    have parts := @bracketed_infix_iff core (c :: other) after c absent
    rw [List.cons_append, List.cons_append] at parts
    exact parts.trans (or_iff_right apart)
  rw [bracketed_infix_iff absent, ← rest, ← bracketed_infix_iff absent]
  unfold bracketed
  rw [List.cons_append, List.append_assoc, List.singleton_append]

/-! ## Searching a line -/

/-- The text goes on to the needle within its line: `.*`, and the needle. -/
def runsTo (needle : Text) : Text → Bool
  | [] => decide (needle <+: [])
  | c :: rest => decide (needle <+: c :: rest) || (Pattern.isInline c && runsTo needle rest)

/-- `re.search` for two needles with `.*` between them. -/
def searchInline (first second text : Text) : Bool :=
  text.tails.any fun start =>
    decide (first <+: start) && runsTo second (start.drop first.length)

theorem runsTo_append {second between : Text}
    (within : ∀ c ∈ between, Pattern.isInline c = true) (after : Text) :
    runsTo second (between ++ (second ++ after)) = true := by
  induction between with
  | nil =>
      have starts : second <+: second ++ after := List.prefix_append second after
      rw [List.nil_append]
      rcases whole : second ++ after with _ | ⟨c, rest⟩ <;> rw [whole] at starts
      · exact decide_eq_true starts
      · rw [runsTo, decide_eq_true starts]
        rfl
  | cons c between ih =>
      obtain ⟨own, later⟩ := List.forall_mem_cons.mp within
      rw [List.cons_append, runsTo, own, ih later]
      simp

/-- A line that is part of the text is found. -/
theorem searchInline_of_infix {first second between : Text}
    (within : ∀ c ∈ between, Pattern.isInline c = true)
    (occurs : first ++ (between ++ second) <:+: text) : searchInline first second text = true := by
  obtain ⟨before, after, rfl⟩ := occurs
  apply List.any_eq_true.mpr
  refine ⟨first ++ (between ++ (second ++ after)), ?_, ?_⟩
  · apply (List.mem_tails _ _).mpr
    exact ⟨before, by simp⟩
  · rw [List.drop_left, runsTo_append within, Bool.and_true]
    exact decide_eq_true (List.prefix_append first _)

end Text

end Vcompany.Foundation
