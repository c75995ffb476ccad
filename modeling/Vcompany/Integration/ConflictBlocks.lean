import Vcompany.Foundation.MarkedLines
import Vcompany.Integration.ConflictResolver

/-! # Conflict blocks

A conflict block runs from a line that starts with the one marker to the next line that starts
with the other. A text has as many blocks as hunks are extracted from it
(`length_extractConflictHunks`), and a block that stands in it is found, or an earlier one
(`splitBlock_ne_none`).
-/

namespace Vcompany.Integration.ConflictResolver

open Foundation Text

/-- The first complete block of a text, between the texts before and after it. The line break
that ends its last line follows the block. -/
def splitBlock (text : Text) : Option (Text × Text × Text) := do
  let (before, opened) ← seekLine openMarker text
  let (inner, closing) ← seekLine closeMarker opened
  return (before, inner ++ closing.takeWhile fun c => !isLineBreak c,
    closing.dropWhile fun c => !isLineBreak c)

/-- The text in which each complete block is replaced by its own answer, verbatim but for the
whitespace around it. -/
def resolvedWith : List Text → Text → Text
  | [], text => text
  | answer :: answers, text =>
      match splitBlock text with
      | none => text
      | some (before, _, after) => before ++ answer.strip ++ resolvedWith answers after

/-- The text is a block with both of its marked lines. -/
def Complete (block : Text) : Prop :=
  ∃ between last, block = openMarker ++ between ++ closeMarker ++ last ∧ between ≠ [] ∧
    EndsLine between

theorem openMarker_solid : ∀ c ∈ openMarker, isLineBreak c = false := by
  intro c member
  have same : openMarker = List.replicate 7 '<' := by decide
  rw [same] at member
  rw [List.eq_of_mem_replicate member]
  rfl

theorem closeMarker_solid : ∀ c ∈ closeMarker, isLineBreak c = false := by
  intro c member
  have same : closeMarker = List.replicate 7 '>' := by decide
  rw [same] at member
  rw [List.eq_of_mem_replicate member]
  rfl

theorem openMarker_ne_nil : openMarker ≠ [] := by decide

theorem closeMarker_ne_nil : closeMarker ≠ [] := by decide

variable {text before block after : Text}

theorem not_both_markers {text : Text} (opens : openMarker <+: text) :
    ¬ closeMarker <+: text := by
  obtain ⟨rest, rfl⟩ := opens
  intro closes
  exact absurd (List.cons_prefix_cons.mp closes).1 (by decide)

theorem splitBlock_eq_some_iff :
    splitBlock text = some (before, block, after) ↔
      ∃ inner closing, seekLine openMarker text = some (before, inner ++ closing) ∧
        seekLine closeMarker (inner ++ closing) = some (inner, closing) ∧
        block = inner ++ closing.takeWhile (fun c => !isLineBreak c) ∧
        after = closing.dropWhile fun c => !isLineBreak c := by
  unfold splitBlock
  simp only [Option.bind_eq_bind, Option.bind_eq_some_iff, Prod.exists, Option.pure_def,
    Option.some.injEq, Prod.mk.injEq]
  constructor
  · rintro ⟨first, opened, opens, inner, closing, closes, rfl, rfl, rfl⟩
    obtain ⟨rfl, -⟩ := seekLine_eq_some_iff.mp closes
    exact ⟨inner, closing, opens, closes, rfl, rfl⟩
  · rintro ⟨inner, closing, opens, closes, rfl, rfl⟩
    exact ⟨before, _, opens, inner, closing, closes, rfl, rfl, rfl⟩

/-- What precedes the closing line of a block. -/
theorem exists_of_inner {inner closing : Text} (opens : openMarker <+: inner ++ closing)
    (closes : closeMarker <+: closing) (ends : EndsLine inner) :
    ∃ between, inner = openMarker ++ between ∧ between ≠ [] ∧ EndsLine between := by
  rcases ends.cases with rfl | ⟨line, c, rfl, breaks⟩
  · exact absurd closes (not_both_markers opens)
  · rcases List.prefix_or_prefix_of_prefix opens (List.prefix_append _ _) with whole | part
    · obtain ⟨between, same⟩ := whole
      have more : between ≠ [] := by
        rintro rfl
        have member : c ∈ openMarker := by
          rw [List.append_nil] at same
          exact same ▸ List.mem_append_right _ List.mem_cons_self
        rw [openMarker_solid c member] at breaks
        cases breaks
      refine ⟨between, same.symm, more, ?_⟩
      rw [← endsLine_append_iff openMarker more, same]
      exact ends
    · have member := part.subset (List.mem_append_right line List.mem_cons_self)
      rw [openMarker_solid c member] at breaks
      cases breaks

theorem splitBlock_spec (parted : splitBlock text = some (before, block, after)) :
    text = before ++ block ++ after ∧ EndsLine before ∧ Complete block ∧ LineOver after := by
  obtain ⟨inner, closing, opened, closed, rfl, rfl⟩ := splitBlock_eq_some_iff.mp parted
  obtain ⟨rfl, -, opens, starts, -⟩ := seekLine_eq_some_iff.mp opened
  obtain ⟨-, -, closes, ends, -⟩ := seekLine_eq_some_iff.mp closed
  refine ⟨by simp, starts, ?_, ?_⟩
  · obtain ⟨between, rfl, more, breaks⟩ := exists_of_inner opens closes ends
    obtain ⟨rest, rfl⟩ := closes
    refine ⟨between, rest.takeWhile fun c => !isLineBreak c, ?_, more, breaks⟩
    rw [List.takeWhile_append_of_pos fun c member => by rw [closeMarker_solid c member]; rfl]
    simp
  · intro c head
    have stops := List.head?_dropWhile_not (fun c => !isLineBreak c) closing
    rw [Option.mem_def.mp head] at stops
    simpa using stops

/-- A text with a complete block has a first one. -/
theorem splitBlock_ne_none (starts : EndsLine before) (complete : Complete block) :
    splitBlock (before ++ block ++ after) ≠ none := by
  obtain ⟨between, last, rfl, more, breaks⟩ := complete
  have opens : openMarker <+: openMarker ++ between ++ closeMarker ++ last ++ after :=
    ⟨between ++ closeMarker ++ last ++ after, by simp⟩
  obtain ⟨earlier, first, rfl, opened⟩ := exists_seekLine openMarker_ne_nil starts opens
  have ends : EndsLine (first ++ openMarker ++ between) := (endsLine_append_iff _ more).mpr breaks
  have closes : closeMarker <+: closeMarker ++ last ++ after := ⟨last ++ after, by simp⟩
  obtain ⟨inner, rest, same, closed⟩ := exists_seekLine closeMarker_ne_nil ends closes
  have whole : first ++ (openMarker ++ between ++ closeMarker ++ last ++ after) =
      inner ++ (rest ++ (closeMarker ++ last ++ after)) := by
    rw [← List.append_assoc inner, ← same]
    simp
  have found := splitBlock_eq_some_iff.mpr ⟨inner, rest ++ (closeMarker ++ last ++ after),
    by rw [← whole, ← opened], by rw [← whole, ← closed]; simp, rfl, rfl⟩
  rw [List.append_assoc _ _ after, found]
  exact Option.some_ne_none _

/-- A block of what follows a line is one of the whole. -/
theorem splitBlock_append_ne_none (ended : LineOver after) (has : splitBlock after ≠ none)
    (before : Text) : splitBlock (before ++ after) ≠ none := by
  obtain ⟨⟨first, block, rest⟩, parted⟩ := Option.ne_none_iff_exists'.mp has
  obtain ⟨rfl, starts, complete, -⟩ := splitBlock_spec parted
  rw [← List.append_assoc, ← List.append_assoc]
  refine splitBlock_ne_none ?_ complete
  have more : first ≠ [] := by
    rintro rfl
    obtain ⟨between, last, rfl, -⟩ := complete
    exact absurd (ended '<' rfl) (by decide)
  exact (endsLine_append_iff before more).mpr starts

/-! ## Blocks and hunks -/

/-- The marker that ends the search for a block, or for its end. -/
def soughtMarker : Option ℕ → Text
  | none => openMarker
  | some _ => closeMarker

/-- Lines without the marker that is sought are passed over. -/
theorem conflictBounds_append {lines : List Text} (i : ℕ) (pending : Option ℕ) (rest : List Text)
    (apart : ∀ line ∈ lines, ¬ soughtMarker pending <+: line) :
    conflictBounds i pending (lines ++ rest) = conflictBounds (i + lines.length) pending rest := by
  induction lines generalizing i with
  | nil => rfl
  | cons line lines ih =>
      obtain ⟨own, later⟩ := List.forall_mem_cons.mp apart
      have passed : conflictBounds i pending (line :: (lines ++ rest)) =
          conflictBounds (i + 1) pending (lines ++ rest) := by
        cases pending with
        | none =>
            have closed : ¬ openMarker <+: line := own
            rw [conflictBounds, if_neg closed]
        | some start => exact if_neg own
      rw [List.cons_append, passed, ih _ later, List.length_cons]
      congr 1
      omega

theorem conflictBounds_append_closed {lines : List Text} (i : ℕ) (rest : List Text)
    (apart : ∀ line ∈ lines, ¬ openMarker <+: line) :
    conflictBounds i none (lines ++ rest) = conflictBounds (i + lines.length) none rest :=
  conflictBounds_append i none rest apart

theorem conflictBounds_append_open {lines : List Text} (i start : ℕ) (rest : List Text)
    (apart : ∀ line ∈ lines, ¬ closeMarker <+: line) :
    conflictBounds i (some start) (lines ++ rest) =
      conflictBounds (i + lines.length) (some start) rest :=
  conflictBounds_append i (some start) rest apart

/-- Where the lines are counted from makes no difference to the number of blocks. -/
theorem length_conflictBounds (i j : ℕ) {first second : Option ℕ}
    (same : first.isSome = second.isSome) (lines : List Text) :
    (conflictBounds i first lines).length = (conflictBounds j second lines).length := by
  induction lines generalizing i j first second with
  | nil => cases first <;> cases second <;> rfl
  | cons line lines ih =>
      cases first with
      | none =>
          obtain rfl := Option.not_isSome_iff_eq_none.mp (by rw [← same]; exact Bool.false_ne_true)
          rw [conflictBounds, conflictBounds]
          split <;> exact ih _ _ rfl
      | some first =>
          obtain ⟨second, rfl⟩ := Option.isSome_iff_exists.mp same.symm
          rw [conflictBounds, conflictBounds]
          split
          · rw [List.length_cons, List.length_cons, ih (i + 1) (j + 1) rfl]
          · exact ih _ _ rfl

theorem length_extractConflictHunks_eq (i : ℕ) (content : Text) :
    (extractConflictHunks content).length =
      (conflictBounds i none (splitlines content)).length := by
  rw [extractConflictHunks, List.length_map]
  exact length_conflictBounds 0 i rfl _

/-- The line that a line break ends is not one of the lines of the text before it. -/
theorem length_conflictBounds_tail (ended : LineOver after) (i : ℕ) :
    (conflictBounds i none (splitlines after).tail).length =
      (extractConflictHunks after).length := by
  rw [length_extractConflictHunks_eq i]
  rcases splitlines_of_lineOver ended with none | ⟨lines, same⟩
  · rw [none]
    rfl
  · rw [same, List.tail_cons, conflictBounds, if_neg (by decide)]
    exact length_conflictBounds i (i + 1) rfl lines

/-- There is a hunk for each block. -/
theorem length_extractConflictHunks (content : Text) :
    (extractConflictHunks content).length =
      match splitBlock content with
      | none => 0
      | some (_, _, after) => (extractConflictHunks after).length + 1 := by
  rw [length_extractConflictHunks_eq 0]
  rcases parted : splitBlock content with _ | ⟨before, block, after⟩
  · dsimp only
    rw [splitBlock] at parted
    rcases opened : seekLine openMarker content with _ | ⟨before, rest⟩
    · have apart := splitlines_of_seekLine_none openMarker_ne_nil opened
      rw [← List.append_nil (splitlines content), conflictBounds_append_closed 0 [] apart]
      rfl
    · rw [opened] at parted
      rcases closed : seekLine closeMarker rest with _ | ⟨inner, closing⟩
      · obtain ⟨lines, apart⟩ := splitlines_of_seekLine (by decide) openMarker_ne_nil opened
        have open_apart := splitlines_of_seekLine_none closeMarker_ne_nil closed
        obtain ⟨-, -, ⟨more, rfl⟩, -⟩ := seekLine_eq_some_iff.mp opened
        obtain ⟨first, others, same⟩ :=
          exists_splitlines_cons openMarker_ne_nil openMarker_solid more
        rw [same] at open_apart lines
        rw [lines, conflictBounds_append_closed 0 _ apart, conflictBounds,
          if_pos (List.prefix_append _ _), ← List.append_nil others,
          conflictBounds_append_open _ _ [] (List.forall_mem_cons.mp open_apart).2]
        rfl
      · rw [Option.bind_eq_bind, Option.bind_some] at parted
        dsimp only at parted
        rw [closed] at parted
        cases parted
  · dsimp only
    obtain ⟨inner, closing, opened, closed, rfl, rfl⟩ := splitBlock_eq_some_iff.mp parted
    obtain ⟨-, -, opens, -⟩ := seekLine_eq_some_iff.mp opened
    obtain ⟨-, -, closes, ends, -⟩ := seekLine_eq_some_iff.mp closed
    obtain ⟨-, -, -, ended⟩ := splitBlock_spec parted
    obtain ⟨lines, apart⟩ := splitlines_of_seekLine (by decide) openMarker_ne_nil opened
    obtain ⟨innerLines, innerApart⟩ :=
      splitlines_of_seekLine (by decide) closeMarker_ne_nil closed
    obtain ⟨between, rfl, -⟩ := exists_of_inner opens closes ends
    obtain ⟨first, others, same⟩ :=
      exists_splitlines_cons openMarker_ne_nil openMarker_solid between
    have solid : ∀ c ∈ closing.takeWhile (fun c => !isLineBreak c), isLineBreak c = false :=
      fun c member => by simpa using List.mem_takeWhile_imp member
    have marked : closeMarker <+: closing.takeWhile fun c => !isLineBreak c := by
      obtain ⟨rest, rfl⟩ := closes
      rw [List.takeWhile_append_of_pos fun c member => by rw [closeMarker_solid c member]; rfl]
      exact List.prefix_append _ _
    have more : (closing.takeWhile fun c => !isLineBreak c) ≠ [] := by
      intro none
      rw [none] at marked
      exact closeMarker_ne_nil (List.prefix_nil.mp marked)
    have closingLines := splitlines_line more solid ended
    rw [List.takeWhile_append_dropWhile] at closingLines
    rw [same] at innerLines innerApart
    rw [lines, conflictBounds_append_closed 0 _ apart, innerLines, List.cons_append,
      conflictBounds, if_pos (List.prefix_append _ _),
      conflictBounds_append_open _ _ _ (List.forall_mem_cons.mp innerApart).2, closingLines,
      conflictBounds, if_pos marked, List.length_cons, length_conflictBounds_tail ended]

theorem extractConflictHunks_eq_nil_iff {content : Text} :
    extractConflictHunks content = [] ↔ splitBlock content = none := by
  rw [← List.length_eq_zero_iff, length_extractConflictHunks]
  rcases splitBlock content with _ | ⟨before, block, after⟩
  · exact iff_of_true rfl rfl
  · exact iff_of_false (Nat.succ_ne_zero _) (Option.some_ne_none _)

theorem splitBlock_ne_none_of_count {content : Text} {count : ℕ}
    (hunks : (extractConflictHunks content).length = count + 1) : splitBlock content ≠ none := by
  intro none
  rw [length_extractConflictHunks, none] at hunks
  cases hunks

theorem ne_nil_of_lineOver (begins : LineOver text)
    (parted : splitBlock text = some (before, block, after)) : before ≠ [] := by
  rintro rfl
  obtain ⟨rfl, -, ⟨between, tail, rfl, -⟩, -⟩ := splitBlock_spec parted
  exact absurd (begins '<' rfl) (by decide)

end Vcompany.Integration.ConflictResolver
