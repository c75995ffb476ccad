import Vcompany.Foundation.Partition
import Vcompany.Integration.ConflictBlocks

/-! # What the pattern matches

The first match of the pattern is the first conflict block, if no marker comes before the block
and a line stands between its markers (`firstMatch_block`). In a text without other line breaks
than line feeds it covers the block, unless a block is left behind it (`match_covers`).
-/

namespace Vcompany.Integration.ConflictResolver

open Foundation Text

/-! ## Matches -/

variable {text before found after : Text}

/-- Nothing follows, or a line feed does. -/
def FeedOver (after : Text) : Prop := ∀ c ∈ after.head?, c = '\n'

theorem FeedOver.lineOver (ended : FeedOver after) : LineOver after := by
  intro c head
  rw [ended c head]
  rfl

theorem feedOver_dropWhile (text : Text) : FeedOver (text.dropWhile (· ≠ '\n')) := by
  intro c head
  have stops := List.head?_dropWhile_not (fun d : Char => decide (d ≠ '\n')) text
  rw [Option.mem_def.mp head] at stops
  simpa using stops

/-- A text without line feeds ends where one follows it. -/
theorem takeWhile_feed {line after : Text} (solid : '\n' ∉ line) (ended : FeedOver after) :
    (line ++ after).takeWhile (· ≠ '\n') = line ∧ (line ++ after).dropWhile (· ≠ '\n') = after := by
  have plain : ∀ c ∈ line, decide (c ≠ '\n') = true :=
    fun c member => decide_eq_true fun same => solid (same ▸ member)
  rw [List.takeWhile_append_of_pos plain, List.dropWhile_append_of_pos plain]
  cases after with
  | nil => exact ⟨List.append_nil line, rfl⟩
  | cons c after =>
      have same := ended c rfl
      rw [List.takeWhile_cons_of_neg (by simpa using same),
        List.dropWhile_cons_of_neg (by simpa using same), List.append_nil]
      exact ⟨rfl, rfl⟩

theorem matchHere_open {first : Text} (solid : '\n' ∉ first) (body : Text) :
    matchHere (openMarker ++ (first ++ '\n' :: body)) =
      (cut ('\n' :: closeMarker) body).map fun (inner, rest) =>
        (openMarker ++ first ++ '\n' :: inner ++ '\n' :: closeMarker ++ rest.takeWhile (· ≠ '\n'),
          rest.dropWhile (· ≠ '\n')) := by
  unfold matchHere
  rw [if_pos (List.prefix_append _ _)]
  dsimp only
  have ended : FeedOver ('\n' :: body) := by
    rintro c ⟨⟩
    rfl
  obtain ⟨line, rest⟩ := takeWhile_feed solid ended
  rw [List.drop_left, line, rest]

/-- A text without line feed after its marker has no match. -/
theorem exists_of_matchHere {result : Text × Text} (matched : matchHere text = some result) :
    ∃ first body, '\n' ∉ first ∧ text = openMarker ++ (first ++ '\n' :: body) := by
  unfold matchHere at matched
  split at matched
  · next opens =>
      obtain ⟨rest, rfl⟩ := opens
      rw [List.drop_left] at matched
      dsimp only at matched
      split at matched
      · cases matched
      · next c body feed =>
          have same := feedOver_dropWhile rest c (by rw [feed]; rfl)
          subst same
          refine ⟨rest.takeWhile (· ≠ '\n'), body, fun member => ?_, ?_⟩
          · simpa using List.mem_takeWhile_imp member
          · rw [← feed, List.takeWhile_append_dropWhile]
  · cases matched

theorem matchHere_spec (matched : matchHere text = some (found, after)) :
    text = found ++ after ∧ FeedOver after ∧ ∃ first inner last,
      found = openMarker ++ (first ++ '\n' :: (inner ++ '\n' :: (closeMarker ++ last))) ∧
        '\n' ∉ last := by
  obtain ⟨first, body, solid, rfl⟩ := exists_of_matchHere matched
  rw [matchHere_open solid, Option.map_eq_some_iff] at matched
  obtain ⟨⟨inner, rest⟩, parted, same⟩ := matched
  cases same
  obtain rfl := eq_of_cut parted
  refine ⟨by simp, feedOver_dropWhile rest, first, inner, rest.takeWhile (· ≠ '\n'), by simp, ?_⟩
  exact fun member => by simpa using List.mem_takeWhile_imp member

/-- There is a match wherever the markers follow with a line feed in between. -/
theorem matchHere_ne_none (first inner rest : Text) :
    matchHere (openMarker ++ (first ++ '\n' :: (inner ++ '\n' :: (closeMarker ++ rest)))) ≠
      none := by
  have plain {first : Text} (solid : '\n' ∉ first) (inner : Text) :
      matchHere (openMarker ++ (first ++ '\n' :: (inner ++ '\n' :: (closeMarker ++ rest)))) ≠
        none := by
    rw [matchHere_open solid, Ne, Option.map_eq_none_iff, cut_eq_none_iff]
    exact not_not_intro ⟨inner, rest, by simp⟩
  by_cases feed : '\n' ∈ first
  · obtain ⟨line, more, rfl, solid⟩ := List.eq_append_cons_of_mem feed
    have moved := plain solid (more ++ '\n' :: inner)
    simpa using moved
  · exact plain feed inner

theorem firstMatch_eq_some_iff :
    firstMatch text = some (before, found, after) ↔
      text = before ++ (found ++ after) ∧ matchHere (found ++ after) = some (found, after) ∧
        ∀ first second, before = first ++ second → second ≠ [] →
          matchHere (second ++ (found ++ after)) = none := by
  induction text generalizing before with
  | nil =>
      refine iff_of_false nofun ?_
      rintro ⟨same, matched, -⟩
      rw [(List.append_eq_nil_iff.mp same.symm).2] at matched
      cases matched
  | cons c rest ih =>
      unfold firstMatch
      rcases here : matchHere (c :: rest) with _ | ⟨first, last⟩
      · dsimp only
        rw [Option.map_eq_some_iff]
        constructor
        · rintro ⟨⟨earlier, own, later⟩, parted, same⟩
          cases same
          obtain ⟨rfl, matched, minimal⟩ := ih.mp parted
          refine ⟨rfl, matched, ?_⟩
          intro first second same more
          cases first with
          | nil =>
              cases same
              exact here
          | cons d first =>
              cases same
              exact minimal first second rfl more
        · rintro ⟨same, matched, minimal⟩
          cases before with
          | nil =>
              rw [List.nil_append] at same
              rw [← same, here] at matched
              cases matched
          | cons d before =>
              cases same
              refine ⟨(before, found, after), ih.mpr ⟨rfl, matched, ?_⟩, rfl⟩
              rintro first second rfl
              exact minimal (c :: first) second rfl
      · dsimp only
        constructor
        · rintro same
          cases same
          obtain ⟨whole, -⟩ := matchHere_spec here
          refine ⟨whole, whole ▸ here, fun first second none more => ?_⟩
          exact absurd (List.append_eq_nil_iff.mp none.symm).2 more
        · rintro ⟨same, matched, minimal⟩
          cases before with
          | nil =>
              rw [List.nil_append] at same
              rw [← same, here] at matched
              cases matched
              rfl
          | cons d before =>
              have none := minimal [] (d :: before) rfl (List.cons_ne_nil d before)
              rw [← same, here] at none
              cases none

/-! ## Matches of blocks -/

/-- The last line of a block is its closing line. -/
theorem closing_of_block {inner closing start last : Text}
    (closes : seekLine closeMarker (inner ++ closing) = some (inner, closing))
    (same : inner ++ closing.takeWhile (fun c => !isLineBreak c) =
      start ++ ['\n'] ++ (closeMarker ++ last)) :
    inner = start ++ ['\n'] ∧
      closing.takeWhile (fun c => !isLineBreak c) = closeMarker ++ last := by
  obtain ⟨-, -, -, -, minimal⟩ := seekLine_eq_some_iff.mp closes
  have begins : EndsLine (start ++ ['\n']) := endsLine_concat (by decide) start
  rcases List.append_eq_append_iff.mp same.symm with ⟨gap, inside, rest⟩ | ⟨gap, inside, rest⟩
  · cases gap with
    | nil => exact ⟨by simpa using inside, by simpa using rest.symm⟩
    | cons c gap =>
        refine absurd ?_ (minimal _ (c :: gap) inside (List.cons_ne_nil c gap) begins)
        rw [← List.takeWhile_append_dropWhile (p := fun c => !isLineBreak c) (l := closing),
          ← List.append_assoc, ← rest, List.append_assoc]
        exact List.prefix_append _ _
  · rcases List.eq_nil_or_concat' gap with rfl | ⟨init, c, rfl⟩
    · exact ⟨by simpa using inside.symm, by simpa using rest⟩
    · rw [← List.append_assoc] at inside
      obtain rfl := List.singleton_inj.mp (List.append_inj' inside rfl).2
      have member : '\n' ∈ closing.takeWhile fun c => !isLineBreak c := by
        rw [rest]
        simp
      exact absurd (List.mem_takeWhile_imp member) (by decide)

/-- A block with a line between its markers is matched where it starts. -/
theorem matchHere_block {block : Text} (parted : splitBlock text = some (before, block, after))
    (between : ∃ first inner last,
      block = openMarker ++ (first ++ '\n' :: (inner ++ '\n' :: (closeMarker ++ last))))
    (ended : FeedOver after) : matchHere (block ++ after) = some (block, after) := by
  obtain ⟨opening, closing, opened, closes, shape, rfl⟩ := splitBlock_eq_some_iff.mp parted
  obtain ⟨-, -, -, -, minimal⟩ := seekLine_eq_some_iff.mp closes
  obtain ⟨first, inner, last, same⟩ := between
  -- the marker's line ends at the first line feed
  obtain ⟨line, rest, split, solid⟩ : ∃ line rest,
      first ++ '\n' :: inner = line ++ '\n' :: rest ∧ '\n' ∉ line :=
    List.eq_append_cons_of_mem (List.mem_append_right first List.mem_cons_self)
  have cutAt : first ++ '\n' :: (inner ++ '\n' :: (closeMarker ++ last)) =
      line ++ '\n' :: (rest ++ '\n' :: (closeMarker ++ last)) := by
    have both := congrArg (· ++ '\n' :: (closeMarker ++ last)) split
    simpa using both
  rw [cutAt] at same
  have ending : opening ++ closing.takeWhile (fun c => !isLineBreak c) =
      openMarker ++ (line ++ '\n' :: rest) ++ ['\n'] ++ (closeMarker ++ last) := by
    rw [← shape, same]
    simp
  obtain ⟨start, lastLine⟩ := closing_of_block closes ending
  have plain : '\n' ∉ last := by
    intro member
    have inside : '\n' ∈ closing.takeWhile fun c => !isLineBreak c := by
      rw [lastLine]
      exact List.mem_append_right _ member
    exact absurd (List.mem_takeWhile_imp inside) (by decide)
  have first_close : cut ('\n' :: closeMarker) rest = none := by
    rw [cut_eq_none_iff]
    rintro ⟨earlier, later, rfl⟩
    refine minimal (openMarker ++ (line ++ '\n' :: earlier) ++ ['\n'])
      (closeMarker ++ later ++ ['\n']) (by rw [start]; simp) (by simp)
      (endsLine_concat (by decide) _) ?_
    rw [List.append_assoc, List.append_assoc]
    exact List.prefix_append _ _
  have matched := matchHere_open solid
    (rest ++ '\n' :: closeMarker ++ (last ++ closing.dropWhile fun c => !isLineBreak c))
  rw [cut_append_separator (by decide) first_close, Option.map_some] at matched
  obtain ⟨lineOf, restOf⟩ := takeWhile_feed plain ended
  dsimp only at matched
  rw [lineOf, restOf] at matched
  rw [same]
  simpa using matched

/-- The pattern finds the first block, unless a marker comes earlier. -/
theorem firstMatch_block {block : Text} (parted : splitBlock text = some (before, block, after))
    (lacks : ¬ openMarker <:+: before)
    (matched : matchHere (block ++ after) = some (block, after)) :
    firstMatch text = some (before, block, after) := by
  obtain ⟨rfl, starts, -⟩ := splitBlock_spec parted
  refine firstMatch_eq_some_iff.mpr ⟨by simp, matched, ?_⟩
  rintro first second rfl more
  by_contra found
  obtain ⟨result, found⟩ := Option.ne_none_iff_exists'.mp found
  obtain ⟨line, body, -, same⟩ := exists_of_matchHere found
  have opens : openMarker <+: second ++ (block ++ after) := ⟨_, same.symm⟩
  rcases List.prefix_or_prefix_of_prefix opens (List.prefix_append _ _) with whole | part
  · exact lacks (whole.isInfix.trans (List.suffix_append first second).isInfix)
  · obtain rfl | ⟨init, c, rfl, breaks⟩ := ((endsLine_append_iff first more).mp starts).cases
    · exact more rfl
    · have member := part.subset (List.mem_append_right init List.mem_cons_self)
      rw [openMarker_solid c member] at breaks
      cases breaks

/-- A marker before the first match would make an earlier one. -/
theorem lacks_of_firstMatch (parted : firstMatch text = some (before, found, after)) :
    ¬ openMarker <:+: before := by
  obtain ⟨rfl, matched, minimal⟩ := firstMatch_eq_some_iff.mp parted
  obtain ⟨-, -, first, inner, last, rfl, -⟩ := matchHere_spec matched
  rintro ⟨earlier, between, rfl⟩
  have none := minimal earlier (openMarker ++ between) (by simp) (by simp [openMarker_ne_nil])
  refine matchHere_ne_none (between ++ openMarker ++ first) inner (last ++ after) ?_
  rw [← none]
  simp

/-- The first match does not start behind the first block's start: the pattern would match
there. -/
theorem match_reaches {before block after first found rest : Text}
    (parted : splitBlock text = some (before, block, after))
    (matched : firstMatch text = some (first, found, rest)) : ∃ gap, before = first ++ gap := by
  obtain ⟨whole, here, minimal⟩ := firstMatch_eq_some_iff.mp matched
  obtain ⟨-, -, line, inner, last, rfl, -⟩ := matchHere_spec here
  obtain ⟨same, -, complete, -⟩ := splitBlock_spec parted
  obtain ⟨between, tail, rfl, -⟩ := complete
  rw [List.append_assoc] at same
  rcases List.append_eq_append_iff.mp (whole.symm.trans same) with ⟨gap, rfl, -⟩ | ⟨gap, rfl, later⟩
  · exact ⟨gap, rfl⟩
  · cases gap with
    | nil => exact ⟨[], by simp⟩
    | cons c gap =>
        -- the block's marker and the markers of the match make a match
        have none := minimal before (c :: gap) rfl (List.cons_ne_nil c gap)
        have opens : openMarker <+: c :: gap ++ openMarker := by
          have own : openMarker <+: openMarker ++ between ++ closeMarker ++ tail ++ after :=
            ⟨between ++ closeMarker ++ tail ++ after, by simp⟩
          rw [later] at own
          refine List.prefix_of_prefix_length_le own
            ⟨line ++ '\n' :: (inner ++ '\n' :: (closeMarker ++ last)) ++ rest, by simp⟩ ?_
          rw [List.length_append]
          omega
        obtain ⟨more, shifted⟩ := opens
        refine absurd none ?_
        have shape : c :: gap ++ (openMarker ++ (line ++ '\n' :: (inner ++ '\n' ::
            (closeMarker ++ last))) ++ rest) =
            openMarker ++ (more ++ line ++ '\n' :: (inner ++ '\n' ::
              (closeMarker ++ (last ++ rest)))) := by
          have both := congrArg
            (· ++ (line ++ '\n' :: (inner ++ '\n' :: (closeMarker ++ (last ++ rest))))) shifted
          simpa using both.symm
        rw [shape]
        exact matchHere_ne_none (more ++ line) inner (last ++ rest)

/-! ## Blocks with line feeds -/

/-- The only line breaks of the text are line feeds. -/
def OnlyFeeds (text : Text) : Prop := ∀ c ∈ text, isLineBreak c = true → c = '\n'

/-- The text ends with a line that starts with the closing marker. -/
def EndsClosing (text : Text) : Prop :=
  ∃ before last, text = before ++ '\n' :: (closeMarker ++ last) ∧ '\n' ∉ last

theorem OnlyFeeds.lineOver {part : Text} (feeds : OnlyFeeds text) (sub : part ⊆ text)
    (ended : LineOver part) : FeedOver part :=
  fun c head => feeds c (sub (List.mem_of_mem_head? head)) (ended c head)

/-- There is no line feed in a closing line. -/
theorem closing_solid {last : Text} (solid : '\n' ∉ last) : '\n' ∉ closeMarker ++ last := by
  rw [List.mem_append, not_or]
  exact ⟨by decide, solid⟩

/-- A closing line does not begin in the middle of another. -/
theorem EndsClosing.of_append {first second : Text} (closed : EndsClosing (first ++ second))
    (inhabited : second ≠ []) (ended : FeedOver second) : EndsClosing second := by
  obtain ⟨before, last, same, solid⟩ := closed
  rcases List.append_eq_append_iff.mp same with ⟨more, rfl, rfl⟩ | ⟨more, rfl, rest⟩
  · exact ⟨more, last, rfl, solid⟩
  · obtain ⟨c, second, rfl⟩ := List.exists_cons_of_ne_nil inhabited
    obtain rfl := ended c rfl
    cases more with
    | nil => exact ⟨[], last, rest.symm, solid⟩
    | cons d more =>
        have inside := (List.cons.inj rest).2
        refine absurd ?_ (closing_solid solid)
        rw [inside]
        exact List.mem_append_right _ List.mem_cons_self

theorem takeWhile_prefix_of_lineOver {line after : Text} (ended : LineOver after) :
    (line ++ after).takeWhile (fun c => !isLineBreak c) <+: line := by
  induction line with
  | nil =>
      cases after with
      | nil => exact List.nil_prefix
      | cons c after =>
          rw [List.nil_append, List.takeWhile_cons_of_neg (by rw [ended c rfl]; decide)]
  | cons c line ih =>
      rw [List.cons_append, List.takeWhile_cons]
      split
      · exact List.cons_prefix_cons.mpr ⟨rfl, ih⟩
      · exact List.nil_prefix

/-- A text that ends with a closing line ends before the first block or covers it. -/
theorem before_or_covers {first rest block : Text} (feeds : OnlyFeeds (first ++ rest))
    (parted : splitBlock (first ++ rest) = some (before, block, after))
    (closed : EndsClosing first) (ended : LineOver rest) :
    (∃ between, between ≠ [] ∧ before = first ++ between) ∨
      ∃ more, first = before ++ block ++ more := by
  obtain ⟨inner, closing, opened, closes, rfl, -⟩ := splitBlock_eq_some_iff.mp parted
  obtain ⟨same, -, opens, starts, -⟩ := seekLine_eq_some_iff.mp opened
  obtain ⟨-, -, -, ends, minimal⟩ := seekLine_eq_some_iff.mp closes
  obtain ⟨line, last, rfl, solid⟩ := closed
  have here : closeMarker <+: closeMarker ++ (last ++ rest) := List.prefix_append _ _
  have whole : line ++ ['\n'] ++ (closeMarker ++ (last ++ rest)) =
      before ++ (inner ++ closing) := by
    rw [← same]
    simp
  rcases List.append_eq_append_iff.mp whole.symm with
    ⟨between, first, later⟩ | ⟨between, rfl, later⟩
  · -- the closing line starts in the block or behind it
    refine .inr ?_
    have more : between ≠ [] := by
      rintro rfl
      rw [later] at opens
      exact not_both_markers opens here
    have begins : EndsLine between := by
      rw [← endsLine_append_iff before more, ← first]
      exact endsLine_concat (by decide) line
    obtain ⟨gap, rfl, rfl⟩ : ∃ gap, between = inner ++ gap ∧
        closing = gap ++ (closeMarker ++ (last ++ rest)) := by
      rcases List.append_eq_append_iff.mp later with ⟨gap, rfl, closing⟩ | ⟨gap, rfl, closing⟩
      · exact ⟨gap, rfl, closing⟩
      · cases gap with
        | nil => exact ⟨[], by simp, by simpa using closing.symm⟩
        | cons c gap =>
            refine absurd ?_ (minimal between (c :: gap) rfl (List.cons_ne_nil c gap) begins)
            rw [← closing]
            exact here
    have short : (gap ++ (closeMarker ++ (last ++ rest))).takeWhile (fun c => !isLineBreak c) <+:
        gap ++ (closeMarker ++ last) := by
      have prefixed := @takeWhile_prefix_of_lineOver (gap ++ (closeMarker ++ last)) rest ended
      simpa using prefixed
    obtain ⟨tail, covered⟩ := short
    refine ⟨tail, ?_⟩
    rw [List.append_assoc, List.append_assoc, covered, List.append_cons, first]
    simp
  · -- the closing line starts before the block, and ends before it
    refine .inl ?_
    have more : between ≠ [] := by
      rintro rfl
      rw [List.nil_append] at later
      exact not_both_markers opens (later ▸ here)
    have feed : '\n' ∈ between := by
      obtain rfl | ⟨init, c, rfl, breaks⟩ := ((endsLine_append_iff _ more).mp starts).cases
      · exact absurd rfl more
      · have same := feeds c (by rw [same]; simp) breaks
        exact same ▸ List.mem_append_right init List.mem_cons_self
    rw [← List.append_assoc closeMarker] at later
    rcases List.append_eq_append_iff.mp later with ⟨gap, rfl, behind⟩ | ⟨gap, inside, -⟩
    · refine ⟨gap, ?_, by simp⟩
      rintro rfl
      rw [List.append_nil] at feed
      exact closing_solid solid feed
    · refine absurd ?_ (closing_solid solid)
      rw [inside]
      exact List.mem_append_left _ feed

/-- The first block is covered if there is none behind what ends with a closing line. -/
theorem exists_covered {first rest : Text} (feeds : OnlyFeeds (first ++ rest))
    (closed : first = [] ∨ EndsClosing first) (ended : LineOver rest)
    (clean : splitBlock rest = none) (has : splitBlock (first ++ rest) ≠ none) :
    ∃ before block more, first = before ++ block ++ more ∧
      splitBlock (first ++ rest) = some (before, block, more ++ rest) := by
  obtain ⟨⟨before, block, after⟩, parted⟩ := Option.ne_none_iff_exists'.mp has
  obtain ⟨same, starts, complete, -⟩ := splitBlock_spec parted
  rcases closed with rfl | closed
  · exact absurd clean has
  · rcases before_or_covers feeds parted closed ended with ⟨between, more, rfl⟩ | ⟨more, rfl⟩
    · refine absurd clean ?_
      rw [List.append_assoc, List.append_assoc, List.append_right_inj, ← List.append_assoc]
        at same
      rw [same]
      exact splitBlock_ne_none ((endsLine_append_iff first more).mp starts) complete
    · rw [List.append_assoc (before ++ block), List.append_right_inj] at same
      exact ⟨before, block, more, rfl, same ▸ parted⟩

theorem endsClosing_behind {covered more rest : Text} (feeds : OnlyFeeds (covered ++ more ++ rest))
    (closed : EndsClosing (covered ++ more)) (behind : LineOver (more ++ rest)) :
    more = [] ∨ EndsClosing more := by
  cases more with
  | nil => exact .inl rfl
  | cons c more =>
      refine .inr (closed.of_append (List.cons_ne_nil c more) fun d head => ?_)
      cases head
      exact feeds c (by simp) (behind c rfl)

/-- If no block is left behind the match, the match covers the first block. -/
theorem match_covers {before block after first found rest : Text} (feeds : OnlyFeeds text)
    (parted : splitBlock text = some (before, block, after))
    (matched : firstMatch text = some (first, found, rest)) (clean : splitBlock rest = none) :
    ∃ gap more, before = first ++ gap ∧ found = gap ++ block ++ more ∧ after = more ++ rest ∧
      EndsClosing (first ++ found) := by
  obtain ⟨gap, rfl⟩ := match_reaches parted matched
  obtain ⟨whole, here, -⟩ := firstMatch_eq_some_iff.mp matched
  obtain ⟨-, ended, line, inner, last, shape, solid⟩ := matchHere_spec here
  have closed : EndsClosing (first ++ found) :=
    ⟨first ++ (openMarker ++ (line ++ '\n' :: inner)), last, by rw [shape]; simp, solid⟩
  rw [← List.append_assoc] at whole
  subst whole
  obtain ⟨_, _, more, covered, same⟩ := exists_covered feeds (.inr closed) ended.lineOver clean
    (by rw [parted]; exact Option.some_ne_none _)
  cases parted.symm.trans same
  exact ⟨gap, more, rfl, by simpa using covered, rfl, closed⟩

end Vcompany.Integration.ConflictResolver
