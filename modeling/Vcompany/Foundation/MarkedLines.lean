import Vcompany.Foundation.Search

/-! # Lines that start with a marker

A text is parted at its first line that starts with a marker. The lines of `str.splitlines` are
parted with it (`splitlines_of_seekLine`), so that a scan of the lines finds what a search of the
text finds.
-/

namespace Vcompany.Foundation

namespace Text

/-- Whether a line starts behind the text, given whether one starts with it. -/
def fresh (start : Bool) (before : Text) : Bool := before.foldl (fun _ c => isLineBreak c) start

/-- A line starts behind the text. -/
def EndsLine (before : Text) : Prop := fresh true before = true

instance (before : Text) : Decidable (EndsLine before) := inferInstanceAs (Decidable (_ = _))

/-- The text before the first line that starts with the marker, and from there on. -/
def seekFrom (marker : Text) : Bool → Text → Option (Text × Text)
  | _, [] => none
  | start, c :: rest =>
      if start = true ∧ marker <+: c :: rest then some ([], c :: rest)
      else (seekFrom marker (isLineBreak c) rest).map fun (before, found) => (c :: before, found)

def seekLine (marker text : Text) : Option (Text × Text) := seekFrom marker true text

variable {marker text before found : Text}

@[simp] theorem fresh_cons (start : Bool) (c : Char) (before : Text) :
    fresh start (c :: before) = fresh (isLineBreak c) before := rfl

theorem fresh_append (start : Bool) (first second : Text) :
    fresh start (first ++ second) = fresh (fresh start first) second := List.foldl_append

/-- Only of the empty text it matters how it starts. -/
theorem fresh_of_ne_nil (inhabited : before ≠ []) (start other : Bool) :
    fresh start before = fresh other before := by
  cases before with
  | nil => exact absurd rfl inhabited
  | cons => rfl

theorem endsLine_append_iff (first : Text) {second : Text} (inhabited : second ≠ []) :
    EndsLine (first ++ second) ↔ EndsLine second := by
  unfold EndsLine
  rw [fresh_append, fresh_of_ne_nil inhabited _ true]

theorem endsLine_concat {c : Char} (ends : isLineBreak c = true) (before : Text) :
    EndsLine (before ++ [c]) :=
  (endsLine_append_iff before (List.cons_ne_nil c [])).mpr ends

/-- A text behind which a line starts is empty or ends with a line break. -/
theorem EndsLine.cases (ends : EndsLine before) :
    before = [] ∨ ∃ line c, before = line ++ [c] ∧ isLineBreak c = true := by
  rcases List.eq_nil_or_concat' before with none | ⟨line, c, rfl⟩
  · exact .inl none
  · exact .inr ⟨line, c, rfl, (endsLine_append_iff line (List.cons_ne_nil c [])).mp ends⟩

/-! ## The first marked line -/

theorem seekFrom_eq_some_iff {start : Bool} :
    seekFrom marker start text = some (before, found) ↔
      text = before ++ found ∧ found ≠ [] ∧ marker <+: found ∧ fresh start before = true ∧
        ∀ first second, before = first ++ second → second ≠ [] → fresh start first = true →
          ¬ marker <+: second ++ found := by
  induction text generalizing start before with
  | nil =>
      refine iff_of_false nofun ?_
      rintro ⟨same, inhabited, -⟩
      exact inhabited (List.append_eq_nil_iff.mp same.symm).2
  | cons c rest ih =>
      unfold seekFrom
      split
      · next here =>
          constructor
          · rintro same
            cases same
            refine ⟨rfl, List.cons_ne_nil c rest, here.2, here.1, fun first second none more => ?_⟩
            exact absurd (List.append_eq_nil_iff.mp none.symm).2 more
          · rintro ⟨same, -, -, -, minimal⟩
            cases before with
            | nil =>
                cases same
                rfl
            | cons e before =>
                exact absurd (same ▸ here.2)
                  (minimal [] (e :: before) rfl (List.cons_ne_nil e before) here.1)
      · next other =>
          rw [Option.map_eq_some_iff]
          constructor
          · rintro ⟨⟨earlier, later⟩, parted, same⟩
            cases same
            obtain ⟨whole, inhabited, marked, ends, minimal⟩ := ih.mp parted
            refine ⟨congrArg (List.cons c) whole, inhabited, marked, ends, ?_⟩
            intro first second same more begins marks
            cases first with
            | nil =>
                cases same
                refine other ⟨begins, ?_⟩
                rwa [whole]
            | cons d first =>
                cases same
                exact minimal first second rfl more begins marks
          · rintro ⟨same, inhabited, marked, ends, minimal⟩
            cases before with
            | nil =>
                cases same
                exact absurd ⟨ends, marked⟩ other
            | cons d before =>
                cases same
                refine ⟨(before, found), ih.mpr ⟨rfl, inhabited, marked, ends, ?_⟩, rfl⟩
                rintro first second rfl
                exact minimal (c :: first) second rfl

theorem seekFrom_eq_none_iff {start : Bool} (inhabited : marker ≠ []) :
    seekFrom marker start text = none ↔
      ∀ before found, text = before ++ found → fresh start before = true →
        ¬ marker <+: found := by
  induction text generalizing start with
  | nil =>
      refine iff_of_true rfl fun before found same _ marked => inhabited ?_
      obtain rfl := (List.append_eq_nil_iff.mp same.symm).2
      exact List.prefix_nil.mp marked
  | cons c rest ih =>
      unfold seekFrom
      split
      · next here =>
          exact iff_of_false (Option.some_ne_none _) fun none => none [] _ rfl here.1 here.2
      · next other =>
          rw [Option.map_eq_none_iff, ih]
          constructor
          · intro none before found same begins marked
            cases before with
            | nil =>
                cases same
                exact other ⟨begins, marked⟩
            | cons d before =>
                cases same
                exact none before found rfl begins marked
          · rintro none before found rfl begins
            exact none (c :: before) found rfl begins

theorem seekLine_eq_some_iff :
    seekLine marker text = some (before, found) ↔
      text = before ++ found ∧ found ≠ [] ∧ marker <+: found ∧ EndsLine before ∧
        ∀ first second, before = first ++ second → second ≠ [] → EndsLine first →
          ¬ marker <+: second ++ found := seekFrom_eq_some_iff

theorem seekLine_eq_none_iff (inhabited : marker ≠ []) :
    seekLine marker text = none ↔
      ∀ before found, text = before ++ found → EndsLine before → ¬ marker <+: found :=
  seekFrom_eq_none_iff inhabited

/-- A marked line is found, there or earlier. -/
theorem exists_seekLine (inhabited : marker ≠ []) (ends : EndsLine before)
    (marked : marker <+: found) :
    ∃ earlier between, before = earlier ++ between ∧
      seekLine marker (before ++ found) = some (earlier, between ++ found) := by
  rcases parted : seekLine marker (before ++ found) with _ | ⟨earlier, later⟩
  · exact absurd marked ((seekLine_eq_none_iff inhabited).mp parted before found rfl ends)
  · obtain ⟨whole, _, starts, _, minimal⟩ := seekLine_eq_some_iff.mp parted
    rcases List.append_eq_append_iff.mp whole with ⟨between, rfl, rfl⟩ | ⟨between, rfl, rfl⟩
    · cases between with
      | nil => exact ⟨before, [], (List.append_nil _).symm, by rw [List.append_nil]; rfl⟩
      | cons c between =>
          exact absurd marked (minimal before (c :: between) rfl (List.cons_ne_nil c _) ends)
    · exact ⟨earlier, between, rfl, rfl⟩

/-! ## Markers and lines -/

theorem splitlinesFrom_append_of_fresh (other : '\n' ∉ found.head?) (line : Text)
    (ends : fresh line.isEmpty before = true) :
    splitlinesFrom line (before ++ found) = splitlinesFrom line before ++ splitlines found := by
  fun_induction splitlinesFrom line before with
  | case1 line empty =>
      obtain rfl := List.isEmpty_iff.mp empty
      rfl
  | case2 line more => exact absurd ends more
  | case3 line rest ih =>
      rw [List.cons_append, List.cons_append, splitlinesFrom, ih ends]
      rfl
  | case4 line c rest apart breaks ih =>
      rw [fresh_cons, breaks] at ends
      rw [List.cons_append, splitlinesFrom, if_pos breaks, ih ends]
      · rfl
      · rintro later rfl same
        cases rest with
        | nil =>
            rw [List.nil_append] at same
            exact other (same ▸ rfl)
        | cons d rest =>
            cases same
            exact apart rest rfl rfl
  | case5 line c rest apart solid ih =>
      rw [fresh_cons, Bool.eq_false_iff.mpr solid] at ends
      rw [List.cons_append, splitlinesFrom, if_neg solid, ih ends]
      rintro later rfl _
      exact solid (by decide)

/-- What precedes the start of a line is split into lines for itself. -/
theorem splitlines_append (ends : EndsLine before) (other : '\n' ∉ found.head?) :
    splitlines (before ++ found) = splitlines before ++ splitlines found :=
  splitlinesFrom_append_of_fresh other [] ends

theorem exists_of_mem_splitlinesFrom {line start : Text}
    (member : line ∈ splitlinesFrom start text) :
    ∃ before after, start.reverse ++ text = before ++ line ++ after ∧ EndsLine before := by
  fun_induction splitlinesFrom start text with
  | case1 => cases member
  | case2 start =>
      obtain rfl := List.mem_singleton.mp member
      exact ⟨[], [], by simp, rfl⟩
  | case3 start rest ih =>
      rcases List.mem_cons.mp member with rfl | later
      · exact ⟨[], '\r' :: '\n' :: rest, by simp, rfl⟩
      · obtain ⟨before, after, same, ends⟩ := ih later
        rw [List.reverse_nil, List.nil_append] at same
        refine ⟨start.reverse ++ ['\r', '\n'] ++ before, after, by simp [same], ?_⟩
        unfold EndsLine at ends ⊢
        rw [fresh_append, fresh_append]
        exact ends
  | case4 start c rest apart breaks ih =>
      rcases List.mem_cons.mp member with rfl | later
      · exact ⟨[], c :: rest, by simp, rfl⟩
      · obtain ⟨before, after, same, ends⟩ := ih later
        rw [List.reverse_nil, List.nil_append] at same
        refine ⟨start.reverse ++ [c] ++ before, after, by simp [same], ?_⟩
        unfold EndsLine at ends ⊢
        rw [fresh_append, fresh_append, fresh_cons, breaks]
        exact ends
  | case5 start c rest apart solid ih =>
      obtain ⟨before, after, same, ends⟩ := ih member
      exact ⟨before, after, by simpa using same, ends⟩

/-- A line of a text begins where a line starts. -/
theorem exists_of_mem_splitlines {line : Text} (member : line ∈ splitlines text) :
    ∃ before after, text = before ++ line ++ after ∧ EndsLine before :=
  exists_of_mem_splitlinesFrom member

/-- No line before a marked one is marked. -/
theorem splitlines_of_seekLine (other : '\n' ∉ marker.head?) (inhabited : marker ≠ [])
    (parted : seekLine marker text = some (before, found)) :
    splitlines text = splitlines before ++ splitlines found ∧
      ∀ line ∈ splitlines before, ¬ marker <+: line := by
  obtain ⟨rfl, _, marked, ends, minimal⟩ := seekLine_eq_some_iff.mp parted
  constructor
  · refine splitlines_append ends ?_
    obtain ⟨rest, rfl⟩ := marked
    rwa [List.head?_append_of_ne_nil _ inhabited]
  · intro line member marks
    obtain ⟨first, after, rfl, begins⟩ := exists_of_mem_splitlines member
    have more : line ++ after ≠ [] := by
      intro none
      rw [(List.append_eq_nil_iff.mp none).1] at marks
      exact inhabited (List.prefix_nil.mp marks)
    refine minimal first (line ++ after) (List.append_assoc ..) more begins ?_
    rw [List.append_assoc]
    exact marks.trans (List.prefix_append _ _)

theorem splitlines_of_seekLine_none (inhabited : marker ≠ [])
    (none : seekLine marker text = none) : ∀ line ∈ splitlines text, ¬ marker <+: line := by
  intro line member marks
  obtain ⟨first, after, rfl, begins⟩ := exists_of_mem_splitlines member
  rw [List.append_assoc] at none
  exact (seekLine_eq_none_iff inhabited).mp none first (line ++ after) rfl begins
    (marks.trans (List.prefix_append _ _))

/-- The characters of a line are read before it ends. -/
theorem splitlinesFrom_append {line : Text} (solid : ∀ c ∈ line, isLineBreak c = false)
    (start rest : Text) :
    splitlinesFrom start (line ++ rest) = splitlinesFrom (line.reverse ++ start) rest := by
  induction line generalizing start with
  | nil => rfl
  | cons c line ih =>
      obtain ⟨own, later⟩ := List.forall_mem_cons.mp solid
      have inside : ¬ isLineBreak c = true := by rw [own]; exact Bool.false_ne_true
      rw [List.cons_append, splitlinesFrom, if_neg inside, ih later, List.reverse_cons,
        List.append_assoc, List.singleton_append]
      rintro _ rfl _
      exact inside (by decide)

/-- The line that has begun goes on in the first line of the rest. -/
theorem exists_splitlinesFrom_cons {start : Text} (inhabited : start ≠ []) (rest : Text) :
    ∃ more lines, splitlinesFrom start rest = (start.reverse ++ more) :: lines := by
  fun_induction splitlinesFrom start rest with
  | case1 start empty => exact absurd (List.isEmpty_iff.mp empty) inhabited
  | case2 start => exact ⟨[], [], by rw [List.append_nil]⟩
  | case3 start rest => exact ⟨[], _, by rw [List.append_nil]⟩
  | case4 start c rest => exact ⟨[], _, by rw [List.append_nil]⟩
  | case5 start c rest _ _ ih =>
      obtain ⟨more, lines, same⟩ := ih (List.cons_ne_nil c start)
      exact ⟨c :: more, lines, by simp [same]⟩

/-- The first line of a text that starts with a marker starts with it. -/
theorem exists_splitlines_cons (inhabited : marker ≠ [])
    (solid : ∀ c ∈ marker, isLineBreak c = false) (rest : Text) :
    ∃ more lines, splitlines (marker ++ rest) = (marker ++ more) :: lines := by
  have begun : marker.reverse ++ [] ≠ [] := by simpa using inhabited
  obtain ⟨more, lines, same⟩ := exists_splitlinesFrom_cons begun rest
  refine ⟨more, lines, ?_⟩
  rw [splitlines, splitlinesFrom_append solid, same]
  simp

/-- Nothing follows, or a line break does. -/
def LineOver (after : Text) : Prop := ∀ c ∈ after.head?, isLineBreak c = true

/-- A line and the line breaks behind it: the line break by which it ends begins no line of its
own. -/
theorem splitlines_line {line after : Text} (inhabited : line ≠ [])
    (solid : ∀ c ∈ line, isLineBreak c = false) (ended : LineOver after) :
    splitlines (line ++ after) = line :: (splitlines after).tail := by
  rw [splitlines, splitlinesFrom_append solid, List.append_nil, splitlines]
  have open_line : line.reverse.isEmpty = false := by simpa using inhabited
  generalize begun : line.reverse = start at open_line
  obtain rfl : line = start.reverse := by rw [← begun, List.reverse_reverse]
  fun_cases splitlinesFrom start after with
  | case1 empty =>
      rw [open_line] at empty
      cases empty
  | case2 => rfl
  | case3 rest => rfl
  | case4 c rest apart breaks =>
      rw [splitlinesFrom, if_pos breaks]
      · rfl
      · exact apart
  | case5 c rest apart solid => exact absurd (ended c rfl) solid

/-- A text that starts with a line break starts with an empty line. -/
theorem splitlines_of_lineOver {after : Text} (ended : LineOver after) :
    splitlines after = [] ∨ ∃ lines, splitlines after = [] :: lines := by
  rw [splitlines]
  generalize none : ([] : Text) = start
  fun_cases splitlinesFrom start after with
  | case1 => exact .inl rfl
  | case2 more => exact absurd (none ▸ rfl) more
  | case3 rest =>
      subst none
      exact .inr ⟨_, rfl⟩
  | case4 c rest apart breaks =>
      subst none
      exact .inr ⟨_, rfl⟩
  | case5 c rest apart solid => exact absurd (ended c rfl) solid

end Text

end Vcompany.Foundation
