import Vcompany.Integration.ConflictMatches

/-! # What a resolved file is

The hunks are found line by line, and the first match of a pattern is replaced by a template made
of the last answer. The file comes out as its answers say exactly if it has a single conflict, the
pattern finds that one, and its answer stands for itself (`resolves_each_iff`).
-/

namespace Vcompany.Integration.ConflictResolver

open Foundation Text

/-! ## Answers -/

section

variable (casing : Text.Casing) (answers : Answers)

/-- The PM answers the questions about the hunks with these texts, in order. -/
def Answered : ℕ → List Text → List Text → Prop
  | _, [], [] => True
  | number, hunk :: hunks, response :: responses =>
      answers number (resolvePrompt hunk) = .ok (.str response) ∧
        Answered (number + 1) hunks responses
  | _, _, _ => False

variable {casing answers}

theorem Answered.length {number : ℕ} {hunks responses : List Text}
    (answered : Answered answers number hunks responses) : hunks.length = responses.length := by
  fun_induction Answered answers number hunks responses with
  | case1 => rfl
  | case2 number hunk hunks response responses ih =>
      exact congrArg Nat.succ (ih answered.2)
  | case3 => exact answered.elim

/-- The answers to the questions are determined. -/
theorem Answered.unique {number : ℕ} {hunks responses others : List Text}
    (answered : Answered answers number hunks responses)
    (also : Answered answers number hunks others) : responses = others := by
  induction hunks generalizing number responses others with
  | nil =>
      cases responses with
      | nil =>
          cases others with
          | nil => rfl
          | cons => exact also.elim
      | cons => exact answered.elim
  | cons hunk hunks ih =>
      cases responses with
      | nil => exact answered.elim
      | cons response responses =>
          cases others with
          | nil => exact also.elim
          | cons other others =>
              cases answered.1.symm.trans also.1
              rw [ih answered.2 also.2]

theorem askHunks_eq_some_iff {number : ℕ} {response final : Text} {hunks : List Text} :
    askHunks casing answers number response hunks = .ok (some final) ↔
      ∃ responses, Answered answers number hunks responses ∧
        (∀ given ∈ responses, declines casing given = false) ∧
        responses.getLastD response = final := by
  induction hunks generalizing number response with
  | nil =>
      constructor
      · rintro same
        cases same
        exact ⟨[], trivial, nofun, rfl⟩
      · rintro ⟨responses, answered, -, rfl⟩
        cases responses with
        | nil => rfl
        | cons => exact answered.elim
  | cons hunk hunks ih =>
      unfold askHunks
      constructor
      · intro asked
        split at asked
        · cases asked
        · next given answer =>
            split at asked
            · cases asked
            · next accepted =>
                obtain ⟨responses, answered, others, last⟩ := ih.mp asked
                refine ⟨given :: responses, ⟨answer, answered⟩, ?_, ?_⟩
                · exact List.forall_mem_cons.mpr ⟨Bool.eq_false_iff.mpr accepted, others⟩
                · rwa [List.getLastD_cons]
        · cases asked
        · cases asked
      · rintro ⟨responses, answered, all, last⟩
        cases responses with
        | nil => exact answered.elim
        | cons given responses =>
            obtain ⟨accepted, later⟩ := List.forall_mem_cons.mp all
            rw [answered.1]
            dsimp only
            rw [accepted, if_neg Bool.false_ne_true]
            exact ih.mpr ⟨responses, answered.2, later, by rwa [List.getLastD_cons] at last⟩

/-- What is returned is made of the last answer, if the PM declines no hunk. -/
theorem resolve_eq_some_iff {content resolved : Text} :
    resolve casing (some answers) content = .ok (some resolved) ↔
      ∃ earlier last, Answered answers 0 (extractConflictHunks content) (earlier ++ [last]) ∧
        (∀ given ∈ earlier ++ [last], declines casing given = false) ∧
        applyResolution content last = .ok resolved := by
  unfold resolve
  dsimp only
  split
  · next empty =>
      refine iff_of_false nofun ?_
      rintro ⟨earlier, last, answered, -⟩
      have same := answered.length
      rw [empty, List.length_append, List.length_cons] at same
      cases same
  · next inhabited =>
      rw [PyExc.bind_eq_ok_iff]
      constructor
      · rintro ⟨_ | final, asked, same⟩
        · cases same
        · obtain ⟨responses, answered, accepted, last⟩ := askHunks_eq_some_iff.mp asked
          obtain ⟨result, applied, same⟩ := PyExc.bind_eq_ok_iff.mp same
          cases same
          rcases List.eq_nil_or_concat' responses with rfl | ⟨earlier, given, rfl⟩
          · exact absurd (List.length_eq_zero_iff.mp answered.length) inhabited
          · rw [List.getLastD_concat] at last
            exact ⟨earlier, given, answered, accepted, last ▸ applied⟩
      · rintro ⟨earlier, last, answered, accepted, applied⟩
        refine ⟨last, askHunks_eq_some_iff.mpr ⟨_, answered, accepted, ?_⟩, ?_⟩
        · rw [List.getLastD_concat]
        · dsimp only
          rw [applied]
          rfl

end

/-! ## The last answer -/

/-- What the last answer is placed behind, and what follows the last block. -/
theorem exists_resolvedWith {first rest : Text} {answers : List Text} (last : Text)
    (feeds : OnlyFeeds (first ++ rest)) (begins : LineOver (first ++ rest))
    (closed : first = [] ∨ EndsClosing first) (ended : LineOver rest)
    (clean : splitBlock rest = none)
    (count : (extractConflictHunks (first ++ rest)).length = answers.length + 1) :
    ∃ start stop, start ≠ [] ∧
      resolvedWith (answers ++ [last]) (first ++ rest) = start ++ last.strip ++ stop ++ rest := by
  obtain ⟨before, block, more, rfl, parted⟩ :=
    exists_covered feeds closed ended clean (splitBlock_ne_none_of_count count)
  obtain ⟨-, -, -, behind⟩ := splitBlock_spec parted
  have inhabited := ne_nil_of_lineOver begins parted
  cases answers with
  | nil =>
      refine ⟨before, more, inhabited, ?_⟩
      rw [List.nil_append, resolvedWith, parted]
      simp [resolvedWith]
  | cons answer answers =>
      have later := endsClosing_behind feeds
        (closed.resolve_left fun none => by simp [inhabited] at none) behind
      rw [length_extractConflictHunks, parted, List.length_cons, Nat.add_right_cancel_iff] at count
      have sub : more ++ rest ⊆ before ++ block ++ more ++ rest := by
        rw [List.append_assoc (before ++ block)]
        exact List.subset_append_right _ _
      have laterFeeds : OnlyFeeds (more ++ rest) := fun c member => feeds c (sub member)
      obtain ⟨start, stop, -, same⟩ :=
        exists_resolvedWith last laterFeeds behind later ended clean count
      refine ⟨before ++ answer.strip ++ start, stop, ?_, ?_⟩
      · simp [inhabited]
      · rw [List.cons_append, resolvedWith, parted]
        dsimp only
        rw [same]
        simp

/-! ## A single conflict -/

/-- The text has a single conflict block, the pattern finds it (no marker comes earlier, a line
stands between its two, and a line feed or nothing follows it), and the answer is literal and
leaves no block. -/
def SingleConflict (content answer : Text) : Prop :=
  ∃ before block after, splitBlock content = some (before, block, after) ∧
    splitBlock after = none ∧ ¬ openMarker <:+: before ∧
    (∃ first inner last,
      block = openMarker ++ (first ++ '\n' :: (inner ++ '\n' :: (closeMarker ++ last)))) ∧
    FeedOver after ∧ Template.Literal answer.strip ∧
    splitBlock (before ++ answer.strip ++ after) = none

/-! ## The resolved file -/

section

variable (casing : Text.Casing) (answers : Answers) (content : Text)

/-- What is returned for the file is the file with each block replaced by the answer about it,
and without blocks. -/
def ResolvesEach : Prop :=
  ∀ resolved, resolve casing (some answers) content = .ok (some resolved) →
    ∃ responses, Answered answers 0 (extractConflictHunks content) responses ∧
      resolved = resolvedWith responses content ∧ extractConflictHunks resolved = []

/-- If the PM answers all hunks without declining, and the last answer is a template, the file
has a single conflict. -/
def HasSingleConflict : Prop :=
  ∀ earlier last, Answered answers 0 (extractConflictHunks content) (earlier ++ [last]) →
    (∀ given ∈ earlier ++ [last], declines casing given = false) →
    (∃ parts, Template.parse last.strip = .ok parts) →
      earlier = [] ∧ SingleConflict content last

end

variable {casing : Text.Casing} {answers : Answers} {content : Text}

theorem applyResolution_eq_ok_iff {last resolved : Text} :
    applyResolution content last = .ok resolved ↔
      ∃ parts, Template.parse last.strip = .ok parts ∧
        resolved = match firstMatch content with
          | some (before, found, after) => before ++ Template.expand parts found ++ after
          | none => content := by
  unfold applyResolution
  rw [PyExc.bind_eq_ok_iff]
  refine exists_congr fun parts => and_congr_right fun _ => ?_
  rcases firstMatch content with _ | ⟨before, found, after⟩
  · exact ⟨fun same => (Except.ok.inj same).symm, fun same => congrArg Except.ok same.symm⟩
  · exact ⟨fun same => (Except.ok.inj same).symm, fun same => congrArg Except.ok same.symm⟩

theorem resolves_of_single (single : HasSingleConflict casing answers content) :
    ResolvesEach casing answers content := by
  intro resolved returned
  obtain ⟨earlier, last, answered, accepted, applied⟩ := resolve_eq_some_iff.mp returned
  obtain ⟨parts, read, same⟩ := applyResolution_eq_ok_iff.mp applied
  obtain ⟨rfl, before, block, after, parted, -, lacks, between, ended, literal, clean⟩ :=
    single earlier last answered accepted ⟨parts, read⟩
  rw [firstMatch_block parted lacks (matchHere_block parted between ended)] at same
  obtain ⟨others, alsoRead, stands⟩ := Template.parse_of_literal literal
  obtain rfl := Except.ok.inj (read.symm.trans alsoRead)
  dsimp only at same
  rw [stands] at same
  refine ⟨[last], answered, ?_, ?_⟩
  · rw [same, resolvedWith, parted]
    rfl
  · rw [same]
    exact extractConflictHunks_eq_nil_iff.mpr clean

/-- A template that expands to a longer text puts the match back, with the blocks in it. -/
theorem splitBlock_expand_ne_none {template first found rest line block tail : Text}
    {parts : List TemplatePart} (read : Template.parse template = .ok parts)
    (longer : template.length < (Template.expand parts found).length)
    (inside : found = line ++ block ++ tail) (inhabited : line ≠ []) (ends : EndsLine line)
    (complete : Complete block) :
    splitBlock (first ++ Template.expand parts found ++ rest) ≠ none := by
  obtain ⟨reads, rfl⟩ := Template.parse_reads read
  obtain ⟨before, after, same⟩ := Template.exists_expand_of_longer reads longer
  have shape : first ++ Template.expand parts found ++ rest =
      first ++ before ++ line ++ block ++ (tail ++ after ++ rest) := by
    rw [same, inside]
    simp
  rw [shape]
  exact splitBlock_ne_none ((endsLine_append_iff _ inhabited).mpr ends) complete

/-- A template that is the start of what it expands to is that. -/
theorem literal_of_prefix {template found more : Text} {parts : List TemplatePart}
    (read : Template.parse template = .ok parts) (opens : openMarker <+: found)
    (same : Template.expand parts found = template ++ more) :
    Template.Literal template ∧ more = [] := by
  obtain ⟨reads, rfl⟩ := Template.parse_reads read
  have starts : ∃ c ∈ found.head?, ¬ Template.Digital c := by
    obtain ⟨rest, rfl⟩ := opens
    exact ⟨'<', rfl, by decide⟩
  have literal := Template.literal_of_prefix_expand reads starts ⟨more, same.symm⟩
  obtain ⟨others, alsoRead, stands⟩ := Template.parse_of_literal literal
  obtain rfl := Except.ok.inj (read.symm.trans alsoRead)
  rw [stands] at same
  exact ⟨literal, by simpa using same⟩

section

variable {last first found rest : Text} {parts : List TemplatePart}

/-- Of several blocks one is left: the template puts it back with the match. -/
theorem block_left_of_several {answer : Text} {earlier : List Text} (feeds : OnlyFeeds content)
    (count : (extractConflictHunks content).length = earlier.length + 1 + 1)
    (read : Template.parse last.strip = .ok parts)
    (matched : firstMatch content = some (first, found, rest)) (clean : splitBlock rest = none)
    (each : first ++ Template.expand parts found ++ rest =
      resolvedWith (answer :: (earlier ++ [last])) content) :
    splitBlock (first ++ Template.expand parts found ++ rest) ≠ none := by
  obtain ⟨⟨before, block, after⟩, parted⟩ :=
    Option.ne_none_iff_exists'.mp (splitBlock_ne_none_of_count count)
  obtain ⟨same, -, -, behind⟩ := splitBlock_spec parted
  obtain ⟨-, here, -⟩ := firstMatch_eq_some_iff.mp matched
  obtain ⟨-, ended, -⟩ := matchHere_spec here
  obtain ⟨gap, more, rfl, covered, rfl, closed⟩ := match_covers feeds parted matched clean
  rw [length_extractConflictHunks, parted, Nat.add_right_cancel_iff] at count
  have wholeFeeds : OnlyFeeds (first ++ gap ++ block ++ more ++ rest) := by
    rw [List.append_assoc _ more, ← same]
    exact feeds
  have covers : EndsClosing (first ++ gap ++ block ++ more) := by
    rw [covered] at closed
    simpa using closed
  have later := endsClosing_behind wholeFeeds covers behind
  have laterFeeds : OnlyFeeds (more ++ rest) := by
    refine fun c member => feeds c ?_
    rw [same]
    exact List.mem_append_right _ member
  -- the match covers a second block
  obtain ⟨between, other, tail, rfl, alsoParted⟩ := exists_covered laterFeeds later
    ended.lineOver clean (splitBlock_ne_none_of_count count)
  obtain ⟨-, starts, complete, -⟩ := splitBlock_spec alsoParted
  have inhabited := ne_nil_of_lineOver behind alsoParted
  have inside : found = gap ++ block ++ between ++ other ++ tail := by
    rw [covered]
    simp
  -- and the template expands to more than the last answer
  obtain ⟨start, stop, more, placed⟩ :=
    exists_resolvedWith last laterFeeds behind later ended.lineOver clean count
  rw [resolvedWith, parted] at each
  dsimp only at each
  rw [placed] at each
  have expanded : Template.expand parts found =
      gap ++ answer.strip ++ start ++ last.strip ++ stop := by
    refine List.append_cancel_left (List.append_cancel_right (each.trans ?_))
    simp
  refine splitBlock_expand_ne_none read ?_ inside (by simp [inhabited])
    ((endsLine_append_iff _ inhabited).mpr starts) complete
  have longer := List.length_pos_of_ne_nil more
  rw [expanded]
  simp only [List.length_append]
  omega

/-- The template of a single block is literal, and the match is the block. -/
theorem single_of_one (feeds : OnlyFeeds content) (has : splitBlock content ≠ none)
    (read : Template.parse last.strip = .ok parts)
    (matched : firstMatch content = some (first, found, rest)) (restClean : splitBlock rest = none)
    (each : first ++ Template.expand parts found ++ rest = resolvedWith [last] content)
    (clean : splitBlock (first ++ Template.expand parts found ++ rest) = none) :
    SingleConflict content last := by
  obtain ⟨⟨before, block, after⟩, parted⟩ := Option.ne_none_iff_exists'.mp has
  obtain ⟨-, starts, complete, -⟩ := splitBlock_spec parted
  obtain ⟨-, here, -⟩ := firstMatch_eq_some_iff.mp matched
  obtain ⟨-, ended, line, inner, tail, shape, -⟩ := matchHere_spec here
  obtain ⟨gap, more, rfl, covered, rfl, -⟩ := match_covers feeds parted matched restClean
  rw [resolvedWith, parted] at each
  dsimp only [resolvedWith] at each
  have expanded : Template.expand parts found = gap ++ last.strip ++ more := by
    refine List.append_cancel_left (List.append_cancel_right (each.trans ?_))
    simp
  by_cases inhabited : gap = []
  · subst inhabited
    obtain ⟨literal, rfl⟩ := literal_of_prefix read ⟨_, shape.symm⟩ expanded
    rw [List.nil_append, List.append_nil] at covered expanded
    rw [expanded] at clean
    rw [List.append_nil] at parted
    exact ⟨first, block, rest, parted, restClean, lacks_of_firstMatch matched,
      ⟨line, inner, tail, covered ▸ shape⟩, ended, literal, clean⟩
  · refine absurd clean (splitBlock_expand_ne_none read ?_ covered inhabited
      ((endsLine_append_iff first inhabited).mp starts) complete)
    have longer := List.length_pos_of_ne_nil inhabited
    rw [expanded]
    simp only [List.length_append]
    omega

end

theorem single_of_resolves (feeds : OnlyFeeds content)
    (resolves : ResolvesEach casing answers content) :
    HasSingleConflict casing answers content := by
  rintro earlier last answered accepted ⟨parts, read⟩
  have returned := resolve_eq_some_iff.mpr ⟨earlier, last, answered, accepted,
    applyResolution_eq_ok_iff.mpr ⟨parts, read, rfl⟩⟩
  obtain ⟨responses, alsoAnswered, each, clean⟩ := resolves _ returned
  obtain rfl := answered.unique alsoAnswered
  have count := answered.length
  rw [List.length_append, List.length_cons, List.length_nil, Nat.zero_add] at count
  rw [extractConflictHunks_eq_nil_iff] at clean
  have has := splitBlock_ne_none_of_count count
  rcases matched : firstMatch content with _ | ⟨first, found, rest⟩
  · rw [matched] at clean
    exact absurd clean has
  · rw [matched] at each clean
    obtain ⟨-, here, -⟩ := firstMatch_eq_some_iff.mp matched
    have restClean : splitBlock rest = none := by
      by_contra left
      exact splitBlock_append_ne_none (matchHere_spec here).2.1.lineOver left _ clean
    cases earlier with
    | nil => exact ⟨rfl, single_of_one feeds has read matched restClean each clean⟩
    | cons answer earlier =>
        exact absurd clean (block_left_of_several feeds count read matched restClean each)

/-- **When a resolved file is what its answers say.** If the PM answers a single conflict, which
the pattern finds, and the answer stands for itself and leaves no block; and only then, if the
file has no line breaks but line feeds. -/
theorem resolves_each_iff (casing : Text.Casing) (answers : Answers) (content : Text) :
    (HasSingleConflict casing answers content → ResolvesEach casing answers content) ∧
      (OnlyFeeds content →
        (ResolvesEach casing answers content ↔ HasSingleConflict casing answers content)) :=
  ⟨resolves_of_single, fun feeds => ⟨single_of_resolves feeds, resolves_of_single⟩⟩

private def oneConflict : Text := "a\n<<<<<<< HEAD\nb\n=======\nc\n>>>>>>> x\nd\n".toList

private def mergedAnswer : Text := "b\nc\n".toList

theorem one_conflict_resolved :
    ResolvesEach .plain (fun _ _ => .ok (.str mergedAnswer)) oneConflict := by
  refine (resolves_each_iff _ _ _).1 fun earlier last answered _ _ => ?_
  have one : (extractConflictHunks oneConflict).length = 1 := by decide +kernel
  have count := answered.length
  rw [one, List.length_append, List.length_cons, List.length_nil, Nat.zero_add] at count
  obtain rfl := List.length_eq_zero_iff.mp (Nat.add_eq_right.mp count.symm)
  obtain ⟨hunk, only⟩ := List.length_eq_one_iff.mp one
  rw [only] at answered
  cases answered.1
  refine ⟨rfl, "a\n".toList, "<<<<<<< HEAD\nb\n=======\nc\n>>>>>>> x".toList, "\nd\n".toList, ?_⟩
  refine ⟨by decide +kernel, by decide +kernel, by decide +kernel,
    ⟨" HEAD".toList, "b\n=======\nc".toList, " x".toList, by decide +kernel⟩, ?_, ?_,
    by decide +kernel⟩
  · rintro c ⟨⟩
    rfl
  · exact Template.literal_of_lacks (by decide +kernel)

private def twoConflicts : Text :=
  "<<<<<<< a\n1\n=======\n2\n>>>>>>> b\n-\n<<<<<<< a\n3\n=======\n4\n>>>>>>> b\n".toList

/-- The first conflict is replaced by the answer about the second, which stays. -/
theorem second_conflict_left :
    ¬ ∀ (casing : Text.Casing) (answers : Answers) (content : Text),
      ResolvesEach casing answers content := by
  intro claim
  have returned : resolve .plain
      (some fun number _ => .ok (.str (if number = 0 then "one".toList else "two".toList)))
        twoConflicts =
      .ok (some "two\n-\n<<<<<<< a\n3\n=======\n4\n>>>>>>> b\n".toList) := by decide +kernel
  obtain ⟨responses, -, -, clean⟩ := claim _ _ _ _ returned
  revert clean
  decide +kernel

end Vcompany.Integration.ConflictResolver
