import Mathlib.Algebra.Order.BigOperators.Group.List
import Mathlib.Algebra.Order.Ring.Nat
import Vcompany.Tools.PatchGsdWorkflows

/-! # What the patches do to the workflow files

Patching twice is patching once, and a patch only inserts: the marker line, and pieces of the
file. The patches of the three files with instructions pass over a missing anchor, and write the
marker all the same; those of the two files with reports fail there. So all pieces of a file
are inserted exactly where all anchors of the three files are found (`patchAll_inserts_iff`), and
what `verify_patches` reports of those files does not tell whether the instructions stand in them
(`verified_takesEffect_iff`).
-/

namespace Vcompany.Tools

open Foundation

namespace WorkflowFile

/-- The patch of a file. -/
def patch : WorkflowFile → Option Text → Option Text × Bool
  | discussPhase => patchReports discussInsertions
  | discussPhaseAssumptions => patchReports discussAssumptionsInsertions
  | planPhase => patchInstructions planPhaseInsertions
  | executePhase => patchInstructions executePhaseInsertions
  | executePlan => patchInstructions executePlanInsertions

def insertions : WorkflowFile → List Insertion
  | discussPhase => discussInsertions
  | discussPhaseAssumptions => discussAssumptionsInsertions
  | planPhase => planPhaseInsertions
  | executePhase => executePhaseInsertions
  | executePlan => executePlanInsertions

/-- The reports or instructions that are defined for a file. -/
def pieces (file : WorkflowFile) : List Text := file.insertions.map Insertion.piece

/-- The patch passes over an anchor that is missing. -/
def isLenient : WorkflowFile → Bool
  | discussPhase | discussPhaseAssumptions => false
  | planPhase | executePhase | executePlan => true

end WorkflowFile

/-- What becomes of each file. -/
theorem patchAll_file (files : Workflows) (file : WorkflowFile) :
    (patchAll files).1 file = (file.patch (files file)).1 := by
  cases file <;> rfl

theorem patchAll_result (files : Workflows) (file : WorkflowFile) :
    (patchAll files).2 file = (file.patch (files file)).2 := by
  cases file <;> rfl

def markerLine : Text := patchMarker ++ "\n".toList

/-- The text is the original with the marker line and the pieces put into it, in some order. -/
def Augmented (pieces : List Text) (original result : Text) : Prop :=
  ∃ order, order.Perm (markerLine :: pieces) ∧ Text.Inserted order original result

/-- Patching twice is patching once. Each file is as it was, or augmented with chosen pieces. A file
whose patch has failed is as it was, and one that had no marker and whose patch has succeeded is
verified. -/
structure Patches (chosen : WorkflowFile → List Text → Prop) (files : Workflows) : Prop where
  idempotent : (patchAll (patchAll files).1).1 = (patchAll files).1
  inserts : ∀ file, (patchAll files).1 file = files file ∨
    ∃ content result pieces, files file = some content ∧
      (patchAll files).1 file = some result ∧ chosen file pieces ∧
        Augmented pieces content result
  failed : ∀ file, (patchAll files).2 file = false → (patchAll files).1 file = files file
  verified : ∀ file content, files file = some content → ¬ IsPatched content →
    (patchAll files).2 file = true → verifyPatches (patchAll files).1 file = true

/-- All pieces of a file are inserted. -/
abbrev InsertsAll : Workflows → Prop := Patches fun file pieces => pieces = file.pieces

/-- Pieces of the file are inserted, and nothing else. -/
abbrev OnlyInserts : Workflows → Prop := Patches fun file pieces => pieces.Sublist file.pieces

/-- The condition on the files: each anchor is found in a file whose patch would pass over it, where
there is such a file without a marker. -/
def AnchorsFound (files : Workflows) : Prop :=
  ∀ file content, files file = some content → ¬ IsPatched content → file.isLenient = true →
    ∀ insertion ∈ file.insertions, insertion.anchor <:+: content

variable {insertions : List Insertion} {content : Text} {file : WorkflowFile}

theorem isPatched_addMarker (content : Text) : IsPatched (addMarker content) := by
  unfold addMarker
  rw [List.append_assoc]
  exact (List.prefix_append patchMarker _).isInfix

/-! ## Insertions that keep apart -/

/-- The first insertion neither makes nor breaks an occurrence of the second anchor, and the second
insertion does not tear the first piece apart. -/
structure KeepApart (first second : Insertion) : Prop where
  pieceApart : Text.BeginsApart second.anchor first.piece
  anchorApart : Text.BeginsApart second.anchor first.anchor
  outside : ¬ second.anchor <:+: first.piece
  solid : Text.Solid second.anchor first.piece

instance (first second : Insertion) : Decidable (KeepApart first second) :=
  decidable_of_iff (Text.BeginsApart second.anchor first.piece ∧
      Text.BeginsApart second.anchor first.anchor ∧ ¬ second.anchor <:+: first.piece ∧
        Text.Solid second.anchor first.piece)
    ⟨fun ⟨pieceApart, anchorApart, outside, solid⟩ => ⟨pieceApart, anchorApart, outside, solid⟩,
      fun ⟨pieceApart, anchorApart, outside, solid⟩ => ⟨pieceApart, anchorApart, outside, solid⟩⟩

/-- No insertion gets in the way of a later one. -/
def Separate (insertions : List Insertion) : Prop := insertions.Pairwise KeepApart

instance (insertions : List Insertion) : Decidable (Separate insertions) :=
  inferInstanceAs (Decidable (insertions.Pairwise KeepApart))

theorem separate_insertions (file : WorkflowFile) : Separate file.insertions := by
  cases file <;> decide +kernel

/-- The insertions whose anchors are found in the text. -/
def foundIn (content : Text) (insertions : List Insertion) : List Insertion :=
  insertions.filter fun insertion => insertion.anchor <:+: content

theorem foundIn_cons_of_found {insertion : Insertion} (found : insertion.anchor <:+: content)
    (rest : List Insertion) :
    foundIn content (insertion :: rest) = insertion :: foundIn content rest :=
  List.filter_cons_of_pos (decide_eq_true found)

theorem foundIn_cons_of_absent {insertion : Insertion} (absent : ¬ insertion.anchor <:+: content)
    (rest : List Insertion) : foundIn content (insertion :: rest) = foundIn content rest :=
  List.filter_cons_of_neg (by simpa using absent)

/-- What is found later does not depend on the first insertion. -/
theorem anchor_infix_iff {first second : Insertion} (apart : KeepApart first second) :
    second.anchor <:+: Text.insertBefore first.anchor first.piece content ↔
      second.anchor <:+: content := by
  rw [Text.infix_insertBefore_iff apart.pieceApart apart.anchorApart]
  exact or_iff_left fun both => apart.outside both.2

theorem foundIn_insertBefore {first : Insertion} (separate : Separate (first :: insertions)) :
    foundIn (Text.insertBefore first.anchor first.piece content) insertions =
      foundIn content insertions := by
  apply List.filter_congr
  intro second member
  have apart := (List.pairwise_cons.mp separate).1 second member
  exact decide_eq_decide.mpr (anchor_infix_iff apart)

/-- The pieces whose anchors are found in the text are put into it. -/
theorem insertFound_inserted {original : Text} {earlier : List Text}
    (separate : Separate insertions) (inserted : Text.Inserted earlier original content) :
    Text.Inserted (((foundIn content insertions).map Insertion.piece).reverse ++ earlier) original
      (insertFound insertions content) := by
  induction insertions generalizing content earlier with
  | nil => exact inserted
  | cons insertion rest ih =>
      have later : Separate rest := (List.pairwise_cons.mp separate).2
      unfold insertFound
      by_cases found : insertion.anchor <:+: content
      · have next := ih later (inserted.insertBefore found insertion.piece)
        rw [foundIn_insertBefore separate] at next
        rw [if_pos found, foundIn_cons_of_found found, List.map_cons, List.reverse_cons,
          List.append_assoc]
        exact next
      · rw [if_neg found, foundIn_cons_of_absent found]
        exact ih later inserted

/-- Where no anchor may be missing, the insertions are the same if none is. -/
theorem insertAll_eq (separate : Separate insertions) :
    insertAll insertions content =
      if ∀ insertion ∈ insertions, insertion.anchor <:+: content then
        some (insertFound insertions content)
      else none := by
  induction insertions generalizing content with
  | nil => rfl
  | cons insertion rest ih =>
      obtain ⟨apart, later⟩ := List.pairwise_cons.mp separate
      unfold insertAll insertFound
      by_cases found : insertion.anchor <:+: content
      · have same : (∀ second ∈ rest, second.anchor <:+:
            Text.insertBefore insertion.anchor insertion.piece content) ↔
              ∀ second ∈ insertion :: rest, second.anchor <:+: content := by
          rw [List.forall_mem_cons, and_iff_right found]
          exact forall₂_congr fun second member => anchor_infix_iff (apart second member)
        rw [if_pos found, if_pos found, ih later]
        exact if_congr same rfl rfl
      · rw [if_neg found, if_neg]
        exact fun all => found (all insertion List.mem_cons_self)

theorem inserted_augmented (separate : Separate insertions) (content : Text) :
    Augmented ((foundIn content insertions).map Insertion.piece) content
      (addMarker (insertFound insertions content)) := by
  have inserted := insertFound_inserted separate (Text.Inserted.none content)
  rw [List.append_nil] at inserted
  refine ⟨markerLine :: ((foundIn content insertions).map Insertion.piece).reverse,
    (List.reverse_perm _).cons markerLine, ?_⟩
  exact @Text.Inserted.insert _ content [] _ markerLine inserted

/-! ## How much is inserted -/

/-- The text grows by the marker line and the pieces. -/
theorem Augmented.length {pieces : List Text} {result : Text}
    (augmented : Augmented pieces content result) :
    result.length = content.length + markerLine.length + (pieces.map List.length).sum := by
  obtain ⟨order, perm, inserted⟩ := augmented
  rw [inserted.length, (perm.map List.length).sum_eq, List.map_cons, List.sum_cons, Nat.add_assoc]

/-- Only the whole list sums up to its sum, where nothing counts for nothing. -/
theorem forall_of_sum_filter {α : Type} {size : α → ℕ} {meets : α → Bool} {items : List α}
    (positive : ∀ item ∈ items, 0 < size item)
    (whole : ((items.filter meets).map size).sum = (items.map size).sum) :
    ∀ item ∈ items, meets item = true := by
  induction items with
  | nil => exact nofun
  | cons item rest ih =>
      obtain ⟨own, later⟩ := List.forall_mem_cons.mp positive
      have less : ((rest.filter meets).map size).sum ≤ (rest.map size).sum :=
        (List.filter_sublist.map size).sum_le_sum fun _ _ => Nat.zero_le _
      rw [List.map_cons, List.sum_cons] at whole
      rcases meet : meets item with _ | _
      · rw [List.filter_cons_of_neg (by simp [meet])] at whole
        omega
      · rw [List.filter_cons_of_pos meet, List.map_cons, List.sum_cons] at whole
        exact List.forall_mem_cons.mpr ⟨meet, ih later (Nat.add_left_cancel whole)⟩

theorem markerLine_lt_reportStartStep (status : Text) :
    markerLine.length < (reportStartStep status).length := by
  unfold reportStartStep
  rw [List.length_append, List.length_append, Nat.add_assoc]
  exact Nat.lt_add_right _ (by decide +kernel)

theorem markerLine_lt_reportEndStep (status : Text) :
    markerLine.length < (reportEndStep status).length := by
  unfold reportEndStep
  rw [List.length_append, List.length_append, Nat.add_assoc]
  exact Nat.lt_add_right _ (by decide +kernel)

theorem markerLine_lt_autonomousMode (option : Text) :
    markerLine.length < (autonomousMode option).length := by
  have line : markerLine.length < (autonomousLine option).length := by
    unfold autonomousLine
    rw [List.length_append, List.length_append, Nat.add_assoc]
    exact Nat.lt_add_right _ (by decide +kernel)
  unfold autonomousMode
  rw [List.length_append, List.length_append, Nat.add_assoc]
  exact Nat.lt_add_left _ (Nat.lt_add_right _ line)

/-- A piece is longer than the marker line. -/
theorem markerLine_shorter (file : WorkflowFile) :
    ∀ insertion ∈ file.insertions, markerLine.length < insertion.piece.length := by
  intro insertion member
  cases file with
  | discussPhase | discussPhaseAssumptions =>
      rcases List.mem_pair.mp member with rfl | rfl
      · exact markerLine_lt_reportStartStep _
      · exact markerLine_lt_reportEndStep _
  | planPhase =>
      rcases List.mem_pair.mp member with rfl | rfl
      · exact markerLine_lt_autonomousMode _
      · exact markerLine_lt_autonomousMode _
  | executePhase | executePlan =>
      obtain rfl := List.mem_singleton.mp member
      exact markerLine_lt_autonomousMode _

/-- All pieces are inserted exactly if all anchors are found. -/
theorem augmented_all_iff (file : WorkflowFile) (content : Text) :
    Augmented file.pieces content (addMarker (insertFound file.insertions content)) ↔
      ∀ insertion ∈ file.insertions, insertion.anchor <:+: content := by
  have inserted := inserted_augmented (separate_insertions file) content
  constructor
  · intro all
    have same := inserted.length.symm.trans all.length
    rw [Nat.add_left_cancel_iff] at same
    unfold WorkflowFile.pieces at same
    rw [List.map_map, List.map_map] at same
    have inhabited : ∀ insertion ∈ file.insertions, 0 < insertion.piece.length :=
      fun insertion member => Nat.zero_lt_of_lt (markerLine_shorter file insertion member)
    have found := forall_of_sum_filter inhabited same
    exact fun insertion member => of_decide_eq_true (found insertion member)
  · intro found
    have all : foundIn content file.insertions = file.insertions :=
      List.filter_eq_self.mpr fun insertion member => decide_eq_true (found insertion member)
    rw [all] at inserted
    exact inserted

/-! ## The patch of one file -/

/-- The patch succeeds on a text that has no marker. -/
def GoesThrough (file : WorkflowFile) (content : Text) : Prop :=
  file.isLenient = true ∨ ∀ insertion ∈ file.insertions, insertion.anchor <:+: content

instance (file : WorkflowFile) (content : Text) : Decidable (GoesThrough file content) :=
  inferInstanceAs (Decidable (_ ∨ _))

theorem goesThrough_iff (exacting : file.isLenient = false) :
    GoesThrough file content ↔ ∀ insertion ∈ file.insertions, insertion.anchor <:+: content := by
  unfold GoesThrough
  rw [exacting]
  exact or_iff_right Bool.false_ne_true

theorem patchReports_unmarked (separate : Separate insertions) (unmarked : ¬ IsPatched content) :
    patchReports insertions (some content) =
      if ∀ insertion ∈ insertions, insertion.anchor <:+: content then
        (some (addMarker (insertFound insertions content)), true)
      else (some content, false) := by
  unfold patchReports
  dsimp only
  rw [if_neg unmarked, insertAll_eq separate]
  by_cases found : ∀ insertion ∈ insertions, insertion.anchor <:+: content
  · rw [if_pos found, if_pos found]
  · rw [if_neg found, if_neg found]

theorem patchInstructions_unmarked (insertions : List Insertion) (unmarked : ¬ IsPatched content) :
    patchInstructions insertions (some content) =
      (some (addMarker (insertFound insertions content)), true) :=
  if_neg unmarked

/-- What a patch does to a file that has no marker. -/
theorem patch_unmarked (file : WorkflowFile) (unmarked : ¬ IsPatched content) :
    file.patch (some content) =
      if GoesThrough file content then
        (some (addMarker (insertFound file.insertions content)), true)
      else (some content, false) := by
  cases file with
  | discussPhase =>
      apply (patchReports_unmarked (separate_insertions .discussPhase) unmarked).trans
      exact if_congr (goesThrough_iff rfl).symm rfl rfl
  | discussPhaseAssumptions =>
      apply (patchReports_unmarked (separate_insertions .discussPhaseAssumptions) unmarked).trans
      exact if_congr (goesThrough_iff rfl).symm rfl rfl
  | planPhase => exact (patchInstructions_unmarked _ unmarked).trans (if_pos (.inl rfl)).symm
  | executePhase => exact (patchInstructions_unmarked _ unmarked).trans (if_pos (.inl rfl)).symm
  | executePlan => exact (patchInstructions_unmarked _ unmarked).trans (if_pos (.inl rfl)).symm

theorem patch_marked (file : WorkflowFile) (marked : IsPatched content) :
    file.patch (some content) = (some content, true) := by
  cases file <;> exact if_pos marked

theorem patch_missing (file : WorkflowFile) : file.patch none = (none, false) := by
  cases file <;> rfl

/-- The ways in which a patch ends. -/
theorem patch_cases (file : WorkflowFile) (before : Option Text) :
    ((file.patch before).1 = before ∧ ((file.patch before).2 = true →
        ∃ content, before = some content ∧ IsPatched content)) ∨
      ∃ content, before = some content ∧ ¬ IsPatched content ∧
        GoesThrough file content ∧
        file.patch before = (some (addMarker (insertFound file.insertions content)), true) := by
  rcases before with _ | content
  · rw [patch_missing]
    exact .inl ⟨rfl, nofun⟩
  · by_cases marked : IsPatched content
    · rw [patch_marked file marked]
      exact .inl ⟨rfl, fun _ => ⟨content, rfl, marked⟩⟩
    · rw [patch_unmarked file marked]
      split
      · next inserts => exact .inr ⟨content, rfl, marked, inserts, rfl⟩
      · exact .inl ⟨rfl, nofun⟩

theorem patch_idempotent (file : WorkflowFile) (before : Option Text) :
    (file.patch (file.patch before).1).1 = (file.patch before).1 := by
  rcases patch_cases file before with ⟨same, -⟩ | ⟨content, -, -, -, patched⟩
  · rw [same, same]
  · rw [patched, patch_marked file (isPatched_addMarker _)]

/-! ## What is verified -/

/-- The report of the end is found where it has been inserted. -/
theorem reportsEnd_of_infix {status : Text} (occurs : reportEndStep status <:+: content) :
    reportsEnd status content = true := by
  have inline : ∀ c ∈ " \"".toList, Pattern.isInline c = true :=
    List.all_eq_true.mp (by decide)
  have command : "vco report".toList ++ " \"".toList <:+
      ("<step name=\"vco_report_end\">\n" ++ "**MANDATORY** -- Run after context is written:\n" ++
        "```bash\n" ++ "vco report \"").toList := by
    decide +kernel
  apply Text.searchInline_of_infix inline
  apply List.IsInfix.trans _ occurs
  obtain ⟨before, whole⟩ := command
  unfold reportEndStep
  rw [← whole, ← List.append_assoc ("vco report".toList)]
  refine ⟨before, ("\" 2>/dev/null || true\n" ++ "```\n" ++ "</step>\n\n").toList, ?_⟩
  simp only [List.append_assoc]

theorem infix_addMarker {needle : Text} (occurs : needle <:+: content) :
    needle <:+: addMarker content :=
  occurs.trans (List.suffix_append _ content).isInfix

/-- An occurrence that no later anchor tears apart stays. -/
theorem infix_insertFound {needle : Text} (occurs : needle <:+: content)
    (solid : ∀ insertion ∈ insertions, Text.Solid insertion.anchor needle) :
    needle <:+: insertFound insertions content := by
  induction insertions generalizing content with
  | nil => exact occurs
  | cons insertion rest ih =>
      obtain ⟨own, later⟩ := List.forall_mem_cons.mp solid
      apply ih _ later
      split
      · exact Text.infix_insertBefore_of_solid own occurs insertion.piece
      · exact occurs

/-- A piece whose anchor is found occurs afterwards. -/
theorem piece_infix_insertFound (separate : Separate insertions) :
    ∀ insertion ∈ insertions, insertion.anchor <:+: content →
      insertion.piece <:+: insertFound insertions content := by
  induction insertions generalizing content with
  | nil => exact nofun
  | cons insertion rest ih =>
      obtain ⟨apart, separate⟩ := List.pairwise_cons.mp separate
      intro other member found
      unfold insertFound
      rcases List.mem_cons.mp member with rfl | later
      · rw [if_pos found]
        apply infix_insertFound (Text.piece_infix_insertBefore found other.piece)
        exact fun second later => (apart second later).solid
      · apply ih separate other later
        split
        · exact (anchor_infix_iff (apart other later)).mpr found
        · exact found

theorem piece_infix_patched (file : WorkflowFile) {insertion : Insertion}
    (member : insertion ∈ file.insertions) (found : insertion.anchor <:+: content) :
    insertion.piece <:+: addMarker (insertFound file.insertions content) := by
  apply infix_addMarker
  exact piece_infix_insertFound (separate_insertions file) insertion member found

/-- A patch that succeeds on a file without a marker is verified. -/
theorem verifyContent_patched (file : WorkflowFile) (inserts : GoesThrough file content) :
    verifyContent (addMarker (insertFound file.insertions content)) file = true := by
  have marked : decide (IsPatched (addMarker (insertFound file.insertions content))) = true :=
    decide_eq_true (isPatched_addMarker _)
  have occurs (exacting : file.isLenient = false) : ∀ insertion ∈ file.insertions,
      insertion.piece <:+: addMarker (insertFound file.insertions content) := by
    intro insertion member
    have found := (goesThrough_iff exacting).mp inserts
    exact piece_infix_patched file member (found insertion member)
  cases file with
  | discussPhase =>
      unfold verifyContent
      rw [marked, Bool.true_and]
      apply reportsEnd_of_infix
      exact occurs rfl ⟨autoAdvance, discussReportEnd⟩ (.tail _ (.head _))
  | discussPhaseAssumptions =>
      unfold verifyContent
      rw [marked, Bool.true_and]
      apply reportsEnd_of_infix
      exact occurs rfl ⟨autoAdvance, discussAssumptionsReportEnd⟩ (.tail _ (.head _))
  | planPhase => exact marked
  | executePhase => exact marked
  | executePlan => exact marked

/-! ## All files -/

/-- The patches, with what is known of the inserted pieces of a file. -/
theorem patches_of_chosen {chosen : WorkflowFile → List Text → Prop} (files : Workflows)
    (chooses : ∀ file content, files file = some content → ¬ IsPatched content →
      GoesThrough file content → ∃ pieces, chosen file pieces ∧
        Augmented pieces content (addMarker (insertFound file.insertions content))) :
    Patches chosen files where
  idempotent := by
    funext file
    rw [patchAll_file, patchAll_file]
    exact patch_idempotent file (files file)
  inserts file := by
    rw [patchAll_file]
    rcases patch_cases file (files file) with
      ⟨same, -⟩ | ⟨content, here, unmarked, inserts, patched⟩
    · exact .inl same
    · obtain ⟨pieces, chosen, augmented⟩ := chooses file content here unmarked inserts
      rw [patched]
      exact .inr ⟨content, _, pieces, here, rfl, chosen, augmented⟩
  failed file fails := by
    rw [patchAll_result] at fails
    rw [patchAll_file]
    rcases patch_cases file (files file) with ⟨same, -⟩ | ⟨content, -, -, -, patched⟩
    · exact same
    · rw [patched] at fails
      cases fails
  verified file content here unmarked succeeds := by
    rw [patchAll_result] at succeeds
    unfold verifyPatches
    rw [patchAll_file]
    rcases patch_cases file (files file) with ⟨-, marked⟩ | ⟨other, -, -, inserts, patched⟩
    · obtain ⟨other, same, patched⟩ := marked succeeds
      obtain rfl := Option.some.inj (here.symm.trans same)
      exact absurd patched unmarked
    · rw [patched]
      exact verifyContent_patched file inserts

theorem patchAll_onlyInserts (files : Workflows) : OnlyInserts files := by
  apply patches_of_chosen
  intro file content _ _ _
  refine ⟨(foundIn content file.insertions).map Insertion.piece, ?_, ?_⟩
  · exact List.filter_sublist.map Insertion.piece
  · exact inserted_augmented (separate_insertions file) content

theorem patchAll_insertsAll {files : Workflows} (found : AnchorsFound files) :
    InsertsAll files := by
  apply patches_of_chosen
  intro file content here unmarked inserts
  refine ⟨file.pieces, rfl, (augmented_all_iff file content).mpr ?_⟩
  rcases inserts with lenient | all
  · exact found file content here unmarked lenient
  · exact all

/-- A patch that passes over missing anchors succeeds where there is no marker. -/
theorem patchAll_lenient {files : Workflows} (here : files file = some content)
    (unmarked : ¬ IsPatched content) (lenient : file.isLenient = true) :
    (patchAll files).1 file = some (addMarker (insertFound file.insertions content)) := by
  rw [patchAll_file, here, patch_unmarked file unmarked, if_pos (.inl lenient)]

theorem anchorsFound_of_insertsAll {files : Workflows} (patches : InsertsAll files) :
    AnchorsFound files := by
  intro file content here unmarked lenient
  have after := patchAll_lenient here unmarked lenient
  apply (augmented_all_iff file content).mp
  rcases patches.inserts file with same | ⟨original, result, _, before, patched, rfl, augmented⟩
  · have whole := Option.some.inj (here.symm.trans (same.symm.trans after))
    rw [whole] at unmarked
    exact absurd (isPatched_addMarker _) unmarked
  · obtain rfl := Option.some.inj (here.symm.trans before)
    obtain rfl := Option.some.inj (after.symm.trans patched)
    exact augmented

/-- The patches only insert, and all pieces of a file are inserted exactly if no anchor is passed
over. -/
theorem patchAll_inserts_iff (files : Workflows) :
    (InsertsAll files ↔ AnchorsFound files) ∧ OnlyInserts files :=
  ⟨⟨anchorsFound_of_insertsAll, patchAll_insertsAll⟩, patchAll_onlyInserts files⟩

/-- There is a plan-phase.md, with nothing in it. -/
def emptyPlanPhase : Workflows
  | .planPhase => some []
  | _ => none

/-- The empty file is marked as patched, and no instruction is inserted. -/
theorem emptyPlanPhase_not_insertsAll : ¬ InsertsAll emptyPlanPhase := by
  intro patches
  have found := anchorsFound_of_insertsAll patches
  have all := found .planPhase [] rfl (by decide +kernel) rfl
  exact absurd all (by decide +kernel)

/-! ## Whether the instructions stand in what is verified -/

/-- All pieces of a file without a marker occur in it, once it is verified after the patches. -/
def TakesEffect (files : Workflows) : Prop :=
  ∀ file content, files file = some content → ¬ IsPatched content →
    verifyPatches (patchAll files).1 file = true →
      ∃ result, (patchAll files).1 file = some result ∧ ∀ piece ∈ file.pieces, piece <:+: result

/-- The text with a line break before each anchor that is found. -/
def broken (insertions : List Insertion) (content : Text) : Text :=
  insertFound (insertions.map fun insertion => ⟨insertion.anchor, "\n".toList⟩) content

/-- The condition on the files: each anchor is found in a file whose patch would pass over it, or
the instruction is there already, from one line break to another. The beginning of the text and the
places before the anchors count as line breaks. -/
def InstructionsFound (files : Workflows) : Prop :=
  ∀ file content, files file = some content → ¬ IsPatched content → file.isLenient = true →
    ∀ insertion ∈ file.insertions,
      insertion.anchor <:+: content ∨ insertion.piece <:+: '\n' :: broken file.insertions content

theorem insertFound_of_none (absent : foundIn content insertions = []) :
    insertFound insertions content = content := by
  have outside := List.filter_eq_nil_iff.mp absent
  induction insertions with
  | nil => rfl
  | cons insertion rest ih =>
      obtain ⟨own, later⟩ := List.forall_mem_cons.mp outside
      unfold insertFound
      rw [if_neg (by simpa using own)]
      exact ih (List.filter_eq_nil_iff.mpr later) later

theorem insertFound_of_one {only : Insertion} (separate : Separate insertions)
    (one : foundIn content insertions = [only]) :
    insertFound insertions content = Text.insertBefore only.anchor only.piece content := by
  induction insertions with
  | nil => cases one
  | cons insertion rest ih =>
      unfold insertFound
      by_cases found : insertion.anchor <:+: content
      · rw [foundIn_cons_of_found found] at one
        obtain ⟨rfl, others⟩ := List.cons.inj one
        rw [if_pos found]
        exact insertFound_of_none ((foundIn_insertBefore separate).trans others)
      · rw [foundIn_cons_of_absent found] at one
        rw [if_neg found]
        exact ih (List.pairwise_cons.mp separate).2 one

theorem separate_breaks (file : WorkflowFile) :
    Separate (file.insertions.map fun insertion => ⟨insertion.anchor, "\n".toList⟩) := by
  cases file <;> decide +kernel

theorem foundIn_breaks (insertions : List Insertion) (content : Text) :
    foundIn content (insertions.map fun insertion => ⟨insertion.anchor, "\n".toList⟩) =
      (foundIn content insertions).map fun insertion => ⟨insertion.anchor, "\n".toList⟩ :=
  List.filter_map

/-- An instruction is a line of its own. -/
theorem line_of_autonomousMode {option : Text} (plain : '\n' ∉ option) :
    ∃ line, '\n' ∉ line ∧ autonomousMode option = Text.bracketed '\n' line := by
  refine ⟨autonomousLine option, ?_, rfl⟩
  unfold autonomousLine
  rw [List.mem_append, List.mem_append, not_or, not_or]
  exact ⟨⟨by decide +kernel, plain⟩, by decide +kernel⟩

theorem line_of_lenient (lenient : file.isLenient = true) : ∀ insertion ∈ file.insertions,
    ∃ line, '\n' ∉ line ∧ insertion.piece = Text.bracketed '\n' line := by
  intro insertion member
  cases file with
  | discussPhase | discussPhaseAssumptions => cases lenient
  | planPhase =>
      rcases List.mem_pair.mp member with rfl | rfl
      · exact line_of_autonomousMode (by decide +kernel)
      · exact line_of_autonomousMode (by decide +kernel)
  | executePhase =>
      obtain rfl := List.mem_singleton.mp member
      exact line_of_autonomousMode (by decide +kernel)
  | executePlan =>
      obtain rfl := List.mem_singleton.mp member
      exact line_of_autonomousMode (by decide +kernel)

theorem anchor_of_infix (lenient : file.isLenient = true) : ∀ first ∈ file.insertions,
    ∀ second ∈ file.insertions, first.piece <:+: second.piece → first.anchor = second.anchor := by
  cases file with
  | discussPhase | discussPhaseAssumptions => cases lenient
  | planPhase => decide +kernel
  | executePhase | executePlan =>
      intro first member second other _
      rw [List.mem_singleton.mp member, List.mem_singleton.mp other]

/-- There are two insertions at most. -/
theorem foundIn_cases {insertion : Insertion} (member : insertion ∈ file.insertions)
    (absent : ¬ insertion.anchor <:+: content) :
    foundIn content file.insertions = [] ∨ ∃ only, foundIn content file.insertions = [only] := by
  have two : file.insertions.length ≤ 2 := by cases file <;> decide
  have fewer : (foundIn content file.insertions).length < file.insertions.length := by
    apply List.length_filter_lt_length_iff_exists.mpr
    exact ⟨insertion, member, by simpa using absent⟩
  have one := Nat.lt_of_lt_of_le fewer two
  rcases found : foundIn content file.insertions with _ | ⟨only, _ | ⟨next, rest⟩⟩
  · exact .inl rfl
  · exact .inr ⟨only, rfl⟩
  · rw [found, List.length_cons, List.length_cons] at one
    omega

/-- For an instruction, another one that is inserted is a line break. -/
theorem line_infix_insertFound_iff {insertion : Insertion} (lenient : file.isLenient = true)
    (member : insertion ∈ file.insertions) (absent : ¬ insertion.anchor <:+: content) :
    insertion.piece <:+: '\n' :: insertFound file.insertions content ↔
      insertion.piece <:+: '\n' :: broken file.insertions content := by
  have breaks := foundIn_breaks file.insertions content
  unfold broken
  rcases foundIn_cases member absent with none | ⟨only, one⟩
  · rw [none] at breaks
    rw [insertFound_of_none none, insertFound_of_none breaks]
  · rw [one] at breaks
    rw [insertFound_of_one (separate_insertions file) one,
      insertFound_of_one (separate_breaks file) breaks]
    have inside : only ∈ foundIn content file.insertions := one ▸ List.mem_singleton_self only
    obtain ⟨other, present⟩ := List.mem_filter.mp inside
    have found : only.anchor <:+: content := of_decide_eq_true present
    have apart : ¬ insertion.piece <:+: only.piece := by
      intro within
      have same := anchor_of_infix lenient insertion member only other within
      exact absent (same ▸ found)
    obtain ⟨line, plain, whole⟩ := line_of_lenient lenient insertion member
    obtain ⟨between, -, bracketed⟩ := line_of_lenient lenient only other
    rw [whole, bracketed] at apart
    unfold Text.insertBefore
    rw [whole, bracketed]
    rcases Text.cut only.anchor content with _ | ⟨before, after⟩
    · exact Iff.rfl
    · exact @Text.bracketed_infix_between_iff line ('\n' :: before) _ '\n' between plain apart

/-- When an instruction is found in a file whose patch passes over missing anchors. -/
theorem piece_infix_patched_iff {insertion : Insertion} (lenient : file.isLenient = true)
    (member : insertion ∈ file.insertions) :
    insertion.piece <:+: addMarker (insertFound file.insertions content) ↔
      insertion.anchor <:+: content ∨
        insertion.piece <:+: '\n' :: broken file.insertions content := by
  by_cases found : insertion.anchor <:+: content
  · exact iff_of_true (piece_infix_patched file member found) (.inl found)
  · rw [or_iff_right found, ← line_infix_insertFound_iff lenient member found]
    have outside : ¬ insertion.piece <:+: markerLine := fun inside =>
      Nat.not_le_of_lt (markerLine_shorter file insertion member) inside.length_le
    obtain ⟨line, plain, whole⟩ := line_of_lenient lenient insertion member
    rw [whole] at outside ⊢
    unfold addMarker
    rw [List.append_assoc]
    exact (Text.bracketed_infix_iff plain).trans (or_iff_right outside)

theorem isPatched_of_verifyContent (verified : verifyContent content file = true) :
    IsPatched content := by
  cases file with
  | discussPhase | discussPhaseAssumptions =>
      exact of_decide_eq_true (Bool.and_eq_true_iff.mp verified).1
  | planPhase | executePhase | executePlan => exact of_decide_eq_true verified

theorem instructionsFound_of_takesEffect {files : Workflows} (effect : TakesEffect files) :
    InstructionsFound files := by
  intro file content here unmarked lenient insertion member
  have after := patchAll_lenient here unmarked lenient
  have verified : verifyPatches (patchAll files).1 file = true := by
    unfold verifyPatches
    rw [after]
    exact verifyContent_patched file (.inl lenient)
  obtain ⟨result, patched, occurs⟩ := effect file content here unmarked verified
  obtain rfl := Option.some.inj (after.symm.trans patched)
  apply (piece_infix_patched_iff lenient member).mp
  exact occurs insertion.piece (List.mem_map_of_mem member)

theorem takesEffect_of_instructionsFound {files : Workflows}
    (instructed : InstructionsFound files) : TakesEffect files := by
  intro file content here unmarked verified
  unfold verifyPatches at verified
  rw [patchAll_file, here] at verified ⊢
  rcases patch_cases file (some content) with ⟨same, -⟩ | ⟨other, whole, -, inserts, patched⟩
  · rw [same] at verified
    exact absurd (isPatched_of_verifyContent verified) unmarked
  · obtain rfl := Option.some.inj whole
    rw [patched]
    refine ⟨_, rfl, List.forall_mem_map.mpr fun insertion member => ?_⟩
    rcases inserts with lenient | found
    · apply (piece_infix_patched_iff lenient member).mpr
      exact instructed file content here unmarked lenient insertion member
    · exact piece_infix_patched file member (found insertion member)

/-- What is verified has taken effect exactly if no instruction is passed over that is not there
already. -/
theorem verified_takesEffect_iff (files : Workflows) :
    TakesEffect files ↔ InstructionsFound files :=
  ⟨instructionsFound_of_takesEffect, takesEffect_of_instructionsFound⟩

/-- The empty file is verified, and it does not hold the instructions. -/
theorem emptyPlanPhase_not_takesEffect : ¬ TakesEffect emptyPlanPhase := by
  intro effect
  have instructed := instructionsFound_of_takesEffect effect
  have either := instructed .planPhase [] rfl (by decide +kernel) rfl
  exact absurd either (by decide +kernel)

end Vcompany.Tools
