import Vcompany.Foundation.Search
import Vcompany.Integration.AttributionReport

/-! # Attribution and the verdicts of the tests

What becomes of each test on main with one agent's branch reaches the report through the lines
that pytest prints. `attribution_meets_algorithm_iff` tells when the report says what the
algorithm in the head of the module asks for.
-/

namespace Vcompany.Integration

open Foundation Git

inductive Verdict where
  | passed
  | failed
  | errored
  deriving DecidableEq, Repr

/-- The lines of a run's output that start with a word, trimmed. -/
def linesWith (word output : Text) : List Text :=
  ((Text.splitlines output).map Text.strip).filter fun line => word <+: line

/-- The line that is printed for a bad test. -/
def badLine (word test reason : Text) : Text :=
  Text.strip (word ++ test ++ " - ".toList ++ reason)

/-- The run reports the verdicts: it exits with 0 exactly if all tests passed, and prints one
line for each test that failed and one for each that erred. -/
structure Reports (failedTests : List Text) (verdict : Text → Verdict) (testRun : TestRun) :
    Prop where
  returncode : testRun.returncode = 0 ↔ ∀ test ∈ failedTests, verdict test = .passed
  failed : ∃ reason : Text → Text, (linesWith "FAILED ".toList testRun.stdout).Perm
    ((failedTests.filter fun test => verdict test = .failed).map fun test =>
      badLine "FAILED ".toList test (reason test))
  errored : ∃ reason : Text → Text, (linesWith "ERROR ".toList testRun.stdout).Perm
    ((failedTests.filter fun test => verdict test = .errored).map fun test =>
      badLine "ERROR ".toList test (reason test))

/-- The test is the part before the first space of one that failed. -/
def Named (failedTests : List Text) (verdict : Text → Verdict) (test : Text) : Prop :=
  ∃ other ∈ failedTests, verdict other = .failed ∧ other.takeWhile (· ≠ ' ') = test

theorem testName_badLine (test reason : Text) :
    testName (badLine "FAILED ".toList test reason) = test.takeWhile (· ≠ ' ') := by
  obtain ⟨rest, line⟩ : ∃ rest, badLine "FAILED ".toList test reason =
      "FAILED".toList ++ ' ' :: (test ++ ' ' :: rest) := by
    obtain ⟨rest, trimmed⟩ := @Text.strip_append_of_solid 'F' '-' (by decide) (by decide)
      ("AILED ".toList ++ test ++ [' ']) (' ' :: reason)
    refine ⟨'-' :: rest, ?_⟩
    unfold badLine
    calc Text.strip ("FAILED ".toList ++ test ++ " - ".toList ++ reason)
        = Text.strip ('F' :: ("AILED ".toList ++ test ++ [' ']) ++ ['-'] ++ ' ' :: reason) := by
          simp
      _ = 'F' :: ("AILED ".toList ++ test ++ [' ']) ++ ['-'] ++ rest := trimmed
      _ = "FAILED".toList ++ ' ' :: (test ++ ' ' :: '-' :: rest) := by simp
  obtain ⟨after, word⟩ := Text.exists_takeWhile_append test rest
  have solid : ∀ c ∈ test.takeWhile (· ≠ ' '), (c == ' ') = false := fun c member => by
    simpa using List.mem_takeWhile_imp member
  have label : ∀ c ∈ "FAILED".toList, (c == ' ') = false := by simp
  have second : ((badLine "FAILED ".toList test reason).splitOn ' ')[1]? =
      some (test.takeWhile (· ≠ ' ')) := by
    rw [line, word, List.splitOn_eq_splitOnP,
      List.splitOnP_append_cons_of_forall_mem label ' ' rfl,
      List.splitOnP_append_cons_of_forall_mem solid ' ' rfl]
    rfl
  have lacks : ' ' ∉ test.takeWhile (· ≠ ' ') := fun member => by
    simpa using solid _ member
  have spaced : ' ' ∈ badLine "FAILED ".toList test reason := by
    rw [line]
    exact List.mem_append_right _ List.mem_cons_self
  unfold testName
  rw [if_pos spaced, second]
  dsimp only [Option.getD_some]
  rw [Text.cut_of_lacks (c := ' ') (by decide) lacks]
  rfl

theorem mem_failedLines_iff {failedTests : List Text} {verdict : Text → Verdict}
    {testRun : TestRun} (reports : Reports failedTests verdict testRun) {test : Text} :
    test ∈ failedLines testRun.stdout ↔ Named failedTests verdict test := by
  obtain ⟨reason, printed⟩ := reports.failed
  have lines : failedLines testRun.stdout =
      (linesWith "FAILED ".toList testRun.stdout).map testName := by
    unfold failedLines linesWith
    rw [← @List.filterMap_eq_map _ _ testName, List.filterMap_filter]
    refine List.filterMap_congr fun line _ => ?_
    simp only [decide_eq_true_eq, Function.comp_apply]
  rw [lines, (printed.map testName).mem_iff, List.map_map, List.mem_map]
  unfold Named
  simp only [List.mem_filter, decide_eq_true_eq, Function.comp_apply, testName_badLine, and_assoc]

/-! ## What a turn is blamed for -/

/-- The test did not pass on main with the agent's branch, if that merges at all. -/
def Turn.Bad (verdict : Text → Text → Verdict) (turn : Turn) (test : Text) : Prop :=
  turn.merged = false ∨ verdict turn.agentId test ≠ .passed

/-- The run of the tests, if there was one, reports the verdicts. -/
def Turn.Ran (failedTests : List Text) (verdict : Text → Text → Verdict) (turn : Turn) : Prop :=
  turn.merged = true →
    ∃ testRun, turn.tests = .ok testRun ∧ Reports failedTests (verdict turn.agentId) testRun

/-- Some test failed, and the lines name no failing test. -/
def AllBlamed (failedTests : List Text) (verdict : Text → Verdict) : Prop :=
  (∃ test ∈ failedTests, verdict test = .failed) ∧
    ∀ test ∈ failedTests, ¬ Named failedTests verdict test

section

variable {failedTests : List Text} {verdict : Text → Text → Verdict} {turn : Turn}

theorem Turn.Ran.blames_iff (ran : turn.Ran failedTests verdict) {test : Text} :
    turn.Blames failedTests test ↔ turn.merged = false ∨
      Named failedTests (verdict turn.agentId) test ∨
      AllBlamed failedTests (verdict turn.agentId) := by
  unfold Turn.Blames
  rcases merged : turn.merged with _ | _
  · exact iff_of_true (.inl rfl) (.inl rfl)
  · obtain ⟨testRun, tests, reports⟩ := ran merged
    have some_failed : failedLines testRun.stdout ≠ [] ↔
        ∃ test ∈ failedTests, verdict turn.agentId test = .failed := by
      constructor
      · intro some
        obtain ⟨_, line⟩ := List.exists_mem_of_ne_nil _ some
        obtain ⟨other, failing, failed, -⟩ := (mem_failedLines_iff reports).mp line
        exact ⟨other, failing, failed⟩
      · rintro ⟨other, failing, failed⟩
        exact List.ne_nil_of_mem ((mem_failedLines_iff reports).mpr ⟨other, failing, failed, rfl⟩)
    have fails (failed : ∃ test ∈ failedTests, verdict turn.agentId test = .failed) :
        testRun.returncode ≠ 0 := by
      obtain ⟨test, failing, failed⟩ := failed
      intro zero
      rw [reports.returncode.mp zero test failing] at failed
      cases failed
    refine or_congr_right ?_
    constructor
    · rintro ⟨_, same, -, blamed⟩
      rw [tests] at same
      cases same
      rw [some_failed] at blamed
      simp only [mem_failedLines_iff reports] at blamed
      exact blamed
    · rintro (named | all)
      · obtain ⟨other, failing, failed, same⟩ := id named
        exact ⟨testRun, tests, fails ⟨other, failing, failed⟩,
          .inl ((mem_failedLines_iff reports).mpr named)⟩
      · refine ⟨testRun, tests, fails all.1, .inr ⟨some_failed.mpr all.1, ?_⟩⟩
        simp only [mem_failedLines_iff reports]
        exact all.2

/-- The report of the turn is not misread: its branch does not merge; or no test erred, and no
id of a test that failed has a space; or all tests are bad, and are blamed together. -/
def Turn.Legible (failedTests : List Text) (verdict : Text → Text → Verdict) (turn : Turn) :
    Prop :=
  turn.merged = false ∨
    (∀ test ∈ failedTests, verdict turn.agentId test ≠ .errored ∧
      (verdict turn.agentId test = .failed → ' ' ∉ test)) ∨
    ((∀ test ∈ failedTests, verdict turn.agentId test ≠ .passed) ∧
      AllBlamed failedTests (verdict turn.agentId))

theorem space_notMem_takeWhile (test : Text) : ' ' ∉ test.takeWhile (· ≠ ' ') := fun member => by
  simpa using List.mem_takeWhile_imp member

theorem takeWhile_of_no_space {test : Text} (solid : ' ' ∉ test) :
    test.takeWhile (· ≠ ' ') = test := by
  rw [List.takeWhile_eq_self_iff]
  intro c member
  have apart : c ≠ ' ' := fun same => solid (same ▸ member)
  simpa using apart

theorem Turn.Ran.legible_iff (ran : turn.Ran failedTests verdict) :
    (∀ test ∈ failedTests, turn.Blames failedTests test ↔ turn.Bad verdict test) ↔
      turn.Legible failedTests verdict := by
  simp only [ran.blames_iff]
  unfold Turn.Bad Turn.Legible
  rcases turn.merged with _ | _
  · exact iff_of_true (fun _ _ => iff_of_true (.inl rfl) (.inl rfl)) (.inl rfl)
  simp only [Bool.true_eq_false, false_or]
  generalize verdict turn.agentId = verdict
  by_cases all : AllBlamed failedTests verdict
  · simp only [all, or_true, true_iff, and_true]
    refine ⟨.inr, ?_⟩
    rintro (clean | bad)
    · obtain ⟨⟨test, failing, failed⟩, none⟩ := all
      exact absurd ⟨test, failing, failed, takeWhile_of_no_space ((clean test failing).2 failed)⟩
        (none test failing)
    · exact bad
  · simp only [all, or_false, and_false]
    constructor
    · intro exact test failing
      have solid (other : Text) (present : other ∈ failedTests) (bad : verdict other ≠ .passed) :
          ' ' ∉ other := by
        obtain ⟨_, -, -, rfl⟩ := (exact other present).mpr bad
        exact space_notMem_takeWhile _
      refine ⟨fun errored => ?_, fun failed => solid test failing (failed ▸ nofun)⟩
      obtain ⟨other, present, failed, same⟩ := (exact test failing).mpr (errored ▸ nofun)
      rw [takeWhile_of_no_space (solid other present (failed ▸ nofun))] at same
      rw [← same, failed] at errored
      cases errored
    · intro clean test failing
      constructor
      · rintro ⟨other, present, failed, same⟩
        rw [takeWhile_of_no_space ((clean other present).2 failed)] at same
        rw [← same, failed]
        exact nofun
      · intro bad
        have failed : verdict test = .failed := by
          rcases is : verdict test with _ | _ | _
          · exact absurd is bad
          · rfl
          · exact absurd is (clean test failing).1
        exact ⟨test, failing, failed, takeWhile_of_no_space ((clean test failing).2 failed)⟩

end

/-! ## The algorithm -/

/-- What the algorithm asks for: a test is attributed to an agent exactly if it is bad for it,
and one that is attributed to none is an interaction exactly if it does not pass on the full
merge, and flaky exactly if it does. -/
structure MeetsAlgorithm (failedTests : List Text) (turns : List Turn)
    (verdict : Text → Text → Verdict) (fullMerge : Text → Verdict)
    (report : Dict Text (List Text)) : Prop where
  agents : ∀ turn ∈ turns, ∀ test ∈ failedTests,
    test ∈ listed report turn.agentId ↔ turn.Bad verdict test
  others : ∀ test ∈ failedTests, (∀ turn ∈ turns, test ∉ listed report turn.agentId) →
    (test ∈ listed report "_interaction".toList ↔ fullMerge test ≠ .passed) ∧
      (test ∈ listed report "_flaky".toList ↔ fullMerge test = .passed)

/-- No report is misread, the tests that are bad for no agent have the verdict on the full merge
that their key stands for, and there are none if an agent bears that key. -/
structure Plain (failedTests : List Text) (turns : List Turn) (verdict : Text → Text → Verdict)
    (fullMerge : Text → Verdict) : Prop where
  legible : ∀ turn ∈ turns, turn.Legible failedTests verdict
  fullMerge : ∀ test ∈ failedTests, (∀ turn ∈ turns, ¬ turn.Bad verdict test) →
    (fullMerge test = .passed ↔ remainderKey turns = "_flaky".toList)
  borne : remainderKey turns ∈ turns.map Turn.agentId →
    ∀ test ∈ failedTests, ∃ turn ∈ turns, turn.Bad verdict test

/-- An agent bears the key of the tests that are in no share, and these, which overwrite its
share, are the tests that are bad for it: none of them is bad for another agent or named by its
run, and no other report is misread. -/
structure Overwritten (failedTests : List Text) (turns : List Turn)
    (verdict : Text → Text → Verdict) (own : Turn) : Prop where
  key : own.agentId = remainderKey turns
  merged : own.merged = true
  bad : ∃ test ∈ failedTests, own.Bad verdict test
  unnamed : ∀ test ∈ failedTests, own.Bad verdict test →
    ¬ Named failedTests (verdict own.agentId) test
  notAll : ¬ AllBlamed failedTests (verdict own.agentId)
  only : ∀ test ∈ failedTests, own.Bad verdict test ↔
    ∀ turn ∈ turns, turn.agentId ≠ own.agentId → ¬ turn.Bad verdict test
  legible : ∀ turn ∈ turns, turn.agentId ≠ own.agentId → turn.Legible failedTests verdict

section

variable {failedTests : List Text} {turns : List Turn} {verdict : Text → Text → Verdict}
  {fullMerge : Text → Verdict}

/-- A test that no agent is listed with is under the key of the rest alone. -/
theorem mem_listed_iff_of_unlisted (distinct : (turns.map Turn.agentId).Nodup) {test : Text}
    (rest : test ∈ remainder failedTests turns)
    (unlisted : ∀ turn ∈ turns, test ∉ listed (reportOf failedTests turns) turn.agentId)
    (key : Text) : test ∈ listed (reportOf failedTests turns) key ↔ key = remainderKey turns := by
  have free : remainderKey turns ∉ turns.map Turn.agentId := by
    intro borne
    obtain ⟨turn, member, same⟩ := List.mem_map.mp borne
    refine unlisted turn member ?_
    rw [(listed_reportOf distinct).1 turn member, if_pos ⟨List.ne_nil_of_mem rest, same⟩]
    exact rest
  by_cases agent : key ∈ turns.map Turn.agentId
  · obtain ⟨turn, member, rfl⟩ := List.mem_map.mp agent
    exact iff_of_false (unlisted turn member) fun same => free (same ▸ agent)
  · rw [(listed_reportOf distinct).2 key agent]
    split
    · next same => exact iff_of_true rest same
    · next other => exact iff_of_false (List.not_mem_nil) other

theorem meets_iff_of_unshared (distinct : (turns.map Turn.agentId).Nodup)
    (ran : ∀ turn ∈ turns, turn.Ran failedTests verdict)
    (unshared : Unshared failedTests turns) :
    MeetsAlgorithm failedTests turns verdict fullMerge (reportOf failedTests turns) ↔
      Plain failedTests turns verdict fullMerge := by
  have agents_iff : (∀ turn ∈ turns, ∀ test ∈ failedTests,
      test ∈ listed (reportOf failedTests turns) turn.agentId ↔ turn.Bad verdict test) ↔
        ∀ turn ∈ turns, turn.Legible failedTests verdict := by
    refine forall_congr' fun turn => forall_congr' fun member => ?_
    rw [← (ran turn member).legible_iff]
    refine forall_congr' fun test => forall_congr' fun failing => ?_
    rw [listed_of_unshared distinct unshared member, Turn.mem_share_iff, and_iff_right failing]
  have rest_iff (legible : ∀ turn ∈ turns, turn.Legible failedTests verdict) {test : Text}
      (failing : test ∈ failedTests) :
      test ∈ remainder failedTests turns ↔ ∀ turn ∈ turns, ¬ turn.Bad verdict test := by
    rw [mem_remainder_iff, and_iff_right failing]
    refine forall_congr' fun turn => forall_congr' fun member => not_congr ?_
    exact (ran turn member).legible_iff.mpr (legible turn member) test failing
  constructor
  · rintro ⟨agents, others⟩
    have legible := agents_iff.mp agents
    refine ⟨legible, fun test failing good => ?_, fun borne test failing => ?_⟩
    · have rest := (rest_iff legible failing).mpr good
      have unlisted : ∀ turn ∈ turns,
          test ∉ listed (reportOf failedTests turns) turn.agentId := fun turn member own =>
        good turn member ((agents turn member test failing).mp own)
      rw [← (others test failing unlisted).2, mem_listed_iff_of_unlisted distinct rest unlisted]
      exact eq_comm
    · by_contra none
      push Not at none
      exact List.ne_nil_of_mem ((rest_iff legible failing).mpr none) (unshared borne)
  · rintro ⟨legible, passes, -⟩
    have agents := agents_iff.mpr legible
    refine ⟨agents, fun test failing unlisted => ?_⟩
    have good : ∀ turn ∈ turns, ¬ turn.Bad verdict test := fun turn member bad =>
      unlisted turn member ((agents turn member test failing).mpr bad)
    have under := mem_listed_iff_of_unlisted distinct ((rest_iff legible failing).mpr good) unlisted
    have key := passes test failing good
    rw [under, under, key, ne_eq, key]
    refine ⟨?_, eq_comm⟩
    unfold remainderKey
    split <;> decide

/-- A test that is neither left over nor listed with an agent is under no key. -/
theorem not_mem_listed (distinct : (turns.map Turn.agentId).Nodup) {test : Text}
    (rest : test ∉ remainder failedTests turns)
    (unlisted : ∀ turn ∈ turns, test ∉ listed (reportOf failedTests turns) turn.agentId)
    (key : Text) : test ∉ listed (reportOf failedTests turns) key := by
  by_cases agent : key ∈ turns.map Turn.agentId
  · obtain ⟨turn, member, rfl⟩ := List.mem_map.mp agent
    exact unlisted turn member
  · rw [(listed_reportOf distinct).2 key agent]
    split
    · exact rest
    · exact List.not_mem_nil

/-- The other agents are listed with what is bad for them exactly if their runs are legible. -/
theorem others_listed_iff {own : Turn} (distinct : (turns.map Turn.agentId).Nodup)
    (ran : ∀ turn ∈ turns, turn.Ran failedTests verdict) (key : own.agentId = remainderKey turns) :
    (∀ turn ∈ turns, turn.agentId ≠ own.agentId → ∀ test ∈ failedTests,
        test ∈ listed (reportOf failedTests turns) turn.agentId ↔ turn.Bad verdict test) ↔
      ∀ turn ∈ turns, turn.agentId ≠ own.agentId → turn.Legible failedTests verdict := by
  refine forall_congr' fun turn => forall_congr' fun member => forall_congr' fun other => ?_
  have share : listed (reportOf failedTests turns) turn.agentId = turn.share failedTests := by
    rw [(listed_reportOf distinct).1 turn member]
    exact if_neg fun both => other (both.2.trans key.symm)
  rw [← (ran turn member).legible_iff]
  refine forall_congr' fun test => forall_congr' fun failing => ?_
  rw [share, Turn.mem_share_iff, and_iff_right failing]

section

variable {own : Turn} (present : own ∈ turns)
include present

/-- What is left over is neither blamed on the agent nor bad for another. -/
theorem mem_remainder_iff_of_legible (distinct : (turns.map Turn.agentId).Nodup)
    (ran : ∀ turn ∈ turns, turn.Ran failedTests verdict)
    (legible : ∀ turn ∈ turns, turn.agentId ≠ own.agentId → turn.Legible failedTests verdict)
    {test : Text} (failing : test ∈ failedTests) :
    test ∈ remainder failedTests turns ↔ ¬ own.Blames failedTests test ∧
      ∀ turn ∈ turns, turn.agentId ≠ own.agentId → ¬ turn.Bad verdict test := by
  rw [mem_remainder_iff, and_iff_right failing]
  constructor
  · intro none
    refine ⟨none own present, fun turn member other bad => none turn member ?_⟩
    exact ((ran turn member).legible_iff.mpr (legible turn member other) test failing).mpr bad
  · rintro ⟨unblamed, good⟩ turn member
    by_cases same : turn.agentId = own.agentId
    · rw [List.inj_on_of_nodup_map distinct member present same]
      exact unblamed
    · rw [(ran turn member).legible_iff.mpr (legible turn member same) test failing]
      exact good turn member same

theorem Overwritten.not_blames (ran : ∀ turn ∈ turns, turn.Ran failedTests verdict)
    (overwritten : Overwritten failedTests turns verdict own) {test : Text}
    (failing : test ∈ failedTests) (bad : own.Bad verdict test) :
    ¬ own.Blames failedTests test := by
  rw [(ran own present).blames_iff, not_or, not_or, Bool.not_eq_false]
  exact ⟨overwritten.merged, overwritten.unnamed test failing bad, overwritten.notAll⟩

/-- What is left over is bad for the agent. -/
theorem Overwritten.mem_remainder_iff (distinct : (turns.map Turn.agentId).Nodup)
    (ran : ∀ turn ∈ turns, turn.Ran failedTests verdict)
    (overwritten : Overwritten failedTests turns verdict own) {test : Text}
    (failing : test ∈ failedTests) :
    test ∈ remainder failedTests turns ↔ own.Bad verdict test := by
  rw [mem_remainder_iff_of_legible present distinct ran overwritten.legible failing,
    ← overwritten.only test failing, and_iff_right_iff_imp]
  exact overwritten.not_blames present ran failing

theorem meets_iff_of_shared (distinct : (turns.map Turn.agentId).Nodup)
    (ran : ∀ turn ∈ turns, turn.Ran failedTests verdict)
    (key : own.agentId = remainderKey turns) (some : remainder failedTests turns ≠ []) :
    MeetsAlgorithm failedTests turns verdict fullMerge (reportOf failedTests turns) ↔
      Overwritten failedTests turns verdict own := by
  have own_listed : listed (reportOf failedTests turns) own.agentId =
      remainder failedTests turns := by
    rw [(listed_reportOf distinct).1 own present, if_pos ⟨some, key⟩]
  have others_iff := others_listed_iff distinct ran key
  constructor
  · rintro ⟨agents, others⟩
    have legible := others_iff.mp fun turn member _ => agents turn member
    have own_bad {test : Text} (failing : test ∈ failedTests) :
        test ∈ remainder failedTests turns ↔ own.Bad verdict test := by
      rw [← own_listed]
      exact agents own present test failing
    have rest_of_bad {test : Text} (failing : test ∈ failedTests) (bad : own.Bad verdict test) :=
      (mem_remainder_iff_of_legible present distinct ran legible failing).mp
        ((own_bad failing).mpr bad)
    obtain ⟨first, left⟩ := List.exists_mem_of_ne_nil _ some
    have firstFails := (mem_remainder_iff.mp left).1
    have firstUnblamed := (rest_of_bad firstFails ((own_bad firstFails).mp left)).1
    rw [(ran own present).blames_iff, not_or, not_or, Bool.not_eq_false] at firstUnblamed
    refine ⟨key, firstUnblamed.1, ⟨first, firstFails, (own_bad firstFails).mp left⟩, ?_,
      firstUnblamed.2.2, fun test failing => ⟨fun bad => (rest_of_bad failing bad).2, ?_⟩, legible⟩
    · intro test failing bad named
      exact (rest_of_bad failing bad).1 ((ran own present).blames_iff.mpr (.inr (.inl named)))
    · intro good
      -- otherwise nobody is listed with the test, and it is under neither key
      by_contra fine
      have rest : test ∉ remainder failedTests turns := fun rest => fine ((own_bad failing).mp rest)
      have unlisted : ∀ turn ∈ turns,
          test ∉ listed (reportOf failedTests turns) turn.agentId := by
        intro turn member
        by_cases same : turn.agentId = own.agentId
        · rw [same, own_listed]
          exact rest
        · rw [agents turn member test failing]
          exact good turn member same
      have nowhere := not_mem_listed distinct rest unlisted
      obtain ⟨interaction, flaky⟩ := others test failing unlisted
      exact nowhere _ (interaction.mpr fun passes => nowhere _ (flaky.mpr passes))
  · intro overwritten
    have others := others_iff.mpr overwritten.legible
    refine ⟨fun turn member test failing => ?_, fun test failing unlisted => ?_⟩
    · by_cases same : turn.agentId = own.agentId
      · rw [List.inj_on_of_nodup_map distinct member present same, own_listed]
        exact overwritten.mem_remainder_iff present distinct ran failing
      · exact others turn member same test failing
    · have bad : own.Bad verdict test := by
        refine (overwritten.only test failing).mpr fun turn member other bad => ?_
        exact unlisted turn member ((others turn member other test failing).mpr bad)
      have rest := (overwritten.mem_remainder_iff present distinct ran failing).mpr bad
      exact absurd (own_listed ▸ rest) (unlisted own present)

end

/-- **When attribution meets its algorithm.** -/
theorem meets_reportOf_iff (distinct : (turns.map Turn.agentId).Nodup)
    (ran : ∀ turn ∈ turns, turn.Ran failedTests verdict) :
    MeetsAlgorithm failedTests turns verdict fullMerge (reportOf failedTests turns) ↔
      Plain failedTests turns verdict fullMerge ∨
        ∃ own ∈ turns, Overwritten failedTests turns verdict own := by
  by_cases unshared : Unshared failedTests turns
  · rw [meets_iff_of_unshared distinct ran unshared, iff_self_or]
    rintro ⟨own, present, overwritten⟩
    -- the test that is bad for the agent is left over
    obtain ⟨test, failing, bad⟩ := overwritten.bad
    have rest := (overwritten.mem_remainder_iff present distinct ran failing).mpr bad
    exact absurd (unshared (overwritten.key ▸ List.mem_map_of_mem present))
      (List.ne_nil_of_mem rest)
  · unfold Unshared at unshared
    rw [Classical.not_imp] at unshared
    obtain ⟨borne, some⟩ := unshared
    obtain ⟨own, present, key⟩ := List.mem_map.mp borne
    rw [meets_iff_of_shared present distinct ran key some]
    constructor
    · exact fun overwritten => .inr ⟨own, present, overwritten⟩
    · rintro (plain | ⟨other, member, overwritten⟩)
      · obtain ⟨test, rest⟩ := List.exists_mem_of_ne_nil _ some
        rw [mem_remainder_iff] at rest
        obtain ⟨turn, member, bad⟩ := plain.borne borne test rest.1
        exact absurd (((ran turn member).legible_iff.mpr (plain.legible turn member) test
          rest.1).mpr bad) (rest.2 turn member)
      · have same := List.inj_on_of_nodup_map distinct member present
          (overwritten.key.trans key.symm)
        exact same ▸ overwritten

end

/-- **When attribution meets its algorithm.** Where the runs report the verdicts, the report says
what the algorithm asks for exactly when no run is misread and the tests that are bad for no
agent have the verdict on the full merge that their key stands for, with none of them if an agent
bears that key; or when an agent that bears the key is bad for just these tests. -/
theorem attribution_meets_algorithm_iff {Commit : Type}
    {mergeOf : Commit → Commit → Option Commit} {casing : Text.Casing} {failedTests : List Text}
    {agents : List (Text × Attempt)} {clone : Clone Commit} {verdict : Text → Text → Verdict}
    (fullMerge : Text → Verdict) (distinct : (agents.map Prod.fst).Nodup)
    (ran : ∀ turn ∈ turns mergeOf casing agents clone, turn.Ran failedTests verdict) :
    ∃ report, (attributeFailures mergeOf casing failedTests agents clone).2 = .ok report ∧
      (MeetsAlgorithm failedTests (turns mergeOf casing agents clone) verdict fullMerge report ↔
        Plain failedTests (turns mergeOf casing agents clone) verdict fullMerge ∨
          ∃ own ∈ turns mergeOf casing agents clone,
            Overwritten failedTests (turns mergeOf casing agents clone) verdict own) := by
  refine ⟨_, attributeFailures_returns fun turn member merged => ?_, ?_⟩
  · obtain ⟨testRun, tests, -⟩ := ran turn member merged
    exact ⟨testRun, tests⟩
  · refine meets_reportOf_iff ?_ ran
    rw [map_agentId_turns]
    exact distinct

private theorem harmless_ran :
    ∀ turn ∈ turns (fun first second : ℕ => some (first + second)) .plain harmless
      (twoBranches "agent/b".toList), turn.Ran ["t".toList] fun _ _ => .passed := by
  have reports : Reports ["t".toList] (fun _ => .passed) { returncode := 0 } :=
    ⟨iff_of_true rfl fun _ _ => rfl, ⟨id, .refl _⟩, ⟨id, .refl _⟩⟩
  intro turn member merged
  rcases List.mem_cons.mp member with rfl | later
  · exact ⟨_, rfl, reports⟩
  · rw [List.mem_singleton.mp later]
    exact ⟨_, rfl, reports⟩

/-- A test that passes with each branch and fails on the full merge is an interaction. -/
theorem harmless_meets_algorithm :
    ∃ report, (attributeFailures (fun first second : ℕ => some (first + second)) .plain
        ["t".toList] harmless (twoBranches "agent/b".toList)).2 = .ok report ∧
      MeetsAlgorithm ["t".toList] (turns (fun first second : ℕ => some (first + second)) .plain
        harmless (twoBranches "agent/b".toList)) (fun _ _ => .passed) (fun _ => .failed)
        report := by
  obtain ⟨report, returns, meets⟩ :=
    attribution_meets_algorithm_iff (fun _ => .failed) (by decide) harmless_ran
  refine ⟨report, returns, meets.mpr (.inl ⟨?_, ?_, ?_⟩)⟩
  · exact fun turn _ => .inr (.inl fun _ _ => ⟨nofun, nofun⟩)
  · exact fun _ _ _ => by decide +kernel
  · intro borne
    rw [map_agentId_turns] at borne
    exact absurd borne (by decide +kernel)

/-- A test that passes with each branch and on the full merge is reported as an interaction. -/
theorem flaky_test_reported_as_interaction :
    ¬ ∀ (mergeOf : ℕ → ℕ → Option ℕ) (failedTests : List Text) (agents : List (Text × Attempt))
      (clone : Clone ℕ) (verdict : Text → Text → Verdict) (fullMerge : Text → Verdict)
      (report : Dict Text (List Text)), (agents.map Prod.fst).Nodup →
      (∀ turn ∈ turns mergeOf .plain agents clone, turn.Ran failedTests verdict) →
      (attributeFailures mergeOf .plain failedTests agents clone).2 = .ok report →
        MeetsAlgorithm failedTests (turns mergeOf .plain agents clone) verdict fullMerge
          report := by
  intro claim
  have meets := claim (fun first second => some (first + second)) ["t".toList] harmless
    (twoBranches "agent/b".toList) (fun _ _ => .passed) (fun _ => .passed) _ (by decide)
    harmless_ran (attributeFailures_returns fun turn member merged => by
      obtain ⟨testRun, tests, -⟩ := harmless_ran turn member merged
      exact ⟨testRun, tests⟩)
  have none : ∀ turn ∈ turns (fun first second : ℕ => some (first + second)) .plain harmless
      (twoBranches "agent/b".toList), "t".toList ∉ listed (reportOf ["t".toList]
        (turns (fun first second : ℕ => some (first + second)) .plain harmless
          (twoBranches "agent/b".toList))) turn.agentId := by
    decide +kernel
  have listed := (meets.others "t".toList List.mem_cons_self none).2.mpr rfl
  exact absurd listed (by decide +kernel)

end Vcompany.Integration
