import Vcompany.Integration.Attribution
import Vcompany.Models.ProjectConfig
import Mathlib.Data.List.Nodup

/-! # What attribution reports

The report is made of the shares of the agents' turns, and of the tests that are in none of
them. Those are under one of two keys that an agent may bear as well, and no run on the full
merge decides which of the two it is.
-/

namespace Vcompany.Integration

open Foundation Git Models
open Strategist (AgentConfig)

/-! ## Turns -/

/-- An agent's turn: whether its branch merges with main, and the run of the tests if so. -/
structure Turn where
  agentId : Text
  merged : Bool
  tests : Except Text TestRun

/-- The tests under a key of the report. -/
def listed (report : Dict Text (List Text)) (key : Text) : List Text :=
  (report.get? key).getD []

/-- The tests that are attributed to the agent in its turn. -/
def Turn.share (failedTests : List Text) (turn : Turn) : List Text :=
  if turn.merged then
    match turn.tests with
    | .ok testRun =>
        if testRun.returncode = 0 then [] else parseFailedTests testRun.stdout failedTests
    | .error _ => []
  else failedTests

/-- The share enters the report, unless it is empty. -/
def Turn.record (failedTests : List Text) (report : Dict Text (List Text)) (turn : Turn) :
    Dict Text (List Text) :=
  if turn.share failedTests = [] then report else report.set turn.agentId (turn.share failedTests)

section

variable {Commit : Type} (mergeOf : Commit → Commit → Option Commit) (casing : Text.Casing)

def turnOf (agentId : Text) (attempt : Attempt) (clone : Clone Commit) : Turn where
  agentId := agentId
  merged := (isolate mergeOf casing agentId attempt clone).2.success
  tests := attempt.tests

def turns : List (Text × Attempt) → Clone Commit → List Turn
  | [], _ => []
  | (agentId, attempt) :: agents, clone =>
      turnOf mergeOf casing agentId attempt clone ::
        turns agents ((isolate mergeOf casing agentId attempt clone).1.checkout mainBranch
          attempt.back).1

theorem map_agentId_turns (agents : List (Text × Attempt)) (clone : Clone Commit) :
    (turns mergeOf casing agents clone).map Turn.agentId = agents.map Prod.fst := by
  induction agents generalizing clone with
  | nil => rfl
  | cons agent agents ih => exact congrArg (agent.1 :: ·) (ih _)

variable {mergeOf casing}

theorem tryAgent_report {failedTests : List Text} (failing : failedTests ≠ []) {agentId : Text}
    {attempt : Attempt} {state next : Attributing Commit}
    (ends : tryAgent mergeOf casing failedTests agentId attempt state = (next, none)) :
    let turn := turnOf mergeOf casing agentId attempt state.clone
    next.clone = (isolate mergeOf casing agentId attempt state.clone).1 ∧
      next.attribution = turn.record failedTests state.attribution ∧
      next.attributedTests = state.attributedTests ++ turn.share failedTests := by
  have found : ∃ tests, (turnOf mergeOf casing agentId attempt state.clone).share failedTests =
      tests ∧ next.clone = (isolate mergeOf casing agentId attempt state.clone).1 ∧
      next.attribution =
        (if tests = [] then state.attribution else state.attribution.set agentId tests) ∧
      next.attributedTests = state.attributedTests ++ tests := by
    unfold tryAgent at ends
    unfold Turn.share turnOf
    generalize isolate mergeOf casing agentId attempt state.clone = isolated at ends ⊢
    obtain ⟨clone, merged⟩ := isolated
    dsimp only at ends ⊢
    by_cases success : merged.success = true
    · rw [if_pos success] at ends ⊢
      rcases tests : attempt.tests with raised | testRun
      · rw [tests] at ends
        cases ends
      · rw [tests] at ends
        dsimp only at ends ⊢
        by_cases passes : testRun.returncode = 0
        · rw [if_pos passes] at ends ⊢
          cases ends
          exact ⟨[], rfl, rfl, rfl, (List.append_nil _).symm⟩
        · rw [if_neg passes] at ends ⊢
          rcases found : parseFailedTests testRun.stdout failedTests with _ | ⟨first, others⟩
          · rw [found] at ends
            cases ends
            exact ⟨[], rfl, rfl, rfl, (List.append_nil _).symm⟩
          · rw [found] at ends
            cases ends
            exact ⟨_, rfl, rfl, rfl, rfl⟩
    · rw [if_neg success] at ends ⊢
      cases ends
      exact ⟨_, rfl, rfl, (if_neg failing).symm, rfl⟩
  obtain ⟨tests, rfl, clone, report, attributed⟩ := found
  exact ⟨clone, report, attributed⟩

theorem attributeAgent_report {failedTests : List Text} (failing : failedTests ≠ [])
    {agentId : Text} {attempt : Attempt} {state next : Attributing Commit}
    (ends : attributeAgent mergeOf casing failedTests agentId attempt state = (next, none)) :
    let turn := turnOf mergeOf casing agentId attempt state.clone
    next.clone = ((isolate mergeOf casing agentId attempt state.clone).1.checkout mainBranch
        attempt.back).1 ∧
      next.attribution = turn.record failedTests state.attribution ∧
      next.attributedTests = state.attributedTests ++ turn.share failedTests := by
  unfold attributeAgent at ends
  rcases tried : tryAgent mergeOf casing failedTests agentId attempt state with ⟨mid, raised⟩
  rw [tried] at ends
  cases ends
  obtain ⟨clone, report, tests⟩ := tryAgent_report failing tried
  exact ⟨by rw [clone], report, tests⟩

theorem attributeAgents_report {failedTests : List Text} (failing : failedTests ≠ [])
    {agents : List (Text × Attempt)} {state last : Attributing Commit}
    (ends : attributeAgents mergeOf casing failedTests agents state = (last, none)) :
    last.attribution =
        (turns mergeOf casing agents state.clone).foldl (Turn.record failedTests)
          state.attribution ∧
      last.attributedTests = state.attributedTests ++
        (turns mergeOf casing agents state.clone).flatMap (Turn.share failedTests) := by
  induction agents generalizing state with
  | nil =>
      cases ends
      exact ⟨rfl, (List.append_nil _).symm⟩
  | cons agent agents ih =>
      unfold attributeAgents at ends
      rcases turn : attributeAgent mergeOf casing failedTests agent.1 agent.2 state with
        ⟨next, _ | raised⟩
      · rw [turn] at ends
        obtain ⟨clone, attribution, attributed⟩ := attributeAgent_report failing turn
        obtain ⟨report, tests⟩ := ih ends
        rw [clone, attribution] at report
        rw [clone, attributed, List.append_assoc] at tests
        exact ⟨report, tests⟩
      · rw [turn] at ends
        cases ends

/-- Where no run of the tests raises, the turns come to an end. -/
theorem attributeAgents_returns {failedTests : List Text} {agents : List (Text × Attempt)}
    {state : Attributing Commit}
    (ran : ∀ turn ∈ turns mergeOf casing agents state.clone,
      turn.merged = true → ∃ testRun, turn.tests = .ok testRun) :
    (attributeAgents mergeOf casing failedTests agents state).2 = none := by
  induction agents generalizing state with
  | nil => rfl
  | cons agent agents ih =>
      obtain ⟨agentId, attempt⟩ := agent
      obtain ⟨first, later⟩ := List.forall_mem_cons.mp ran
      have tried : (tryAgent mergeOf casing failedTests agentId attempt state).2 = none ∧
          (tryAgent mergeOf casing failedTests agentId attempt state).1.clone =
            (isolate mergeOf casing agentId attempt state.clone).1 := by
        unfold turnOf at first
        unfold tryAgent
        generalize isolate mergeOf casing agentId attempt state.clone = isolated at first ⊢
        obtain ⟨clone, merged⟩ := isolated
        dsimp only at first ⊢
        split
        · next success =>
            obtain ⟨testRun, tests⟩ := first success
            rw [tests]
            dsimp only
            split
            · exact ⟨rfl, rfl⟩
            · split <;> exact ⟨rfl, rfl⟩
        · exact ⟨rfl, rfl⟩
      unfold attributeAgents attributeAgent
      generalize tryAgent mergeOf casing failedTests agentId attempt state = result at tried ⊢
      obtain ⟨next, raised⟩ := result
      obtain ⟨rfl, clone⟩ := tried
      dsimp only at clone ⊢
      rw [← clone] at later
      exact ih later

/-! ## The report -/

end

/-- The key of the tests that are in no share. -/
def remainderKey (turns : List Turn) : Text :=
  if 1 < turns.length then "_interaction".toList else "_flaky".toList

/-- The failing tests that are in no share. -/
def remainder (failedTests : List Text) (turns : List Turn) : List Text :=
  failedTests.filter fun test => test ∉ turns.flatMap (Turn.share failedTests)

/-- The report of the turns. -/
def reportOf (failedTests : List Text) (turns : List Turn) : Dict Text (List Text) :=
  let shares := turns.foldl (Turn.record failedTests) .empty
  if remainder failedTests turns = [] then shares
  else shares.set (remainderKey turns) (remainder failedTests turns)

theorem Turn.share_nil (turn : Turn) : turn.share [] = [] := by
  have found (output : Text) : parseFailedTests output [] = [] := by
    unfold parseFailedTests
    exact ite_self []
  unfold Turn.share
  split
  · split
    · rw [found, ite_self]
    · rfl
  · rfl

theorem reportOf_nil (turns : List Turn) : reportOf [] turns = .empty := by
  have record : Turn.record [] = fun report (_ : Turn) => report := by
    funext report turn
    exact if_pos turn.share_nil
  unfold reportOf
  rw [record, List.foldl_fixed]
  exact if_pos rfl

theorem attributeFailures_report {Commit : Type} {mergeOf : Commit → Commit → Option Commit}
    {casing : Text.Casing} {failedTests : List Text} {agents : List (Text × Attempt)}
    {clone : Clone Commit} {report : Dict Text (List Text)}
    (returns : (attributeFailures mergeOf casing failedTests agents clone).2 = .ok report) :
    report = reportOf failedTests (turns mergeOf casing agents clone) := by
  have count : (turns mergeOf casing agents clone).length = agents.length := by
    rw [← List.length_map Turn.agentId, map_agentId_turns, List.length_map]
  unfold attributeFailures at returns
  split at returns
  · next none =>
      subst none
      cases returns
      exact (reportOf_nil _).symm
  · next failing =>
      rcases done : attributeAgents mergeOf casing failedTests agents { clone } with
        ⟨state, _ | raised⟩
      · rw [done] at returns
        obtain ⟨attribution, attributed⟩ := attributeAgents_report failing done
        rw [List.nil_append] at attributed
        dsimp only at returns
        rw [attributed, attribution] at returns
        unfold reportOf remainder remainderKey
        rw [count]
        split at returns
        · next none =>
            rw [none]
            cases returns
            rfl
        · next some =>
            rw [if_neg some]
            cases returns
            rfl
      · rw [done] at returns
        cases returns

theorem attributeFailures_returns {Commit : Type} {mergeOf : Commit → Commit → Option Commit}
    {casing : Text.Casing} {failedTests : List Text} {agents : List (Text × Attempt)}
    {clone : Clone Commit}
    (ran : ∀ turn ∈ turns mergeOf casing agents clone,
      turn.merged = true → ∃ testRun, turn.tests = .ok testRun) :
    (attributeFailures mergeOf casing failedTests agents clone).2 =
      .ok (reportOf failedTests (turns mergeOf casing agents clone)) := by
  have returns : ∃ report,
      (attributeFailures mergeOf casing failedTests agents clone).2 = .ok report := by
    unfold attributeFailures
    have none := @attributeAgents_returns _ mergeOf casing failedTests agents { clone } ran
    split
    · exact ⟨_, rfl⟩
    · generalize attributeAgents mergeOf casing failedTests agents { clone } = result at none ⊢
      obtain ⟨state, raised⟩ := result
      cases none
      dsimp only
      split <;> exact ⟨_, rfl⟩
  obtain ⟨report, returns⟩ := returns
  rw [returns, attributeFailures_report returns]

/-- Each agent's share is listed under its id, and nothing else is listed. -/
theorem listed_foldl_record {failedTests : List Text} {turns : List Turn}
    (distinct : (turns.map Turn.agentId).Nodup) {report : Dict Text (List Text)}
    (fresh : ∀ turn ∈ turns, listed report turn.agentId = []) :
    (∀ turn ∈ turns, listed (turns.foldl (Turn.record failedTests) report) turn.agentId =
      turn.share failedTests) ∧
    ∀ key ∉ turns.map Turn.agentId,
      listed (turns.foldl (Turn.record failedTests) report) key = listed report key := by
  induction turns generalizing report with
  | nil => exact ⟨nofun, fun _ _ => rfl⟩
  | cons turn turns ih =>
      obtain ⟨new, distinct⟩ := List.nodup_cons.mp distinct
      have own : listed (turn.record failedTests report) turn.agentId = turn.share failedTests := by
        unfold Turn.record
        split
        · next empty => rw [empty, fresh turn List.mem_cons_self]
        · unfold listed
          rw [Dict.get?_set_self]
          rfl
      have others (key : Text) (apart : key ≠ turn.agentId) :
          listed (turn.record failedTests report) key = listed report key := by
        unfold Turn.record
        split
        · rfl
        · unfold listed
          rw [Dict.get?_set_of_ne _ _ apart]
      have unlisted : ∀ other ∈ turns,
          listed (turn.record failedTests report) other.agentId = [] := by
        intro other member
        rw [others _ fun same => new (same ▸ List.mem_map_of_mem member)]
        exact fresh other (List.mem_cons_of_mem _ member)
      have rest := ih distinct unlisted
      rw [List.foldl_cons]
      constructor
      · intro other member
        rcases List.mem_cons.mp member with rfl | later
        · rw [rest.2 _ new, own]
        · exact rest.1 other later
      · intro key absent
        rw [List.map_cons, List.mem_cons, not_or] at absent
        rw [rest.2 key absent.2, others key absent.1]

/-- The rest is listed under its key, and each share under the agent's id unless that is the
key of the rest. -/
theorem listed_reportOf {failedTests : List Text} {turns : List Turn}
    (distinct : (turns.map Turn.agentId).Nodup) :
    (∀ turn ∈ turns, listed (reportOf failedTests turns) turn.agentId =
      if remainder failedTests turns ≠ [] ∧ turn.agentId = remainderKey turns then
        remainder failedTests turns
      else turn.share failedTests) ∧
    ∀ key ∉ turns.map Turn.agentId, listed (reportOf failedTests turns) key =
      if key = remainderKey turns then remainder failedTests turns else [] := by
  obtain ⟨shares, others⟩ :=
    @listed_foldl_record failedTests turns distinct .empty fun _ _ => rfl
  unfold reportOf
  dsimp only
  by_cases none : remainder failedTests turns = []
  · rw [if_pos none, none]
    refine ⟨fun turn member => ?_, fun key absent => ?_⟩
    · rw [if_neg fun both => both.1 rfl]
      exact shares turn member
    · rw [ite_self]
      exact others key absent
  · rw [if_neg none]
    unfold listed at shares others ⊢
    refine ⟨fun turn member => ?_, fun key absent => ?_⟩
    · by_cases own : turn.agentId = remainderKey turns
      · rw [if_pos ⟨none, own⟩, own, Dict.get?_set_self]
        rfl
      · rw [if_neg fun both => own both.2, Dict.get?_set_of_ne _ _ own]
        exact shares turn member
    · by_cases own : key = remainderKey turns
      · rw [if_pos own, own, Dict.get?_set_self]
        rfl
      · rw [if_neg own, Dict.get?_set_of_ne _ _ own]
        exact others key absent

/-! ## Whether the report partitions the failing tests -/

/-- The test is attributed to the agent: its branch does not merge, or the run names the test,
or names tests that were not run alone. -/
def Turn.Blames (failedTests : List Text) (turn : Turn) (test : Text) : Prop :=
  turn.merged = false ∨
    ∃ testRun, turn.tests = .ok testRun ∧ testRun.returncode ≠ 0 ∧
      (test ∈ failedLines testRun.stdout ∨
        failedLines testRun.stdout ≠ [] ∧ ∀ other ∈ failedTests, other ∉ failedLines testRun.stdout)

theorem mem_parseFailedTests_iff {output : Text} {candidateTests : List Text} {test : Text} :
    test ∈ parseFailedTests output candidateTests ↔ test ∈ candidateTests ∧
      (test ∈ failedLines output ∨
        failedLines output ≠ [] ∧ ∀ other ∈ candidateTests, other ∉ failedLines output) := by
  have none : (candidateTests.filter fun test => test ∈ failedLines output) = [] ↔
      ∀ other ∈ candidateTests, other ∉ failedLines output := by
    rw [List.filter_eq_nil_iff]
    simp only [decide_eq_true_eq]
  unfold parseFailedTests
  dsimp only
  split
  · next fallback =>
      rw [none] at fallback
      exact ⟨fun member => ⟨member, .inr fallback.symm⟩, And.left⟩
  · next found =>
      rw [none] at found
      rw [List.mem_filter, decide_eq_true_eq, or_iff_left fun both => found both.symm]

theorem Turn.mem_share_iff {failedTests : List Text} {turn : Turn} {test : Text} :
    test ∈ turn.share failedTests ↔ test ∈ failedTests ∧ turn.Blames failedTests test := by
  unfold share Blames
  rcases turn.merged with _ | _
  · exact ⟨fun member => ⟨member, .inl rfl⟩, And.left⟩
  · rw [if_pos rfl, or_iff_right nofun]
    rcases turn.tests with raised | testRun
    · refine ⟨nofun, ?_⟩
      rintro ⟨-, testRun, same, -⟩
      cases same
    · dsimp only
      by_cases passes : testRun.returncode = 0
      · rw [if_pos passes]
        refine ⟨nofun, ?_⟩
        rintro ⟨-, _, same, fails, -⟩
        cases same
        exact absurd passes fails
      · rw [if_neg passes, mem_parseFailedTests_iff]
        refine and_congr_right fun _ => ⟨fun blamed => ⟨testRun, rfl, passes, blamed⟩, ?_⟩
        rintro ⟨_, same, -, blamed⟩
        cases same
        exact blamed

theorem mem_remainder_iff {failedTests : List Text} {turns : List Turn} {test : Text} :
    test ∈ remainder failedTests turns ↔
      test ∈ failedTests ∧ ∀ turn ∈ turns, ¬ turn.Blames failedTests test := by
  unfold remainder
  rw [List.mem_filter, decide_eq_true_eq, List.mem_flatMap]
  refine and_congr_right fun failing => ?_
  rw [not_exists]
  refine forall_congr' fun turn => ?_
  rw [not_and, Turn.mem_share_iff, and_iff_right failing]

/-- The keys that are no agent's. -/
def specialKeys : List Text := ["_interaction".toList, "_flaky".toList]

theorem remainderKey_mem (turns : List Turn) : remainderKey turns ∈ specialKeys := by
  unfold remainderKey specialKeys
  split
  · exact List.mem_cons_self
  · exact List.mem_cons_of_mem _ List.mem_cons_self

/-- The lists of the report hold the failing tests and no others, and those under the special
keys are the ones that no agent is listed with. -/
structure Partitions (failedTests agentIds : List Text) (report : Dict Text (List Text)) :
    Prop where
  union : ∀ test, (∃ tests ∈ report.values, test ∈ tests) ↔ test ∈ failedTests
  apart : ∀ test ∈ failedTests, (∃ key ∈ specialKeys, test ∈ listed report key) ↔
    ∀ agentId ∈ agentIds, test ∉ listed report agentId

theorem mem_values_iff {report : Dict Text (List Text)} {test : Text} :
    (∃ tests ∈ report.values, test ∈ tests) ↔ ∃ key, test ∈ listed report key := by
  unfold Dict.values listed
  constructor
  · rintro ⟨tests, value, member⟩
    obtain ⟨⟨key, _⟩, entry, rfl⟩ := List.mem_map.mp value
    refine ⟨key, ?_⟩
    rw [Dict.get?_eq_some_iff.mpr entry]
    exact member
  · rintro ⟨key, member⟩
    rcases found : report.get? key with _ | tests
    · rw [found] at member
      cases member
    · rw [found] at member
      exact ⟨tests, List.mem_map_of_mem (Dict.get?_eq_some_iff.mp found), member⟩

/-- No agent bears a special key under which tests are reported that are not its own. -/
structure OwnKeys (failedTests : List Text) (turns : List Turn) : Prop where
  blameless : ∀ turn ∈ turns, turn.agentId ∈ specialKeys →
    ∀ test ∈ failedTests, ¬ turn.Blames failedTests test
  covered : remainderKey turns ∈ turns.map Turn.agentId →
    ∀ test ∈ failedTests, ∃ turn ∈ turns, turn.Blames failedTests test

section

variable {failedTests : List Text} {turns : List Turn}

/-- No test is left over for the key that an agent bears. -/
def Unshared (failedTests : List Text) (turns : List Turn) : Prop :=
  remainderKey turns ∈ turns.map Turn.agentId → remainder failedTests turns = []

theorem listed_of_unshared (distinct : (turns.map Turn.agentId).Nodup)
    (unshared : Unshared failedTests turns) {turn : Turn} (member : turn ∈ turns) :
    listed (reportOf failedTests turns) turn.agentId = turn.share failedTests := by
  rw [(listed_reportOf distinct).1 turn member]
  exact if_neg fun both => both.1 (unshared (both.2 ▸ List.mem_map_of_mem member))

/-- Where the rest is not under an agent's id, a test is listed in an agent's share or with the
rest. -/
theorem mem_listed_iff_of_unshared (distinct : (turns.map Turn.agentId).Nodup)
    (unshared : Unshared failedTests turns) {key test : Text} :
    test ∈ listed (reportOf failedTests turns) key ↔
      (∃ turn ∈ turns, turn.agentId = key ∧ test ∈ turn.share failedTests) ∨
        key = remainderKey turns ∧ test ∈ remainder failedTests turns := by
  by_cases agent : key ∈ turns.map Turn.agentId
  · obtain ⟨turn, member, rfl⟩ := List.mem_map.mp agent
    rw [listed_of_unshared distinct unshared member]
    constructor
    · exact fun share => .inl ⟨turn, member, rfl, share⟩
    · rintro (⟨other, present, same, share⟩ | ⟨same, rest⟩)
      · rwa [List.inj_on_of_nodup_map distinct present member same] at share
      · rw [unshared (same ▸ agent)] at rest
        cases rest
  · rw [(listed_reportOf distinct).2 key agent]
    have stranger : ¬ ∃ turn ∈ turns, turn.agentId = key ∧ test ∈ turn.share failedTests := by
      rintro ⟨turn, member, rfl, -⟩
      exact agent (List.mem_map_of_mem member)
    rw [or_iff_right stranger]
    split
    · next same => exact (and_iff_right same).symm
    · next other => exact iff_of_false List.not_mem_nil fun rest => other rest.1

theorem remainder_eq_nil_iff : remainder failedTests turns = [] ↔
    ∀ test ∈ failedTests, ∃ turn ∈ turns, turn.Blames failedTests test := by
  rw [List.eq_nil_iff_forall_not_mem]
  refine forall_congr' fun test => ?_
  rw [mem_remainder_iff, not_and, not_forall]
  refine forall_congr' fun _ => exists_congr fun turn => ?_
  rw [Classical.not_imp, not_not]

/-- A rest under an agent's id would be both special and the agent's. -/
theorem Partitions.unshared (distinct : (turns.map Turn.agentId).Nodup)
    (partitions : Partitions failedTests (turns.map Turn.agentId) (reportOf failedTests turns)) :
    Unshared failedTests turns := by
  intro borne
  obtain ⟨turn, member, same⟩ := List.mem_map.mp borne
  by_contra some
  have all : listed (reportOf failedTests turns) (remainderKey turns) =
      remainder failedTests turns := by
    rw [← same, (listed_reportOf distinct).1 turn member, if_pos ⟨some, same⟩]
  obtain ⟨test, rest⟩ := List.exists_mem_of_ne_nil _ some
  have apart := (partitions.apart test (mem_remainder_iff.mp rest).1).mp
    ⟨_, remainderKey_mem turns, all ▸ rest⟩
  exact apart _ borne (all ▸ rest)

theorem partitions_reportOf_iff (distinct : (turns.map Turn.agentId).Nodup) :
    Partitions failedTests (turns.map Turn.agentId) (reportOf failedTests turns) ↔
      OwnKeys failedTests turns := by
  constructor
  · intro partitions
    have unshared := partitions.unshared distinct
    refine ⟨fun turn member special test failing blamed => ?_, fun borne => ?_⟩
    · have mine : test ∈ listed (reportOf failedTests turns) turn.agentId := by
        rw [listed_of_unshared distinct unshared member, Turn.mem_share_iff]
        exact ⟨failing, blamed⟩
      exact (partitions.apart test failing).mp ⟨_, special, mine⟩ _
        (List.mem_map_of_mem member) mine
    · exact remainder_eq_nil_iff.mp (unshared borne)
  · rintro ⟨blameless, covered⟩
    have unshared : Unshared failedTests turns := fun borne =>
      remainder_eq_nil_iff.mpr (covered borne)
    refine ⟨fun test => ?_, fun test failing => ?_⟩
    · rw [mem_values_iff]
      constructor
      · rintro ⟨key, member⟩
        rcases (mem_listed_iff_of_unshared distinct unshared).mp member with
          ⟨turn, -, -, share⟩ | ⟨-, rest⟩
        · exact (Turn.mem_share_iff.mp share).1
        · exact (mem_remainder_iff.mp rest).1
      · intro failing
        by_cases blamed : ∃ turn ∈ turns, turn.Blames failedTests test
        · obtain ⟨turn, member, blames⟩ := blamed
          refine ⟨turn.agentId, (mem_listed_iff_of_unshared distinct unshared).mpr (.inl ?_)⟩
          exact ⟨turn, member, rfl, Turn.mem_share_iff.mpr ⟨failing, blames⟩⟩
        · push Not at blamed
          refine ⟨remainderKey turns, (mem_listed_iff_of_unshared distinct unshared).mpr (.inr ?_)⟩
          exact ⟨rfl, mem_remainder_iff.mpr ⟨failing, blamed⟩⟩
    · have rest_iff : (∀ agentId ∈ turns.map Turn.agentId,
          test ∉ listed (reportOf failedTests turns) agentId) ↔
            test ∈ remainder failedTests turns := by
        rw [List.forall_mem_map, mem_remainder_iff, and_iff_right failing]
        refine forall_congr' fun turn => forall_congr' fun member => ?_
        rw [listed_of_unshared distinct unshared member, Turn.mem_share_iff,
          and_iff_right failing]
      rw [rest_iff]
      constructor
      · rintro ⟨key, special, member⟩
        rcases (mem_listed_iff_of_unshared distinct unshared).mp member with
          ⟨turn, present, rfl, share⟩ | ⟨-, rest⟩
        · exact absurd (Turn.mem_share_iff.mp share).2
            (blameless turn present special test failing)
        · exact rest
      · intro rest
        refine ⟨remainderKey turns, remainderKey_mem turns, ?_⟩
        exact (mem_listed_iff_of_unshared distinct unshared).mpr (.inr ⟨rfl, rest⟩)

end

/-- **When attribution drops and invents nothing.** The report partitions the failing tests
exactly when no agent that bears a special key is blamed, and none bears the key of the tests
that are in no share while there are such tests. -/
theorem attribution_partitions_iff {Commit : Type} {mergeOf : Commit → Commit → Option Commit}
    {casing : Text.Casing} {failedTests : List Text} {agents : List (Text × Attempt)}
    {clone : Clone Commit} {report : Dict Text (List Text)}
    (distinct : (agents.map Prod.fst).Nodup)
    (returns : (attributeFailures mergeOf casing failedTests agents clone).2 = .ok report) :
    Partitions failedTests (agents.map Prod.fst) report ↔
      OwnKeys failedTests (turns mergeOf casing agents clone) := by
  have ids := map_agentId_turns mergeOf casing agents clone
  rw [attributeFailures_report returns, ← ids]
  exact partitions_reportOf_iff (ids ▸ distinct)

/-- A clone with main and the branches of two agents. -/
def twoBranches (second : Text) : Clone ℕ where
  branches branch :=
    if branch = mainBranch then some 1
    else if branch = "agent/a".toList ∨ branch = second then some 2
    else none
  head := mainBranch

def passing : Attempt where
  tests := .ok { returncode := 0 }

/-- Two agents, with each of whose branches the test passes. -/
def harmless : List (Text × Attempt) := [("a".toList, passing), ("b".toList, passing)]

theorem harmless_partitions :
    ∃ report, (attributeFailures (fun first second : ℕ => some (first + second)) .plain
        ["t".toList] harmless (twoBranches "agent/b".toList)).2 = .ok report ∧
      Partitions ["t".toList] ["a".toList, "b".toList] report := by
  have returns : (attributeFailures (fun first second : ℕ => some (first + second)) .plain
      ["t".toList] harmless (twoBranches "agent/b".toList)).2 =
        .ok (reportOf ["t".toList]
          [{ agentId := "a".toList, merged := true, tests := passing.tests },
            { agentId := "b".toList, merged := true, tests := passing.tests }]) := by
    decide +kernel
  have plain : ∀ agentId ∈ harmless.map Prod.fst, agentId ∉ specialKeys := by decide
  refine ⟨_, returns, (attribution_partitions_iff (by decide) returns).mpr ⟨?_, ?_⟩⟩
  · intro turn member special
    have agent := List.mem_map_of_mem (f := Turn.agentId) member
    rw [map_agentId_turns] at agent
    exact absurd special (plain _ agent)
  · intro borne
    rw [map_agentId_turns] at borne
    exact absurd (remainderKey_mem _) (plain _ borne)

private def flakyAgent : List (Text × Attempt) := [("_flaky".toList, passing)]

private def flakyConfig : ProjectConfig .plain where
  project := "p".toList
  agents := [{ id := "_flaky", owns := ["a"] }]
  valid := rfl

/-- An agent may be called `_flaky`; a test that passes on its branch is then listed both under
the special key and with the agent. -/
theorem flaky_agent_shares_key :
    ¬ ∀ (config : ProjectConfig .plain) (mergeOf : ℕ → ℕ → Option ℕ) (failedTests : List Text)
      (agents : List (Text × Attempt)) (clone : Clone ℕ) (report : Dict Text (List Text)),
      agents.map Prod.fst = config.agents.map AgentConfig.id →
      (attributeFailures mergeOf .plain failedTests agents clone).2 = .ok report →
        Partitions failedTests (agents.map Prod.fst) report := by
  intro claim
  have returns : (attributeFailures (fun first second : ℕ => some (first + second)) .plain
      ["t".toList] flakyAgent (twoBranches "agent/_flaky".toList)).2 =
        .ok (reportOf ["t".toList]
          [{ agentId := "_flaky".toList, merged := true, tests := passing.tests }]) := by
    decide +kernel
  have both := (claim flakyConfig _ _ flakyAgent _ _ rfl returns).apart "t".toList
    List.mem_cons_self
  have mine : "t".toList ∈ listed (reportOf ["t".toList]
      [{ agentId := "_flaky".toList, merged := true, tests := passing.tests }])
        "_flaky".toList := by
    decide +kernel
  exact both.mp ⟨"_flaky".toList, by decide, mine⟩ "_flaky".toList List.mem_cons_self mine

end Vcompany.Integration
