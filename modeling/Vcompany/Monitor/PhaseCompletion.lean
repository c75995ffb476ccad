import Vcompany.Monitor.Roadmap

/-! # Noticing that a phase is complete

`check_phase_completion` looks for an executing phase, and reports a completed one only if there
is none. Since the parser makes the first phase that is not complete the executing one, a phase is
reported as completed only when the whole roadmap is, and then it is the last phase that is
reported (`completion_noticed_iff`).
-/

namespace Vcompany.Monitor

open Foundation

/-- The roadmap in a clone, whose content is `none` if it cannot be read. -/
inductive RoadmapFile where
  | absent
  | present (content : Option Text)

/-- `f"Phase {number}"`. -/
def phaseId (phase : Phase) : Text := "Phase ".toList ++ Nat.toDigits 10 phase.number

theorem phaseId_eq_iff {first second : Phase} :
    phaseId first = phaseId second ↔ first.number = second.number := by
  unfold phaseId
  rw [List.append_cancel_left_eq]
  constructor
  · intro same
    have read := congrArg (Nat.ofDigitChars 10 · 0) same
    simpa only [Nat.ofDigitChars_ten_toDigits] using read
  · exact congrArg (Nat.toDigits 10)

def unknownReport : Text × Text := ("unknown", "unknown")

/-- What `check_phase_completion` makes of the phases. -/
def reportPhases (previousPhaseStatus : Text) (phases : List Phase) : Text × Text :=
  if phases.head?.all (·.status = .unknown) then unknownReport
  else
    let executing := phases.filter (·.status = .executing)
    let completed := phases.filter (Complete ·)
    match executing.head?, completed.getLast? with
    | some running, _ => (phaseId running, "executing".toList)
    | none, some lastDone =>
        -- the previous status is asked for, and the answer makes no difference
        if previousPhaseStatus = "executing".toList then (phaseId lastDone, "completed".toList)
        else (phaseId lastDone, "completed".toList)
    | none, none => unknownReport

section Check

variable (numerals : Numerals)

/-- `check_phase_completion`. -/
def checkPhaseCompletion (roadmap : RoadmapFile) (previousPhaseStatus : Text) : Text × Text :=
  match roadmap with
  | .absent => unknownReport
  | .present content =>
      match parseRoadmap numerals content with
      | .error _ => unknownReport
      | .ok phases => reportPhases previousPhaseStatus phases

/-- The phase is executing in the roadmap. -/
def Executes (content : Option Text) (running : Phase) : Prop :=
  ∃ phases, parseRoadmap numerals content = .ok phases ∧ running ∈ phases ∧
    running.status = .executing

/-- The check of a second snapshot, with the status that the first one gave, reports the phase
as completed. -/
def NoticesCompletion (first second : Option Text) (previousPhaseStatus : Text)
    (running : Phase) : Prop :=
  checkPhaseCompletion numerals (.present second)
      (checkPhaseCompletion numerals (.present first) previousPhaseStatus).2 =
    (phaseId running, "completed".toList)

end Check

variable {phases : List Phase}

/-- The status reported before makes no difference. -/
theorem checkPhaseCompletion_previous (numerals : Numerals) (roadmap : RoadmapFile)
    (first second : Text) :
    checkPhaseCompletion numerals roadmap first = checkPhaseCompletion numerals roadmap second := by
  have same (phases : List Phase) : reportPhases first phases = reportPhases second phases := by
    unfold reportPhases
    simp only [ite_self]
  unfold checkPhaseCompletion
  simp only [same]

/-- An executing phase is reported as the only one. -/
theorem RuleFrom.filter_executing {found : Bool} {running : Phase} (rule : RuleFrom found phases)
    (member : running ∈ phases) (executing : running.status = .executing) :
    phases.filter (·.status = .executing) = [running] := by
  have inside : running ∈ phases.filter (·.status = .executing) :=
    List.mem_filter.mpr ⟨member, decide_eq_true executing⟩
  have most : (phases.filter (·.status = .executing)).length ≤ 1 := by
    rw [← List.countP_eq_length_filter]
    exact rule.2.trans (by split <;> omega)
  obtain ⟨only, same⟩ := List.length_eq_one_iff.mp
    (Nat.le_antisymm most (List.length_pos_of_mem inside))
  rw [same] at inside ⊢
  rw [List.mem_singleton.mp inside]

/-- The phases of a roadmap with a phase that is known. -/
theorem rule_of_known {numerals : Numerals} {content : Option Text} {phase : Phase}
    (parsed : parseRoadmap numerals content = .ok phases) (member : phase ∈ phases)
    (known : phase.status ≠ .unknown) : RuleFrom false phases := by
  rcases parseRoadmap_rule parsed with rfl | ⟨_, rule⟩
  · rw [List.mem_singleton.mp member] at known
    exact absurd rfl known
  · exact rule

/-- Phases that the rule gives their statuses are known. -/
theorem RuleFrom.head?_known (rule : RuleFrom false phases) (inhabited : phases ≠ []) :
    phases.head?.all (·.status = .unknown) = false := by
  obtain ⟨first, later, rfl⟩ := List.exists_cons_of_ne_nil inhabited
  simpa using rule.known List.mem_cons_self

theorem reportPhases_executing (rule : RuleFrom false phases) {running : Phase}
    (member : running ∈ phases) (executing : running.status = .executing)
    (previousPhaseStatus : Text) :
    reportPhases previousPhaseStatus phases = (phaseId running, "executing".toList) := by
  unfold reportPhases
  rw [rule.head?_known (List.ne_nil_of_mem member), if_neg Bool.false_ne_true]
  dsimp only
  rw [rule.filter_executing member executing]
  rfl

theorem reportPhases_complete (complete : ∀ phase ∈ phases, Complete phase) {last : Phase}
    (final : phases.getLast? = some last) (previousPhaseStatus : Text) :
    reportPhases previousPhaseStatus phases = (phaseId last, "completed".toList) := by
  have known : phases.head?.all (·.status = .unknown) = false := by
    obtain ⟨first, later, rfl⟩ := List.exists_cons_of_ne_nil
      (List.ne_nil_of_mem (List.mem_of_getLast? final))
    have status : first.status = .complete := complete first List.mem_cons_self
    simp [status]
  have none : phases.filter (·.status = .executing) = [] := by
    refine List.filter_eq_nil_iff.mpr fun phase member => ?_
    have status : phase.status = .complete := complete phase member
    simp [status]
  have all : phases.filter (Complete ·) = phases :=
    List.filter_eq_self.mpr fun phase member => decide_eq_true (complete phase member)
  unfold reportPhases
  rw [known, if_neg Bool.false_ne_true]
  dsimp only
  rw [none, all, final]
  exact ite_self _

/-! ## Two snapshots -/

theorem checkPhaseCompletion_of_parsed {numerals : Numerals} {content : Option Text}
    (parsed : parseRoadmap numerals content = .ok phases) (previousPhaseStatus : Text) :
    checkPhaseCompletion numerals (.present content) previousPhaseStatus =
      reportPhases previousPhaseStatus phases := by
  unfold checkPhaseCompletion
  dsimp only
  rw [parsed]

/-- The phase executing in a snapshot is reported as such. -/
theorem checkPhaseCompletion_of_executes {numerals : Numerals} {content : Option Text}
    {running : Phase} (executes : Executes numerals content running)
    (previousPhaseStatus : Text) :
    checkPhaseCompletion numerals (.present content) previousPhaseStatus =
      (phaseId running, "executing".toList) := by
  obtain ⟨phases, parsed, member, executing⟩ := executes
  have known : running.status ≠ .unknown := by
    rw [executing]
    exact PhaseStatus.noConfusion
  rw [checkPhaseCompletion_of_parsed parsed]
  exact reportPhases_executing (rule_of_known parsed member known) member executing
    previousPhaseStatus

/-- **When completion is noticed.** A phase that was executing and is complete in the next
snapshot is reported as completed exactly when all phases of that snapshot are complete and the
last one has its number. -/
theorem completion_noticed_iff (numerals : Numerals) (first second : Option Text)
    (previousPhaseStatus : Text) (running : Phase) (phases : List Phase)
    (executes : Executes numerals first running)
    (parsed : parseRoadmap numerals second = .ok phases)
    (complete : ∃ done ∈ phases, done.number = running.number ∧ Complete done) :
    NoticesCompletion numerals first second previousPhaseStatus running ↔
      (∀ phase ∈ phases, Complete phase) ∧
        ∃ last ∈ phases.getLast?, last.number = running.number := by
  obtain ⟨done, member, -, status⟩ := complete
  have rule : RuleFrom false phases := by
    refine rule_of_known parsed member ?_
    rw [show done.status = .complete from status]
    exact PhaseStatus.noConfusion
  unfold NoticesCompletion
  rw [checkPhaseCompletion_of_executes executes, checkPhaseCompletion_of_parsed parsed]
  by_cases all : ∀ phase ∈ phases, Complete phase
  · rw [and_iff_right all]
    obtain ⟨last, final⟩ := Option.ne_none_iff_exists'.mp
      (mt List.getLast?_eq_none_iff.mp (List.ne_nil_of_mem member))
    rw [reportPhases_complete all final, final, Prod.mk.injEq, phaseId_eq_iff, and_iff_left rfl]
    simp
  · refine iff_of_false (fun noticed => ?_) fun condition => all condition.1
    obtain ⟨phase, member, executing⟩ := rule.exists_executing all
    rw [reportPhases_executing rule member executing] at noticed
    exact absurd (Prod.mk.inj noticed).2 (by decide)

/-- The first of two phases is executing. -/
def firstOfTwo : Text := "- [ ] **Phase 1: a**\n- [ ] **Phase 2: b**"

/-- Both phases are complete. -/
def bothComplete : Text := "- [x] **Phase 1: a**\n- [x] **Phase 2: b**"

/-- The last phase is noticed. -/
theorem last_completion_noticed :
    NoticesCompletion .plain (some twoPhases) (some bothComplete) "unknown"
      { number := 2, description := "b", status := .executing } := by
  refine (completion_noticed_iff .plain _ _ _ _
    [⟨1, "a", .complete⟩, ⟨2, "b", .complete⟩]
    ⟨[⟨1, "a", .complete⟩, ⟨2, "b", .executing⟩], by decide +kernel, by decide, rfl⟩
    (by decide +kernel) (by decide)).mpr ?_
  exact ⟨by decide, _, rfl, rfl⟩

/-- The completion of a phase is not noticed while another one follows. -/
theorem earlier_completion_unnoticed :
    ¬ ∀ (numerals : Numerals) (first second : Option Text) (previousPhaseStatus : Text)
      (running : Phase) (phases : List Phase), Executes numerals first running →
        parseRoadmap numerals second = .ok phases →
          (∃ done ∈ phases, done.number = running.number ∧ Complete done) →
            NoticesCompletion numerals first second previousPhaseStatus running := by
  intro always
  have noticed := always .plain (some firstOfTwo) (some twoPhases) "unknown"
    ⟨1, "a", .executing⟩ [⟨1, "a", .complete⟩, ⟨2, "b", .executing⟩]
    ⟨[⟨1, "a", .executing⟩, ⟨2, "b", .pending⟩], by decide +kernel, by decide, rfl⟩
    (by decide +kernel) (by decide)
  revert noticed
  unfold NoticesCompletion
  decide +kernel

end Vcompany.Monitor
