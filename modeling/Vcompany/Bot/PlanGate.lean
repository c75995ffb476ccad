import Vcompany.Foundation.Text
import Vcompany.Foundation.Transition
import Mathlib.Logic.Function.Basic

/-! # The plan gate

`PlanReviewCog.handle_new_plan` runs once for every plan that an agent submits. A
run reads the plan, has it reviewed by the PM or by a human, and processes the
approval or the rejection; the runs of one agent interleave at their awaits and
share the agent's list of pending plans. An approval triggers execution when it
finds this list empty.

A plan is on the list from the time it is posted for review until it is decided.
`triggered_allApproved` shows that this makes up for the plans that wait or timed
out, and only for these: execution starts with every plan approved in the runs
where no other plan is left undecided.
-/

namespace Vcompany.Bot

open Foundation

/-! ## The state of the gate -/

inductive GateStatus where
  | idle
  | awaitingReview
  | approved
  | rejected
  deriving DecidableEq, Repr

/-- The fields of an agent's monitor state that the gate uses. -/
structure AgentMonitorState where
  planGateStatus : GateStatus
  pendingPlans : List Text
  approvedPlans : List Text
  deriving DecidableEq

/-- `PlanReviewCog._update_gate_state`. -/
def updateGateState (state : AgentMonitorState) (planPath : Text) :
    GateStatus → AgentMonitorState
  | .awaitingReview =>
      { state with
        planGateStatus := .awaitingReview
        pendingPlans :=
          if planPath ∈ state.pendingPlans then state.pendingPlans
          else state.pendingPlans ++ [planPath] }
  | .approved =>
      { planGateStatus := .approved
        pendingPlans := state.pendingPlans.erase planPath
        approvedPlans :=
          if planPath ∈ state.approvedPlans then state.approvedPlans
          else state.approvedPlans ++ [planPath] }
  | .rejected =>
      { state with
        planGateStatus := .rejected
        pendingPlans := state.pendingPlans.erase planPath }
  | .idle => state

/-- How far a run of `handle_new_plan` has come. The approval is processed inside
the `try` block of the PM's review or after the human's. -/
inductive Stage where
  | reading
  | posting
  | waiting
  | approving (byPm : Bool)
  | triggering (byPm : Bool)
  | closing (byPm : Bool)
  deriving DecidableEq, Repr

/-- A run of `handle_new_plan`. -/
structure PlanTask where
  planPath : Text
  stage : Stage
  deriving DecidableEq

/-- What happened to a plan, and the start of execution. -/
inductive GateEvent where
  | submitted (planPath : Text)
  | dropped (planPath : Text)
  | posted (planPath : Text)
  | timedOut (planPath : Text)
  | approved (planPath : Text)
  | rejected (planPath : Text)
  | triggered
  deriving DecidableEq

/-- The plan an event is about. -/
def GateEvent.plan : GateEvent → Option Text
  | submitted planPath => some planPath
  | dropped planPath => some planPath
  | posted planPath => some planPath
  | timedOut planPath => some planPath
  | approved planPath => some planPath
  | rejected planPath => some planPath
  | triggered => none

/-- The gate of one agent: its monitor state, the runs of `handle_new_plan`, and
what happened so far, the latest event first. -/
structure PlanGate where
  monitor : AgentMonitorState
  tasks : ℕ → Option PlanTask
  log : List GateEvent

namespace PlanGate

/-- The gate of an agent without plans. -/
def init : PlanGate where
  monitor := { planGateStatus := .idle, pendingPlans := [], approvedPlans := [] }
  tasks _ := none
  log := []

def record (gate : PlanGate) (event : GateEvent) : PlanGate :=
  { gate with log := event :: gate.log }

/-- The task reaches a stage. -/
def advance (gate : PlanGate) (task : ℕ) (planPath : Text) (stage : Stage) : PlanGate :=
  { gate with tasks := Function.update gate.tasks task (some ⟨planPath, stage⟩) }

/-- The task ends. -/
def finish (gate : PlanGate) (task : ℕ) : PlanGate :=
  { gate with tasks := Function.update gate.tasks task none }

def update (gate : PlanGate) (planPath : Text) (status : GateStatus) : PlanGate :=
  { gate with monitor := updateGateState gate.monitor planPath status }

end PlanGate

/-! ## Steps between two awaits -/

/-- What a task of the gate does next. -/
inductive PlanStep where
  /-- `handle_new_plan` is called. -/
  | submit (task : ℕ) (planPath : Text)
  /-- There is no channel, or the plan cannot be read, or not be posted. -/
  | drop (task : ℕ)
  /-- The PM is confident. -/
  | pmApprove (task : ℕ)
  /-- The PM is not confident, or raised, or there is none. -/
  | pmRefer (task : ℕ)
  | post (task : ℕ)
  | timeOut (task : ℕ)
  | approve (task : ℕ)
  | reject (task : ℕ)
  /-- The approval was passed on; the list of pending plans is tested. -/
  | test (task : ℕ)
  /-- The execute command was sent. -/
  | reset (task : ℕ)
  /-- The processing of an approval raises. -/
  | fail (task : ℕ)
  /-- The processing of an approval ends. -/
  | close (task : ℕ)
  deriving DecidableEq

/-- An exception in the processing of an approval: the PM's review falls through to
a review by a human, and the human's ends. -/
def PlanGate.failed (gate : PlanGate) (task : ℕ) (planPath : Text) (byPm : Bool) : PlanGate :=
  if byPm then gate.advance task planPath .posting else gate.finish task

/-- `PlanReviewCog.handle_new_plan`, `_handle_approval`, `_handle_rejection` and
`_trigger_execution`, from one await to the next. -/
def planStep (gate : PlanGate) : PlanStep → Option PlanGate
  | .submit task planPath =>
      match gate.tasks task with
      | none => some ((gate.advance task planPath .reading).record (.submitted planPath))
      | some _ => none
  | .drop task =>
      match gate.tasks task with
      | some ⟨planPath, .reading⟩ => some ((gate.finish task).record (.dropped planPath))
      | some ⟨planPath, .posting⟩ => some ((gate.finish task).record (.dropped planPath))
      | _ => none
  | .pmApprove task =>
      match gate.tasks task with
      | some ⟨planPath, .reading⟩ =>
          some ((((gate.update planPath .approved).update planPath .approved).advance task planPath
            (.approving true)).record (.approved planPath))
      | _ => none
  | .pmRefer task =>
      match gate.tasks task with
      | some ⟨planPath, .reading⟩ => some (gate.advance task planPath .posting)
      | _ => none
  | .post task =>
      match gate.tasks task with
      | some ⟨planPath, .posting⟩ =>
          some (((gate.update planPath .awaitingReview).advance task planPath .waiting).record
            (.posted planPath))
      | _ => none
  | .timeOut task =>
      match gate.tasks task with
      | some ⟨planPath, .waiting⟩ => some ((gate.finish task).record (.timedOut planPath))
      | _ => none
  | .approve task =>
      match gate.tasks task with
      | some ⟨planPath, .waiting⟩ =>
          some (((gate.update planPath .approved).advance task planPath (.approving false)).record
            (.approved planPath))
      | _ => none
  | .reject task =>
      match gate.tasks task with
      | some ⟨planPath, .waiting⟩ =>
          some (((gate.update planPath .rejected).finish task).record (.rejected planPath))
      | _ => none
  | .test task =>
      match gate.tasks task with
      | some ⟨planPath, .approving byPm⟩ =>
          if gate.monitor.pendingPlans = [] then
            some ((gate.advance task planPath (.triggering byPm)).record .triggered)
          else some (gate.advance task planPath (.closing byPm))
      | _ => none
  | .reset task =>
      match gate.tasks task with
      | some ⟨planPath, .triggering byPm⟩ =>
          some ({ gate with
            monitor := { gate.monitor with planGateStatus := .idle, approvedPlans := [] } }.advance
              task planPath (.closing byPm))
      | _ => none
  | .fail task =>
      match gate.tasks task with
      | some ⟨planPath, .approving byPm⟩ => some (gate.failed task planPath byPm)
      | some ⟨planPath, .triggering byPm⟩ => some (gate.failed task planPath byPm)
      | some ⟨planPath, .closing byPm⟩ => some (gate.failed task planPath byPm)
      | _ => none
  | .close task =>
      match gate.tasks task with
      | some ⟨_, .closing _⟩ => some (gate.finish task)
      | _ => none

/-- A step of the gate. -/
def PlanGate.Step (gate : PlanGate) (label : PlanStep) (next : PlanGate) : Prop :=
  planStep gate label = some next

/-! ## What the gate promises -/

/-- The events since the last trigger. -/
def sinceTrigger (log : List GateEvent) : List GateEvent :=
  log.takeWhile fun event => event ≠ .triggered

/-- The latest event of a plan. -/
def latest (log : List GateEvent) (planPath : Text) : Option GateEvent :=
  log.find? fun event => event.plan = some planPath

/-- Every plan submitted since the last trigger was approved, and nothing happened
to it since. -/
def AllApproved (log : List GateEvent) : Prop :=
  ∀ planPath, .submitted planPath ∈ sinceTrigger log →
    latest log planPath = some (.approved planPath)

/-- No plan submitted since the last trigger is on its way to a review, was dropped
on this way, or was rejected and not approved since. -/
def Settled (log : List GateEvent) : Prop :=
  ∀ planPath, .submitted planPath ∈ sinceTrigger log →
    latest log planPath ≠ some (.submitted planPath) ∧
    latest log planPath ≠ some (.dropped planPath) ∧
    latest log planPath ≠ some (.rejected planPath)

/-- A review times out while its plan is pending: it was not decided in another
review of the same file. -/
def OnTime (gate : PlanGate) : PlanStep → Prop
  | .timeOut task => ∀ run, gate.tasks task = some run → run.planPath ∈ gate.monitor.pendingPlans
  | _ => True

/-- Besides, the list of pending plans is not found empty while a plan that was
never on it, or was taken off it by a rejection, is not approved. -/
def Orderly (gate : PlanGate) (label : PlanStep) : Prop :=
  OnTime gate label ∧
    ∀ task, label = .test task → gate.monitor.pendingPlans = [] → Settled gate.log

/-! ## Waiting plans are pending -/

/-- The plans that wait for a review, or for which nobody decided in time. -/
def Undecided (log : List GateEvent) (planPath : Text) : Prop :=
  latest log planPath = some (.posted planPath) ∨ latest log planPath = some (.timedOut planPath)

/-- Every undecided plan is pending. -/
def Listed (gate : PlanGate) : Prop :=
  ∀ planPath, Undecided gate.log planPath → planPath ∈ gate.monitor.pendingPlans

/-- The pending plans other than the given one stay pending. -/
def KeepsOthers (gate next : PlanGate) (planPath : Text) : Prop :=
  ∀ other ∈ gate.monitor.pendingPlans, other ≠ planPath → other ∈ next.monitor.pendingPlans

/-- What a step that records an event does to the pending plans. -/
def Effect (gate next : PlanGate) (label : PlanStep) : GateEvent → Prop
  | .submitted _ => next.monitor.pendingPlans = gate.monitor.pendingPlans
  | .dropped _ => next.monitor.pendingPlans = gate.monitor.pendingPlans
  | .posted planPath =>
      planPath ∈ next.monitor.pendingPlans ∧ KeepsOthers gate next planPath
  | .timedOut planPath =>
      next.monitor.pendingPlans = gate.monitor.pendingPlans ∧
        ∃ task stage, label = .timeOut task ∧ gate.tasks task = some ⟨planPath, stage⟩
  | .approved planPath => KeepsOthers gate next planPath
  | .rejected planPath => KeepsOthers gate next planPath
  | .triggered =>
      next.monitor.pendingPlans = gate.monitor.pendingPlans ∧ gate.monitor.pendingPlans = [] ∧
        ∃ task, label = .test task

private theorem failed_unchanged (gate : PlanGate) (task : ℕ) (planPath : Text) (byPm : Bool) :
    (gate.failed task planPath byPm).log = gate.log ∧
      (gate.failed task planPath byPm).monitor.pendingPlans = gate.monitor.pendingPlans := by
  cases byPm <;> exact ⟨rfl, rfl⟩

/-- A step leaves the log and the pending plans alone, or records one event. -/
theorem step_cases {gate next : PlanGate} {label : PlanStep} (moved : gate.Step label next) :
    (next.log = gate.log ∧ next.monitor.pendingPlans = gate.monitor.pendingPlans) ∨
      ∃ event, next.log = event :: gate.log ∧ Effect gate next label event := by
  unfold PlanGate.Step planStep at moved
  cases label with
  | submit task planPath =>
      dsimp only at moved
      split at moved
      · cases Option.some.inj moved
        exact Or.inr ⟨.submitted planPath, rfl, rfl⟩
      · cases moved
  | drop task =>
      dsimp only at moved
      split at moved
      · cases Option.some.inj moved
        exact Or.inr ⟨_, rfl, rfl⟩
      · cases Option.some.inj moved
        exact Or.inr ⟨_, rfl, rfl⟩
      · cases moved
  | pmApprove task =>
      dsimp only at moved
      split at moved
      · cases Option.some.inj moved
        refine Or.inr ⟨_, rfl, fun other pending different => ?_⟩
        exact (List.mem_erase_of_ne different).mpr ((List.mem_erase_of_ne different).mpr pending)
      · cases moved
  | pmRefer task =>
      dsimp only at moved
      split at moved
      · cases Option.some.inj moved
        exact Or.inl ⟨rfl, rfl⟩
      · cases moved
  | post task =>
      dsimp only at moved
      split at moved
      · rename_i planPath _
        cases Option.some.inj moved
        refine Or.inr ⟨_, rfl, ?_, fun other pending _ => ?_⟩
        · change planPath ∈ if planPath ∈ gate.monitor.pendingPlans then _ else _
          split <;> simp [*]
        · change other ∈ if planPath ∈ gate.monitor.pendingPlans then _ else _
          split <;> simp [pending]
      · cases moved
  | timeOut task =>
      dsimp only at moved
      split at moved
      · rename_i planPath found
        cases Option.some.inj moved
        exact Or.inr ⟨_, rfl, rfl, task, _, rfl, found⟩
      · cases moved
  | approve task =>
      dsimp only at moved
      split at moved
      · cases Option.some.inj moved
        exact Or.inr ⟨_, rfl, fun other pending different =>
          (List.mem_erase_of_ne different).mpr pending⟩
      · cases moved
  | reject task =>
      dsimp only at moved
      split at moved
      · cases Option.some.inj moved
        exact Or.inr ⟨_, rfl, fun other pending different =>
          (List.mem_erase_of_ne different).mpr pending⟩
      · cases moved
  | test task =>
      dsimp only at moved
      split at moved
      · split at moved
        · rename_i empty
          cases Option.some.inj moved
          exact Or.inr ⟨_, rfl, rfl, empty, task, rfl⟩
        · cases Option.some.inj moved
          exact Or.inl ⟨rfl, rfl⟩
      · cases moved
  | reset task =>
      dsimp only at moved
      split at moved
      · cases Option.some.inj moved
        exact Or.inl ⟨rfl, rfl⟩
      · cases moved
  | fail task =>
      dsimp only at moved
      split at moved
      · cases Option.some.inj moved
        exact Or.inl (failed_unchanged gate task _ _)
      · cases Option.some.inj moved
        exact Or.inl (failed_unchanged gate task _ _)
      · cases Option.some.inj moved
        exact Or.inl (failed_unchanged gate task _ _)
      · cases moved
  | close task =>
      dsimp only at moved
      split at moved
      · cases Option.some.inj moved
        exact Or.inl ⟨rfl, rfl⟩
      · cases moved

@[simp] theorem latest_cons (event : GateEvent) (log : List GateEvent) (planPath : Text) :
    latest (event :: log) planPath =
      if event.plan = some planPath then some event else latest log planPath := by
  unfold latest
  rw [List.find?_cons]
  by_cases about : event.plan = some planPath <;> simp [about]

/-- The latest event of a plan is about it. -/
theorem latest_plan {log : List GateEvent} {planPath : Text} {event : GateEvent}
    (found : latest log planPath = some event) : event.plan = some planPath := by
  simpa using List.find?_some found

/-- A step that is on time keeps the undecided plans pending. -/
theorem listed_step {gate next : PlanGate} {label : PlanStep} (listed : Listed gate)
    (onTime : OnTime gate label) (moved : gate.Step label next) : Listed next := by
  rcases step_cases moved with ⟨sameLog, samePlans⟩ | ⟨event, logged, effect⟩
  · intro planPath undecided
    rw [samePlans]
    exact listed planPath (sameLog ▸ undecided)
  · intro planPath undecided
    have earlier (other : event.plan ≠ some planPath) :
        planPath ∈ gate.monitor.pendingPlans := by
      apply listed planPath
      simpa only [Undecided, logged, latest_cons, other, if_false] using undecided
    have current (about : event.plan = some planPath) :
        event = .posted planPath ∨ event = .timedOut planPath := by
      simpa only [Undecided, logged, latest_cons, about, if_true, Option.some.injEq]
        using undecided
    have kept {changed : Text} (keeps : KeepsOthers gate next changed)
        (about : event.plan = some changed) (other : event.plan ≠ some planPath) :
        planPath ∈ next.monitor.pendingPlans :=
      keeps planPath (earlier other) fun same => other (same ▸ about)
    cases event with
    | submitted changed =>
        rw [effect]
        refine earlier fun about => ?_
        rcases current about with same | same <;> cases same
    | dropped changed =>
        rw [effect]
        refine earlier fun about => ?_
        rcases current about with same | same <;> cases same
    | posted changed =>
        by_cases about : (GateEvent.posted changed).plan = some planPath
        · cases about
          exact effect.1
        · exact kept effect.2 rfl about
    | timedOut changed =>
        obtain ⟨samePlans, task, stage, rfl, found⟩ := effect
        rw [samePlans]
        by_cases about : (GateEvent.timedOut changed).plan = some planPath
        · cases about
          exact onTime _ found
        · exact earlier about
    | approved changed =>
        refine kept effect rfl fun about => ?_
        rcases current about with same | same <;> cases same
    | rejected changed =>
        refine kept effect rfl fun about => ?_
        rcases current about with same | same <;> cases same
    | triggered =>
        rw [effect.1]
        exact earlier nofun

/-- When no plan is pending, every plan submitted since the last trigger is
approved exactly when none of them is left undecided off the list. -/
theorem allApproved_iff_settled {gate : PlanGate} (listed : Listed gate)
    (empty : gate.monitor.pendingPlans = []) : AllApproved gate.log ↔ Settled gate.log := by
  have decided (planPath : Text) : ¬ Undecided gate.log planPath := fun undecided => by
    simpa [empty] using listed planPath undecided
  refine forall₂_congr fun planPath submitted => ?_
  constructor
  · intro approved
    simp [approved]
  · rintro ⟨notSubmitted, notDropped, notRejected⟩
    have present : (latest gate.log planPath).isSome := by
      have member : GateEvent.submitted planPath ∈ gate.log :=
        (List.takeWhile_prefix _).subset submitted
      exact List.find?_isSome.mpr ⟨_, member, by simp [GateEvent.plan]⟩
    obtain ⟨event, found⟩ := Option.isSome_iff_exists.mp present
    have about := latest_plan found
    cases event with
    | triggered => cases about
    | submitted changed => cases about; exact absurd found notSubmitted
    | dropped changed => cases about; exact absurd found notDropped
    | rejected changed => cases about; exact absurd found notRejected
    | posted changed => cases about; exact absurd (Or.inl found) (decided planPath)
    | timedOut changed => cases about; exact absurd (Or.inr found) (decided planPath)
    | approved changed => cases about; exact found

/-! ## When execution starts -/

/-- Every trigger in the log came when all plans were approved. -/
def TriggersApproved (log : List GateEvent) : Prop :=
  ∀ after before, log = after ++ .triggered :: before → AllApproved before

theorem triggersApproved_cons_iff (event : GateEvent) (log : List GateEvent) :
    TriggersApproved (event :: log) ↔
      TriggersApproved log ∧ (event = .triggered → AllApproved log) := by
  constructor
  · refine fun sound => ⟨fun after before split => ?_, fun same => ?_⟩
    · exact sound (event :: after) before (by rw [split, List.cons_append])
    · exact sound [] log (by rw [same, List.nil_append])
  · rintro ⟨sound, latest⟩ after before split
    cases after with
    | nil =>
        obtain ⟨rfl, rfl⟩ := List.cons.inj split
        exact latest rfl
    | cons first after => exact sound after before (List.cons.inj split).2

/-- **When execution starts.** In a run whose steps are all orderly, execution is
triggered only when every plan submitted since the last trigger is approved. -/
theorem triggered_allApproved {labels : List PlanStep} {gate : PlanGate}
    (run : Run (Guarded PlanGate.Step Orderly) PlanGate.init labels gate)
    (after before : List GateEvent) (triggered : gate.log = after ++ .triggered :: before) :
    AllApproved before := by
  have sound : Listed gate ∧ TriggersApproved gate.log := by
    refine run.invariant (fun gate => Listed gate ∧ TriggersApproved gate.log) ?_ ?_
    · rintro gate label next ⟨listed, sound⟩ ⟨⟨onTime, settled⟩, moved⟩
      refine ⟨listed_step listed onTime moved, ?_⟩
      rcases step_cases moved with ⟨sameLog, _⟩ | ⟨event, logged, effect⟩
      · rw [sameLog]
        exact sound
      · rw [logged, triggersApproved_cons_iff]
        refine ⟨sound, ?_⟩
        rintro rfl
        obtain ⟨_, empty, task, tested⟩ := effect
        exact (allApproved_iff_settled listed empty).mpr (settled task tested empty)
    · refine ⟨fun planPath undecided => ?_, fun after before split => ?_⟩
      · rcases undecided with found | found <;> cases found
      · cases after <;> cases split
  exact sound.2 after before triggered

def firstPlan : Text := "01-01-PLAN.md"

def secondPlan : Text := "01-02-PLAN.md"

/-- Two plans under review, one of which is rejected and submitted again. -/
def resubmittedLog : List GateEvent :=
  [.approved secondPlan, .approved firstPlan, .posted secondPlan, .submitted secondPlan,
    .rejected secondPlan, .posted secondPlan, .posted firstPlan, .submitted secondPlan,
    .submitted firstPlan]

theorem settled_resubmittedLog : Settled resubmittedLog := by
  intro planPath submitted
  have which : planPath = secondPlan ∨ planPath = firstPlan := by
    simpa [resubmittedLog, sinceTrigger] using submitted
  rcases which with rfl | rfl
  · decide
  · decide

/-- The approval of the first plan finds the second one pending, and that of the second starts
the execution. -/
theorem approved_plan_triggers : AllApproved resubmittedLog := by
  have reviewed : Run (Guarded PlanGate.Step Orderly) PlanGate.init
      [.submit 0 firstPlan, .submit 1 secondPlan, .pmRefer 0, .pmRefer 1, .post 0, .post 1,
        .reject 1, .submit 1 secondPlan, .pmRefer 1, .post 1, .approve 0, .test 0, .approve 1,
        .test 1] _ :=
    .cons ⟨⟨trivial, nofun⟩, rfl⟩ <| .cons ⟨⟨trivial, nofun⟩, rfl⟩ <|
      .cons ⟨⟨trivial, nofun⟩, rfl⟩ <| .cons ⟨⟨trivial, nofun⟩, rfl⟩ <|
      .cons ⟨⟨trivial, nofun⟩, rfl⟩ <| .cons ⟨⟨trivial, nofun⟩, rfl⟩ <|
      .cons ⟨⟨trivial, nofun⟩, rfl⟩ <| .cons ⟨⟨trivial, nofun⟩, rfl⟩ <|
      .cons ⟨⟨trivial, nofun⟩, rfl⟩ <| .cons ⟨⟨trivial, nofun⟩, rfl⟩ <|
      .cons ⟨⟨trivial, nofun⟩, rfl⟩ <|
        .cons ⟨⟨trivial, fun _ _ empty => nomatch empty⟩, rfl⟩ <|
          .cons ⟨⟨trivial, nofun⟩, rfl⟩ <|
            .cons ⟨⟨trivial, fun _ _ _ => settled_resubmittedLog⟩, rfl⟩ (.nil _)
  exact triggered_allApproved reviewed [] _ rfl

/-- Of two plans under review one is rejected and then the other approved:
execution starts. -/
theorem rejected_plan_triggers :
    ∃ labels gate before, Run PlanGate.Step PlanGate.init labels gate ∧
      gate.log = .triggered :: before ∧ ¬ AllApproved before := by
  refine ⟨[.submit 0 firstPlan, .submit 1 secondPlan, .pmRefer 0, .pmRefer 1, .post 0, .post 1,
    .reject 1, .approve 0, .test 0], _, [.approved firstPlan, .rejected secondPlan,
    .posted secondPlan, .posted firstPlan, .submitted secondPlan, .submitted firstPlan],
    .cons rfl <| .cons rfl <| .cons rfl <| .cons rfl <| .cons rfl <| .cons rfl <| .cons rfl <|
      .cons rfl <| .cons rfl (.nil _), rfl, fun approved => ?_⟩
  have last := approved secondPlan (by decide)
  revert last
  decide

end Vcompany.Bot
