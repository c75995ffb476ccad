import Vcompany.Monitor.StatusGenerator
import Vcompany.Strategist.Pm

/-! # The reviews at the workflow gates

At each gate the cog reads an artifact of the agent, asks the PM about it and announces what
comes of it. It looks at the confidence of the PM and not at the answer, takes an exception of
the PM for a missing PM, and reads the first part of the artifact only. `gates_fail_closed_iff`
says when the announcements follow the verdict all the same.
-/

namespace Vcompany.Bot

open Foundation Monitor Strategist

/-! ## The announcements -/

inductive GateAnnouncement where
  | discussionNoContext
  | discussionPassed (level : ConfidenceLevel)
  | discussionBlocked
  | discussionNoPm
  | planNone
  | planPassed (planCount : ℕ) (level : ConfidenceLevel)
  | planBlocked
  | planNoPm
  | verifyNone
  | verifyPassed
  | verifyReexecute (level : ConfidenceLevel)
  | verifyBlocked
  | phaseComplete
  deriving DecidableEq

def levelName : ConfidenceLevel → Text
  | .high => "HIGH".toList
  | .medium => "MEDIUM".toList
  | .low => "LOW".toList

/-- The text of an announcement. -/
def GateAnnouncement.text : GateAnnouncement → Text
  | discussionNoContext =>
      "DISCUSSION GATE -- no CONTEXT.md found, auto-advancing to PLAN stage".toList
  | discussionPassed level =>
      "DISCUSSION GATE passed (PM confidence: ".toList ++ levelName level ++
        ") -> advancing to PLAN stage".toList
  | discussionBlocked =>
      "DISCUSSION GATE blocked -- PM confidence LOW on CONTEXT.md. @Owner please review.".toList
  | discussionNoPm => "DISCUSSION GATE -- no PM available, auto-advancing to PLAN stage".toList
  | planNone => "PM PLAN REVIEW GATE -- no plans found, auto-advancing to EXECUTE stage".toList
  | planPassed planCount level =>
      "PM PLAN REVIEW GATE passed -- ".toList ++ (Nat.repr planCount).toList ++
        " plan(s) approved (PM confidence: ".toList ++ levelName level ++
        ") -> advancing to EXECUTE stage".toList
  | planBlocked =>
      "PM PLAN REVIEW GATE blocked -- PM confidence LOW. @Owner please review plans.".toList
  | planNoPm => "PM PLAN REVIEW GATE -- no PM available, auto-advancing to EXECUTE stage".toList
  | verifyNone =>
      "VERIFY GATE -- no VERIFICATION.md (verifier disabled), ".toList ++
        "auto-advancing to PHASE COMPLETE".toList
  | verifyPassed => "VERIFY GATE passed -- all checks PASS -> advancing to PHASE COMPLETE".toList
  | verifyReexecute level =>
      "VERIFY GATE -- failures found, PM recommends re-execute (confidence: ".toList ++
        levelName level ++ ")".toList
  | verifyBlocked =>
      "VERIFY GATE blocked -- verification failures, PM confidence LOW. ".toList ++
        "@Owner please review.".toList
  | phaseComplete => "PHASE COMPLETE -- all stages passed".toList

/-- The announcements that say that the agent advances. -/
def GateAnnouncement.advances : GateAnnouncement → Bool
  | discussionBlocked | planBlocked | verifyReexecute _ | verifyBlocked | phaseComplete => false
  | _ => true

/-- The announcements that say that the phase is complete. -/
def GateAnnouncement.completes : GateAnnouncement → Bool
  | verifyNone | verifyPassed | phaseComplete => true
  | _ => false

/-! ## The gates -/

/-- A file of the agent's clone: its name, its content, and whether it can be read. -/
structure Artifact where
  name : Text
  content : Text
  readable : Bool

/-- The PM that the cog was given. -/
abbrev Evaluate := Text → Text → Except PyExc PMDecision

/-- What the cog reads of the last file; nothing if there is none, or if reading it fails. -/
def latestContent (files : List Artifact) : Text :=
  match files.getLast? with
  | none => []
  | some latest => if latest.readable then latest.content.take 3000 else []

/-- `decision.confidence.level in ("HIGH", "MEDIUM")`. -/
def Confident (decision : PMDecision) : Prop :=
  decision.confidence.level = .high ∨ decision.confidence.level = .medium

instance (decision : PMDecision) : Decidable (Confident decision) :=
  inferInstanceAs (Decidable (_ ∨ _))

def discussionPrompt (agentId content : Text) : Text :=
  "Review this CONTEXT.md from agent '".toList ++ agentId ++
    "' for completeness and alignment with the project goals. ".toList ++
    "Is the context research sufficient to proceed to planning?\n\n".toList ++ content

/-- `_review_discussion_gate`, with the sorted CONTEXT.md files if there is a project. -/
def reviewDiscussionGate (pm : Option Evaluate) (agentId : Text)
    (found : Option (List Artifact)) : List GateAnnouncement :=
  match found with
  | none => []
  | some files =>
      let content := latestContent files
      if content = [] then [.discussionNoContext]
      else match pm with
        | none => [.discussionNoPm]
        | some evaluate =>
            match evaluate (discussionPrompt agentId content) agentId with
            | .ok decision =>
                if Confident decision then [.discussionPassed decision.confidence.level]
                else [.discussionBlocked]
            -- the exception is logged, and the gate goes on as without a PM
            | .error _ => [.discussionNoPm]

/-- The plans that the cog reads: the last five, but for those that it cannot read. -/
def readPlans (files : List Artifact) : List Artifact :=
  (files.drop (files.length - 5)).filter Artifact.readable

def planEntry (plan : Artifact) : Text :=
  "\n--- ".toList ++ plan.name ++ " ---\n".toList ++ plan.content.take 1000 ++ "\n".toList

def planContent (plans : List Artifact) : Text := plans.flatMap planEntry

def planPrompt (agentId : Text) (plans : List Artifact) : Text :=
  "Review these ".toList ++ (Nat.repr plans.length).toList ++ " plan(s) from agent '".toList ++
    agentId ++ "'. Are they reasonable and aligned with the project? ".toList ++
    "Answer YES to approve or NO with reason to reject.\n\n".toList ++ planContent plans

/-- `_review_plan_gate`, with the sorted PLAN.md files. -/
def reviewPlanGate (pm : Option Evaluate) (agentId : Text) (found : Option (List Artifact)) :
    List GateAnnouncement :=
  match found with
  | none => []
  | some files =>
      let plans := readPlans files
      if planContent plans = [] then [.planNone]
      else match pm with
        | none => [.planNoPm]
        | some evaluate =>
            match evaluate (planPrompt agentId plans) agentId with
            | .ok decision =>
                if Confident decision then [.planPassed plans.length decision.confidence.level]
                else [.planBlocked]
            | .error _ => [.planNoPm]

def passWord : Text := "PASS".toList

def failWord : Text := "FAIL".toList

/-- The text contains PASS and no FAIL, in any letter case. -/
def AllPass (uppercase : Uppercase) (content : Text) : Prop :=
  passWord <:+: uppercase.upper content ∧ ¬ failWord <:+: uppercase.upper content

instance (uppercase : Uppercase) (content : Text) : Decidable (AllPass uppercase content) :=
  inferInstanceAs (Decidable (_ ∧ ¬ _))

def verifyPrompt (agentId content : Text) : Text :=
  "Review this VERIFICATION.md from agent '".toList ++ agentId ++
    "'. It contains test/verification failures. ".toList ++
    "Should the agent re-execute to fix them, or is manual review needed?\n\n".toList ++ content

/-- `_review_verify_gate`, with the sorted VERIFICATION.md files. -/
def reviewVerifyGate (uppercase : Uppercase) (pm : Option Evaluate) (agentId : Text)
    (found : Option (List Artifact)) : List GateAnnouncement :=
  match found with
  | none => []
  | some files =>
      let content := latestContent files
      if content = [] then [.verifyNone, .phaseComplete]
      else if AllPass uppercase content then [.verifyPassed, .phaseComplete]
      else match pm with
        | none => []
        | some evaluate =>
            match evaluate (verifyPrompt agentId content) agentId with
            | .ok decision =>
                if Confident decision then [.verifyReexecute decision.confidence.level]
                else [.verifyBlocked]
            | .error _ => []

/-! ## What the gates are to keep -/

section Gates

variable (uppercase : Uppercase) (evaluate : Evaluate) (approves : Option Text → Prop)
  (agentId : Text) (files : List Artifact)

/-- What the discussion gate asks the PM, if it asks. -/
def discussionQuestion : Option Text :=
  if latestContent files = [] then none else some (discussionPrompt agentId (latestContent files))

/-- What the plan gate asks the PM, if it asks. -/
def planQuestion : Option Text :=
  if readPlans files = [] then none else some (planPrompt agentId (readPlans files))

/-- No gate advances if the PM raised on its question. -/
def ClosedOnRaise (question : Option Text) (events : List GateAnnouncement) : Prop :=
  ∀ asked raised, question = some asked → evaluate asked agentId = .error raised →
    ∀ event ∈ events, event.advances = false

/-- The plan gate passes only if the answer of the PM approved the plans. -/
def PassesOnApproval (question : Option Text) (events : List GateAnnouncement) : Prop :=
  ∀ planCount level, .planPassed planCount level ∈ events →
    ∃ asked decision, question = some asked ∧ evaluate asked agentId = .ok decision ∧
      approves decision.answer

/-- The phase is complete only if the whole file says so. -/
def CompletesOnPass (latest : Artifact) (events : List GateAnnouncement) : Prop :=
  (∃ event ∈ events, event.completes = true) → AllPass uppercase latest.content

/-- The PM answers, or is not asked. -/
def PmAnswers (question : Option Text) : Prop :=
  ∀ asked, question = some asked → ∃ decision, evaluate asked agentId = .ok decision

/-- The PM answers, and approves what it is confident about, or is not asked. -/
def PmApproves (question : Option Text) : Prop :=
  ∀ asked, question = some asked → ∃ decision, evaluate asked agentId = .ok decision ∧
    (Confident decision → approves decision.answer)

/-- The start of the last file is read, and where it passes, the whole file does. A file that
cannot be read passes. -/
def StartTells (latest : Artifact) : Prop :=
  if latest.readable then
    latest.content ≠ [] ∧
      (AllPass uppercase (latest.content.take 3000) → AllPass uppercase latest.content)
  else AllPass uppercase latest.content

end Gates

variable {uppercase : Uppercase} {evaluate : Evaluate} {approves : Option Text → Prop}
  {agentId : Text} {files : List Artifact}

theorem planContent_eq_nil_iff {plans : List Artifact} : planContent plans = [] ↔ plans = [] := by
  cases plans with
  | nil => exact iff_of_true rfl rfl
  | cons plan plans => exact iff_of_false nofun nofun

/-! ### The discussion gate -/

theorem discussion_closed_iff :
    ClosedOnRaise evaluate agentId (discussionQuestion agentId files)
        (reviewDiscussionGate (some evaluate) agentId (some files)) ↔
      PmAnswers evaluate agentId (discussionQuestion agentId files) := by
  unfold reviewDiscussionGate discussionQuestion
  dsimp only
  by_cases empty : latestContent files = []
  · rw [if_pos empty, if_pos empty]
    exact iff_of_true nofun nofun
  · rw [if_neg empty, if_neg empty]
    constructor
    · rintro closed asked same
      obtain rfl := Option.some.inj same
      rcases evaluated : evaluate (discussionPrompt agentId (latestContent files)) agentId with
        raised | decision
      · rw [evaluated] at closed
        cases closed _ raised rfl evaluated .discussionNoPm (List.mem_singleton_self _)
      · exact ⟨decision, rfl⟩
    · rintro answers asked raised same evaluated
      obtain ⟨decision, answered⟩ := answers asked same
      cases evaluated.symm.trans answered

/-! ### The plan gate -/

theorem plan_follows_iff :
    (ClosedOnRaise evaluate agentId (planQuestion agentId files)
          (reviewPlanGate (some evaluate) agentId (some files)) ∧
        PassesOnApproval evaluate approves agentId (planQuestion agentId files)
          (reviewPlanGate (some evaluate) agentId (some files))) ↔
      PmApproves evaluate approves agentId (planQuestion agentId files) := by
  unfold reviewPlanGate planQuestion
  dsimp only
  by_cases empty : readPlans files = []
  · rw [if_pos (planContent_eq_nil_iff.mpr empty), if_pos empty]
    refine iff_of_true ⟨nofun, fun planCount level member => ?_⟩ nofun
    cases List.mem_singleton.mp member
  · rw [if_neg fun blank => empty (planContent_eq_nil_iff.mp blank), if_neg empty]
    constructor
    · rintro ⟨closed, passes⟩ asked same
      obtain rfl := Option.some.inj same
      rcases evaluated : evaluate (planPrompt agentId (readPlans files)) agentId with
        raised | decision
      · rw [evaluated] at closed
        cases closed _ raised rfl evaluated .planNoPm (List.mem_singleton_self _)
      · refine ⟨decision, rfl, fun confident => ?_⟩
        rw [evaluated] at passes
        dsimp only at passes
        rw [if_pos confident] at passes
        obtain ⟨asked, other, same, answered, approved⟩ :=
          passes _ _ (List.mem_singleton_self _)
        obtain rfl := Option.some.inj same
        obtain rfl := Except.ok.inj (evaluated.symm.trans answered)
        exact approved
    · intro approved
      obtain ⟨decision, evaluated, approved⟩ := approved _ rfl
      rw [evaluated]
      refine ⟨fun asked raised same failed => ?_, fun planCount level member => ?_⟩
      · obtain rfl := Option.some.inj same
        cases evaluated.symm.trans failed
      · dsimp only at member
        split at member
        · next confident => exact ⟨_, decision, rfl, evaluated, approved confident⟩
        · cases List.mem_singleton.mp member

/-! ### The verify gate -/

/-- What the PM says never completes the phase. -/
theorem reviewVerifyGate_completes_iff {pm : Option Evaluate} :
    (∃ event ∈ reviewVerifyGate uppercase pm agentId (some files), event.completes = true) ↔
      latestContent files = [] ∨ AllPass uppercase (latestContent files) := by
  unfold reviewVerifyGate
  dsimp only
  by_cases empty : latestContent files = []
  · rw [if_pos empty]
    exact iff_of_true ⟨.verifyNone, List.mem_cons_self, rfl⟩ (.inl empty)
  · rw [if_neg empty]
    by_cases passes : AllPass uppercase (latestContent files)
    · rw [if_pos passes]
      exact iff_of_true ⟨.verifyPassed, List.mem_cons_self, rfl⟩ (.inr passes)
    · rw [if_neg passes]
      refine iff_of_false ?_ fun either => either.elim empty passes
      rintro ⟨event, member, completes⟩
      rcases pm with _ | evaluate
      · cases member
      · dsimp only at member
        split at member
        · split at member
          · cases List.mem_singleton.mp member
            cases completes
          · cases List.mem_singleton.mp member
            cases completes
        · cases member

theorem latestContent_concat (earlier : List Artifact) (latest : Artifact) :
    latestContent (earlier ++ [latest]) =
      if latest.readable then latest.content.take 3000 else [] := by
  unfold latestContent
  rw [List.getLast?_concat]

/-- No text is all PASS without a character. -/
theorem not_allPass_nil : ¬ AllPass uppercase [] := by
  rintro ⟨passes, _⟩
  have empty := List.eq_nil_of_infix_nil passes
  cases empty

theorem verify_completes_iff {pm : Option Evaluate} (earlier : List Artifact) (latest : Artifact) :
    CompletesOnPass uppercase latest
        (reviewVerifyGate uppercase pm agentId (some (earlier ++ [latest]))) ↔
      StartTells uppercase latest := by
  unfold CompletesOnPass StartTells
  rw [reviewVerifyGate_completes_iff, latestContent_concat]
  cases latest.readable with
  | false =>
      rw [if_neg Bool.false_ne_true, if_neg Bool.false_ne_true]
      exact ⟨fun tells => tells (.inl rfl), fun passes _ => passes⟩
  | true =>
      rw [if_pos rfl, if_pos rfl, List.take_eq_nil_iff]
      constructor
      · refine fun tells => ⟨fun empty => ?_, fun start => tells (.inr start)⟩
        exact not_allPass_nil (empty ▸ tells (.inl (.inr empty)))
      · rintro ⟨some, tells⟩ (empty | start)
        · exact absurd empty (by simpa using some)
        · exact tells start

/-! ### All gates -/

/-- The announcements of the gates follow the verdicts: the discussion gate and the plan gate do
not advance if the PM raised, the plan gate passes if the PM approved, and the phase is complete
if the whole of the last verification file says so. -/
structure GatesFollow (uppercase : Uppercase) (evaluate : Evaluate)
    (approves : Option Text → Prop) (agentId : Text) (contexts plans verifications : List Artifact)
    (latest : Artifact) : Prop where
  discussion : ClosedOnRaise evaluate agentId (discussionQuestion agentId contexts)
    (reviewDiscussionGate (some evaluate) agentId (some contexts))
  plan : ClosedOnRaise evaluate agentId (planQuestion agentId plans)
    (reviewPlanGate (some evaluate) agentId (some plans))
  approval : PassesOnApproval evaluate approves agentId (planQuestion agentId plans)
    (reviewPlanGate (some evaluate) agentId (some plans))
  verify : CompletesOnPass uppercase latest
    (reviewVerifyGate uppercase (some evaluate) agentId (some (verifications ++ [latest])))

/-- **Gates.** With a PM and an artifact at each gate, the announcements follow the verdicts
exactly if the PM answers at the discussion gate, approves at the plan gate whatever it is
confident about, and the start of the verification file tells what the whole file does. -/
theorem gates_fail_closed_iff (uppercase : Uppercase) (evaluate : Evaluate)
    (approves : Option Text → Prop) (agentId : Text) (contexts plans verifications : List Artifact)
    (latest : Artifact) :
    GatesFollow uppercase evaluate approves agentId contexts plans verifications latest ↔
      PmAnswers evaluate agentId (discussionQuestion agentId contexts) ∧
        PmApproves evaluate approves agentId (planQuestion agentId plans) ∧
        StartTells uppercase latest := by
  constructor
  · intro follow
    exact ⟨discussion_closed_iff.mp follow.discussion,
      plan_follows_iff.mp ⟨follow.plan, follow.approval⟩,
      (verify_completes_iff verifications latest).mp follow.verify⟩
  · rintro ⟨answers, approved, tells⟩
    obtain ⟨plan, approval⟩ := plan_follows_iff.mpr approved
    exact ⟨discussion_closed_iff.mpr answers, plan, approval,
      (verify_completes_iff verifications latest).mpr tells⟩

/-- The PM of a project with a blueprint, whose answer to everything is NO. -/
def refusingTier : PMTier where
  loadContextDocs := .ok [("PROJECT-BLUEPRINT.md".toList, "# Blueprint".toList)]
  loadDecisionLog := .ok []
  score _ _ _ := ⟨1 / 2, .low, 1 / 2, 0⟩
  claude _ _ := some (.str "NO".toList)

def saysYes (answer : Option Text) : Prop := ∃ text, answer = some text ∧ "YES".toList <+: text

def onePlan : List Artifact := [⟨"01-01-PLAN.md".toList, "# Plan".toList, true⟩]

def passingReport : Artifact := ⟨"01-VERIFICATION.md".toList, "PASS".toList, true⟩

/-- The plan gate passes although the PM answers NO. -/
theorem refused_plan_passes :
    ¬ GatesFollow Uppercase.plain refusingTier.evaluateQuestion saysYes "dev".toList [] onePlan []
      passingReport := by
  intro follow
  obtain ⟨asked, decision, _, evaluated, text, answered, yes⟩ :=
    follow.approval 1 .medium (List.mem_singleton_self _)
  obtain rfl := Except.ok.inj evaluated
  obtain rfl := Option.some.inj answered
  exact absurd yes (by decide)

end Vcompany.Bot
