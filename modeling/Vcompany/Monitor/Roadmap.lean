import Vcompany.Foundation.MarkedLines
import Vcompany.Monitor.RoadmapGrammar

/-! # Roadmaps are parsed faithfully

Each phase of a roadmap is listed once and in order, with the status that the boxes give it. Both
formats follow one rule: the first phase that is not complete is executing, and later ones are
pending (`StatusRule`). A number that Python's `int` refuses for its length is the one exception:
then nothing is returned (`parseRoadmap_faithful_iff`).
-/

namespace Vcompany.Monitor

open Foundation

/-! ## The rule for statuses -/

def Complete (phase : Phase) : Prop := phase.status = .complete

instance : DecidablePred Complete := fun _ => inferInstanceAs (Decidable (_ = _))

/-- Of the phases that are not complete the first is executing and the others are pending. -/
structure StatusRule (phases : List Phase) : Prop where
  first : ∀ before phase later, phases = before ++ phase :: later → ¬ Complete phase →
    (∀ earlier ∈ before, Complete earlier) → phase.status = .executing
  others : ∀ before phase later, phases = before ++ phase :: later → ¬ Complete phase →
    (∃ earlier ∈ before, ¬ Complete earlier) → phase.status = .pending
  one : phases.countP (·.status = .executing) ≤ 1

/-- The rule behind other phases, of which one is found not to be complete. -/
def RuleFrom (found : Bool) (phases : List Phase) : Prop :=
  (∀ before phase later, phases = before ++ phase :: later → ¬ Complete phase →
    phase.status =
      if found = true ∨ ∃ earlier ∈ before, ¬ Complete earlier then .pending else .executing) ∧
  phases.countP (·.status = .executing) ≤ if found then 0 else 1

theorem ruleFrom_nil (found : Bool) : RuleFrom found [] :=
  ⟨fun before phase later same => absurd same (by simp), Nat.zero_le _⟩

/-- The status that both parsers give a phase. -/
theorem RuleFrom.cons {found complete : Bool} {number : ℕ} {description : Text}
    {phases : List Phase} (rest : RuleFrom (found || !complete) phases) :
    RuleFrom found
      (({ number, description
          status := if complete then .complete else if found then .pending else .executing } :
        Phase) :: phases) := by
  obtain ⟨rule, count⟩ := rest
  constructor
  · rintro (_ | ⟨head, before⟩) phase later same incomplete
    · obtain ⟨rfl, rfl⟩ := List.cons.inj same
      cases complete with
      | true => exact absurd rfl incomplete
      | false => cases found <;> simp
    · obtain ⟨rfl, rfl⟩ := List.cons.inj same
      rw [rule before phase later rfl incomplete]
      refine if_congr ?_ rfl rfl
      simp only [Bool.or_eq_true, Bool.not_eq_true', List.exists_mem_cons_iff, or_assoc]
      refine or_congr_right (or_congr_left ?_)
      cases complete <;> cases found <;> simp [Complete]
  · rw [List.countP_cons]
    cases complete <;> cases found <;> simpa using count

theorem RuleFrom.known {found : Bool} {phases : List Phase} {phase : Phase}
    (rule : RuleFrom found phases) (member : phase ∈ phases) : phase.status ≠ .unknown := by
  intro unknown
  obtain ⟨before, later, rfl⟩ := List.append_of_mem member
  have given := rule.1 before phase later rfl (by simp [Complete, unknown])
  rw [unknown] at given
  split at given <;> cases given

/-- Unless all phases are complete, one is executing. -/
theorem RuleFrom.exists_executing {phases : List Phase} (rule : RuleFrom false phases)
    (incomplete : ¬ ∀ phase ∈ phases, Complete phase) :
    ∃ phase ∈ phases, phase.status = .executing := by
  rcases found : phases.find? (¬ Complete ·) with _ | phase
  · refine absurd (fun phase member => ?_) incomplete
    simpa using List.find?_eq_none.mp found phase member
  · obtain ⟨other, before, later, same, earlier⟩ := List.find?_eq_some_iff_append.mp found
    have given := rule.1 before phase later same (of_decide_eq_true other)
    refine ⟨phase, same ▸ List.mem_append_right before List.mem_cons_self, ?_⟩
    rw [given, if_neg]
    rintro (found | ⟨phase, member, incomplete⟩)
    · cases found
    · exact incomplete (by simpa using earlier phase member)

theorem StatusRule.of_ruleFrom {phases : List Phase} (rule : RuleFrom false phases) :
    StatusRule phases where
  first before phase later same incomplete completed := by
    rw [rule.1 before phase later same incomplete, if_neg]
    rintro (found | ⟨earlier, member, other⟩)
    · cases found
    · exact other (completed earlier member)
  others before phase later same incomplete other := by
    rw [rule.1 before phase later same incomplete, if_pos (.inr other)]
  one := rule.2

/-! ## Checklists -/

section Checklist

variable {numerals : Numerals}

theorem int_eq_ok_iff {text : Text} {number : ℕ} :
    int numerals text = .ok number ↔ text.length ≤ 4300 ∧ number = numerals.read text := by
  unfold int
  constructor
  · intro read
    split at read
    · cases read
    · next short => exact ⟨Nat.not_lt.mp short, (Except.ok.inj read).symm⟩
  · rintro ⟨short, rfl⟩
    exact if_neg (Nat.not_lt.mpr short)

variable (numerals) in
/-- A phase of the list, as its line has it. -/
def ChecklistEntry (line : Text) (phase : Phase) : Prop :=
  ∃ ticked number, PhaseLine numerals line ticked number phase.description ∧
    phase.number = numerals.read number ∧ (Complete phase ↔ ticked = true)

variable (numerals) in
/-- The phase line has a number that can be read. -/
def ReadableEntry (line : Text) : Prop :=
  ∀ ticked number description, PhaseLine numerals line ticked number description →
    number.length ≤ 4300

theorem checklistPhases_skip {found : Bool} {line : Text} (other : ¬ IsPhaseLine numerals line)
    (lines : List Text) :
    checklistPhases numerals found (line :: lines) = checklistPhases numerals found lines := by
  rw [checklistPhases]
  split
  · rfl
  · next matched => exact absurd ⟨_, _, _, phaseLine_iff.mp matched⟩ other

theorem checklistPhases_entry {found ticked : Bool} {line number description : Text}
    (entry : PhaseLine numerals line ticked number description) {lines : List Text}
    {phases : List Phase} :
    checklistPhases numerals found (line :: lines) = .ok phases ↔
      ∃ later, number.length ≤ 4300 ∧
        checklistPhases numerals (found || !ticked) lines = .ok later ∧
        phases =
          { number := numerals.read number
            description
            status := if ticked then .complete else if found then .pending else .executing } ::
          later := by
  rw [checklistPhases, phaseLine_iff.mpr entry]
  dsimp only
  constructor
  · intro parsed
    obtain ⟨_, read, parsed⟩ := PyExc.bind_eq_ok_iff.mp parsed
    obtain ⟨later, rest, parsed⟩ := PyExc.bind_eq_ok_iff.mp parsed
    obtain ⟨short, rfl⟩ := int_eq_ok_iff.mp read
    exact ⟨later, short, rest, (Except.ok.inj parsed).symm⟩
  · rintro ⟨later, short, rest, rfl⟩
    rw [int_eq_ok_iff.mpr ⟨short, rfl⟩, PyExc.ok_bind, rest]
    rfl

/-- Each phase line gives its phase. -/
theorem checklistPhases_entries {found : Bool} {lines : List Text} {phases : List Phase}
    (parsed : checklistPhases numerals found lines = .ok phases) :
    List.Forall₂ (ChecklistEntry numerals) (lines.filter (IsPhaseLine numerals ·)) phases ∧
      RuleFrom found phases := by
  induction lines generalizing found phases with
  | nil =>
      cases parsed
      exact ⟨.nil, ruleFrom_nil found⟩
  | cons line lines ih =>
      by_cases isPhase : IsPhaseLine numerals line
      · obtain ⟨ticked, number, description, entry⟩ := isPhase
        obtain ⟨later, _, rest, rfl⟩ := (checklistPhases_entry entry).mp parsed
        obtain ⟨entries, rule⟩ := ih rest
        rw [List.filter_cons_of_pos (by simpa using ⟨_, _, _, entry⟩)]
        refine ⟨.cons ⟨ticked, number, entry, rfl, ?_⟩ entries, rule.cons⟩
        cases ticked <;> cases found <;> simp [Complete]
      · rw [checklistPhases_skip isPhase] at parsed
        rw [List.filter_cons_of_neg (by simpa using isPhase)]
        exact ih parsed

theorem exists_checklistPhases_iff {found : Bool} {lines : List Text} :
    (∃ phases, checklistPhases numerals found lines = .ok phases) ↔
      ∀ line ∈ lines, ReadableEntry numerals line := by
  induction lines generalizing found with
  | nil => exact iff_of_true ⟨[], rfl⟩ (by simp)
  | cons line lines ih =>
      rw [List.forall_mem_cons]
      by_cases isPhase : IsPhaseLine numerals line
      · obtain ⟨ticked, number, description, entry⟩ := isPhase
        have readable : ReadableEntry numerals line ↔ number.length ≤ 4300 := by
          refine ⟨fun all => all _ _ _ entry, fun short _ _ _ other => ?_⟩
          have same := (phaseLine_iff.mpr entry).symm.trans (phaseLine_iff.mpr other)
          obtain ⟨-, same⟩ := Prod.mk.inj (Option.some.inj same)
          rwa [← (Prod.mk.inj same).1]
        simp only [checklistPhases_entry entry, readable]
        constructor
        · rintro ⟨_, later, short, rest, -⟩
          exact ⟨short, ih.mp ⟨later, rest⟩⟩
        · rintro ⟨short, rest⟩
          obtain ⟨later, rest⟩ := ih.mpr rest
          exact ⟨_, later, short, rest, rfl⟩
      · simp only [checklistPhases_skip isPhase]
        rw [ih]
        refine (and_iff_right fun ticked number description entry => ?_).symm
        exact absurd ⟨_, _, _, entry⟩ isPhase

end Checklist

/-! ## Headings -/

/-- The heading of a phase, and the lines up to the next one. -/
structure PhaseSection where
  heading : Text
  body : List Text

def PhaseSection.lines (part : PhaseSection) : List Text := part.heading :: part.body

/-- There are items, and all are ticked. -/
def AllTicked (body : List Text) : Prop :=
  (∃ line ∈ body, IsItem line) ∧ ∀ line ∈ body, IsItem line → IsTicked line

/-- The items among some lines, counted for a phase. -/
def HeadingPhase.readItems (phase : HeadingPhase) (body : List Text) : HeadingPhase :=
  body.foldl (fun phase line => phase.readItem line) phase

namespace HeadingPhase

variable (phase : HeadingPhase)

theorem readItem_eq (line : Text) :
    phase.readItem line =
      { phase with
        total := phase.total + if IsItem line then 1 else 0
        checked := phase.checked + if IsTicked line then 1 else 0 } := by
  unfold readItem
  rcases boxed : checkbox line with _ | ⟨ticked, rest⟩
  · have other : ¬ IsItem line := fun item => by
      rw [← checkbox_isSome_iff, boxed] at item
      cases item
    have unticked : ¬ IsTicked line := fun ticked => other ⟨true, ticked⟩
    rw [if_neg other, if_neg unticked]
    rfl
  · obtain rfl := checkbox_eq_some_iff.mp boxed
    rw [if_pos ⟨ticked, List.prefix_append _ rest⟩]
    cases ticked with
    | true =>
        rw [if_pos (show IsTicked _ from List.prefix_append _ rest)]
        rfl
    | false =>
        rw [if_neg (show ¬ IsTicked (box false ++ rest) by simp [IsTicked, box])]
        rfl

theorem readItems_eq (body : List Text) :
    phase.readItems body =
      { phase with
        total := phase.total + body.countP (IsItem ·)
        checked := phase.checked + body.countP (IsTicked ·) } := by
  unfold readItems
  induction body generalizing phase with
  | nil => rfl
  | cons line body ih =>
      rw [List.foldl_cons, ih, readItem_eq, List.countP_cons, List.countP_cons]
      simp only [decide_eq_true_eq]
      congr 1 <;> omega

end HeadingPhase

theorem countP_isTicked_le (body : List Text) :
    body.countP (IsTicked ·) ≤ body.countP (IsItem ·) :=
  List.countP_mono_left fun _ _ ticked =>
    decide_eq_true ⟨true, of_decide_eq_true ticked⟩

theorem countP_isTicked_eq_iff {body : List Text} :
    body.countP (IsTicked ·) = body.countP (IsItem ·) ↔
      ∀ line ∈ body, IsItem line → IsTicked line := by
  induction body with
  | nil => exact iff_of_true rfl (by simp)
  | cons line body ih =>
      have most := countP_isTicked_le body
      rw [List.forall_mem_cons, ← ih, List.countP_cons, List.countP_cons]
      simp only [decide_eq_true_eq]
      by_cases ticked : IsTicked line
      · rw [if_pos ticked, if_pos ⟨true, ticked⟩]
        simp [ticked]
      · by_cases item : IsItem line
        · rw [if_neg ticked, if_pos item]
          refine iff_of_false ?_ fun all => ticked (all.1 item)
          omega
        · rw [if_neg ticked, if_neg item]
          simp [item]

/-- A phase that has just been read is done when its items are ticked. -/
theorem HeadingPhase.done_iff (number : ℕ) (description : Text) (body : List Text) :
    (({ number, description } : HeadingPhase).readItems body).done = true ↔ AllTicked body := by
  rw [readItems_eq]
  simp only [done, Nat.zero_add, Bool.and_eq_true, decide_eq_true_eq, List.countP_pos_iff,
    countP_isTicked_eq_iff]
  rfl

theorem assignStatuses_ruleFrom (found : Bool) (phases : List HeadingPhase) :
    RuleFrom found (assignStatuses found phases) := by
  induction phases generalizing found with
  | nil => exact ruleFrom_nil found
  | cons phase rest ih => exact (ih _).cons

/-- The phases of a roadmap: none is known, or the rule gives their statuses. -/
theorem parseRoadmap_rule {numerals : Numerals} {roadmap : Option Text} {phases : List Phase}
    (parsed : parseRoadmap numerals roadmap = .ok phases) :
    phases = unknownPhases ∨ phases ≠ [] ∧ RuleFrom false phases := by
  cases roadmap with
  | none => exact .inl (Except.ok.inj parsed).symm
  | some content =>
      obtain ⟨checklist, read, parsed⟩ := PyExc.bind_eq_ok_iff.mp parsed
      split at parsed
      · next inhabited =>
          cases Except.ok.inj parsed
          exact .inr ⟨inhabited, (checklistPhases_entries read).2⟩
      · obtain ⟨headings, _, parsed⟩ := PyExc.bind_eq_ok_iff.mp parsed
        cases Except.ok.inj parsed
        split
        · exact .inl rfl
        · next inhabited => exact .inr ⟨inhabited, assignStatuses_ruleFrom false headings⟩

section Headings

variable {decimals : Decimals}

variable (decimals) in
/-- A phase of the list, as its section has it. -/
def HeadingEntry (part : PhaseSection) (phase : Phase) : Prop :=
  ∃ number, HeadingLine decimals.toNumerals part.heading number phase.description ∧
    phase.number = decimals.read number ∧ (Complete phase ↔ AllTicked part.body)

variable (decimals) in
/-- The lines in sections, behind those above the first heading. -/
structure Sectioned (lines preamble : List Text) (parts : List PhaseSection) : Prop where
  lines_eq : lines = preamble ++ parts.flatMap PhaseSection.lines
  preamble_plain : ∀ line ∈ preamble, ¬ IsHeading decimals.toNumerals line
  body_plain : ∀ part ∈ parts, ∀ line ∈ part.body, ¬ IsHeading decimals.toNumerals line

variable (decimals) in
def ReadableHeading (line : Text) : Prop :=
  ∀ number description, HeadingLine decimals.toNumerals line number description →
    number.length ≤ 4300

variable (decimals) in
/-- A phase as it is counted from its section. -/
def Counted (part : PhaseSection) (phase : HeadingPhase) : Prop :=
  ∃ number description, HeadingLine decimals.toNumerals part.heading number description ∧
    phase = ({ number := decimals.read number, description } : HeadingPhase).readItems part.body

theorem headingPhases_body {line : Text} (other : ¬ IsHeading decimals.toNumerals line)
    (current : Option HeadingPhase) (lines : List Text) :
    headingPhases decimals.toNumerals current (line :: lines) =
      headingPhases decimals.toNumerals (current.map (HeadingPhase.readItem line)) lines := by
  rw [headingPhases]
  split
  · next matched => exact absurd ⟨_, _, headingMatch_eq_some_iff.mp matched⟩ other
  · rfl

theorem headingPhases_heading {line number description : Text}
    (heading : HeadingLine decimals.toNumerals line number description)
    {current : Option HeadingPhase} {lines : List Text} {phases : List HeadingPhase} :
    headingPhases decimals.toNumerals current (line :: lines) = .ok phases ↔
      ∃ later, number.length ≤ 4300 ∧
        headingPhases decimals.toNumerals
          (some { number := decimals.read number, description }) lines = .ok later ∧
        phases = current.toList ++ later := by
  rw [headingPhases, headingMatch_eq_some_iff.mpr heading]
  dsimp only
  constructor
  · intro parsed
    obtain ⟨_, read, parsed⟩ := PyExc.bind_eq_ok_iff.mp parsed
    obtain ⟨short, rfl⟩ := int_eq_ok_iff.mp read
    obtain ⟨later, rest, parsed⟩ := PyExc.bind_eq_ok_iff.mp parsed
    exact ⟨later, short, rest, (Except.ok.inj parsed).symm⟩
  · rintro ⟨later, short, rest, rfl⟩
    rw [int_eq_ok_iff.mpr ⟨short, rfl⟩, PyExc.ok_bind, rest]
    rfl

/-- The phases read from a line on: the one read last goes on up to the next heading. -/
theorem headingPhases_counted {current : Option HeadingPhase} {lines : List Text}
    {phases : List HeadingPhase}
    (parsed : headingPhases decimals.toNumerals current lines = .ok phases) :
    ∃ preamble parts later, Sectioned decimals lines preamble parts ∧
      phases = (current.map (HeadingPhase.readItems · preamble)).toList ++ later ∧
      List.Forall₂ (Counted decimals) parts later := by
  induction lines generalizing current phases with
  | nil =>
      rw [← Except.ok.inj parsed]
      refine ⟨[], [], [], ⟨rfl, by simp, by simp⟩, ?_, .nil⟩
      cases current <;> rfl
  | cons line lines ih =>
      by_cases isHeading : IsHeading decimals.toNumerals line
      · obtain ⟨number, description, heading⟩ := isHeading
        obtain ⟨phases, _, rest, rfl⟩ := (headingPhases_heading heading).mp parsed
        obtain ⟨body, parts, later, sectioned, rfl, counted⟩ := ih rest
        refine ⟨[], ⟨line, body⟩ :: parts, _, ⟨?_, by simp, ?_⟩, ?_,
          .cons ⟨number, description, heading, rfl⟩ counted⟩
        · rw [sectioned.lines_eq]
          rfl
        · exact List.forall_mem_cons.mpr ⟨sectioned.preamble_plain, sectioned.body_plain⟩
        · cases current <;> rfl
      · rw [headingPhases_body isHeading] at parsed
        obtain ⟨preamble, parts, later, sectioned, rfl, counted⟩ := ih parsed
        refine ⟨line :: preamble, parts, later, ⟨?_, ?_, sectioned.body_plain⟩, ?_, counted⟩
        · rw [sectioned.lines_eq]
          rfl
        · exact List.forall_mem_cons.mpr ⟨isHeading, sectioned.preamble_plain⟩
        · cases current <;> rfl

theorem exists_headingPhases_iff {current : Option HeadingPhase} {lines : List Text} :
    (∃ phases, headingPhases decimals.toNumerals current lines = .ok phases) ↔
      ∀ line ∈ lines, ReadableHeading decimals line := by
  induction lines generalizing current with
  | nil => exact iff_of_true ⟨_, rfl⟩ (by simp)
  | cons line lines ih =>
      rw [List.forall_mem_cons]
      by_cases isHeading : IsHeading decimals.toNumerals line
      · obtain ⟨number, description, heading⟩ := isHeading
        have readable : ReadableHeading decimals line ↔ number.length ≤ 4300 := by
          refine ⟨fun all => all _ _ heading, fun short _ _ other => ?_⟩
          have same := (headingMatch_eq_some_iff.mpr heading).symm.trans
            (headingMatch_eq_some_iff.mpr other)
          rwa [← (Prod.mk.inj (Option.some.inj same)).1]
        simp only [headingPhases_heading heading, readable]
        constructor
        · rintro ⟨_, later, short, rest, -⟩
          exact ⟨short, ih.mp ⟨later, rest⟩⟩
        · rintro ⟨short, rest⟩
          obtain ⟨later, rest⟩ := ih.mpr rest
          exact ⟨_, later, short, rest, rfl⟩
      · simp only [headingPhases_body isHeading]
        rw [ih]
        refine (and_iff_right fun number description heading => ?_).symm
        exact absurd ⟨_, _, heading⟩ isHeading

/-- The phases counted, with their statuses. -/
theorem assignStatuses_entries {found : Bool} {parts : List PhaseSection}
    {phases : List HeadingPhase} (counted : List.Forall₂ (Counted decimals) parts phases) :
    List.Forall₂ (HeadingEntry decimals) parts (assignStatuses found phases) := by
  induction counted generalizing found with
  | nil => exact .nil
  | cons first _ ih =>
      obtain ⟨number, description, heading, rfl⟩ := first
      rw [assignStatuses]
      refine .cons ⟨number, ?_, ?_, ?_⟩ ih
      · rw [HeadingPhase.readItems_eq]
        exact heading
      · rw [HeadingPhase.readItems_eq]
      · rw [← HeadingPhase.done_iff (decimals.read number) description]
        unfold Complete
        dsimp only
        split
        · next done => exact iff_of_true rfl done
        · next other =>
            refine iff_of_false ?_ other
            cases found <;> exact PhaseStatus.noConfusion

end Headings

/-! ## Both formats -/

section Roadmap

variable (decimals : Decimals) (content : Text)

/-- The roadmap is a checklist. -/
def IsChecklist : Prop :=
  ∃ line ∈ Text.splitlines content, IsPhaseLine decimals.toNumerals line

instance : Decidable (IsChecklist decimals content) :=
  inferInstanceAs (Decidable (∃ line ∈ Text.splitlines content, IsPhaseLine _ line))

/-- The phases are those of the roadmap: one for each phase line, or for each section if there
are no phase lines, with the status that the rule gives them. -/
structure Faithful (phases : List Phase) : Prop where
  checklist : IsChecklist decimals content →
    List.Forall₂ (ChecklistEntry decimals.toNumerals)
      ((Text.splitlines content).filter (IsPhaseLine decimals.toNumerals ·)) phases
  headings : ¬ IsChecklist decimals content →
    ∃ preamble parts, Sectioned decimals (Text.splitlines content) preamble parts ∧
      List.Forall₂ (HeadingEntry decimals) parts phases
  rule : StatusRule phases

/-- The phases of the roadmap are returned. -/
def ParsesFaithfully : Prop :=
  ∃ phases, parseRoadmap decimals.toNumerals (some content) = .ok phases ∧
    Faithful decimals content phases

/-- No number that is read has more digits than `int` takes. -/
def ReadableNumbers : Prop :=
  (∀ line ∈ Text.splitlines content, ReadableEntry decimals.toNumerals line) ∧
    (¬ IsChecklist decimals content →
      ∀ line ∈ Text.splitlines content, ReadableHeading decimals line)

variable {decimals content}

theorem checklistPhases_of_not_isChecklist (other : ¬ IsChecklist decimals content) :
    checklistPhases decimals.toNumerals false (Text.splitlines content) = .ok [] := by
  have plain : ∀ line ∈ Text.splitlines content, ¬ IsPhaseLine decimals.toNumerals line :=
    fun line member isPhase => other ⟨line, member, isPhase⟩
  generalize Text.splitlines content = lines at plain
  induction lines with
  | nil => rfl
  | cons line lines ih =>
      obtain ⟨first, rest⟩ := List.forall_mem_cons.mp plain
      rw [checklistPhases_skip first, ih rest]

/-- What is read of a checklist. -/
theorem parseRoadmap_checklist_iff (isChecklist : IsChecklist decimals content)
    {phases : List Phase} :
    parseRoadmap decimals.toNumerals (some content) = .ok phases ↔
      checklistPhases decimals.toNumerals false (Text.splitlines content) = .ok phases := by
  rw [parseRoadmap, PyExc.bind_eq_ok_iff]
  have inhabited {read : List Phase}
      (parsed : checklistPhases decimals.toNumerals false (Text.splitlines content) =
        .ok read) : read ≠ [] := by
    rintro rfl
    have none := List.forall₂_nil_right_iff.mp (checklistPhases_entries parsed).1
    obtain ⟨line, member, isPhase⟩ := isChecklist
    exact List.filter_eq_nil_iff.mp none line member (decide_eq_true isPhase)
  constructor
  · rintro ⟨read, parsed, returned⟩
    rw [if_pos (inhabited parsed)] at returned
    rw [parsed, ← Except.ok.inj returned]
  · intro parsed
    exact ⟨phases, parsed, by rw [if_pos (inhabited parsed)]; rfl⟩

/-- What is read of a roadmap with headings. -/
theorem parseRoadmap_headings_iff (other : ¬ IsChecklist decimals content)
    (headed : ∃ line ∈ Text.splitlines content, IsHeading decimals.toNumerals line)
    {phases : List Phase} :
    parseRoadmap decimals.toNumerals (some content) = .ok phases ↔
      ∃ counted, headingPhases decimals.toNumerals none (Text.splitlines content) = .ok counted ∧
        phases = assignStatuses false counted := by
  rw [parseRoadmap, checklistPhases_of_not_isChecklist other, PyExc.ok_bind, if_neg (by simp),
    PyExc.bind_eq_ok_iff]
  refine exists_congr fun counted => and_congr_right fun parsed => ?_
  have inhabited : assignStatuses false counted ≠ [] := by
    obtain ⟨preamble, parts, later, sectioned, rfl, entries⟩ := headingPhases_counted parsed
    cases entries with
    | nil =>
        obtain ⟨line, member, isHeading⟩ := headed
        rw [sectioned.lines_eq, List.flatMap_nil, List.append_nil] at member
        exact absurd isHeading (sectioned.preamble_plain line member)
    | cons first rest => exact List.cons_ne_nil _ _
  dsimp only
  rw [if_neg inhabited]
  exact ⟨fun returned => (Except.ok.inj returned).symm, fun same => congrArg Except.ok same.symm⟩

/-- **Roadmap parsing.** For a roadmap with a phase line or a heading, the phases are returned as
it has them exactly when no number that is read is too long for `int`. -/
theorem parseRoadmap_faithful_iff (decimals : Decimals) (content : Text)
    (phased : ∃ line ∈ Text.splitlines content,
      IsPhaseLine decimals.toNumerals line ∨ IsHeading decimals.toNumerals line) :
    ParsesFaithfully decimals content ↔ ReadableNumbers decimals content := by
  unfold ParsesFaithfully ReadableNumbers
  by_cases isChecklist : IsChecklist decimals content
  · rw [← @exists_checklistPhases_iff _ false, and_iff_left (absurd isChecklist)]
    refine exists_congr fun phases => ?_
    rw [parseRoadmap_checklist_iff isChecklist]
    refine and_iff_left_of_imp fun parsed => ?_
    obtain ⟨entries, rule⟩ := checklistPhases_entries parsed
    exact ⟨fun _ => entries, fun other => absurd isChecklist other, .of_ruleFrom rule⟩
  · have plain : ∀ line ∈ Text.splitlines content, ReadableEntry decimals.toNumerals line :=
      fun line member ticked number description entry =>
        absurd ⟨line, member, ticked, number, description, entry⟩ isChecklist
    have headed : ∃ line ∈ Text.splitlines content, IsHeading decimals.toNumerals line := by
      obtain ⟨line, member, isPhase | isHeading⟩ := phased
      · exact absurd ⟨line, member, isPhase⟩ isChecklist
      · exact ⟨line, member, isHeading⟩
    rw [and_iff_right plain, ← @exists_headingPhases_iff _ none,
      forall_prop_of_true isChecklist]
    simp only [parseRoadmap_headings_iff isChecklist headed]
    constructor
    · rintro ⟨_, ⟨counted, parsed, -⟩, -⟩
      exact ⟨counted, parsed⟩
    · rintro ⟨counted, parsed⟩
      obtain ⟨preamble, parts, _, sectioned, rfl, entries⟩ := headingPhases_counted parsed
      exact ⟨_, ⟨_, parsed, rfl⟩, fun listed => absurd listed isChecklist,
        fun _ => ⟨preamble, parts, sectioned, assignStatuses_entries entries⟩,
        .of_ruleFrom (assignStatuses_ruleFrom false _)⟩

/-- A phase that is complete, and one to do. -/
def twoPhases : Text := "- [x] **Phase 1: a**\n- [ ] **Phase 2: b**"

private theorem twoPhases_parsed :
    checklistPhases .plain false (Text.splitlines twoPhases) =
      .ok [⟨1, "a", .complete⟩, ⟨2, "b", .executing⟩] := by
  decide +kernel

theorem twoPhases_parsesFaithfully : ParsesFaithfully .plain twoPhases := by
  have first : IsPhaseLine .plain "- [x] **Phase 1: a**" :=
    isPhaseLine_iff.mp (by decide +kernel)
  have member : ("- [x] **Phase 1: a**" : Text) ∈ Text.splitlines twoPhases := by decide
  refine (parseRoadmap_faithful_iff .plain twoPhases ⟨_, member, .inl first⟩).mpr
    ⟨exists_checklistPhases_iff.mp ⟨_, twoPhases_parsed⟩, fun other => ?_⟩
  exact absurd ⟨_, member, first⟩ other

/-- A phase with a number of 4301 digits. -/
def longNumber : Text :=
  box false ++ " **Phase ".toList ++ List.replicate 4301 '1' ++ ": ".toList ++ "x".toList ++
    "**".toList

private theorem longNumber_phaseLine :
    PhaseLine .plain longNumber false (List.replicate 4301 '1') "x" := by
  refine ⟨[], longNumber, rfl, ⟨⟨List.cons_ne_nil _ _, fun c member => ?_⟩, List.cons_ne_nil _ _,
    List.prefix_rfl, fun shorter inhabited _ => List.length_pos_of_ne_nil inhabited⟩,
    fun _ _ _ _ => Nat.zero_le _⟩
  rw [List.eq_of_mem_replicate member]
  rfl

private theorem longNumber_splitlines : Text.splitlines longNumber = [longNumber] := by
  have solid : ∀ c ∈ longNumber, Text.isLineBreak c = false := by
    unfold longNumber
    simp only [List.forall_mem_append]
    refine ⟨⟨⟨⟨⟨?_, ?_⟩, fun c member => ?_⟩, ?_⟩, ?_⟩, ?_⟩
    case refine_3 => rw [List.eq_of_mem_replicate member]; rfl
    all_goals simp [box, Text.isLineBreak]
  have lines := Text.splitlines_line (List.cons_ne_nil _ _) solid 
    (show Text.LineOver [] from fun _ none => absurd none (by simp))
  rwa [List.append_nil] at lines

/-- A number that is too long for `int` is an error for the whole roadmap. -/
theorem long_number_raises :
    ¬ ∀ (decimals : Decimals) (content : Text),
      (∃ line ∈ Text.splitlines content,
        IsPhaseLine decimals.toNumerals line ∨ IsHeading decimals.toNumerals line) →
          ParsesFaithfully decimals content := by
  intro always
  have listed : longNumber ∈ Text.splitlines longNumber := by
    rw [longNumber_splitlines]
    exact List.mem_singleton_self _
  have isPhase : IsPhaseLine Decimals.plain.toNumerals longNumber :=
    ⟨_, _, _, longNumber_phaseLine⟩
  obtain ⟨phases, parsed, -⟩ := always .plain longNumber ⟨_, listed, .inl isPhase⟩
  rw [parseRoadmap_checklist_iff ⟨_, listed, isPhase⟩] at parsed
  have short := exists_checklistPhases_iff.mp ⟨phases, parsed⟩ _ listed _ _ _ longNumber_phaseLine
  rw [List.length_replicate] at short
  omega

end Roadmap

end Vcompany.Monitor
