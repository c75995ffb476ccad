import Vcompany.Foundation.Search
import Vcompany.Monitor.Roadmap
import Vcompany.Strategist.Ownership

/-! # The dependency check on the generated status

The dependency check looks in PROJECT-STATUS.md for markdown boxes and for words, and the
generator writes an emoji for each phase. An empty box gets into the file only with a text that
is copied there: the description of a phase or a line of a git log.
-/

namespace Vcompany.Strategist

open Foundation Models Monitor Text

/-- A check that returns and fails. -/
def Fails (check : Except PyExc CheckOutcome) : Prop := ∃ message, check = .ok (false, message)

/-- An empty box of a checklist. -/
def emptyBox : Text := ['[', ' ', ']']

def executingWord : Text := "executing"

def pendingWord : Text := "pending"

/-- A phase that is not complete. -/
def Incomplete (phase : Phase) : Prop := phase.status = .executing ∨ phase.status = .pending

/-! ## The phases of a roadmap -/

section Roadmap

variable {numerals : Numerals}

/-- If no phase before is incomplete, the first incomplete one is executing. -/
def FirstExecuting (found : Bool) (phases : List Phase) : Prop :=
  (∀ phase ∈ phases, phase.status ≠ .unknown) ∧
    (found = false → (∃ phase ∈ phases, Incomplete phase) →
      ∃ phase ∈ phases, phase.status = .executing)

/-- The phases of a roadmap: none is known, or the first incomplete one is executing. -/
theorem parseRoadmap_phases {roadmap : Option Text} {phases : List Phase}
    (parsed : parseRoadmap numerals roadmap = .ok phases) :
    phases = unknownPhases ∨ FirstExecuting false phases := by
  rcases parseRoadmap_rule parsed with unknown | ⟨_, rule⟩
  · exact .inl unknown
  · refine .inr ⟨fun phase member => rule.known member, ?_⟩
    rintro - ⟨phase, member, incomplete⟩
    refine rule.exists_executing fun complete => ?_
    have status : phase.status = .complete := complete phase member
    rcases incomplete with same | same <;> cases status.symm.trans same

theorem exists_executing_iff {roadmap : Option Text} {phases : List Phase}
    (parsed : parseRoadmap numerals roadmap = .ok phases) :
    (∃ phase ∈ phases, phase.status = .executing) ↔ ∃ phase ∈ phases, Incomplete phase := by
  refine ⟨fun ⟨phase, member, executing⟩ => ⟨phase, member, .inl executing⟩, fun incomplete => ?_⟩
  rcases parseRoadmap_phases parsed with rfl | first
  · obtain ⟨phase, member, status⟩ := incomplete
    rw [List.mem_singleton.mp member] at status
    rcases status with same | same <;> cases same
  · exact first.2 rfl incomplete

end Roadmap

/-! ## The phase in the header -/

theorem currentPhase_ne_pending {current : ℕ × PhaseStatus} (known : current.2 ≠ .pending)
    (phases : List Phase) : (currentPhase current phases).2 ≠ .pending := by
  induction phases generalizing current with
  | nil => exact known
  | cons phase rest ih =>
      unfold currentPhase
      split
      · exact PhaseStatus.noConfusion
      · exact ih PhaseStatus.noConfusion
      · exact ih known
      · exact ih known

theorem currentPhase_executing_iff {current : ℕ × PhaseStatus} (other : current.2 ≠ .executing)
    (phases : List Phase) :
    (currentPhase current phases).2 = .executing ↔ ∃ phase ∈ phases, phase.status = .executing := by
  induction phases generalizing current with
  | nil => simpa [currentPhase] using other
  | cons phase rest ih =>
      unfold currentPhase
      split
      · next executing => exact iff_of_true rfl ⟨phase, List.mem_cons_self, executing⟩
      · next complete => rw [ih PhaseStatus.noConfusion]; simp [complete]
      · next pending => rw [ih other]; simp [pending]
      · next unknown => rw [ih other]; simp [unknown]

theorem phaseTotal_pos_of_executing {phases : List Phase}
    (known : phases = unknownPhases ∨ FirstExecuting false phases)
    (executing : ∃ phase ∈ phases, phase.status = .executing) : 0 < phaseTotal phases := by
  obtain ⟨phase, member, status⟩ := executing
  rcases known with rfl | ⟨noUnknown, _⟩
  · rw [List.mem_singleton.mp member] at status
    cases status
  · cases phases with
    | nil => cases member
    | cons first rest =>
        rw [phaseTotal, if_neg (noUnknown first List.mem_cons_self)]
        exact Nat.succ_pos _

/-! ## What each line mentions -/

/-- Parts of the lines of a status that the generator writes by itself. -/
def fixedParts : List Text :=
  ["##", "(NOT", "RUNNING", "—", "Phase", "(Phase", "(status", "unknown)", "-",
    "**Recent activity:**", "# Project Status — auto-generated by vco, do not edit",
    "## Key Dependencies", "- (none detected yet)", "## Notes", "- (no notes)"]

/-- A word that the generator writes in the header of an agent at most. -/
structure StatusWord (needle : Text) : Prop where
  solid : ∀ c ∈ needle, isSpace c = false
  noColon : ':' ∉ needle
  letter : 'n' ∈ needle
  fixed : ∀ part ∈ fixedParts, ¬ Mentions needle part

private theorem forall_mem_of_all {text : Text} {refused : Char → Bool}
    (none : (text.all fun c => !refused c) = true) : ∀ c ∈ text, refused c = false := by
  simpa using none

theorem executingWord_statusWord : StatusWord executingWord :=
  ⟨forall_mem_of_all (by decide), by decide, by decide, by decide +kernel⟩

theorem pendingWord_statusWord : StatusWord pendingWord :=
  ⟨forall_mem_of_all (by decide), by decide, by decide, by decide +kernel⟩

theorem StatusWord.inhabited {needle : Text} (word : StatusWord needle) : needle ≠ [] :=
  List.ne_nil_of_mem word.letter

theorem StatusWord.noSpace {needle : Text} (word : StatusWord needle) : ' ' ∉ needle :=
  fun member => Bool.false_ne_true ((word.solid ' ' member).symm.trans (by decide))

/-- A bracket is the lower case of no other character. -/
theorem bracket_mem_fold_iff {text : Text} : '[' ∈ fold text ↔ '[' ∈ text := by
  have only (c : Char) : '[' ∈ (asciiLower c).getD [c] ↔ c = '[' := by
    by_cases low : c.toNat < 128
    · have all : ∀ code < 128, '[' ∈ (asciiLower (Char.ofNat code)).getD [Char.ofNat code] ↔
          Char.ofNat code = '[' := by decide
      have found := all c.toNat low
      rwa [c.ofNat_toNat] at found
    · have other : c ≠ '[' := by
        rintro rfl
        exact low (by decide)
      unfold asciiLower
      rw [if_neg low]
      split_ifs <;> simp [other, other.symm]
  rw [mem_fold_iff]
  simp only [only, exists_eq_right]

/-- A digit is neither a letter nor a bracket. -/
private theorem digit_lacks {c : Char} (digit : c.isDigit = true) :
    'n' ∉ (asciiLower c).getD [c] ∧ c ≠ '[' := by
  have bounds := (Bool.and_eq_true _ _).mp digit
  have low : 48 ≤ c.toNat := UInt32.le_iff_toNat_le.mp (of_decide_eq_true bounds.1)
  have high : c.toNat < 58 :=
    Nat.lt_succ_of_le (UInt32.le_iff_toNat_le.mp (of_decide_eq_true bounds.2))
  have all : ∀ code < 58, 48 ≤ code →
      'n' ∉ (asciiLower (Char.ofNat code)).getD [Char.ofNat code] ∧ Char.ofNat code ≠ '[' := by
    decide
  have found := all c.toNat high low
  rwa [c.ofNat_toNat] at found

private theorem lacks_of_characters {text : Text}
    (characters : ∀ c ∈ text, 'n' ∉ (asciiLower c).getD [c] ∧ c ≠ '[') :
    'n' ∉ fold text ∧ '[' ∉ fold text := by
  constructor
  · intro found
    obtain ⟨c, member, same⟩ := mem_fold_iff.mp found
    exact (characters c member).1 same
  · intro found
    exact (characters _ (bracket_mem_fold_iff.mp found)).2 rfl

private theorem toDigits_lacks (number : ℕ) :
    'n' ∉ fold (Nat.toDigits 10 number) ∧ '[' ∉ fold (Nat.toDigits 10 number) :=
  lacks_of_characters fun _ member =>
    digit_lacks (Nat.isDigit_of_mem_toDigits (by decide) (by decide) member)

private theorem stamp_lacks (now : Timestamp) :
    'n' ∉ fold ("# Last updated: ".toList ++ now.text ++ " UTC".toList) ∧
      '[' ∉ fold ("# Last updated: ".toList ++ now.text ++ " UTC".toList) := by
  have time : 'n' ∉ fold now.text ∧ '[' ∉ fold now.text := by
    apply lacks_of_characters
    intro c member
    rcases now.characters c member with digit | rfl | rfl | rfl
    · exact digit_lacks digit
    · decide
    · decide
    · decide
  simp only [fold_append, List.mem_append, not_or]
  exact ⟨⟨⟨by decide, time.1⟩, by decide⟩, ⟨by decide, time.2⟩, by decide⟩

section Lines

variable {needle : Text}

theorem mentions_phaseLine_iff (word : StatusWord needle) (phase : Phase) :
    Mentions needle (phaseLine phase) ↔ Mentions needle phase.description := by
  have shape : phaseLine phase = "-".toList ++ ' ' :: (phase.status.emoji ++ ' ' ::
      ("Phase".toList ++ ' ' :: (Nat.toDigits 10 phase.number ++ ':' :: ' ' ::
        phase.description))) := by simp [phaseLine]
  have dash := word.fixed "-" (by decide)
  have label := word.fixed "Phase" (by decide)
  have emoji : ¬ Mentions needle phase.status.emoji :=
    not_mentions_of_lacks word.letter (by cases phase.status <;> decide)
  have number := not_mentions_of_lacks word.letter (toDigits_lacks phase.number).1
  rw [shape, mentions_append_cons_iff word.noSpace (by decide), or_iff_right dash,
    mentions_append_cons_iff word.noSpace (by decide), or_iff_right emoji,
    mentions_append_cons_iff word.noSpace (by decide), or_iff_right label,
    mentions_append_cons_iff word.noColon (by decide), or_iff_right number,
    mentions_cons_iff word.inhabited word.noSpace (by decide)]

theorem box_phaseLine_iff (phase : Phase) :
    Mentions emptyBox (phaseLine phase) ↔ Mentions emptyBox phase.description := by
  have number := mt bracket_mem_fold_iff.mpr (toDigits_lacks phase.number).2
  have emoji : '[' ∉ phase.status.emoji := by cases phase.status <;> decide
  apply mentions_append_of_lacks
  rw [bracket_mem_fold_iff]
  simp [number, emoji]

/-- The header of an agent mentions a word when the id does, or the status of its phase. -/
theorem mentions_sectionHeader_iff (word : StatusWord needle) (agentIdUpper : Text)
    (isAlive : Bool) (phases : List Phase) :
    Mentions needle (sectionHeader agentIdUpper isAlive phases) ↔
      Mentions needle agentIdUpper ∨ isAlive = true ∧ 0 < phaseTotal phases ∧
        Mentions needle ((currentPhase (0, .unknown) phases).2.text ++ [')']) := by
  have separate {before rest : Text} := @mentions_append_cons_iff needle before rest ' '
    word.noSpace (by decide)
  have without {part rest : Text} (member : part ∈ fixedParts) :
      Mentions needle (part ++ ' ' :: rest) ↔ Mentions needle rest :=
    separate.trans (or_iff_right (word.fixed part member))
  have counted (current total : ℕ) (tail : Text) (lacks : 'n' ∉ fold tail) :
      ¬ Mentions needle (Nat.toDigits 10 current ++ '/' :: (Nat.toDigits 10 total ++ tail)) := by
    have slash : 'n' ∉ (asciiLower '/').getD ['/'] := by decide
    apply not_mentions_of_lacks word.letter
    simp only [fold_append, fold_cons, List.mem_append, not_or]
    exact ⟨(toDigits_lacks current).1, slash, (toDigits_lacks total).1, lacks⟩
  unfold sectionHeader
  dsimp only
  generalize currentPhase (0, .unknown) phases = current
  generalize phaseTotal phases = total
  rcases isAlive with _ | _
  · have shape : "## ".toList ++ agentIdUpper ++ " (NOT RUNNING — Phase ".toList ++
          (Nat.toDigits 10 current.1 ++ "/".toList ++ Nat.toDigits 10 total) ++ ")".toList =
        "##".toList ++ ' ' :: (agentIdUpper ++ ' ' :: ("(NOT".toList ++ ' ' ::
          ("RUNNING".toList ++ ' ' :: ("—".toList ++ ' ' :: ("Phase".toList ++ ' ' ::
            (Nat.toDigits 10 current.1 ++ '/' :: (Nat.toDigits 10 total ++ [')']))))))) := by
      simp
    rw [if_pos (by decide), shape, without (by decide), separate, without (by decide),
      without (by decide), without (by decide), without (by decide),
      or_iff_left (counted current.1 total [')'] (by decide))]
    simp
  · rw [if_neg (by decide)]
    split
    · next positive =>
        have shape : "## ".toList ++ agentIdUpper ++ " (Phase ".toList ++
              (Nat.toDigits 10 current.1 ++ "/".toList ++ Nat.toDigits 10 total) ++
              " — ".toList ++ current.2.text ++ ")".toList =
            "##".toList ++ ' ' :: (agentIdUpper ++ ' ' :: ("(Phase".toList ++ ' ' ::
              ((Nat.toDigits 10 current.1 ++ '/' :: (Nat.toDigits 10 total ++ [])) ++ ' ' ::
                ("—".toList ++ ' ' :: (current.2.text ++ [')']))))) := by
          simp
        rw [shape, without (by decide), separate, without (by decide), separate,
          or_iff_right (counted current.1 total [] (by decide)), without (by decide)]
        simp [positive]
    · next zero =>
        have shape : "## ".toList ++ agentIdUpper ++ " (status unknown)".toList =
            "##".toList ++ ' ' :: (agentIdUpper ++ ' ' :: ("(status".toList ++ ' ' ::
              "unknown)".toList)) := by
          simp
        rw [shape, without (by decide), separate, without (by decide),
          or_iff_left (word.fixed "unknown)" (by decide))]
        simp [zero]

theorem box_sectionHeader {agentIdUpper : Text} (lacks : '[' ∉ agentIdUpper) (isAlive : Bool)
    (phases : List Phase) : ¬ Mentions emptyBox (sectionHeader agentIdUpper isAlive phases) := by
  have number (number : ℕ) := mt bracket_mem_fold_iff.mpr (toDigits_lacks number).2
  have status (status : PhaseStatus) : '[' ∉ status.text := by cases status <;> decide
  apply not_mentions_of_lacks (c := '[') (by decide)
  rw [bracket_mem_fold_iff]
  unfold sectionHeader
  dsimp only
  split
  · simp only [List.mem_append, not_or]
    exact ⟨⟨⟨⟨by decide, lacks⟩, by decide⟩, ⟨number _, by decide⟩, number _⟩, by decide⟩
  · split
    · simp only [List.mem_append, not_or]
      exact ⟨⟨⟨⟨⟨⟨by decide, lacks⟩, by decide⟩, ⟨number _, by decide⟩, number _⟩, by decide⟩,
        status _⟩, by decide⟩
    · simp only [List.mem_append, not_or]
      exact ⟨⟨by decide, lacks⟩, by decide⟩

/-- The indented lines of a log mention what the log does. -/
theorem exists_activityLine_iff (inhabited : needle ≠ [])
    (absent : ∀ c ∈ needle, isLineBreak c = false)
    (indented : ∀ line, Mentions needle ("  ".toList ++ line) ↔ Mentions needle line)
    (activity : Text) :
    (∃ line ∈ (splitlines activity).map ("  ".toList ++ ·), Mentions needle line) ↔
      Mentions needle activity := by
  rw [← mentions_splitlines_iff inhabited absent activity]
  simp only [List.mem_map, exists_exists_and_eq_and, indented]

/-- A text that the generator copies for an agent mentions the needle. -/
def CopiedMention (needle : Text) (clone : AgentClone) (phases : List Phase) : Prop :=
  (∃ phase ∈ phases, Mentions needle phase.description) ∨
    Mentions needle (getAgentActivity clone.log)

instance (needle : Text) (clone : AgentClone) (phases : List Phase) :
    Decidable (CopiedMention needle clone phases) :=
  inferInstanceAs (Decidable (_ ∨ _))

variable {uppercase : Uppercase} {agentId : Text} {clone : AgentClone} {phases : List Phase}

private theorem exists_agentSection_iff (holds : Text → Prop) (empty : ¬ holds [])
    (label : ¬ holds "**Recent activity:**".toList) :
    (∃ line ∈ agentSection uppercase agentId clone phases, holds line) ↔
      holds (sectionHeader (uppercase.upper agentId) clone.isAlive phases) ∨
        (∃ phase ∈ phases, holds (phaseLine phase)) ∨
        ∃ line ∈ (splitlines (getAgentActivity clone.log)).map ("  ".toList ++ ·),
          holds line := by
  unfold agentSection
  simp only [List.mem_append, or_and_right, exists_or, List.mem_cons, List.not_mem_nil,
    or_false, exists_eq_left, List.mem_map, exists_exists_and_eq_and]
  have blank : ¬ holds "".toList := empty
  rw [or_iff_left blank, or_iff_left (not_or_intro blank label), or_assoc]

theorem exists_agentSection_word_iff (word : StatusWord needle) :
    (∃ line ∈ agentSection uppercase agentId clone phases, Mentions needle line) ↔
      Mentions needle (uppercase.upper agentId) ∨
        (clone.isAlive = true ∧ 0 < phaseTotal phases ∧
          Mentions needle ((currentPhase (0, .unknown) phases).2.text ++ [')'])) ∨
        CopiedMention needle clone phases := by
  have solid : ∀ c ∈ needle, isLineBreak c = false := fun c member => by
    have notSpace := word.solid c member
    rw [← Bool.not_eq_true] at notSpace ⊢
    exact mt (isSpace_of_isLineBreak c) notSpace
  have indented (line : Text) : Mentions needle ("  ".toList ++ line) ↔ Mentions needle line :=
    (mentions_cons_iff word.inhabited word.noSpace (by decide)).trans
      (mentions_cons_iff word.inhabited word.noSpace (by decide))
  rw [exists_agentSection_iff _ (mentions_nil word.inhabited)
      (word.fixed "**Recent activity:**" (by decide)),
    mentions_sectionHeader_iff word, exists_activityLine_iff word.inhabited solid indented,
    or_assoc]
  simp only [mentions_phaseLine_iff word, CopiedMention]

theorem exists_agentSection_box_iff (lacks : '[' ∉ uppercase.upper agentId) :
    (∃ line ∈ agentSection uppercase agentId clone phases, Mentions emptyBox line) ↔
      CopiedMention emptyBox clone phases := by
  have indented (line : Text) :
      Mentions emptyBox ("  ".toList ++ line) ↔ Mentions emptyBox line :=
    mentions_append_of_lacks (by decide) line
  rw [exists_agentSection_iff _ (mentions_nil (by decide)) (by decide),
    or_iff_right (box_sectionHeader lacks clone.isAlive phases),
    exists_activityLine_iff (by decide) (forall_mem_of_all (by decide)) indented]
  simp only [box_phaseLine_iff, CopiedMention]

end Lines

/-! ## The whole status -/

section Status

variable {alphabet : Text.Alphabet} {numerals : Numerals} {uppercase : Uppercase}
  {clones : Text → AgentClone} {now : Timestamp} {config : ProjectConfig alphabet} {status : Text}

/-- Some agent of the project has phases, read from its roadmap, and a property with them. -/
def SomeAgent (numerals : Numerals) (clones : Text → AgentClone) (config : ProjectConfig alphabet)
    (holds : Text → AgentClone → List Phase → Prop) : Prop :=
  ∃ agent ∈ config.agents, ∃ phases,
    parseRoadmap numerals (clones agent.id).roadmap = .ok phases ∧
      holds agent.id (clones agent.id) phases

private theorem exists_agentSections_iff {agents : List AgentConfig} {lines : List Text}
    (read : agentSections numerals uppercase clones agents = .ok lines) (holds : Text → Prop) :
    (∃ line ∈ lines, holds line) ↔ ∃ agent ∈ agents, ∃ phases,
      parseRoadmap numerals (clones agent.id).roadmap = .ok phases ∧
        ∃ line ∈ agentSection uppercase agent.id (clones agent.id) phases, holds line := by
  induction agents generalizing lines with
  | nil =>
      cases read
      simp
  | cons agent rest ih =>
      obtain ⟨phases, parsed, read⟩ := PyExc.bind_eq_ok_iff.mp read
      obtain ⟨later, readLater, read⟩ := PyExc.bind_eq_ok_iff.mp read
      cases Except.ok.inj read
      simp only [List.mem_append, or_and_right, exists_or, ih readLater, List.mem_cons,
        exists_eq_left, parsed, Except.ok.injEq, exists_eq_left']

/-- A needle that the lines around the sections lack is found in the sections. -/
theorem mentions_status_iff {needle : Text}
    (generated : generateProjectStatus numerals uppercase clones now config = .ok status)
    (inhabited : needle ≠ []) (absent : '\n' ∉ needle)
    (head : ∀ line ∈ statusHead now, ¬ Mentions needle line)
    (tail : ∀ line ∈ statusTail, ¬ Mentions needle line) :
    Mentions needle status ↔ SomeAgent numerals clones config fun agentId clone phases =>
      ∃ line ∈ agentSection uppercase agentId clone phases, Mentions needle line := by
  obtain ⟨lines, read, joined⟩ := PyExc.bind_eq_ok_iff.mp generated
  cases Except.ok.inj joined
  have parts : Mentions needle (List.intercalate "\n".toList
      (statusHead now ++ lines ++ statusTail)) ↔ ∃ line ∈ lines, Mentions needle line := by
    rw [show "\n".toList = ['\n'] from rfl, mentions_lines_iff inhabited absent]
    constructor
    · rintro ⟨line, member, mentioned⟩
      rcases List.mem_append.mp member with member | below
      · rcases List.mem_append.mp member with above | member
        · exact absurd mentioned (head line above)
        · exact ⟨line, member, mentioned⟩
      · exact absurd mentioned (tail line below)
    · rintro ⟨line, member, mentioned⟩
      exact ⟨line, List.mem_append_left _ (List.mem_append_right _ member), mentioned⟩
  rw [parts, exists_agentSections_iff read]
  rfl

private theorem statusTail_lacks {needle : Text} (inhabited : needle ≠ [])
    (fixed : ∀ part ∈ fixedParts, ¬ Mentions needle part) :
    ∀ line ∈ statusTail, ¬ Mentions needle line := by
  intro line member
  have cases : line = [] ∨ line ∈ fixedParts := by
    revert line
    decide
  rcases cases with rfl | part
  · exact mentions_nil inhabited
  · exact fixed line part

/-- Where a generated status has a word: in an id, in the header of an agent alive, or in a
text that is copied. -/
theorem word_status_iff {needle : Text}
    (generated : generateProjectStatus numerals uppercase clones now config = .ok status)
    (word : StatusWord needle) :
    Mentions needle status ↔ SomeAgent numerals clones config fun agentId clone phases =>
      Mentions needle (uppercase.upper agentId) ∨
        (clone.isAlive = true ∧ 0 < phaseTotal phases ∧
          Mentions needle ((currentPhase (0, .unknown) phases).2.text ++ [')'])) ∨
        CopiedMention needle clone phases := by
  have noBreak : '\n' ∉ needle :=
    fun member => Bool.false_ne_true ((word.solid '\n' member).symm.trans (by decide))
  have head : ∀ line ∈ statusHead now, ¬ Mentions needle line := by
    intro line member
    rcases List.mem_cons.mp member with rfl | member
    · exact word.fixed _ (by decide)
    rcases List.mem_cons.mp member with rfl | member
    · exact not_mentions_of_lacks word.letter (stamp_lacks now).1
    · rw [List.mem_singleton.mp member]
      exact mentions_nil word.inhabited
  rw [mentions_status_iff generated word.inhabited noBreak head
    (statusTail_lacks word.inhabited word.fixed)]
  simp only [exists_agentSection_word_iff word]

/-- An id that the validators accept has no bracket in upper case. -/
theorem upper_lacks_bracket (uppercase : Uppercase) {agent : AgentConfig}
    (member : agent ∈ config.agents) : '[' ∉ uppercase.upper agent.id := by
  intro found
  obtain ⟨c, inId, found⟩ := List.mem_flatMap.mp found
  split at found
  · next low =>
      have all : ∀ code < 128, (Char.ofNat code).isAlphanum = true ∨ Char.ofNat code = '-' ∨
          Char.ofNat code = '_' → (Char.ofNat code).toUpper ≠ '[' := by decide
      have other := all c.toNat low
      rw [c.ofNat_toNat] at other
      refine other ?_ (List.mem_singleton.mp found).symm
      rw [← alphabet.isAlnum_ascii c low]
      exact alnum_of_accepted (config.id_accepted member) c inId
  · exact Bool.false_ne_true (uppercase.other_ascii c '[' found (by decide))

/-- Where a generated status has an empty box: in a text that is copied. -/
theorem box_status_iff
    (generated : generateProjectStatus numerals uppercase clones now config = .ok status) :
    Mentions emptyBox status ↔ SomeAgent numerals clones config fun _ clone phases =>
      CopiedMention emptyBox clone phases := by
  have head : ∀ line ∈ statusHead now, ¬ Mentions emptyBox line := by
    intro line member
    rcases List.mem_cons.mp member with rfl | member
    · decide +kernel
    rcases List.mem_cons.mp member with rfl | member
    · exact not_mentions_of_lacks (by decide) (stamp_lacks now).2
    · rw [List.mem_singleton.mp member]
      exact mentions_nil (by decide)
  rw [mentions_status_iff generated (by decide) (by decide) head
    (statusTail_lacks (by decide) (by decide +kernel))]
  unfold SomeAgent
  refine exists_congr fun agent => and_congr_right fun member => exists_congr fun phases => ?_
  exact and_congr_right fun _ =>
    exists_agentSection_box_iff (upper_lacks_bracket uppercase member)

/-! ## The check on a generated status -/

/-- The dependencies are strings, so that the check can list them. -/
def Joinable (dependsOn : PyValue) : Prop :=
  ∃ joined, dependsOn.iter >>= PyValue.join ", " = .ok joined

/-- A plan with dependencies and without stubs fails the check exactly when the status has an
empty box and one of the words, and the dependencies can be listed. -/
theorem fails_dependencyCheck_iff {py : PyRuntime} {self : PlanReviewer} {plan : Text}
    {frontmatter dependsOn : PyValue} (held : self.projectStatus = some (.ok status))
    (extracted : extractFrontmatter py plan = .ok frontmatter)
    (gotten : frontmatter.get "depends_on" (.list []) = .ok dependsOn)
    (depends : dependsOn.truthy = true)
    (noStub : ∀ keyword ∈ stubKeywords, ¬ keyword <:+: lower py.casing plan) :
    Fails (dependencyCheck py self plan) ↔
      Mentions emptyBox status ∧ (Mentions executingWord status ∨ Mentions pendingWord status) ∧
        Joinable dependsOn := by
  have boxInStatus : ("[ ]" : Text) <:+: lower py.casing status ↔ Mentions emptyBox status :=
    @infix_lower_iff py.casing emptyBox (by decide) (by decide) status
  have executingInStatus :
      ("executing" : Text) <:+: lower py.casing status ↔ Mentions executingWord status :=
    infix_lower_iff py.casing (by decide) (by decide) status
  have pendingInStatus :
      ("pending" : Text) <:+: lower py.casing status ↔ Mentions pendingWord status :=
    infix_lower_iff py.casing (by decide) (by decide) status
  have noKeyword : (stubKeywords.any fun keyword =>
      decide (keyword <:+: lower py.casing plan)) = false := by
    simpa using noStub
  unfold dependencyCheck Fails
  rw [extracted, PyExc.ok_bind, gotten, PyExc.ok_bind, held]
  simp only [depends, Bool.not_true, Bool.false_eq_true, if_false, PyExc.ok_bind, noKeyword,
    boxInStatus, executingInStatus, pendingInStatus, Bool.and_eq_true, Bool.not_eq_true',
    decide_eq_true_eq, decide_eq_false_iff_not]
  by_cases incomplete : Mentions emptyBox status ∧
      (Mentions executingWord status ∨ Mentions pendingWord status)
  · rw [if_neg fun ready => ready.2 incomplete, if_pos incomplete, ← and_assoc,
      and_iff_right incomplete]
    unfold Joinable
    constructor
    · rintro ⟨message, failed⟩
      obtain ⟨items, iterated, failed⟩ := PyExc.bind_eq_ok_iff.mp failed
      obtain ⟨joined, returned, _⟩ := PyExc.bind_eq_ok_iff.mp failed
      exact ⟨joined, PyExc.bind_eq_ok_iff.mpr ⟨items, iterated, returned⟩⟩
    · rintro ⟨joined, returned⟩
      obtain ⟨items, iterated, returned⟩ := PyExc.bind_eq_ok_iff.mp returned
      exact ⟨_, PyExc.bind_eq_ok_iff.mpr ⟨items, iterated,
        PyExc.bind_eq_ok_iff.mpr ⟨joined, returned, rfl⟩⟩⟩
  · have passes {message : Text} {ready : Prop} [Decidable ready] :
        ¬ ∃ note, (if ready then (pure (true, "Dependencies ready".toList) :
          Except PyExc CheckOutcome) else pure (true, message)) = .ok (false, note) := by
      rintro ⟨note, failed⟩
      split at failed <;> cases Except.ok.inj failed
    rw [if_neg incomplete]
    exact iff_of_false passes fun met => incomplete ⟨met.1, met.2.1⟩

/-- Some phase of the project is not complete. -/
def SomeIncomplete (numerals : Numerals) (clones : Text → AgentClone)
    (config : ProjectConfig alphabet) : Prop :=
  SomeAgent numerals clones config fun _ _ phases => ∃ phase ∈ phases, Incomplete phase

/-- A text that the generator copies has an empty box. -/
def CopiesBox (numerals : Numerals) (clones : Text → AgentClone)
    (config : ProjectConfig alphabet) : Prop :=
  SomeAgent numerals clones config fun _ => CopiedMention emptyBox

/-- An agent with an incomplete phase is alive, or an id or a text that the generator copies
has one of the words. -/
def ShowsProgress (numerals : Numerals) (uppercase : Uppercase) (clones : Text → AgentClone)
    (config : ProjectConfig alphabet) : Prop :=
  SomeAgent numerals clones config fun agentId clone phases =>
    (clone.isAlive = true ∧ ∃ phase ∈ phases, Incomplete phase) ∨
      ∃ word ∈ [executingWord, pendingWord],
        Mentions word (uppercase.upper agentId) ∨ CopiedMention word clone phases

theorem progress_status_iff
    (generated : generateProjectStatus numerals uppercase clones now config = .ok status) :
    Mentions executingWord status ∨ Mentions pendingWord status ↔
      ShowsProgress numerals uppercase clones config := by
  rw [word_status_iff generated executingWord_statusWord,
    word_status_iff generated pendingWord_statusWord]
  unfold ShowsProgress SomeAgent
  rw [← exists_or]
  refine exists_congr fun agent => ?_
  rw [← and_or_left, ← exists_or]
  refine and_congr_right fun _ => exists_congr fun phases => ?_
  rw [← and_or_left]
  refine and_congr_right fun parsed => ?_
  dsimp only
  have executing : 0 < phaseTotal phases ∧
      Mentions executingWord ((currentPhase (0, .unknown) phases).2.text ++ [')']) ↔
        ∃ phase ∈ phases, Incomplete phase := by
    have shown (status : PhaseStatus) :
        Mentions executingWord (status.text ++ [')']) ↔ status = .executing := by
      cases status <;> decide
    rw [shown, currentPhase_executing_iff PhaseStatus.noConfusion, ← exists_executing_iff parsed]
    exact and_iff_right_of_imp (phaseTotal_pos_of_executing (parseRoadmap_phases parsed))
  have pending : ¬ ((clones agent.id).isAlive = true ∧ 0 < phaseTotal phases ∧
      Mentions pendingWord ((currentPhase (0, .unknown) phases).2.text ++ [')'])) := by
    have shown (status : PhaseStatus) :
        Mentions pendingWord (status.text ++ [')']) ↔ status = .pending := by
      cases status <;> decide
    rw [shown]
    exact fun header => currentPhase_ne_pending PhaseStatus.noConfusion phases header.2.2
  have words (holds : Text → Prop) :
      (∃ word ∈ [executingWord, pendingWord], holds word) ↔
        holds executingWord ∨ holds pendingWord := by
    simp only [List.mem_cons, List.not_mem_nil, or_false, exists_eq_or_imp, exists_eq_left]
  rw [executing, words, or_iff_right pending]
  exact (or_congr_left or_left_comm).trans or_assoc

/-- **When the gate understands a generated status.** A plan with dependencies and without
stubs fails the check exactly when a copied text has an empty box, progress is shown, and the
dependencies can be listed; an incomplete phase by itself does not make it fail. -/
theorem dependencyCheck_fails_iff {py : PyRuntime} {plan : Text}
    {frontmatter dependsOn : PyValue} {approvedPlans : Option (Except PyExc Text)}
    (generated : generateProjectStatus numerals uppercase clones now config = .ok status)
    (extracted : extractFrontmatter py plan = .ok frontmatter)
    (gotten : frontmatter.get "depends_on" (.list []) = .ok dependsOn)
    (depends : dependsOn.truthy = true)
    (noStub : ∀ keyword ∈ stubKeywords, ¬ keyword <:+: lower py.casing plan) :
    Fails (dependencyCheck py (reviewerOf config (some (.ok status)) approvedPlans) plan) ↔
      CopiesBox numerals clones config ∧ ShowsProgress numerals uppercase clones config ∧
        Joinable dependsOn := by
  rw [fails_dependencyCheck_iff rfl extracted gotten depends noStub, box_status_iff generated,
    progress_status_iff generated]
  rfl

end Status

/-! ## An incomplete phase that is not seen -/

/-- One agent. -/
def loneConfig : ProjectConfig .plain where
  project := "p"
  agents := [{ id := "a", owns := ["s"] }]
  valid := rfl

/-- An agent alive in a clone with one phase to do, and no log. -/
def phaseClones : Text → AgentClone := fun _ =>
  { roadmap := some "- [ ] **Phase 1: x**".toList
    log := { success := false, stdout := [], stderr := [] }
    isAlive := true }

def startOfTime : Timestamp where
  text := "1970-01-01 00:00".toList
  characters c member := by
    have all := List.all_eq_true.mp (show ("1970-01-01 00:00".toList.all fun c =>
      c.isDigit || c == '-' || c == ' ' || c == ':') = true by decide) c member
    simpa [or_assoc] using all

/-- A plan with a dependency. -/
def dependentPlan : Text := "---\ndepends_on: [y]\n---"

/-- A runtime that parses the frontmatter of the plan. -/
def dependentRuntime : PyRuntime where
  casing := .plain
  safeLoad block :=
    if block = "depends_on: [y]" then
      .ok (.dict [(.str "depends_on", .list [.str "y"])])
    else .error .yamlError
  loads _ := .error .jsonDecodeError
  dumps _ := []
  repr _ := []

private theorem phaseClones_parsed :
    parseRoadmap .plain (phaseClones "a").roadmap =
      .ok [{ number := 1, description := "x", status := .executing }] := by
  decide +kernel

private theorem phaseClones_generated :
    ∃ status, generateProjectStatus .plain .plain phaseClones startOfTime loneConfig =
      .ok status := by
  refine ⟨_, PyExc.bind_eq_ok_iff.mpr ⟨_, PyExc.bind_eq_ok_iff.mpr
    ⟨_, phaseClones_parsed, PyExc.bind_eq_ok_iff.mpr ⟨_, rfl, rfl⟩⟩, rfl⟩⟩

private theorem dependentPlan_noStub :
    ∀ keyword ∈ stubKeywords, ¬ keyword <:+: lower dependentRuntime.casing dependentPlan := by
  decide +kernel

theorem dependencyCheck_fails_iff_of_phase :
    ∃ status, generateProjectStatus .plain .plain phaseClones startOfTime loneConfig =
        .ok status ∧
      (Fails (dependencyCheck dependentRuntime (reviewerOf loneConfig (some (.ok status)) none)
          dependentPlan) ↔
        CopiesBox .plain phaseClones loneConfig ∧
          ShowsProgress .plain .plain phaseClones loneConfig ∧ Joinable (.list [.str "y"])) := by
  obtain ⟨status, generated⟩ := phaseClones_generated
  exact ⟨status, generated, dependencyCheck_fails_iff generated rfl rfl rfl dependentPlan_noStub⟩

/-- A phase is executing, and a plan that depends on it does not fail the check. -/
theorem incomplete_phase_passes :
    SomeIncomplete .plain phaseClones loneConfig ∧
      ∃ status, generateProjectStatus .plain .plain phaseClones startOfTime loneConfig =
          .ok status ∧
        ¬ Fails (dependencyCheck dependentRuntime
          (reviewerOf loneConfig (some (.ok status)) none) dependentPlan) := by
  refine ⟨⟨_, List.mem_cons_self, _, phaseClones_parsed, _, List.mem_cons_self, .inl rfl⟩, ?_⟩
  obtain ⟨status, generated⟩ := phaseClones_generated
  refine ⟨status, generated, ?_⟩
  rw [fails_dependencyCheck_iff rfl rfl rfl rfl dependentPlan_noStub, box_status_iff generated]
  rintro ⟨⟨agent, member, phases, parsed, copied⟩, _⟩
  obtain rfl := List.mem_singleton.mp member
  obtain rfl := Except.ok.inj (phaseClones_parsed.symm.trans parsed)
  revert copied
  decide +kernel

end Vcompany.Strategist
