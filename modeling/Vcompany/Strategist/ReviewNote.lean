import Vcompany.Strategist.PlanReviewer

/-! # What a review note says

The note of an escalated plan is built from the messages of the failed checks,
which quote the agent's id, the plan's file paths and its dependencies. A word
occurs in the note exactly when it occurs in the message of a failed check
(`note_mentions_iff`), and for the word `approve` the messages are traced back
to what they quote (`scopeCheck_mentions_iff`, `dependencyCheck_mentions_iff`,
`duplicateCheck_mentions`).
-/

namespace Vcompany.Strategist

open Foundation Text

/-! ## Notes and failed checks -/

/-- A word that survives the punctuation between the parts of a note. -/
structure NoteWord (needle : Text) : Prop where
  inhabited : needle ≠ []
  noColon : ':' ∉ needle
  noSemicolon : ';' ∉ needle
  noComma : ',' ∉ needle
  noPeriod : '.' ∉ needle
  noSpace : ' ' ∉ needle

/-- The word whose occurrence makes a response read as an approval. -/
def approveWord : Text := "approve"

theorem approveWord_noteWord : NoteWord approveWord :=
  ⟨by decide, by decide, by decide, by decide, by decide, by decide⟩

variable {needle : Text}

private theorem mentions_labelled_iff (word : NoteWord needle) (label message : Text) :
    Mentions needle (label ++ (": " : Text) ++ message) ↔
      Mentions needle label ∨ Mentions needle message := by
  have shape : label ++ (": " : Text) ++ message = label ++ ':' :: ' ' :: message := by simp
  rw [shape, mentions_append_cons_iff word.noColon (by decide),
    mentions_cons_iff word.inhabited word.noSpace (by decide)]

/-- The reviewer is confident exactly when no check failed. -/
theorem decisionOf_level_high_iff (checks : List (Text × CheckOutcome)) :
    (decisionOf checks).confidence.level = .high ↔ ∀ check ∈ checks, check.2.1 = true := by
  have passed : (failedChecks checks).isEmpty ↔ ∀ check ∈ checks, check.2.1 = true := by
    simp [failedChecks]
  unfold decisionOf
  by_cases empty : (failedChecks checks).isEmpty = true
  · simp only [empty, ↓reduceIte, true_iff]
    exact passed.mp empty
  · simp only [empty, Bool.false_eq_true, ↓reduceIte, reduceCtorEq, false_iff]
    exact fun all => empty (passed.mpr all)

/-- A word occurs in a note exactly when a failed check has it in its name or in
its message. -/
theorem note_mentions_iff (word : NoteWord needle)
    (absent : ¬ Mentions needle ("Failed checks" : Text))
    (checks : List (Text × CheckOutcome)) :
    Mentions needle (decisionOf checks).note ↔
      ∃ check ∈ checks, check.2.1 = false ∧
        (Mentions needle check.1 ∨ Mentions needle check.2.2) := by
  have failed (holds : Text × Text → Prop) :
      (∃ check ∈ failedChecks checks, holds check) ↔
        ∃ check ∈ checks, check.2.1 = false ∧ holds (check.1, check.2.2) := by
    simp only [failedChecks, List.mem_map, List.mem_filter, Bool.not_eq_eq_eq_not, Bool.not_true,
      exists_exists_and_eq_and]
    constructor <;> rintro ⟨check, member, rest⟩ <;>
      exact ⟨check, by tauto⟩
  unfold decisionOf
  by_cases empty : (failedChecks checks).isEmpty = true
  · have none : ∀ check ∈ checks, check.2.1 ≠ false := by
      simpa [failedChecks] using empty
    simp only [empty, ↓reduceIte]
    constructor
    · exact fun mentioned => absurd mentioned (mentions_nil word.inhabited)
    · rintro ⟨check, member, isFailed, _⟩
      exact absurd isFailed (none check member)
  · simp only [empty, Bool.false_eq_true, ↓reduceIte]
    have shape (names details : Text) :
        ("Failed checks: " : Text) ++ names ++ (". " : Text) ++ details =
          ("Failed checks" : Text) ++ ':' :: ' ' :: (names ++ '.' :: ' ' :: details) := by simp
    have commaList := mentions_intercalate_iff (c := ',') (d := ' ')
      ((failedChecks checks).map Prod.fst) word.inhabited word.noComma word.noSpace
      (by decide) (by decide)
    have semicolonList := mentions_intercalate_iff (c := ';') (d := ' ')
      ((failedChecks checks).map fun check => check.1 ++ (": " : Text) ++ check.2)
      word.inhabited word.noSemicolon word.noSpace (by decide) (by decide)
    have comma : (", " : Text) = [',', ' '] := by simp
    have semicolon : ("; " : Text) = [';', ' '] := by simp
    rw [comma, semicolon, shape, mentions_append_cons_iff word.noColon (by decide),
      mentions_cons_iff word.inhabited word.noSpace (by decide),
      mentions_append_cons_iff word.noPeriod (by decide),
      mentions_cons_iff word.inhabited word.noSpace (by decide), commaList, semicolonList,
      or_iff_right absent]
    simp only [List.mem_map, exists_exists_and_eq_and, mentions_labelled_iff word]
    rw [← failed fun check => Mentions needle check.1 ∨ Mentions needle check.2]
    constructor
    · rintro (⟨check, member, mentioned⟩ | named)
      · exact ⟨check, member, Or.inl mentioned⟩
      · exact named
    · exact Or.inr

/-! ## What the checks quote -/

/-- What a failing scope check quotes: the id of an agent that is not
configured, or the files outside the agent's directories. -/
def scopeQuotes (py : PyRuntime) (self : PlanReviewer) (agentId planContent : Text) :
    Except PyExc (List Text) := do
  let frontmatter ← extractFrontmatter py planContent
  let filesModified ← frontmatter.get "files_modified" (.list [])
  if !filesModified.truthy then return []
  match self.agents.find? fun agent => agent.id = agentId with
  | none => return [agentId]
  | some agent => PyValue.strs (← outsideFiles (agent.owns.map ownedDir) (← filesModified.iter))

/-- What a failing dependency check quotes: the unmet dependencies. -/
def dependencyQuotes (py : PyRuntime) (self : PlanReviewer) (planContent : Text) :
    Except PyExc (List Text) := do
  let frontmatter ← extractFrontmatter py planContent
  let dependsOn ← frontmatter.get "depends_on" (.list [])
  let outcome ← dependencyCheck py self planContent
  if outcome.1 || self.projectStatus.isNone then return []
  PyValue.strs (← dependsOn.iter)

private theorem mentions_quoted_iff (label : Text) (quotes : List Text)
    (absent : ¬ Mentions approveWord label) :
    Mentions approveWord (label ++ ':' :: ' ' :: List.intercalate ", " quotes) ↔
      ∃ quote ∈ quotes, Mentions approveWord quote := by
  have comma : (", " : Text) = [',', ' '] := by simp
  have word := approveWord_noteWord
  rw [mentions_append_cons_iff word.noColon (by decide), or_iff_right absent,
    mentions_cons_iff word.inhabited word.noSpace (by decide), comma,
    mentions_intercalate_iff quotes word.inhabited word.noComma word.noSpace (by decide)
      (by decide)]

/-- Joined values are the texts they hold. -/
private theorem join_eq_ok {items : List PyValue} {joined : Text}
    (returned : PyValue.join ", " items = .ok joined) :
    ∃ texts, PyValue.strs items = .ok texts ∧ joined = List.intercalate ", " texts := by
  obtain ⟨texts, strings, final⟩ := PyExc.bind_eq_ok_iff.mp returned
  exact ⟨texts, strings, (Except.ok.inj final).symm⟩

/-- A failing scope check says `approve` exactly when it quotes it. -/
theorem scopeCheck_mentions_iff {py : PyRuntime} {self : PlanReviewer} {agentId planContent : Text}
    {outcome : CheckOutcome} (checked : scopeCheck py self agentId planContent = .ok outcome) :
    ∃ quotes, scopeQuotes py self agentId planContent = .ok quotes ∧
      (outcome.1 = false ∧ Mentions approveWord outcome.2 ↔
        ∃ quote ∈ quotes, Mentions approveWord quote) := by
  unfold scopeCheck at checked
  unfold scopeQuotes
  obtain ⟨frontmatter, extracted, checked⟩ := PyExc.bind_eq_ok_iff.mp checked
  obtain ⟨filesModified, found, checked⟩ := PyExc.bind_eq_ok_iff.mp checked
  rw [extracted, PyExc.ok_bind, found, PyExc.ok_bind]
  by_cases empty : (!filesModified.truthy) = true
  · rw [if_pos empty] at checked ⊢
    cases Except.ok.inj checked
    exact ⟨[], rfl, by simp⟩
  · rw [if_neg empty] at checked ⊢
    cases lookup : self.agents.find? fun agent => agent.id = agentId with
    | none =>
        simp only [lookup] at checked ⊢
        cases Except.ok.inj checked
        refine ⟨[agentId], rfl, ?_⟩
        have shape : ("Agent " : Text) ++ agentId ++ (" not found in config" : Text) =
            ("Agent" : Text) ++ ' ' :: (agentId ++ ' ' :: ("not found in config" : Text)) := by simp
        have word := approveWord_noteWord
        simp only [shape, mentions_append_cons_iff word.noSpace (by decide : asciiLower ' ' = _),
          List.mem_singleton, exists_eq_left, true_and]
        have before : ¬ Mentions approveWord ("Agent" : Text) := by decide
        have after : ¬ Mentions approveWord ("not found in config" : Text) := by decide
        rw [or_iff_right before, or_iff_left after]
    | some agent =>
        simp only [lookup] at checked ⊢
        obtain ⟨files, iterated, checked⟩ := PyExc.bind_eq_ok_iff.mp checked
        obtain ⟨outside, filtered, checked⟩ := PyExc.bind_eq_ok_iff.mp checked
        rw [iterated, PyExc.ok_bind, filtered, PyExc.ok_bind]
        by_cases aligned : outside.isEmpty = true
        · rw [if_pos aligned] at checked
          cases Except.ok.inj checked
          rw [List.isEmpty_iff] at aligned
          subst aligned
          exact ⟨[], rfl, by simp⟩
        · rw [if_neg aligned] at checked
          obtain ⟨joined, returned, checked⟩ := PyExc.bind_eq_ok_iff.mp checked
          cases Except.ok.inj checked
          obtain ⟨quotes, strings, rfl⟩ := join_eq_ok returned
          refine ⟨quotes, strings, ?_⟩
          have shape : ("Files outside owned dirs: " : Text) ++ List.intercalate ", " quotes =
              ("Files outside owned dirs" : Text) ++
                ':' :: ' ' :: List.intercalate ", " quotes := by
            simp
          rw [shape]
          simp only [true_and]
          exact mentions_quoted_iff _ quotes (by decide)

/-- A failing dependency check says `approve` exactly when it quotes it. -/
theorem dependencyCheck_mentions_iff {py : PyRuntime} {self : PlanReviewer} {planContent : Text}
    {outcome : CheckOutcome} (checked : dependencyCheck py self planContent = .ok outcome) :
    ∃ quotes, dependencyQuotes py self planContent = .ok quotes ∧
      (outcome.1 = false ∧ Mentions approveWord outcome.2 ↔
        ∃ quote ∈ quotes, Mentions approveWord quote) := by
  unfold dependencyQuotes
  rw [checked]
  unfold dependencyCheck at checked
  obtain ⟨frontmatter, extracted, checked⟩ := PyExc.bind_eq_ok_iff.mp checked
  obtain ⟨dependsOn, found, checked⟩ := PyExc.bind_eq_ok_iff.mp checked
  rw [extracted, PyExc.ok_bind, found, PyExc.ok_bind, PyExc.ok_bind]
  have quiet (passed : outcome.1 = true) :
      ∃ quotes, (if outcome.1 || self.projectStatus.isNone then (pure [] : Except PyExc (List Text))
          else dependsOn.iter >>= PyValue.strs) = .ok quotes ∧
        (outcome.1 = false ∧ Mentions approveWord outcome.2 ↔
          ∃ quote ∈ quotes, Mentions approveWord quote) :=
    ⟨[], by simp [passed, pure, Except.pure], by simp [passed]⟩
  split at checked
  · cases Except.ok.inj checked
    exact quiet rfl
  · cases status : self.projectStatus with
    | none =>
        simp only [status] at checked
        cases Except.ok.inj checked
        exact ⟨[], by simp [pure, Except.pure], by simp; decide⟩
    | some read =>
        simp only [status] at checked
        rw [status] at quiet
        obtain ⟨content, _, checked⟩ := PyExc.bind_eq_ok_iff.mp checked
        split at checked
        · cases Except.ok.inj checked
          exact quiet rfl
        · split at checked
          · split at checked
            · cases Except.ok.inj checked
              exact quiet rfl
            · obtain ⟨items, iterated, checked⟩ := PyExc.bind_eq_ok_iff.mp checked
              obtain ⟨joined, returned, checked⟩ := PyExc.bind_eq_ok_iff.mp checked
              cases Except.ok.inj checked
              obtain ⟨quotes, strings, rfl⟩ := join_eq_ok returned
              refine ⟨quotes, by simp [iterated, PyExc.ok_bind, strings], ?_⟩
              have shape : ("Unmet dependencies: " : Text) ++ List.intercalate ", " quotes =
                  ("Unmet dependencies" : Text) ++ ':' :: ' ' :: List.intercalate ", " quotes := by
                simp
              rw [shape]
              simp only [true_and]
              exact mentions_quoted_iff _ quotes (by decide)
          · cases Except.ok.inj checked
            exact quiet rfl

/-- A plan that looks like an approved one is reported as such. -/
private theorem compareApproved_mentions {py : PyRuntime} {agentId : Text}
    {planFiles : Finset HashKey} {planObjective : Text} {approved : PyValue} {message : Text}
    (alike : compareApproved py agentId planFiles planObjective approved = .ok (some message)) :
    Mentions approveWord message := by
  unfold compareApproved at alike
  obtain ⟨approvedAgent, _, alike⟩ := PyExc.bind_eq_ok_iff.mp alike
  split at alike
  · cases Except.ok.inj alike
  · obtain ⟨filesModified, _, alike⟩ := PyExc.bind_eq_ok_iff.mp alike
    obtain ⟨approvedFiles, _, alike⟩ := PyExc.bind_eq_ok_iff.mp alike
    split at alike
    · obtain ⟨agent, _, alike⟩ := PyExc.bind_eq_ok_iff.mp alike
      have same := Option.some.inj (Except.ok.inj alike)
      rw [← same]
      have quoted : Mentions approveWord
          ("Possible duplicate: >70% file overlap with approved plan from " : Text) := by decide
      exact quoted.append _
    · obtain ⟨objective, _, alike⟩ := PyExc.bind_eq_ok_iff.mp alike
      obtain ⟨similar, _, alike⟩ := PyExc.bind_eq_ok_iff.mp alike
      split at alike
      · obtain ⟨agent, _, alike⟩ := PyExc.bind_eq_ok_iff.mp alike
        have same := Option.some.inj (Except.ok.inj alike)
        rw [← same]
        have quoted : Mentions approveWord
            ("Possible duplicate: similar objective to approved plan from " : Text) := by decide
        exact quoted.append _
      · cases Except.ok.inj alike

private theorem compareLines_mentions {py : PyRuntime} {agentId : Text}
    {planFiles : Finset HashKey} {planObjective : Text} {outcome : CheckOutcome}
    (lines : List Text)
    (compared : compareLines py agentId planFiles planObjective lines = .ok outcome)
    (failed : outcome.1 = false) : Mentions approveWord outcome.2 := by
  induction lines with
  | nil =>
      cases Except.ok.inj compared
      exact nomatch failed
  | cons line rest ih =>
      rw [compareLines] at compared
      split at compared
      · exact ih compared
      · split at compared
        · exact ih compared
        · cases compared
        · split at compared
          · cases compared
          · rename_i approved _ message alike
            cases Except.ok.inj compared
            exact compareApproved_mentions alike
          · exact ih compared

/-- A failing duplicate check names an approved plan. -/
theorem duplicateCheck_mentions {py : PyRuntime} {self : PlanReviewer}
    {agentId planContent : Text} {outcome : CheckOutcome}
    (checked : duplicateCheck py self agentId planContent = .ok outcome)
    (failed : outcome.1 = false) : Mentions approveWord outcome.2 := by
  unfold duplicateCheck at checked
  split at checked
  · cases Except.ok.inj checked
    exact nomatch failed
  · obtain ⟨frontmatter, _, checked⟩ := PyExc.bind_eq_ok_iff.mp checked
    obtain ⟨filesModified, _, checked⟩ := PyExc.bind_eq_ok_iff.mp checked
    obtain ⟨planFiles, _, checked⟩ := PyExc.bind_eq_ok_iff.mp checked
    dsimp only at checked
    split at checked
    · cases Except.ok.inj checked
      exact nomatch failed
    · obtain ⟨content, _, checked⟩ := PyExc.bind_eq_ok_iff.mp checked
      exact compareLines_mentions _ checked failed

/-! ## The decision of a review -/

section Review

variable {py : PyRuntime} {self : PlanReviewer} {agentId planContent : Text}
  {decision : PMDecision}

/-- A check that returns and passes. -/
def Passes (check : Except PyExc CheckOutcome) : Prop := ∃ message, check = .ok (true, message)

/-- A check that raises. -/
def Raises (check : Except PyExc CheckOutcome) : Prop := ∃ raised, check = .error raised

/-- All three checks of a plan pass. -/
def AllChecksPass (py : PyRuntime) (self : PlanReviewer) (agentId planContent : Text) : Prop :=
  Passes (scopeCheck py self agentId planContent) ∧ Passes (dependencyCheck py self planContent) ∧
    Passes (duplicateCheck py self agentId planContent)

/-- One of the checks of a plan raises. -/
def SomeCheckRaises (py : PyRuntime) (self : PlanReviewer) (agentId planContent : Text) : Prop :=
  Raises (scopeCheck py self agentId planContent) ∨ Raises (dependencyCheck py self planContent) ∨
    Raises (duplicateCheck py self agentId planContent)

/-- A failed check of the plan quotes the word `approve`: the duplicate check
always does, the other two when the agent's id, a file path or a dependency
contains it. -/
def QuotesApprove (py : PyRuntime) (self : PlanReviewer) (agentId planContent : Text) : Prop :=
  ¬ Passes (duplicateCheck py self agentId planContent) ∨
    (∃ quotes, scopeQuotes py self agentId planContent = .ok quotes ∧
      ∃ quote ∈ quotes, Mentions approveWord quote) ∨
    (∃ quotes, dependencyQuotes py self planContent = .ok quotes ∧
      ∃ quote ∈ quotes, Mentions approveWord quote)

private theorem passes_ok_iff (outcome : CheckOutcome) :
    Passes (.ok outcome) ↔ outcome.1 = true := by
  obtain ⟨passed, message⟩ := outcome
  simp [Passes]

/-- A review returns the decision drawn from its three checks. -/
theorem reviewPlan_eq_ok_iff :
    reviewPlan py self agentId planContent = .ok decision ↔
      ∃ scope dependency duplicate, scopeCheck py self agentId planContent = .ok scope ∧
        dependencyCheck py self planContent = .ok dependency ∧
        duplicateCheck py self agentId planContent = .ok duplicate ∧
        decisionOf [("scope", scope), ("dependency", dependency), ("duplicate", duplicate)] =
          decision := by
  unfold reviewPlan
  constructor
  · intro reviewed
    obtain ⟨scope, aligned, reviewed⟩ := PyExc.bind_eq_ok_iff.mp reviewed
    obtain ⟨dependency, ready, reviewed⟩ := PyExc.bind_eq_ok_iff.mp reviewed
    obtain ⟨duplicate, compared, reviewed⟩ := PyExc.bind_eq_ok_iff.mp reviewed
    exact ⟨scope, dependency, duplicate, aligned, ready, compared, Except.ok.inj reviewed⟩
  · rintro ⟨scope, dependency, duplicate, aligned, ready, compared, rfl⟩
    rw [aligned, PyExc.ok_bind, ready, PyExc.ok_bind, compared, PyExc.ok_bind]
    rfl

/-- A review is confident exactly when all its checks pass. -/
theorem reviewPlan_level_high_iff
    (reviewed : reviewPlan py self agentId planContent = .ok decision) :
    decision.confidence.level = .high ↔ AllChecksPass py self agentId planContent := by
  obtain ⟨scope, dependency, duplicate, aligned, ready, compared, rfl⟩ :=
    reviewPlan_eq_ok_iff.mp reviewed
  rw [AllChecksPass, aligned, ready, compared, decisionOf_level_high_iff]
  simp [passes_ok_iff]

/-- The reviewer approves a plan exactly when it passes all checks. -/
theorem reviewPlan_approves_iff :
    (∃ decision, reviewPlan py self agentId planContent = .ok decision ∧
      decision.confidence.level = .high) ↔ AllChecksPass py self agentId planContent := by
  constructor
  · rintro ⟨decision, reviewed, confident⟩
    exact (reviewPlan_level_high_iff reviewed).mp confident
  · intro passes
    obtain ⟨⟨_, aligned⟩, ⟨_, ready⟩, ⟨_, compared⟩⟩ := passes
    have reviewed := reviewPlan_eq_ok_iff.mpr ⟨_, _, _, aligned, ready, compared, rfl⟩
    exact ⟨_, reviewed, (reviewPlan_level_high_iff reviewed).mpr
      ⟨⟨_, aligned⟩, ⟨_, ready⟩, ⟨_, compared⟩⟩⟩

/-- A review raises exactly when one of its checks does. -/
theorem reviewPlan_raises_iff :
    (∃ raised, reviewPlan py self agentId planContent = .error raised) ↔
      SomeCheckRaises py self agentId planContent := by
  unfold SomeCheckRaises Raises reviewPlan
  cases scopeCheck py self agentId planContent with
  | error raised => simp [PyExc.error_bind]
  | ok scope =>
      cases dependencyCheck py self planContent with
      | error raised => simp [PyExc.ok_bind, PyExc.error_bind]
      | ok dependency =>
          cases duplicateCheck py self agentId planContent with
          | error raised => simp [PyExc.ok_bind]
          | ok duplicate => simp [PyExc.ok_bind, pure, Except.pure]

private theorem failed_mentions_cons_iff {label : Text} {outcome : CheckOutcome}
    {rest : List (Text × CheckOutcome)} (silent : ¬ Mentions approveWord label) :
    (∃ check ∈ (label, outcome) :: rest, check.2.1 = false ∧
      (Mentions approveWord check.1 ∨ Mentions approveWord check.2.2)) ↔
      (outcome.1 = false ∧ Mentions approveWord outcome.2) ∨
        ∃ check ∈ rest, check.2.1 = false ∧
          (Mentions approveWord check.1 ∨ Mentions approveWord check.2.2) := by
  rw [List.exists_mem_cons_iff, or_iff_right silent]

/-- The note of a review says `approve` exactly when a failed check quotes it. -/
theorem reviewPlan_note_mentions_iff
    (reviewed : reviewPlan py self agentId planContent = .ok decision) :
    Mentions approveWord decision.note ↔ QuotesApprove py self agentId planContent := by
  obtain ⟨scope, dependency, duplicate, aligned, ready, compared, rfl⟩ :=
    reviewPlan_eq_ok_iff.mp reviewed
  obtain ⟨scopeQuoted, scopeFound, scopeSays⟩ := scopeCheck_mentions_iff aligned
  obtain ⟨dependencyQuoted, dependencyFound, dependencySays⟩ := dependencyCheck_mentions_iff ready
  have duplicateSays :
      duplicate.1 = false ∧ Mentions approveWord duplicate.2 ↔ ¬ duplicate.1 = true :=
    ⟨fun failed => by simp [failed.1], fun failed =>
      ⟨by simpa using failed, duplicateCheck_mentions compared (by simpa using failed)⟩⟩
  rw [note_mentions_iff approveWord_noteWord (by decide),
    failed_mentions_cons_iff (by decide), failed_mentions_cons_iff (by decide),
    failed_mentions_cons_iff (by decide), scopeSays, dependencySays, duplicateSays]
  unfold QuotesApprove
  rw [compared, scopeFound, dependencyFound, passes_ok_iff]
  simp only [Except.ok.injEq, exists_eq_left', List.not_mem_nil, false_and, exists_false, or_false]
  constructor
  · rintro (quoted | quoted | failed)
    · exact Or.inr (Or.inl quoted)
    · exact Or.inr (Or.inr quoted)
    · exact Or.inl failed
  · rintro (failed | quoted | quoted)
    · exact Or.inr (Or.inr failed)
    · exact Or.inl quoted
    · exact Or.inr (Or.inl quoted)

end Review

end Vcompany.Strategist
