import Vcompany.Strategist.PlanReviewer

/-! # When a review returns

The checks assume shapes of what a plan's frontmatter and the approved plans are parsed to. A
review returns a decision exactly when what it reads has these shapes (`reviewPlan_returns_iff`).
-/

namespace Vcompany.Strategist

open Foundation

/-- The computation does not raise. -/
def Returns {α : Type} (computed : Except PyExc α) : Prop := ∃ value, computed = .ok value

/-- `entries.get(key, default)`. -/
def field (entries : List (PyValue × PyValue)) (key : Text) (default : PyValue) : PyValue :=
  ((entries.find? fun entry => entry.1.isStr key).map Prod.snd).getD default

/-- All values are strings. -/
def AllStrings (items : List PyValue) : Prop := ∀ item ∈ items, ∃ text, item = .str text

/-- The value can be iterated over, and yields strings. -/
def YieldsStrings (value : PyValue) : Prop := ∃ items, value.iter = .ok items ∧ AllStrings items

theorem returns_bind_iff {α β : Type} {first : Except PyExc α} {rest : α → Except PyExc β} :
    Returns (first >>= rest) ↔ ∃ value, first = .ok value ∧ Returns (rest value) := by
  unfold Returns
  simp only [PyExc.bind_eq_ok_iff]
  exact ⟨fun ⟨result, value, own, later⟩ => ⟨value, own, result, later⟩,
    fun ⟨value, own, result, later⟩ => ⟨result, value, own, later⟩⟩

@[simp] theorem returns_ok {α : Type} (value : α) : Returns (.ok value : Except PyExc α) :=
  ⟨value, rfl⟩

@[simp] theorem returns_pure {α : Type} (value : α) : Returns (pure value : Except PyExc α) :=
  ⟨value, rfl⟩

/-! ## Reading the plan -/

/-- The frontmatter of the plan is a dictionary with these entries. -/
def HasFrontmatter (py : PyRuntime) (content : Text) (entries : List (PyValue × PyValue)) : Prop :=
  match frontmatterBlock content with
  | none => entries = []
  | some block =>
      match py.safeLoad block with
      | .ok value =>
          (value.truthy = false ∧ entries = []) ∨ (value.truthy = true ∧ value = .dict entries)
      | .error raised => raised = .yamlError ∧ entries = []

theorem hasFrontmatter_iff {py : PyRuntime} {content : Text}
    {entries : List (PyValue × PyValue)} :
    HasFrontmatter py content entries ↔ extractFrontmatter py content = .ok (.dict entries) := by
  unfold HasFrontmatter extractFrontmatter
  rcases frontmatterBlock content with _ | block
  · exact ⟨fun same => by rw [same], fun same => by cases same; rfl⟩
  · dsimp only
    rcases py.safeLoad block with raised | value
    · cases raised with
      | yamlError =>
          refine ⟨fun holds => by rw [holds.2], fun same => ⟨rfl, ?_⟩⟩
          cases same
          rfl
      | _ => exact iff_of_false (fun holds => nomatch holds.1) nofun
    · dsimp only
      rw [Except.ok.injEq]
      rcases value.truthy with _ | _
      · rw [if_neg Bool.false_ne_true, PyValue.dict.injEq]
        exact ⟨fun holds => (holds.resolve_right fun other => nomatch other.1).2.symm,
          fun same => .inl ⟨rfl, same.symm⟩⟩
      · rw [if_pos rfl]
        exact ⟨fun holds => (holds.resolve_left fun other => nomatch other.1).2,
          fun same => .inr ⟨rfl, same⟩⟩

/-- A look into the frontmatter returns exactly if that is a dictionary. -/
theorem frontmatter_get_returns_iff {α : Type} {py : PyRuntime} {content key : Text}
    {default : PyValue} {rest : PyValue → Except PyExc α} :
    Returns (do
      let frontmatter ← extractFrontmatter py content
      let value ← frontmatter.get key default
      rest value) ↔
      ∃ entries, HasFrontmatter py content entries ∧
        Returns (rest (field entries key default)) := by
  simp only [returns_bind_iff, hasFrontmatter_iff]
  constructor
  · rintro ⟨frontmatter, extracted, value, found, returns⟩
    cases frontmatter with
    | dict entries =>
        cases found
        exact ⟨entries, extracted, returns⟩
    | _ => cases found
  · rintro ⟨entries, extracted, returns⟩
    exact ⟨_, extracted, _, rfl, returns⟩

/-! ## Strings -/

theorem strs_returns_iff {items : List PyValue} :
    Returns (PyValue.strs items) ↔ AllStrings items := by
  induction items with
  | nil => exact iff_of_true ⟨_, rfl⟩ nofun
  | cons item items ih =>
      unfold AllStrings
      rw [List.forall_mem_cons]
      cases item with
      | str text =>
          rw [PyValue.strs, returns_bind_iff, and_iff_right ⟨text, rfl⟩]
          refine Iff.trans ?_ ih
          exact exists_congr fun _ => and_iff_left (returns_pure _)
      | _ =>
          refine iff_of_false nofun ?_
          rintro ⟨⟨_, same⟩, -⟩
          cases same

theorem join_returns_iff {sep : Text} {items : List PyValue} :
    Returns (PyValue.join sep items) ↔ AllStrings items := by
  unfold PyValue.join
  rw [returns_bind_iff, ← strs_returns_iff]
  exact exists_congr fun _ => and_iff_left (returns_pure _)

/-- The files outside the owned directories are joined for the message, if there are any. -/
def reportOutside (ownedDirs : List Text) (files : List PyValue) : Except PyExc CheckOutcome := do
  let outside ← outsideFiles ownedDirs files
  if outside.isEmpty then return (true, "Scope aligned")
  return (false, "Files outside owned dirs: " ++ (← PyValue.join ", " outside))

theorem outsideFiles_of_strings (ownedDirs : List Text) {files : List PyValue}
    (strings : AllStrings files) :
    ∃ outside, outsideFiles ownedDirs files = .ok outside ∧ AllStrings outside := by
  induction files with
  | nil => exact ⟨[], rfl, strings⟩
  | cons file files ih =>
      obtain ⟨⟨text, rfl⟩, later⟩ := List.forall_mem_cons.mp strings
      obtain ⟨outside, found, sound⟩ := ih later
      rw [outsideFiles, PyValue.startsWithAny, PyExc.ok_bind, found, PyExc.ok_bind]
      refine ⟨_, rfl, ?_⟩
      split
      · exact sound
      · exact List.forall_mem_cons.mpr ⟨⟨text, rfl⟩, sound⟩

theorem strings_of_outsideFiles {ownedDirs : List Text} {files outside : List PyValue}
    (found : outsideFiles ownedDirs files = .ok outside) (strings : AllStrings outside) :
    AllStrings files := by
  induction files generalizing outside with
  | nil => exact nofun
  | cons file files ih =>
      rw [outsideFiles] at found
      obtain ⟨inside, starts, found⟩ := PyExc.bind_eq_ok_iff.mp found
      obtain ⟨others, areOthers, found⟩ := PyExc.bind_eq_ok_iff.mp found
      cases found
      -- a file that is inside a directory has been asked what it starts with
      have own : inside = true → ∃ text, file = .str text := by
        rintro rfl
        unfold PyValue.startsWithAny at starts
        split at starts
        · exact ⟨_, rfl⟩
        · split at starts <;> cases starts
        · split at starts <;> cases starts
      rcases inside with _ | _
      · obtain ⟨first, later⟩ := List.forall_mem_cons.mp strings
        exact List.forall_mem_cons.mpr ⟨first, ih areOthers later⟩
      · exact List.forall_mem_cons.mpr ⟨own rfl, ih areOthers strings⟩

theorem reportOutside_returns_iff {ownedDirs : List Text} {files : List PyValue} :
    Returns (reportOutside ownedDirs files) ↔ AllStrings files := by
  unfold reportOutside
  rw [returns_bind_iff]
  constructor
  · rintro ⟨outside, found, returns⟩
    refine strings_of_outsideFiles found ?_
    split at returns
    · next none =>
        rw [List.isEmpty_iff.mp none]
        exact nofun
    · rw [returns_bind_iff] at returns
      obtain ⟨text, joined, -⟩ := returns
      exact join_returns_iff.mp ⟨text, joined⟩
  · intro strings
    obtain ⟨outside, found, sound⟩ := outsideFiles_of_strings ownedDirs strings
    refine ⟨outside, found, ?_⟩
    split
    · exact returns_pure _
    · rw [returns_bind_iff]
      obtain ⟨text, joined⟩ := (@join_returns_iff ", " outside).mpr sound
      exact ⟨text, joined, returns_pure _⟩

/-! ## The three checks -/

/-- The files of the plan can be compared with the directories of the agent. -/
def ScopeSound (self : PlanReviewer) (agentId : Text) (entries : List (PyValue × PyValue)) : Prop :=
  let filesModified := field entries "files_modified" (.list [])
  filesModified.truthy = true → (self.agents.any fun agent => agent.id = agentId) = true →
    YieldsStrings filesModified

/-- The status lists unfinished work. -/
def HasIncomplete (py : PyRuntime) (status : Text) : Prop :=
  ("[ ]" : Text) <:+: Text.lower py.casing status ∧
    (("executing" : Text) <:+: Text.lower py.casing status ∨
      ("pending" : Text) <:+: Text.lower py.casing status)

/-- The plan mentions a stub. -/
def UsesStubs (py : PyRuntime) (content : Text) : Prop :=
  ∃ keyword ∈ stubKeywords, keyword <:+: Text.lower py.casing content

/-- The dependencies of the plan can be listed, if they have to be. -/
def DependencySound (py : PyRuntime) (self : PlanReviewer) (content : Text)
    (entries : List (PyValue × PyValue)) : Prop :=
  let dependsOn := field entries "depends_on" (.list [])
  dependsOn.truthy = true → ∀ read, self.projectStatus = some read →
    ∃ status, read = .ok status ∧
      (HasIncomplete py status → ¬ UsesStubs py content → YieldsStrings dependsOn)

/-- The outcome of the check of dependencies that depends on the status. -/
def dependencyOutcome (py : PyRuntime) (content : Text) (dependsOn : PyValue) (read : Text) :
    Except PyExc CheckOutcome := do
  let status := Text.lower py.casing read
  let hasComplete := decide (("[x]" : Text) <:+: status ∧ ("complete" : Text) <:+: status)
  let hasIncomplete := decide (("[ ]" : Text) <:+: status ∧
    (("executing" : Text) <:+: status ∨ ("pending" : Text) <:+: status))
  if hasComplete && !hasIncomplete then return (true, "Dependencies ready")
  if hasIncomplete then
    let plan := Text.lower py.casing content
    if stubKeywords.any fun keyword => decide (keyword <:+: plan) then
      return (true, "Dependencies incomplete but plan uses stubs/mocks")
    return (false, "Unmet dependencies: " ++ (← PyValue.join ", " (← dependsOn.iter)))
  return (true, "Dependencies ready")

variable {py : PyRuntime} {self : PlanReviewer} {agentId content : Text}

theorem dependencyOutcome_returns_iff {dependsOn : PyValue} {status : Text} :
    Returns (dependencyOutcome py content dependsOn status) ↔
      (HasIncomplete py status → ¬ UsesStubs py content → YieldsStrings dependsOn) := by
  unfold dependencyOutcome HasIncomplete UsesStubs YieldsStrings
  dsimp only
  split
  · next ready =>
      refine iff_of_true (returns_pure _) fun incomplete => ?_
      rw [decide_eq_true incomplete, Bool.not_true, Bool.and_false] at ready
      cases ready
  · split
    · next incomplete =>
        rw [forall_prop_of_true (of_decide_eq_true incomplete)]
        split
        · next stubs =>
            refine iff_of_true (returns_pure _) fun none => ?_
            obtain ⟨keyword, member, mentioned⟩ := List.any_eq_true.mp stubs
            exact absurd ⟨keyword, member, of_decide_eq_true mentioned⟩ none
        · next stubs =>
            have none : ¬ ∃ keyword ∈ stubKeywords,
                keyword <:+: Text.lower py.casing content := by
              rintro ⟨keyword, member, mentioned⟩
              exact stubs (List.any_eq_true.mpr ⟨keyword, member, decide_eq_true mentioned⟩)
            rw [forall_prop_of_true none, returns_bind_iff]
            refine exists_congr fun items => and_congr_right fun _ => ?_
            rw [returns_bind_iff, ← @join_returns_iff ", "]
            exact exists_congr fun _ => and_iff_left (returns_pure _)
    · next complete =>
        refine iff_of_true (returns_pure _) fun incomplete => ?_
        exact absurd (decide_eq_true incomplete) complete

theorem scopeCheck_returns_iff :
    Returns (scopeCheck py self agentId content) ↔
      ∃ entries, HasFrontmatter py content entries ∧ ScopeSound self agentId entries := by
  unfold scopeCheck
  rw [frontmatter_get_returns_iff]
  refine exists_congr fun entries => and_congr_right fun _ => ?_
  unfold ScopeSound
  dsimp only
  generalize field entries "files_modified" (.list []) = filesModified
  rcases filesModified.truthy with _ | _
  · exact iff_of_true (returns_pure _) nofun
  · rw [if_neg (by decide), forall_prop_of_true rfl]
    rcases found : self.agents.find? fun agent => agent.id = agentId with _ | agent
    · simp only [found]
      refine iff_of_true (returns_pure _) fun configured => ?_
      obtain ⟨agent, member, same⟩ := List.any_eq_true.mp configured
      exact absurd same (List.find?_eq_none.mp found agent member)
    · simp only [found]
      have same := List.find?_some found
      have configured : (self.agents.any fun agent => agent.id = agentId) = true :=
        List.any_eq_true.mpr ⟨agent, List.mem_of_find?_eq_some found, same⟩
      rw [forall_prop_of_true configured]
      change Returns (filesModified.iter >>= reportOutside (agent.owns.map ownedDir)) ↔ _
      rw [returns_bind_iff]
      exact exists_congr fun files => and_congr_right fun _ => reportOutside_returns_iff

theorem dependencyCheck_returns_iff :
    Returns (dependencyCheck py self content) ↔
      ∃ entries, HasFrontmatter py content entries ∧ DependencySound py self content entries := by
  unfold dependencyCheck
  rw [frontmatter_get_returns_iff]
  refine exists_congr fun entries => and_congr_right fun _ => ?_
  unfold DependencySound
  dsimp only
  generalize field entries "depends_on" (.list []) = dependsOn
  rcases dependsOn.truthy with _ | _
  · exact iff_of_true (returns_pure _) nofun
  · rw [if_neg (by decide), forall_prop_of_true rfl]
    rcases self.projectStatus with _ | read
    · exact iff_of_true (returns_pure _) nofun
    · dsimp only
      rw [returns_bind_iff]
      constructor
      · rintro ⟨status, rfl, returns⟩ _ ⟨⟩
        exact ⟨status, rfl, dependencyOutcome_returns_iff.mp returns⟩
      · intro sound
        obtain ⟨status, rfl, holds⟩ := sound read rfl
        exact ⟨status, rfl, dependencyOutcome_returns_iff.mpr holds⟩

/-! ## Approved plans -/

/-- The approved plan is the agent's own. -/
def OwnPlan (agentId : Text) (entries : List (PyValue × PyValue)) : Prop :=
  (field entries "agent_id" .none).isStr agentId = true

/-- More than 70% of the files of either plan are in both. -/
def SharesFiles (planFiles files : Finset HashKey) : Prop :=
  (planFiles ≠ ∅ ∧ files ≠ ∅) ∧ overlaps planFiles files = true

/-- More than 70% of the words of either objective are in both. -/
def SharesWords (py : PyRuntime) (planObjective objective : Text) : Prop :=
  (planObjective ≠ [] ∧ objective ≠ []) ∧
    (objectiveWords py planObjective ≠ ∅ ∧ objectiveWords py objective ≠ ∅) ∧
    overlaps (objectiveWords py planObjective) (objectiveWords py objective) = true

section

variable (py) (agentId) (planFiles : Finset HashKey) (planObjective : Text)

/-- The approved plan is a dictionary, and what the comparison gets to see of it has the right
type. -/
def Comparable (approved : PyValue) : Prop :=
  ∃ entries, approved = .dict entries ∧ (OwnPlan agentId entries ∨
    ∃ files, (field entries "files_modified" (.list [])).toSet = .ok files ∧
      (SharesFiles planFiles files ∨ planObjective = [] ∨
        (field entries "objective" (.str [])).truthy = false ∨
        ∃ objective, field entries "objective" (.str []) = .str objective))

/-- The plan looks like a duplicate of the approved plan. -/
def Alike (approved : PyValue) : Prop :=
  ∃ entries, approved = .dict entries ∧ ¬ OwnPlan agentId entries ∧
    ∃ files, (field entries "files_modified" (.list [])).toSet = .ok files ∧
      (SharesFiles planFiles files ∨ ∃ objective, field entries "objective" (.str []) =
        .str objective ∧ SharesWords py planObjective objective)

/-- The line is blank, not JSON, or an approved plan that the plan can be compared with. -/
def ReadableLine (line : Text) : Prop :=
  line.strip = [] ∨
    match py.loads line.strip with
    | .ok approved => Comparable agentId planFiles planObjective approved
    | .error raised => raised = .jsonDecodeError

/-- The line is an approved plan of which the plan looks like a duplicate. -/
def AlikeLine (line : Text) : Prop :=
  line.strip ≠ [] ∧ ∃ approved, py.loads line.strip = .ok approved ∧
    Alike py agentId planFiles planObjective approved

/-- The lines are readable up to the first of which the plan looks like a duplicate. -/
def ReadableLines (lines : List Text) : Prop :=
  ∀ before line after, lines = before ++ line :: after →
    (∀ earlier ∈ before, ¬ AlikeLine py agentId planFiles planObjective earlier) →
      ReadableLine py agentId planFiles planObjective line

end

variable {planFiles : Finset HashKey} {planObjective : Text}

theorem similarObjective_cases (objective : PyValue) :
    (Returns (similarObjective py planObjective objective) ↔ planObjective = [] ∨
      objective.truthy = false ∨ ∃ text, objective = .str text) ∧
    (similarObjective py planObjective objective = .ok true ↔
      ∃ text, objective = .str text ∧ SharesWords py planObjective text) := by
  unfold similarObjective SharesWords
  split
  · next skipped =>
      rw [Bool.or_eq_true, List.isEmpty_iff, Bool.not_eq_true'] at skipped
      refine ⟨iff_of_true (returns_ok _) (skipped.imp_right .inl), iff_of_false nofun ?_⟩
      rintro ⟨text, rfl, ⟨own, other⟩, -⟩
      rcases skipped with none | none
      · exact own none
      · exact other (List.isEmpty_iff.mp (by simpa [PyValue.truthy] using none))
  · next compared =>
      rw [Bool.or_eq_true, List.isEmpty_iff, Bool.not_eq_true', not_or] at compared
      obtain ⟨own, true⟩ := compared
      split
      · next text =>
          refine ⟨iff_of_true (returns_ok _) (.inr (.inr ⟨text, rfl⟩)), ?_⟩
          have other : text ≠ [] := fun none => true (by rw [none]; rfl)
          rw [Except.ok.injEq, Bool.and_eq_true, decide_eq_true_eq]
          constructor
          · exact fun words => ⟨text, rfl, ⟨own, other⟩, words⟩
          · rintro ⟨_, same, -, words⟩
            cases same
            exact words
      · next other =>
          refine ⟨iff_of_false nofun ?_, iff_of_false nofun ?_⟩
          · rintro (none | none | ⟨text, same⟩)
            · exact own none
            · exact true none
            · exact other text same
          · rintro ⟨text, same, -⟩
            exact other text same

/-- The comparison with an approved plan of another agent, once its files are a set. -/
def compareOther (py : PyRuntime) (entries : List (PyValue × PyValue))
    (planFiles : Finset HashKey) (planObjective : Text) (files : Finset HashKey) :
    Except PyExc (Option Text) := do
  if decide (planFiles ≠ ∅ ∧ files ≠ ∅) && overlaps planFiles files then
    return some (("Possible duplicate: >70% file overlap with approved plan from " : Text) ++
      py.format (field entries "agent_id" (.str "?")))
  if ← similarObjective py planObjective (field entries "objective" (.str [])) then
    return some (("Possible duplicate: similar objective to approved plan from " : Text) ++
      py.format (field entries "agent_id" (.str "?")))
  return none

theorem compareApproved_dict (entries : List (PyValue × PyValue)) :
    compareApproved py agentId planFiles planObjective (.dict entries) =
      if (field entries "agent_id" .none).isStr agentId = true then .ok none
      else (field entries "files_modified" (.list [])).toSet >>=
        compareOther py entries planFiles planObjective := rfl

theorem compareOther_cases (entries : List (PyValue × PyValue)) (files : Finset HashKey) :
    (Returns (compareOther py entries planFiles planObjective files) ↔
      SharesFiles planFiles files ∨
        Returns (similarObjective py planObjective (field entries "objective" (.str [])))) ∧
    ((∃ message, compareOther py entries planFiles planObjective files = .ok (some message)) ↔
      SharesFiles planFiles files ∨
        similarObjective py planObjective (field entries "objective" (.str [])) = .ok true) := by
  unfold compareOther SharesFiles
  split
  · next shares =>
      rw [Bool.and_eq_true, decide_eq_true_eq] at shares
      exact ⟨iff_of_true (returns_pure _) (.inl shares), iff_of_true ⟨_, rfl⟩ (.inl shares)⟩
  · next apart =>
      rw [Bool.and_eq_true, decide_eq_true_eq] at apart
      rw [or_iff_right apart, or_iff_right apart]
      rcases similarObjective py planObjective (field entries "objective" (.str [])) with
        raised | _ | _
      · exact ⟨iff_of_false nofun nofun, iff_of_false nofun nofun⟩
      · exact ⟨iff_of_true ⟨_, rfl⟩ ⟨_, rfl⟩, iff_of_false nofun nofun⟩
      · exact ⟨iff_of_true ⟨_, rfl⟩ ⟨_, rfl⟩, iff_of_true ⟨_, rfl⟩ rfl⟩

theorem compareApproved_cases (approved : PyValue) :
    (Returns (compareApproved py agentId planFiles planObjective approved) ↔
      Comparable agentId planFiles planObjective approved) ∧
    ((∃ message, compareApproved py agentId planFiles planObjective approved =
        .ok (some message)) ↔ Alike py agentId planFiles planObjective approved) := by
  unfold Comparable Alike
  cases approved with
  | dict entries =>
      have single {holds : List (PyValue × PyValue) → Prop} :
          (∃ others, PyValue.dict entries = .dict others ∧ holds others) ↔ holds entries :=
        ⟨fun ⟨_, same, own⟩ => PyValue.dict.inj same ▸ own, fun own => ⟨entries, rfl, own⟩⟩
      rw [single, single, compareApproved_dict]
      unfold OwnPlan
      by_cases own : (field entries "agent_id" .none).isStr agentId = true
      · rw [if_pos own]
        exact ⟨iff_of_true ⟨_, rfl⟩ (.inl own), iff_of_false nofun fun other => other.1 own⟩
      · rw [if_neg own, or_iff_right own, and_iff_right own]
        rcases (field entries "files_modified" (.list [])).toSet with raised | files
        · exact ⟨iff_of_false nofun nofun, iff_of_false nofun nofun⟩
        · obtain ⟨returns, alike⟩ := @compareOther_cases py planFiles planObjective entries files
          obtain ⟨similarReturns, similar⟩ := @similarObjective_cases py planObjective
            (field entries "objective" (.str []))
          rw [similarReturns] at returns
          rw [similar] at alike
          have found {holds : Finset HashKey → Prop} :
              (∃ others, Except.ok (ε := PyExc) files = .ok others ∧ holds others) ↔ holds files :=
            ⟨fun ⟨_, same, own⟩ => Except.ok.inj same ▸ own, fun own => ⟨files, rfl, own⟩⟩
          rw [found, found]
          exact ⟨returns, alike⟩
  | _ =>
      refine ⟨iff_of_false nofun ?_, iff_of_false nofun ?_⟩
      · rintro ⟨_, same, -⟩
        cases same
      · rintro ⟨_, same, -⟩
        cases same

/-- Only lines before the first alike one have to be readable. -/
theorem readableLines_cons {line : Text} {rest : List Text} :
    ReadableLines py agentId planFiles planObjective (line :: rest) ↔
      ReadableLine py agentId planFiles planObjective line ∧
        (AlikeLine py agentId planFiles planObjective line ∨
          ReadableLines py agentId planFiles planObjective rest) := by
  constructor
  · intro readable
    refine ⟨readable [] line rest rfl nofun, or_iff_not_imp_left.mpr fun apart => ?_⟩
    rintro before other after rfl earlier
    exact readable (line :: before) other after rfl (List.forall_mem_cons.mpr ⟨apart, earlier⟩)
  · rintro ⟨own, later⟩ before other after same earlier
    cases before with
    | nil =>
        cases same
        exact own
    | cons first before =>
        cases same
        obtain ⟨apart, between⟩ := List.forall_mem_cons.mp earlier
        exact later.resolve_left apart before other after rfl between

theorem compareLines_returns_iff (lines : List Text) :
    Returns (compareLines py agentId planFiles planObjective lines) ↔
      ReadableLines py agentId planFiles planObjective lines := by
  induction lines with
  | nil =>
      refine iff_of_true (returns_ok _) fun before line after same => ?_
      exact absurd same.symm (List.append_ne_nil_of_right_ne_nil _ (List.cons_ne_nil _ _))
  | cons line rest ih =>
      rw [readableLines_cons, ← ih, compareLines]
      unfold ReadableLine AlikeLine
      split
      · next blank =>
          rw [List.isEmpty_iff] at blank
          rw [and_iff_right (.inl blank)]
          exact (or_iff_right fun alike => alike.1 blank).symm
      · next text =>
          rw [List.isEmpty_iff] at text
          rw [or_iff_right text, and_iff_right text]
          rcases py.loads line.strip with raised | approved
          · have apart : ¬ ∃ approved, Except.error (α := PyValue) raised = .ok approved ∧
                Alike py agentId planFiles planObjective approved := nofun
            rw [or_iff_right apart]
            cases raised with
            | jsonDecodeError => exact (and_iff_right rfl).symm
            | _ => exact iff_of_false nofun fun other => nomatch other.1
          · obtain ⟨comparable, alike⟩ :=
              @compareApproved_cases py agentId planFiles planObjective approved
            have own : (∃ other, Except.ok (ε := PyExc) approved = .ok other ∧
                Alike py agentId planFiles planObjective other) ↔
                Alike py agentId planFiles planObjective approved :=
              ⟨fun ⟨_, same, holds⟩ => Except.ok.inj same ▸ holds, fun holds => ⟨_, rfl, holds⟩⟩
            dsimp only
            rw [own, ← comparable, ← alike]
            rcases compareApproved py agentId planFiles planObjective approved with
              raised | _ | message
            · exact iff_of_false nofun fun other => nomatch other.1
            · refine (and_iff_right (returns_ok _)).symm.trans (and_congr_right fun _ => ?_)
              exact (or_iff_right nofun).symm
            · exact iff_of_true ⟨_, rfl⟩ ⟨⟨_, rfl⟩, .inl ⟨_, rfl⟩⟩

/-- The files of the plan form a set, and the approved plans, if there is something to compare,
are readable up to the first of which the plan looks like a duplicate. -/
def DuplicateSound (py : PyRuntime) (self : PlanReviewer) (agentId content : Text)
    (entries : List (PyValue × PyValue)) : Prop :=
  ∀ read, self.approvedPlans = some read →
    ∃ files, (field entries "files_modified" (.list [])).toSet = .ok files ∧
      ((files = ∅ ∧ extractObjective content = []) ∨
        ∃ text, read = .ok text ∧
          ReadableLines py agentId files (extractObjective content) (Text.splitlines text))

/-- The comparison of the plan, once its files are a set. -/
def compareWith (py : PyRuntime) (agentId content : Text) (read : Except PyExc Text)
    (planFiles : Finset HashKey) : Except PyExc CheckOutcome := do
  if planFiles = ∅ ∧ extractObjective content = [] then
    return (true, "No files or objective to compare")
  compareLines py agentId planFiles (extractObjective content) (Text.splitlines (← read))

theorem compareWith_returns_iff {read : Except PyExc Text} :
    Returns (compareWith py agentId content read planFiles) ↔
      (planFiles = ∅ ∧ extractObjective content = []) ∨
        ∃ text, read = .ok text ∧
          ReadableLines py agentId planFiles (extractObjective content) (Text.splitlines text) := by
  unfold compareWith
  split
  · next none => exact iff_of_true (returns_pure _) (.inl none)
  · next some =>
      rw [or_iff_right some, returns_bind_iff]
      exact exists_congr fun text => and_congr_right fun _ => compareLines_returns_iff _

theorem duplicateCheck_returns_iff {entries : List (PyValue × PyValue)}
    (has : HasFrontmatter py content entries) :
    Returns (duplicateCheck py self agentId content) ↔
      DuplicateSound py self agentId content entries := by
  unfold duplicateCheck DuplicateSound
  rcases self.approvedPlans with _ | read
  · exact iff_of_true (returns_ok _) nofun
  · have only {holds : Except PyExc Text → Prop} :
        (∀ other, some read = some other → holds other) ↔ holds read :=
      ⟨fun all => all read rfl, fun own _ same => Option.some.inj same ▸ own⟩
    dsimp only
    rw [only, hasFrontmatter_iff.mp has]
    change Returns ((field entries "files_modified" (.list [])).toSet >>=
      compareWith py agentId content read) ↔ _
    rw [returns_bind_iff]
    exact exists_congr fun files => and_congr_right fun _ => compareWith_returns_iff

/-! ## The review -/

/-- A review returns exactly if its three checks do. -/
theorem returns_iff_checks :
    Returns (reviewPlan py self agentId content) ↔
      Returns (scopeCheck py self agentId content) ∧
        Returns (dependencyCheck py self content) ∧
        Returns (duplicateCheck py self agentId content) := by
  unfold reviewPlan
  simp only [returns_bind_iff, returns_pure, and_true]
  exact ⟨fun ⟨_, scope, _, dependency, duplicate⟩ => ⟨⟨_, scope⟩, ⟨_, dependency⟩, duplicate⟩,
    fun ⟨⟨_, scope⟩, ⟨_, dependency⟩, duplicate⟩ => ⟨_, scope, _, dependency, duplicate⟩⟩

/-- A review returns a decision exactly if the frontmatter is a dictionary (or missing, empty or
not YAML), the files of the plan are strings that form a set, as far as they are looked at, the
dependencies are strings, if they are reported, and the approved plans are dictionaries with files
that form a set and objectives that are strings, up to the first similar one. -/
theorem reviewPlan_returns_iff (py : PyRuntime) (self : PlanReviewer) (agentId content : Text) :
    (∃ decision, reviewPlan py self agentId content = .ok decision) ↔
      ∃ entries, HasFrontmatter py content entries ∧ ScopeSound self agentId entries ∧
        DependencySound py self content entries ∧
        DuplicateSound py self agentId content entries := by
  change Returns (reviewPlan py self agentId content) ↔ _
  rw [returns_iff_checks, scopeCheck_returns_iff, dependencyCheck_returns_iff]
  constructor
  · rintro ⟨⟨entries, has, scope⟩, ⟨others, alsoHas, dependency⟩, duplicate⟩
    have same : others = entries := by
      have both := (hasFrontmatter_iff.mp alsoHas).symm.trans (hasFrontmatter_iff.mp has)
      cases both
      rfl
    subst same
    exact ⟨others, has, scope, dependency, (duplicateCheck_returns_iff has).mp duplicate⟩
  · rintro ⟨entries, has, scope, dependency, duplicate⟩
    exact ⟨⟨entries, has, scope⟩, ⟨entries, has, dependency⟩,
      (duplicateCheck_returns_iff has).mpr duplicate⟩

/-- A plan that names no files under the key for its files. -/
def nullFilesPlan : Text := "---\nfiles_modified:\n---\n"

/-- A runtime that parses the frontmatter of the plan. -/
def nullFilesRuntime : PyRuntime where
  casing := .plain
  safeLoad block :=
    if block = "files_modified:" then .ok (.dict [(.str "files_modified", .none)])
    else .error .yamlError
  loads _ := .error .jsonDecodeError
  dumps _ := []
  repr _ := []

/-- The review of a plan with null files raises once there is a file of approved plans, though
the scope check takes them for no files. -/
theorem null_files_raise :
    ¬ ∃ decision, reviewPlan nullFilesRuntime
      { agents := [], projectStatus := none, approvedPlans := some (.ok []) } "alpha"
      nullFilesPlan = .ok decision := by
  intro returns
  have block : frontmatterBlock nullFilesPlan = some "files_modified:" := by decide +kernel
  have parsed : extractFrontmatter nullFilesRuntime nullFilesPlan =
      .ok (.dict [(.str "files_modified", .none)]) := by
    rw [extractFrontmatter, block]
    rfl
  obtain ⟨-, -, duplicate⟩ := returns_iff_checks.mp returns
  rw [duplicateCheck_returns_iff (hasFrontmatter_iff.mpr parsed)] at duplicate
  obtain ⟨files, isSet, -⟩ := duplicate (.ok []) rfl
  cases isSet

end Vcompany.Strategist
