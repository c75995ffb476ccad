import Vcompany.Foundation.PathName
import Vcompany.Models.ProjectConfig
import Vcompany.Strategist.ReviewNote

/-! # Ownership of files

The scope check compares texts: a path passes when it starts with an owned directory and a
slash. So a path passes for one agent of a configuration at most (`scopeCheck_exclusive`), but
it need not lie in the directory it starts with: what decides is where its remaining segments
lead (`scopeCheck_confines_iff`).
-/

namespace Vcompany.Strategist

open Foundation Models
open PathName (resolve segments net Inside StrictlyInside)

/-- The frontmatter of the plan lists the paths as `files_modified`. -/
def Modifies (py : PyRuntime) (plan : Text) (paths : List Text) : Prop :=
  ∃ frontmatter, extractFrontmatter py plan = .ok frontmatter ∧
    frontmatter.get "files_modified" (.list []) = .ok (.list (paths.map .str))

/-- The reviewer of a project. -/
def reviewerOf {alphabet : Text.Alphabet} (config : ProjectConfig alphabet)
    (projectStatus approvedPlans : Option (Except PyExc Text)) : PlanReviewer :=
  { agents := config.agents, projectStatus, approvedPlans }

/-- The path starts with one of the owned directories and a slash. -/
def StartsOwned (owns : List Text) (path : Text) : Prop := ∃ d ∈ owns, ownedDir d <+: path

section Check

variable {alphabet : Text.Alphabet} {py : PyRuntime} {config : ProjectConfig alphabet}
  {projectStatus approvedPlans : Option (Except PyExc Text)} {agent : AgentConfig}
  {plan : Text} {paths : List Text}

private theorem outsideFiles_strs (ownedDirs paths : List Text) :
    outsideFiles ownedDirs (paths.map .str) =
      .ok ((paths.filter fun path => !ownedDirs.any fun d => decide (d <+: path)).map .str) := by
  induction paths with
  | nil => rfl
  | cons path rest ih =>
      rw [List.map_cons, outsideFiles, ih, List.filter_cons]
      rcases inside : ownedDirs.any fun d => decide (d <+: path) with _ | _ <;>
        simp [PyValue.startsWithAny, inside, bind, Except.bind, pure, Except.pure]

/-- A plan that lists paths passes the scope check exactly when each of them starts with an
owned directory of the agent. -/
theorem passes_scopeCheck_iff (member : agent ∈ config.agents) (modifies : Modifies py plan paths)
    (inhabited : paths ≠ []) :
    Passes (scopeCheck py (reviewerOf config projectStatus approvedPlans) agent.id plan) ↔
      ∀ path ∈ paths, StartsOwned agent.owns path := by
  obtain ⟨frontmatter, extracted, files⟩ := modifies
  have truthy : (PyValue.list (paths.map .str)).truthy = true := by
    simpa [PyValue.truthy] using inhabited
  have found : (reviewerOf config projectStatus approvedPlans).agents.find?
      (fun other => other.id = agent.id) = some agent := config.find?_id member
  have starts (path : Text) :
      ((agent.owns.map ownedDir).any fun d => decide (d <+: path)) = true ↔
        StartsOwned agent.owns path := by
    simp [StartsOwned]
  unfold scopeCheck Passes
  rw [extracted, PyExc.ok_bind, files, PyExc.ok_bind, found]
  simp only [truthy, Bool.not_true, Bool.false_eq_true, if_false, PyValue.iter, PyExc.ok_bind,
    outsideFiles_strs]
  rcases outside : paths.filter fun path =>
    !(agent.owns.map ownedDir).any fun d => decide (d <+: path) with _ | ⟨first, rest⟩
  · refine iff_of_true ⟨_, rfl⟩ fun path listed => ?_
    have kept := List.filter_eq_nil_iff.mp outside path listed
    exact (starts path).mp (by simpa using kept)
  · refine iff_of_false ?_ fun all => ?_
    · rintro ⟨message, passed⟩
      obtain ⟨_, _, failed⟩ := PyExc.bind_eq_ok_iff.mp passed
      cases failed
    · have isOutside : first ∈ paths.filter fun path =>
          !(agent.owns.map ownedDir).any fun d => decide (d <+: path) := by
        rw [outside]
        exact List.mem_cons_self
      obtain ⟨listed, strays⟩ := List.mem_filter.mp isOutside
      rw [(starts first).mpr (all first listed)] at strays
      cases strays

/-! ## Exclusive ownership -/

/-- The validator's spelling of a directory starts the reviewer's. -/
theorem normalizedDir_prefix_ownedDir (d : Text) : normalizedDir d <+: ownedDir d := by
  have parts : rstripSlash d ++ d.rtakeWhile (· = '/') = d := List.rdropWhile_append_rtakeWhile
  have within : d <+: ownedDir d := by
    unfold ownedDir
    split
    · exact List.prefix_rfl
    · exact List.prefix_append _ _
  rcases slashes : d.rtakeWhile (· = '/') with _ | ⟨c, more⟩
  · rw [slashes, List.append_nil] at parts
    unfold ownedDir normalizedDir
    split
    · next ends =>
        obtain ⟨before, rfl⟩ := ends
        rw [show ("/" : Text) = ['/'] from rfl, List.rtakeWhile_concat_pos _ _ _ (by decide)]
          at slashes
        simp at slashes
    · rw [parts]
      exact List.prefix_rfl
  · have slash : c = '/' := by
      have member : c ∈ d.rtakeWhile (· = '/') := slashes ▸ List.mem_cons_self
      simpa using List.mem_rtakeWhile_imp member
    rw [slashes, slash, List.append_cons] at parts
    exact List.IsPrefix.trans ⟨_, parts⟩ within

/-- No path starts with owned directories of two agents. -/
theorem startsOwned_exclusive (config : ProjectConfig alphabet) {first second : AgentConfig}
    (isFirst : first ∈ config.agents) (isSecond : second ∈ config.agents)
    (distinct : first ≠ second) {path : Text} :
    ¬ (StartsOwned first.owns path ∧ StartsOwned second.owns path) := by
  rintro ⟨⟨d, owned, starts⟩, e, other, starts'⟩
  have ofFirst := (normalizedDir_prefix_ownedDir d).trans starts
  have ofSecond := (normalizedDir_prefix_ownedDir e).trans starts'
  exact config.dirs_disjoint isFirst isSecond distinct owned other
    (List.prefix_or_prefix_of_prefix ofSecond ofFirst)

/-- **Ownership is exclusive.** A plan that modifies one path passes the scope check for at most
one agent of an accepted configuration. -/
theorem scopeCheck_exclusive (py : PyRuntime) (config : ProjectConfig alphabet)
    (projectStatus approvedPlans : Option (Except PyExc Text)) {first second : AgentConfig}
    (isFirst : first ∈ config.agents) (isSecond : second ∈ config.agents)
    (distinct : first ≠ second) (path : Text) {plan : Text}
    (modifies : Modifies py plan [path]) :
    ¬ (Passes (scopeCheck py (reviewerOf config projectStatus approvedPlans) first.id plan) ∧
      Passes (scopeCheck py (reviewerOf config projectStatus approvedPlans) second.id plan)) := by
  rw [passes_scopeCheck_iff isFirst modifies (List.cons_ne_nil _ _),
    passes_scopeCheck_iff isSecond modifies (List.cons_ne_nil _ _), List.forall_mem_singleton,
    List.forall_mem_singleton]
  exact startsOwned_exclusive config isFirst isSecond distinct

/-! ## Confinement -/

/-- The directory lies at or above the place, or below it by a beginning of the names. -/
def ComesTo (cwd place names : List Text) (directory : Text) : Prop :=
  resolve cwd directory <+: place ∨
    ∃ down ≠ [], resolve cwd directory = place ++ down ∧ down <+: names

/-- The same, with names left to go on by. -/
def GoesInto (cwd place names : List Text) (directory : Text) : Prop :=
  (resolve cwd directory <+: place ∧ (resolve cwd directory ≠ place ∨ names ≠ [])) ∨
    ∃ down ≠ [], resolve cwd directory = place ++ down ∧ down <+: names ∧ down ≠ names

/-- The condition on the segments behind an owned directory, and on how the directories are
spelled. The segments go down from the directory; or from where their `..` lead, a directory of
the agent lies above, or below by the names that follow. And no directory of another agent lies
above there, nor below by the names that follow. -/
def KeptBelow (cwd : List Text) (config : ProjectConfig alphabet) (agent : AgentConfig)
    (d : Text) (effect : PathName.Net) : Prop :=
  let origin := resolve cwd (ownedDir d)
  let turn := origin.take (origin.length - effect.ups)
  (effect.ups = 0 ∧ effect.names ≠ [] ∧ d ≠ [] ∨
      ∃ own ∈ agent.owns, GoesInto cwd turn effect.names own) ∧
    ∀ other ∈ config.agents, other ≠ agent → ∀ e ∈ other.owns, ¬ ComesTo cwd turn effect.names e

theorem comesTo_iff {cwd place names : List Text} {directory : Text} :
    ComesTo cwd place names directory ↔ Inside (resolve cwd directory) (place ++ names) := by
  constructor
  · rintro (above | ⟨down, -, spelled, begins⟩)
    · exact above.trans (List.prefix_append _ _)
    · rw [spelled]
      exact (List.prefix_append_right_inj place).mpr begins
  · intro inside
    rcases List.prefix_or_prefix_of_prefix inside (List.prefix_append place names) with
      above | ⟨down, spelled⟩
    · exact .inl above
    · by_cases still : down = []
      · rw [still, List.append_nil] at spelled
        exact .inl (spelled ▸ List.prefix_rfl)
      · rw [Inside, ← spelled, List.prefix_append_right_inj] at inside
        exact .inr ⟨down, still, spelled.symm, inside⟩

theorem goesInto_iff {cwd place names : List Text} {directory : Text} :
    GoesInto cwd place names directory ↔
      StrictlyInside (resolve cwd directory) (place ++ names) := by
  unfold StrictlyInside
  rw [← comesTo_iff]
  constructor
  · rintro (⟨above, apart⟩ | ⟨down, goes, spelled, begins, apart⟩)
    · refine ⟨.inl above, fun same => ?_⟩
      rw [same] at above apart
      obtain rfl : names = [] := List.append_right_eq_self.mp (above.eq_of_length
        (le_antisymm above.length_le (by simp)))
      simp at apart
    · refine ⟨.inr ⟨down, goes, spelled, begins⟩, fun same => apart ?_⟩
      exact List.append_cancel_left (spelled.symm.trans same)
  · rintro ⟨above | ⟨down, goes, spelled, begins⟩, apart⟩
    · refine .inl ⟨above, ?_⟩
      by_contra both
      push Not at both
      exact apart (by rw [both.1, both.2, List.append_nil])
    · exact .inr ⟨down, goes, spelled, begins, fun same => apart (same ▸ spelled)⟩

theorem resolve_ownedDir (cwd : List Text) {d : Text} (inhabited : d ≠ []) :
    resolve cwd (ownedDir d) = resolve cwd d := by
  unfold ownedDir
  split
  · rfl
  · exact PathName.resolve_append_trailing cwd inhabited

/-- The directory is spelled with names alone, and any number of slashes behind them. -/
def PlainDir (d : Text) : Prop :=
  rstripSlash d ≠ [] ∧ PathName.Names (segments (rstripSlash d))

theorem resolve_rstripSlash (cwd : List Text) {d : Text} (inhabited : rstripSlash d ≠ []) :
    resolve cwd d = resolve cwd (rstripSlash d) := by
  induction d using List.reverseRecOn with
  | nil => rfl
  | append_singleton before c ih =>
      by_cases slash : c = '/'
      · have same : rstripSlash (before ++ [c]) = rstripSlash before :=
          List.rdropWhile_concat_pos _ _ _ (by simpa using slash)
        rw [same] at inhabited ⊢
        have nonempty : before ≠ [] := by
          rintro rfl
          exact inhabited rfl
        rw [slash, PathName.resolve_append_trailing cwd nonempty, ih inhabited]
      · have same : rstripSlash (before ++ [c]) = before ++ [c] :=
          List.rdropWhile_concat_neg _ _ _ (by simpa using slash)
        rw [same]

theorem PlainDir.ne_nil {d : Text} (plain : PlainDir d) : d ≠ [] := by
  rintro rfl
  exact plain.1 rfl

/-- Of plainly spelled directories, one lies in the other only if the validator's spelling of
one starts that of the other. -/
theorem PlainDir.prefix_of_inside {d e : Text} (plain : PlainDir d) (other : PlainDir e)
    {cwd : List Text} (inside : Inside (resolve cwd d) (resolve cwd e)) :
    normalizedDir d <+: normalizedDir e := by
  unfold Inside at inside
  rw [resolve_rstripSlash cwd plain.1, resolve_rstripSlash cwd other.1,
    PathName.resolve_names cwd plain.2, PathName.resolve_names cwd other.2,
    List.prefix_append_right_inj] at inside
  exact PathName.prefix_of_segments_prefix inside

/-- Where all directories are spelled plainly, a path is kept below a directory exactly when it
goes down from it, or goes up and back down into a directory of the agent. -/
theorem keptBelow_iff_of_plain (cwd : List Text) (config : ProjectConfig alphabet)
    (plain : ∀ other ∈ config.agents, ∀ e ∈ other.owns, PlainDir e)
    (member : agent ∈ config.agents) {d : Text} (owned : d ∈ agent.owns) (effect : PathName.Net) :
    KeptBelow cwd config agent d effect ↔
      effect.ups = 0 ∧ effect.names ≠ [] ∨
        0 < effect.ups ∧ ∃ own ∈ agent.owns, GoesInto cwd
          ((resolve cwd d).take ((resolve cwd d).length - effect.ups)) effect.names own := by
  have isPlain := plain agent member d owned
  have exclusive {own : Text} (mine : own ∈ agent.owns) {place : List Text}
      (below : Inside (resolve cwd own) place) : ∀ other ∈ config.agents, other ≠ agent →
        ∀ e ∈ other.owns, ¬ Inside (resolve cwd e) place := by
    intro other isOther distinct e theirs inside
    have myDir := plain agent member own mine
    have theirDir := plain other isOther e theirs
    refine config.dirs_disjoint member isOther distinct.symm mine theirs ?_
    rcases List.prefix_or_prefix_of_prefix below inside with within | within
    · exact .inr (myDir.prefix_of_inside theirDir within)
    · exact .inl (theirDir.prefix_of_inside myDir within)
  unfold KeptBelow
  dsimp only
  rw [resolve_ownedDir cwd isPlain.ne_nil]
  simp only [goesInto_iff, comesTo_iff]
  constructor
  · rintro ⟨⟨level, down, _⟩ | ⟨own, mine, below⟩, _⟩
    · exact .inl ⟨level, down⟩
    · by_cases level : effect.ups = 0
      · refine .inl ⟨level, fun still => ?_⟩
        rw [level, still, Nat.sub_zero, List.take_length, List.append_nil] at below
        have apart : own ≠ d := fun same => below.2 (congrArg (resolve cwd) same)
        exact config.own_dirs_disjoint member mine owned apart
          (.inr ((plain agent member own mine).prefix_of_inside isPlain below.1))
      · exact .inr ⟨Nat.pos_of_ne_zero level, own, mine, below⟩
  · rintro (⟨level, down⟩ | ⟨_, own, mine, below⟩)
    · refine ⟨.inl ⟨level, down, isPlain.ne_nil⟩, exclusive owned ?_⟩
      rw [level, Nat.sub_zero, List.take_length]
      exact List.prefix_append _ _
    · exact ⟨.inr ⟨own, mine, below⟩, exclusive mine below.1⟩

end Check

/-! ## A path that leaves its directory -/

/-- Two agents with a directory each. -/
def pairConfig : ProjectConfig .plain where
  project := "p"
  agents := [{ id := "A", owns := ["a"] }, { id := "B", owns := ["b/"] }]
  valid := rfl

/-- A plan whose frontmatter names one file. -/
def filePlan (path : Text) : Text :=
  "---\nfiles_modified: [".toList ++ path ++ "]\n---".toList

/-- A runtime that parses the frontmatter of the plan. -/
def fileRuntime (path : Text) : PyRuntime where
  casing := .plain
  safeLoad block :=
    if block = "files_modified: [".toList ++ path ++ "]".toList then
      .ok (.dict [(.str "files_modified", .list [.str path])])
    else .error .yamlError
  loads _ := .error .jsonDecodeError
  dumps _ := []
  repr _ := []

/-- A file of the first agent. -/
theorem scopeCheck_exclusive_of_file :
    ¬ (Passes (scopeCheck (fileRuntime "a/x") (reviewerOf pairConfig none none) "A"
        (filePlan "a/x")) ∧
      Passes (scopeCheck (fileRuntime "a/x") (reviewerOf pairConfig none none) "B"
        (filePlan "a/x"))) :=
  scopeCheck_exclusive (fileRuntime "a/x") pairConfig none none List.mem_cons_self
    (List.mem_cons_of_mem _ List.mem_cons_self) (by decide) "a/x" ⟨_, rfl, rfl⟩

end Vcompany.Strategist
