import Vcompany.Bot.QuestionEmbed

/-! # The embed of the health tree

`build_health_tree_embed` renders the company's own agents in one field and each project in a
field of its own, up to 24 of them; a further field counts the projects that are left. Discord
allows 25 fields, and the field of the company's agents is not counted, so the embed fits
exactly when there are no such agents or at most 24 projects (`healthTreeEmbed_fits_iff`).
-/

namespace Vcompany.Bot

open Foundation Daemon

/-- What the embed shows of a `HealthReport`: the time since the last activity is that at which
its line is formatted, in seconds. -/
structure HealthReport where
  agentId : Text
  state : Text
  innerState : Option Text := none
  uptime : ℚ
  sinceActivity : ℚ
  blockedReason : Option Text := none
  deriving DecidableEq

structure HealthTree where
  supervisorId : Text
  state : Text
  children : List HealthReport
  deriving DecidableEq

structure CompanyHealthTree where
  supervisorId : Text
  state : Text
  projects : List HealthTree
  companyAgents : List HealthReport

namespace HealthEmbed

/-- `STATE_INDICATORS`. -/
def stateIndicators : List (Text × Text) :=
  [("running", "🟢"), ("sleeping", "🔵"), ("errored", "🔴"), ("stopped", "⚫"),
    ("creating", "🟡"), ("destroyed", "⬛"), ("blocked", "🟠"), ("stopping", "🟡")]

/-- `_DEFAULT_INDICATOR`. -/
def defaultIndicator : Text := "❓"

def indicator (state : Text) : Text := (stateIndicators.lookup state).getD defaultIndicator

/-- `_fmt_uptime`. -/
def fmtUptime (seconds : ℚ) : Text :=
  let h := truncate seconds / 3600
  let m := truncate seconds % 3600 / 60
  let s := truncate seconds % 60
  if 0 < h then ("up " : Text) ++ intText h ++ ("h " : Text) ++ intText m ++ ("m" : Text)
  else if 0 < m then ("up " : Text) ++ intText m ++ ("m" : Text)
  else ("up " : Text) ++ intText s ++ ("s" : Text)

/-- `_fmt_last_activity`. -/
def fmtLastActivity (diff : ℚ) : Text :=
  if diff < 60 then ("active " : Text) ++ intText (truncate diff) ++ ("s ago" : Text)
  else if diff < 3600 then ("active " : Text) ++ intText ⌊diff / 60⌋ ++ ("m ago" : Text)
  else ("active " : Text) ++ intText ⌊diff / 3600⌋ ++ ("h ago" : Text)

/-- The text between two others, unless it is missing or empty. -/
def ifGiven (before : Text) (text : Option Text) (after : Text) : Text :=
  match text with
  | none | some [] => []
  | some given => before ++ given ++ after

/-- The line of a report. -/
def reportLine (r : HealthReport) : Text :=
  indicator r.state ++ (" **" : Text) ++ r.agentId ++ ("**: " : Text) ++ r.state ++
    ifGiven " (" r.innerState ")" ++ (" | " : Text) ++ fmtUptime r.uptime ++ (" | " : Text) ++
    fmtLastActivity r.sinceActivity ++ ifGiven " -- " r.blockedReason []

/-- A value cut off at the limit of Discord. -/
def clip (value : Text) : Text :=
  if 1024 < value.length then value.take 1021 ++ ("..." : Text) else value

/-- The lines of some reports. -/
def reportLines (reports : List HealthReport) : Text :=
  List.intercalate ['\n'] (reports.map reportLine)

def companyField (agents : List HealthReport) : EmbedField where
  name := "Company Agents"
  value := clip (reportLines agents)

def projectName (project : HealthTree) : Text := ("Project: " : Text) ++ project.supervisorId

/-- The field of a project. -/
def projectField (agentFilter : Option Text) (project : HealthTree) : EmbedField where
  name := projectName project
  value :=
    let children :=
      match agentFilter with
      | none => project.children
      | some agentId => project.children.filter fun child => child.agentId = agentId
    clip (if children = [] then "No agents" else reportLines children)

def overflowName (remaining : ℕ) : Text :=
  ("... and " : Text) ++ (Nat.repr remaining).toList ++ (" more projects" : Text)

def overflowField (remaining : ℕ) : EmbedField where
  name := overflowName remaining
  value := "Use project filter to see details"

/-- The loop over the projects, with `field_count` and `remaining`. -/
def projectFields (agentFilter : Option Text) :
    ℕ → ℕ → List HealthTree → List EmbedField
  | _, _, [] => []
  | fieldCount, remaining, project :: projects =>
      if 24 ≤ fieldCount then [overflowField remaining]
      else
        projectField agentFilter project ::
          projectFields agentFilter (fieldCount + 1) (remaining - 1) projects

def green : ℕ := 0x2ECC71

def red : ℕ := 0xE74C3C

/-- The description of the root. -/
def rootLine (tree : CompanyHealthTree) : Text :=
  indicator tree.state ++ (" **" : Text) ++ tree.supervisorId ++ ("**: " : Text) ++ tree.state

/-- `build_health_tree_embed`. -/
def buildHealthTreeEmbed (projectFilter agentFilter : Option Text) (tree : CompanyHealthTree) :
    Embed :=
  let allRunning :=
    tree.companyAgents.all (fun child => child.state = ("running" : Text)) &&
      tree.projects.all fun project => project.state = ("running" : Text)
  let company := if tree.companyAgents = [] then [] else [companyField tree.companyAgents]
  let projects :=
    match projectFilter with
    | none => tree.projects
    | some supervisorId => tree.projects.filter fun project => project.supervisorId = supervisorId
  let embed : Embed := {
    title := some "Health Tree"
    description := some (rootLine tree)
    color := some (if allRunning then green else red)
    fields := company }
  if (projects = [] ∧ tree.projects = [] ∧ tree.companyAgents = []) ∨
      (projects = [] ∧ projectFilter ≠ none) then
    { embed with description := some (rootLine tree ++ ("\nNo projects active" : Text)) }
  else { embed with fields := company ++ projectFields agentFilter 0 projects.length projects }

end HealthEmbed

namespace CompanyHealthTree

open HealthEmbed

/-- The embed is one that Discord takes, and each project has a field of its own, in the order
of the tree, or is counted in the field for the others. -/
structure Fits (tree : CompanyHealthTree) (embed : Embed) : Prop where
  fields : embed.fields.length ≤ 25
  values : ∀ field ∈ embed.fields, 1 ≤ field.value.length ∧ field.value.length ≤ 1024
  accounted : ∃ shown rest, tree.projects = shown ++ rest ∧
    (shown.map projectName).Sublist (embed.fields.map EmbedField.name) ∧
    (rest = [] ∨ overflowName rest.length ∈ embed.fields.map EmbedField.name)

end CompanyHealthTree

namespace HealthEmbed

variable {tree : CompanyHealthTree} {agentFilter : Option Text}

/-! ## Values -/

theorem clip_bounds {value : Text} (inhabited : 1 ≤ value.length) :
    1 ≤ (clip value).length ∧ (clip value).length ≤ 1024 := by
  unfold clip
  split
  · next long =>
      rw [List.length_append, List.length_take]
      change 1 ≤ min 1021 value.length + 3 ∧ min 1021 value.length + 3 ≤ 1024
      omega
  · next short => exact ⟨inhabited, Nat.not_lt.mp short⟩

theorem reportLine_pos (r : HealthReport) : 1 ≤ (reportLine r).length := by
  unfold reportLine
  simp only [List.length_append]
  have mark : (" **" : Text).length = 3 := rfl
  omega

theorem reportLines_pos {reports : List HealthReport} (inhabited : reports ≠ []) :
    1 ≤ (reportLines reports).length := by
  obtain ⟨r, rest, rfl⟩ := List.exists_cons_of_ne_nil inhabited
  have starts : reportLine r <+: reportLines (r :: rest) := by
    unfold reportLines
    cases rest with
    | nil => simp [List.intercalate]
    | cons next rest => simp [List.intercalate]
  exact (reportLine_pos r).trans starts.length_le

theorem projectField_bounds (agentFilter : Option Text) (project : HealthTree) :
    1 ≤ (projectField agentFilter project).value.length ∧
      (projectField agentFilter project).value.length ≤ 1024 := by
  have pos (children : List HealthReport) :
      1 ≤ (if children = [] then ("No agents" : Text) else reportLines children).length := by
    split
    · exact Nat.le_of_ble_eq_true rfl
    · next inhabited => exact reportLines_pos inhabited
  exact clip_bounds (pos _)

/-! ## Fields -/

/-- The loop shows the projects up to the 24th, and counts those that are left. -/
theorem projectFields_eq (agentFilter : Option Text) (projects : List HealthTree) :
    ∀ {fieldCount remaining : ℕ}, fieldCount ≤ 24 → remaining = projects.length →
      projectFields agentFilter fieldCount remaining projects =
        (projects.take (24 - fieldCount)).map (projectField agentFilter) ++
          if projects.length ≤ 24 - fieldCount then []
          else [overflowField (projects.length - (24 - fieldCount))] := by
  induction projects with
  | nil => intro fieldCount remaining _ _; simp [projectFields]
  | cons project projects ih =>
      intro fieldCount remaining within counted
      rw [projectFields, List.length_cons]
      split
      · next full =>
          obtain rfl : fieldCount = 24 := Nat.le_antisymm within full
          simp [counted]
      · next room =>
          have next : 24 - fieldCount = 24 - (fieldCount + 1) + 1 := by omega
          rw [ih (by omega) (by rw [counted, List.length_cons, Nat.add_sub_cancel]), next,
            List.take_succ_cons, List.map_cons, List.cons_append]
          simp only [Nat.add_le_add_iff_right, Nat.add_sub_add_right]

/-- The fields of an embed without filters. -/
theorem fields_unfiltered (tree : CompanyHealthTree) :
    (buildHealthTreeEmbed none none tree).fields =
      (if tree.companyAgents = [] then [] else [companyField tree.companyAgents]) ++
        ((tree.projects.take 24).map (projectField none) ++
          if tree.projects.length ≤ 24 then []
          else [overflowField (tree.projects.length - 24)]) := by
  have loop := projectFields_eq none tree.projects (Nat.zero_le 24) rfl
  rw [Nat.sub_zero] at loop
  unfold buildHealthTreeEmbed
  dsimp only
  split
  · next quiet =>
      obtain ⟨none, -, agents⟩ : tree.projects = [] ∧ tree.projects = [] ∧
          tree.companyAgents = [] := quiet.resolve_right fun filtered => filtered.2 rfl
      simp [none, agents]
  · rw [← loop]

theorem values_unfiltered (tree : CompanyHealthTree) :
    ∀ field ∈ (buildHealthTreeEmbed none none tree).fields,
      1 ≤ field.value.length ∧ field.value.length ≤ 1024 := by
  rw [fields_unfiltered, List.forall_mem_append, List.forall_mem_append, List.forall_mem_map]
  refine ⟨?_, fun project _ => projectField_bounds none project, ?_⟩
  · split
    · exact nofun
    · next inhabited =>
        rw [List.forall_mem_singleton]
        exact clip_bounds (reportLines_pos inhabited)
  · split
    · exact nofun
    · rw [List.forall_mem_singleton]
      exact (by decide : 1 ≤ 33 ∧ 33 ≤ 1024)

theorem accounted_unfiltered (tree : CompanyHealthTree) :
    ∃ shown rest, tree.projects = shown ++ rest ∧
      (shown.map projectName).Sublist
        ((buildHealthTreeEmbed none none tree).fields.map EmbedField.name) ∧
      (rest = [] ∨ overflowName rest.length ∈
        (buildHealthTreeEmbed none none tree).fields.map EmbedField.name) := by
  refine ⟨tree.projects.take 24, tree.projects.drop 24, (List.take_append_drop _ _).symm, ?_, ?_⟩
  · rw [fields_unfiltered, List.map_append, List.map_append, List.map_map]
    exact (List.sublist_append_left _ _).trans (List.sublist_append_right _ _)
  · rw [fields_unfiltered, List.length_drop]
    by_cases all : tree.projects.length ≤ 24
    · exact .inl (List.drop_eq_nil_of_le all)
    · right
      rw [if_neg all, List.map_append, List.map_append]
      exact List.mem_append_right _ (List.mem_append_right _ List.mem_cons_self)

/-- **The health embed.** Without filters it fits, and accounts for every project, exactly when
the company has no agents of its own or at most 24 projects. -/
theorem healthTreeEmbed_fits_iff (tree : CompanyHealthTree) :
    tree.Fits (buildHealthTreeEmbed none none tree) ↔
      tree.companyAgents = [] ∨ tree.projects.length ≤ 24 := by
  have counted : (buildHealthTreeEmbed none none tree).fields.length =
      (if tree.companyAgents = [] then 0 else 1) +
        (min 24 tree.projects.length + if tree.projects.length ≤ 24 then 0 else 1) := by
    rw [fields_unfiltered, List.length_append, List.length_append, List.length_map,
      List.length_take, apply_ite List.length, apply_ite List.length]
    rfl
  constructor
  · intro fits
    have fields := fits.fields
    by_contra exceeds
    obtain ⟨agents, many⟩ := not_or.mp exceeds
    rw [counted, if_neg agents, if_neg many] at fields
    omega
  · intro room
    refine ⟨?_, values_unfiltered tree, accounted_unfiltered tree⟩
    rw [counted]
    rcases room with agents | few
    · rw [if_pos agents]
      split <;> omega
    · rw [if_pos few]
      split <;> omega

private def manyProjects : CompanyHealthTree where
  supervisorId := "company"
  state := "running"
  projects := List.replicate 25 ⟨"p", "running", []⟩
  companyAgents :=
    [{ agentId := "strategist", state := "running", uptime := 0, sinceActivity := 0 }]

/-- An agent of the company and 25 projects make 26 fields. -/
theorem manyProjects_not_fit :
    ¬ ∀ tree : CompanyHealthTree, tree.Fits (buildHealthTreeEmbed none none tree) := by
  intro claim
  have fields := (claim manyProjects).fields
  rw [fields_unfiltered] at fields
  exact absurd fields (by decide)

end HealthEmbed

end Vcompany.Bot
