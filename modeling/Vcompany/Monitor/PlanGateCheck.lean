import Vcompany.Foundation.Text
import Mathlib.Data.Rat.Defs
import Mathlib.Data.List.Nodup

/-! # Detecting new plans

`check_plan_gate` scans an agent's plan directory and compares the modification
times with those the previous call returned. An empty mapping stands for the first
call, and also comes from a scan without plans, from a missing directory and from
a scan that raised. `reportsChanges_iff` says for which sequences of scans every
change is reported by the check that follows it.
-/

namespace Vcompany.Monitor

open Foundation

/-- The modification times of plan files, one for each path. -/
structure Mtimes where
  entries : List (Text × ℚ)
  distinct : (entries.map Prod.fst).Nodup
  deriving DecidableEq

namespace Mtimes

/-- The empty mapping. -/
def empty : Mtimes where
  entries := []
  distinct := List.nodup_nil

/-- `mtimes.get(path)`. -/
def get (mtimes : Mtimes) (path : Text) : Option ℚ :=
  (mtimes.entries.find? fun entry => entry.1 = path).map Prod.snd

/-- A path has the modification time of its entry. -/
theorem get_eq_some_iff (mtimes : Mtimes) (path : Text) (mtime : ℚ) :
    mtimes.get path = some mtime ↔ (path, mtime) ∈ mtimes.entries := by
  obtain ⟨entries, distinct⟩ := mtimes
  unfold get
  dsimp only
  induction entries with
  | nil => simp
  | cons entry rest ih =>
      rw [List.map_cons, List.nodup_cons] at distinct
      rw [List.find?_cons, List.mem_cons]
      by_cases own : entry.1 = path
      · simp only [own, decide_true, Option.map_some, Option.some.injEq]
        have absent : (path, mtime) ∉ rest := fun member =>
          distinct.1 (own ▸ List.mem_map_of_mem (f := Prod.fst) member)
        rw [or_iff_left absent]
        exact ⟨fun same => Prod.ext own.symm same.symm, fun same => (congrArg Prod.snd same).symm⟩
      · simp only [own, decide_false]
        rw [ih distinct.2, or_iff_right fun same => own (congrArg Prod.fst same).symm]

end Mtimes

/-- A check's result. -/
structure CheckResult where
  checkType : Text
  agentId : Text
  passed : Bool
  detail : Text
  newPlans : List Text := []
  deriving DecidableEq

/-- What one call finds of an agent's plan directory: whether it exists, the plans
in it, and the exception that the scan raises, if any. -/
structure PlanScan where
  phasesDir : Bool
  plans : Mtimes
  raised : Option Text
  deriving DecidableEq

/-- The plan files that there are when the scan is made. -/
def PlanScan.snapshot (scan : PlanScan) : Mtimes :=
  if scan.phasesDir then scan.plans else .empty

/-- The paths that are new or have a later modification time. -/
def newOrModified (lastPlanMtimes currentMtimes : Mtimes) : List Text :=
  (currentMtimes.entries.filter fun entry =>
    match lastPlanMtimes.get entry.1 with
    | none => true
    | some known => decide (known < entry.2)).map Prod.fst

/-- A number in decimal notation. -/
def decimal (n : ℕ) : Text := (Nat.repr n).toList

/-- `check_plan_gate`. -/
def checkPlanGate (agentId : Text) (scan : PlanScan) (lastPlanMtimes : Mtimes) :
    CheckResult × Mtimes :=
  match scan.raised with
  | some exception =>
      ({ checkType := "plan_gate", agentId := agentId, passed := false
         detail := "Plan gate check error: " ++ exception }, .empty)
  | none =>
      if !scan.phasesDir then
        ({ checkType := "plan_gate", agentId := agentId, passed := true
           detail := "No phases directory found" }, .empty)
      else if lastPlanMtimes.entries.length = 0 then
        ({ checkType := "plan_gate", agentId := agentId, passed := true
           detail := "First run: seeded " ++ decimal scan.plans.entries.length ++
             (" plan mtimes" : Text) }, scan.plans)
      else
        let newPlans := newOrModified lastPlanMtimes scan.plans
        ({ checkType := "plan_gate", agentId := agentId, passed := true
           detail :=
             if newPlans = [] then "No new plans"
             else "Found " ++ decimal newPlans.length ++ (" new/modified plan(s)" : Text)
           newPlans := newPlans }, scan.plans)

/-- The results of successive calls, each given what the one before returned. -/
def checkResults (agentId : Text) : Mtimes → List PlanScan → List CheckResult
  | _, [] => []
  | lastPlanMtimes, scan :: rest =>
      let (result, mtimes) := checkPlanGate agentId scan lastPlanMtimes
      result :: checkResults agentId mtimes rest

/-! ## Changes between two scans -/

/-- The plan file appears between the snapshots, or its modification time grows. -/
def Changed (earlier later : Mtimes) (path : Text) : Prop :=
  ∃ mtime, later.get path = some mtime ∧ ∀ known, earlier.get path = some known → known < mtime

/-- The comparison finds exactly the changed files. -/
theorem mem_newOrModified_iff (earlier later : Mtimes) (path : Text) :
    path ∈ newOrModified earlier later ↔ Changed earlier later path := by
  unfold newOrModified Changed
  simp only [List.mem_map, List.mem_filter, Prod.exists, exists_and_right, exists_eq_right,
    Mtimes.get_eq_some_iff later]
  refine exists_congr fun mtime => and_congr_right fun _ => ?_
  cases earlier.get path with
  | none => simp
  | some known => simp

/-- What a call returns for the next one depends on its scan alone. -/
def PlanScan.returned (scan : PlanScan) : Mtimes :=
  if scan.raised = none then scan.snapshot else .empty

theorem checkPlanGate_mtimes (agentId : Text) (scan : PlanScan) (lastPlanMtimes : Mtimes) :
    (checkPlanGate agentId scan lastPlanMtimes).2 = scan.returned := by
  unfold checkPlanGate PlanScan.returned PlanScan.snapshot
  cases scan.raised with
  | some exception => rfl
  | none =>
      cases scan.phasesDir with
      | false => rfl
      | true =>
          dsimp only
          rw [if_neg (by simp), if_pos rfl, if_pos rfl]
          split <;> rfl

/-- A call reports the changes since the mapping it was given, unless that is empty
or its own scan raises. -/
theorem checkPlanGate_newPlans (agentId : Text) (scan : PlanScan) (lastPlanMtimes : Mtimes) :
    (checkPlanGate agentId scan lastPlanMtimes).1.newPlans =
      if scan.raised = none ∧ lastPlanMtimes.entries ≠ [] then
        newOrModified lastPlanMtimes scan.snapshot
      else [] := by
  unfold checkPlanGate PlanScan.snapshot
  cases scan.raised with
  | some exception => rfl
  | none =>
      cases scan.phasesDir with
      | false => simp [newOrModified, Mtimes.empty]
      | true =>
          dsimp only
          by_cases first : lastPlanMtimes.entries.length = 0
          · rw [if_neg (by simp), if_pos first,
              if_neg fun compared => compared.2 (List.length_eq_zero_iff.mp first)]
          · have compared : (none : Option Text) = none ∧ lastPlanMtimes.entries ≠ [] :=
              ⟨rfl, fun empty => first (List.length_eq_zero_iff.mpr empty)⟩
            rw [if_neg (by simp), if_neg first, if_pos compared, if_pos rfl]

/-- Every call after the first is given what the one before returned. -/
theorem checkResults_getElem_succ (agentId : Text) {lastPlanMtimes : Mtimes}
    {scans : List PlanScan} {k : ℕ} {earlier later : PlanScan}
    (before : scans[k]? = some earlier) (after : scans[k + 1]? = some later) :
    (checkResults agentId lastPlanMtimes scans)[k + 1]? =
      some (checkPlanGate agentId later earlier.returned).1 := by
  induction k generalizing lastPlanMtimes scans with
  | zero =>
      obtain ⟨first, rest, rfl⟩ := List.exists_cons_of_ne_nil (List.ne_nil_of_mem
        (List.mem_of_getElem? before))
      cases Option.some.inj before
      obtain ⟨second, rest, rfl⟩ := List.exists_cons_of_ne_nil (List.ne_nil_of_mem
        (List.mem_of_getElem? (l := rest) (i := 0) after))
      cases Option.some.inj after
      simp only [checkResults, checkPlanGate_mtimes, List.getElem?_cons_succ,
        List.getElem?_cons_zero]
  | succ k ih =>
      obtain ⟨first, rest, rfl⟩ := List.exists_cons_of_ne_nil (List.ne_nil_of_mem
        (List.mem_of_getElem? before))
      rw [List.getElem?_cons_succ] at before after
      simp only [checkResults, List.getElem?_cons_succ]
      exact ih before after

/-! ## Which changes are reported -/

/-- The first call reports nothing, and every later one exactly the files that
changed since the scan before its own. -/
def ReportsChanges (agentId : Text) (scans : List PlanScan) : Prop :=
  (∀ result, (checkResults agentId .empty scans)[0]? = some result → result.newPlans = []) ∧
    ∀ k earlier later, scans[k]? = some earlier → scans[k + 1]? = some later →
      ∃ result, (checkResults agentId .empty scans)[k + 1]? = some result ∧
        ∀ path, path ∈ result.newPlans ↔ Changed earlier.snapshot later.snapshot path

/-- **No plan escapes.** The checks report exactly the changes between consecutive
scans, if and only if between any two scans nothing changes, or neither raises and
the earlier one has a plan. -/
theorem reportsChanges_iff (agentId : Text) (scans : List PlanScan) :
    ReportsChanges agentId scans ↔
      ∀ k earlier later, scans[k]? = some earlier → scans[k + 1]? = some later →
        (earlier.raised = none ∧ later.raised = none ∧ earlier.snapshot.entries ≠ []) ∨
          ∀ path, ¬ Changed earlier.snapshot later.snapshot path := by
  have baseline :
      ∀ result, (checkResults agentId .empty scans)[0]? = some result → result.newPlans = [] := by
    intro result found
    cases scans with
    | nil => cases found
    | cons scan rest =>
        have first : (checkPlanGate agentId scan .empty).1 = result := Option.some.inj found
        rw [← first, checkPlanGate_newPlans, if_neg fun ⟨_, nonempty⟩ => nonempty rfl]
  unfold ReportsChanges
  rw [and_iff_right baseline]
  refine forall₃_congr fun k earlier later => forall₂_congr fun before after => ?_
  rw [checkResults_getElem_succ agentId before after]
  simp only [Option.some.injEq, exists_eq_left', checkPlanGate_newPlans]
  by_cases compared : later.raised = none ∧ earlier.returned.entries ≠ []
  · rw [if_pos compared]
    obtain ⟨scanned, nonempty⟩ := compared
    unfold PlanScan.returned at nonempty ⊢
    split at nonempty
    · rename_i read
      simp only [read, if_true, mem_newOrModified_iff, implies_true, true_iff]
      exact Or.inl ⟨trivial, scanned, nonempty⟩
    · exact absurd rfl nonempty
  · rw [if_neg compared]
    simp only [List.not_mem_nil, false_iff]
    refine (or_iff_right ?_).symm
    rintro ⟨read, scanned, nonempty⟩
    refine compared ⟨scanned, ?_⟩
    rw [PlanScan.returned, if_pos read]
    exact nonempty

/-- A scan that finds one plan. -/
def onePlanScan : PlanScan where
  phasesDir := true
  plans := { entries := [("01-01-PLAN.md", 1)], distinct := List.nodup_singleton _ }
  raised := none

/-- The first plan of an agent is taken for the baseline. -/
theorem first_plan_unreported :
    ¬ ReportsChanges "a" [{ phasesDir := true, plans := .empty, raised := none }, onePlanScan] := by
  rintro ⟨_, reported⟩
  obtain ⟨result, found, changes⟩ := reported 0 _ _ rfl rfl
  cases Option.some.inj found
  have missed : ("01-01-PLAN.md" : Text) ∈ ([] : List Text) :=
    (changes "01-01-PLAN.md").mpr ⟨1, by decide +kernel, nofun⟩
  cases missed

end Vcompany.Monitor
