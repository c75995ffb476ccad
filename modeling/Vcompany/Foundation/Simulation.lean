import Vcompany.Foundation.Transition

/-! # Simulation

A machine answers one request after the other, and moves on. A specification says which
answers it permits and where they lead. If a relation between the two is kept whenever the
machine answers, and its answer is permitted, then every run of the machine is one that the
specification permits (`Simulates.run`). If the machine's state has a view, which some requests
leave as it is and the others change as a second machine does that answers them alike, then
whoever sees the view and those requests only sees a run of the second machine
(`Projects.exchanges`).
-/

namespace Vcompany.Foundation

variable {σ τ ι ω : Type*}

/-- The requests of a run, each with the answer of the machine. -/
def exchanges (step : σ → ι → ω × σ) : σ → List ι → List (ι × ω)
  | _, [] => []
  | state, request :: rest =>
      (request, (step state request).1) :: exchanges step (step state request).2 rest

/-- Where the requests lead. -/
def settle (step : σ → ι → ω × σ) (state : σ) (requests : List ι) : σ :=
  requests.foldl (fun state request => (step state request).2) state

section

variable {step : σ → ι → ω × σ} {state : σ} {requests later : List ι} {request : ι}

@[simp] theorem settle_nil : settle step state [] = state := rfl

@[simp] theorem settle_cons :
    settle step state (request :: requests) = settle step (step state request).2 requests := rfl

@[simp] theorem exchanges_nil : exchanges step state [] = [] := rfl

@[simp] theorem exchanges_cons :
    exchanges step state (request :: requests) =
      (request, (step state request).1) :: exchanges step (step state request).2 requests := rfl

theorem settle_append :
    settle step state (requests ++ later) = settle step (settle step state requests) later :=
  List.foldl_append

end

/-- What every step keeps of a state together with what has happened before it, a run keeps. -/
theorem Run.recorded {step : σ → ι → σ → Prop} {source target : σ} {labels : List ι}
    (holds : List ι → σ → Prop)
    (kept : ∀ past state label next, holds past state → step state label next →
      holds (past ++ [label]) next)
    (run : Run step source labels target) (start : holds [] source) : holds labels target := by
  have extends_past {past : List ι} (before : holds past source) :
      holds (past ++ labels) target := by
    clear start
    induction run generalizing past with
    | nil => rwa [List.append_nil]
    | cons stepped _ ih =>
        rw [List.append_cons]
        exact ih (kept past _ _ _ before stepped)
  exact extends_past start

/-- Moves that meet a condition, in states of a kind, are a run. -/
theorem EachMeets.run {κ : Type*} {step : σ → ι → σ → Prop} {move : σ → κ → σ}
    {guard : σ → κ → Prop} {name : κ → ι} {state : σ} {moves : List κ} (within : σ → Prop)
    (steps : ∀ state label, within state → guard state label →
      step state (name label) (move state label) ∧ within (move state label))
    (start : within state) (meets : EachMeets move guard state moves) :
    Run step state (moves.map name) (moves.foldl move state) := by
  induction moves generalizing state with
  | nil => exact .nil state
  | cons label rest ih =>
      obtain ⟨stepped, next⟩ := steps state label start meets.1
      exact .cons stepped (ih next meets.2)

/-- The relation is kept by every request, and each answer is one that the specification
permits. -/
def Simulates (step : σ → ι → ω × σ) (permits : τ → ι × ω → τ → Prop)
    (related : σ → τ → Prop) : Prop :=
  ∀ state spec request, related state spec →
    ∃ next, permits spec (request, (step state request).1) next ∧
      related (step state request).2 next

/-- A machine that is simulated step by step is simulated along every run. -/
theorem Simulates.run {step : σ → ι → ω × σ} {permits : τ → ι × ω → τ → Prop}
    {related : σ → τ → Prop} (simulates : Simulates step permits related) {state : σ} {spec : τ}
    (start : related state spec) (requests : List ι) :
    ∃ last, Run permits spec (exchanges step state requests) last ∧
      related (settle step state requests) last := by
  induction requests generalizing state spec with
  | nil => exact ⟨spec, .nil spec, start⟩
  | cons request rest ih =>
      obtain ⟨next, permitted, kept⟩ := simulates state spec request start
      obtain ⟨last, run, ends⟩ := ih kept
      exact ⟨last, .cons permitted run, ends⟩

/-- Two machines that answer alike in related states, and stay related, answer alike along every
list of requests. -/
theorem exchanges_eq_of_related {step : σ → ι → ω × σ} {other : τ → ι → ω × τ}
    (related : σ → τ → Prop)
    (kept : ∀ first second request, related first second →
      (step first request).1 = (other second request).1 ∧
        related (step first request).2 (other second request).2)
    {first : σ} {second : τ} (start : related first second) (requests : List ι) :
    exchanges step first requests = exchanges other second requests := by
  induction requests generalizing first second with
  | nil => rfl
  | cons request rest ih =>
      obtain ⟨same, next⟩ := kept first second request start
      rw [exchanges_cons, exchanges_cons, same, ih next]

/-- In valid states, the requests that are kept change the view, and are answered, as by the
second machine; the others leave the view as it is. -/
structure Projects {κ : Type*} (valid : σ → Prop) (step : σ → ι → ω × σ) (view : σ → τ)
    (keep : ι → Option κ) (viewed : τ → κ → ω × τ) : Prop where
  remains : ∀ state request, valid state → valid (step state request).2
  kept : ∀ state request other, valid state → keep request = some other →
    (step state request).1 = (viewed (view state) other).1 ∧
      view (step state request).2 = (viewed (view state) other).2
  silent : ∀ state request, valid state → keep request = none →
    view (step state request).2 = view state

namespace Projects

variable {κ : Type*} {valid : σ → Prop} {step : σ → ι → ω × σ} {view : σ → τ}
  {keep : ι → Option κ} {viewed : τ → κ → ω × τ} {state : σ}

/-- The view goes where the second machine goes. -/
theorem settle (projects : Projects valid step view keep viewed) (start : valid state)
    (requests : List ι) :
    view (Foundation.settle step state requests) =
      Foundation.settle viewed (view state) (requests.filterMap keep) := by
  induction requests generalizing state with
  | nil => rfl
  | cons request rest ih =>
      rw [settle_cons, ih (projects.remains state request start)]
      rcases same : keep request with _ | other
      · rw [List.filterMap_cons_none same, projects.silent state request start same]
      · rw [List.filterMap_cons_some same, settle_cons,
          (projects.kept state request other start same).2]

/-- The requests that are kept are answered as by the second machine. -/
theorem exchanges (projects : Projects valid step view keep viewed) (start : valid state)
    (requests : List ι) :
    (Foundation.exchanges step state requests).filterMap
        (fun exchange => (keep exchange.1).map (·, exchange.2)) =
      Foundation.exchanges viewed (view state) (requests.filterMap keep) := by
  induction requests generalizing state with
  | nil => rfl
  | cons request rest ih =>
      have later := ih (projects.remains state request start)
      rw [exchanges_cons]
      rcases same : keep request with _ | other
      · rw [List.filterMap_cons_none (by rw [same]; rfl), List.filterMap_cons_none same, later,
          projects.silent state request start same]
      · have answered := projects.kept state request other start same
        rw [List.filterMap_cons_some (by rw [same]; rfl), List.filterMap_cons_some same, later,
          exchanges_cons, answered.1, answered.2]

end Projects

end Vcompany.Foundation
