import Mathlib.Data.List.Infix

/-! # Labelled transition systems

Runs of a step relation, the rule that carries an invariant along a run, and the
restriction of a system to the steps whose label meets a condition in the state
before it. Where each label determines the next state, a condition that is necessary and
sufficient for one step is so for a whole list of steps (`throughout_iff`), and what an
observer sees depends on the steps that concern it alone (`foldl_purge`).
-/

namespace Vcompany.Foundation

variable {σ ε : Type*}

/-- A run of a step relation along a list of labels. -/
inductive Run (step : σ → ε → σ → Prop) : σ → List ε → σ → Prop where
  | nil (state : σ) : Run step state [] state
  | cons {source middle target : σ} {label : ε} {labels : List ε} :
      step source label middle → Run step middle labels target →
      Run step source (label :: labels) target

/-- The steps whose label meets the condition in the state before. -/
def Guarded (step : σ → ε → σ → Prop) (guard : σ → ε → Prop) : σ → ε → σ → Prop :=
  fun source label target => guard source label ∧ step source label target

namespace Run

variable {step : σ → ε → σ → Prop} {source target : σ} {labels : List ε}

/-- What every step preserves, a run preserves. -/
theorem invariant (holds : σ → Prop)
    (preserved : ∀ source label target, holds source → step source label target → holds target)
    (run : Run step source labels target) (start : holds source) : holds target := by
  induction run with
  | nil => exact start
  | cons stepped _ ih => exact ih (preserved _ _ _ start stepped)

/-- A run goes on with a step. -/
theorem concat {label : ε} {last : σ} (run : Run step source labels target)
    (stepped : step target label last) : Run step source (labels ++ [label]) last := by
  induction run with
  | nil state => exact .cons stepped (.nil last)
  | cons first _ ih => exact .cons first (ih stepped)

/-- A run along two lists of labels passes through a state between them. -/
theorem split {first second : List ε} (run : Run step source (first ++ second) target) :
    ∃ middle, Run step source first middle ∧ Run step middle second target := by
  induction first generalizing source with
  | nil => exact ⟨source, .nil source, run⟩
  | cons label rest ih =>
      cases run with
      | cons stepped later =>
          obtain ⟨middle, before, after⟩ := ih later
          exact ⟨middle, .cons stepped before, after⟩

end Run

/-! ## Steps that are functions of the label -/

/-- The property holds in the state and after each of the labels. -/
def Throughout (step : σ → ε → σ) (holds : σ → Prop) : σ → List ε → Prop
  | state, [] => holds state
  | state, label :: labels => holds state ∧ Throughout step holds (step state label) labels

/-- Each of the labels meets the condition in the state before it. -/
def EachMeets (step : σ → ε → σ) (guard : σ → ε → Prop) : σ → List ε → Prop
  | _, [] => True
  | state, label :: labels => guard state label ∧ EachMeets step guard (step state label) labels

instance EachMeets.decidable {step : σ → ε → σ} {guard : σ → ε → Prop}
    [∀ state label, Decidable (guard state label)] :
    ∀ (state : σ) (labels : List ε), Decidable (EachMeets step guard state labels)
  | _, [] => isTrue trivial
  | state, label :: labels =>
      have : Decidable (EachMeets step guard (step state label) labels) :=
        EachMeets.decidable (step state label) labels
      inferInstanceAs (Decidable (guard state label ∧ _))

theorem Throughout.mono {step : σ → ε → σ} {holds weaker : σ → Prop}
    (implies : ∀ state, holds state → weaker state) {start : σ} {labels : List ε}
    (always : Throughout step holds start labels) : Throughout step weaker start labels := by
  induction labels generalizing start with
  | nil => exact implies start always
  | cons label labels ih => exact ⟨implies start always.1, ih always.2⟩

theorem Throughout.last {step : σ → ε → σ} {holds : σ → Prop} {start : σ} {labels : List ε}
    (always : Throughout step holds start labels) : holds (labels.foldl step start) := by
  induction labels generalizing start with
  | nil => exact always
  | cons label labels ih => exact ih always.2

/-- What holds at the end and was never gained on the way held throughout. -/
theorem throughout_append_iff {step : σ → ε → σ} {holds : σ → Prop} {start : σ}
    {first second : List ε} :
    Throughout step holds start (first ++ second) ↔
      Throughout step holds start first ∧
        Throughout step holds (first.foldl step start) second := by
  induction first generalizing start with
  | nil =>
      refine (and_iff_right_of_imp fun always => ?_).symm
      cases second with
      | nil => exact always
      | cons label second => exact always.1
  | cons label first ih => exact (and_congr_right fun _ => ih).trans (and_assoc.symm)

theorem Throughout.of_isPrefix {step : σ → ε → σ} {holds : σ → Prop} {start : σ}
    {labels first : List ε} (always : Throughout step holds start labels)
    (starts : first <+: labels) : Throughout step holds start first := by
  obtain ⟨rest, rfl⟩ := starts
  exact (throughout_append_iff.mp always).1

theorem Throughout.of_last {step : σ → ε → σ} {holds : σ → Prop}
    (lasting : ∀ state label, holds (step state label) → holds state) :
    ∀ {start : σ} {labels : List ε}, holds (labels.foldl step start) →
      Throughout step holds start labels
  | _, [], last => last
  | start, label :: labels, last => by
      have later := @Throughout.of_last step holds lasting (step start label) labels last
      refine ⟨lasting start label ?_, later⟩
      cases labels with
      | nil => exact later
      | cons => exact later.1

theorem Throughout.mp {step : σ → ε → σ} {holds next : σ → Prop} {start : σ} {labels : List ε}
    (implies : Throughout step (fun state => holds state → next state) start labels)
    (always : Throughout step holds start labels) : Throughout step next start labels := by
  induction labels generalizing start with
  | nil => exact implies always
  | cons label labels ih => exact ⟨implies.1 always.1, ih implies.2 always.2⟩

/-- What every step keeps, a list of steps keeps. -/
theorem Throughout.of_preserved {step : σ → ε → σ} {holds : σ → Prop}
    (preserved : ∀ state label, holds state → holds (step state label)) {start : σ}
    (first : holds start) (labels : List ε) : Throughout step holds start labels := by
  induction labels generalizing start with
  | nil => exact first
  | cons label labels ih => exact ⟨first, ih (preserved start label first)⟩

theorem EachMeets.of_forall {step : σ → ε → σ} {guard : σ → ε → Prop}
    (always : ∀ state label, guard state label) (start : σ) (labels : List ε) :
    EachMeets step guard start labels := by
  induction labels generalizing start with
  | nil => trivial
  | cons label labels ih => exact ⟨always start label, ih (step start label)⟩

/-- What each step keeps whose label meets the condition, a list of such steps keeps. -/
theorem EachMeets.throughout {step : σ → ε → σ} {holds : σ → Prop} {guard : σ → ε → Prop}
    (preserved : ∀ state label, holds state → guard state label → holds (step state label))
    {start : σ} {labels : List ε} (meets : EachMeets step guard start labels)
    (first : holds start) : Throughout step holds start labels := by
  induction labels generalizing start with
  | nil => exact first
  | cons label labels ih => exact ⟨first, ih meets.2 (preserved _ _ first meets.1)⟩

/-- Where a third condition holds, two conditions that agree there are met together. -/
theorem EachMeets.congr {step : σ → ε → σ} {within : σ → Prop} {third guard other : σ → ε → Prop}
    (stays : ∀ state label, within state → third state label → within (step state label))
    (same : ∀ state label, within state → third state label →
      (guard state label ↔ other state label))
    {start : σ} {labels : List ε} (inside : within start)
    (meets : EachMeets step third start labels) :
    EachMeets step guard start labels ↔ EachMeets step other start labels := by
  induction labels generalizing start with
  | nil => rfl
  | cons label labels ih =>
      exact and_congr (same start label inside meets.1)
        (ih (stays start label inside meets.1) meets.2)

/-- Two conditions that agree wherever every step leads are met together. -/
theorem EachMeets.congr_within {step : σ → ε → σ} {within : σ → Prop} {guard other : σ → ε → Prop}
    (stays : ∀ state label, within state → within (step state label))
    (same : ∀ state label, within state → (guard state label ↔ other state label))
    {start : σ} (inside : within start) (labels : List ε) :
    EachMeets step guard start labels ↔ EachMeets step other start labels := by
  induction labels generalizing start with
  | nil => rfl
  | cons label labels ih =>
      exact and_congr (same start label inside) (ih (stays start label inside))

/-- A condition on the labels alone. -/
theorem eachMeets_labels_iff {step : σ → ε → σ} {guard : ε → Prop} {start : σ} {labels : List ε} :
    EachMeets step (fun _ => guard) start labels ↔ ∀ label ∈ labels, guard label := by
  induction labels generalizing start with
  | nil => simp [EachMeets]
  | cons label labels ih =>
      rw [List.forall_mem_cons]
      exact and_congr_right fun _ => ih

/-- If the condition is exact for one step wherever every step leads, then it is exact for a
list of steps. -/
theorem throughout_iff_within {step : σ → ε → σ} {within holds : σ → Prop} {guard : σ → ε → Prop}
    (stays : ∀ state label, within state → within (step state label))
    (exact : ∀ state label, within state → holds state →
      (holds (step state label) ↔ guard state label))
    {start : σ} (inside : within start) (first : holds start) (labels : List ε) :
    Throughout step holds start labels ↔ EachMeets step guard start labels := by
  induction labels generalizing start with
  | nil => exact iff_of_true first trivial
  | cons label labels ih =>
      have inside' := stays start label inside
      unfold Throughout EachMeets
      rw [and_iff_right first]
      constructor
      · intro later
        have next : holds (step start label) := by
          cases labels with
          | nil => exact later
          | cons => exact later.1
        exact ⟨(exact start label inside first).mp next, (ih inside' next).mp later⟩
      · rintro ⟨meets, later⟩
        exact (ih inside' ((exact start label inside first).mpr meets)).mpr later

/-- If the condition is exact for one step, then it is exact for a list of steps. -/
theorem throughout_iff {step : σ → ε → σ} {holds : σ → Prop} {guard : σ → ε → Prop}
    (exact : ∀ state label, holds state → (holds (step state label) ↔ guard state label))
    {start : σ} (first : holds start) (labels : List ε) :
    Throughout step holds start labels ↔ EachMeets step guard start labels :=
  @throughout_iff_within σ ε step (fun _ => True) holds guard (fun _ _ _ => trivial)
    (fun state label _ => exact state label) start trivial first labels

/-- If a step that does not concern an observer leaves the observation as it is, and one
that does changes it in a way that depends on the observation only, then the observer
sees what the steps that concern it lead to. -/
theorem foldl_purge {τ : Type*} {step : σ → ε → σ} {observe : σ → τ} {concerns : ε → Bool}
    (silent : ∀ state label, concerns label = false → observe (step state label) = observe state)
    (apart : ∀ state other label, concerns label = true → observe state = observe other →
      observe (step state label) = observe (step other label))
    (labels : List ε) {start other : σ} (same : observe start = observe other) :
    observe (labels.foldl step start) = observe ((labels.filter concerns).foldl step other) := by
  induction labels generalizing start other with
  | nil => exact same
  | cons label labels ih =>
      rcases own : concerns label with _ | _
      · rw [List.filter_cons_of_neg (by simp [own])]
        exact ih ((silent start label own).trans same)
      · rw [List.filter_cons_of_pos own]
        exact ih (apart start other label own same)

end Vcompany.Foundation
