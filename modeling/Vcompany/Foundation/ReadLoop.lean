import Mathlib.Data.List.Forall2

/-! # Read loops

A loop takes its inputs one after another until a turn ends it. What is left of a run is its
trace: the outcome of each turn, and the state after it. Two loops whose turns agree up to a
relation between their states have traces that agree in the same way (`trace_related`).
-/

namespace Vcompany.Foundation

variable {σ τ ι ρ : Type}

/-- A turn of a loop: how it ends the loop, if it does, and the state after it. -/
abbrev LoopTurn (σ ι ρ : Type) := σ → ι → Option ρ × σ

/-- The turns of a loop, up to the one that ends it. -/
def trace (turn : LoopTurn σ ι ρ) (state : σ) : List ι → List (Option ρ × σ)
  | [] => []
  | input :: inputs =>
      match turn state input with
      | (none, next) => (none, next) :: trace turn next inputs
      | (some ending, next) => [(some ending, next)]

/-- Two turns end in the same way, in related states. -/
def Agree (related : σ → τ → Prop) (first : Option ρ × σ) (second : Option ρ × τ) : Prop :=
  first.1 = second.1 ∧ related first.2 second.2

theorem trace_related {turn : LoopTurn σ ι ρ} {turn' : LoopTurn τ ι ρ} {related : σ → τ → Prop}
    (agree : ∀ state state' input, related state state' →
      Agree related (turn state input) (turn' state' input))
    {state : σ} {state' : τ} (start : related state state') (inputs : List ι) :
    List.Forall₂ (Agree related) (trace turn state inputs) (trace turn' state' inputs) := by
  induction inputs generalizing state state' with
  | nil => exact .nil
  | cons input inputs ih =>
      have here := agree state state' input start
      unfold trace
      generalize turn state input = outcome at here ⊢
      generalize turn' state' input = outcome' at here ⊢
      obtain ⟨ending, next⟩ := outcome
      obtain ⟨ending', next'⟩ := outcome'
      obtain ⟨rfl, later⟩ : ending = ending' ∧ related next next' := here
      cases ending with
      | none => exact .cons ⟨rfl, later⟩ (ih later)
      | some ending => exact .cons ⟨rfl, later⟩ .nil

/-- Nothing is read after an input that ends the loop wherever it comes. -/
theorem trace_append_of_ends {turn : LoopTurn σ ι ρ} {input : ι}
    (ends : ∀ state, (turn state input).1 ≠ none) (state : σ) (before after : List ι) :
    trace turn state (before ++ input :: after) = trace turn state (before ++ [input]) := by
  induction before generalizing state with
  | nil =>
      have ended := ends state
      simp only [List.nil_append, trace]
      generalize turn state input = outcome at ended ⊢
      rcases outcome with ⟨_ | ending, next⟩
      · exact absurd rfl ended
      · rfl
  | cons first before ih =>
      simp only [List.cons_append, trace]
      rcases turn state first with ⟨_ | ending, next⟩
      · exact congrArg _ (ih next)
      · rfl

end Vcompany.Foundation
