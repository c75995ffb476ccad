import Mathlib.Logic.Relation

/-! # Coroutines that may raise

A coroutine that changes a state returns, raises an exception, is cancelled, or waits for ever,
and leaves a state in each case. Coroutines are put together by `andThen` and `forEach`, with
the handlers that a program writes around them. What its parts do step by step, the whole does
step by step (`Follows`). A coroutine whose calls are written down does what it did without that
(`map_logged`, and the lemmas on `map`).
-/

namespace Vcompany.Foundation

variable {σ α : Type*}

/-- How a coroutine ends. A cancellation is no `Exception`, and a handler of these does not
catch it. -/
inductive Ending where
  | returned
  | raised
  | cancelled
  deriving DecidableEq, Repr

/-- The end of a coroutine, if it comes to one, and the state that it leaves. -/
structure Outcome (σ : Type*) where
  ending : Option Ending
  state : σ

namespace Outcome

/-- It returns. -/
def done (state : σ) : Outcome σ := ⟨some .returned, state⟩

/-- One after the other. -/
def andThen (outcome : Outcome σ) (next : σ → Outcome σ) : Outcome σ :=
  match outcome.ending with
  | some .returned => next outcome.state
  | _ => outcome

/-- `try`, with an `except Exception` that goes on. -/
def caught (outcome : Outcome σ) : Outcome σ :=
  match outcome.ending with
  | some .raised => done outcome.state
  | _ => outcome

/-- `try`, with a `finally` that changes the state. -/
def ensure (outcome : Outcome σ) (clean : σ → σ) : Outcome σ :=
  match outcome.ending with
  | none => outcome
  | some ending => ⟨some ending, clean outcome.state⟩

/-- A loop, which does not go on behind an item where it did not return. -/
def forEach (body : α → σ → Outcome σ) : List α → σ → Outcome σ
  | [], state => done state
  | item :: items, state => (body item state).andThen (forEach body items)

/-- What comes behind a coroutine that returns. -/
theorem andThen_of_returned {outcome : Outcome σ} (returned : outcome.ending = some .returned)
    (next : σ → Outcome σ) : outcome.andThen next = next outcome.state := by
  unfold andThen
  rw [returned]

/-- Nothing comes behind a coroutine that does not return. -/
theorem andThen_of_not_returned {outcome : Outcome σ}
    (ends : outcome.ending ≠ some .returned) (next : σ → Outcome σ) :
    outcome.andThen next = outcome := by
  unfold andThen
  split
  · next returned => exact absurd returned ends
  · rfl

@[simp] theorem andThen_done (outcome : Outcome σ) : outcome.andThen done = outcome := by
  rcases outcome with ⟨_ | _ | _ | _, state⟩ <;> rfl

@[simp] theorem ensure_id (outcome : Outcome σ) : outcome.ensure id = outcome := by
  rcases outcome with ⟨_ | _, state⟩ <;> rfl

theorem forEach_append (body : α → σ → Outcome σ) :
    ∀ (first second : List α) (start : σ), forEach body (first ++ second) start =
      (forEach body first start).andThen (forEach body second)
  | [], _, _ => rfl
  | item :: first, second, start => by
      rw [List.cons_append, forEach, forEach]
      rcases body item start with ⟨_ | _ | _ | _, state⟩
      · rfl
      · exact forEach_append body first second state
      · rfl
      · rfl

theorem forEach_map {β : Type*} (body : β → σ → Outcome σ) (read : α → β) :
    ∀ (items : List α) (start : σ), forEach body (items.map read) start =
      forEach (fun item => body (read item)) items start
  | [], _ => rfl
  | item :: items, start => by
      rw [List.map_cons, forEach, forEach]
      congr 1
      funext state
      exact forEach_map body read items state

theorem ensure_ending (outcome : Outcome σ) (clean : σ → σ) :
    (outcome.ensure clean).ending = outcome.ending := by
  unfold ensure
  split
  · rfl
  · next ends => exact ends.symm

theorem ensure_state {outcome : Outcome σ} (ends : outcome.ending ≠ none) (clean : σ → σ) :
    (outcome.ensure clean).state = clean outcome.state := by
  unfold ensure
  split
  · next endless => exact absurd endless ends
  · rfl

/-- The state that is left is reached by steps. -/
def Follows (step : σ → σ → Prop) (start : σ) (outcome : Outcome σ) : Prop :=
  Relation.ReflTransGen step start outcome.state

variable {step : σ → σ → Prop} {start : σ} {outcome : Outcome σ}

theorem follows_done (step : σ → σ → Prop) (start : σ) : Follows step start (done start) := .refl

theorem Follows.andThen (follows : Follows step start outcome) {next : σ → Outcome σ}
    (goesOn : ∀ state, Follows step state (next state)) :
    Follows step start (outcome.andThen next) := by
  unfold Outcome.andThen
  split
  · exact Relation.ReflTransGen.trans follows (goesOn outcome.state)
  · exact follows

theorem Follows.caught (follows : Follows step start outcome) :
    Follows step start outcome.caught := by
  unfold Outcome.caught
  split <;> exact follows

theorem Follows.ensure (follows : Follows step start outcome) {clean : σ → σ}
    (cleans : ∀ state, step state (clean state)) : Follows step start (outcome.ensure clean) := by
  unfold Outcome.ensure
  split
  · exact follows
  · exact Relation.ReflTransGen.tail follows (cleans outcome.state)

/-- If the body goes by steps for each of the items, then so does the loop. -/
theorem follows_forEach {body : α → σ → Outcome σ} :
    ∀ {items : List α} {start : σ},
      (∀ item ∈ items, ∀ state, Follows step state (body item state)) →
        Follows step start (forEach body items start)
  | [], start, _ => follows_done step start
  | item :: _, start, goes =>
      (goes item List.mem_cons_self start).andThen fun _ =>
        follows_forEach fun other member => goes other (List.mem_cons_of_mem item member)

/-- What every step keeps, the coroutine keeps. -/
theorem Follows.keeps {holds : σ → Prop} (follows : Follows step start outcome)
    (kept : ∀ before after, step before after → holds before → holds after)
    (first : holds start) : holds outcome.state := by
  obtain ⟨ending, state⟩ := outcome
  change Relation.ReflTransGen step start state at follows
  induction follows with
  | refl => exact first
  | tail _ stepped ih => exact kept _ _ stepped ih

/-! ## Calls that are written down -/

variable {τ ε : Type*}

/-- The outcome, for one who sees a part of the state. -/
def map (view : σ → τ) (outcome : Outcome σ) : Outcome τ := ⟨outcome.ending, view outcome.state⟩

/-- A coroutine, with the calls that it makes, behind those before. -/
def logged (calls : σ → List ε) (run : σ → Outcome σ) (entry : σ × List ε) :
    Outcome (σ × List ε) :=
  ⟨(run entry.1).ending, (run entry.1).state, entry.2 ++ calls entry.1⟩

theorem map_logged (calls : σ → List ε) (run : σ → Outcome σ) (entry : σ × List ε) :
    (logged calls run entry).map Prod.fst = run entry.1 := rfl

theorem map_andThen (view : σ → τ) {outcome : Outcome σ} {next : σ → Outcome σ}
    {next' : τ → Outcome τ} (same : ∀ state, (next state).map view = next' (view state)) :
    (outcome.andThen next).map view = (outcome.map view).andThen next' := by
  obtain ⟨ending, state⟩ := outcome
  rcases ending with _ | _ | _ | _
  · rfl
  · exact same state
  · rfl
  · rfl

theorem map_ensure (view : σ → τ) (outcome : Outcome σ) (clean : σ → σ) (clean' : τ → τ)
    (same : ∀ state, view (clean state) = clean' (view state)) :
    (outcome.ensure clean).map view = (outcome.map view).ensure clean' := by
  obtain ⟨ending, state⟩ := outcome
  rcases ending with _ | ending
  · rfl
  · exact congrArg (Outcome.mk (some ending)) (same state)

theorem map_forEach (view : σ → τ) {body : α → σ → Outcome σ} {body' : α → τ → Outcome τ}
    (same : ∀ item state, (body item state).map view = body' item (view state)) :
    ∀ (items : List α) (state : σ),
      (forEach body items state).map view = forEach body' items (view state)
  | [], _ => rfl
  | item :: items, state => by
      unfold forEach
      rw [map_andThen view (map_forEach view same items), same]

/-- A loop whose body always returns makes the calls of its items. -/
theorem forEach_logged {calls : α → List ε} {run : α → σ → Outcome σ} {items : List α}
    (returns : ∀ item ∈ items, ∀ state, (run item state).ending = some .returned)
    (entry : σ × List ε) :
    (forEach (fun item => logged (fun _ => calls item) (run item)) items entry).ending =
        some .returned ∧
      (forEach (fun item => logged (fun _ => calls item) (run item)) items entry).state.2 =
        entry.2 ++ items.flatMap calls := by
  induction items generalizing entry with
  | nil => exact ⟨rfl, (List.append_nil _).symm⟩
  | cons item items ih =>
      obtain ⟨first, rest⟩ := List.forall_mem_cons.mp returns
      have ends : (logged (fun _ => calls item) (run item) entry).ending = some .returned :=
        first entry.1
      unfold forEach
      rw [andThen_of_returned ends]
      obtain ⟨returned, made⟩ :=
        ih rest (logged (fun _ => calls item) (run item) entry).state
      refine ⟨returned, made.trans ?_⟩
      rw [List.flatMap_cons, ← List.append_assoc]
      rfl

end Outcome

end Vcompany.Foundation
