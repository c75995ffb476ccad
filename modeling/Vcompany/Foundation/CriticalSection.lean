import Vcompany.Foundation.Transition

/-! # Critical sections under a lock

A call on a shared object takes the object's lock and works on the object in its
critical section: in turns, between which it waits for something else while it holds
the lock. Calls arrive at any time and any of those that wait may take the free lock.

However the calls interleave, the object evolves as if each critical section were
run to its end at once (`LockedObject.serial_run`). What the turns after the first
leave alone has its final value from the first turn on (`LockedObject.kept_run`).
-/

namespace Vcompany.Foundation

variable {γ σ ρ τ : Type}

/-- What is left of a critical section: to leave it with a result, or another turn
of work, which ends with a wait or with the end of the section. -/
inductive CriticalSection (σ ρ : Type) where
  | leave (result : ρ)
  | await (work : σ → σ) (rest : σ → CriticalSection σ ρ)

namespace CriticalSection

/-- A turn of work, with what is left of the section. -/
def turn (state : σ) : CriticalSection σ ρ → σ × CriticalSection σ ρ
  | leave result => (state, leave result)
  | await work rest => (work state, rest state)

/-- The whole section, with nothing else in between. -/
def finish (state : σ) : CriticalSection σ ρ → σ × ρ
  | leave result => (state, result)
  | await work rest => (rest state).finish (work state)

/-- No turn changes what is observed of the state. -/
def Keeps (observe : σ → τ) : CriticalSection σ ρ → Prop
  | leave _ => True
  | await work rest =>
      ∀ state, observe (work state) = observe state ∧ (rest state).Keeps observe

/-- The section goes on from where a turn ended. -/
theorem finish_turn (state : σ) (critical : CriticalSection σ ρ) :
    (critical.turn state).2.finish (critical.turn state).1 = critical.finish state := by
  cases critical with
  | leave result => rfl
  | await work rest => rfl

theorem Keeps.finish {observe : σ → τ} {critical : CriticalSection σ ρ}
    (keeps : critical.Keeps observe) (state : σ) :
    observe (critical.finish state).1 = observe state := by
  induction critical generalizing state with
  | leave result => rfl
  | await work rest ih =>
      obtain ⟨worked, later⟩ := keeps state
      exact (ih state later (work state)).trans worked

theorem Keeps.turn {observe : σ → τ} {critical : CriticalSection σ ρ}
    (keeps : critical.Keeps observe) (state : σ) :
    (critical.turn state).2.Keeps observe := by
  cases critical with
  | leave result => trivial
  | await work rest => exact (keeps state).2

end CriticalSection

/-- A critical section that a call has entered, with the state that it found. -/
structure Visit (γ σ : Type) where
  request : γ
  found : σ

/-- The result of a visit whose section is run to its end at once. -/
def Visit.outcome (program : γ → CriticalSection σ ρ) (visit : Visit γ σ) : ρ :=
  ((program visit.request).finish visit.found).2

/-- A visit whose section is run to its end at once. -/
def Atomic (program : γ → CriticalSection σ ρ) (state : σ) (visit : Visit γ σ) (next : σ) : Prop :=
  visit.found = state ∧ next = ((program visit.request).finish state).1

/-- A shared object: the calls that wait for its lock, the visit that holds the lock
with what is left of its section, and the visits that have left, with their results. -/
structure LockedObject (γ σ ρ : Type) where
  shared : σ
  waiting : List γ
  inside : Option (Visit γ σ × CriticalSection σ ρ)
  left : List (Visit γ σ × ρ)

inductive LockEvent (γ : Type) where
  /-- A call arrives at the lock. -/
  | call (request : γ)
  /-- A waiting call takes the free lock and works until its first wait. -/
  | enter (position : ℕ)
  /-- The call that holds the lock works until its next wait, or leaves. -/
  | resume

namespace LockedObject

/-- The object before the first call. -/
def init (start : σ) : LockedObject γ σ ρ where
  shared := start
  waiting := []
  inside := none
  left := []

/-- The critical sections entered so far, in their order. -/
def visits (object : LockedObject γ σ ρ) : List (Visit γ σ) :=
  object.left.map Prod.fst ++ (object.inside.map Prod.fst).toList

/-- The state once the holder of the lock has left. -/
def settled (object : LockedObject γ σ ρ) : σ :=
  match object.inside with
  | none => object.shared
  | some (_, rest) => (rest.finish object.shared).1

/-- A turn of a visit, which releases the lock at the end of its section. -/
def advance (object : LockedObject γ σ ρ) (visit : Visit γ σ)
    (critical : CriticalSection σ ρ) : LockedObject γ σ ρ :=
  match critical.turn object.shared with
  | (shared, .leave result) =>
      { object with shared, inside := none, left := object.left ++ [(visit, result)] }
  | (shared, rest) => { object with shared, inside := some (visit, rest) }

def next (program : γ → CriticalSection σ ρ) (object : LockedObject γ σ ρ) :
    LockEvent γ → Option (LockedObject γ σ ρ)
  | .call request => some { object with waiting := object.waiting ++ [request] }
  | .enter position =>
      match object.inside, object.waiting[position]? with
      | none, some request =>
          some ({ object with waiting := object.waiting.eraseIdx position }.advance
            ⟨request, object.shared⟩ (program request))
      | _, _ => none
  | .resume =>
      match object.inside with
      | some (visit, rest) => some (object.advance visit rest)
      | none => none

def Step (program : γ → CriticalSection σ ρ) (object : LockedObject γ σ ρ)
    (event : LockEvent γ) (later : LockedObject γ σ ρ) : Prop :=
  next program object event = some later

variable {program : γ → CriticalSection σ ρ} {object later : LockedObject γ σ ρ} {start : σ}

/-- What a step does. -/
theorem step_cases {event : LockEvent γ} (step : Step program object event later) :
    (∃ request, later = { object with waiting := object.waiting ++ [request] }) ∨
    (∃ request waiting, object.inside = none ∧
      later = { object with waiting }.advance ⟨request, object.shared⟩ (program request)) ∨
    ∃ visit rest, object.inside = some (visit, rest) ∧ later = object.advance visit rest := by
  unfold Step next at step
  cases event with
  | call request => exact .inl ⟨request, (Option.some.inj step).symm⟩
  | enter position =>
      right
      left
      dsimp only at step
      split at step
      · next free _ => exact ⟨_, _, free, (Option.some.inj step).symm⟩
      · cases step
  | resume =>
      right
      right
      dsimp only at step
      split at step
      · next visit rest holder => exact ⟨visit, rest, holder, (Option.some.inj step).symm⟩
      · cases step

/-- Where a turn leaves the object. -/
theorem advance_cases (object : LockedObject γ σ ρ) (visit : Visit γ σ)
    (critical : CriticalSection σ ρ) :
    (∃ result, (critical.turn object.shared).2 = .leave result ∧
      object.advance visit critical =
        { object with
          shared := (critical.turn object.shared).1, inside := none
          left := object.left ++ [(visit, result)] }) ∨
    object.advance visit critical =
      { object with
        shared := (critical.turn object.shared).1
        inside := some (visit, (critical.turn object.shared).2) } := by
  unfold advance
  rcases turned : critical.turn object.shared with ⟨shared, result | ⟨work, rest⟩⟩
  · exact .inl ⟨result, rfl, rfl⟩
  · exact .inr rfl

/-! ## The critical sections in their order -/

/-- The sections that have left were run one after the other, each as if to its end
at once, and the one that holds the lock is on its way there. -/
structure Serial (program : γ → CriticalSection σ ρ) (start : σ)
    (object : LockedObject γ σ ρ) : Prop where
  free : object.inside = none →
    Run (Atomic program) start (object.left.map Prod.fst) object.shared
  held : ∀ visit rest, object.inside = some (visit, rest) →
    Run (Atomic program) start (object.left.map Prod.fst) visit.found ∧
      rest.finish object.shared = (program visit.request).finish visit.found
  returned : ∀ visit result, (visit, result) ∈ object.left → result = visit.outcome program

/-- A turn of the newest visit. -/
theorem serial_advance {visit : Visit γ σ} {critical : CriticalSection σ ρ}
    (history : Run (Atomic program) start (object.left.map Prod.fst) visit.found)
    (onTheWay : critical.finish object.shared = (program visit.request).finish visit.found)
    (returned : ∀ visit result, (visit, result) ∈ object.left → result = visit.outcome program) :
    Serial program start (object.advance visit critical) := by
  have ahead : (critical.turn object.shared).2.finish (critical.turn object.shared).1 =
      (program visit.request).finish visit.found :=
    (CriticalSection.finish_turn object.shared critical).trans onTheWay
  rcases advance_cases object visit critical with ⟨result, ended, moved⟩ | moved
  · rw [ended] at ahead
    rw [moved]
    refine ⟨fun _ => ?_, fun _ _ held => (nomatch held), ?_⟩
    · rw [List.map_append]
      exact history.concat ⟨rfl, congrArg Prod.fst ahead⟩
    · intro earlier outcome member
      rcases List.mem_append.mp member with before | newest
      · exact returned earlier outcome before
      · obtain ⟨rfl, rfl⟩ := Prod.mk.inj (List.mem_singleton.mp newest)
        exact congrArg Prod.snd ahead
  · rw [moved]
    refine ⟨fun free => (nomatch free), ?_, returned⟩
    rintro _ _ held
    obtain ⟨rfl, rfl⟩ := Prod.mk.inj (Option.some.inj held)
    exact ⟨history, ahead⟩

theorem serial_step {event : LockEvent γ} (serial : Serial program start object)
    (step : Step program object event later) : Serial program start later := by
  rcases step_cases step with ⟨request, rfl⟩ | ⟨request, waiting, free, rfl⟩ |
    ⟨visit, rest, holder, rfl⟩
  · exact ⟨serial.free, serial.held, serial.returned⟩
  · exact serial_advance (serial.free free) rfl serial.returned
  · obtain ⟨history, onTheWay⟩ := serial.held visit rest holder
    exact serial_advance history onTheWay serial.returned

/-- However the calls interleave, each section is as if run to its end at once. -/
theorem serial_run {events : List (LockEvent γ)}
    (run : Run (Step program) (init start) events object) : Serial program start object := by
  apply run.invariant (Serial program start) fun _ _ _ serial step => serial_step serial step
  exact ⟨fun _ => .nil start, fun _ _ held => (nomatch held), fun _ _ member => (nomatch member)⟩

/-- The visits so far, one after the other, end where the object settles. -/
theorem Serial.history (serial : Serial program start object) :
    Run (Atomic program) start object.visits object.settled := by
  unfold visits settled
  rcases lock : object.inside with _ | ⟨visit, rest⟩
  · simpa using serial.free lock
  · obtain ⟨history, onTheWay⟩ := serial.held visit rest lock
    exact history.concat ⟨rfl, congrArg Prod.fst onTheWay⟩

/-! ## What only the first turn of a section changes -/

/-- What is left of a section leaves alone what is observed. -/
def Kept (observe : σ → τ) (object : LockedObject γ σ ρ) : Prop :=
  ∀ visit rest, object.inside = some (visit, rest) → rest.Keeps observe

theorem kept_advance {observe : σ → τ} {visit : Visit γ σ} {critical : CriticalSection σ ρ}
    (keeps : (critical.turn object.shared).2.Keeps observe) :
    Kept observe (object.advance visit critical) := by
  rcases advance_cases object visit critical with ⟨result, ended, moved⟩ | moved
  · rw [moved]
    exact fun _ _ held => (nomatch held)
  · rw [moved]
    rintro _ _ held
    obtain ⟨rfl, rfl⟩ := Prod.mk.inj (Option.some.inj held)
    exact keeps

/-- What only first turns change is at every moment what it will be once the object
has settled. -/
theorem kept_run {observe : σ → τ} {events : List (LockEvent γ)}
    (firstTurn : ∀ request state, ((program request).turn state).2.Keeps observe)
    (run : Run (Step program) (init start) events object) :
    observe object.settled = observe object.shared := by
  have kept : Kept observe object := by
    refine run.invariant (Kept observe) ?_ (fun _ _ held => (nomatch held))
    intro object event later kept step
    rcases step_cases step with ⟨request, rfl⟩ | ⟨request, waiting, free, rfl⟩ |
      ⟨visit, rest, holder, rfl⟩
    · exact kept
    · exact kept_advance (firstTurn request object.shared)
    · exact kept_advance ((kept visit rest holder).turn object.shared)
  unfold settled
  rcases lock : object.inside with _ | ⟨visit, rest⟩
  · rfl
  · exact (kept visit rest lock).finish object.shared

end LockedObject

end Vcompany.Foundation
