import Vcompany.Supervisor.ForgottenChildren
import Mathlib.Data.List.Count

/-! # TEMPORARY children

A child with the restart policy TEMPORARY is not restarted for its own failure. A strategy that
restarts several children, and the company root when it rebuilds a supervisor that has escalated,
start every specification in their range; `_restart_all` and `start` go on to whatever has joined
the list meanwhile. `temporary_starts_once` gives the runs in which no TEMPORARY child is started
twice.

A child is known by the number of its specification. It counts as started once its start, which is
awaited and may be cancelled before, has come to its end.
-/

namespace Vcompany.Supervisor

open Foundation Resilience

namespace Ahead

/-- The child at the position is yet to be started, if the list has so many specifications. -/
def reaches (count position : ℕ) : Ahead → Bool
  | .starts next bound => next ≤ position && position < bound.getD count
  | .escalates => false

/-- It ends with the end that the list has when it comes there. -/
def isOpen : Ahead → Bool
  | .starts _ none => true
  | _ => false

/-- What is yet to be started is on the list. -/
def isInside (count : ℕ) : Ahead → Bool
  | .starts next bound => next < bound.getD count && bound.getD count ≤ count
  | .escalates => true

end Ahead

namespace Supervision

/-- A supervisor in `start`. -/
def starting (strategy : RestartStrategy) (childSpecs : List ChildSpec)
    (restartTracker : RestartTracker) : Supervision where
  core :=
    { SupervisorState.started strategy childSpecs restartTracker with
      running := false
      children := fun _ => none }
  restarting := false
  tasks := ∅
  works := if childSpecs = [] then [] else [⟨[], false, false, [], .starts 0 none⟩]
  exceeded := false

/-- The number of specifications. -/
def count (sup : Supervision) : ℕ := sup.core.childSpecs.length

/-- `start` has not come to its end. -/
def inStart (sup : Supervision) : Bool :=
  sup.works.any fun work => !work.suppresses && work.ahead.isOpen

/-- The position of the child whose start comes to its end in a step. -/
def starts (sup : Supervision) : FailureEvent → Option ℕ
  | .turn index _ =>
      match sup.works[index]? with
      | some ⟨_, _, _, [], .starts next _⟩ => if next < sup.count then some next else none
      | _ => none
  | _ => none

/-- The restart that a failure is answered by. -/
def answer (clock : FailureClock) (failedId : Text) (attached : Bool) (sup : Supervision) :
    Option Work :=
  match sup.core.handleChildFailure clock failedId with
  | (core, .restarts) => some (core.restartWork failedId attached)
  | _ => none

/-- The restart that is begun in a step. -/
def begins (sup : Supervision) : FailureEvent → Option Work
  | .monitored childId clock _ =>
      if sup.Ready childId ∧ sup.core.children childId = some .errored then
        (sup.clear childId).answer clock childId true
      else none
  | .stale childId clock _ =>
      if sup.core.children childId = some .errored then sup.answer clock childId false else none
  | _ => none

/-- The step ends an escalation, up to where the parent is told. -/
def tells (sup : Supervision) : FailureEvent → Bool
  | .turn index _ =>
      match sup.works[index]? with
      | some ⟨_, _, _, [_], .escalates⟩ => true
      | _ => false
  | _ => false

/-- What `_escalate` leaves if awaiting its own task, behind another one, raises. -/
def raised (before after : Supervision) : Supervision :=
  { after with core := { after.core with running := before.core.running }, restarting := true }

/-- `start` comes to its end. -/
def run (sup : Supervision) : Supervision := { sup with core := { sup.core with running := true } }

/-- A child stops by itself. -/
def exit (childId : Text) (sup : Supervision) : Supervision :=
  match sup.core.children childId with
  | some state => if state ∈ [.stopped, .destroyed] then sup else sup.report childId .stopped
  | none => sup

/-- A delegation is granted: its specification joins the list, and the start of its child begins.
-/
def delegate (childId : Text) (sup : Supervision) : Supervision :=
  { sup with
    core := { sup.core with
      childSpecs := sup.core.childSpecs ++ [{ childId, restartPolicy := .temporary }] }
    works := sup.works ++ [⟨childId, false, false, [], .starts sup.count (some (sup.count + 1))⟩] }

/-- The specification at the position is TEMPORARY. -/
def TemporaryAt (sup : Supervision) (position : ℕ) : Prop :=
  ∃ spec ∈ sup.core.childSpecs[position]?, spec.restartPolicy = .temporary

instance (sup : Supervision) (position : ℕ) : Decidable (sup.TemporaryAt position) :=
  inferInstanceAs (Decidable (∃ spec ∈ sup.core.childSpecs[position]?, _))

end Supervision

/-- A supervisor that the root has built for the project, with the number of the specification at
each position. -/
structure Generation where
  supervisor : Supervision
  number : ℕ → ℕ

/-- The supervisors of a project under the company root. `registered` tells which of them is in
`_projects`; of `created` specifications, each child has been started so many times. -/
structure ChildStarts where
  generations : List Generation
  registered : Option ℕ
  created : ℕ
  rootTracker : RestartTracker
  starts : ℕ → ℕ

inductive ChildEvent where
  /-- Something happens in a supervisor. Where it ends an escalation, `told` is what the clock
  shows to the root, or `none` if `_escalate` raises before. -/
  | failure (index : ℕ) (event : FailureEvent) (told : Option (ℚ × ℚ))
  | exits (index : ℕ) (childId : Text)
  | delegated (index : ℕ) (childId : Text)
  /-- Another child of the root is restarted. -/
  | elsewhere (purgedAt recordedAt : ℚ)

namespace ChildStarts

/-- `add_project`, up to the start of the supervisor. -/
def init (strategy : RestartStrategy) (childSpecs : List ChildSpec)
    (restartTracker rootTracker : RestartTracker) : ChildStarts where
  generations := [⟨.starting strategy childSpecs restartTracker, id⟩]
  registered := if childSpecs = [] then some 0 else none
  created := childSpecs.length
  rootTracker := rootTracker
  starts _ := 0

/-- The supervisor in `_projects`. -/
def project (world : ChildStarts) : Option Generation :=
  world.registered.bind fun index => world.generations[index]?

/-- `CompanyRoot.handle_child_escalation`, up to the start of the supervisor that it builds. -/
def handleChildEscalation (purgedAt recordedAt : ℚ) (world : ChildStarts) : ChildStarts :=
  match world.rootTracker.allowRestart purgedAt recordedAt, world.project with
  | (rootTracker, true), some old =>
      let core := old.supervisor.core
      let built := Supervision.starting core.strategy core.childSpecs
        { maxRestarts := core.restartTracker.maxRestarts
          windowSeconds := core.restartTracker.windowSeconds }
      { world with
        rootTracker
        generations := world.generations ++ [⟨built, old.number⟩]
        registered := if built.inStart then world.registered else some world.generations.length }
  | (rootTracker, _), _ => { world with rootTracker }

/-- A step of one supervisor, with the start that comes to its end in it. -/
def advance (index : ℕ) (generation : Generation) (after : Supervision) (started : Option ℕ)
    (world : ChildStarts) : ChildStarts :=
  { world with
    generations := world.generations.set index { generation with supervisor := after }
    starts :=
      match started with
      | some position =>
          Function.update world.starts (generation.number position)
            (world.starts (generation.number position) + 1)
      | none => world.starts }

def performFailure (index : ℕ) (generation : Generation) (event : FailureEvent)
    (told : Option (ℚ × ℚ)) (world : ChildStarts) : ChildStarts :=
  let sup := generation.supervisor
  let after := sup.perform event
  let started := sup.starts event
  if sup.tells event then
    match told with
    | some (purgedAt, recordedAt) =>
        (world.advance index generation after started).handleChildEscalation purgedAt recordedAt
    | none => world.advance index generation (sup.raised after) started
  else if sup.inStart && !after.inStart then
    { world.advance index generation after.run started with registered := some index }
  else world.advance index generation after started

def perform (world : ChildStarts) : ChildEvent → ChildStarts
  | .failure index event told =>
      match world.generations[index]? with
      | some generation => world.performFailure index generation event told
      | none => world
  | .exits index childId =>
      match world.generations[index]? with
      | some generation =>
          world.advance index generation (generation.supervisor.exit childId) none
      | none => world
  | .delegated index childId =>
      match world.generations[index]? with
      | some generation =>
          { world.advance index
              { generation with
                number := Function.update generation.number generation.supervisor.count
                  world.created }
              (generation.supervisor.delegate childId) none with
            created := world.created + 1 }
      | none => world
  | .elsewhere purgedAt recordedAt =>
      { world with rootTracker := (world.rootTracker.allowRestart purgedAt recordedAt).1 }

/-- No TEMPORARY child has been started a second time. -/
def AtMostOnce (world : ChildStarts) : Prop :=
  ∀ generation ∈ world.generations, ∀ position, generation.supervisor.TemporaryAt position →
    world.starts (generation.number position) ≤ 1

/-- The condition on the state before an event. A restart that is begun has no TEMPORARY child
among those that it is to start; there is none on the list of the project's supervisor when the
root rebuilds it; and no delegation is granted while `_restart_all` or `start` goes through the
list. -/
def Spares (world : ChildStarts) : ChildEvent → Prop
  | .failure index event told => ∀ generation ∈ world.generations[index]?,
      (∀ work ∈ generation.supervisor.begins event, ∀ position < generation.supervisor.count,
        work.ahead.reaches generation.supervisor.count position = true →
          ¬ generation.supervisor.TemporaryAt position) ∧
      (generation.supervisor.tells event = true → ∀ clock ∈ told,
        (world.rootTracker.allowRestart clock.1 clock.2).2 = true → ∀ old ∈ world.project,
          ∀ position < old.supervisor.count, ¬ old.supervisor.TemporaryAt position)
  | .delegated index _ => ∀ generation ∈ world.generations[index]?,
      ∀ work ∈ generation.supervisor.works, work.ahead.isOpen = false
  | _ => True

instance (world : ChildStarts) : ∀ event, Decidable (world.Spares event)
  | .failure index event told => inferInstanceAs (Decidable (∀ generation ∈
      world.generations[index]?,
      (∀ work ∈ generation.supervisor.begins event, ∀ position < generation.supervisor.count,
        work.ahead.reaches generation.supervisor.count position = true →
          ¬ generation.supervisor.TemporaryAt position) ∧
      (generation.supervisor.tells event = true → ∀ clock ∈ told,
        (world.rootTracker.allowRestart clock.1 clock.2).2 = true → ∀ old ∈ world.project,
          ∀ position < old.supervisor.count, ¬ old.supervisor.TemporaryAt position)))
  | .delegated index _ => inferInstanceAs (Decidable (∀ generation ∈ world.generations[index]?,
      ∀ work ∈ generation.supervisor.works, work.ahead.isOpen = false))
  | .exits _ _ => isTrue trivial
  | .elsewhere _ _ => isTrue trivial

end ChildStarts

namespace Supervision

/-! ## The starts of a supervisor -/

variable {sup : Supervision} {work : Work} {hit : Work → Bool} {keeps : ℕ → Bool}

/-- How many of the works have so much ahead. -/
def waiting (f : Ahead → Bool) (sup : Supervision) : ℕ := sup.works.countP fun work => f work.ahead

/-- How many of the works have yet to start the child at the position. -/
def pending (position : ℕ) (sup : Supervision) : ℕ := sup.waiting (Ahead.reaches sup.count position)

/-- Each work is about children on the list. -/
def Inside (sup : Supervision) : Prop :=
  ∀ work ∈ sup.works, work.ahead.isInside sup.count = true

theorem ahead_detach (childId : Text) (work : Work) : (work.detach childId).ahead = work.ahead := by
  unfold Work.detach
  split <;> rfl

theorem waiting_push (f : Ahead → Bool) (work : Work) (sup : Supervision) :
    (sup.push work).waiting f = sup.waiting f + if f work.ahead then 1 else 0 := by
  unfold waiting push
  rw [List.countP_append, List.countP_singleton]

theorem waiting_cancel_le (f : Ahead → Bool) (hit : Work → Bool) (keeps : ℕ → Bool)
    (sup : Supervision) : (sup.cancel hit keeps).waiting f ≤ sup.waiting f := by
  unfold waiting cancel
  dsimp only
  rw [List.countP_map]
  calc _ ≤ sup.works.zipIdx.countP ((fun work => f work.ahead) ∘ Prod.fst) := by
        refine (List.filter_sublist.countP_le).trans (le_of_eq (List.countP_congr ?_))
        intro entry _
        dsimp only [Function.comp_apply]
        split <;> rfl
    _ = _ := by rw [← List.countP_map, List.zipIdx_map_fst]

theorem waiting_stopChild (f : Ahead → Bool) (childId : Text) (sup : Supervision) :
    (sup.stopChild childId).waiting f = sup.waiting f := by
  unfold waiting
  rw [stopChild_works]

theorem waiting_startChild (f : Ahead → Bool) (childId : Text) (sup : Supervision) :
    (sup.startChild childId).waiting f = sup.waiting f := by
  unfold waiting startChild
  rw [List.countP_map]
  refine List.countP_congr fun work _ => ?_
  dsimp only [Function.comp_apply]
  rw [ahead_detach]

theorem waiting_stopTurn_le (f : Ahead → Bool) (work : Work) (childId : Text) (keeps : ℕ → Bool)
    (sup : Supervision) :
    (sup.stopTurn work childId keeps).waiting f ≤
      sup.waiting f + if f work.ahead then 1 else 0 := by
  have stopped := waiting_stopChild f childId sup
  unfold stopTurn
  dsimp only
  split
  · split
    · rw [waiting_push, ahead_detach]
      exact Nat.add_le_add_right
        ((waiting_cancel_le f _ keeps (sup.stopChild childId)).trans_eq stopped) _
    · rw [waiting_push, stopped]
  · split
    · exact ((waiting_cancel_le f Work.attached keeps (sup.stopChild childId)).trans_eq
        stopped).trans (Nat.le_add_right _ _)
    · rw [waiting_push, stopped]

theorem waiting_startTurn (f : Ahead → Bool) (work : Work) (childId : Text) (next : ℕ)
    (bound : Option ℕ) (sup : Supervision) :
    (sup.startTurn work childId next bound).waiting f = sup.waiting f +
      if next + 1 < bound.getD sup.count ∧ f (.starts (next + 1) bound) then 1 else 0 := by
  have started := waiting_startChild f childId sup
  unfold startTurn count
  dsimp only
  split
  · next more =>
      rw [waiting_push, started]
      simp [more]
  · next last =>
      have ends : ¬ (next + 1 < bound.getD sup.core.childSpecs.length ∧
          f (.starts (next + 1) bound) = true) := fun goes => last goes.1
      rw [if_neg ends, Nat.add_zero]
      split
      · exact started
      · exact started

/-- A work among the others. -/
theorem waiting_eraseIdx (f : Ahead → Bool) {index : ℕ} (here : sup.works[index]? = some work) :
    ({ sup with works := sup.works.eraseIdx index } : Supervision).waiting f +
      (if f work.ahead then 1 else 0) = sup.waiting f := by
  obtain ⟨inside, found⟩ := List.getElem?_eq_some_iff.mp here
  have perm := List.getElem_cons_eraseIdx_perm inside
  rw [found] at perm
  unfold waiting
  rw [← perm.countP_eq, List.countP_cons]

/-- **A turn.** Either no start comes to its end in it, or that of the next child of a work, which
then goes on to the one behind it. -/
theorem waiting_turn (f : Ahead → Bool) (index : ℕ) (keeps : ℕ → Bool) (sup : Supervision) :
    (sup.starts (.turn index keeps) = none ∧ (sup.turn index keeps).waiting f ≤ sup.waiting f) ∨
      ∃ work ∈ sup.works, ∃ next bound, work.ahead = .starts next bound ∧
        sup.starts (.turn index keeps) = some next ∧
        (sup.turn index keeps).waiting f + (if f work.ahead then 1 else 0) = sup.waiting f +
          if next + 1 < bound.getD sup.count ∧ f (.starts (next + 1) bound) then 1 else 0 := by
  unfold starts turn
  dsimp only
  rcases found : sup.works[index]? with _ | ⟨failedId, attached, suppresses, stopping, ahead⟩
  · exact .inl ⟨rfl, le_rfl⟩
  · have split := waiting_eraseIdx f found
    rcases stopping with _ | ⟨position, stopping⟩
    · rcases ahead with ⟨next, bound⟩ | _
      · dsimp only
        cases here : sup.core.childSpecs[next]? with
        | none =>
            have beyond : ¬ next < sup.count := Nat.not_lt.mpr (List.getElem?_eq_none_iff.mp here)
            exact .inl ⟨if_neg beyond, le_rfl⟩
        | some spec =>
            have listed : next < sup.count := (List.getElem?_eq_some_iff.mp here).1
            refine .inr ⟨_, List.mem_of_getElem? found, next, bound, rfl, if_pos listed, ?_⟩
            dsimp only
            rw [waiting_startTurn, ← split]
            exact Nat.add_right_comm _ _ _
      · exact .inl ⟨rfl, le_rfl⟩
    · refine .inl ⟨rfl, ?_⟩
      dsimp only
      split
      · rw [← split]
        exact waiting_stopTurn_le f _ _ keeps _
      · exact le_rfl

/-- How the works of a step that is no turn come about. -/
inductive Adds (before : List Work) (begun : Option Work) : List Work → Prop
  | nothing : Adds before begun before
  | escalation {work : Work} (ahead : work.ahead = .escalates) :
      Adds before begun (before ++ [work])
  | restart {work : Work} (isBegun : begun = some work) : Adds before begun (before ++ [work])

theorem adds_handle (clock : FailureClock) (notifyRaises attached : Bool) (failedId : Text)
    (sup : Supervision) :
    Adds sup.works (sup.answer clock failedId attached)
      (sup.handle clock notifyRaises attached failedId).works := by
  unfold answer handle
  rcases sup.core.handleChildFailure clock failedId with ⟨core, _ | _ | _ | _⟩
  · exact .nothing
  · dsimp only
    split <;> exact .nothing
  · exact .escalation rfl
  · exact .restart rfl

theorem adds_perform {event : FailureEvent} (isNoTurn : ∀ index keeps, event ≠ .turn index keeps) :
    Adds sup.works (sup.begins event) (sup.perform event).works := by
  cases event with
  | fails childId =>
      unfold perform
      dsimp only
      split
      · split <;> exact .nothing
      · exact .nothing
  | monitored childId clock notifyRaises =>
      unfold begins perform
      dsimp only
      by_cases errored : sup.core.children childId = some .errored
      · by_cases ready : sup.Ready childId
        · rw [if_pos ⟨ready, errored⟩, if_pos ready, errored]
          exact adds_handle clock notifyRaises true childId (sup.clear childId)
        · rw [if_neg ready]
          exact .nothing
      · rw [if_neg fun (both : sup.Ready childId ∧ _) => errored both.2]
        split
        · split
          · next isErrored => exact absurd isErrored errored
          all_goals exact .nothing
        · exact .nothing
  | stale childId clock notifyRaises =>
      unfold begins perform
      dsimp only
      split
      · exact adds_handle clock notifyRaises false childId sup
      · exact .nothing
  | turn index keeps => exact absurd rfl (isNoTurn index keeps)
  | backoffExpires =>
      unfold perform
      dsimp only
      split <;> exact .nothing

theorem childSpecs_perform (event : FailureEvent) (sup : Supervision) :
    (sup.perform event).core.childSpecs = sup.core.childSpecs := by
  have handled (clock : FailureClock) (notifyRaises attached : Bool) (failedId : Text)
      (sup : Supervision) : (sup.handle clock notifyRaises attached failedId).core.childSpecs =
        sup.core.childSpecs := by
    have like := (sup.core.handleChildFailure_like clock failedId).childSpecs
    unfold handle
    revert like
    rcases sup.core.handleChildFailure clock failedId with ⟨core, _ | _ | _ | _⟩ <;> intro like
    · exact like
    · dsimp only
      split <;> exact like
    · exact like
    · exact like
  cases event with
  | fails childId =>
      unfold perform
      dsimp only
      split
      · split <;> rfl
      · rfl
  | monitored childId clock notifyRaises =>
      unfold perform
      dsimp only
      split
      · split
        · exact handled clock notifyRaises true childId (sup.clear childId)
        all_goals rfl
      · rfl
  | stale childId clock notifyRaises =>
      unfold perform
      dsimp only
      split
      · exact handled clock notifyRaises false childId sup
      · rfl
  | turn index keeps =>
      change (sup.turn index keeps).core.childSpecs = _
      have turned := turnOf_turn sup index keeps
      revert turned
      generalize sup.turn index keeps = after
      intro turned
      cases turned with
      | idle => rfl
      | stops splits => exact (same_stopTurn splits _ _ keeps).childSpecs
      | starts splits => exact (same_startTurn splits _ _ _).childSpecs
  | backoffExpires =>
      unfold perform
      dsimp only
      split <;> rfl

@[simp] theorem count_perform (event : FailureEvent) (sup : Supervision) :
    (sup.perform event).count = sup.count :=
  congrArg List.length (childSpecs_perform event sup)

/-! ### What is yet to be started -/

/-- Where each work is about children on the list, the child whose start comes to its end is no
longer waited for by the work. -/
theorem pending_turn_le (inside : sup.Inside) (index : ℕ) (keeps : ℕ → Bool) (position : ℕ) :
    (sup.turn index keeps).waiting (Ahead.reaches sup.count position) +
      (if sup.starts (.turn index keeps) = some position then 1 else 0) ≤ sup.pending position := by
  unfold pending
  rcases waiting_turn (Ahead.reaches sup.count position) index keeps sup with
    ⟨started, less⟩ | ⟨work, member, next, bound, ahead, started, same⟩
  · rw [started, if_neg (by simp)]
    exact less
  · have listed := inside work member
    rw [ahead] at same listed
    simp only [Ahead.isInside, Ahead.reaches, Bool.and_eq_true, decide_eq_true_eq] at same listed
    simp only [started, Option.some.injEq]
    split at same <;> split at same <;> split <;> omega

theorem Inside.turn (inside : sup.Inside) (index : ℕ) (keeps : ℕ → Bool) :
    ∀ work ∈ (sup.turn index keeps).works, work.ahead.isInside sup.count = true := by
  have outside : sup.waiting (fun ahead => !ahead.isInside sup.count) = 0 :=
    List.countP_eq_zero.mpr fun work member => by simp [inside work member]
  have none : (sup.turn index keeps).waiting (fun ahead => !ahead.isInside sup.count) = 0 := by
    rcases waiting_turn (fun ahead => !ahead.isInside sup.count) index keeps sup with
      ⟨-, less⟩ | ⟨work, member, next, bound, ahead, -, same⟩
    · omega
    · have listed := inside work member
      rw [ahead] at same listed
      simp only [Ahead.isInside, Bool.and_eq_true, decide_eq_true_eq] at listed
      have goesOn : ¬ (next + 1 < bound.getD sup.count ∧
          (!(Ahead.starts (next + 1) bound).isInside sup.count) = true) := by
        rintro ⟨more, beyond⟩
        simp only [Ahead.isInside, Bool.not_eq_true', Bool.and_eq_false_iff,
          decide_eq_false_iff_not] at beyond
        omega
      rw [if_neg goesOn] at same
      omega
  intro work member
  simpa using List.countP_eq_zero.mp none work member

/-- A restart that is begun is that of a child which is not TEMPORARY, by the strategy. -/
theorem begins_spec {event : FailureEvent} (begun : sup.begins event = some work) :
    ∃ (core : SupervisorState) (failedId : Text) (attached : Bool) (spec : ChildSpec),
      core.strategy = sup.core.strategy ∧ core.childSpecs = sup.core.childSpecs ∧
      core.getSpec failedId = some spec ∧
      spec.restartPolicy ≠ .temporary ∧ work = core.restartWork failedId attached := by
  have answered {sup : Supervision} {clock : FailureClock} {failedId : Text} {attached : Bool}
      (begun : sup.answer clock failedId attached = some work) :
      ∃ (core : SupervisorState) (spec : ChildSpec), sup.core.Like core ∧
        core.getSpec failedId = some spec ∧
        spec.restartPolicy ≠ .temporary ∧ work = core.restartWork failedId attached := by
    have like := sup.core.handleChildFailure_like clock failedId
    have restarts := @SupervisorState.handleChildFailure_restarts sup.core failedId clock
    unfold answer at begun
    split at begun
    · next core decided =>
        rw [decided] at like restarts
        obtain ⟨spec, found, lasting⟩ := restarts rfl
        exact ⟨core, spec, like, (getSpec_congr like.childSpecs failedId).trans found, lasting,
          (Option.some.inj begun).symm⟩
    · cases begun
  cases event with
  | monitored childId clock notifyRaises =>
      unfold begins at begun
      dsimp only at begun
      split at begun
      · obtain ⟨core, spec, like, rest⟩ := answered begun
        exact ⟨core, childId, true, spec, like.strategy, like.childSpecs, rest⟩
      · cases begun
  | stale childId clock notifyRaises =>
      unfold begins at begun
      dsimp only at begun
      split at begun
      · obtain ⟨core, spec, like, rest⟩ := answered begun
        exact ⟨core, childId, false, spec, like.strategy, like.childSpecs, rest⟩
      · cases begun
  | fails childId => cases begun
  | turn index keeps => cases begun
  | backoffExpires => cases begun

/-- A restart is about children on the list. -/
theorem isInside_begins {event : FailureEvent} (begun : sup.begins event = some work) :
    work.ahead.isInside sup.count = true := by
  obtain ⟨core, failedId, attached, spec, -, childSpecs, found, -, rfl⟩ := begins_spec begun
  have listed := SupervisorState.position_lt found
  unfold count SupervisorState.restartWork
  rw [← childSpecs]
  dsimp only
  cases core.strategy with
  | oneForOne => simpa [Ahead.isInside] using Nat.succ_le_of_lt listed
  | allForOne => simpa [Ahead.isInside] using Nat.zero_lt_of_lt listed
  | restForOne => simpa [Ahead.isInside] using listed

theorem Inside.perform (inside : sup.Inside) (event : FailureEvent) :
    (sup.perform event).Inside := by
  intro work member
  rw [count_perform]
  by_cases isTurn : ∃ index keeps, event = .turn index keeps
  · obtain ⟨index, keeps, rfl⟩ := isTurn
    exact inside.turn index keeps work member
  · push Not at isTurn
    have adds := @adds_perform sup event isTurn
    revert adds member
    generalize (sup.perform event).works = works
    intro member adds
    cases adds with
    | nothing => exact inside work member
    | escalation ahead =>
        rcases List.mem_append.mp member with before | last
        · exact inside work before
        · rw [List.mem_singleton.mp last, ahead]
          rfl
    | restart begun =>
        rcases List.mem_append.mp member with before | last
        · exact inside work before
        · rw [List.mem_singleton.mp last]
          exact isInside_begins begun

/-- **A step of a supervisor.** Unless a restart is begun that is to start the child, no more
works have yet to start it than before, and one less if its start comes to its end. -/
theorem pending_perform_le (inside : sup.Inside) {event : FailureEvent} {position : ℕ}
    (spared : ∀ work ∈ sup.begins event, work.ahead.reaches sup.count position = false) :
    (sup.perform event).pending position +
      (if sup.starts event = some position then 1 else 0) ≤ sup.pending position := by
  unfold pending
  rw [count_perform]
  by_cases isTurn : ∃ index keeps, event = .turn index keeps
  · obtain ⟨index, keeps, rfl⟩ := isTurn
    exact pending_turn_le inside index keeps position
  · push Not at isTurn
    have adds := @adds_perform sup event isTurn
    have none : sup.starts event = none := by
      cases event with
      | turn index keeps => exact absurd rfl (isTurn index keeps)
      | _ => rfl
    rw [none, if_neg (by simp), Nat.add_zero]
    unfold waiting
    revert adds
    generalize (sup.perform event).works = works
    intro adds
    cases adds with
    | nothing => exact le_rfl
    | escalation ahead =>
        rw [List.countP_append, List.countP_singleton, ahead]
        simp [Ahead.reaches]
    | restart begun =>
        rw [List.countP_append, List.countP_singleton, spared _ begun]
        simp

/-- A strategy that restarts the failed child alone starts no TEMPORARY one. -/
theorem spares_of_oneForOne (alone : sup.core.strategy = .oneForOne) {event : FailureEvent}
    (begun : sup.begins event = some work) {position : ℕ}
    (reached : work.ahead.reaches sup.count position = true) : ¬ sup.TemporaryAt position := by
  obtain ⟨core, failedId, attached, spec, strategy, childSpecs, found, lasting, rfl⟩ :=
    begins_spec begun
  have here := SupervisorState.getElem?_position found
  unfold SupervisorState.restartWork at reached
  rw [strategy, alone] at reached
  simp only [Ahead.reaches, Option.getD_some, Bool.and_eq_true, decide_eq_true_eq] at reached
  obtain rfl : position = core.position failedId := by omega
  rintro ⟨other, isOther, temporary⟩
  rw [← childSpecs, Option.mem_def, here] at isOther
  exact lasting (Option.some.inj isOther ▸ temporary)

end Supervision

namespace ChildStarts

/-! ## The starts of a project -/

variable {world : ChildStarts} {index : ℕ} {generation : Generation}

/-- What holds as long as no TEMPORARY child is started twice. The number of a TEMPORARY
specification is at one position of one list, and its child has been started once or is waited for
by one work, not both. -/
structure Fine (world : ChildStarts) : Prop where
  inside : ∀ (index : ℕ) (generation : Generation), world.generations[index]? = some generation →
    generation.supervisor.Inside
  numbered : ∀ (index : ℕ) (generation : Generation),
    world.generations[index]? = some generation →
      ∀ position < generation.supervisor.count, generation.number position < world.created
  fresh : ∀ number ≥ world.created, world.starts number = 0
  own : ∀ (index : ℕ) (generation : Generation), world.generations[index]? = some generation →
    ∀ position, generation.supervisor.TemporaryAt position →
      ∀ (other : ℕ) (second : Generation), world.generations[other]? = some second →
        ∀ place < second.supervisor.count,
          second.number place = generation.number position → other = index ∧ place = position
  once : ∀ (index : ℕ) (generation : Generation), world.generations[index]? = some generation →
    ∀ position, generation.supervisor.TemporaryAt position →
      world.starts (generation.number position) + generation.supervisor.pending position ≤ 1

theorem Fine.atMostOnce (fine : world.Fine) : world.AtMostOnce := by
  intro generation member position temporary
  obtain ⟨index, here⟩ := List.mem_iff_getElem?.mp member
  exact (Nat.le_add_right _ _).trans (fine.once index generation here position temporary)

theorem lt_of_temporaryAt {sup : Supervision} {position : ℕ}
    (temporary : sup.TemporaryAt position) : position < sup.count := by
  obtain ⟨spec, here, -⟩ := temporary
  exact (List.getElem?_eq_some_iff.mp here).1

/-- The supervisors after a step of one of them. -/
theorem mem_set (here : world.generations[index]? = some generation) {changed other : Generation}
    {place : ℕ} (found : (world.generations.set index changed)[place]? = some other) :
    (place = index ∧ other = changed) ∨
      (place ≠ index ∧ world.generations[place]? = some other) := by
  by_cases same : place = index
  · subst same
    rw [List.getElem?_set_self (List.getElem?_eq_some_iff.mp here).1] at found
    exact .inl ⟨rfl, (Option.some.inj found).symm⟩
  · rw [List.getElem?_set_ne (Ne.symm same)] at found
    exact .inr ⟨same, found⟩

/-- **A step of one supervisor.** It keeps the list, and the works that have yet to start a
TEMPORARY child make up for the start that comes to its end. -/
theorem Fine.advance (fine : world.Fine) (here : world.generations[index]? = some generation)
    {after : Supervision}
    (childSpecs : after.core.childSpecs = generation.supervisor.core.childSpecs)
    (inside : after.Inside) {started : Option ℕ}
    (listed : ∀ position ∈ started, position < generation.supervisor.count)
    (less : ∀ position, generation.supervisor.TemporaryAt position →
      after.pending position + (if started = some position then 1 else 0) ≤
        generation.supervisor.pending position) :
    (world.advance index generation after started).Fine := by
  have count : after.count = generation.supervisor.count := congrArg List.length childSpecs
  have temporary {position : ℕ} : after.TemporaryAt position ↔
      generation.supervisor.TemporaryAt position := by
    unfold Supervision.TemporaryAt
    rw [childSpecs]
  -- a start is one of the number at its position
  have counted (number : ℕ) : (world.advance index generation after started).starts number =
      world.starts number +
        if ∃ position ∈ started, generation.number position = number then 1 else 0 := by
    unfold ChildStarts.advance
    dsimp only
    cases started with
    | none => simp
    | some position =>
        by_cases same : generation.number position = number
        · subst same
          simp
        · simp [same, Function.update_of_ne (Ne.symm same)]
  -- the numbers and the lists are those from before
  have kept {place : ℕ} {other : Generation}
      (found : (world.advance index generation after started).generations[place]? = some other) :
      ∃ before, world.generations[place]? = some before ∧ other.number = before.number ∧
        other.supervisor.count = before.supervisor.count ∧
        ∀ position, other.supervisor.TemporaryAt position ↔
          before.supervisor.TemporaryAt position := by
    rcases mem_set here found with ⟨rfl, rfl⟩ | ⟨-, unchanged⟩
    · exact ⟨generation, here, rfl, count, fun _ => temporary⟩
    · exact ⟨other, unchanged, rfl, rfl, fun _ => Iff.rfl⟩
  constructor
  · intro place other found
    rcases mem_set here found with ⟨-, rfl⟩ | ⟨-, unchanged⟩
    · exact inside
    · exact fine.inside place other unchanged
  · intro place other found position within
    obtain ⟨before, was, numbers, counts, -⟩ := kept found
    rw [numbers]
    exact fine.numbered place before was position (counts ▸ within)
  · intro number unused
    rw [counted, fine.fresh number unused, if_neg]
    rintro ⟨position, isStarted, rfl⟩
    exact absurd (fine.numbered index generation here position (listed position isStarted))
      (Nat.not_lt.mpr unused)
  · intro place other found position isTemporary second third foundThird position' within same
    obtain ⟨before, was, numbers, -, temporaries⟩ := kept found
    obtain ⟨beforeThird, wasThird, numbersThird, countsThird, -⟩ := kept foundThird
    rw [numbers, numbersThird] at same
    exact fine.own place before was position ((temporaries position).mp isTemporary) second
      beforeThird wasThird position' (countsThird ▸ within) same
  · intro place other found position isTemporary
    rw [counted]
    rcases mem_set here found with ⟨rfl, rfl⟩ | ⟨elsewhere, unchanged⟩
    · have before := fine.once place generation here position (temporary.mp isTemporary)
      have fewer := less position (temporary.mp isTemporary)
      split
      · next hit =>
          obtain ⟨startedAt, isStarted, same⟩ := hit
          obtain ⟨-, rfl⟩ := fine.own place generation here position (temporary.mp isTemporary)
            place generation here startedAt (listed startedAt isStarted) same
          rw [if_pos (Option.mem_def.mp isStarted)] at fewer
          dsimp only
          omega
      · dsimp only
        omega
    · have before := fine.once place other unchanged position isTemporary
      rw [if_neg]
      · exact before
      · rintro ⟨startedAt, isStarted, same⟩
        exact elsewhere (fine.own place other unchanged position isTemporary index generation here
          startedAt (listed startedAt isStarted) same).1.symm

/-- A supervisor in `start` is about the children on its list. -/
theorem inside_starting (strategy : RestartStrategy) (childSpecs : List ChildSpec)
    (restartTracker : RestartTracker) :
    (Supervision.starting strategy childSpecs restartTracker).Inside := by
  intro work member
  unfold Supervision.starting at member
  dsimp only at member
  split at member
  · cases member
  · next listed =>
      obtain rfl := List.mem_singleton.mp member
      change (0 < childSpecs.length && childSpecs.length ≤ childSpecs.length) = true
      simpa using List.length_pos_iff.mpr listed

/-- Another supervisor is built with a list on which no specification is TEMPORARY. -/
theorem Fine.build (fine : world.Fine) {origin : ℕ} {old : Generation}
    (isOld : world.generations[origin]? = some old) {built : Supervision}
    (childSpecs : built.core.childSpecs = old.supervisor.core.childSpecs) (inside : built.Inside)
    (none : ∀ position < old.supervisor.count, ¬ old.supervisor.TemporaryAt position)
    (registered : Option ℕ) (rootTracker : RestartTracker) :
    ({ world with
      generations := world.generations ++ [⟨built, old.number⟩]
      registered
      rootTracker } : ChildStarts).Fine := by
  have count : built.count = old.supervisor.count := congrArg List.length childSpecs
  have permanent {position : ℕ} : ¬ built.TemporaryAt position := by
    intro temporary
    unfold Supervision.TemporaryAt at temporary
    rw [childSpecs] at temporary
    exact none position (lt_of_temporaryAt temporary) temporary
  have kept {place : ℕ} {other : Generation}
      (found : (world.generations ++ [⟨built, old.number⟩])[place]? = some other) :
      world.generations[place]? = some other ∨ other = ⟨built, old.number⟩ := by
    rcases Nat.lt_or_ge place world.generations.length with before | last
    · rw [List.getElem?_append_left before] at found
      exact .inl found
    · rw [List.getElem?_append_right last] at found
      exact .inr (List.mem_singleton.mp (List.mem_of_getElem? found))
  constructor
  · intro place other found
    rcases kept found with before | rfl
    · exact fine.inside place other before
    · exact inside
  · intro place other found position within
    rcases kept found with before | rfl
    · exact fine.numbered place other before position within
    · exact fine.numbered origin old isOld position (count ▸ within)
  · exact fine.fresh
  · intro place other found position temporary second third foundThird position' within equal
    rcases kept found with before | rfl
    · rcases kept foundThird with beforeThird | rfl
      · exact fine.own place other before position temporary second third beforeThird
          position' within equal
      · -- a TEMPORARY number on the new list would be one on the old list
        change position' < built.count at within
        rw [count] at within
        obtain ⟨rfl, rfl⟩ := fine.own place other before position temporary origin old isOld
          position' within equal
        rw [isOld] at before
        obtain rfl := Option.some.inj before
        exact absurd temporary (none position' within)
    · exact absurd temporary permanent
  · intro place other found position temporary
    rcases kept found with before | rfl
    · exact fine.once place other before position temporary
    · exact absurd temporary permanent

theorem Fine.handleChildEscalation (fine : world.Fine) {purgedAt recordedAt : ℚ}
    (spared : (world.rootTracker.allowRestart purgedAt recordedAt).2 = true →
      ∀ old ∈ world.project, ∀ position < old.supervisor.count,
        ¬ old.supervisor.TemporaryAt position) :
    (world.handleChildEscalation purgedAt recordedAt).Fine := by
  unfold ChildStarts.handleChildEscalation
  split
  · next rootTracker old granted project =>
      rw [granted] at spared
      obtain ⟨origin, -, isOld⟩ := Option.bind_eq_some_iff.mp project
      have inside := inside_starting old.supervisor.core.strategy old.supervisor.core.childSpecs
        { maxRestarts := old.supervisor.core.restartTracker.maxRestarts
          windowSeconds := old.supervisor.core.restartTracker.windowSeconds }
      exact fine.build isOld (by rfl) inside (spared rfl old project) _ rootTracker
  · exact ⟨fine.inside, fine.numbered, fine.fresh, fine.own, fine.once⟩

/-- What a delegated child has to do with the list, and the works, from before. -/
theorem temporaryAt_delegate_iff {sup : Supervision} (childId : Text) {position : ℕ} :
    (sup.delegate childId).TemporaryAt position ↔
      sup.TemporaryAt position ∨ position = sup.count := by
  unfold Supervision.TemporaryAt Supervision.delegate Supervision.count
  dsimp only
  rcases Nat.lt_trichotomy position sup.core.childSpecs.length with listed | rfl | beyond
  · rw [List.getElem?_append_left listed]
    simp [listed.ne]
  · simp
  · rw [List.getElem?_eq_none (by simp; omega), List.getElem?_eq_none beyond.le]
    simp [beyond.ne']

theorem inside_delegate {sup : Supervision} (inside : sup.Inside)
    (closed : ∀ work ∈ sup.works, work.ahead.isOpen = false) (childId : Text) :
    (sup.delegate childId).Inside := by
  have count : (sup.delegate childId).count = sup.count + 1 := List.length_append
  intro work member
  rw [count]
  rcases List.mem_append.mp member with before | last
  · have isClosed := closed work before
    have isInside := inside work before
    rcases ahead : work.ahead with ⟨next, _ | bound⟩ | _
    · rw [ahead] at isClosed
      cases isClosed
    · rw [ahead] at isInside
      simp only [Ahead.isInside, Option.getD_some, Bool.and_eq_true, decide_eq_true_eq] at *
      omega
    · rfl
  · rw [List.mem_singleton.mp last]
    simp [Ahead.isInside]

/-- No work under way comes to a delegated child, but for its own start. -/
theorem pending_delegate {sup : Supervision} (inside : sup.Inside)
    (closed : ∀ work ∈ sup.works, work.ahead.isOpen = false) (childId : Text) {position : ℕ}
    (listed : position ≤ sup.count) :
    (sup.delegate childId).pending position =
      if position = sup.count then 1 else sup.pending position := by
  have count : (sup.delegate childId).count = sup.count + 1 := List.length_append
  have reaches : ∀ work ∈ sup.works, work.ahead.reaches (sup.count + 1) position =
      work.ahead.reaches sup.count position ∧
      (position = sup.count → work.ahead.reaches sup.count position = false) := by
    intro work before
    have isClosed := closed work before
    have isInside := inside work before
    rcases ahead : work.ahead with ⟨next, _ | bound⟩ | _
    · rw [ahead] at isClosed
      cases isClosed
    · rw [ahead] at isInside
      simp only [Ahead.isInside, Option.getD_some, Bool.and_eq_true, decide_eq_true_eq] at isInside
      refine ⟨rfl, fun same => ?_⟩
      simp only [Ahead.reaches, Option.getD_some, Bool.and_eq_false_iff, decide_eq_false_iff_not]
      omega
    · exact ⟨rfl, fun _ => rfl⟩
  have own : (Ahead.starts sup.count (some (sup.count + 1))).reaches (sup.count + 1) position =
      decide (position = sup.count) := by
    simp only [Ahead.reaches, Option.getD_some]
    rw [← Bool.decide_and]
    exact decide_eq_decide.mpr (by omega)
  unfold Supervision.pending Supervision.waiting
  rw [count]
  change List.countP _ (sup.works ++ [_]) = _
  rw [List.countP_append, List.countP_singleton, own,
    List.countP_congr fun work member => by rw [(reaches work member).1]]
  by_cases same : position = sup.count
  · rw [if_pos (decide_eq_true same), if_pos same, List.countP_eq_zero.mpr fun work member => by
      rw [(reaches work member).2 same]; exact Bool.false_ne_true]
  · rw [if_neg (by simpa using same), if_neg same, Nat.add_zero]

/-- A delegated child has a new number. -/
theorem Fine.delegate (fine : world.Fine) (here : world.generations[index]? = some generation)
    (childId : Text) (closed : ∀ work ∈ generation.supervisor.works, work.ahead.isOpen = false) :
    (world.perform (.delegated index childId)).Fine := by
  have count : (generation.supervisor.delegate childId).count = generation.supervisor.count + 1 :=
    List.length_append
  have inside := fine.inside index generation here
  unfold ChildStarts.perform ChildStarts.advance
  dsimp only
  rw [here]
  dsimp only
  -- a position is the new one, or one from before with all that it had
  have kept {place : ℕ} {other : Generation} {position : ℕ}
      (found : (world.generations.set index ⟨generation.supervisor.delegate childId,
        Function.update generation.number generation.supervisor.count world.created⟩)[place]? =
        some other) (listed : position < other.supervisor.count) :
      (place = index ∧ position = generation.supervisor.count ∧
        other.number position = world.created ∧ other.supervisor.pending position = 1) ∨
      ∃ before, world.generations[place]? = some before ∧
        position < before.supervisor.count ∧ other.number position = before.number position ∧
        other.supervisor.pending position = before.supervisor.pending position ∧
        (other.supervisor.TemporaryAt position → before.supervisor.TemporaryAt position) := by
    rcases mem_set here found with ⟨rfl, rfl⟩ | ⟨-, unchanged⟩
    · dsimp only at listed ⊢
      rw [count] at listed
      have pending := pending_delegate inside closed childId (Nat.lt_succ_iff.mp listed)
      by_cases new : position = generation.supervisor.count
      · rw [if_pos new] at pending
        subst new
        exact .inl ⟨rfl, rfl, Function.update_self _ _ _, pending⟩
      · rw [if_neg new] at pending
        refine .inr ⟨generation, here, by omega, Function.update_of_ne new _ _, pending, ?_⟩
        rw [temporaryAt_delegate_iff]
        exact fun temporary => temporary.resolve_right new
    · exact .inr ⟨other, unchanged, listed, rfl, rfl, id⟩
  constructor
  · intro place other found
    rcases mem_set here found with ⟨-, rfl⟩ | ⟨-, unchanged⟩
    · exact inside_delegate inside closed childId
    · exact fine.inside place other unchanged
  · intro place other found position listed
    rcases kept found listed with ⟨-, -, new, -⟩ | ⟨before, was, wasListed, number, -, -⟩
    · rw [new]
      exact Nat.lt_succ_self _
    · rw [number]
      exact (fine.numbered place before was position wasListed).trans (Nat.lt_succ_self _)
  · exact fun number unused => fine.fresh number (Nat.le_of_succ_le unused)
  · intro place other found position temporary second third foundThird position' listed' same
    have listed := lt_of_temporaryAt temporary
    rcases kept found listed with ⟨rfl, rfl, new, -⟩ | ⟨before, was, wasListed, number, -, were⟩ <;>
      rcases kept foundThird listed' with
        ⟨rfl, rfl, new', -⟩ | ⟨before', was', wasListed', number', -, -⟩
    · exact ⟨rfl, rfl⟩
    · have used := fine.numbered second before' was' position' wasListed'
      rw [← number', same, new] at used
      exact absurd used (Nat.lt_irrefl _)
    · have used := fine.numbered place before was position wasListed
      rw [← number, ← same, new'] at used
      exact absurd used (Nat.lt_irrefl _)
    · rw [number, number'] at same
      exact fine.own place before was position (were temporary) second before' was' position'
        wasListed' same
  · intro place other found position temporary
    rcases kept found (lt_of_temporaryAt temporary) with
      ⟨-, -, new, pending⟩ | ⟨before, was, -, number, pending, were⟩
    · rw [new, pending, fine.fresh world.created le_rfl]
    · rw [number, pending]
      exact fine.once place before was position (were temporary)

theorem starts_lt {sup : Supervision} {event : FailureEvent} :
    ∀ position ∈ sup.starts event, position < sup.count := by
  intro position started
  unfold Supervision.starts at started
  split at started
  · split at started
    · split at started
      · next listed => exact Option.some.inj started ▸ listed
      · cases started
    · cases started
  · cases started

/-- What happens in a supervisor leaves the world fine, in whatever state it leaves the supervisor
beside its list and its works. -/
theorem Fine.failure (fine : world.Fine) (here : world.generations[index]? = some generation)
    {event : FailureEvent}
    (spared : ∀ work ∈ generation.supervisor.begins event,
      ∀ position < generation.supervisor.count,
        work.ahead.reaches generation.supervisor.count position = true →
          ¬ generation.supervisor.TemporaryAt position)
    {after : Supervision} (core : after.core.childSpecs = generation.supervisor.core.childSpecs)
    (works : after.works = (generation.supervisor.perform event).works) :
    (world.advance index generation after (generation.supervisor.starts event)).Fine := by
  have specs := core.trans (generation.supervisor.childSpecs_perform event).symm
  have inside := (fine.inside index generation here).perform event
  refine fine.advance here core ?_ starts_lt fun position temporary => ?_
  · unfold Supervision.Inside Supervision.count
    rw [works, specs]
    exact inside
  · unfold Supervision.pending Supervision.waiting Supervision.count
    rw [works, specs]
    refine Supervision.pending_perform_le (fine.inside index generation here) fun work begun => ?_
    exact Bool.eq_false_iff.mpr fun reached =>
      spared work begun position (lt_of_temporaryAt temporary) reached temporary

/-- **One event.** -/
theorem Fine.perform (fine : world.Fine) (event : ChildEvent) (spares : world.Spares event) :
    (world.perform event).Fine := by
  cases event with
  | failure index event told =>
      unfold ChildStarts.perform
      dsimp only
      cases here : world.generations[index]? with
      | none => exact fine
      | some generation =>
          obtain ⟨spared, built⟩ := spares generation here
          have childSpecs := generation.supervisor.childSpecs_perform event
          dsimp only
          unfold performFailure
          dsimp only
          split
          · next tells =>
              rcases told with _ | ⟨purgedAt, recordedAt⟩
              · exact fine.failure here spared childSpecs rfl
              · refine (fine.failure here spared childSpecs rfl).handleChildEscalation ?_
                intro granted old project position listed
                -- the supervisor that the root rebuilds has the list from before
                have before := built tells (purgedAt, recordedAt) rfl granted
                obtain ⟨origin, registered, isOld⟩ := Option.bind_eq_some_iff.mp project
                have projectBefore {was : Generation}
                    (found : world.generations[origin]? = some was) : was ∈ world.project :=
                  Option.bind_eq_some_iff.mpr ⟨origin, registered, found⟩
                rcases mem_set here isOld with ⟨rfl, rfl⟩ | ⟨-, unchanged⟩
                · have none := before generation (projectBefore here) position
                  rw [← Supervision.count_perform event] at none
                  unfold Supervision.TemporaryAt at none ⊢
                  rw [childSpecs]
                  exact none listed
                · exact before old (projectBefore unchanged) position listed
          · split
            · have after : (world.advance index generation (generation.supervisor.perform event).run
                  (generation.supervisor.starts event)).Fine :=
                fine.failure here spared childSpecs rfl
              exact ⟨after.inside, after.numbered, after.fresh, after.own, after.once⟩
            · exact fine.failure here spared childSpecs rfl
  | exits index childId =>
      unfold ChildStarts.perform
      dsimp only
      cases here : world.generations[index]? with
      | none => exact fine
      | some generation =>
          have same : (generation.supervisor.exit childId).core.childSpecs =
              generation.supervisor.core.childSpecs ∧
              (generation.supervisor.exit childId).works = generation.supervisor.works := by
            unfold Supervision.exit
            split
            · split <;> exact ⟨rfl, rfl⟩
            · exact ⟨rfl, rfl⟩
          refine fine.advance here same.1 ?_ (fun _ started => by cases started)
            fun position _ => ?_
          · unfold Supervision.Inside Supervision.count
            rw [same.1, same.2]
            exact fine.inside index generation here
          · unfold Supervision.pending Supervision.waiting Supervision.count
            rw [same.1, same.2]
            simp
  | delegated index childId =>
      cases here : world.generations[index]? with
      | none =>
          unfold ChildStarts.perform
          dsimp only
          rw [here]
          exact fine
      | some generation => exact fine.delegate here childId (spares generation here)
  | elsewhere purgedAt recordedAt =>
      exact ⟨fine.inside, fine.numbered, fine.fresh, fine.own, fine.once⟩

theorem fine_init (strategy : RestartStrategy) (childSpecs : List ChildSpec)
    (restartTracker rootTracker : RestartTracker) :
    (init strategy childSpecs restartTracker rootTracker).Fine := by
  have only {index : ℕ} {generation : Generation}
      (found : (init strategy childSpecs restartTracker rootTracker).generations[index]? =
        some generation) : index = 0 ∧ generation = ⟨.starting strategy childSpecs restartTracker,
          id⟩ := by
    unfold init at found
    obtain ⟨inside, same⟩ := List.getElem?_eq_some_iff.mp found
    obtain rfl : index = 0 := by simpa using inside
    exact ⟨rfl, same.symm⟩
  constructor
  · intro index generation found
    obtain ⟨-, rfl⟩ := only found
    exact inside_starting strategy childSpecs restartTracker
  · intro index generation found position listed
    obtain ⟨-, rfl⟩ := only found
    exact listed
  · exact fun number _ => rfl
  · intro index generation found position _ other second foundSecond place _ same
    obtain ⟨rfl, rfl⟩ := only found
    obtain ⟨rfl, rfl⟩ := only foundSecond
    exact ⟨rfl, same⟩
  · intro index generation found position _
    obtain ⟨-, rfl⟩ := only found
    -- `start` is the only work
    change 0 + List.countP _ (Supervision.starting strategy childSpecs restartTracker).works ≤ 1
    rw [Nat.zero_add]
    refine List.countP_le_length.trans ?_
    unfold Supervision.starting
    dsimp only
    split <;> simp

/-- **TEMPORARY children.** In a run of failures, restarts, exits, granted delegations and
escalations whose events all meet the condition, no TEMPORARY child is started a second time. -/
theorem temporary_starts_once (strategy : RestartStrategy) (childSpecs : List ChildSpec)
    (restartTracker rootTracker : RestartTracker) (events : List ChildEvent)
    (spares : EachMeets perform Spares (init strategy childSpecs restartTracker rootTracker)
      events) :
    Throughout perform AtMostOnce (init strategy childSpecs restartTracker rootTracker) events :=
  (spares.throughout (fun _ event fine => fine.perform event)
    (fine_init strategy childSpecs restartTracker rootTracker)).mono fun _ => Fine.atMostOnce

private def turns (index count : ℕ) : List ChildEvent :=
  List.replicate count (.failure index (.turn 0 fun _ => false) (some (0, 0)))

private def restartOf (index : ℕ) (childId : Text) : List ChildEvent :=
  [.failure index (.fails childId) none,
    .failure index (.monitored childId ⟨0, 0, 0, 0⟩ false) none]

/-- A child is restarted, errs again and is given up; the root rebuilds the supervisor, and in it
a delegated child runs and ends before the other one is restarted. -/
private def rebuiltThenDelegated : List ChildEvent :=
  turns 0 2 ++ restartOf 0 "a".toList ++ turns 0 2 ++ restartOf 0 "a".toList ++ turns 0 2 ++
    turns 1 2 ++ [.delegated 1 "d".toList] ++ turns 1 1 ++ [.exits 1 "d".toList] ++
    restartOf 1 "b".toList ++ turns 1 2

theorem delegated_child_starts_once :
    EachMeets perform Spares (init .oneForOne [{ childId := "a".toList },
        { childId := "b".toList }] { maxRestarts := 1 } {}) rebuiltThenDelegated ∧
      Throughout perform AtMostOnce (init .oneForOne [{ childId := "a".toList },
        { childId := "b".toList }] { maxRestarts := 1 } {}) rebuiltThenDelegated := by
  have spares : EachMeets perform Spares (init .oneForOne [{ childId := "a".toList },
      { childId := "b".toList }] { maxRestarts := 1 } {}) rebuiltThenDelegated := by
    decide +kernel
  exact ⟨spares, temporary_starts_once .oneForOne _ _ _ _ spares⟩

/-- A child fails beside a TEMPORARY one, under ALL_FOR_ONE. -/
private def siblingFails : List ChildEvent := turns 0 2 ++ restartOf 0 "a".toList ++ turns 0 4

/-- The failure of its sibling starts a TEMPORARY child a second time. -/
theorem temporary_child_started_twice :
    ¬ ∀ (strategy : RestartStrategy) (childSpecs : List ChildSpec)
      (restartTracker rootTracker : RestartTracker) (events : List ChildEvent),
      Throughout perform AtMostOnce (init strategy childSpecs restartTracker rootTracker)
        events := by
  intro claim
  have once := (claim .allForOne [{ childId := "a".toList },
    { childId := "b".toList, restartPolicy := .temporary }] {} {} siblingFails).last
  exact absurd (once _ (List.getElem_mem (n := 0) (by decide +kernel)) 1 (by decide +kernel))
    (by decide +kernel)

end ChildStarts

end Vcompany.Supervisor
