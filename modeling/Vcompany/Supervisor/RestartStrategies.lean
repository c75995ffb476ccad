import Vcompany.Supervisor.MonitorTasks

/-! # What a restart touches

A strategy restarts the failed child, all children, or the failed one and those behind it. The
restart of `MonitorTasks` is written here with the calls of `child.stop` and `_start_child` that it
makes (`restart_logged`). Two of the strategies await the monitor tasks of their children between
the two passes: one that has ended with an exception raises it there, and nothing is started
(`restart_touches_exactly_iff`).
-/

namespace Vcompany.Supervisor

open Foundation Resilience

/-- A call that a restart makes. -/
inductive ChildCall where
  /-- `child.stop()`. -/
  | stop (childId : Text)
  /-- `_start_child`. -/
  | start (childId : Text)
  deriving DecidableEq

def ChildCall.childId : ChildCall → Text
  | stop childId | start childId => childId

/-- A supervisor, with the calls that were made. -/
abbrev CallLog := Supervised × List ChildCall

/-- Neither `stop` nor `_start_child` raises for the children. -/
def Surroundings.Returns (env : Surroundings) (range : List ChildSpec) : Prop :=
  ∀ spec ∈ range, (env.stops spec.childId).1 = .returned ∧
    (env.starts spec.childId).ending = .returned

namespace Supervised

/-- The child is there and is not passed over. -/
def isUp (sup : Supervised) (childId : Text) : Bool :=
  (sup.core.children childId).any ContainerState.isLive

def stopCalls (childId : Text) (sup : Supervised) : List ChildCall :=
  if sup.isUp childId then [.stop childId] else []

def stopLogged (stops : Text → ChildStop) (childId : Text) : CallLog → Outcome CallLog :=
  Outcome.logged (stopCalls childId) (stopChild stops childId)

def startLogged (env : Surroundings) (spec : ChildSpec) : CallLog → Outcome CallLog :=
  Outcome.logged (fun _ => [.start spec.childId]) (startChild (env.starts spec.childId) spec)

def restartOneLogged (env : Surroundings) (spec : ChildSpec) (log : CallLog) : Outcome CallLog :=
  (stopLogged env.stops spec.childId log).andThen (startLogged env spec)

/-- A child is stopped, and its monitor is taken out. -/
def takeDownLogged (env : Surroundings) (spec : ChildSpec) (log : CallLog) : Outcome CallLog :=
  (stopLogged env.stops spec.childId log).andThen
    (Outcome.logged (fun _ => []) (popTask spec.childId))

def restartRangeLogged (env : Surroundings) (specs : List ChildSpec) (log : CallLog) :
    Outcome CallLog :=
  ((Outcome.forEach (takeDownLogged env) specs.reverse
      ({ log.1 with restarting := true }, log.2)).andThen
    (Outcome.forEach (startLogged env) specs)).ensure
      fun log => ({ log.1 with restarting := false }, log.2)

/-- `restart`, with the calls that it makes. -/
def restartLogged (env : Surroundings) (spec : ChildSpec) (sup : Supervised) : Outcome CallLog :=
  match sup.core.strategy with
  | .oneForOne => restartOneLogged env spec (sup, [])
  | .allForOne => restartRangeLogged env sup.core.childSpecs (sup, [])
  | .restForOne =>
      restartRangeLogged env
        (sup.core.childSpecs.dropWhile fun other => other.childId ≠ spec.childId) (sup, [])

theorem start_logged (env : Surroundings) (spec : ChildSpec) (log : CallLog) :
    (startLogged env spec log).map Prod.fst =
      startChild (env.starts spec.childId) spec log.1 :=
  Outcome.map_logged _ _ log

theorem takeDown_logged (env : Surroundings) (spec : ChildSpec) (log : CallLog) :
    (takeDownLogged env spec log).map Prod.fst =
      (log.1.stopChild env.stops spec.childId).andThen (popTask spec.childId) :=
  Outcome.map_andThen Prod.fst fun log => Outcome.map_logged _ (popTask spec.childId) log

theorem restartOne_logged (env : Surroundings) (spec : ChildSpec) (log : CallLog) :
    (restartOneLogged env spec log).map Prod.fst = log.1.restartOne env spec :=
  Outcome.map_andThen Prod.fst (start_logged env spec)

theorem restartRange_logged (env : Surroundings) (specs : List ChildSpec) (log : CallLog) :
    (restartRangeLogged env specs log).map Prod.fst = log.1.restartRange env specs := by
  have stopped (specs : List ChildSpec) (log : CallLog) :
      (Outcome.forEach (takeDownLogged env) specs log).map Prod.fst =
        Outcome.forEach (fun spec (sup : Supervised) =>
          (sup.stopChild env.stops spec.childId).andThen (popTask spec.childId)) specs log.1 :=
    Outcome.map_forEach Prod.fst (takeDown_logged env) specs log
  unfold restartRangeLogged restartRange
  rw [Outcome.map_ensure Prod.fst _ _ ({ · with restarting := false }) fun _ => rfl,
    Outcome.map_andThen Prod.fst (Outcome.map_forEach Prod.fst (start_logged env) specs), stopped]

/-- Without the calls it is `restart`. -/
theorem restart_logged (env : Surroundings) (spec : ChildSpec) (sup : Supervised) :
    (sup.restartLogged env spec).map Prod.fst = sup.restart env spec := by
  unfold restartLogged restart
  cases sup.core.strategy with
  | oneForOne => exact restartOne_logged env spec (sup, [])
  | allForOne => exact restartRange_logged env _ (sup, [])
  | restForOne => exact restartRange_logged env _ (sup, [])

/-! ## The children that a restart concerns -/

/-- The specifications that a strategy concerns, for a failed child between others. -/
def concerned (strategy : RestartStrategy) (before : List ChildSpec) (spec : ChildSpec)
    (after : List ChildSpec) : List ChildSpec :=
  match strategy with
  | .oneForOne => [spec]
  | .allForOne => before ++ spec :: after
  | .restForOne => spec :: after

/-- Other children are neither stopped nor started, and callbacks are not suppressed any more. -/
def Confined (range : List ChildSpec) (outcome : Outcome CallLog) : Prop :=
  (outcome.ending ≠ none → outcome.state.1.restarting = false) ∧
    ∀ call ∈ outcome.state.2, call.childId ∈ range.map ChildSpec.childId

/-- The children that are up are stopped in reverse order, and then all are started. -/
def InOrder (sup : Supervised) (range : List ChildSpec) (outcome : Outcome CallLog) : Prop :=
  outcome.ending = some .returned ∧
    outcome.state.2 =
      ((range.map ChildSpec.childId).reverse.filter sup.isUp).map ChildCall.stop ++
        (range.map ChildSpec.childId).map ChildCall.start

/-- The restart concerns the children of its range only, whatever its parts do; and where
neither `stop` nor `_start_child` raises, it does all its work in order. -/
def RestartsExactly (sup : Supervised) (spec : ChildSpec) (range : List ChildSpec) : Prop :=
  ∀ env : Surroundings, Confined range (sup.restartLogged env spec) ∧
    (env.Returns range → InOrder sup range (sup.restartLogged env spec))

/-- The child's monitor, if it has one, can be awaited. -/
def Awaitable (sup : Supervised) (childId : Text) : Prop :=
  ∀ task ∈ sup.tasks.get? childId,
    task.whenCancelled = some .returned ∨ task.whenCancelled = some .cancelled

instance (sup : Supervised) (childId : Text) : Decidable (sup.Awaitable childId) :=
  inferInstanceAs (Decidable (∀ _ ∈ _, _ ∨ _))

/-- The condition on the state before the restart: with `one_for_one`, callbacks are not suppressed
already; otherwise the monitors of all children in the range can be awaited. -/
def Unhindered (sup : Supervised) (range : List ChildSpec) : Prop :=
  match sup.core.strategy with
  | .oneForOne => sup.restarting = false
  | _ => ∀ spec ∈ range, sup.Awaitable spec.childId

variable {env : Surroundings} {sup : Supervised} {spec : ChildSpec} {range : List ChildSpec}
  {childId : Text} {log : CallLog}

/-! ## Whatever stops and starts do -/

/-- More calls have been made, for the children of the range. -/
def Calls (range : List ChildSpec) (log next : CallLog) : Prop :=
  ∃ made, next.2 = log.2 ++ made ∧ ∀ call ∈ made, call.childId ∈ range.map ChildSpec.childId

theorem calls_logged {calls : Supervised → List ChildCall} (run : Supervised → Outcome Supervised)
    (log : CallLog) (within : ∀ call ∈ calls log.1, call.childId ∈ range.map ChildSpec.childId) :
    Outcome.Follows (Calls range) log (Outcome.logged calls run log) :=
  .single ⟨calls log.1, rfl, within⟩

theorem calls_stop (log : CallLog) (member : spec ∈ range) :
    Outcome.Follows (Calls range) log (stopLogged env.stops spec.childId log) := by
  apply calls_logged
  intro call made
  unfold stopCalls at made
  split at made
  · obtain rfl := List.mem_singleton.mp made
    exact List.mem_map_of_mem member
  · exact absurd made List.not_mem_nil

theorem calls_start (log : CallLog) (member : spec ∈ range) :
    Outcome.Follows (Calls range) log (startLogged env spec log) := by
  apply calls_logged
  intro call made
  obtain rfl := List.mem_singleton.mp made
  exact List.mem_map_of_mem member

theorem calls_restartOne (log : CallLog) (member : spec ∈ range) :
    Outcome.Follows (Calls range) log (restartOneLogged env spec log) :=
  (calls_stop log member).andThen fun log => calls_start log member

theorem calls_restartRange (env : Surroundings) (range : List ChildSpec) (log : CallLog) :
    Outcome.Follows (Calls range) log (restartRangeLogged env range log) := by
  have turned (log : CallLog) (restarting : Bool) :
      Calls range log ({ log.1 with restarting }, log.2) :=
    ⟨[], (List.append_nil _).symm, nofun⟩
  have begun : Relation.ReflTransGen (Calls range) log ({ log.1 with restarting := true }, log.2) :=
    .single (turned log true)
  apply begun.trans
  apply Outcome.Follows.ensure
  · apply Outcome.Follows.andThen
    · apply Outcome.follows_forEach
      intro spec member log
      have listed : spec ∈ range := List.mem_reverse.mp member
      exact (calls_stop log listed).andThen fun log => calls_logged _ log nofun
    · intro log
      exact Outcome.follows_forEach fun spec member log => calls_start log member
  · exact fun log => turned log false

/-- The calls of a restart that started without any are for the children of the range. -/
theorem calls_confined {outcome : Outcome CallLog}
    (follows : Outcome.Follows (Calls range) (sup, []) outcome) :
    ∀ call ∈ outcome.state.2, call.childId ∈ range.map ChildSpec.childId := by
  have kept : ∀ before after : CallLog, Calls range before after →
      (∀ call ∈ before.2, call.childId ∈ range.map ChildSpec.childId) →
        ∀ call ∈ after.2, call.childId ∈ range.map ChildSpec.childId := by
    rintro before after ⟨made, calls, within⟩ earlier call member
    rw [calls] at member
    rcases List.mem_append.mp member with old | new
    · exact earlier call old
    · exact within call new
  exact follows.keeps kept nofun

/-- At the end of the two passes callbacks are not suppressed. -/
theorem restartRange_restarting (env : Surroundings) (range : List ChildSpec) (log : CallLog)
    (ends : (restartRangeLogged env range log).ending ≠ none) :
    (restartRangeLogged env range log).state.1.restarting = false := by
  unfold restartRangeLogged at ends ⊢
  rw [Outcome.ensure_ending] at ends
  rw [Outcome.ensure_state ends]

theorem stopChild_restarting (stops : Text → ChildStop) (childId : Text) (sup : Supervised) :
    (sup.stopChild stops childId).state.restarting = sup.restarting := by
  unfold stopChild
  split
  · rfl
  · split <;> rfl

theorem startChild_restarting (start : ChildStart) (spec : ChildSpec) (sup : Supervised) :
    (sup.startChild start spec).state.restarting = sup.restarting := by
  change ((sup.enter start spec.childId).watch start spec.childId).restarting = sup.restarting
  unfold watch enter
  split <;> split <;> rfl

theorem restartOne_restarting (env : Surroundings) (spec : ChildSpec) (log : CallLog) :
    (restartOneLogged env spec log).state.1.restarting = log.1.restarting := by
  have stopped := stopChild_restarting env.stops spec.childId log.1
  unfold restartOneLogged Outcome.andThen
  split
  · exact (startChild_restarting _ spec _).trans stopped
  · exact stopped

/-! ## Where stops and starts return -/

theorem stopChild_eq (stops : Text → ChildStop) (childId : Text) (sup : Supervised) :
    sup.stopChild stops childId =
      if sup.isUp childId then ⟨some (stops childId).1, sup.report childId (stops childId).2⟩
      else .done sup := by
  unfold stopChild isUp
  rcases sup.core.children childId with _ | state
  · rfl
  · rfl

theorem stopChild_returned {stops : Text → ChildStop} (returns : (stops childId).1 = .returned)
    (sup : Supervised) : (sup.stopChild stops childId).ending = some .returned := by
  rw [stopChild_eq]
  split
  · exact congrArg some returns
  · rfl

/-- What concerns another child is the same. -/
def SameFor (childId : Text) (sup next : Supervised) : Prop :=
  next.isUp childId = sup.isUp childId ∧ next.tasks.get? childId = sup.tasks.get? childId

theorem stopChild_sameFor (stops : Text → ChildStop) {other : Text} (apart : other ≠ childId)
    (sup : Supervised) : SameFor other sup (sup.stopChild stops childId).state := by
  rw [stopChild_eq]
  split
  · have kept : (sup.report childId (stops childId).2).core.children other =
        sup.core.children other := Function.update_of_ne apart _ _
    exact ⟨congrArg (Option.any ContainerState.isLive) kept, rfl⟩
  · exact ⟨rfl, rfl⟩

theorem popTask_returned_iff (childId : Text) (sup : Supervised) :
    (sup.popTask childId).ending = some .returned ↔ sup.Awaitable childId := by
  unfold popTask Awaitable
  rcases sup.tasks.get? childId with _ | task
  · exact iff_of_true rfl nofun
  · dsimp only
    rcases ends : task.whenCancelled with _ | _ | _ | _ <;> simp [Outcome.done, ends]

theorem popTask_sameFor {other : Text} (apart : other ≠ childId) (sup : Supervised) :
    SameFor other sup (sup.popTask childId).state := by
  have popped : SameFor other sup { sup with tasks := sup.tasks.pop childId } :=
    ⟨rfl, Dict.get?_pop_of_ne _ apart⟩
  unfold popTask
  split
  · exact ⟨rfl, rfl⟩
  · dsimp only
    split <;> exact popped

/-- One child is taken down. -/
theorem takeDown_spec (returns : (env.stops spec.childId).1 = .returned) (log : CallLog) :
    ((takeDownLogged env spec log).ending = some .returned ↔ log.1.Awaitable spec.childId) ∧
      (takeDownLogged env spec log).state.2 = log.2 ++ stopCalls spec.childId log.1 ∧
        ∀ other, other ≠ spec.childId →
          SameFor other log.1 (takeDownLogged env spec log).state.1 := by
  have stopped : (stopLogged env.stops spec.childId log).ending = some .returned :=
    stopChild_returned returns log.1
  have tasks : (log.1.stopChild env.stops spec.childId).state.tasks = log.1.tasks := by
    rw [stopChild_eq]
    split <;> rfl
  unfold takeDownLogged
  rw [Outcome.andThen_of_returned stopped]
  refine ⟨?_, ?_, ?_⟩
  · apply (popTask_returned_iff spec.childId _).trans
    unfold Awaitable
    rw [show (stopLogged env.stops spec.childId log).state.1.tasks = log.1.tasks from tasks]
  · exact List.append_nil _
  · intro other apart
    have first := stopChild_sameFor env.stops apart log.1
    have second := popTask_sameFor apart (log.1.stopChild env.stops spec.childId).state
    exact ⟨second.1.trans first.1, second.2.trans first.2⟩

/-- The first pass. -/
theorem forEach_takeDown {specs : List ChildSpec}
    (returns : ∀ spec ∈ specs, (env.stops spec.childId).1 = .returned)
    (distinct : (specs.map ChildSpec.childId).Nodup) (log : CallLog) :
    ((Outcome.forEach (takeDownLogged env) specs log).ending = some .returned ↔
        ∀ spec ∈ specs, log.1.Awaitable spec.childId) ∧
      ((Outcome.forEach (takeDownLogged env) specs log).ending = some .returned →
        (Outcome.forEach (takeDownLogged env) specs log).state.2 =
          log.2 ++ ((specs.map ChildSpec.childId).filter log.1.isUp).map ChildCall.stop) := by
  induction specs generalizing log with
  | nil => exact ⟨iff_of_true rfl nofun, fun _ => (List.append_nil _).symm⟩
  | cons spec specs ih =>
      obtain ⟨first, rest⟩ := List.forall_mem_cons.mp returns
      obtain ⟨fresh, distinct⟩ := List.nodup_cons.mp distinct
      obtain ⟨awaits, calls, same⟩ := takeDown_spec first log
      have apart : ∀ other ∈ specs, SameFor other.childId log.1
          (takeDownLogged env spec log).state.1 := fun other member =>
        same other.childId fun equal => fresh (equal ▸ List.mem_map_of_mem member)
      rw [List.forall_mem_cons]
      unfold Outcome.forEach
      by_cases awaitable : log.1.Awaitable spec.childId
      · rw [Outcome.andThen_of_returned (awaits.mpr awaitable), and_iff_right awaitable]
        obtain ⟨returned, made⟩ := ih rest distinct (takeDownLogged env spec log).state
        constructor
        · apply returned.trans
          apply forall₂_congr
          intro other member
          unfold Awaitable
          rw [(apart other member).2]
        · intro ends
          have up : (specs.map ChildSpec.childId).filter
              (takeDownLogged env spec log).state.1.isUp =
                (specs.map ChildSpec.childId).filter log.1.isUp := by
            apply List.filter_congr
            intro other member
            obtain ⟨another, listed, rfl⟩ := List.mem_map.mp member
            exact (apart another listed).1
          rw [made ends, calls, up, List.map_cons, List.filter_cons]
          unfold stopCalls
          split <;> simp
      · have ends : (takeDownLogged env spec log).ending ≠ some .returned :=
          fun returned => awaitable (awaits.mp returned)
        rw [Outcome.andThen_of_not_returned ends]
        exact ⟨iff_of_false ends fun all => awaitable all.1, fun returned => absurd returned ends⟩

/-- The second pass. -/
theorem forEach_start (returns : env.Returns range) (log : CallLog) :
    (Outcome.forEach (startLogged env) range log).ending = some .returned ∧
      (Outcome.forEach (startLogged env) range log).state.2 =
        log.2 ++ (range.map ChildSpec.childId).map ChildCall.start := by
  have calls : (range.map ChildSpec.childId).map ChildCall.start =
      range.flatMap fun spec => [ChildCall.start spec.childId] := by
    rw [List.map_map, List.map_eq_flatMap]
    rfl
  rw [calls]
  apply Outcome.forEach_logged
  exact fun spec member _ => congrArg some (returns spec member).2

/-- A restart of a range in which all stops and starts return: it does its work in order exactly if
the monitors can be awaited. -/
theorem restartRange_inOrder_iff (returns : env.Returns range)
    (distinct : (range.map ChildSpec.childId).Nodup) :
    InOrder sup range (restartRangeLogged env range (sup, [])) ↔
      ∀ spec ∈ range, sup.Awaitable spec.childId := by
  have reversed : (range.reverse.map ChildSpec.childId).Nodup := by
    rw [List.map_reverse, List.nodup_reverse]
    exact distinct
  have stopsReturn : ∀ spec ∈ range.reverse, (env.stops spec.childId).1 = .returned :=
    fun spec member => (returns spec (List.mem_reverse.mp member)).1
  obtain ⟨awaits, stopped⟩ :=
    forEach_takeDown stopsReturn reversed ({ sup with restarting := true }, [])
  have same : (∀ spec ∈ range.reverse,
      ({ sup with restarting := true } : Supervised).Awaitable spec.childId) ↔
        ∀ spec ∈ range, sup.Awaitable spec.childId :=
    forall_congr' fun _ => imp_congr_left List.mem_reverse
  rw [← same, ← awaits]
  unfold restartRangeLogged InOrder
  rw [Outcome.ensure_ending]
  constructor
  · rintro ⟨returned, -⟩
    by_contra stuck
    rw [Outcome.andThen_of_not_returned stuck] at returned
    exact stuck returned
  · intro returned
    rw [Outcome.andThen_of_returned returned]
    obtain ⟨ends, started⟩ := forEach_start returns
      (Outcome.forEach (takeDownLogged env) range.reverse
        ({ sup with restarting := true }, [])).state
    refine ⟨ends, ?_⟩
    rw [Outcome.ensure_state (ends ▸ Option.some_ne_none _)]
    rw [started, stopped returned, List.map_reverse]
    rfl

theorem restartOne_inOrder (returns : env.Returns [spec]) :
    InOrder sup [spec] (restartOneLogged env spec (sup, [])) := by
  obtain ⟨⟨stops, starts⟩, -⟩ := List.forall_mem_cons.mp returns
  have stopped : (stopLogged env.stops spec.childId (sup, [])).ending = some .returned :=
    stopChild_returned stops sup
  unfold restartOneLogged InOrder
  rw [Outcome.andThen_of_returned stopped]
  refine ⟨congrArg some starts, ?_⟩
  change ([] ++ stopCalls spec.childId sup) ++ [.start spec.childId] = _
  unfold stopCalls
  rw [List.map_singleton, List.reverse_singleton, List.filter_singleton]
  cases sup.isUp spec.childId <;> rfl

/-! ## The strategies -/

/-- Everything returns, without a child or a monitor to be seen. -/
def quietSurroundings : Surroundings where
  stops _ := (.returned, .stopped)
  starts _ := ⟨none, false, .returned⟩
  notified := .returned

theorem quietSurroundings_returns (range : List ChildSpec) : quietSurroundings.Returns range :=
  fun _ _ => ⟨rfl, rfl⟩

/-- The behaviour of `all_for_one` and `rest_for_one` on their range. -/
theorem restartRange_exactly_iff (distinct : (range.map ChildSpec.childId).Nodup) :
    (∀ env : Surroundings, Confined range (restartRangeLogged env range (sup, [])) ∧
        (env.Returns range → InOrder sup range (restartRangeLogged env range (sup, [])))) ↔
      ∀ spec ∈ range, sup.Awaitable spec.childId := by
  constructor
  · intro exactly
    have returns := quietSurroundings_returns range
    exact (restartRange_inOrder_iff returns distinct).mp ((exactly quietSurroundings).2 returns)
  · intro awaitable env
    refine ⟨⟨restartRange_restarting env range (sup, []), ?_⟩, fun returns => ?_⟩
    · exact calls_confined (calls_restartRange env range (sup, []))
    · exact (restartRange_inOrder_iff returns distinct).mpr awaitable

/-- The behaviour of `one_for_one`. -/
theorem restartOne_exactly_iff :
    (∀ env : Surroundings, Confined [spec] (restartOneLogged env spec (sup, [])) ∧
        (env.Returns [spec] → InOrder sup [spec] (restartOneLogged env spec (sup, [])))) ↔
      sup.restarting = false := by
  constructor
  · intro exactly
    obtain ⟨⟨after, -⟩, inOrder⟩ := exactly quietSurroundings
    have ends := (inOrder (quietSurroundings_returns [spec])).1
    have unsuppressed := after (ends ▸ Option.some_ne_none _)
    exact (restartOne_restarting quietSurroundings spec (sup, [])).symm.trans unsuppressed
  · intro unsuppressed env
    refine ⟨⟨fun _ => (restartOne_restarting env spec (sup, [])).trans unsuppressed, ?_⟩,
      restartOne_inOrder⟩
    exact calls_confined (calls_restartOne (sup, []) (List.mem_singleton_self spec))

/-- The specifications from the failed child on. -/
theorem dropWhile_eq {before after : List ChildSpec}
    (distinct : ((before ++ spec :: after).map ChildSpec.childId).Nodup) :
    (before ++ spec :: after).dropWhile (fun other => other.childId ≠ spec.childId) =
      spec :: after := by
  rw [List.map_append, List.map_cons] at distinct
  have apart : ∀ other ∈ before, decide (other.childId ≠ spec.childId) = true := by
    intro other member
    have disjoint := (List.nodup_append'.mp distinct).2.2
    apply decide_eq_true
    intro same
    exact disjoint (List.mem_map_of_mem member) (same ▸ List.mem_cons_self)
  rw [List.dropWhile_append_of_pos apart]
  exact List.dropWhile_cons_of_neg (by simp)

/-- **Restart strategies.** For specifications with distinct ids, the restart for one of them
touches exactly the children of its strategy, in order, if and only if the state before it meets
the condition. -/
theorem restart_touches_exactly_iff (sup : Supervised) (before : List ChildSpec)
    (spec : ChildSpec) (after : List ChildSpec)
    (split : sup.core.childSpecs = before ++ spec :: after)
    (distinct : (sup.core.childSpecs.map ChildSpec.childId).Nodup) :
    sup.RestartsExactly spec (concerned sup.core.strategy before spec after) ↔
      sup.Unhindered (concerned sup.core.strategy before spec after) := by
  rw [split] at distinct
  unfold RestartsExactly Unhindered restartLogged concerned
  cases sup.core.strategy with
  | oneForOne => exact restartOne_exactly_iff
  | allForOne =>
      dsimp only
      rw [split]
      exact restartRange_exactly_iff distinct
  | restForOne =>
      dsimp only
      rw [split, dropWhile_eq distinct]
      apply restartRange_exactly_iff
      rw [List.map_append] at distinct
      exact (List.nodup_append'.mp distinct).2.1

private def childA : ChildSpec := { childId := "a".toList }

private def childB : ChildSpec := { childId := "b".toList }

/-- Two children, both of them running, under `all_for_one`. -/
private def runningPair : Supervised :=
  (new .allForOne [childA, childB] {}).perform (.starts fun _ => ⟨some .running, true, .returned⟩)

/-- The second child's monitor restarts both. -/
theorem running_pair_restarts :
    (runningPair.note childB.childId .current).RestartsExactly childB [childA, childB] := by
  have monitors : ∀ spec ∈ [childA, childB],
      (runningPair.note childB.childId .current).Awaitable spec.childId := by
    decide
  exact (restart_touches_exactly_iff (runningPair.note childB.childId .current) [childA] childB []
    rfl (by decide)).mpr monitors

/-- A check of the first child has raised in its monitor. The restart for the second child raises
that again, and starts neither. -/
theorem ended_monitor_hinders :
    ¬ ∀ (sup : Supervised) (before : List ChildSpec) (spec : ChildSpec) (after : List ChildSpec),
      sup.core.childSpecs = before ++ spec :: after →
        (sup.core.childSpecs.map ChildSpec.childId).Nodup →
          sup.RestartsExactly spec (concerned sup.core.strategy before spec after) := by
  intro claim
  have checked := claim
    ((runningPair.perform (.checks childA.childId (.raised, .running))).note childB.childId
      .current) [childA] childB [] rfl (by decide)
  have free := (restartRange_exactly_iff (by decide)).mp checked
  exact absurd (free childA List.mem_cons_self) (by decide)

end Supervised

end Vcompany.Supervisor
