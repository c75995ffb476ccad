import Vcompany.Supervisor.MonitorTasks

/-! # Shutting a supervisor down

`stop` cancels the monitor tasks and awaits each of them, then stops the children in the
reverse order of their specifications. An exception of a child's `stop` is caught; awaiting a
monitor that has ended with an exception raises it again, and only a cancellation is caught
there. What waits in a restart, in `start` or in an addition outside `_tasks` it neither cancels
nor awaits. `shutdown_total_iff` gives the runs in which `stop` returns, with its work done, in
every state that is reached.
-/

namespace Vcompany.Supervisor

open Foundation Resilience

namespace Supervised

/-- A call of `stop` has returned with its work done. -/
structure Stopped (sup : Supervised) (result : List Text × Outcome Supervised) : Prop where
  returned : result.2.ending = some .returned
  inOrder : result.1.Sublist (sup.core.childSpecs.map ChildSpec.childId).reverse
  every : ∀ childId, childId ∈ result.1 ↔ sup.Live childId
  stopped : result.2.state.core.running = false
  noTasks : result.2.state.tasks = .empty
  /-- Nothing is left that would go on to stop and start children. -/
  noneLoose : result.2.state.loose = []
  notRestarting : result.2.state.restarting = false

/-- `stop` does its work however the `stop` of each child ends, be it by an exception. -/
def StopsTotally (sup : Supervised) : Prop :=
  ∀ stops : Text → ChildStop, (∀ childId, (stops childId).1 ≠ .cancelled) →
    sup.Stopped (sup.stop stops)

/-- A monitor that is still in `_tasks` has not raised, and ends. -/
def EndsWell (childId : Text) (outcome : Outcome Supervised) : Prop :=
  outcome.state.tasks.get? childId = some .current →
    outcome.ending = some .returned ∨ outcome.ending = some .cancelled

/-- The condition on the state before an event: no monitor in `_tasks` ends with an exception,
or would end so or not at all if it were cancelled, no child is up without its specification, and
nothing comes to wait outside `_tasks` with calls to make. -/
def Undisturbed (sup : Supervised) : SupervisedEvent → Prop
  | .removes childId stops =>
      sup.Live childId → (stops childId).1 = .returned → (stops childId).2.isLive = false
  | .reports childId state =>
      sup.core.children childId ≠ none → state.isLive = true →
        childId ∈ sup.core.childSpecs.map ChildSpec.childId
  | .checks childId errs =>
      sup.tasks.get? childId = some .waiting → sup.core.children childId = some .running →
        errs.1 ≠ .raised
  | .begins childId onCancel =>
      sup.tasks.get? childId = some .waiting → childId ∈ sup.core.childEvents →
        sup.core.children childId = some .errored →
          onCancel = some .returned ∨ onCancel = some .cancelled
  | .wakes childId clock env =>
      match sup.tasks.get? childId with
      | some .waiting =>
          childId ∈ sup.core.childEvents → sup.core.children childId = some .errored →
            EndsWell childId ((sup.clear childId).handled clock env childId)
      | some (.handling _) => EndsWell childId (sup.handled clock env childId)
      | _ => True
  | .departs departure env count => sup.depart departure env count = none
  | _ => True

end Supervised

/-- When it is cancelled, the task ends without an exception. -/
def MonitorTask.Quits : MonitorTask → Prop
  | waiting => True
  | handling onCancel => onCancel = some .returned ∨ onCancel = some .cancelled
  | current => False
  | ended ending => ending ≠ .raised

namespace Supervised

/-- Every task quits, and every child that has not stopped has its specification. -/
def Orderly (sup : Supervised) : Prop :=
  sup.Tasks (fun _ task => task.Quits) ∧ sup.Listed sup.core.childSpecs

/-- It is orderly, and nothing waits outside `_tasks`. -/
def Settled (sup : Supervised) : Prop := sup.Orderly ∧ sup.loose = []

variable {specs : List ChildSpec} {sup next : Supervised} {childId : Text}
  {meets : Text → MonitorTask → Prop}

/-! ## What `stop` does -/

/-- From outside, the tasks can be awaited exactly if each of them quits. -/
theorem awaitTasks_returned_iff {tasks : List MonitorTask} (interrupted : Bool)
    (idle : ∀ task ∈ tasks, task ≠ .current) :
    awaitTasks interrupted tasks = some .returned ↔ ∀ task ∈ tasks, task.Quits := by
  induction tasks generalizing interrupted with
  | nil => exact iff_of_true rfl nofun
  | cons task tasks ih =>
      rw [List.forall_mem_cons] at idle ⊢
      rw [← ih (interrupted || task.isPending) idle.2]
      cases task with
      | waiting => exact (and_iff_right trivial).symm
      | handling onCancel =>
          rcases onCancel with _ | _ | _ | _ <;>
            simp [awaitTasks, MonitorTask.whenCancelled, MonitorTask.Quits]
      | current => exact absurd rfl idle.1
      | ended ending =>
          cases ending <;> simp [awaitTasks, MonitorTask.whenCancelled, MonitorTask.Quits]

theorem forall_values_iff {sup : Supervised} {meets : MonitorTask → Prop} :
    (∀ task ∈ sup.tasks.values, meets task) ↔ sup.Tasks fun _ task => meets task := by
  unfold Tasks Dict.values
  rw [List.forall_mem_map]
  constructor
  · exact fun all childId task found => all _ (Dict.get?_eq_some_iff.mp found)
  · exact fun all entry member => all entry.1 entry.2 (Dict.get?_eq_some_iff.mpr member)

theorem cancelTasks_returned_iff (idle : sup.Tasks fun _ task => task ≠ .current) :
    sup.cancelTasks.ending = some .returned ↔ sup.Tasks fun _ task => task.Quits :=
  (awaitTasks_returned_iff false (forall_values_iff.mpr idle)).trans forall_values_iff

/-- An exception of the child's `stop` is caught. -/
theorem stopChild_caught {stops : Text → ChildStop} (quiet : (stops childId).1 ≠ .cancelled)
    (live : sup.Live childId) :
    (sup.stopChild stops childId).caught = .done (sup.report childId (stops childId).2) := by
  obtain ⟨state, found, isLive⟩ := live
  unfold stopChild
  rw [found]
  dsimp only
  rw [if_pos isLive]
  unfold Outcome.caught
  rcases ends : stops childId with ⟨ending, after⟩
  rw [ends] at quiet
  cases ending with
  | returned => rfl
  | raised => rfl
  | cancelled => exact absurd rfl quiet

theorem stopChildren_of_live {stops : Text → ChildStop} {spec : ChildSpec}
    (quiet : (stops spec.childId).1 ≠ .cancelled) (live : sup.Live spec.childId) :
    stopChildren stops (spec :: specs) sup =
      (spec.childId ::
          (stopChildren stops specs (sup.report spec.childId (stops spec.childId).2)).1,
        (stopChildren stops specs (sup.report spec.childId (stops spec.childId).2)).2) := by
  have caught := stopChild_caught quiet live
  obtain ⟨state, found, isLive⟩ := live
  rw [stopChildren, found]
  dsimp only
  rw [if_pos isLive, caught]
  rfl

theorem stopChildren_of_not_live {stops : Text → ChildStop} {spec : ChildSpec}
    (stopped : ¬ sup.Live spec.childId) :
    stopChildren stops (spec :: specs) sup = stopChildren stops specs sup := by
  rw [stopChildren]
  split
  · rfl
  · next state found =>
      rw [if_neg fun isLive => stopped ⟨state, found, isLive⟩]

/-- The loop comes to its end, and `stop` is called on the children that have not stopped. -/
theorem stopChildren_stops {stops : Text → ChildStop}
    (quiet : ∀ childId, (stops childId).1 ≠ .cancelled) :
    ∀ (specs : List ChildSpec) (sup : Supervised),
      (stopChildren stops specs sup).2.ending = some .returned ∧
        (stopChildren stops specs sup).1.Sublist (specs.map ChildSpec.childId) ∧
        (∀ childId, childId ∈ (stopChildren stops specs sup).1 ↔
          childId ∈ specs.map ChildSpec.childId ∧ sup.Live childId) ∧
        (stopChildren stops specs sup).2.state.tasks = sup.tasks ∧
        (stopChildren stops specs sup).2.state.loose = sup.loose
  | [], sup => ⟨rfl, List.Sublist.refl _, fun _ => by simp [stopChildren], rfl, rfl⟩
  | spec :: specs, sup => by
      by_cases live : sup.Live spec.childId
      · rw [stopChildren_of_live (quiet spec.childId) live]
        obtain ⟨returned, inOrder, every, same⟩ := stopChildren_stops quiet specs
          (sup.report spec.childId (stops spec.childId).2)
        refine ⟨returned, inOrder.cons_cons _, fun childId => ?_, same⟩
        rw [List.mem_cons, List.map_cons, List.mem_cons, every, live_report_iff]
        by_cases own : childId = spec.childId
        · subst own
          exact iff_of_true (.inl rfl) ⟨.inl rfl, live⟩
        · rw [if_neg own]
          simp [own]
      · rw [stopChildren_of_not_live live]
        obtain ⟨returned, inOrder, every, same⟩ := stopChildren_stops quiet specs sup
        refine ⟨returned, inOrder.cons _, fun childId => ?_, same⟩
        rw [every, List.map_cons, List.mem_cons]
        constructor
        · exact fun ⟨member, isLive⟩ => ⟨.inr member, isLive⟩
        · rintro ⟨rfl | member, isLive⟩
          · exact absurd isLive live
          · exact ⟨member, isLive⟩

/-- `stop` where the tasks can be awaited. -/
theorem stop_of_returned {stops : Text → ChildStop}
    (awaited : sup.cancelTasks.ending = some .returned) :
    ∃ start : Supervised, start.core = sup.core ∧ start.tasks = .empty ∧
      start.loose = sup.loose ∧
      sup.stop stops = ((stopChildren stops sup.core.childSpecs.reverse start).1,
        (stopChildren stops sup.core.childSpecs.reverse start).2.andThen fun sup =>
          .done { sup with core := { sup.core with running := false }, restarting := false }) := by
  refine ⟨⟨sup.core, .empty, true, sup.loose⟩, rfl, rfl, rfl, ?_⟩
  unfold stop
  dsimp only
  have awaited' : { sup with restarting := true }.cancelTasks.ending = some .returned := awaited
  rw [awaited']
  rfl

theorem stop_loose {stops : Text → ChildStop} (quiet : ∀ childId, (stops childId).1 ≠ .cancelled)
    (awaited : sup.cancelTasks.ending = some .returned) :
    (sup.stop stops).2.state.loose = sup.loose := by
  obtain ⟨start, -, -, loose, stopping⟩ := @stop_of_returned sup stops awaited
  obtain ⟨returned, -, -, -, untouched⟩ :=
    stopChildren_stops quiet sup.core.childSpecs.reverse start
  rw [stopping]
  unfold Outcome.andThen
  rw [returned]
  exact untouched.trans loose

/-- **One state.** `stop` does its work exactly if every task quits, every child that has not
stopped has its specification, and nothing waits outside `_tasks`. -/
theorem stopsTotally_iff (idle : sup.Tasks fun _ task => task ≠ .current) :
    sup.StopsTotally ↔ sup.Settled := by
  constructor
  · intro total
    have stopped := total (fun _ => (.returned, .stopped)) nofun
    have awaited : sup.cancelTasks.ending = some .returned := by
      by_contra stuck
      have returned := stopped.returned
      unfold stop at returned
      dsimp only at returned
      split at returned
      · next awaited => exact stuck awaited
      · exact stuck returned
    refine ⟨⟨(cancelTasks_returned_iff idle).mp awaited, rfl, fun childId live => ?_⟩, ?_⟩
    · have called := stopped.inOrder.subset ((stopped.every childId).mpr live)
      exact List.mem_reverse.mp called
    · rw [← @stop_loose sup (fun _ => (.returned, .stopped)) nofun awaited]
      exact stopped.noneLoose
  · rintro ⟨⟨quits, -, listed⟩, none⟩ stops quiet
    have awaited := (cancelTasks_returned_iff idle).mpr quits
    have loose := stop_loose quiet awaited
    obtain ⟨start, core, tasks, -, stopping⟩ := @stop_of_returned sup stops awaited
    obtain ⟨returned, inOrder, every, untouched, -⟩ :=
      stopChildren_stops quiet sup.core.childSpecs.reverse start
    rw [stopping] at loose ⊢
    unfold Outcome.andThen at loose ⊢
    refine ⟨?_, ?_, fun childId => ?_, ?_, ?_, ?_, ?_⟩
    · rw [returned]
      rfl
    · rw [List.map_reverse] at inOrder
      exact inOrder
    · have same : start.Live childId ↔ sup.Live childId := by
        unfold Live
        rw [core]
      rw [every, same, List.map_reverse, List.mem_reverse]
      exact and_iff_right_of_imp (listed childId)
    · rw [returned]
      rfl
    · rw [returned]
      exact untouched.trans tasks
    · rw [loose, none]
    · rw [returned]
      rfl

/-! ## What each event does -/

theorem touches_start (starts : Text → ChildStart) (sup : Supervised) :
    Touches sup.core.childSpecs sup (sup.start starts) :=
  Outcome.Follows.andThen
    (Outcome.follows_forEach fun _ member sup => touches_startChild _ sup member)
    fun _ => touches_single (.turned rfl rfl rfl rfl)

theorem touches_stopChildren (stops : Text → ChildStop) :
    ∀ {range : List ChildSpec} (sup : Supervised), range ⊆ specs →
      Touches specs sup (stopChildren stops range sup).2
  | [], sup, _ => Outcome.follows_done _ sup
  | spec :: range, sup, within => by
      have later : range ⊆ specs := fun _ member => within (List.mem_cons_of_mem spec member)
      rw [stopChildren]
      split
      · exact touches_stopChildren stops sup later
      · split
        · have stopped := (touches_stopChild stops sup
            (List.mem_map_of_mem (within List.mem_cons_self))).caught
          dsimp only
          split
          · exact Relation.ReflTransGen.trans stopped (touches_stopChildren stops _ later)
          · exact stopped
        · exact touches_stopChildren stops sup later

theorem touches_stop (stops : Text → ChildStop) (sup : Supervised) :
    Touches sup.core.childSpecs sup (sup.stop stops).2 := by
  have awaited : Touches sup.core.childSpecs sup { sup with restarting := true }.cancelTasks :=
    (touches_single (.cancelled _)).after (.turned rfl rfl rfl rfl)
  unfold stop
  dsimp only
  split
  · refine Outcome.Follows.andThen ?_ fun _ => touches_single (.turned rfl rfl rfl rfl)
    have reversed : sup.core.childSpecs.reverse ⊆ sup.core.childSpecs :=
      fun _ member => List.mem_reverse.mp member
    exact awaited.trans ((touches_stopChildren stops _ reversed).after (.cleared _))
  · exact awaited

/-- No monitor runs while nothing happens. -/
def Idle (sup : Supervised) : Prop := sup.Tasks fun _ task => task ≠ .current

theorem lasting_idle : Lasting fun _ task => task ≠ .current where
  waiting _ := nofun
  cancel _ task idle := by
    cases task with
    | current => exact absurd rfl idle
    | handling onCancel => cases onCancel <;> simp [MonitorTask.cancel]
    | waiting => simp [MonitorTask.cancel]
    | ended ending => simp [MonitorTask.cancel]

theorem lasting_quits : Lasting fun _ task => task.Quits where
  waiting _ := trivial
  cancel _ task quits := by
    cases task with
    | handling onCancel =>
        rcases quits with rfl | rfl
        · simp [MonitorTask.cancel, MonitorTask.Quits]
        · simp [MonitorTask.cancel, MonitorTask.Quits]
    | current => exact quits
    | waiting => simp [MonitorTask.cancel, MonitorTask.Quits]
    | ended ending => exact quits

theorem quits_after_iff {ending : Option Ending} :
    (MonitorTask.after ending).Quits ↔ ending = some .returned ∨ ending = some .cancelled := by
  rcases ending with _ | _ | _ | _ <;> simp [MonitorTask.after, MonitorTask.Quits]

theorem after_ne_current (ending : Option Ending) : MonitorTask.after ending ≠ .current := by
  rcases ending with _ | _ | _ | _ <;> simp [MonitorTask.after]

theorem Listed.own (listed : sup.Listed specs) : sup.Listed sup.core.childSpecs := by
  rw [listed.1]
  exact listed

theorem Touches.idle {outcome : Outcome Supervised} (touches : Touches specs sup outcome)
    (idle : sup.Idle) : outcome.state.Idle :=
  touches.keeps (fun _ _ touch => touch.tasks lasting_idle) idle

theorem Touches.orderly {outcome : Outcome Supervised}
    (touches : Touches sup.core.childSpecs sup outcome) (orderly : sup.Orderly) :
    outcome.state.Orderly := by
  have listed : outcome.state.Listed sup.core.childSpecs :=
    touches.keeps (fun _ _ touch => touch.listed) orderly.2
  exact ⟨touches.keeps (fun _ _ touch => touch.tasks lasting_quits) orderly.1, listed.own⟩

theorem tasks_note_iff (kept : sup.Tasks meets) {task : MonitorTask} :
    (sup.note childId task).Tasks meets ↔ meets childId task :=
  ⟨fun noted => noted childId task (Dict.get?_set_self _ _ _), kept.note⟩

/-- A condition that the task which runs need not meet. -/
abbrev OrOwn (meets : Text → MonitorTask → Prop) (own : Text) (childId : Text)
    (task : MonitorTask) : Prop :=
  meets childId task ∨ task = .current ∧ childId = own

theorem Lasting.orOwn (lasting : Lasting meets) (own : Text) : Lasting (OrOwn meets own) where
  waiting childId := .inl (lasting.waiting childId)
  cancel childId task := by
    rintro (met | ⟨rfl, rfl⟩)
    · exact .inl (lasting.cancel childId task met)
    · exact .inr ⟨rfl, rfl⟩

theorem tasks_leave_iff {outcome : Outcome Supervised}
    (kept : outcome.state.Tasks (OrOwn meets childId)) :
    (leave childId outcome).Tasks meets ↔
      (outcome.state.tasks.get? childId = some .current →
        meets childId (.after outcome.ending)) := by
  unfold leave
  split
  · next current =>
      rw [forall_prop_of_true current]
      constructor
      · exact fun noted => noted childId _ (Dict.get?_set_self _ _ _)
      · intro own other task found
        rcases Dict.get?_set_eq_some_iff.mp found with ⟨rfl, rfl⟩ | ⟨apart, found⟩
        · exact own
        · exact (kept other task found).resolve_right fun same => apart same.2
  · next gone =>
      refine iff_of_true (fun other task found => ?_) fun current => absurd current gone
      refine (kept other task found).resolve_right ?_
      rintro ⟨rfl, rfl⟩
      exact gone found

theorem leave_core (childId : Text) (outcome : Outcome Supervised) :
    (leave childId outcome).core = outcome.state.core := by
  unfold leave
  split <;> rfl

theorem listed_of_core (same : next.core = sup.core) (listed : sup.Listed specs) :
    next.Listed specs := by
  unfold Listed Live
  rw [same]
  exact listed

/-- While a monitor handles a failure, it alone is in a state of its own. -/
theorem handled_tasks (clock : FailureClock) (env : Surroundings) (lasting : Lasting meets)
    (kept : sup.Tasks meets) :
    (sup.handled clock env childId).state.Tasks (OrOwn meets childId) := by
  have noted : (sup.note childId .current).Tasks (OrOwn meets childId) :=
    Tasks.note (fun other task found => .inl (kept other task found)) (.inr ⟨rfl, rfl⟩)
  exact (touches_handleChildFailure clock env childId (sup.note childId .current)).keeps
    (fun _ _ touch => touch.tasks (lasting.orOwn childId)) noted

theorem idle_handled (clock : FailureClock) (env : Surroundings) (idle : sup.Idle) :
    (leave childId (sup.handled clock env childId)).Idle :=
  (tasks_leave_iff (handled_tasks clock env lasting_idle idle)).mpr fun _ => after_ne_current _

/-- The monitor that runs comes to the end of what it does. -/
theorem orderly_leave_iff {outcome : Outcome Supervised}
    (kept : outcome.state.Tasks (OrOwn (fun _ task => task.Quits) childId))
    (listed : outcome.state.Listed specs) :
    (leave childId outcome).Orderly ↔ EndsWell childId outcome := by
  have left := (listed_of_core (leave_core childId outcome) listed).own
  unfold Orderly EndsWell
  rw [and_iff_left left, tasks_leave_iff kept]
  exact imp_congr_right fun _ => quits_after_iff

theorem orderly_handled_iff (clock : FailureClock) (env : Surroundings) (orderly : sup.Orderly) :
    (leave childId (sup.handled clock env childId)).Orderly ↔
      EndsWell childId (sup.handled clock env childId) := by
  have listed : (sup.handled clock env childId).state.Listed sup.core.childSpecs :=
    (touches_handleChildFailure clock env childId (sup.note childId .current)).keeps
      (fun _ _ touch => touch.listed) (listed_of_core rfl orderly.2)
  exact orderly_leave_iff (handled_tasks clock env lasting_quits orderly.1) listed

theorem orderly_note_iff {task : MonitorTask} (orderly : sup.Orderly) :
    (sup.note childId task).Orderly ↔ task.Quits := by
  have listed : (sup.note childId task).Listed (sup.note childId task).core.childSpecs :=
    listed_of_core rfl orderly.2
  unfold Orderly
  rw [and_iff_left listed, tasks_note_iff orderly.1]

/-- A change that the tasks, the children and the specifications do not show. -/
theorem orderly_turned (orderly : sup.Orderly) (children : next.core.children = sup.core.children)
    (childSpecs : next.core.childSpecs = sup.core.childSpecs) (tasks : next.tasks = sup.tasks) :
    next.Orderly := by
  unfold Orderly Tasks Listed Live
  rw [children, childSpecs, tasks]
  exact orderly

theorem clear_orderly (orderly : sup.Orderly) (childId : Text) : (sup.clear childId).Orderly :=
  orderly_turned orderly rfl rfl rfl

theorem orderly_report_iff {state : ContainerState} (orderly : sup.Orderly) :
    (sup.report childId state).Orderly ↔
      (state.isLive = true → childId ∈ sup.core.childSpecs.map ChildSpec.childId) := by
  constructor
  · rintro ⟨-, -, listed⟩ live
    exact listed childId (live_report_iff.mpr (by rwa [if_pos rfl]))
  · exact fun own => ⟨orderly.1, orderly.2.report own⟩

theorem addChildSpec_orderly (orderly : sup.Orderly) (spec : ChildSpec) (start : ChildStart) :
    (sup.addChildSpec spec start).state.Orderly := by
  have appended : (sup.append spec).Orderly := by
    refine ⟨orderly.1, rfl, fun childId live => ?_⟩
    change childId ∈ (sup.core.childSpecs ++ [spec]).map ChildSpec.childId
    rw [List.map_append]
    exact List.mem_append_left _ (orderly.2.2 childId live)
  exact Touches.orderly (touches_startChild start (sup.append spec)
    (List.mem_append_right _ List.mem_cons_self)) appended

theorem stopChild_of_not_live {stops : Text → ChildStop} (stopped : ¬ sup.Live childId) :
    sup.stopChild stops childId = .done sup := by
  unfold stopChild
  split
  · rfl
  · next state found => rw [if_neg fun isLive => stopped ⟨state, found, isLive⟩]

theorem stopChild_of_live {stops : Text → ChildStop} (live : sup.Live childId) :
    sup.stopChild stops childId =
      ⟨some (stops childId).1, sup.report childId (stops childId).2⟩ := by
  obtain ⟨state, found, isLive⟩ := live
  unfold stopChild
  rw [found]
  dsimp only
  rw [if_pos isLive]

/-- The specifications of a child go. -/
theorem orderly_filter_iff (orderly : sup.Orderly) :
    Orderly { sup with
      core := { sup.core with
        childSpecs := sup.core.childSpecs.filter fun spec => spec.childId ≠ childId }
      loose := sup.loose.map fun errand => { errand with isOpen := false } } ↔
      ¬ sup.Live childId := by
  have gone (other : Text) : other ∈ (sup.core.childSpecs.filter fun spec =>
      spec.childId ≠ childId).map ChildSpec.childId ↔
        other ∈ sup.core.childSpecs.map ChildSpec.childId ∧ other ≠ childId := by
    simp only [List.mem_map, List.mem_filter, decide_eq_true_eq]
    constructor
    · rintro ⟨spec, ⟨member, apart⟩, rfl⟩
      exact ⟨⟨spec, member, rfl⟩, apart⟩
    · rintro ⟨⟨spec, member, rfl⟩, apart⟩
      exact ⟨spec, ⟨member, apart⟩, rfl⟩
  constructor
  · rintro ⟨-, -, listed⟩ live
    exact ((gone childId).mp (listed childId live)).2 rfl
  · refine fun stopped => ⟨orderly.1, rfl, fun other live => (gone other).mpr ?_⟩
    exact ⟨orderly.2.2 other live, fun same => stopped (same ▸ live)⟩

theorem removeChild_orderly_iff (orderly : sup.Orderly) (stops : Text → ChildStop) :
    (sup.removeChild childId stops).state.Orderly ↔
      (sup.Live childId → (stops childId).1 = .returned → (stops childId).2.isLive = false) := by
  unfold removeChild
  by_cases live : sup.Live childId
  · rw [forall_prop_of_true live, stopChild_of_live live]
    have reported : (sup.report childId (stops childId).2).Orderly :=
      (orderly_report_iff orderly).mpr fun _ => orderly.2.2 childId live
    unfold Outcome.andThen
    dsimp only
    cases ends : (stops childId).1 with
    | returned =>
        rw [forall_prop_of_true rfl, ← Bool.not_eq_true]
        refine (orderly_filter_iff reported).trans (not_congr ?_)
        rw [live_report_iff, if_pos rfl]
    | raised => exact iff_of_true reported (by simp)
    | cancelled => exact iff_of_true reported (by simp)
  · rw [stopChild_of_not_live live]
    exact iff_of_true ((orderly_filter_iff orderly).mpr live) fun isLive => absurd isLive live

/-! ## What waits outside `_tasks` -/

theorem restartFor_tasks {clock : FailureClock} {failedId : Text} {begun : Supervised}
    {errand : Errand} (restarts : sup.restartFor clock failedId = some (begun, errand)) :
    begun.tasks = sup.tasks := by
  unfold restartFor at restarts
  split at restarts
  · obtain ⟨spec, -, same⟩ := Option.map_eq_some_iff.mp restarts
    obtain ⟨rfl, -⟩ := Prod.mk.inj same
    rfl
  · cases restarts

/-- No monitor runs at the beginning of an errand but the one that it is of. -/
theorem errandOf_tasks (idle : sup.Idle) {departure : Departure} {begun : Supervised}
    {errand : Errand} (isErrand : sup.errandOf departure = some (begun, errand)) :
    ∃ meets : Text → MonitorTask → Prop, Lasting meets ∧ begun.Tasks meets ∧
      ∀ next : Supervised, next.Tasks meets → next.HasLeft departure → next.Idle := by
  have stays {clock : FailureClock} {failedId : Text} {source : Supervised}
      (restarts : source.restartFor clock failedId = some (begun, errand))
      {meets : Text → MonitorTask → Prop} (kept : source.Tasks meets) : begun.Tasks meets := by
    unfold Tasks
    rw [restartFor_tasks restarts]
    exact kept
  have alone {childId : Text} {clock : FailureClock} (next : Supervised)
      (kept : next.Tasks (OrOwn (fun _ task => task ≠ .current) childId))
      (left : next.HasLeft (.monitor childId clock)) : next.Idle := by
    intro other task found
    refine (kept other task found).resolve_right ?_
    rintro ⟨rfl, rfl⟩
    exact left found
  have noted {childId : Text} {source : Supervised} (same : source.tasks = sup.tasks) :
      (source.note childId .current).Tasks (OrOwn (fun _ task => task ≠ .current) childId) := by
    refine Tasks.note (fun other task found => .inl (idle other task ?_)) (.inr ⟨rfl, rfl⟩)
    exact same ▸ found
  cases departure with
  | monitor childId clock =>
      refine ⟨_, lasting_idle.orOwn childId, ?_, alone⟩
      unfold errandOf at isErrand
      dsimp only at isErrand
      split at isErrand
      · split at isErrand
        · exact stays isErrand (noted rfl)
        · cases isErrand
      · exact stays isErrand (noted rfl)
      · cases isErrand
  | handler childId clock => exact ⟨_, lasting_idle, stays isErrand idle, fun _ kept _ => kept⟩
  | start =>
      obtain ⟨rfl, -⟩ := Prod.mk.inj (Option.some.inj isErrand)
      exact ⟨_, lasting_idle, idle, fun _ kept _ => kept⟩
  | add spec =>
      obtain ⟨rfl, -⟩ := Prod.mk.inj (Option.some.inj isErrand)
      exact ⟨_, lasting_idle, idle, fun _ kept _ => kept⟩

theorem enterErrand_tasks (errand : Errand) (sup : Supervised) :
    (sup.enterErrand errand).tasks = sup.tasks := by
  unfold enterErrand
  split <;> rfl

theorem exitErrand_tasks (errand : Errand) (sup : Supervised) :
    (sup.exitErrand errand).tasks = sup.tasks := by
  unfold exitErrand
  split <;> rfl

theorem finishErrand_tasks (errand : Errand) (sup : Supervised) :
    (sup.finishErrand errand).tasks = sup.tasks := by
  unfold finishErrand
  split
  · rfl
  · exact exitErrand_tasks errand sup

theorem tasks_congr (tasks : next.tasks = sup.tasks) (kept : sup.Tasks meets) :
    next.Tasks meets := by
  unfold Tasks
  rw [tasks]
  exact kept

theorem idle_depart (idle : sup.Idle) (departure : Departure) (env : Surroundings) (count : ℕ) :
    (sup.perform (.departs departure env count)).Idle := by
  unfold perform depart
  dsimp only
  cases isErrand : sup.errandOf departure with
  | none => exact idle
  | some entry =>
      obtain ⟨begun, errand⟩ := entry
      obtain ⟨meets, lasting, kept, leaves⟩ := errandOf_tasks idle isErrand
      dsimp only
      split
      · next departs =>
          refine leaves _ ?_ departs.2.2
          exact (touches_calls env _ _).keeps (fun _ _ touch => touch.tasks lasting)
            (tasks_congr (enterErrand_tasks errand begun) kept)
      · exact idle

theorem idle_proceed (idle : sup.Idle) (index : ℕ) (env : Surroundings) (count : ℕ) :
    (sup.proceed index env count).Idle := by
  unfold proceed
  split
  · exact idle
  · next errand found =>
      have after : Idle (Outcome.forEach (call env) (errand.calls.take (count + 1))
          { sup with loose := sup.loose.eraseIdx index }).state :=
        (touches_calls env _ { sup with loose := sup.loose.eraseIdx index }).idle idle
      dsimp only
      split
      · exact tasks_congr (finishErrand_tasks errand _) after
      · exact after
      · exact tasks_congr (exitErrand_tasks errand _) after

/-- What departs is not settled. -/
theorem depart_loose {departure : Departure} {env : Surroundings} {count : ℕ}
    (departs : sup.depart departure env count = some next) : next.loose ≠ [] := by
  unfold depart at departs
  split at departs
  · cases departs
  · dsimp only at departs
    split at departs
    · obtain rfl := Option.some.inj departs
      exact List.append_ne_nil_of_right_ne_nil _ (List.cons_ne_nil _ _)
    · cases departs

/-! ## Every run -/

theorem idle_perform (idle : sup.Idle) (event : SupervisedEvent) : (sup.perform event).Idle := by
  cases event with
  | starts starts => exact (touches_start starts sup).idle idle
  | adds spec start =>
      exact Touches.idle (touches_startChild start (sup.append spec) (List.mem_singleton_self spec))
        idle
  | removes childId stops =>
      change (sup.removeChild childId stops).state.Idle
      unfold removeChild
      by_cases live : sup.Live childId
      · rw [stopChild_of_live live]
        unfold Outcome.andThen
        split <;> exact idle
      · rw [stopChild_of_not_live live]
        exact idle
  | reports childId state =>
      unfold perform
      dsimp only
      split <;> exact idle
  | checks childId errs =>
      unfold perform
      dsimp only
      split
      · have kept : ((sup.note childId .current).report childId errs.2).Tasks
            (OrOwn (fun _ task => task ≠ .current) childId) :=
          Tasks.note (fun other task found => .inl (idle other task found)) (.inr ⟨rfl, rfl⟩)
        exact (tasks_leave_iff kept).mpr fun _ => after_ne_current _
      · exact idle
  | begins childId onCancel =>
      unfold perform
      dsimp only
      split
      · exact Tasks.note idle (by simp)
      · exact idle
  | wakes childId clock env =>
      unfold perform
      dsimp only
      split
      · split
        · unfold monitor
          split
          · exact idle_handled clock env idle
          · exact Tasks.note idle (by simp)
          · exact Tasks.note idle (by simp)
          · exact Tasks.note idle (by simp)
          · exact idle
        · exact idle
      · exact idle_handled clock env idle
      · exact idle
  | escalates childId clock env =>
      exact (touches_handleChildFailure clock env childId sup).idle idle
  | backoffExpires =>
      unfold perform
      dsimp only
      split <;> exact idle
  | departs departure env count => exact idle_depart idle departure env count
  | proceeds index env count => exact idle_proceed idle index env count
  | stops stops => exact (touches_stop stops sup).idle idle

/-- A monitor that is woken ends, goes on or handles a failure. -/
theorem monitor_orderly_iff (clock : FailureClock) (env : Surroundings) (orderly : sup.Orderly) :
    (sup.monitor clock env childId).Orderly ↔
      (sup.core.children childId = some .errored →
        EndsWell childId ((sup.clear childId).handled clock env childId)) := by
  have cleared := clear_orderly orderly childId
  have quit : ((sup.clear childId).note childId (.ended .returned)).Orderly :=
    (orderly_note_iff cleared).mpr (by simp [MonitorTask.Quits])
  unfold monitor
  split
  · next errored =>
      rw [forall_prop_of_true errored]
      exact orderly_handled_iff clock env cleared
  · next absent => exact iff_of_true quit fun errored => by simp [absent] at errored
  · next stopped => exact iff_of_true quit fun errored => by simp [stopped] at errored
  · next destroyed => exact iff_of_true quit fun errored => by simp [destroyed] at errored
  · next other _ _ _ => exact iff_of_true cleared fun errored => absurd errored other

/-- A liveness check reports what it finds, and may raise. -/
theorem orderly_check_iff (orderly : sup.Orderly)
    (running : sup.core.children childId = some .running) (errs : ChildStop) :
    (leave childId ⟨some errs.1, (sup.note childId .current).report childId errs.2⟩).Orderly ↔
      errs.1 ≠ .raised := by
  have listed : childId ∈ sup.core.childSpecs.map ChildSpec.childId :=
    orderly.2.2 childId ⟨.running, running, rfl⟩
  have kept : ((sup.note childId .current).report childId errs.2).Tasks
      (OrOwn (fun _ task => task.Quits) childId) :=
    Tasks.note (fun other task found => .inl (orderly.1 other task found)) (.inr ⟨rfl, rfl⟩)
  have reported : ((sup.note childId .current).report childId errs.2).Listed
      sup.core.childSpecs := Listed.report orderly.2 fun _ => listed
  have runs : ((sup.note childId .current).report childId errs.2).tasks.get? childId =
      some .current := Dict.get?_set_self _ _ _
  rw [orderly_leave_iff kept reported]
  refine (forall_prop_of_true runs).trans ?_
  cases errs.1 <;> simp

theorem leave_loose (childId : Text) (outcome : Outcome Supervised) :
    (leave childId outcome).loose = outcome.state.loose := by
  unfold leave
  split <;> rfl

/-- No event but a departure leaves anything outside `_tasks`. -/
theorem loose_perform (none : sup.loose = []) {event : SupervisedEvent}
    (stays : ∀ departure env count, event ≠ .departs departure env count) :
    (sup.perform event).loose = [] := by
  have handled (source : Supervised) (clock : FailureClock) (env : Surroundings) (childId : Text)
      (same : source.loose = []) : (leave childId (source.handled clock env childId)).loose = [] :=
    (leave_loose childId _).trans ((touches_handleChildFailure clock env childId
      (source.note childId .current)).loose.trans same)
  cases event with
  | starts starts => exact (touches_start starts sup).loose.trans none
  | adds spec start =>
      refine (touches_startChild start (sup.append spec) (List.mem_singleton_self spec)).loose.trans
        ?_
      change sup.loose.map _ = []
      rw [none, List.map_nil]
  | removes childId stops =>
      change (sup.removeChild childId stops).state.loose = []
      unfold removeChild
      by_cases live : sup.Live childId
      · rw [stopChild_of_live live]
        unfold Outcome.andThen
        split
        · change sup.loose.map _ = []
          rw [none, List.map_nil]
        · exact none
      · rw [stopChild_of_not_live live]
        change sup.loose.map _ = []
        rw [none, List.map_nil]
  | reports childId state =>
      unfold perform
      dsimp only
      split <;> exact none
  | checks childId errs =>
      unfold perform
      dsimp only
      split
      · exact (leave_loose childId _).trans none
      · exact none
  | begins childId onCancel =>
      unfold perform
      dsimp only
      split <;> exact none
  | wakes childId clock env =>
      unfold perform
      dsimp only
      split
      · split
        · unfold monitor
          split
          · exact handled (sup.clear childId) clock env childId none
          all_goals exact none
        · exact none
      · exact handled sup clock env childId none
      · exact none
  | escalates childId clock env =>
      exact (touches_handleChildFailure clock env childId sup).loose.trans none
  | backoffExpires =>
      unfold perform
      dsimp only
      split <;> exact none
  | departs departure env count => exact absurd rfl (stays departure env count)
  | proceeds index env count =>
      change (sup.proceed index env count).loose = []
      unfold proceed
      rw [none, List.getElem?_nil]
      exact none
  | stops stops => exact (touches_stop stops sup).loose.trans none

/-- The supervisor stays orderly exactly under the condition on the state before the event. -/
theorem orderly_perform_iff (orderly : sup.Orderly) (none : sup.loose = [])
    {event : SupervisedEvent}
    (stays : ∀ departure env count, event ≠ .departs departure env count) :
    (sup.perform event).Orderly ↔ sup.Undisturbed event := by
  cases event with
  | starts starts => exact iff_of_true ((touches_start starts sup).orderly orderly) trivial
  | adds spec start => exact iff_of_true (addChildSpec_orderly orderly spec start) trivial
  | removes childId stops => exact removeChild_orderly_iff orderly stops
  | reports childId state =>
      unfold perform Undisturbed
      dsimp only
      split
      · next absent => exact iff_of_true orderly fun present => absurd absent present
      · next found =>
          rw [forall_prop_of_true (found ▸ Option.some_ne_none _)]
          exact orderly_report_iff orderly
  | checks childId errs =>
      unfold perform Undisturbed
      dsimp only
      split
      · next dead =>
          obtain ⟨waiting, running⟩ := dead
          rw [forall_prop_of_true waiting, forall_prop_of_true running]
          exact orderly_check_iff orderly running errs
      · next other =>
          exact iff_of_true orderly fun waiting running => absurd ⟨waiting, running⟩ other
  | begins childId onCancel =>
      unfold perform Undisturbed
      dsimp only
      split
      · next failed =>
          obtain ⟨waiting, woken, errored⟩ := failed
          rw [forall_prop_of_true waiting, forall_prop_of_true woken, forall_prop_of_true errored]
          exact orderly_note_iff (clear_orderly orderly childId)
      · next other =>
          exact iff_of_true orderly fun waiting woken errored =>
            absurd ⟨waiting, woken, errored⟩ other
  | wakes childId clock env =>
      unfold perform Undisturbed
      dsimp only
      rcases sup.tasks.get? childId with _ | _ | onCancel | _ | ending
      · exact iff_of_true orderly trivial
      · dsimp only
        split
        · next woken =>
            rw [forall_prop_of_true woken]
            exact monitor_orderly_iff clock env orderly
        · next asleep => exact iff_of_true orderly fun woken => absurd woken asleep
      · exact orderly_handled_iff clock env orderly
      · exact iff_of_true orderly trivial
      · exact iff_of_true orderly trivial
  | escalates childId clock env =>
      exact iff_of_true ((touches_handleChildFailure clock env childId sup).orderly orderly) trivial
  | backoffExpires =>
      refine iff_of_true ?_ trivial
      unfold perform
      dsimp only
      split
      · exact orderly_turned orderly rfl rfl rfl
      · exact orderly
  | departs departure env count => exact absurd rfl (stays departure env count)
  | proceeds index env count =>
      refine iff_of_true ?_ trivial
      change (sup.proceed index env count).Orderly
      unfold proceed
      rw [none, List.getElem?_nil]
      exact orderly
  | stops stops => exact iff_of_true ((touches_stop stops sup).orderly orderly) trivial

/-- **One event.** The supervisor stays settled exactly under the condition on the state before
the event. -/
theorem settled_perform_iff (settled : sup.Settled) (event : SupervisedEvent) :
    (sup.perform event).Settled ↔ sup.Undisturbed event := by
  by_cases departing : ∃ departure env count, event = .departs departure env count
  · obtain ⟨departure, env, count, rfl⟩ := departing
    unfold perform Undisturbed
    dsimp only
    cases departs : sup.depart departure env count with
    | none => exact iff_of_true settled rfl
    | some next =>
        exact iff_of_false (fun after => depart_loose departs after.2) (Option.some_ne_none next)
  · push Not at departing
    unfold Settled
    rw [and_iff_left (loose_perform settled.2 departing)]
    exact orderly_perform_iff settled.1 settled.2 departing

theorem new_orderly (strategy : RestartStrategy) (childSpecs : List ChildSpec)
    (restartTracker : RestartTracker) : (new strategy childSpecs restartTracker).Orderly := by
  refine ⟨fun _ _ found => ?_, rfl, fun _ live => ?_⟩
  · cases found
  · obtain ⟨_, found, _⟩ := live
    cases found

/-- **Shutting down.** Whatever strategy, specifications and limit a supervisor is made with,
and whatever happens to it: in every state that is reached `stop` returns, with the children
stopped in the reverse order of their specifications and no monitors left, if and only if every
event meets the condition on the state before it. -/
theorem shutdown_total_iff (strategy : RestartStrategy) (childSpecs : List ChildSpec)
    (restartTracker : RestartTracker) (events : List SupervisedEvent) :
    Throughout perform StopsTotally (new strategy childSpecs restartTracker) events ↔
      EachMeets perform Undisturbed (new strategy childSpecs restartTracker) events := by
  have idle : (new strategy childSpecs restartTracker).Idle := fun _ _ found => nomatch found
  refine @throughout_iff_within _ _ perform Idle StopsTotally Undisturbed
    (fun _ event idle => idle_perform idle event) (fun sup event idle total => ?_) _ idle
    ((stopsTotally_iff idle).mpr ⟨new_orderly strategy childSpecs restartTracker, rfl⟩) events
  rw [stopsTotally_iff (idle_perform idle event)]
  exact settled_perform_iff ((stopsTotally_iff idle).mp total) event

/-- What the handling of a failure awaits, where `_start_child` raises. -/
def unstartable : Surroundings where
  stops _ := (.returned, .stopped)
  starts _ := ⟨none, false, .raised⟩
  notified := .returned

/-- A child is started with its monitor, fails, and cannot be started again. -/
def failedRestart : List SupervisedEvent :=
  [.starts fun _ => ⟨some .running, true, .returned⟩, .reports "a" .errored,
    .wakes "a" ⟨0, 0, 0, 0⟩ unstartable]

/-- The exception of the monitor is raised again by `stop`, which leaves the child that is up. -/
theorem monitor_exception_resurfaces :
    ¬ ∀ (strategy : RestartStrategy) (childSpecs : List ChildSpec)
      (restartTracker : RestartTracker) (events : List SupervisedEvent),
      Throughout perform StopsTotally (new strategy childSpecs restartTracker) events := by
  intro claim
  have total := (claim .oneForOne [{ childId := "a" }] {} failedRestart).last
  have stopped := total (fun _ => (.returned, .stopped)) (by simp)
  have raised : ((failedRestart.foldl perform (new .oneForOne [{ childId := "a" }] {})).stop
      fun _ => (.returned, .stopped)).2.ending = some .raised := by decide +kernel
  rw [stopped.returned] at raised
  cases raised

end Supervised

end Vcompany.Supervisor
