import Vcompany.Shared.ConcurrentCalls
import Vcompany.Supervisor.ScheduleText

/-! # Schedules that survive a restart

Every change of the schedule map is followed, in the same turn, by a call of the memory that
stores the whole map, and `_check_and_wake`, `add_schedule` and `remove_schedule` may all wait
for such calls at once. A daemon that starts publishes an empty scheduler and waits for what the
memory holds, which it then sets in the map that the scheduler has by then.

Whatever raises, and whenever the process ends, what is loaded is a map as it was at some
moment, after the last of the calls that returned, and it is the live map if the calls of the
process have returned (`schedules_survive`). The live map must be one that was stored: a call
made while the daemon loads stores a map without what is loaded. A statement that raises may roll
back the transaction, and with it what other calls have written; such calls are set apart.
-/

namespace Vcompany.Supervisor

open Foundation Shared SharedTransaction

/-- The key of the schedules. -/
def schedulesKey : Text := "schedules"

/-- The call that stores the map. -/
def Schedules.persist (schedules : Schedules) (now : Text) : StoreChange :=
  .set schedulesKey schedules.text now

/-- The event changes the map or removes from it, and `_persist` follows. -/
def Scheduler.persists (scheduler : Scheduler) (event : SchedulerEvent) : Bool :=
  match event with
  | .addSchedule _ intervalSeconds now => (wakeTime now intervalSeconds).isOk
  | .removeSchedule _ => true
  | event => (scheduler.writesBack event).isSome

/-- How far `load` has come: it waits for the row that its statement has read, or it has set the
entries, behind so many calls of the memory, or it has raised. -/
inductive LoadStage where
  | waiting (row : Option Text)
  | loaded (calls : ℕ)
  | raised

def LoadStage.isLoaded : LoadStage → Bool
  | loaded _ => true
  | waiting _ | raised => false

/-- The memory of the schedules, the scheduler of the process and how far it has loaded, and the
number of the calls of the memory before the process, and of the one that the pass waits for. -/
structure ScheduleSystem where
  store : SharedStore
  scheduler : Option Scheduler
  load : LoadStage
  since : ℕ
  waits : ℕ

inductive ScheduleEvent where
  /-- `CompanyRoot.start` opens the memory and publishes a scheduler. -/
  | starts
  /-- `load` goes on with its row, or raises. -/
  | loads (raises : Bool)
  /-- A turn of the pass or of a call of the scheduler. -/
  | turn (event : SchedulerEvent) (now : Text)
  /-- The thread of the memory serves a demand. -/
  | serves (fault : Option Bool)
  /-- A call of the memory goes on. -/
  | resumes (call : ℕ)
  | cancels (call : ℕ)
  /-- `CompanyRoot.stop` cancels the pass and closes the memory. -/
  | stops
  /-- The process ends. -/
  | ends

namespace ScheduleSystem

/-- A system whose file is new. -/
def fresh : ScheduleSystem := ⟨unopened Tables.empty, none, .raised, 0, 0⟩

/-- What a scheduler without schedules loads from the file. -/
def restored (lax : JsonValue → Except PyExc ℤ) (system : ScheduleSystem) :
    Except PyExc Schedules :=
  let loading := Schedules.load lax (system.store.saved.selectValue schedulesKey) Dict.empty
  loading.2.map fun _ => loading.1

/-- The statement of `load` is the first one of its connection. -/
def starts (system : ScheduleSystem) : ScheduleSystem :=
  if system.store.running then system
  else
    { system with
      store := system.store.opens
      scheduler := some (.loaded Dict.empty)
      load := .waiting (system.store.saved.selectValue schedulesKey)
      since := system.store.changes.length }

/-- Without an exception, the task of the passes follows. -/
def loads (lax : JsonValue → Except PyExc ℤ) (raises : Bool) (system : ScheduleSystem) :
    ScheduleSystem :=
  match system.scheduler, system.load with
  | some scheduler, .waiting row =>
      if raises then { system with load := .raised }
      else
        let loading := Schedules.load lax row scheduler.schedules
        { system with
          scheduler := some (.loaded loading.1)
          load :=
            match loading.2 with
            | .ok _ => .loaded system.store.changes.length
            | .error _ => .raised }
  | _, _ => system

/-- A pass begins once the schedules are loaded, and goes on behind `_persist` as the call of the
memory has ended. -/
def admits (system : ScheduleSystem) : SchedulerEvent → Bool
  | .beginPass _ => system.load.isLoaded
  | .persisted raises =>
      system.store.progress system.waits == if raises then .failed else .returned
  | .cancelled => false
  | _ => true

def turn (event : SchedulerEvent) (now : Text) (system : ScheduleSystem) : ScheduleSystem :=
  match system.scheduler with
  | none => system
  | some scheduler =>
      if system.admits event then
        let next := scheduler.perform event
        if scheduler.persists event then
          { system with
            store := system.store.asks (next.schedules.persist now)
            scheduler := some next
            waits :=
              if (scheduler.writesBack event).isSome then system.store.changes.length
              else system.waits }
        else { system with scheduler := some next }
      else system

/-- The memory goes on by itself. -/
def inner (event : Event StoreChange) (system : ScheduleSystem) : ScheduleSystem :=
  { system with store := system.store.perform StoreChange.statement event }

def stops (system : ScheduleSystem) : ScheduleSystem :=
  match system.scheduler with
  | none => system
  | some scheduler =>
      let cancelled :=
        match scheduler.pass with
        | .persisting _ _ _ => system.inner (.cancels system.waits)
        | _ => system
      { cancelled.inner .closes with scheduler := some (scheduler.perform .cancelled) }

def perform (lax : JsonValue → Except PyExc ℤ) (system : ScheduleSystem) :
    ScheduleEvent → ScheduleSystem
  | .starts => system.starts
  | .loads raises => system.loads lax raises
  | .turn event now => system.turn event now
  | .serves fault => system.inner (.serves fault)
  | .resumes call => system.inner (.resumes call)
  | .cancels call => system.inner (.cancels call)
  | .stops => system.stops
  | .ends => { system with store := system.store.ends, scheduler := none }

/-- Where the events lead. -/
def run (lax : JsonValue → Except PyExc ℤ) (events : List ScheduleEvent) : ScheduleSystem :=
  events.foldl (perform lax) fresh

end ScheduleSystem

/-! ## The map between two turns -/

theorem wakeTime_inRange {now intervalSeconds instant : ℤ}
    (found : wakeTime now intervalSeconds = .ok instant) :
    minInstant ≤ instant ∧ instant ≤ maxInstant := by
  unfold wakeTime at found
  dsimp only at found
  split at found
  · next bounds =>
    obtain rfl := Except.ok.inj found
    exact bounds
  · cases found

/-- The entries that the pass still holds. -/
def WakePass.entries : WakePass → List (Text × ScheduleEntry)
  | .idle => []
  | .finding agentId entry rest _ | .waking agentId entry rest _ => (agentId, entry) :: rest
  | .persisting _ rest _ => rest

theorem WakePass.entries_next (now : ℤ) (entries : List (Text × ScheduleEntry)) :
    (WakePass.next now entries).entries ⊆ entries := by
  induction entries with
  | nil => exact List.Subset.refl _
  | cons entry rest ih =>
      obtain ⟨agentId, entry⟩ := entry
      unfold WakePass.next
      split
      · exact List.Subset.refl _
      · exact List.subset_cons_of_subset _ ih

namespace Scheduler

/-- The entries of the map, and of the pass, stand under their agents. -/
structure Sound (scheduler : Scheduler) : Prop where
  schedules : scheduler.schedules.Sound
  pass : ∀ entry ∈ scheduler.pass.entries, entry.2.agentId = entry.1

variable {scheduler : Scheduler}

theorem Sound.onward (sound : scheduler.Sound) {pass : WakePass}
    (fewer : pass.entries ⊆ scheduler.pass.entries) : Sound { scheduler with pass } :=
  ⟨sound.schedules, fun entry member => sound.pass entry (fewer member)⟩

theorem Sound.reschedule (sound : scheduler.Sound) {agentId : Text} {entry : ScheduleEntry}
    {rest : List (Text × ScheduleEntry)} (held : (agentId, entry) :: rest = scheduler.pass.entries)
    (now : ℤ) (guarded : Bool) : (scheduler.reschedule agentId entry rest now guarded).Sound := by
  have keyed : entry.agentId = agentId :=
    sound.pass (agentId, entry) (held ▸ List.mem_cons_self)
  have later : rest ⊆ scheduler.pass.entries := held ▸ List.subset_cons_self _ _
  unfold Scheduler.reschedule
  split
  · refine sound.onward ?_
    split
    · exact List.Subset.trans (WakePass.entries_next now rest) later
    · exact List.nil_subset _
  · next nextWakeUtc found =>
    exact ⟨sound.schedules.set keyed (wakeTime_inRange found),
      fun entry member => sound.pass entry (later member)⟩

theorem Sound.addSchedule (sound : scheduler.Sound) (agentId : Text)
    (intervalSeconds now : ℤ) : (scheduler.addSchedule agentId intervalSeconds now).Sound := by
  unfold Scheduler.addSchedule
  split
  · exact sound
  · next nextWakeUtc found =>
    exact ⟨sound.schedules.set rfl (wakeTime_inRange found), sound.pass⟩

theorem Sound.lookedUp (sound : scheduler.Sound) (lookup : Lookup) :
    (scheduler.perform (.lookedUp lookup)).Sound := by
  obtain ⟨schedules, pass, wished⟩ := scheduler
  cases pass with
  | finding agentId entry rest now =>
      cases lookup with
      | raises => exact ⟨sound.schedules, nofun⟩
      | notFound =>
          exact sound.onward (List.Subset.trans (WakePass.entries_next now rest)
            (List.subset_cons_self _ _))
      | found state =>
          change (ite _ _ _ : Scheduler).Sound
          split
          · exact ⟨sound.schedules, sound.pass⟩
          · exact sound.reschedule rfl now false
  | _ => cases lookup <;> exact sound

theorem Sound.woken (sound : scheduler.Sound) (raises : Bool) :
    (scheduler.perform (.woken raises)).Sound := by
  obtain ⟨schedules, pass, wished⟩ := scheduler
  cases pass with
  | waking agentId entry rest now =>
      cases raises with
      | true =>
          exact sound.onward (List.Subset.trans (WakePass.entries_next now rest)
            (List.subset_cons_self _ _))
      | false => exact sound.reschedule rfl now true
  | _ => exact sound

theorem Sound.perform (sound : scheduler.Sound) (event : SchedulerEvent) :
    (scheduler.perform event).Sound := by
  cases event with
  | addSchedule agentId intervalSeconds now => exact sound.addSchedule agentId intervalSeconds now
  | removeSchedule agentId => exact ⟨sound.schedules.pop agentId, sound.pass⟩
  | beginPass now =>
      obtain ⟨schedules, pass, wished⟩ := scheduler
      cases pass with
      | idle => exact ⟨sound.schedules, fun entry member =>
          (sound.schedules entry (WakePass.entries_next now schedules.entries member)).1⟩
      | _ => exact sound
  | lookedUp lookup => exact sound.lookedUp lookup
  | woken raises => exact sound.woken raises
  | persisted raises =>
      obtain ⟨schedules, pass, wished⟩ := scheduler
      cases pass with
      | persisting guarded rest now =>
          change (ite _ _ _ : Scheduler).Sound
          split
          · exact ⟨sound.schedules, nofun⟩
          · exact sound.onward (WakePass.entries_next now rest)
      | _ => exact sound
  | cancelled => exact ⟨sound.schedules, nofun⟩

/-- An entry that is not written back leaves the map alone. -/
theorem schedules_reschedule {agentId : Text} {entry : ScheduleEntry}
    {rest : List (Text × ScheduleEntry)} {now : ℤ}
    (beyond : ¬ (wakeTime now entry.intervalSeconds).isOk = true) (guarded : Bool) :
    (scheduler.reschedule agentId entry rest now guarded).schedules = scheduler.schedules := by
  unfold Scheduler.reschedule
  split
  · rfl
  · next nextWakeUtc found =>
    rw [found] at beyond
    exact absurd rfl beyond

/-- The map changes only where it is stored afterwards. -/
theorem schedules_perform {event : SchedulerEvent} (silent : scheduler.persists event = false) :
    (scheduler.perform event).schedules = scheduler.schedules := by
  obtain ⟨schedules, pass, wished⟩ := scheduler
  cases event with
  | addSchedule agentId intervalSeconds now =>
      change (Scheduler.addSchedule _ _ _ _).schedules = _
      unfold Scheduler.addSchedule
      split
      · rfl
      · next nextWakeUtc found =>
        change (wakeTime now intervalSeconds).isOk = false at silent
        rw [found] at silent
        cases silent
  | removeSchedule agentId => cases silent
  | beginPass now => cases pass <;> rfl
  | lookedUp lookup =>
      cases pass with
      | finding agentId entry rest now =>
          cases lookup with
          | raises | notFound => rfl
          | found state =>
              change Option.isSome (ite _ _ _) = false at silent
              change (ite _ _ _ : Scheduler).schedules = _
              split
              · rfl
              · next awake =>
                refine schedules_reschedule (fun inRange => ?_) false
                rw [if_pos ⟨awake, inRange⟩] at silent
                cases silent
      | _ => cases lookup <;> rfl
  | woken raises =>
      cases pass with
      | waking agentId entry rest now =>
          cases raises with
          | true => rfl
          | false =>
              change Option.isSome (ite _ _ _) = false at silent
              refine schedules_reschedule (fun inRange => ?_) true
              rw [if_pos inRange] at silent
              cases silent
      | _ => rfl
  | persisted raises =>
      cases pass with
      | persisting guarded rest now =>
          change (ite _ _ _ : Scheduler).schedules = _
          split <;> rfl
      | _ => rfl
  | cancelled => rfl

end Scheduler

/-! ## The map and the file -/

namespace ScheduleSystem

variable {lax : JsonValue → Except PyExc ℤ} {system : ScheduleSystem} {scheduler : Scheduler}

/-- The calls of the memory before the last time that the map was set without one. -/
def base (system : ScheduleSystem) : ℕ :=
  match system.load with
  | .loaded calls => calls
  | .waiting _ | .raised => system.since

/-- The live map is one that was stored: the process has called the memory since it loaded the
schedules, or had not called it before. -/
def Stored (system : ScheduleSystem) : Prop :=
  system.base < system.store.changes.length ∨ system.load = .loaded system.since

/-- A row that is none, or was written for a map. -/
def Written (row : Option Text) : Prop :=
  ∀ text, row = some text → ∃ stored : Schedules, stored.Sound ∧ text = stored.text

/-- What holds while the process runs. Until it calls the memory, nothing is on its way to the
file, which holds what is loaded. -/
structure Live (lax : JsonValue → Except PyExc ℤ) (system : ScheduleSystem)
    (scheduler : Scheduler) : Prop where
  running : system.store.running = true
  sound : scheduler.Sound
  order : system.since ≤ system.base ∧ system.base ≤ system.store.changes.length
  newest : system.base < system.store.changes.length →
    ∃ now, system.store.changes.getLast? = some (scheduler.schedules.persist now)
  written : ∀ row, system.load = .waiting row → Written row
  quiet : system.store.changes.length = system.since → system.store.inHand = []
  waiting : system.store.changes.length = system.since → ∀ row, system.load = .waiting row →
    system.store.saved.selectValue schedulesKey = row ∧ scheduler.schedules = Dict.empty
  loaded : system.store.changes.length = system.since → system.load = .loaded system.since →
    system.restored lax = .ok scheduler.schedules

structure Consistent (lax : JsonValue → Except PyExc ℤ) (system : ScheduleSystem) : Prop where
  ledger : Ledger StoreChange.statement Tables.empty system.store
  snapshots : ∀ change ∈ system.store.changes, ∃ (schedules : Schedules) (now : Text),
    schedules.Sound ∧ change = schedules.persist now
  live : ∀ scheduler, system.scheduler = some scheduler → Live lax system scheduler

theorem base_of_waiting {row : Option Text} (waiting : system.load = .waiting row) :
    system.base = system.since := by
  unfold base
  rw [waiting]

/-- A row that was written for a map can be loaded. -/
theorem Written.load {row : Option Text} (written : Written row) {schedules : Schedules}
    (sound : schedules.Sound) : ∃ loaded : Schedules,
      Schedules.load lax row schedules = (loaded, .ok ()) ∧ loaded.Sound := by
  cases row with
  | none => exact ⟨schedules, rfl, sound⟩
  | some text =>
      obtain ⟨stored, wrote, rfl⟩ := written text rfl
      exact sound.load_text lax wrote

theorem gives_persist (schedules : Schedules) (now : Text) :
    (schedules.persist now).gives schedulesKey = some (some schedules.text) := by
  unfold Schedules.persist StoreChange.gives
  exact if_pos rfl

namespace Consistent

/-- An acknowledged call stored a map. -/
theorem persist_of_acknowledged (consistent : Consistent lax system) {call : ℕ}
    (acknowledged : system.store.Acknowledged call) :
    ∃ (schedules : Schedules) (now : Text), schedules.Sound ∧
      system.store.changes[call]? = some (schedules.persist now) := by
  have serialized := SharedStore.serialized_of_ledger consistent.ledger
  obtain ⟨change, member⟩ := serialized.exists_kept acknowledged
  have called := serialized.called _ member
  obtain ⟨schedules, now, sound, same⟩ :=
    consistent.snapshots change (List.mem_of_getElem? called)
  exact ⟨schedules, now, sound, same ▸ called⟩

/-- What is in the file is loaded: no map, or one that a call has stored, and no call after it
has been acknowledged. -/
theorem found (consistent : Consistent lax system) :
    ∃ schedules : Schedules, schedules.Sound ∧ system.restored lax = .ok schedules ∧
      ((∃ call now, system.store.changes[call]? = some (schedules.persist now) ∧
          ∀ later, call < later → ¬ system.store.Acknowledged later) ∨
        schedules = Dict.empty ∧ ∀ call, ¬ system.store.Acknowledged call) := by
  have serialized := SharedStore.serialized_of_ledger consistent.ledger
  -- Every acknowledged call has written the key.
  have written {later : ℕ} (acknowledged : system.store.Acknowledged later) : ∃ change,
      system.store.changes[later]? = some change ∧ change.gives schedulesKey ≠ none := by
    obtain ⟨schedules, now, _, called⟩ := consistent.persist_of_acknowledged acknowledged
    refine ⟨_, called, ?_⟩
    rw [gives_persist]
    exact Option.some_ne_none _
  rcases serialized.newest_value schedulesKey with
    ⟨call, change, member, gave, silent⟩ | ⟨none, silent⟩
  · have called := serialized.called _ member
    obtain ⟨schedules, now, sound, rfl⟩ :=
      consistent.snapshots change (List.mem_of_getElem? called)
    rw [gives_persist] at gave
    refine ⟨schedules, sound, ?_, Or.inl ⟨call, now, called, fun later follows acknowledged => ?_⟩⟩
    · unfold restored
      rw [← Option.some.inj gave, Schedules.load_text lax sound]
      rfl
    · obtain ⟨change, made, gives⟩ := written acknowledged
      exact gives (silent later change follows made acknowledged)
  · refine ⟨Dict.empty, Schedules.sound_empty, ?_, Or.inr ⟨rfl, fun call acknowledged => ?_⟩⟩
    · unfold restored
      rw [none]
      rfl
    · obtain ⟨change, made, gives⟩ := written acknowledged
      exact gives (silent call change made acknowledged)

/-- What the file has under the key was written for a map. -/
theorem written (consistent : Consistent lax system) :
    Written (system.store.saved.selectValue schedulesKey) := by
  have serialized := SharedStore.serialized_of_ledger consistent.ledger
  rcases serialized.newest_value schedulesKey with ⟨call, change, member, gave, _⟩ | ⟨none, _⟩
  · obtain ⟨schedules, now, sound, rfl⟩ :=
      consistent.snapshots change (List.mem_of_getElem? (serialized.called _ member))
    rw [gives_persist] at gave
    rw [← Option.some.inj gave]
    exact fun text same => ⟨schedules, sound, (Option.some.inj same).symm⟩
  · rw [none]
    exact nofun

theorem fresh (lax : JsonValue → Except PyExc ℤ) : Consistent lax fresh :=
  ⟨Ledger.unopened _ _, nofun, nofun⟩

/-- The memory goes on by itself. -/
theorem inner (consistent : Consistent lax system) {event : Event StoreChange}
    (inner : event.inner = true) : Consistent lax (system.inner event) := by
  have frame := frame_perform StoreChange.statement system.store inner
  obtain ⟨running, changes⟩ := Prod.mk.inj frame
  refine ⟨consistent.ledger.perform event, changes ▸ consistent.snapshots,
    fun scheduler found => ?_⟩
  have live := consistent.live scheduler found
  have saved (same : (system.inner event).store.changes.length = system.since) :
      (system.inner event).store.inHand = [] ∧
        (system.inner event).store.saved = system.store.saved := by
    have quiet := live.quiet ((congrArg List.length changes).symm.trans same)
    have narrows := @Narrows.perform _ _ StoreChange.statement system.store _ inner
    exact ⟨List.subset_nil.mp (quiet ▸ narrows.inHand),
      narrows.saved consistent.ledger (consistent.ledger.perform event) quiet⟩
  have length : (system.inner event).store.changes.length = system.store.changes.length :=
    congrArg List.length changes
  refine ⟨running.trans live.running, live.sound, ?_, fun more => ?_, live.written,
    fun same => (saved same).1, fun same row waiting => ?_, fun same loaded => ?_⟩
  · rw [length]
    exact live.order
  · rw [length] at more
    obtain ⟨now, last⟩ := live.newest more
    exact ⟨now, (congrArg List.getLast? changes).trans last⟩
  · rw [(saved same).2]
    exact live.waiting (length.symm.trans same) row waiting
  · unfold restored
    rw [(saved same).2]
    exact live.loaded (length.symm.trans same) loaded

theorem starts (consistent : Consistent lax system) : Consistent lax system.starts := by
  unfold ScheduleSystem.starts
  split
  · exact consistent
  · next stopped =>
    have opened := opens_of_stopped stopped
    have ledger := consistent.ledger.opens
    rw [opened] at ledger ⊢
    refine ⟨ledger, consistent.snapshots, fun scheduler current => ?_⟩
    obtain rfl := Option.some.inj current
    refine ⟨rfl, ⟨Schedules.sound_empty, nofun⟩, ⟨le_rfl, le_rfl⟩, fun more => ?_,
      fun row waiting => ?_, fun _ => rfl, fun _ row waiting => ?_, nofun⟩
    · exact absurd more (Nat.lt_irrefl _)
    · obtain rfl := LoadStage.waiting.inj waiting
      exact consistent.written
    · exact ⟨LoadStage.waiting.inj waiting, rfl⟩

theorem loads (consistent : Consistent lax system) (raises : Bool) :
    Consistent lax (system.loads lax raises) := by
  unfold ScheduleSystem.loads
  split
  · next scheduler row current waiting =>
    have live := consistent.live scheduler current
    have order := live.order
    rw [base_of_waiting waiting] at order
    cases raises with
    | true =>
        refine ⟨consistent.ledger, consistent.snapshots, fun other found => ?_⟩
        obtain rfl := Option.some.inj (current.symm.trans found)
        refine ⟨live.running, live.sound, ⟨le_rfl, order.2⟩, fun more => ?_, nofun, live.quiet,
          nofun, nofun⟩
        exact live.newest ((base_of_waiting waiting).trans_lt more)
    | false =>
        obtain ⟨loaded, same, sound⟩ := (live.written row waiting).load live.sound.schedules
        rw [if_neg Bool.false_ne_true, same]
        refine ⟨consistent.ledger, consistent.snapshots, fun other found => ?_⟩
        obtain rfl := Option.some.inj found
        refine ⟨live.running, ⟨sound, nofun⟩, ⟨order.2, le_rfl⟩, fun more => ?_, nofun, live.quiet,
          nofun, fun first _ => ?_⟩
        · exact absurd more (Nat.lt_irrefl _)
        · obtain ⟨kept, empty⟩ := live.waiting first row waiting
          rw [empty] at same
          unfold restored
          rw [kept, same]
          rfl
  · exact consistent

/-- The map changes with a call that stores it, or not at all. -/
theorem turn (consistent : Consistent lax system) (event : SchedulerEvent) (now : Text) :
    Consistent lax (system.turn event now) := by
  unfold ScheduleSystem.turn
  split
  · exact consistent
  · next scheduler current =>
    have live := consistent.live scheduler current
    have next := live.sound.perform event
    split
    · split
      · have changes := changes_asks live.running ((scheduler.perform event).schedules.persist now)
        have order := live.order
        have more : system.since < (system.store.asks
            ((scheduler.perform event).schedules.persist now)).changes.length := by
          rw [changes, List.length_append, List.length_singleton]
          omega
        refine ⟨consistent.ledger.asks _, ?_, fun other found => ?_⟩
        · dsimp only
          rw [changes]
          exact List.forall_mem_append.mpr ⟨consistent.snapshots,
            List.forall_mem_singleton.mpr ⟨_, now, next.schedules, rfl⟩⟩
        · obtain rfl := Option.some.inj found
          refine ⟨(running_asks _).trans live.running, next, ⟨order.1, ?_⟩, fun _ => ⟨now, ?_⟩,
            live.written, fun same => absurd same (Nat.ne_of_gt more),
            fun same => absurd same (Nat.ne_of_gt more),
            fun same => absurd same (Nat.ne_of_gt more)⟩
          · dsimp only
            rw [changes, List.length_append]
            exact Nat.le_add_right_of_le order.2
          · dsimp only
            rw [changes]
            exact List.getLast?_concat
      · next silent =>
        have same := Scheduler.schedules_perform (Bool.not_eq_true _ ▸ silent)
        refine ⟨consistent.ledger, consistent.snapshots, fun other found => ?_⟩
        obtain rfl := Option.some.inj found
        refine ⟨live.running, next, live.order, ?_, live.written, live.quiet, ?_, ?_⟩
        · rw [same]
          exact live.newest
        · rw [same]
          exact live.waiting
        · rw [same]
          exact live.loaded
    · exact consistent

theorem stops (consistent : Consistent lax system) : Consistent lax system.stops := by
  unfold ScheduleSystem.stops
  split
  · exact consistent
  · next scheduler current =>
    have closed (given : ScheduleSystem) (consistent : Consistent lax given)
        (same : given.scheduler = some scheduler) : Consistent lax
          { given.inner .closes with scheduler := some (scheduler.perform .cancelled) } := by
      have after := @inner _ _ consistent .closes rfl
      refine ⟨after.ledger, after.snapshots, fun live found => ?_⟩
      obtain rfl := Option.some.inj found
      have live := after.live scheduler same
      exact ⟨live.running, live.sound.perform .cancelled, live.order, live.newest, live.written,
        live.quiet, live.waiting, live.loaded⟩
    dsimp only
    split
    · exact closed _ (consistent.inner rfl) current
    · exact closed _ consistent current

theorem perform (consistent : Consistent lax system) (event : ScheduleEvent) :
    Consistent lax (system.perform lax event) := by
  cases event with
  | starts => exact consistent.starts
  | loads raises => exact consistent.loads raises
  | turn event now => exact consistent.turn event now
  | serves fault => exact consistent.inner rfl
  | resumes call => exact consistent.inner rfl
  | cancels call => exact consistent.inner rfl
  | stops => exact consistent.stops
  | ends => exact ⟨consistent.ledger.ends, consistent.snapshots, nofun⟩

theorem run (lax : JsonValue → Except PyExc ℤ) (events : List ScheduleEvent) :
    Consistent lax (run lax events) := by
  have onward {system : ScheduleSystem} (consistent : Consistent lax system) :
      Consistent lax (events.foldl (ScheduleSystem.perform lax) system) := by
    induction events generalizing system with
    | nil => exact consistent
    | cons event events ih => exact ih (consistent.perform event)
  exact onward (fresh lax)

/-- The file holds a live map that was stored when the calls of the process have been
acknowledged. -/
theorem restored_live (consistent : Consistent lax system)
    (current : system.scheduler = some scheduler) (stored : system.Stored)
    (acknowledged : ∀ call, system.since ≤ call → call < system.store.changes.length →
      system.store.Acknowledged call) :
    system.restored lax = .ok scheduler.schedules := by
  have live := consistent.live scheduler current
  have order := live.order
  by_cases quiet : system.store.changes.length = system.since
  · have loaded := stored.resolve_left (by omega)
    exact live.loaded quiet loaded
  · have more : system.base < system.store.changes.length := by
      rcases stored with more | loaded
      · exact more
      · have same : system.base = system.since := by
          unfold base
          rw [loaded]
        omega
    obtain ⟨now, last⟩ := live.newest more
    obtain ⟨schedules, sound, loaded, found⟩ := consistent.found
    -- The newest call is acknowledged, so that what is found is what it stored.
    have final : system.store.Acknowledged (system.store.changes.length - 1) :=
      acknowledged _ (by omega) (by omega)
    rcases found with ⟨call, now', called, none⟩ | ⟨_, none⟩
    · have within := (List.getElem?_eq_some_iff.mp called).1
      have newest : call = system.store.changes.length - 1 := by
        by_contra other
        exact none _ (by omega) final
      rw [newest, ← List.getLast?_eq_getElem?, last] at called
      have text : scheduler.schedules.text = schedules.text := by
        injection Option.some.inj called
      have own := Schedules.load_text lax live.sound.schedules
      rw [text, Schedules.load_text lax sound] at own
      rw [loaded, (Prod.mk.inj own).1]
    · exact absurd final (none _)

end Consistent

/-- **Schedules survive.** After any events, a start loads a map that the scheduler has stored,
or none: no call that stored a later one has been acknowledged. If the calls of the process are
acknowledged, it is the live map, where that was stored. -/
theorem schedules_survive (lax : JsonValue → Except PyExc ℤ) (events : List ScheduleEvent) :
    ∃ schedules : Schedules, (run lax events).restored lax = .ok schedules ∧
      ((∃ call now, (run lax events).store.changes[call]? = some (schedules.persist now) ∧
          ∀ later, call < later → ¬ (run lax events).store.Acknowledged later) ∨
        schedules = Dict.empty ∧ ∀ call, ¬ (run lax events).store.Acknowledged call) ∧
      ∀ scheduler, (run lax events).scheduler = some scheduler → (run lax events).Stored →
        (∀ call, (run lax events).since ≤ call → call < (run lax events).store.changes.length →
          (run lax events).store.Acknowledged call) →
        scheduler.schedules = schedules := by
  have consistent := Consistent.run lax events
  obtain ⟨schedules, _, loaded, newest⟩ := consistent.found
  refine ⟨schedules, loaded, newest, fun scheduler current stored acknowledged => ?_⟩
  have own := consistent.restored_live current stored acknowledged
  exact Except.ok.inj (own.symm.trans loaded)

end ScheduleSystem

end Vcompany.Supervisor
