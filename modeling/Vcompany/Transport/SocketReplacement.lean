import Vcompany.Foundation.Transition
import Vcompany.Transport.NativeSocket

/-! # Replacing a worker

Spawning a worker is safe where it has the path to itself: while no other worker of the agent
is left and no earlier call of `spawn` waits. Then whoever answers at the path is the worker
that was spawned. Any other step on the path can be followed by steps of the workers and the
calls that lead a call to the wrong worker, or the path away from the new one.
-/

namespace Vcompany.Transport

open Foundation

/-- The step is one of a worker or a call that is there. -/
def SlotEvent.Continues : SlotEvent → Prop
  | .look _ | .connect _ | .run _ => True
  | _ => False

namespace WorkerSlot

/-! ## One worker at a time -/

/-- Only the newest worker can be on the path, it finds there what it relies on, and a call of
`spawn` that waits can only wait for it. -/
structure Orderly (path : List Text) (slot : WorkerSlot) : Prop where
  alone : ∀ pid, slot.Active pid → slot.newest = some pid
  listens : ∀ pid, pid ∈ slot.files.listening ↔ slot.workers.get? pid = some .serving
  expects : ∀ pid phase, slot.workers.get? pid = some phase →
    phase.Expects pid (slot.files.entry path)
  pending : ∀ pid call, slot.calls.get? pid = some call → call.Pending →
    ∀ other, slot.Active other → other = pid
  returned : ∀ pid peer, slot.calls.get? pid = some (.returned peer) → peer = pid
  spawned : ∀ pid, slot.workers.get? pid = none → slot.calls.get? pid = none

variable {path : List Text} {slot : WorkerSlot} {cleanupSocket : Bool} {agentId : Text}

theorem workers_exit_of_ne {target pid : ℕ} (apart : pid ≠ target) :
    (slot.exit target).workers.get? pid = slot.workers.get? pid := by
  unfold exit
  split
  · rfl
  · exact Dict.get?_set_of_ne _ _ apart

theorem newest_of_keys {later : WorkerSlot} (same : later.workers.keys = slot.workers.keys) :
    later.newest = slot.newest := congrArg List.getLast? same

theorem getLast?_keys_set {pid : ℕ} (fresh : slot.workers.get? pid = none) (phase : WorkerPhase) :
    (slot.workers.set pid phase).keys.getLast? = some pid := by
  rw [Dict.keys_set_of_notMem _ (Dict.mem_keys_iff.not.mpr (not_not.mpr fresh)),
    List.getLast?_concat]

theorem spawn_of_fresh {pid : ℕ} (fresh : slot.workers.get? pid = none) :
    slot.spawn pid = { slot with
      workers := slot.workers.set pid .starting
      calls := slot.calls.set pid .waiting
      process := some pid } := by
  unfold spawn
  rw [fresh]

theorem newest_spawn {pid : ℕ} (fresh : slot.workers.get? pid = none) :
    (slot.spawn pid).newest = some pid := by
  rw [spawn_of_fresh fresh]
  exact getLast?_keys_set fresh .starting

theorem get?_calls_spawn {pid : ℕ} (fresh : slot.workers.get? pid = none) :
    (slot.spawn pid).calls.get? pid = some .waiting := by
  rw [spawn_of_fresh fresh]
  exact Dict.get?_set_self ..

theorem get?_workers_spawn_of_ne {pid other : ℕ} (fresh : slot.workers.get? pid = none)
    (apart : other ≠ pid) :
    (slot.spawn pid).workers.get? other = slot.workers.get? other := by
  rw [spawn_of_fresh fresh]
  exact Dict.get?_set_of_ne _ _ apart

theorem newest_exit (slot : WorkerSlot) (target : ℕ) :
    (slot.exit target).newest = slot.newest := by
  unfold exit
  split
  · rfl
  · next found => exact newest_of_keys (Dict.keys_set_of_mem _ (Dict.mem_keys_of_get? found))

/-- What a worker's step does. -/
theorem run_of_get? {pid : ℕ} {phase : WorkerPhase} (found : slot.workers.get? pid = some phase) :
    slot.run cleanupSocket path pid =
      { slot with
        files := (phase.next cleanupSocket path pid slot.files).1
        workers := slot.workers.set pid (phase.next cleanupSocket path pid slot.files).2 } := by
  unfold run
  rw [found]

theorem newest_run (cleanupSocket : Bool) (path : List Text) (slot : WorkerSlot) (pid : ℕ) :
    (slot.run cleanupSocket path pid).newest = slot.newest := by
  unfold run
  split
  · rfl
  · next found => exact newest_of_keys (Dict.keys_set_of_mem _ (Dict.mem_keys_of_get? found))

theorem get?_workers_run_of_ne {pid other : ℕ} (apart : other ≠ pid) :
    (slot.run cleanupSocket path pid).workers.get? other = slot.workers.get? other := by
  unfold run
  split
  · rfl
  · exact Dict.get?_set_of_ne _ _ apart

theorem get?_workers_exit {target pid : ℕ} {phase : WorkerPhase}
    (found : (slot.exit target).workers.get? pid = some phase) :
    phase = .gone ∨ pid ≠ target ∧ slot.workers.get? pid = some phase := by
  by_cases own : pid = target
  · subst own
    unfold exit at found
    split at found
    · next absent => cases absent.symm.trans found
    · exact .inl (Option.some.inj (found.symm.trans (Dict.get?_set_self ..)))
  · exact .inr ⟨own, (workers_exit_of_ne own).symm.trans found⟩

theorem orderly_start (path : List Text) (stale : Dict (List Text) ℕ) :
    (start stale).Orderly path where
  alone _ := nofun
  listens pid := iff_of_false (Finset.notMem_empty pid) nofun
  expects _ _ := nofun
  pending _ _ := nofun
  returned _ _ := nofun
  spawned _ _ := rfl

namespace Orderly

theorem unique (orderly : slot.Orderly path) {pid other : ℕ} (first : slot.Active pid)
    (second : slot.Active other) : pid = other :=
  Option.some.inj ((orderly.alone pid first).symm.trans (orderly.alone other second))

/-- A worker that moves on, or ends, on its own terms keeps the order. -/
theorem moved (orderly : slot.Orderly path) {pid : ℕ} {phase later : WorkerPhase}
    {files : SocketFiles (List Text) ℕ} (found : slot.workers.get? pid = some phase)
    (gone : phase = .gone → later = .gone ∧ files.entry path = slot.files.entry path)
    (listens : pid ∈ files.listening ↔ later = .serving)
    (apart : ∀ other, other ≠ pid → (other ∈ files.listening ↔ other ∈ slot.files.listening))
    (expects : later.Expects pid (files.entry path)) :
    Orderly path { slot with files, workers := slot.workers.set pid later } := by
  have before : ∀ other,
      Active { slot with files, workers := slot.workers.set pid later } other →
        slot.Active other := by
    rintro other ⟨reached, found', active⟩
    rcases Dict.get?_set_eq_some_iff.mp found' with ⟨rfl, rfl⟩ | ⟨own, found'⟩
    · exact ⟨phase, found, fun ended => active (gone ended).1⟩
    · exact ⟨reached, found', active⟩
  refine ⟨fun other active => ?_, fun other => ?_, fun other reached found' => ?_,
    fun one call called waits other active => orderly.pending one call called waits other
      (before other active), orderly.returned, fun other absent => ?_⟩
  · unfold newest
    rw [Dict.keys_set_of_mem _ (Dict.mem_keys_of_get? found)]
    exact orderly.alone other (before other active)
  · by_cases own : other = pid
    · subst own
      rw [listens, Dict.get?_set_self, Option.some.injEq]
    · rw [apart other own, orderly.listens other, Dict.get?_set_of_ne _ _ own]
  · rcases Dict.get?_set_eq_some_iff.mp found' with ⟨rfl, rfl⟩ | ⟨own, found'⟩
    · exact expects
    · by_cases ended : reached = .gone
      · subst ended
        exact WorkerPhase.expects_gone ..
      · -- the worker that moves is another one, so it has moved nothing at the path
        have left : phase = .gone := by
          by_contra active
          exact own (orderly.unique ⟨reached, found', ended⟩ ⟨phase, found, active⟩)
        dsimp only
        rw [(gone left).2]
        exact orderly.expects other reached found'
  · exact orderly.spawned other (Dict.get?_set_eq_none_iff.mp absent).2

theorem run (orderly : slot.Orderly path) (cleanupSocket : Bool) (pid : ℕ) :
    (slot.run cleanupSocket path pid).Orderly path := by
  unfold WorkerSlot.run
  split
  · exact orderly
  · next phase found =>
      apply orderly.moved found
      · rintro rfl
        exact ⟨rfl, rfl⟩
      · apply WorkerPhase.mem_listening_next
        rw [orderly.listens, found, Option.some.injEq]
      · exact fun other apart => WorkerPhase.mem_listening_next_of_ne _ _ _ _ apart
      · exact WorkerPhase.next_expects _ _ _ (orderly.expects pid phase found)

theorem fault (orderly : slot.Orderly path) (pid : ℕ) : (slot.fault pid).Orderly path := by
  unfold WorkerSlot.fault
  split
  · next found =>
      apply orderly.moved found
      · simp
      · rw [orderly.listens, found]
        simp
      · simp
      · simp [WorkerPhase.Expects]
  · exact orderly

theorem exit (orderly : slot.Orderly path) (pid : ℕ) : (slot.exit pid).Orderly path := by
  unfold WorkerSlot.exit
  split
  · exact orderly
  · next phase found =>
      apply orderly.moved found
      · exact fun _ => ⟨rfl, rfl⟩
      · simp
      · intro other own
        simp [own]
      · exact WorkerPhase.expects_gone ..

theorem spawn (orderly : slot.Orderly path) {pid : ℕ} (alone : slot.Alone (.spawn pid)) :
    (slot.spawn pid).Orderly path := by
  unfold WorkerSlot.spawn
  split
  · exact orderly
  · next fresh =>
      obtain ⟨ended, free⟩ := alone fresh
      have idle : ∀ other, ¬slot.Active other := by
        rintro other ⟨phase, found, active⟩
        exact active (ended _ (Dict.get?_eq_some_iff.mp found))
      have only : ∀ other, Active { slot with
          workers := slot.workers.set pid .starting
          calls := slot.calls.set pid .waiting
          process := some pid } other → other = pid := by
        rintro other ⟨phase, found, active⟩
        by_contra own
        exact idle other ⟨phase, (Dict.get?_set_of_ne _ _ own).symm.trans found, active⟩
      refine ⟨fun other active => ?_, fun other => ?_, fun other phase found => ?_,
        fun one call called waits other active => ?_, fun one peer called => ?_,
        fun other absent => ?_⟩
      · obtain rfl := only other active
        exact getLast?_keys_set fresh .starting
      · by_cases own : other = pid
        · subst own
          rw [orderly.listens, fresh, Dict.get?_set_self]
          simp
        · rw [orderly.listens, Dict.get?_set_of_ne _ _ own]
      · rcases Dict.get?_set_eq_some_iff.mp found with ⟨rfl, rfl⟩ | ⟨_, found⟩
        · simp [WorkerPhase.Expects]
        · exact orderly.expects other phase found
      · rcases Dict.get?_set_eq_some_iff.mp called with ⟨rfl, rfl⟩ | ⟨_, earlier⟩
        · exact only other active
        · exact absurd waits (free _ (Dict.get?_eq_some_iff.mp earlier))
      · rcases Dict.get?_set_eq_some_iff.mp called with ⟨_, other⟩ | ⟨_, earlier⟩
        · cases other
        · exact orderly.returned one peer earlier
      · obtain ⟨own, absent⟩ := Dict.get?_set_eq_none_iff.mp absent
        exact (Dict.get?_set_of_ne _ _ own).trans (orderly.spawned other absent)

/-- A pending call that goes on keeps the order, where it returns only its own worker. -/
theorem called (orderly : slot.Orderly path) {pid : ℕ} {call later : SpawnCall}
    (found : slot.calls.get? pid = some call) (waits : call.Pending)
    (own : ∀ peer, later = .returned peer → peer = pid) :
    Orderly path { slot with calls := slot.calls.set pid later } := by
  refine ⟨orderly.alone, orderly.listens, orderly.expects,
    fun one reached called waits' other active => ?_, fun one peer called => ?_,
    fun one absent => ?_⟩
  · rcases Dict.get?_set_eq_some_iff.mp called with ⟨rfl, rfl⟩ | ⟨_, earlier⟩
    · exact orderly.pending one call found waits other active
    · exact orderly.pending one reached earlier waits' other active
  · rcases Dict.get?_set_eq_some_iff.mp called with ⟨rfl, returns⟩ | ⟨_, earlier⟩
    · exact own peer returns
    · exact orderly.returned one peer earlier
  · have uncalled := orderly.spawned one absent
    have other : one ≠ pid := by
      rintro rfl
      cases uncalled.symm.trans found
    exact (Dict.get?_set_of_ne _ _ other).trans uncalled

theorem look (orderly : slot.Orderly path) (pid : ℕ) : (slot.look path pid).Orderly path := by
  unfold WorkerSlot.look
  split
  · next waiting => exact orderly.called waiting.1 (.inl rfl) (by simp)
  · exact orderly

/-- Who answers at the path is the one worker that is on it. -/
theorem active_of_accepted (orderly : slot.Orderly path) {peer : ℕ}
    (accepted : slot.files.connect path = .accepted peer) : slot.Active peer :=
  ⟨.serving, (orderly.listens peer).mp (SocketFiles.connect_eq_accepted_iff.mp accepted).2,
    by simp⟩

theorem connect (orderly : slot.Orderly path) (pid : ℕ) :
    (slot.connect path pid).Orderly path := by
  unfold WorkerSlot.connect
  split
  · next connecting =>
      split
      · next peer accepted =>
          have own := orderly.pending pid _ connecting (.inr rfl) peer
            (orderly.active_of_accepted accepted)
          apply orderly.called connecting (.inr rfl)
          intro other same
          exact (SpawnCall.returned.inj same).symm.trans own
      · exact orderly.called connecting (.inr rfl) (by simp)
      · exact orderly.called connecting (.inr rfl) (by simp)
  · exact orderly

theorem giveUp (orderly : slot.Orderly path) (ending : ℕ → Bool) :
    (slot.giveUp ending).Orderly path where
  alone := orderly.alone
  listens := orderly.listens
  expects := orderly.expects
  pending pid call called := orderly.pending pid call (Dict.get?_keep_eq_some_iff.mp called).1
  returned pid peer called := orderly.returned pid peer (Dict.get?_keep_eq_some_iff.mp called).1
  spawned pid absent := by
    rw [Option.eq_none_iff_forall_ne_some]
    intro call called
    cases (orderly.spawned pid absent).symm.trans (Dict.get?_keep_eq_some_iff.mp called).1

theorem unlinked (orderly : slot.Orderly path)
    (free : ∀ pid phase, slot.workers.get? pid = some phase → phase ≠ .bound ∧ phase ≠ .serving) :
    Orderly path { slot with files := slot.files.unlink path } where
  alone := orderly.alone
  listens := orderly.listens
  expects pid phase found :=
    ⟨fun _ => SocketFiles.entry_unlink .., fun bound =>
      absurd bound (not_or.mpr (free pid phase found))⟩
  pending := orderly.pending
  returned := orderly.returned
  spawned := orderly.spawned

theorem terminated (orderly : slot.Orderly path) {target : Option ℕ}
    (alone : slot.Alone (.terminated target)) : (slot.terminated path target).Orderly path := by
  unfold WorkerSlot.terminated
  split
  · next asked =>
    have others : ∀ pid phase, slot.workers.get? pid = some phase → some pid ≠ target →
        phase ≠ .bound ∧ phase ≠ .serving := fun pid phase found =>
      alone asked (pid, phase) (Dict.get?_eq_some_iff.mp found)
    have ended : (target.elim slot slot.exit).Orderly path := by
      cases target with
      | none => exact orderly
      | some pid => exact orderly.exit pid
    have unlinked := ended.unlinked fun pid phase found => by
      cases target with
      | none => exact others pid phase found (by simp)
      | some target =>
          rcases get?_workers_exit found with rfl | ⟨apart, found⟩
          · simp
          · exact others pid phase found fun same => apart (Option.some.inj same)
    exact ⟨unlinked.alone, unlinked.listens, unlinked.expects, unlinked.pending,
      unlinked.returned, unlinked.spawned⟩
  · exact orderly

theorem step (orderly : slot.Orderly (socketPath agentId)) {event : SlotEvent}
    (alone : slot.Alone event) :
    (slot.step cleanupSocket agentId event).Orderly (socketPath agentId) := by
  cases event with
  | spawn pid => exact orderly.spawn alone
  | look pid => exact orderly.look pid
  | connect pid => exact orderly.connect pid
  | giveUp pid => exact orderly.giveUp fun other => decide (other = pid)
  | run pid => exact orderly.run cleanupSocket pid
  | fault pid => exact orderly.fault pid
  | exit pid => exact orderly.exit pid
  | terminate =>
      exact ⟨orderly.alone, orderly.listens, orderly.expects, orderly.pending, orderly.returned,
        orderly.spawned⟩
  | terminated target => exact orderly.terminated alone
  | restart =>
      have ended := orderly.giveUp fun _ => true
      exact ⟨ended.alone, ended.listens, ended.expects, ended.pending, ended.returned,
        ended.spawned⟩

theorem safe (orderly : slot.Orderly (socketPath agentId)) : slot.Safe agentId where
  returned := orderly.returned
  serves pid _ serving := SocketFiles.connect_eq_accepted_iff.mpr
    ⟨(orderly.expects pid _ serving).2 (.inr rfl), (orderly.listens pid).mpr serving⟩

end Orderly

/-! ## Steps beside another worker -/

theorem alone_of_continues {event : SlotEvent} (continues : event.Continues) :
    slot.Alone event := by
  cases event with
  | look | connect | run => trivial
  | spawn | giveUp | fault | exit | terminate | terminated | restart => contradiction

/-- The worker has come to serve, and beside the path nothing has changed for the others. -/
structure Risen (agentId : Text) (pid : ℕ) (slot later : WorkerSlot) : Prop where
  serving : later.workers.get? pid = some .serving
  answers : later.files.connect (socketPath agentId) = .accepted pid
  calls : later.calls = slot.calls
  newest : later.newest = slot.newest
  others : ∀ other, other ≠ pid → later.workers.get? other = slot.workers.get? other

/-- A worker that is on its way to serve comes to serve, where no socket listens. -/
theorem exists_risen {pid : ℕ} {phase : WorkerPhase}
    (found : slot.workers.get? pid = some phase) (early : 0 < phase.toServe)
    (quiet : slot.files.listening = ∅)
    (expects : phase.Expects pid (slot.files.entry (socketPath agentId))) :
    ∃ events : List SlotEvent, (∀ event ∈ events, event.Continues) ∧
      Risen agentId pid slot (events.foldl (step cleanupSocket agentId) slot) := by
  induction steps : phase.toServe using Nat.strong_induction_on generalizing slot phase with
  | _ _ ih =>
      subst steps
      have ran : slot.step cleanupSocket agentId (.run pid) = _ := run_of_get? found
      have expects' := phase.next_expects cleanupSocket (socketPath agentId) slot.files expects
      have idle : pid ∈ slot.files.listening ↔ phase = .serving := by
        refine iff_of_false (by simp [quiet]) ?_
        rintro rfl
        exact absurd early (by decide)
      have listens := phase.mem_listening_next cleanupSocket (socketPath agentId) slot.files idle
      have closer := phase.next_of_quiet cleanupSocket (socketPath agentId) slot.files early quiet
        expects
      generalize phase.next cleanupSocket (socketPath agentId) pid slot.files = next at *
      have newest' : newest { slot with files := next.1, workers := slot.workers.set pid next.2 } =
          slot.newest := newest_of_keys (Dict.keys_set_of_mem _ (Dict.mem_keys_of_get? found))
      have others : ∀ other, other ≠ pid →
          (slot.workers.set pid next.2).get? other = slot.workers.get? other :=
        fun other apart => Dict.get?_set_of_ne _ _ apart
      rcases closer with serves | ⟨early', fewer, quiet'⟩
      · refine ⟨[.run pid], by simp [SlotEvent.Continues], ?_⟩
        rw [List.foldl_cons, List.foldl_nil, ran]
        exact ⟨(Dict.get?_set_self ..).trans (congrArg some serves),
          SocketFiles.connect_eq_accepted_iff.mpr ⟨expects'.2 (.inr serves), listens.mpr serves⟩,
          rfl, newest', others⟩
      · obtain ⟨events, going, risen⟩ := @ih _ fewer { slot with
          files := next.1
          workers := slot.workers.set pid next.2 } next.2 (Dict.get?_set_self ..) early' quiet'
          expects' rfl
        refine ⟨.run pid :: events, List.forall_mem_cons.mpr ⟨trivial, going⟩, ?_⟩
        rw [List.foldl_cons, ran]
        exact ⟨risen.serving, risen.answers, risen.calls, risen.newest.trans newest',
          fun other apart => (risen.others other apart).trans (others other apart)⟩

/-- The workers and calls that are there can go on to a state that is not safe. -/
def Endangered (cleanupSocket : Bool) (agentId : Text) (slot : WorkerSlot) : Prop :=
  ∃ events : List SlotEvent, (∀ event ∈ events, event.Continues) ∧
    ¬Safe agentId (events.foldl (step cleanupSocket agentId) slot)

theorem Endangered.before {events : List SlotEvent} (going : ∀ event ∈ events, event.Continues)
    (endangered : Endangered cleanupSocket agentId
      (events.foldl (step cleanupSocket agentId) slot)) :
    Endangered cleanupSocket agentId slot := by
  obtain ⟨later, going', stray⟩ := endangered
  exact ⟨events ++ later, List.forall_mem_append.mpr ⟨going, going'⟩, by rwa [List.foldl_append]⟩

theorem Endangered.of_step {event : SlotEvent} (continues : event.Continues)
    (endangered : Endangered cleanupSocket agentId (slot.step cleanupSocket agentId event)) :
    Endangered cleanupSocket agentId slot :=
  @Endangered.before slot cleanupSocket agentId [event]
    (List.forall_mem_singleton.mpr continues) endangered

/-- A call that waits while another worker answers may return with that one. -/
theorem endangered_of_answers {pid peer : ℕ} {call : SpawnCall}
    (called : slot.calls.get? pid = some call) (waits : call.Pending)
    (answers : slot.files.connect (socketPath agentId) = .accepted peer) (apart : peer ≠ pid) :
    Endangered cleanupSocket agentId slot := by
  have connects : ∀ {slot : WorkerSlot}, slot.calls.get? pid = some .connecting →
      slot.files.connect (socketPath agentId) = .accepted peer →
      Endangered cleanupSocket agentId slot := by
    intro slot connecting answers
    apply Endangered.of_step (show (SlotEvent.connect pid).Continues from trivial)
    dsimp only [step, connect]
    rw [if_pos connecting, answers]
    exact ⟨[], by simp, fun safe => apart (safe.returned pid peer (Dict.get?_set_self ..))⟩
  rcases waits with rfl | rfl
  · have present := (SocketFiles.connect_eq_accepted_iff.mp answers).1
    apply Endangered.of_step (show (SlotEvent.look pid).Continues from trivial)
    dsimp only [step, look]
    rw [if_pos ⟨called, by simp [present]⟩]
    exact connects (Dict.get?_set_self ..) answers
  · exact connects called answers

/-- The newest worker must not serve behind a path without an entry. -/
theorem endangered_of_missing {pid : ℕ} (newest : slot.newest = some pid)
    (serving : slot.workers.get? pid = some .serving)
    (missing : slot.files.entry (socketPath agentId) = none) :
    Endangered cleanupSocket agentId slot := by
  refine ⟨[], List.forall_mem_nil _, fun safe => ?_⟩
  have answers := (SocketFiles.connect_eq_accepted_iff.mp (safe.serves pid newest serving)).1
  cases missing.symm.trans answers

/-- A worker whose step unlinks the path of the newest one, which serves. -/
theorem endangered_of_unlinking {old pid : ℕ} {phase : WorkerPhase} (apart : old ≠ pid)
    (newest : slot.newest = some pid) (serving : slot.workers.get? pid = some .serving)
    (found : slot.workers.get? old = some phase) (late : phase = .tidying ∨ phase = .leaving) :
    Endangered cleanupSocket agentId slot := by
  have missing : (slot.run cleanupSocket (socketPath agentId) old).files.entry
      (socketPath agentId) = none := by
    rw [run_of_get? found]
    rcases late with rfl | rfl <;> exact SocketFiles.entry_unlink ..
  have stays : (slot.run cleanupSocket (socketPath agentId) old).newest = some pid :=
    (newest_run _ _ slot old).trans newest
  have serves : (slot.run cleanupSocket (socketPath agentId) old).workers.get? pid =
      some .serving := (get?_workers_run_of_ne apart.symm).trans serving
  apply Endangered.of_step (show (SlotEvent.run old).Continues from trivial)
  exact endangered_of_missing stays serves missing

/-- A worker that is on its way out may unlink the path of the newest one, which serves. -/
theorem endangered_of_leaving {old pid : ℕ} {phase : WorkerPhase} (apart : old ≠ pid)
    (newest : slot.newest = some pid) (serving : slot.workers.get? pid = some .serving)
    (entry : slot.files.entry (socketPath agentId) = some pid)
    (found : slot.workers.get? old = some phase)
    (late : phase = .comparing ∨ phase = .tidying ∨ phase = .leaving) :
    Endangered cleanupSocket agentId slot := by
  rcases late with rfl | late
  · have other : slot.files.entry (socketPath agentId) ≠ some old := by
      rw [entry]
      exact fun same => apart (Option.some.inj same).symm
    have leaves : (slot.run cleanupSocket (socketPath agentId) old).workers.get? old =
        some .leaving := by
      rw [run_of_get? found, WorkerPhase.next, if_neg other]
      exact Dict.get?_set_self ..
    apply Endangered.of_step (show (SlotEvent.run old).Continues from trivial)
    apply endangered_of_unlinking apart _ _ leaves (.inr rfl)
    · exact (newest_run _ _ slot old).trans newest
    · exact (get?_workers_run_of_ne apart.symm).trans serving
  · exact endangered_of_unlinking apart newest serving found late

namespace Orderly

/-- Where no worker is left on the path, nothing listens. -/
theorem listening_eq_empty (orderly : slot.Orderly path)
    (idle : ∀ pid, slot.workers.get? pid ≠ some .serving) : slot.files.listening = ∅ :=
  Finset.eq_empty_iff_forall_notMem.mpr fun pid listens =>
    idle pid ((orderly.listens pid).mp listens)

/-- A new worker comes to serve, where no other one does. -/
theorem exists_risen_spawn (orderly : slot.Orderly (socketPath agentId)) {pid : ℕ}
    (fresh : slot.workers.get? pid = none)
    (idle : ∀ other, slot.workers.get? other ≠ some .serving) :
    ∃ events : List SlotEvent, (∀ event ∈ events, event.Continues) ∧
      Risen agentId pid (slot.spawn pid)
        (events.foldl (WorkerSlot.step cleanupSocket agentId) (slot.spawn pid)) := by
  rw [spawn_of_fresh fresh]
  refine exists_risen (Dict.get?_set_self ..) (by decide) ?_ (by simp [WorkerPhase.Expects])
  exact orderly.listening_eq_empty idle

/-- A worker that is spawned beside another one can be missed or cut off. -/
theorem endangered_of_active (orderly : slot.Orderly (socketPath agentId)) {pid old : ℕ}
    (fresh : slot.workers.get? pid = none) (active : slot.Active old) :
    Endangered cleanupSocket agentId (slot.spawn pid) := by
  obtain ⟨phase, found, active⟩ := active
  have apart : old ≠ pid := by
    rintro rfl
    cases fresh.symm.trans found
  have files : (slot.spawn pid).files = slot.files := by rw [spawn_of_fresh fresh]
  have called := get?_calls_spawn fresh
  have found' := (get?_workers_spawn_of_ne fresh apart).trans found
  have idle : phase ≠ .serving → ∀ other, slot.workers.get? other ≠ some .serving := by
    intro silent other serving
    obtain rfl := orderly.unique ⟨_, serving, by simp⟩ ⟨phase, found, active⟩
    exact silent (Option.some.inj (found.symm.trans serving))
  rcases WorkerPhase.cases_of_ne_gone active with early | rfl | late
  · -- the old worker comes to serve first, and answers the new call
    have silent : phase ≠ .serving := by
      rintro rfl
      exact absurd early (by decide)
    obtain ⟨events, going, risen⟩ := @exists_risen (slot.spawn pid) cleanupSocket agentId old
      phase found' early (files ▸ orderly.listening_eq_empty (idle silent))
      (files ▸ orderly.expects old phase found)
    exact .before going
      (endangered_of_answers (risen.calls ▸ called) (.inl rfl) risen.answers apart)
  · have answers : (slot.spawn pid).files.connect (socketPath agentId) = .accepted old := by
      rw [files, SocketFiles.connect_eq_accepted_iff]
      exact ⟨(orderly.expects old _ found).2 (.inr rfl), (orderly.listens old).mpr found⟩
    exact endangered_of_answers called (.inl rfl) answers apart
  · -- the new worker comes to serve before the old one unlinks the path
    obtain ⟨events, going, risen⟩ := @exists_risen_spawn slot cleanupSocket agentId orderly pid
      fresh (idle (by rintro rfl; simp at late))
    exact .before going (endangered_of_leaving apart (risen.newest.trans (newest_spawn fresh))
      risen.serving (SocketFiles.connect_eq_accepted_iff.mp risen.answers).1
      ((risen.others old apart).trans found') late)

/-- A worker that is spawned while an earlier call waits can answer that call. -/
theorem endangered_of_pending (orderly : slot.Orderly (socketPath agentId)) {pid earlier : ℕ}
    {call : SpawnCall} (fresh : slot.workers.get? pid = none)
    (found : slot.calls.get? earlier = some call) (waits : call.Pending)
    (idle : ∀ other, slot.workers.get? other ≠ some .serving) :
    Endangered cleanupSocket agentId (slot.spawn pid) := by
  have apart : pid ≠ earlier := by
    rintro rfl
    cases (orderly.spawned pid fresh).symm.trans found
  have kept : (slot.spawn pid).calls.get? earlier = some call := by
    rw [spawn_of_fresh fresh]
    exact (Dict.get?_set_of_ne _ _ apart.symm).trans found
  obtain ⟨events, going, risen⟩ := @exists_risen_spawn slot cleanupSocket agentId orderly pid
    fresh idle
  exact .before going (endangered_of_answers (risen.calls ▸ kept) waits risen.answers apart)

theorem endangered_of_spawn (orderly : slot.Orderly (socketPath agentId)) {pid : ℕ}
    (beside : ¬slot.Alone (.spawn pid)) :
    Endangered cleanupSocket agentId (slot.spawn pid) := by
  obtain ⟨fresh, beside⟩ := Classical.not_imp.mp beside
  by_cases active : ∃ old, slot.Active old
  · obtain ⟨old, active⟩ := active
    exact orderly.endangered_of_active fresh active
  · have ended : ∀ entry ∈ slot.workers.entries, entry.2 = .gone := by
      intro entry member
      by_contra left
      exact active ⟨entry.1, entry.2, Dict.get?_eq_some_iff.mpr member, left⟩
    have waiting : ∃ entry ∈ slot.calls.entries, entry.2.Pending := by
      by_contra free
      exact beside ⟨ended, fun entry member waits => free ⟨entry, member, waits⟩⟩
    obtain ⟨⟨earlier, call⟩, member, waits⟩ := waiting
    exact orderly.endangered_of_pending fresh (Dict.get?_eq_some_iff.mpr member) waits
      fun other serving => active ⟨other, _, serving, by simp⟩

/-- The path of a worker that has bound it must not be unlinked for another one. -/
theorem endangered_of_terminated (orderly : slot.Orderly (socketPath agentId))
    {target : Option ℕ} (beside : ¬slot.Alone (.terminated target)) :
    Endangered cleanupSocket agentId (slot.terminated (socketPath agentId) target) := by
  obtain ⟨asked, beside⟩ := Classical.not_imp.mp beside
  obtain ⟨⟨pid, phase⟩, member, apart, bound⟩ : ∃ entry ∈ slot.workers.entries,
      some entry.1 ≠ target ∧ (entry.2 = .bound ∨ entry.2 = .serving) := by
    by_contra free
    exact beside fun entry member apart =>
      not_or.mp fun bound => free ⟨entry, member, apart, bound⟩
  have found := Dict.get?_eq_some_iff.mpr member
  have newest : slot.newest = some pid :=
    orderly.alone pid ⟨phase, found, by rcases bound with rfl | rfl <;> simp⟩
  have ended : (target.elim slot slot.exit).workers.get? pid = some phase ∧
      (target.elim slot slot.exit).newest = some pid := by
    cases target with
    | none => exact ⟨found, newest⟩
    | some target =>
        have apart' : pid ≠ target := fun same => apart (congrArg some same)
        exact ⟨(workers_exit_of_ne apart').trans found, (newest_exit slot target).trans newest⟩
  unfold WorkerSlot.terminated
  rw [if_pos asked]
  dsimp only
  rcases bound with rfl | rfl
  · -- the worker that has bound the path comes to serve behind it
    apply Endangered.of_step (show (SlotEvent.run pid).Continues from trivial)
    dsimp only [WorkerSlot.step, WorkerSlot.run]
    rw [ended.1]
    apply endangered_of_missing _ (Dict.get?_set_self ..) (SocketFiles.entry_unlink ..)
    exact (newest_of_keys (Dict.keys_set_of_mem _ (Dict.mem_keys_of_get? ended.1))).trans ended.2
  · exact endangered_of_missing ended.2 ended.1 (SocketFiles.entry_unlink ..)

end Orderly

/-- **One worker at a time.** Where each worker is spawned after the ones before it have left the
path and the calls that spawned them have ended, every call that returns has reached the worker
it spawned, and a worker that serves is the one who answers at the path, whatever the order of
the steps. -/
theorem safe_of_alone (cleanupSocket : Bool) (agentId : Text) (stale : Dict (List Text) ℕ)
    (events : List SlotEvent)
    (alone : EachMeets (step cleanupSocket agentId) Alone (start stale) events) :
    Throughout (step cleanupSocket agentId) (Safe agentId) (start stale) events :=
  (alone.throughout (fun _ _ orderly own => orderly.step own) (orderly_start _ stale)).mono
    fun _ => Orderly.safe

/-- A second worker after the first has left, beside a socket file from before. -/
theorem successor_safe :
    Throughout (step false "a") (Safe "a") (start (Dict.empty.set (socketPath "a") 0))
      ([.spawn 1] ++ List.replicate 6 (.run 1) ++ [.look 1, .connect 1, .run 1, .run 1, .spawn 2] ++
        List.replicate 4 (.run 2) ++ [.look 2, .connect 2]) :=
  safe_of_alone false "a" _ _ (by decide +kernel)

/-- The first worker has been told to stop and still serves, so that the call that spawns the
second one returns with the first; or it has closed its socket, and unlinks the path once the
second one serves. -/
theorem replaced_beside_unsafe :
    ¬Throughout (step false "a") (Safe "a") (start Dict.empty)
      ([.spawn 1] ++ List.replicate 4 (.run 1) ++
        [.look 1, .connect 1, .spawn 2, .look 2, .connect 2]) ∧
    ¬Throughout (step false "a") (Safe "a") (start Dict.empty)
      ([.spawn 1] ++ List.replicate 4 (.run 1) ++ [.look 1, .connect 1, .run 1, .spawn 2] ++
        List.replicate 6 (.run 2) ++ [.look 2, .connect 2, .run 1]) := by
  constructor
  · intro always
    exact absurd (always.last.returned 2 1 (by decide +kernel)) (by decide)
  · intro always
    have answers := always.last.serves 2 (by decide +kernel) (by decide +kernel)
    exact absurd answers (by decide +kernel)

/-- From an orderly state the workers and calls that are there stay safe. -/
theorem Orderly.not_endangered (orderly : slot.Orderly (socketPath agentId)) :
    ¬Endangered cleanupSocket agentId slot := by
  rintro ⟨events, going, stray⟩
  apply stray
  induction events generalizing slot with
  | nil => exact orderly.safe
  | cons event events ih =>
      obtain ⟨first, going⟩ := List.forall_mem_cons.mp going
      exact ih (orderly.step (alone_of_continues first)) going stray

/-- A step that does not have the path to itself endangers a worker or a call. -/
theorem Orderly.endangered_of_not_alone (orderly : slot.Orderly (socketPath agentId))
    {event : SlotEvent} (beside : ¬slot.Alone event) :
    Endangered cleanupSocket agentId (slot.step cleanupSocket agentId event) := by
  cases event with
  | spawn pid => exact orderly.endangered_of_spawn beside
  | terminated target => exact orderly.endangered_of_terminated beside
  | look | connect | giveUp | run | fault | exit | terminate | restart =>
      exact absurd trivial beside

/-- The steps of a list have the path to themselves if and only if none of them endangers a
worker or a call. -/
theorem never_endangered_iff (cleanupSocket : Bool) (agentId : Text)
    (stale : Dict (List Text) ℕ) (events : List SlotEvent) :
    Throughout (step cleanupSocket agentId) (fun slot => ¬Endangered cleanupSocket agentId slot)
        (start stale) events ↔
      EachMeets (step cleanupSocket agentId) Alone (start stale) events := by
  constructor
  · have orderly := orderly_start (socketPath agentId) stale
    generalize start stale = slot at orderly
    intro always
    induction events generalizing slot with
    | nil => trivial
    | cons event events ih =>
        have next : ¬Endangered cleanupSocket agentId (slot.step cleanupSocket agentId event) := by
          cases events with
          | nil => exact always.2
          | cons => exact always.2.1
        have alone : slot.Alone event := by
          by_contra beside
          exact next (orderly.endangered_of_not_alone beside)
        exact ⟨alone, ih _ (orderly.step alone) always.2⟩
  · intro alone
    exact (alone.throughout (fun _ _ orderly own => orderly.step own)
      (orderly_start _ stale)).mono fun _ => Orderly.not_endangered

end WorkerSlot

end Vcompany.Transport
