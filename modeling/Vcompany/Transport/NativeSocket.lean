import Vcompany.Foundation.PathName
import Vcompany.Foundation.UnixSocket

/-! # The workers behind one socket path

The native transport spawns a worker and then waits at the socket path of its agent until a
connection is accepted. A worker removes a stale socket file, binds the path and listens, and
when it is told to stop it closes its socket and unlinks the path. Nothing but the path links
the head to the worker it spawned, so the steps of the head and of all workers of one agent
are taken here one at a time, in any order.
-/

namespace Vcompany.Transport

open Foundation

def socketDir : List Text := ["tmp"]

/-- `_socket_path`. -/
def socketPath (agentId : Text) : List Text :=
  PathName.resolve socketDir (("vco-worker-" : Text) ++ agentId ++ (".sock" : Text))

/-- Where a worker is in `_run_socket`. -/
inductive WorkerPhase where
  /-- Before `socket_path.exists()`. -/
  | starting
  /-- Before it tries the socket it found. -/
  | trying
  /-- Before it unlinks the stale file. -/
  | cleaning
  /-- In `start_unix_server`, before the library looks for a file at the path. -/
  | probing
  /-- In `start_unix_server`, before the library removes the file. -/
  | removing
  | binding
  | bound
  | serving
  /-- In `server.close()`, before the library compares the file at the path with its own. -/
  | comparing
  /-- In `server.close()`, before the library removes the file. -/
  | tidying
  /-- Before it unlinks the path for good. -/
  | leaving
  /-- It has exited, or has only its container left to stop. -/
  | gone
  deriving DecidableEq, Repr

/-- The next step of a worker on the socket files. The library's `cleanup_socket` has
`server.close()` remove the file of the server. -/
def WorkerPhase.next (cleanupSocket : Bool) (path : List Text) (pid : ℕ)
    (files : SocketFiles (List Text) ℕ) :
    WorkerPhase → SocketFiles (List Text) ℕ × WorkerPhase
  | .starting => (files, if files.entry path = none then .probing else .trying)
  | .trying =>
      match files.connect path with
      | .accepted _ => (files, .gone)  -- another worker is running
      | .refused | .missing => (files, .cleaning)
  | .cleaning => (files.unlink path, .probing)
  | .probing => (files, if files.entry path = none then .binding else .removing)
  | .removing => (files.unlink path, .binding)
  | .binding =>
      match files.bind path pid with
      | some files => (files, .bound)
      | none => (files, .gone)
  | .bound => (files.listen pid, .serving)
  | .serving => (files.close pid, if cleanupSocket then .comparing else .leaving)
  | .comparing => (files, if files.entry path = some pid then .tidying else .leaving)
  | .tidying => (files.unlink path, .leaving)
  | .leaving => (files.unlink path, .gone)
  | .gone => (files, .gone)

/-- Where a call of `spawn` is once its process runs: asleep in `_wait_for_socket`, or about to
connect to a path that exists, or back with a connection to the worker. -/
inductive SpawnCall where
  | waiting
  | connecting
  | returned (peer : ℕ)
  deriving DecidableEq, Repr

def SpawnCall.Pending (call : SpawnCall) : Prop := call = .waiting ∨ call = .connecting

instance (call : SpawnCall) : Decidable call.Pending := inferInstanceAs (Decidable (_ ∨ _))

/-- The workers of one agent and the head's calls for it. A process, its socket and the call
that spawned it have one number. -/
structure WorkerSlot where
  files : SocketFiles (List Text) ℕ
  workers : Dict ℕ WorkerPhase
  calls : Dict ℕ SpawnCall
  /-- The entry of `_processes`. -/
  process : Option ℕ
  /-- The calls of `terminate` that wait for their process. -/
  terminating : List (Option ℕ)

inductive SlotEvent where
  /-- `spawn` creates the process. -/
  | spawn (pid : ℕ)
  /-- The call looks whether the path exists. -/
  | look (pid : ℕ)
  /-- The call connects. -/
  | connect (pid : ℕ)
  /-- The call raises. -/
  | giveUp (pid : ℕ)
  /-- The worker takes its next step; one that serves stops serving. -/
  | run (pid : ℕ)
  /-- The worker's try of the socket it found ends in an `OSError`, also where it listens. -/
  | fault (pid : ℕ)
  /-- The process ends where it is. -/
  | exit (pid : ℕ)
  | terminate
  /-- `terminate` has waited for the process, or killed it, and goes on. -/
  | terminated (target : Option ℕ)
  /-- The daemon ends, and its calls with it; the workers stay. -/
  | restart
  deriving DecidableEq, Repr

namespace WorkerSlot

/-- No worker yet, and whatever socket files are left behind. -/
def start (stale : Dict (List Text) ℕ) : WorkerSlot where
  files := ⟨stale, ∅⟩
  workers := Dict.empty
  calls := Dict.empty
  process := none
  terminating := []

def spawn (slot : WorkerSlot) (pid : ℕ) : WorkerSlot :=
  match slot.workers.get? pid with
  | some _ => slot
  | none =>
      { slot with
        workers := slot.workers.set pid .starting
        calls := slot.calls.set pid .waiting
        process := some pid }

def look (path : List Text) (slot : WorkerSlot) (pid : ℕ) : WorkerSlot :=
  if slot.calls.get? pid = some .waiting ∧ slot.files.entry path ≠ none then
    { slot with calls := slot.calls.set pid .connecting }
  else slot

def connect (path : List Text) (slot : WorkerSlot) (pid : ℕ) : WorkerSlot :=
  if slot.calls.get? pid = some .connecting then
    match slot.files.connect path with
    | .accepted peer => { slot with calls := slot.calls.set pid (.returned peer) }
    | .refused | .missing => { slot with calls := slot.calls.set pid .waiting }
  else slot

/-- Drop the calls that have not returned. -/
def giveUp (slot : WorkerSlot) (ending : ℕ → Bool) : WorkerSlot :=
  { slot with calls := slot.calls.keep fun entry => !ending entry.1 || !decide entry.2.Pending }

def run (cleanupSocket : Bool) (path : List Text) (slot : WorkerSlot) (pid : ℕ) : WorkerSlot :=
  match slot.workers.get? pid with
  | none => slot
  | some phase =>
      let next := phase.next cleanupSocket path pid slot.files
      { slot with files := next.1, workers := slot.workers.set pid next.2 }

def fault (slot : WorkerSlot) (pid : ℕ) : WorkerSlot :=
  if slot.workers.get? pid = some .trying then
    { slot with workers := slot.workers.set pid .cleaning }
  else slot

def exit (slot : WorkerSlot) (pid : ℕ) : WorkerSlot :=
  match slot.workers.get? pid with
  | none => slot
  | some _ => { slot with files := slot.files.close pid, workers := slot.workers.set pid .gone }

def terminate (slot : WorkerSlot) : WorkerSlot :=
  { slot with process := none, terminating := slot.terminating ++ [slot.process] }

/-- The process ends, if it has not, and the path is unlinked. -/
def terminated (path : List Text) (slot : WorkerSlot) (target : Option ℕ) : WorkerSlot :=
  if target ∈ slot.terminating then
    let ended := target.elim slot slot.exit
    { ended with
      files := ended.files.unlink path
      terminating := slot.terminating.erase target }
  else slot

def restart (slot : WorkerSlot) : WorkerSlot :=
  { slot.giveUp (fun _ => true) with process := none, terminating := [] }

/-- The step of an event; one that is not possible leaves all as it is. -/
def step (cleanupSocket : Bool) (agentId : Text) (slot : WorkerSlot) : SlotEvent → WorkerSlot
  | .spawn pid => slot.spawn pid
  | .look pid => slot.look (socketPath agentId) pid
  | .connect pid => slot.connect (socketPath agentId) pid
  | .giveUp pid => slot.giveUp fun other => decide (other = pid)
  | .run pid => slot.run cleanupSocket (socketPath agentId) pid
  | .fault pid => slot.fault pid
  | .exit pid => slot.exit pid
  | .terminate => slot.terminate
  | .terminated target => slot.terminated (socketPath agentId) target
  | .restart => slot.restart

/-- The worker that was spawned last. -/
def newest (slot : WorkerSlot) : Option ℕ := slot.workers.keys.getLast?

/-- What replacing a worker must keep. -/
structure Safe (agentId : Text) (slot : WorkerSlot) : Prop where
  returned : ∀ pid peer, slot.calls.get? pid = some (.returned peer) → peer = pid
  serves : ∀ pid, slot.newest = some pid → slot.workers.get? pid = some .serving →
    slot.files.connect (socketPath agentId) = .accepted pid

/-- The process has steps left on the path. -/
def Active (slot : WorkerSlot) (pid : ℕ) : Prop :=
  ∃ phase, slot.workers.get? pid = some phase ∧ phase ≠ .gone

/-- The step is taken with the path to itself: a worker is spawned when no worker and no call of
`spawn` is left, and `terminate` unlinks the path when no other worker has bound it. -/
def Alone (slot : WorkerSlot) : SlotEvent → Prop
  | .spawn pid => slot.workers.get? pid = none →
      (∀ entry ∈ slot.workers.entries, entry.2 = .gone) ∧
        ∀ entry ∈ slot.calls.entries, ¬entry.2.Pending
  | .terminated target => target ∈ slot.terminating →
      ∀ entry ∈ slot.workers.entries, some entry.1 ≠ target →
        entry.2 ≠ .bound ∧ entry.2 ≠ .serving
  | _ => True

instance (slot : WorkerSlot) : ∀ event, Decidable (slot.Alone event)
  | .spawn pid => inferInstanceAs (Decidable (slot.workers.get? pid = none → _ ∧ _))
  | .terminated target => inferInstanceAs (Decidable (target ∈ slot.terminating →
      ∀ entry ∈ slot.workers.entries, _))
  | .look _ | .connect _ | .giveUp _ | .run _ | .fault _ | .exit _ | .terminate | .restart =>
      inferInstanceAs (Decidable True)

end WorkerSlot

/-! ## One step of a worker -/

namespace WorkerPhase

/-- What the phase relies on at the path. -/
def Expects (phase : WorkerPhase) (pid : ℕ) (entry : Option ℕ) : Prop :=
  (phase = .binding → entry = none) ∧ (phase = .bound ∨ phase = .serving → entry = some pid)

theorem expects_gone (pid : ℕ) (entry : Option ℕ) : gone.Expects pid entry :=
  ⟨by simp, by simp⟩

variable (cleanupSocket : Bool) (path : List Text) {pid : ℕ}
  (files : SocketFiles (List Text) ℕ)

theorem next_expects {phase : WorkerPhase} (expects : phase.Expects pid (files.entry path)) :
    (phase.next cleanupSocket path pid files).2.Expects pid
      ((phase.next cleanupSocket path pid files).1.entry path) := by
  cases phase with
  | starting =>
      dsimp only [next]
      split <;> simp [Expects]
  | trying =>
      dsimp only [next]
      split <;> simp [Expects]
  | cleaning => simp [next, Expects]
  | probing =>
      dsimp only [next]
      split
      · next free => exact ⟨fun _ => free, by simp⟩
      · simp [Expects]
  | removing => simp [next, Expects]
  | binding =>
      dsimp only [next]
      split
      · next binds => exact ⟨by simp, fun _ => (SocketFiles.bind_eq_some binds).1⟩
      · exact expects_gone ..
  | bound => exact ⟨by simp [next], fun _ => expects.2 (.inl rfl)⟩
  | serving => cases cleanupSocket <;> simp [next, Expects]
  | comparing =>
      dsimp only [next]
      split <;> simp [Expects]
  | tidying => simp [next, Expects]
  | leaving => exact expects_gone ..
  | gone => exact expects_gone ..

theorem mem_listening_next {phase : WorkerPhase}
    (listens : pid ∈ files.listening ↔ phase = .serving) :
    pid ∈ (phase.next cleanupSocket path pid files).1.listening ↔
      (phase.next cleanupSocket path pid files).2 = .serving := by
  cases phase with
  | starting | probing | comparing =>
      dsimp only [next]
      split <;> simpa using listens
  | trying =>
      dsimp only [next]
      split <;> simpa using listens
  | cleaning | removing | tidying | leaving | gone => simpa [next] using listens
  | binding =>
      dsimp only [next]
      split
      · next binds =>
          rw [(SocketFiles.bind_eq_some binds).2, listens]
          simp
      · simpa using listens
  | bound => simp [next]
  | serving => cases cleanupSocket <;> simp [next]

theorem mem_listening_next_of_ne (phase : WorkerPhase) {other : ℕ} (apart : other ≠ pid) :
    other ∈ (phase.next cleanupSocket path pid files).1.listening ↔ other ∈ files.listening := by
  cases phase with
  | starting | cleaning | probing | removing | comparing | tidying | leaving | gone => rfl
  | trying =>
      dsimp only [next]
      split <;> rfl
  | binding =>
      dsimp only [next]
      split
      · next binds => rw [(SocketFiles.bind_eq_some binds).2]
      · rfl
  | bound => simp [next, apart]
  | serving => simp [next, apart]

/-- How many steps away from serving a worker is at most; none where it has served. -/
def toServe : WorkerPhase → ℕ
  | .starting => 7
  | .trying => 6
  | .cleaning => 5
  | .probing => 4
  | .removing => 3
  | .binding => 2
  | .bound => 1
  | .serving | .comparing | .tidying | .leaving | .gone => 0

/-- A worker that has not left the path is on its way to serve, serves, or is on its way out. -/
theorem cases_of_ne_gone {phase : WorkerPhase} (active : phase ≠ .gone) :
    0 < phase.toServe ∨ phase = .serving ∨
      phase = .comparing ∨ phase = .tidying ∨ phase = .leaving := by
  cases phase <;> simp [toServe] at active ⊢

/-- A worker that no socket answers comes closer to serving. -/
theorem next_of_quiet {phase : WorkerPhase} (early : 0 < phase.toServe)
    (quiet : files.listening = ∅) (expects : phase.Expects pid (files.entry path)) :
    (phase.next cleanupSocket path pid files).2 = .serving ∨
      0 < (phase.next cleanupSocket path pid files).2.toServe ∧
        (phase.next cleanupSocket path pid files).2.toServe < phase.toServe ∧
        (phase.next cleanupSocket path pid files).1.listening = ∅ := by
  cases phase with
  | starting =>
      dsimp only [next]
      split <;> simp [toServe, quiet]
  | trying =>
      dsimp only [next]
      split
      · next socket accepted =>
          have listens := (SocketFiles.connect_eq_accepted_iff.mp accepted).2
          rw [quiet] at listens
          exact absurd listens (Finset.notMem_empty socket)
      · simp [toServe, quiet]
      · simp [toServe, quiet]
  | cleaning => simp [next, toServe, quiet]
  | probing =>
      dsimp only [next]
      split <;> simp [toServe, quiet]
  | removing => simp [next, toServe, quiet]
  | binding =>
      have free := expects.1 rfl
      dsimp only [next]
      rw [SocketFiles.bind_of_entry pid free]
      simp [toServe, quiet]
  | bound => exact .inl rfl
  | serving | comparing | tidying | leaving | gone => contradiction

end WorkerPhase

end Vcompany.Transport
