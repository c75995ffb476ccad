import Vcompany.Foundation.PathName
import Vcompany.Foundation.PyValue

/-! # Transports and worker processes

A transport spawns a worker process for an agent, or connects to one that is running. How a
call to the operating system goes is an outcome. A worker computes the directory of its memory
database from its own working directory, which is the daemon's unless the call names one.
-/

namespace Vcompany.Transport

open Foundation

/-- A running worker process. It has started once it has handled a start message. -/
structure WorkerProcess where
  pid : ℕ
  agentId : Text
  transport : Text
  cwd : List Text
  started : Bool
  deriving DecidableEq, Repr

/-- `Path.cwd() / ".vco-state" / agent_id`. -/
def memoryDirectory (cwd : List Text) (agentId : Text) : List Text :=
  PathName.resolve (PathName.resolve cwd ".vco-state") agentId

/-- The directory of the memory database of the worker. -/
def WorkerProcess.memoryDirectory (worker : WorkerProcess) : List Text :=
  Transport.memoryDirectory worker.cwd worker.agentId

/-- The other end of a connection: a process that was spawned, or a worker on another machine. -/
inductive Peer where
  | process (pid : ℕ)
  | remote
  deriving DecidableEq, Repr

/-- How spawning a worker goes. A process whose socket does not answer in time is left running;
one that finds the socket of the agent in use exits, and the connection is with the worker
there. -/
inductive Spawning where
  | raises
  | unanswered
  | answers
  | inUse
  deriving DecidableEq, Repr

/-- How sending the start message goes: it is not sent, or the worker fails to start, or it
starts unless it has done so before. -/
inductive Starting where
  | raises
  | fails
  | starts
  deriving DecidableEq, Repr

/-- How stopping a worker goes: whether the stop message makes it exit, and whether the call
returns. -/
structure Stopping where
  heard : Bool
  returns : Bool
  deriving DecidableEq, Repr

def nativeName : Text := "native"

def dockerName : Text := "docker"

def networkName : Text := "network"

/-- The names that `_get_transport` knows. -/
def transportNames : List Text := [nativeName, dockerName, networkName]

/-- The worker processes that have been spawned and run. -/
structure Host where
  processes : List WorkerProcess
  nextPid : ℕ

namespace Host

/-- The worker that listens at the socket of the agent. -/
def listener (host : Host) (transport agentId : Text) : Option WorkerProcess :=
  host.processes.find? fun worker => worker.transport = transport ∧ worker.agentId = agentId

/-- Run a new worker process. -/
def launch (host : Host) (transport agentId : Text) (cwd : List Text) : Host where
  processes := host.processes ++
    [{ pid := host.nextPid, agentId := agentId, transport := transport, cwd := cwd
       started := false }]
  nextPid := host.nextPid + 1

/-- `ChannelTransport.connect`. The worker of a network agent is on another machine. -/
def connect (host : Host) (transport agentId : Text) (reaches : Bool) : Except PyExc Peer :=
  if reaches = false then .error .osError
  else if transport = networkName then .ok .remote
  else match host.listener transport agentId with
    | some worker => .ok (.process worker.pid)
    | none => .error .osError

/-- `ChannelTransport.spawn`: how it ends, and the processes it leaves. A network transport
spawns nothing. -/
def spawn (host : Host) (transport agentId : Text) (cwd : List Text) :
    Spawning → Except PyExc Peer × Host
  | .raises => (.error .osError, host)
  | .unanswered =>
      if transport = networkName then (.error .osError, host)
      else (.error .other, host.launch transport agentId cwd)
  | .answers =>
      if transport = networkName then (.ok .remote, host)
      else (.ok (.process host.nextPid), host.launch transport agentId cwd)
  | .inUse => (host.connect transport agentId true, host)

/-- The worker has handled a start message. -/
def start (host : Host) (peer : Peer) : Host :=
  { host with processes := host.processes.map fun worker =>
      if peer = .process worker.pid then { worker with started := true } else worker }

/-- The worker is gone. -/
def exit (host : Host) (peer : Peer) : Host :=
  { host with processes := host.processes.filter fun worker => peer ≠ .process worker.pid }

/-! ## What the processes are for -/

variable {host : Host} {transport agentId : Text} {cwd : List Text}

/-- The spawned process is new. -/
def Leaves (transport : Text) (spawning : Spawning) : Prop :=
  transport ≠ networkName ∧ (spawning = .unanswered ∨ spawning = .answers)

instance (transport : Text) (spawning : Spawning) : Decidable (Leaves transport spawning) :=
  inferInstanceAs (Decidable (_ ∧ _))

/-- Spawning leaves the processes as they were, or with a new one. -/
theorem spawn_processes (spawning : Spawning) :
    (host.spawn transport agentId cwd spawning).2.processes = host.processes ++
      if Leaves transport spawning then
        [{ pid := host.nextPid, agentId := agentId, transport := transport, cwd := cwd
           started := false }]
      else [] := by
  by_cases remote : transport = networkName
  · have none : ¬ Leaves transport spawning := fun leaves => leaves.1 remote
    rw [if_neg none, List.append_nil]
    cases spawning with
    | raises | inUse => rfl
    | unanswered | answers => simp only [spawn, remote, if_true]
  · cases spawning with
    | raises | inUse =>
        rw [if_neg fun leaves => by simp [Leaves] at leaves, List.append_nil]
        rfl
    | unanswered =>
        rw [if_pos ⟨remote, .inl rfl⟩]
        simp only [spawn, remote, if_false]
        rfl
    | answers =>
        rw [if_pos ⟨remote, .inr rfl⟩]
        simp only [spawn, remote, if_false]
        rfl

/-- A connection is with a remote worker, or with a process of the agent. -/
theorem connect_ok {reaches : Bool} {peer : Peer}
    (connected : host.connect transport agentId reaches = .ok peer) :
    reaches = true ∧ (transport = networkName ∨ ∃ worker ∈ host.processes,
      worker.agentId = agentId ∧ worker.transport = transport ∧ peer = .process worker.pid) := by
  unfold connect at connected
  split at connected
  · cases connected
  · next reached =>
      refine ⟨Bool.not_eq_false _ ▸ reached, ?_⟩
      split at connected
      · next remote => exact .inl remote
      · split at connected
        · next worker found =>
            have matched : worker.transport = transport ∧ worker.agentId = agentId :=
              of_decide_eq_true (List.find?_some found :)
            exact .inr ⟨worker, List.mem_of_find?_eq_some found, matched.2, matched.1,
              (Except.ok.inj connected).symm⟩
        · cases connected

theorem connect_ok_iff {reaches : Bool} :
    (∃ peer, host.connect transport agentId reaches = .ok peer) ↔
      reaches = true ∧ (transport = networkName ∨ ∃ worker ∈ host.processes,
        worker.agentId = agentId ∧ worker.transport = transport) := by
  constructor
  · rintro ⟨peer, connected⟩
    refine (connect_ok connected).imp_right (Or.imp_right ?_)
    exact fun ⟨worker, member, own, same, _⟩ => ⟨worker, member, own, same⟩
  · rintro ⟨rfl, remote | ⟨worker, member, own, same⟩⟩
    · exact ⟨.remote, by simp [connect, remote]⟩
    · unfold connect
      rw [if_neg nofun]
      split
      · exact ⟨_, rfl⟩
      · rcases found : host.listener transport agentId with _ | listener
        · have other := List.find?_eq_none.mp found worker member
          exact absurd (decide_eq_true ⟨same, own⟩) other
        · exact ⟨_, rfl⟩

/-- The spawned worker is connected, or the one that has the socket of the agent. -/
def Answers (host : Host) (transport agentId : Text) (spawning : Spawning) : Prop :=
  spawning = .answers ∨ spawning = .inUse ∧
    (transport = networkName ∨ ∃ worker ∈ host.processes,
      worker.agentId = agentId ∧ worker.transport = transport)

instance (host : Host) (transport agentId : Text) (spawning : Spawning) :
    Decidable (host.Answers transport agentId spawning) :=
  inferInstanceAs (Decidable (_ ∨ _ ∧ _))

theorem spawn_ok_iff {spawning : Spawning} :
    (∃ peer, (host.spawn transport agentId cwd spawning).1 = .ok peer) ↔
      host.Answers transport agentId spawning := by
  unfold Answers
  cases spawning with
  | raises => simp [spawn]
  | unanswered => by_cases remote : transport = networkName <;> simp [spawn, remote]
  | answers => by_cases remote : transport = networkName <;> simp [spawn, remote]
  | inUse =>
      have connects := @connect_ok_iff host transport agentId true
      simpa [spawn] using connects

/-- Starting a worker changes whether it has started, and no more. -/
theorem exists_of_mem_start {peer : Peer} {worker : WorkerProcess}
    (member : worker ∈ (host.start peer).processes) :
    ∃ before ∈ host.processes, worker = { before with started := worker.started } := by
  obtain ⟨before, was, rfl⟩ := List.mem_map.mp member
  refine ⟨before, was, ?_⟩
  split <;> rfl

theorem forall_mem_start {peer : Peer} {holds : Text → Prop} :
    (∀ worker ∈ (host.start peer).processes, holds worker.agentId) ↔
      ∀ worker ∈ host.processes, holds worker.agentId := by
  constructor
  · intro all worker member
    have started := all _ (List.mem_map_of_mem member)
    revert started
    split <;> exact id
  · intro all worker member
    obtain ⟨before, was, same⟩ := exists_of_mem_start member
    rw [same]
    exact all before was

theorem mem_exit {peer : Peer} {worker : WorkerProcess} :
    worker ∈ (host.exit peer).processes ↔
      worker ∈ host.processes ∧ peer ≠ .process worker.pid := by
  rw [exit, List.mem_filter, decide_eq_true_eq]

/-- The workers of the next host are those of this one, started or not, and fresh ones. -/
def Leads (host : Host) (fresh : WorkerProcess → Prop) (next : Host) : Prop :=
  ∀ worker ∈ next.processes,
    (∃ before ∈ host.processes, worker = { before with started := worker.started }) ∨ fresh worker

namespace Leads

variable {fresh weaker : WorkerProcess → Prop} {next : Host}

theorem refl (host : Host) (fresh : WorkerProcess → Prop) : host.Leads fresh host :=
  fun worker member => .inl ⟨worker, member, rfl⟩

theorem start (leads : host.Leads fresh next) (peer : Peer)
    (steady : ∀ worker started, fresh worker → fresh { worker with started := started }) :
    host.Leads fresh (next.start peer) := by
  intro worker member
  obtain ⟨before, was, same⟩ := exists_of_mem_start member
  rcases leads before was with ⟨first, member', same'⟩ | new
  · exact .inl ⟨first, member', by rw [same, same']⟩
  · exact .inr (same ▸ steady before _ new)

theorem exit (leads : host.Leads fresh next) (peer : Peer) : host.Leads fresh (next.exit peer) :=
  fun worker member => leads worker (mem_exit.mp member).1

theorem mono (leads : host.Leads fresh next) (implies : ∀ worker, fresh worker → weaker worker) :
    host.Leads weaker next :=
  fun worker member => (leads worker member).imp_right (implies worker)

end Leads

theorem leads_spawn (spawning : Spawning) : host.Leads
    (fun worker => worker.transport = transport ∧ worker.agentId = agentId ∧ worker.cwd = cwd)
    (host.spawn transport agentId cwd spawning).2 := by
  intro worker member
  rw [spawn_processes] at member
  rcases List.mem_append.mp member with old | new
  · exact .inl ⟨worker, old, rfl⟩
  · split at new
    · obtain rfl := List.mem_singleton.mp new
      exact .inr ⟨rfl, rfl, rfl⟩
    · cases new

end Host

/-! ## Memory directories -/

/-- An agent whose id is made of plain names has another memory directory in every working
directory. -/
theorem memoryDirectory_inj {agentId : Text}
    (plain : PathName.Names (PathName.segments agentId)) {cwd other : List Text} :
    memoryDirectory cwd agentId = memoryDirectory other agentId ↔ cwd = other := by
  unfold memoryDirectory
  rw [PathName.resolve_names _ plain, PathName.resolve_names _ plain,
    PathName.resolve_names cwd (by decide), PathName.resolve_names other (by decide),
    List.append_left_inj, List.append_left_inj]

end Vcompany.Transport
