import Vcompany.Foundation.Transition
import Vcompany.Supervisor.CompanyRoot

/-! # What the daemon knows of its workers

An agent is recorded in three places, and its worker runs by itself. The records agree, and no
running worker is unknown, exactly as long as no operation is interrupted between two of them
(`tracks_throughout_iff`).
-/

namespace Vcompany.Supervisor

open Foundation Daemon Transport

/-- The routing state, the file and the processes are those of the agents. -/
structure TracksAgents (root : CompanyRoot) (stored : RoutingState) (host : Host) : Prop where
  routing : ∀ agentId, agentId ∈ root.routingState.agents.keys ↔ agentId ∈ root.agents.keys
  file : ∀ agentId, agentId ∈ stored.agents.keys ↔ agentId ∈ root.agents.keys
  running : ∀ worker ∈ host.processes, worker.agentId ∈ root.agents.keys

namespace Company

/-- There is a root, the file can be loaded, and both know the agents whose workers run. -/
def Tracks (company : Company) : Prop :=
  ∃ root stored, company.root = some root ∧ RoutingState.load company.file = .ok stored ∧
    TracksAgents root stored company.host

/-! ## The condition -/

variable (company : Company)

def Knows (agentId : Text) : Prop :=
  ∃ root, company.root = some root ∧ agentId ∈ root.agents.keys

/-- The steps of `hire` come to a new process. -/
def Launches (request : HireRequest) (outcome : HireOutcome) : Prop :=
  outcome.prepared = true ∧ request.transportName ∈ transportNames ∧
    Host.Leaves request.transportName outcome.spawning

/-- The steps of `hire` come to the registration of the agent. -/
def Registers (request : HireRequest) (outcome : HireOutcome) : Prop :=
  outcome.prepared = true ∧ request.transportName ∈ transportNames ∧
    company.host.Answers request.transportName request.agentId outcome.spawning ∧
    outcome.starting ≠ .raises

instance (request : HireRequest) (outcome : HireOutcome) :
    Decidable (company.Registers request outcome) :=
  inferInstanceAs (Decidable (_ ∧ _ ∧ _ ∧ _))

/-- The agent can be reached again: its transport is known, the call and the message go through,
and its worker runs. -/
def Reachable (host : Host) (reaches : Text → Bool) (agentId : Text) (routing : AgentRouting) :
    Prop :=
  routing.transportType ∈ transportNames ∧ reaches agentId = true ∧
    (routing.transportType = networkName ∨ ∃ worker ∈ host.processes,
      worker.agentId = agentId ∧ worker.transport = routing.transportType)

/-- No operation is interrupted between two records. The worker of a new agent is registered,
and then saved; a dismissed agent is stopped, with every worker it has, and then saved; and every
worker that outlives the daemon is reached again. -/
def Uninterrupted : CompanyOperation → Prop
  | .hire request outcome =>
      (Launches request outcome →
          company.Registers request outcome ∨ company.Knows request.agentId) ∧
        (company.Registers request outcome →
          outcome.saving = .succeeds ∨ outcome.saving = .refused ∧ company.Knows request.agentId)
  | .dismiss agentId stopping saving =>
      ∀ root handle, company.root = some root → root.agents.get? agentId = some handle →
        (handle.isAlive = true → stopping.returns = true) ∧ saving = .succeeds ∧
          ∀ worker ∈ company.host.processes, worker.agentId = agentId →
            stopping.heard = true ∧ handle.socket = some (.process worker.pid)
  | .restart restart =>
      ∀ stored, RoutingState.load company.file = .ok stored →
        (∀ worker ∈ (company.survivors restart.shutdown).processes,
          ∃ routing, stored.agents.get? worker.agentId = some routing ∧
            Reachable (company.survivors restart.shutdown) restart.reaches worker.agentId
              routing) ∧
        ((∀ agentId routing, stored.agents.get? agentId = some routing →
            Reachable (company.survivors restart.shutdown) restart.reaches agentId routing) ∨
          restart.saving = .succeeds)
  | _ => True

/-! ## One operation -/

variable {company} {installation : Installation} {root : CompanyRoot} {stored : RoutingState}

theorem tracks_iff (up : company.root = some root)
    (loaded : RoutingState.load company.file = .ok stored) :
    company.Tracks ↔ TracksAgents root stored company.host := by
  refine ⟨?_, fun tracks => ⟨root, stored, up, loaded, tracks⟩⟩
  rintro ⟨_, _, up', loaded', tracks⟩
  obtain rfl := Option.some.inj (up.symm.trans up')
  obtain rfl := Except.ok.inj (loaded.symm.trans loaded')
  exact tracks

theorem knows_iff (up : company.root = some root) {agentId : Text} :
    company.Knows agentId ↔ agentId ∈ root.agents.keys := by
  refine ⟨?_, fun member => ⟨root, up, member⟩⟩
  rintro ⟨_, up', member⟩
  obtain rfl := Option.some.inj (up.symm.trans up')
  exact member

/-- What a saved root tracks. A file that was not written has the agents it had. -/
theorem tracks_saveRouting_iff (dataDir : installation.dataDir = true)
    (loaded : RoutingState.load company.file = .ok stored) {state : RoutingState}
    {saving : Saving} :
    (company.saveRouting installation root state saving).2.Tracks ↔
      (∀ agentId, agentId ∈ state.agents.keys ↔ agentId ∈ root.agents.keys) ∧
      (saving = .succeeds ∨ saving = .refused ∧
        ∀ agentId, agentId ∈ stored.agents.keys ↔ agentId ∈ root.agents.keys) ∧
      ∀ worker ∈ company.host.processes, worker.agentId ∈ root.agents.keys := by
  unfold saveRouting
  rw [if_pos dataDir]
  cases saving with
  | succeeds =>
      dsimp only [RoutingState.save]
      rw [tracks_iff rfl rfl]
      refine ⟨fun tracks => ⟨tracks.routing, .inl rfl, tracks.running⟩, ?_⟩
      rintro ⟨routing, _, running⟩
      exact ⟨routing, routing, running⟩
  | refused =>
      dsimp only [RoutingState.save]
      rw [@tracks_iff { company with root := some { root with routingState := state } } _ stored
        rfl loaded]
      refine ⟨fun tracks => ⟨tracks.routing, .inr ⟨rfl, tracks.file⟩, tracks.running⟩, ?_⟩
      rintro ⟨routing, saved | ⟨_, file⟩, running⟩
      · cases saved
      · exact ⟨routing, file, running⟩
  | torn =>
      dsimp only [RoutingState.save]
      refine iff_of_false ?_ ?_
      · rintro ⟨_, _, _, torn, _⟩
        cases torn
      · rintro ⟨_, saved | ⟨saved, _⟩, _⟩ <;> cases saved

theorem stopProcess_returns_iff {host : Host} {handle : AgentHandle} {stopping : Stopping} :
    (stopProcess host handle stopping).1 = .ok () ↔
      (handle.isAlive = true → stopping.returns = true) := by
  unfold stopProcess AgentHandle.isAlive
  cases handle.socket with
  | none => exact iff_of_true rfl nofun
  | some peer => cases stopping.returns <;> simp

/-- Stopping takes the worker away that hears it. -/
theorem mem_stopProcess {host : Host} {handle : AgentHandle} {stopping : Stopping}
    {worker : WorkerProcess} : worker ∈ (stopProcess host handle stopping).2.processes ↔
      worker ∈ host.processes ∧
        ¬ (stopping.heard = true ∧ handle.socket = some (.process worker.pid)) := by
  unfold stopProcess
  cases handle.socket with
  | none => simp
  | some peer =>
      cases stopping.heard with
      | false => simp
      | true => simp [Host.mem_exit]

theorem reconnected_isSome_iff {host : Host} {reaches : Text → Bool} {agentId : Text}
    {routing : AgentRouting} : (reconnected host reaches (agentId, routing)).isSome = true ↔
      Reachable host reaches agentId routing := by
  unfold reconnected Reachable
  dsimp only
  have connects := @Host.connect_ok_iff host routing.transportType agentId (reaches agentId)
  rw [← connects]
  split
  · next unnamed => simp [unnamed]
  · next named =>
      rw [and_iff_right (not_not.mp named)]
      split <;> next connected => simp [connected]

/-- The agents of the new root are those that can be reached again. -/
theorem mem_reconnected_iff {state : RoutingState} {host : Host} {reaches : Text → Bool}
    {agentId : Text} : agentId ∈ (state.agents.filterMap (reconnected host reaches)).keys ↔
      ∃ routing, state.agents.get? agentId = some routing ∧
        Reachable host reaches agentId routing := by
  rw [Dict.mem_keys_filterMap]
  exact exists_congr fun routing => and_congr_right fun _ => reconnected_isSome_iff

/-! ## The agents of the root -/

theorem saveRouting_root {state : RoutingState} {saving : Saving} :
    ∃ after, (company.saveRouting installation root state saving).2.root = some after ∧
      after.agents = root.agents := by
  unfold saveRouting
  split <;> exact ⟨_, rfl, rfl⟩

theorem saveRouting_ok_iff {state : RoutingState} {saving : Saving} :
    (company.saveRouting installation root state saving).1 = .ok () ↔
      (installation.dataDir = true → saving = .succeeds) := by
  unfold saveRouting
  split
  · next dataDir => cases saving <;> simp [RoutingState.save, dataDir]
  · next none => exact iff_of_true rfl fun dataDir => absurd dataDir none

/-- A hire that comes to the registration stores a new handle, and returns if it is saved. -/
theorem hire_of_registers (up : company.root = some root) {request : HireRequest}
    {outcome : HireOutcome} (registers : company.Registers request outcome) :
    ((company.hire installation request outcome).1 = .ok () ↔
        (installation.dataDir = true → outcome.saving = .succeeds)) ∧
      ∃ after peer, (company.hire installation request outcome).2.root = some after ∧
        after.agents = root.agents.set request.agentId (request.handle installation peer) := by
  obtain ⟨cwd, _, file, processes⟩ := company
  obtain rfl : _ = some root := up
  obtain ⟨prepared, named, answered, starts⟩ := registers
  unfold hire
  dsimp only
  rw [if_neg (by rw [prepared]; exact nofun), if_neg (not_not.mpr named)]
  obtain ⟨peer, connected⟩ := (@Host.spawn_ok_iff processes request.transportName request.agentId
    (workingDirectory installation.home request.agentId) outcome.spawning).mpr answered
  rcases spawned : processes.spawn request.transportName request.agentId
    (workingDirectory installation.home request.agentId) outcome.spawning with ⟨result, host⟩
  rw [spawned] at connected
  obtain rfl : result = .ok peer := connected
  cases starting : outcome.starting with
  | raises => exact absurd starting starts
  | fails | starts =>
      obtain ⟨after, same, agents⟩ := saveRouting_root
      exact ⟨saveRouting_ok_iff, after, peer, same, agents⟩

/-- Any other hire raises, and leaves the root as it was. -/
theorem hire_of_not_registers (up : company.root = some root) {request : HireRequest}
    {outcome : HireOutcome} (silent : ¬ company.Registers request outcome) :
    (∃ raised, (company.hire installation request outcome).1 = .error raised) ∧
      (company.hire installation request outcome).2.root = some root := by
  obtain ⟨cwd, _, file, processes⟩ := company
  obtain rfl : _ = some root := up
  unfold hire
  dsimp only
  split
  · exact ⟨⟨_, rfl⟩, rfl⟩
  next prepared =>
  split
  · exact ⟨⟨_, rfl⟩, rfl⟩
  next named =>
  have answers := @Host.spawn_ok_iff processes request.transportName request.agentId
    (workingDirectory installation.home request.agentId) outcome.spawning
  rcases spawned : processes.spawn request.transportName request.agentId
    (workingDirectory installation.home request.agentId) outcome.spawning with ⟨result, host⟩
  rw [spawned] at answers
  cases result with
  | error raised => exact ⟨⟨raised, rfl⟩, rfl⟩
  | ok peer =>
      cases starting : outcome.starting with
      | raises => exact ⟨⟨_, rfl⟩, rfl⟩
      | fails | starts =>
          refine absurd ⟨Bool.not_eq_false _ ▸ prepared, not_not.mp named,
            answers.mp ⟨peer, rfl⟩, ?_⟩ silent
          exact starting ▸ nofun

theorem dismiss_unknown (up : company.root = some root) {agentId : Text} {stopping : Stopping}
    {saving : Saving} (unknown : agentId ∉ root.agents.keys) :
    (company.dismiss installation agentId stopping saving).2 = company := by
  unfold dismiss
  rw [up]
  dsimp only
  rw [Dict.get?_eq_none_iff.mpr unknown]

/-- A root that has started knows the agents that it has reached again. -/
theorem restart_root {restart : Restart} {next : Company}
    (started : company.restart installation restart = (.ok (), next)) :
    ∃ state after, (if installation.dataDir then RoutingState.load company.file
        else .ok .empty) = .ok state ∧ next.root = some after ∧
      after.agents = state.agents.filterMap
        (reconnected (company.survivors restart.shutdown) restart.reaches) := by
  unfold Company.restart at started
  dsimp only at started
  generalize (if installation.dataDir then RoutingState.load company.file
    else .ok .empty) = loaded at started ⊢
  cases loaded with
  | error raised => cases started
  | ok state =>
      refine ⟨state, ?_⟩
      dsimp only at started
      unfold reconnectAgents at started
      dsimp only at started
      split at started
      · cases started
        exact ⟨_, rfl, rfl, rfl⟩
      · have same := congrArg (·.2.root) started
        obtain ⟨after, root, agents⟩ := saveRouting_root
        exact ⟨after, rfl, same.symm.trans root, agents⟩

section

variable (up : company.root = some root)
  (loaded : RoutingState.load company.file = .ok stored)
  (tracks : TracksAgents root stored company.host)

include up loaded tracks

/-- Other processes are tracked if they are of the agents. -/
theorem tracks_host_iff {host : Host} : Company.Tracks { company with host := host } ↔
    ∀ worker ∈ host.processes, worker.agentId ∈ root.agents.keys := by
  rw [@tracks_iff { company with host := host } root stored up loaded]
  exact ⟨TracksAgents.running, fun running => ⟨tracks.routing, tracks.file, running⟩⟩

omit loaded in
/-- The processes after a call to the transport are of the agents, and of the one it was for. -/
theorem running_spawn_iff {transport agentId : Text} {cwd : List Text} {spawning : Spawning} :
    (∀ worker ∈ (company.host.spawn transport agentId cwd spawning).2.processes,
        worker.agentId ∈ root.agents.keys) ↔
      (Host.Leaves transport spawning → company.Knows agentId) := by
  rw [Host.spawn_processes, knows_iff up]
  constructor
  · intro running leaves
    rw [if_pos leaves] at running
    exact running _ (List.mem_append_right _ List.mem_cons_self)
  · intro known worker member
    rcases List.mem_append.mp member with old | new
    · exact tracks.running worker old
    · split at new
      · next leaves =>
          obtain rfl := List.mem_singleton.mp new
          exact known leaves
      · cases new

omit up loaded in
theorem running_spawn (transport agentId : Text) (cwd : List Text) (spawning : Spawning) :
    ∀ worker ∈ (company.host.spawn transport agentId cwd spawning).2.processes,
      worker.agentId = agentId ∨ worker.agentId ∈ root.agents.keys := by
  rw [Host.spawn_processes]
  intro worker member
  rcases List.mem_append.mp member with old | new
  · exact .inr (tracks.running worker old)
  · split at new
    · obtain rfl := List.mem_singleton.mp new
      exact .inl rfl
    · cases new

/-- A call that ends before the agent is registered leaves the processes of the transport. -/
theorem tracks_unregistered_iff {request : HireRequest} {outcome : HireOutcome}
    (silent : ¬ company.Registers request outcome)
    (launches : Launches request outcome ↔
      Host.Leaves request.transportName outcome.spawning) {cwd : List Text} :
    Company.Tracks { company with host := (company.host.spawn request.transportName
        request.agentId cwd outcome.spawning).2 } ↔
      company.Uninterrupted (.hire request outcome) := by
  rw [tracks_host_iff up loaded tracks, running_spawn_iff up tracks, Uninterrupted,
    launches, or_iff_right silent]
  exact (and_iff_left fun registers => absurd registers silent).symm

/-- A call that registers the agent is tracked if the agent is saved, or its file knows it. -/
theorem tracks_registered_iff (dataDir : installation.dataDir = true) {request : HireRequest}
    {outcome : HireOutcome} (registers : company.Registers request outcome) {handle : AgentHandle}
    {routing : AgentRouting} (own : routing.agentId = request.agentId) {host : Host}
    (ofAgents : ∀ worker ∈ host.processes,
      worker.agentId = request.agentId ∨ worker.agentId ∈ root.agents.keys) :
    (saveRouting installation { company with host := host }
        { root with agents := root.agents.set request.agentId handle }
        (root.routingState.addAgent routing) outcome.saving).2.Tracks ↔
      company.Uninterrupted (.hire request outcome) := by
  have added (agentId : Text) : agentId ∈ (root.routingState.addAgent routing).agents.keys ↔
      agentId ∈ (root.agents.set request.agentId handle).keys := by
    rw [RoutingState.addAgent, Dict.mem_keys_set, Dict.mem_keys_set, own, tracks.routing]
  have running : ∀ worker ∈ host.processes,
      worker.agentId ∈ (root.agents.set request.agentId handle).keys :=
    fun worker member => Dict.mem_keys_set.mpr (ofAgents worker member)
  have stale : (∀ agentId, agentId ∈ stored.agents.keys ↔
      agentId ∈ (root.agents.set request.agentId handle).keys) ↔
        company.Knows request.agentId := by
    rw [knows_iff up]
    constructor
    · intro same
      exact (tracks.file _).mp ((same request.agentId).mpr (Dict.mem_keys_set.mpr (.inl rfl)))
    · intro known agentId
      rw [tracks.file, Dict.mem_keys_set]
      exact ⟨.inr, fun either => either.elim (fun same => same ▸ known) id⟩
  rw [@tracks_saveRouting_iff { company with host := host } installation _ stored dataDir loaded]
  dsimp only
  rw [and_iff_right added, and_iff_left running, stale, Uninterrupted]
  exact ⟨fun saved => ⟨fun _ => .inl registers, fun _ => saved⟩, fun meets => meets.2 registers⟩

theorem tracks_hire_iff (dataDir : installation.dataDir = true) (request : HireRequest)
    (outcome : HireOutcome) : (company.hire installation request outcome).2.Tracks ↔
      company.Uninterrupted (.hire request outcome) := by
  have unchanged : company.Tracks := ⟨root, stored, up, loaded, tracks⟩
  obtain ⟨cwd, _, file, processes⟩ := company
  obtain rfl : _ = some root := up
  unfold hire
  dsimp only
  by_cases unprepared : outcome.prepared = false
  · rw [if_pos unprepared]
    exact iff_of_true unchanged
      ⟨fun launches => absurd (unprepared.symm.trans launches.1) nofun,
        fun registers => absurd (unprepared.symm.trans registers.1) nofun⟩
  rw [if_neg unprepared]
  by_cases unnamed : request.transportName ∉ transportNames
  · rw [if_pos unnamed]
    exact iff_of_true unchanged
      ⟨fun launches => absurd launches.2.1 unnamed, fun registers => absurd registers.2.1 unnamed⟩
  rw [if_neg unnamed]
  have prepared : outcome.prepared = true := Bool.not_eq_false _ ▸ unprepared
  have named : request.transportName ∈ transportNames := not_not.mp unnamed
  have launches : Launches request outcome ↔
      Host.Leaves request.transportName outcome.spawning := by
    rw [Launches, and_iff_right prepared, and_iff_right named]
  have answers := @Host.spawn_ok_iff processes request.transportName request.agentId
    (workingDirectory installation.home request.agentId) outcome.spawning
  have ofAgents := running_spawn tracks request.transportName request.agentId
    (workingDirectory installation.home request.agentId) outcome.spawning
  have abandoned := @tracks_unregistered_iff _ root stored rfl loaded tracks request outcome
  rcases spawned : processes.spawn request.transportName request.agentId
    (workingDirectory installation.home request.agentId) outcome.spawning with ⟨result, host⟩
  dsimp only at ofAgents
  rw [spawned] at answers ofAgents
  cases result with
  | error raised =>
      have silent : ¬ Registers ⟨cwd, some root, file, processes⟩ request outcome := by
        rintro ⟨_, _, answered, _⟩
        obtain ⟨peer, connected⟩ := answers.mpr answered
        cases connected
      have left := @abandoned silent launches (workingDirectory installation.home request.agentId)
      dsimp only at left
      rwa [spawned] at left
  | ok peer =>
      have answered := answers.mp ⟨peer, rfl⟩
      cases starting : outcome.starting with
      | raises =>
          have silent : ¬ Registers ⟨cwd, some root, file, processes⟩ request outcome :=
            fun registers => registers.2.2.2 starting
          have left := @abandoned silent launches
            (workingDirectory installation.home request.agentId)
          dsimp only at left
          rwa [spawned] at left
      | fails =>
          have registers : Registers ⟨cwd, some root, file, processes⟩ request outcome :=
            ⟨prepared, named, answered, starting ▸ nofun⟩
          exact tracks_registered_iff rfl loaded tracks dataDir registers rfl ofAgents
      | starts =>
          have registers : Registers ⟨cwd, some root, file, processes⟩ request outcome :=
            ⟨prepared, named, answered, starting ▸ nofun⟩
          have started := (@Host.forall_mem_start host peer fun agentId =>
            agentId = request.agentId ∨ agentId ∈ root.agents.keys).mpr ofAgents
          exact tracks_registered_iff rfl loaded tracks dataDir registers rfl started

omit loaded tracks in
theorem uninterrupted_dismiss_iff {agentId : Text} {handle : AgentHandle}
    (found : root.agents.get? agentId = some handle) {stopping : Stopping} {saving : Saving} :
    company.Uninterrupted (.dismiss agentId stopping saving) ↔
      (handle.isAlive = true → stopping.returns = true) ∧ saving = .succeeds ∧
        ∀ worker ∈ company.host.processes, worker.agentId = agentId →
          stopping.heard = true ∧ handle.socket = some (.process worker.pid) := by
  refine ⟨fun all => all root handle up found, fun one root' handle' up' found' => ?_⟩
  obtain rfl := Option.some.inj (up.symm.trans up')
  obtain rfl := Option.some.inj (found.symm.trans found')
  exact one

theorem tracks_dismiss_iff (dataDir : installation.dataDir = true) (agentId : Text)
    (stopping : Stopping) (saving : Saving) :
    (company.dismiss installation agentId stopping saving).2.Tracks ↔
      company.Uninterrupted (.dismiss agentId stopping saving) := by
  have unchanged : company.Tracks := ⟨root, stored, up, loaded, tracks⟩
  obtain ⟨cwd, _, file, processes⟩ := company
  obtain rfl : _ = some root := up
  unfold dismiss
  dsimp only
  rcases found : root.agents.get? agentId with _ | handle
  · refine iff_of_true unchanged fun root' handle' up' found' => ?_
    obtain rfl := Option.some.inj up'
    cases found.symm.trans found'
  have known : agentId ∈ root.agents.keys := Dict.mem_keys_of_get? found
  have returns := @stopProcess_returns_iff processes handle stopping
  have left := @mem_stopProcess processes handle stopping
  rw [@uninterrupted_dismiss_iff ⟨cwd, some root, file, processes⟩ root rfl agentId handle found]
  dsimp only
  rcases stopped : stopProcess processes handle stopping with ⟨result, host⟩
  rw [stopped] at returns left
  cases result with
  | error raised =>
      refine iff_of_false ?_ fun all => nomatch returns.mpr all.1
      dsimp only
      rw [@tracks_iff ⟨cwd, some _, file, host⟩ _ stored rfl loaded]
      intro kept
      have gone := (kept.routing agentId).mp ((tracks.routing agentId).mpr known)
      exact (Dict.mem_keys_pop.mp gone).1 rfl
  | ok _ =>
      have removed (other : Text) :
          other ∈ (root.routingState.removeAgent agentId).agents.keys ↔
            other ∈ (root.agents.pop agentId).keys := by
        rw [RoutingState.removeAgent, Dict.mem_keys_pop, Dict.mem_keys_pop, tracks.routing]
      have stale : ¬ ∀ other, other ∈ stored.agents.keys ↔
          other ∈ (root.agents.pop agentId).keys := fun same =>
        (Dict.mem_keys_pop.mp ((same agentId).mp ((tracks.file agentId).mpr known))).1 rfl
      dsimp only
      rw [@tracks_saveRouting_iff ⟨cwd, some root, file, host⟩ installation _ stored dataDir loaded,
        and_iff_right removed, and_iff_right (returns.mp rfl),
        or_iff_left fun refused => stale refused.2]
      refine and_congr_right fun _ => ?_
      constructor
      · intro running worker member own
        by_contra remains
        have after := running worker (left.mpr ⟨member, remains⟩)
        exact (Dict.mem_keys_pop.mp after).1 own
      · intro gone worker member
        obtain ⟨was, remains⟩ := left.mp member
        exact Dict.mem_keys_pop.mpr
          ⟨fun own => remains (gone worker was own), tracks.running worker was⟩

omit up tracks in
theorem uninterrupted_restart_iff {restart : Restart} :
    company.Uninterrupted (.restart restart) ↔
      (∀ worker ∈ (company.survivors restart.shutdown).processes,
          ∃ routing, stored.agents.get? worker.agentId = some routing ∧
            Reachable (company.survivors restart.shutdown) restart.reaches worker.agentId
              routing) ∧
        ((∀ agentId routing, stored.agents.get? agentId = some routing →
            Reachable (company.survivors restart.shutdown) restart.reaches agentId routing) ∨
          restart.saving = .succeeds) := by
  refine ⟨fun all => all stored loaded, fun one stored' loaded' => ?_⟩
  obtain rfl := Except.ok.inj (loaded.symm.trans loaded')
  exact one

omit up tracks in
theorem tracks_restart_iff (dataDir : installation.dataDir = true) (restart : Restart) :
    (company.restart installation restart).2.Tracks ↔
      company.Uninterrupted (.restart restart) := by
  rw [uninterrupted_restart_iff loaded]
  unfold Company.restart
  dsimp only
  rw [if_pos dataDir, loaded]
  generalize company.survivors restart.shutdown = host
  have agents (agentId : Text) :
      agentId ∈ (stored.agents.filterMap (reconnected host restart.reaches)).keys ↔
        ∃ routing, stored.agents.get? agentId = some routing ∧
          Reachable host restart.reaches agentId routing := mem_reconnected_iff
  have entries : (∀ entry ∈ stored.agents.entries,
      (reconnected host restart.reaches entry).isSome) ↔
        ∀ agentId routing, stored.agents.get? agentId = some routing →
          Reachable host restart.reaches agentId routing := by
    simp only [Dict.get?_eq_some_iff, ← reconnected_isSome_iff, Prod.forall]
  dsimp only
  unfold reconnectAgents
  dsimp only
  by_cases all : ∀ entry ∈ stored.agents.entries, (reconnected host restart.reaches entry).isSome
  · have every := entries.mp all
    have same (agentId : Text) : agentId ∈ stored.agents.keys ↔
        agentId ∈ (stored.agents.filterMap (reconnected host restart.reaches)).keys := by
      rw [agents, Dict.mem_keys_iff_exists]
      exact exists_congr fun routing =>
        (and_iff_left_of_imp fun found => every agentId routing found).symm
    rw [if_pos all, and_iff_left (.inl every),
      @tracks_iff ⟨restart.cwd, some _, company.file, host⟩ _ stored rfl loaded]
    refine ⟨fun kept worker member => (agents _).mp (kept.running worker member), ?_⟩
    exact fun reached => ⟨same, same, fun worker member => (agents _).mpr (reached worker member)⟩
  · have some_ : ¬ ∀ agentId routing, stored.agents.get? agentId = some routing →
        Reachable host restart.reaches agentId routing := fun every => all (entries.mpr every)
    have kept (agentId : Text) : agentId ∈ (stored.agents.keep fun entry =>
        (reconnected host restart.reaches entry).isSome).keys ↔
          agentId ∈ (stored.agents.filterMap (reconnected host restart.reaches)).keys := by
      rw [Dict.mem_keys_keep, Dict.mem_keys_filterMap]
    have stale : ¬ ∀ agentId, agentId ∈ stored.agents.keys ↔
        agentId ∈ (stored.agents.filterMap (reconnected host restart.reaches)).keys := by
      refine fun same => some_ fun agentId routing found => ?_
      obtain ⟨routing', found', reached⟩ :=
        (agents agentId).mp ((same agentId).mp (Dict.mem_keys_of_get? found))
      obtain rfl := Option.some.inj (found.symm.trans found')
      exact reached
    rw [if_neg all, or_iff_right some_,
      @tracks_saveRouting_iff ⟨restart.cwd, none, company.file, host⟩ installation _ stored
        dataDir loaded,
      and_iff_right kept, or_iff_left fun refused => stale refused.2, and_comm]
    exact and_congr_left fun _ => forall₂_congr fun worker _ => agents worker.agentId

omit up in
/-- Setting the handle of a known agent keeps the records. -/
theorem tracks_set {agentId : Text} (known : agentId ∈ root.agents.keys) (handle : AgentHandle)
    {host : Host} (running : ∀ worker ∈ host.processes, worker.agentId ∈ root.agents.keys) :
    Company.Tracks { company with
      root := some { root with agents := root.agents.set agentId handle }, host := host } := by
  have same (other : Text) :
      other ∈ (root.agents.set agentId handle).keys ↔ other ∈ root.agents.keys := by
    rw [Dict.mem_keys_set]
    exact or_iff_right_of_imp fun own => own ▸ known
  refine ⟨_, stored, rfl, loaded, fun other => ?_, fun other => ?_, fun worker member => ?_⟩
  · rw [tracks.routing, same]
  · rw [tracks.file, same]
  · exact (same _).mpr (running worker member)

theorem tracks_kill (agentId : Text) (stopping : Stopping) :
    (company.kill agentId stopping).2.Tracks := by
  have unchanged : company.Tracks := ⟨root, stored, up, loaded, tracks⟩
  obtain ⟨cwd, _, file, processes⟩ := company
  obtain rfl : _ = some root := up
  unfold kill
  dsimp only
  rcases found : root.agents.get? agentId with _ | handle
  · exact unchanged
  dsimp only
  have left := @mem_stopProcess processes handle stopping
  rcases stopped : stopProcess processes handle stopping with ⟨result, host⟩
  rw [stopped] at left
  have running : ∀ worker ∈ host.processes, worker.agentId ∈ root.agents.keys :=
    fun worker member => tracks.running worker (left.mp member).1
  cases result with
  | error raised => exact (tracks_host_iff rfl loaded tracks).mpr running
  | ok _ => exact tracks_set loaded tracks (Dict.mem_keys_of_get? found) _ running

theorem tracks_dispatch (agentId : Text) (spawning : Spawning) (starting : Starting) :
    (company.dispatch agentId spawning starting).2.Tracks := by
  have unchanged : company.Tracks := ⟨root, stored, up, loaded, tracks⟩
  obtain ⟨cwd, _, file, processes⟩ := company
  obtain rfl : _ = some root := up
  unfold dispatch
  dsimp only
  rcases found : root.agents.get? agentId with _ | handle
  · exact unchanged
  have known := Dict.mem_keys_of_get? found
  dsimp only
  generalize ((root.routingState.getAgent agentId).map AgentRouting.transportType).getD
    nativeName = transportName
  have ofAgents := running_spawn tracks transportName agentId cwd spawning
  split
  · exact unchanged
  split
  · exact unchanged
  rcases spawned : processes.spawn transportName agentId cwd spawning with ⟨result, host⟩
  dsimp only at ofAgents
  rw [spawned] at ofAgents
  have running : ∀ worker ∈ host.processes, worker.agentId ∈ root.agents.keys :=
    fun worker member => (ofAgents worker member).elim (fun own => own ▸ known) id
  cases result with
  | error raised => exact (tracks_host_iff rfl loaded tracks).mpr running
  | ok peer =>
      cases starting with
      | raises | fails => exact tracks_set loaded tracks known _ running
      | starts =>
          have started := (@Host.forall_mem_start host peer fun agentId =>
            agentId ∈ root.agents.keys).mpr running
          exact tracks_set loaded tracks known _ started

theorem tracks_disconnect (agentId : Text) : (company.disconnect agentId).Tracks := by
  have unchanged : company.Tracks := ⟨root, stored, up, loaded, tracks⟩
  obtain ⟨cwd, _, file, processes⟩ := company
  obtain rfl : _ = some root := up
  unfold disconnect
  dsimp only
  rcases found : root.agents.get? agentId with _ | handle
  · exact unchanged
  · exact tracks_set loaded tracks (Dict.mem_keys_of_get? found) _ tracks.running

end

/-- Records that agree do so after an operation exactly if it is not interrupted. -/
theorem tracks_perform_iff (dataDir : installation.dataDir = true) (tracks : company.Tracks)
    (operation : CompanyOperation) : (company.perform installation operation).Tracks ↔
      company.Uninterrupted operation := by
  obtain ⟨root, stored, up, loaded, tracks⟩ := tracks
  cases operation with
  | hire request outcome => exact tracks_hire_iff up loaded tracks dataDir request outcome
  | dismiss agentId stopping saving =>
      exact tracks_dismiss_iff up loaded tracks dataDir agentId stopping saving
  | restart restart => exact tracks_restart_iff loaded dataDir restart
  | kill agentId stopping | relaunch agentId stopping =>
      exact iff_of_true (tracks_kill up loaded tracks agentId stopping) trivial
  | dispatch agentId spawning starting =>
      exact iff_of_true (tracks_dispatch up loaded tracks agentId spawning starting) trivial
  | disconnects agentId => exact iff_of_true (tracks_disconnect up loaded tracks agentId) trivial
  | exits peer =>
      refine iff_of_true ((tracks_host_iff up loaded tracks).mpr fun worker member => ?_) trivial
      exact tracks.running worker (Host.mem_exit.mp member).1

theorem tracks_fresh (cwd : List Text) : (Company.fresh cwd).Tracks :=
  ⟨_, _, rfl, rfl, fun _ => Iff.rfl, fun _ => Iff.rfl, nofun⟩

end Company

/-- **When the records agree.** From a root that has never hired, the agents, the routing state
and its file agree after every operation, and no running worker is unknown, exactly if no
operation is interrupted between two records. -/
theorem tracks_throughout_iff {installation : Installation} (dataDir : installation.dataDir = true)
    (cwd : List Text) (operations : List CompanyOperation) :
    Throughout (Company.perform installation) Company.Tracks (Company.fresh cwd) operations ↔
      EachMeets (Company.perform installation) Company.Uninterrupted (Company.fresh cwd)
        operations :=
  @throughout_iff _ _ _ Company.Tracks Company.Uninterrupted
    (fun _ operation tracks => Company.tracks_perform_iff dataDir tracks operation) _
    (Company.tracks_fresh cwd) operations

/-- The records agree after a hire that goes through. -/
theorem hired_agent_tracked :
    Throughout (Company.perform bareInstallation) Company.Tracks (Company.fresh ["srv".toList])
      [hireA .starts] := by
  have registers : Company.Registers (Company.fresh ["srv".toList]) { agentId := "a" }
      { prepared := true, spawning := .answers, starting := .starts, saving := .succeeds } :=
    ⟨rfl, List.mem_cons_self, .inl rfl, nofun⟩
  exact (tracks_throughout_iff rfl ["srv".toList] [hireA .starts]).mpr
    ⟨⟨fun _ => .inl registers, fun _ => .inl rfl⟩, trivial⟩

/-- The start message cannot be sent to a worker that was spawned: it runs, and no record knows
it. -/
theorem unstarted_worker_untracked :
    ¬ (Company.perform bareInstallation (Company.fresh ["srv".toList])
      (hireA .raises)).Tracks := by
  rintro ⟨root, stored, up, _, tracks⟩
  obtain rfl := Option.some.inj up
  exact Dict.not_mem_keys_empty (tracks.running _ List.mem_cons_self)

end Vcompany.Supervisor
