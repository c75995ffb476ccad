import Vcompany.Foundation.Transition
import Vcompany.Supervisor.CompanyRoot

/-! # Where an agent's memory is

A worker opens its memory database below its working directory. `hire` spawns it in a directory
of the agent's own, but `dispatch` in that of the daemon, so the memory stays in one place as
long as no worker is dispatched from a daemon that runs elsewhere (`memory_kept`).
-/

namespace Vcompany.Supervisor

open Foundation Daemon Transport

namespace Company

/-- The directory of the memory database of a worker that `hire` has spawned. -/
def hiredMemory (installation : Installation) (agentId : Text) : List Text :=
  memoryDirectory (workingDirectory installation.home agentId) agentId

variable (installation : Installation) (company : Company)

/-- The memory databases that workers of the native transport have opened are in the directories
of `hire`. -/
def KeepsMemory : Prop :=
  ∀ worker ∈ company.host.processes, worker.transport = nativeName → worker.started = true →
    worker.memoryDirectory = hiredMemory installation worker.agentId

/-- The transport on which `dispatch` spawns a worker of the agent, if it does. -/
def Respawns (agentId : Text) (transportName : Text) : Prop :=
  ∃ root handle, company.root = some root ∧ root.agents.get? agentId = some handle ∧
    handle.isAlive = false ∧
    ((root.routingState.getAgent agentId).map AgentRouting.transportType).getD nativeName =
      transportName

/-- A worker is dispatched only where its memory is. -/
def AtHome : CompanyOperation → Prop
  | .dispatch agentId _ _ => company.Respawns agentId nativeName →
      memoryDirectory company.cwd agentId = hiredMemory installation agentId
  | _ => True

/-! ## What an operation does to the workers -/

variable {installation : Installation} {company : Company}

/-- The worker is spawned by the operation. -/
def Spawns (installation : Installation) (company : Company) :
    CompanyOperation → WorkerProcess → Prop
  | .hire request _, worker => worker.agentId = request.agentId ∧
      worker.cwd = workingDirectory installation.home request.agentId
  | .dispatch agentId _ _, worker => company.Respawns agentId worker.transport ∧
      worker.agentId = agentId ∧ worker.cwd = company.cwd
  | _, _ => False

theorem saveRouting_host (root : CompanyRoot) (state : RoutingState) (saving : Saving) :
    (company.saveRouting installation root state saving).2.host = company.host := by
  unfold saveRouting
  split <;> rfl

theorem leads_stopProcess {host next : Host} {fresh : WorkerProcess → Prop}
    (leads : host.Leads fresh next) (handle : AgentHandle) (stopping : Stopping) :
    host.Leads fresh (stopProcess next handle stopping).2 := by
  unfold stopProcess
  cases handle.socket with
  | none => exact leads
  | some peer =>
      dsimp only
      split
      · exact leads.exit peer
      · exact leads

theorem leads_hire (request : HireRequest) (outcome : HireOutcome) :
    company.host.Leads (Spawns installation company (.hire request outcome))
      (company.hire installation request outcome).2.host := by
  have spawns := (@Host.leads_spawn company.host request.transportName request.agentId
    (workingDirectory installation.home request.agentId) outcome.spawning).mono
      fun _ new => new.2
  unfold hire
  split
  · exact .refl _ _
  split
  · exact .refl _ _
  split
  · exact .refl _ _
  rcases spawned : company.host.spawn request.transportName request.agentId
    (workingDirectory installation.home request.agentId) outcome.spawning with ⟨result, host⟩
  rw [spawned] at spawns
  cases result with
  | error raised => exact spawns
  | ok peer =>
      dsimp only
      split
      · exact spawns
      · rw [saveRouting_host]
        dsimp only
        split
        · exact spawns.start _ fun _ _ new => new
        · exact spawns

theorem leads_dispatch (agentId : Text) (spawning : Spawning) (starting : Starting) :
    company.host.Leads (Spawns installation company (.dispatch agentId spawning starting))
      (company.dispatch agentId spawning starting).2.host := by
  unfold dispatch
  split
  · exact .refl _ _
  next root up =>
    split
    · exact .refl _ _
    next handle found =>
      split
      · exact .refl _ _
      next dead =>
        dsimp only
        have respawns : company.Respawns agentId _ :=
          ⟨root, handle, up, found, Bool.not_eq_true _ ▸ dead, rfl⟩
        generalize ((root.routingState.getAgent agentId).map AgentRouting.transportType).getD
          nativeName = transportName at respawns ⊢
        have spawns := (@Host.leads_spawn company.host transportName agentId company.cwd
          spawning).mono fun worker new =>
            (⟨new.1 ▸ respawns, new.2⟩ : Spawns installation company
              (.dispatch agentId spawning starting) worker)
        split
        · exact .refl _ _
        rcases spawned : company.host.spawn transportName agentId company.cwd spawning with
          ⟨result, host⟩
        rw [spawned] at spawns
        cases result with
        | error raised => exact spawns
        | ok peer =>
            cases starting with
            | raises | fails => exact spawns
            | starts => exact spawns.start _ fun _ _ new => new

theorem leads_dismiss {fresh : WorkerProcess → Prop} (agentId : Text) (stopping : Stopping)
    (saving : Saving) :
    company.host.Leads fresh (company.dismiss installation agentId stopping saving).2.host := by
  unfold dismiss
  split
  · exact .refl _ _
  split
  · exact .refl _ _
  next handle _ =>
    have leads := leads_stopProcess (.refl company.host fresh) handle stopping
    rcases stopped : stopProcess company.host handle stopping with ⟨result, host⟩
    rw [stopped] at leads
    cases result with
    | error raised => exact leads
    | ok _ =>
        dsimp only
        rw [saveRouting_host]
        exact leads

theorem leads_kill {fresh : WorkerProcess → Prop} (agentId : Text) (stopping : Stopping) :
    company.host.Leads fresh (company.kill agentId stopping).2.host := by
  unfold kill
  split
  · exact .refl _ _
  split
  · exact .refl _ _
  next handle _ =>
    have leads := leads_stopProcess (.refl company.host fresh) handle stopping
    rcases stopped : stopProcess company.host handle stopping with ⟨result, host⟩
    rw [stopped] at leads
    cases result with
    | error raised | ok _ => exact leads

theorem leads_survivors {fresh : WorkerProcess → Prop} (shutdown : Option (Text → Stopping)) :
    company.host.Leads fresh (company.survivors shutdown) := by
  have stops (handles : List AgentHandle) (stopping : Text → Stopping) (next : Host)
      (leads : company.host.Leads fresh next) : company.host.Leads fresh (handles.foldl
        (fun host handle => (stopProcess host handle (stopping handle.agentId)).2) next) := by
    induction handles generalizing next with
    | nil => exact leads
    | cons handle rest ih => exact ih _ (leads_stopProcess leads handle _)
  unfold survivors
  split
  · exact stops _ _ _ (.refl _ _)
  · exact .refl _ _

theorem leads_restart {fresh : WorkerProcess → Prop} (restart : Restart) :
    company.host.Leads fresh (company.restart installation restart).2.host := by
  have leads := @leads_survivors company fresh restart.shutdown
  unfold Company.restart
  dsimp only
  split
  · exact leads
  · unfold reconnectAgents
    dsimp only
    split
    · exact leads
    · rw [saveRouting_host]
      exact leads

/-- **Where workers come from.** After an operation there are workers that ran before it, and
those that it has spawned. -/
theorem leads_perform (operation : CompanyOperation) :
    company.host.Leads (Spawns installation company operation)
      (company.perform installation operation).host := by
  cases operation with
  | hire request outcome => exact leads_hire request outcome
  | dismiss agentId stopping saving => exact leads_dismiss agentId stopping saving
  | kill agentId stopping | relaunch agentId stopping => exact leads_kill agentId stopping
  | dispatch agentId spawning starting => exact leads_dispatch agentId spawning starting
  | restart restart => exact leads_restart restart
  | exits peer => exact (Host.Leads.refl _ _).exit peer
  | disconnects agentId =>
      have same : (company.disconnect agentId).host = company.host := by
        unfold disconnect
        split
        · rfl
        · split <;> rfl
      rw [perform, same]
      exact .refl _ _

/-! ## The directories -/

/-- The native workers are where `hire` would have spawned them, as far as their memory goes. -/
def Homes (installation : Installation) (host : Host) : Prop :=
  ∀ worker ∈ host.processes, worker.transport = nativeName →
    worker.memoryDirectory = hiredMemory installation worker.agentId

/-- An operation that dispatches a worker only where its memory is keeps them there. -/
theorem homes_perform (homes : Homes installation company.host) (operation : CompanyOperation)
    (atHome : company.AtHome installation operation) :
    Homes installation (company.perform installation operation).host := by
  intro worker member native
  rcases leads_perform operation worker member with ⟨before, was, same⟩ | spawned
  · rw [same] at native ⊢
    exact homes before was native
  · rw [WorkerProcess.memoryDirectory]
    cases operation with
    | hire request outcome =>
        rw [spawned.2, spawned.1]
        rfl
    | dispatch agentId spawning starting =>
        obtain ⟨respawns, own, cwd⟩ := spawned
        rw [cwd, own]
        exact atHome (native ▸ respawns)
    | dismiss | kill | relaunch | restart | exits | disconnects => exact spawned.elim

/-- A dispatch in which all goes well. -/
theorem dispatch_host {agentId : Text} (respawns : company.Respawns agentId nativeName) :
    (company.dispatch agentId .answers .starts).2.host =
      (company.host.launch nativeName agentId company.cwd).start
        (.process company.host.nextPid) := by
  obtain ⟨root, handle, up, found, dead, native⟩ := respawns
  have named : ¬ nativeName ∉ transportNames := not_not.mpr List.mem_cons_self
  have spawned : company.host.spawn nativeName agentId company.cwd .answers =
      (.ok (.process company.host.nextPid),
        company.host.launch nativeName agentId company.cwd) := by
    rw [Host.spawn, if_neg (show ¬ nativeName = networkName by decide)]
  unfold dispatch
  rw [up]
  dsimp only
  rw [found]
  dsimp only
  rw [dead, if_neg Bool.false_ne_true, native, if_neg named, spawned]
  rfl

/-- A dispatch that spawns a worker leaves its memory where it is, however it goes, only from a
daemon that runs there. -/
theorem keepsMemory_dispatch_iff (homes : Homes installation company.host) (agentId : Text) :
    (∀ spawning starting, (company.perform installation
        (.dispatch agentId spawning starting)).KeepsMemory installation) ↔
      (company.Respawns agentId nativeName →
        memoryDirectory company.cwd agentId = hiredMemory installation agentId) := by
  refine ⟨fun keeps respawns => ?_, fun atHome spawning starting worker member native _ =>
    homes_perform homes (.dispatch agentId spawning starting) atHome worker member native⟩
  have kept := keeps .answers .starts
  rw [KeepsMemory, perform, dispatch_host respawns] at kept
  have started : { pid := company.host.nextPid, agentId := agentId, transport := nativeName
                   cwd := company.cwd, started := true : WorkerProcess } ∈
      ((company.host.launch nativeName agentId company.cwd).start
        (.process company.host.nextPid)).processes :=
    List.mem_map.mpr ⟨_, List.mem_append_right _ List.mem_cons_self, if_pos rfl⟩
  exact kept _ started rfl rfl

/-- An agent whose id is made of plain names keeps its memory only in its own directory. -/
theorem hiredMemory_eq_iff {agentId : Text}
    (plain : PathName.Names (PathName.segments agentId)) {cwd : List Text} :
    memoryDirectory cwd agentId = hiredMemory installation agentId ↔
      cwd = workingDirectory installation.home agentId :=
  memoryDirectory_inj plain

end Company

/-- **When agents keep their memory.** From a root that has never hired, the workers of each
agent open the memory of the first one, as long as `dispatch` spawns them only from a daemon
whose working directory leads there. -/
theorem memory_kept (installation : Installation) (cwd : List Text)
    (operations : List CompanyOperation)
    (atHome : EachMeets (Company.perform installation) (Company.AtHome installation)
      (Company.fresh cwd) operations) :
    Throughout (Company.perform installation) (Company.KeepsMemory installation)
      (Company.fresh cwd) operations := by
  have homes : Throughout (Company.perform installation)
      (fun company => Company.Homes installation company.host) (Company.fresh cwd) operations :=
    atHome.throughout (fun _ operation homes => Company.homes_perform homes operation) nofun
  exact homes.mono fun _ kept worker member native _ => kept worker member native

def killed : CompanyOperation := .kill "a" { heard := true, returns := true }

def dispatched : CompanyOperation := .dispatch "a" .answers .starts

/-- A worker that is dispatched from its own directory has its memory. -/
theorem dispatched_keeps_memory :
    Throughout (Company.perform bareInstallation) (Company.KeepsMemory bareInstallation)
      (Company.fresh (workingDirectory bareInstallation.home "a"))
      [hireA .starts, killed, dispatched] :=
  memory_kept bareInstallation _ _ ⟨trivial, trivial, fun _ => by rfl, trivial⟩

/-- A worker that is dispatched from a daemon elsewhere opens another memory. -/
theorem dispatched_loses_memory :
    ¬ Company.KeepsMemory bareInstallation
      ([hireA .starts, killed, dispatched].foldl (Company.perform bareInstallation)
        (Company.fresh ["srv".toList])) := by
  intro kept
  have elsewhere := kept { pid := 1, agentId := "a", transport := nativeName
                           cwd := ["srv".toList], started := true } (by decide) rfl rfl
  exact absurd elsewhere (by decide)

end Vcompany.Supervisor
