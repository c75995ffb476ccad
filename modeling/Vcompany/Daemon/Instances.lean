import Vcompany.Foundation.Simulation
import Mathlib.Logic.Function.Basic

/-! # One daemon on a host

A daemon looks into the PID file when it starts, refuses to go on if the process named there is
alive, and otherwise writes its own PID and binds its socket; when it ends, it removes the PID
file and the socket. `vco down` looks into the same file, and removes it if the process is gone.
Nothing makes these sections atomic. Processes can be killed at any moment, and leave their files
then, and the PID of a process that has ended may be given to another one.

As long as the sections of different processes do not overlap, at most one daemon serves at a
time, and the PID file and the socket are its own (`one_daemon`); where two starts overlap,
there may be two (`two_daemons`).
-/

namespace Vcompany.Daemon

open Foundation

/-- What the PID file holds: nothing, before the PID is written to it, or a PID. -/
inductive PidText where
  | torn
  | pid (pid : ℕ)
  deriving DecidableEq, Repr

/-- What a process does next. -/
inductive ProcessPhase where
  /-- A daemon in `_check_already_running`. -/
  | starting
  | looked (found : PidText)
  | clears
  | clearsSocket
  /-- In `_write_pid_file`. -/
  | writes
  | writing
  /-- In the `try` block of `_run`. -/
  | binding
  | serving
  /-- In its `finally` block. -/
  | leaving
  | unlinked
  /-- `vco down`. -/
  | down
  | downLooked (found : PidText)
  | downClears
  /-- Another program, of our user or not. -/
  | other (ours : Bool)
  deriving DecidableEq, Repr

/-- The PID file, the process whose socket is bound at the daemon's path, and the processes. -/
structure DaemonHost where
  pidFile : Option PidText
  socket : Option ℕ
  processes : ℕ → Option ProcessPhase

/-- What `os.kill(pid, 0)` does. -/
inductive Killing where
  | returns
  | processLookupError
  | permissionError

namespace DaemonHost

def kill (host : DaemonHost) (pid : ℕ) : Killing :=
  match host.processes pid with
  | none => .processLookupError
  | some (.other false) => .permissionError
  | some _ => .returns

/-- The process goes on, or it ends. -/
def goes (host : DaemonHost) (self : ℕ) (phase : Option ProcessPhase) : DaemonHost :=
  { host with processes := Function.update host.processes self phase }

@[simp] theorem processes_goes_self {host : DaemonHost} {self : ℕ} {phase : Option ProcessPhase} :
    (host.goes self phase).processes self = phase :=
  Function.update_self ..

@[simp] theorem processes_goes_of_ne {host : DaemonHost} {self pid : ℕ}
    {phase : Option ProcessPhase} (other : pid ≠ self) :
    (host.goes self phase).processes pid = host.processes pid :=
  Function.update_of_ne other ..

/-- The PID file is unlinked, or written. -/
def withPidFile (host : DaemonHost) (pidFile : Option PidText) : DaemonHost :=
  { host with pidFile := pidFile }

/-- The socket is unlinked, or bound. -/
def withSocket (host : DaemonHost) (socket : Option ℕ) : DaemonHost :=
  { host with socket := socket }

/-- A turn of a process: `Daemon._run`, or `vco down`. -/
def turn (host : DaemonHost) (self : ℕ) : ProcessPhase → DaemonHost
  | .starting =>
      match host.pidFile with
      | none => host.goes self (some .writes)
      | some found => host.goes self (some (.looked found))
  | .looked .torn => host.goes self none
  | .looked (.pid old) =>
      match host.kill old with
      | .processLookupError => host.goes self (some .clears)
      | .returns | .permissionError => host.goes self none
  | .clears => (host.withPidFile none).goes self (some .clearsSocket)
  | .clearsSocket => (host.withSocket none).goes self (some .writes)
  | .writes => (host.withPidFile (some .torn)).goes self (some .writing)
  | .writing => (host.withPidFile (some (.pid self))).goes self (some .binding)
  | .binding => (host.withSocket (some self)).goes self (some .serving)
  | .serving => host.goes self (some .leaving)
  | .leaving => (host.withPidFile none).goes self (some .unlinked)
  | .unlinked => (host.withSocket none).goes self none
  | .down =>
      match host.pidFile with
      | none => host.goes self none
      | some found => host.goes self (some (.downLooked found))
  | .downLooked .torn => host.goes self (some .downClears)
  | .downLooked (.pid old) =>
      match host.kill old with
      | .processLookupError => host.goes self (some .downClears)
      | .returns | .permissionError => host.goes self none
  | .downClears => (host.withPidFile none).goes self none
  | .other _ => host

/-- A host without processes, with the files that earlier ones have left. -/
def idle (pidFile : Option PidText) (socket : Option ℕ) : DaemonHost :=
  ⟨pidFile, socket, fun _ => none⟩

end DaemonHost

/-- How a process begins. -/
def ProcessPhase.First (phase : ProcessPhase) : Prop :=
  phase = .starting ∨ phase = .down ∨ ∃ ours, phase = .other ours

inductive HostEvent where
  | spawned (pid : ℕ) (phase : ProcessPhase)
  | turned (pid : ℕ)
  /-- An exception in the `try` block of `_run`, before the socket is bound. -/
  | raised (pid : ℕ)
  | killed (pid : ℕ)
  deriving DecidableEq

/-- Processes begin with a PID that is free, take their turns, and may be killed. -/
inductive HostStep : DaemonHost → HostEvent → DaemonHost → Prop where
  | spawned {host : DaemonHost} {pid : ℕ} {phase : ProcessPhase} :
      host.processes pid = none → phase.First →
      HostStep host (.spawned pid phase) (host.goes pid (some phase))
  | turned {host : DaemonHost} {pid : ℕ} {phase : ProcessPhase} :
      host.processes pid = some phase → HostStep host (.turned pid) (host.turn pid phase)
  | raised {host : DaemonHost} {pid : ℕ} :
      host.processes pid = some .binding →
      HostStep host (.raised pid) (host.goes pid (some .leaving))
  | killed {host : DaemonHost} {pid : ℕ} : HostStep host (.killed pid) (host.goes pid none)

/-! ## Sections -/

namespace ProcessPhase

/-- The process has the PID file to itself: between its look into the file and the end of its
writing, or between the removal of the file and that of the socket. -/
def InSection : ProcessPhase → Prop
  | looked _ | clears | clearsSocket | writes | writing | unlinked | downLooked _ | downClears =>
      True
  | starting | binding | serving | leaving | down | other _ => False

/-- The process has written the PID file, and not yet removed it. -/
def Owns : ProcessPhase → Prop
  | binding | serving | leaving => True
  | _ => False

/-- What the process has found in the PID file. -/
def found : ProcessPhase → Option PidText
  | looked found | downLooked found => some found
  | _ => none

end ProcessPhase

namespace DaemonHost

/-- At most one process is in a section. -/
def Apart (host : DaemonHost) : Prop :=
  ∀ first second firstPhase secondPhase, host.processes first = some firstPhase →
    host.processes second = some secondPhase → firstPhase.InSection → secondPhase.InSection →
    first = second

/-- What holds while sections stay apart: the owner of the PID file is named in it, and serves at
the socket that is bound; a process in a section has found the owner's PID, or there is no
owner. -/
structure Guarded (host : DaemonHost) : Prop where
  named : ∀ pid phase, host.processes pid = some phase → phase.Owns →
    host.pidFile = some (.pid pid)
  bound : ∀ pid, host.processes pid = some .serving → host.socket = some pid
  found : ∀ self phase, host.processes self = some phase → phase.InSection →
    ∀ owner owning, host.processes owner = some owning → owning.Owns →
      phase.found = some (.pid owner)

namespace Guarded

variable {host : DaemonHost} {self : ℕ} {phase : ProcessPhase}

theorem idle (pidFile : Option PidText) (socket : Option ℕ) : (idle pidFile socket).Guarded :=
  ⟨nofun, nofun, nofun⟩

theorem unowned (unowned : ¬ phase.Owns) : ∀ next, some phase = some next → ¬ next.Owns :=
  fun _ same => Option.some.inj same ▸ unowned

/-- An owner is in no section. -/
theorem not_owns_of_inSection (inSection : phase.InSection) : ¬ phase.Owns := by
  cases phase <;> first | exact id | exact inSection.elim

/-- Two owners are one. -/
theorem owner_unique (guarded : host.Guarded) {first second : ℕ} {one other : ProcessPhase}
    (firstOwner : host.processes first = some one) (firstOwns : one.Owns)
    (secondOwner : host.processes second = some other) (secondOwns : other.Owns) :
    first = second := by
  have same := (guarded.named first one firstOwner firstOwns).symm.trans
    (guarded.named second other secondOwner secondOwns)
  exact PidText.pid.inj (Option.some.inj same)

/-- There is no owner while a process is in a section in which it has found no PID. -/
theorem no_owner (guarded : host.Guarded) (here : host.processes self = some phase)
    (inSection : phase.InSection) (nothing : ∀ pid, phase.found ≠ some (.pid pid)) {owner : ℕ}
    {owning : ProcessPhase} (owned : host.processes owner = some owning) : ¬ owning.Owns :=
  fun owns => nothing owner (guarded.found self phase here inSection owner owning owned owns)

/-- A process goes on: what has to be shown of it, and of the others. -/
theorem goes {next : Option ProcessPhase} (pidFile : Option PidText) (socket : Option ℕ)
    (named : ∀ phase, next = some phase → phase.Owns → pidFile = some (.pid self))
    (bound : next = some .serving → socket = some self)
    (found : ∀ phase, next = some phase → phase.InSection → ∀ owner owning, owner ≠ self →
      host.processes owner = some owning → owning.Owns → phase.found = some (.pid owner))
    (othersNamed : ∀ pid phase, pid ≠ self → host.processes pid = some phase → phase.Owns →
      pidFile = some (.pid pid))
    (othersBound : ∀ pid, pid ≠ self → host.processes pid = some .serving → socket = some pid)
    (othersFound : ∀ pid phase, pid ≠ self → host.processes pid = some phase → phase.InSection →
      (∃ owning, next = some owning ∧ owning.Owns) → phase.found = some (.pid self))
    (guarded : host.Guarded) :
    (((host.withPidFile pidFile).withSocket socket).goes self next).Guarded where
  named pid phase here owns := by
    by_cases same : pid = self
    · rw [same, processes_goes_self] at here
      rw [same]
      exact named phase here owns
    · rw [processes_goes_of_ne same] at here
      exact othersNamed pid phase same here owns
  bound pid here := by
    by_cases same : pid = self
    · rw [same, processes_goes_self] at here
      rw [same]
      exact bound here
    · rw [processes_goes_of_ne same] at here
      exact othersBound pid same here
  found pid phase here inSection owner owning owned owns := by
    by_cases same : pid = self
    · rw [same, processes_goes_self] at here
      by_cases other : owner = self
      · rw [other, processes_goes_self, here] at owned
        obtain rfl := Option.some.inj owned
        exact absurd owns (not_owns_of_inSection inSection)
      · rw [processes_goes_of_ne other] at owned
        exact found phase here inSection owner owning other owned owns
    · rw [processes_goes_of_ne same] at here
      by_cases other : owner = self
      · rw [other, processes_goes_self] at owned
        rw [other]
        exact othersFound pid phase same here inSection ⟨owning, owned, owns⟩
      · rw [processes_goes_of_ne other] at owned
        exact guarded.found pid phase here inSection owner owning owned owns

/-- A process that leaves the files, owns nothing, and has found what the owner has written. -/
theorem quiet {next : Option ProcessPhase} (guarded : host.Guarded)
    (unowned : ∀ phase, next = some phase → ¬ phase.Owns)
    (found : ∀ phase, next = some phase → phase.InSection → ∀ owner owning,
      host.processes owner = some owning → owning.Owns → phase.found = some (.pid owner)) :
    (host.goes self next).Guarded := by
  refine guarded.goes host.pidFile host.socket (fun phase here owns => ?_) (fun here => ?_)
    (fun phase here inSection owner owning _ => found phase here inSection owner owning)
    (fun pid phase _ => guarded.named pid phase) (fun pid _ => guarded.bound pid)
    (fun _ _ _ _ _ owner => ?_)
  · exact absurd owns (unowned phase here)
  · exact absurd trivial (unowned _ here)
  · obtain ⟨owning, here, owns⟩ := owner
    exact absurd owns (unowned owning here)

/-- An owner that goes on with its files. -/
theorem keeps (guarded : host.Guarded) (here : host.processes self = some phase)
    (owns : phase.Owns) (next : ProcessPhase) (stillOwns : next.Owns) (socket : Option ℕ)
    (bound : next = .serving → socket = some self)
    (others : ∀ pid, pid ≠ self → host.processes pid = some .serving → socket = some pid) :
    ((host.withSocket socket).goes self (some next)).Guarded := by
  have named := guarded.named self phase here owns
  refine guarded.goes host.pidFile socket (fun _ _ _ => named) (fun same => ?_)
    (fun owning same inSection => ?_) (fun pid phase _ => guarded.named pid phase) others
    (fun pid other _ there inSection _ => ?_)
  · exact bound (Option.some.inj same)
  · obtain rfl := Option.some.inj same
    exact absurd stillOwns (not_owns_of_inSection inSection)
  · exact guarded.found pid other there inSection self phase here owns

/-- A process in a section, in which it has found no PID, does what it likes with the files, and
owns nothing afterwards. -/
theorem clears (guarded : host.Guarded) (here : host.processes self = some phase)
    (inSection : phase.InSection) (nothing : ∀ pid, phase.found ≠ some (.pid pid))
    (pidFile : Option PidText) (socket : Option ℕ) {next : Option ProcessPhase}
    (unowned : ∀ phase, next = some phase → ¬ phase.Owns) :
    (((host.withPidFile pidFile).withSocket socket).goes self next).Guarded := by
  have free {owner : ℕ} {owning : ProcessPhase} (owned : host.processes owner = some owning) :=
    guarded.no_owner here inSection nothing owned
  refine guarded.goes pidFile socket (fun phase here owns => ?_) (fun here => ?_)
    (fun _ _ _ owner owning _ owned owns => ?_) (fun pid phase _ owned owns => ?_)
    (fun pid _ owned => ?_) (fun _ _ _ _ _ owner => ?_)
  · exact absurd owns (unowned phase here)
  · exact absurd trivial (unowned _ here)
  · exact absurd owns (free owned)
  · exact absurd owns (free owned)
  · exact absurd trivial (free owned)
  · obtain ⟨owning, here, owns⟩ := owner
    exact absurd owns (unowned owning here)

theorem ends (guarded : host.Guarded) : (host.goes self none).Guarded :=
  guarded.quiet nofun nofun

/-- A process that looks into the PID file finds the owner's PID there. -/
theorem looks (guarded : host.Guarded) {found : PidText} {next : ProcessPhase}
    (there : host.pidFile = some found) (unowned : ¬ next.Owns)
    (remembers : next.found = some found) : (host.goes self (some next)).Guarded := by
  refine guarded.quiet (Guarded.unowned unowned) fun phase same _ owner owning owned owns => ?_
  rw [← Option.some.inj same, remembers, ← there]
  exact guarded.named owner owning owned owns

/-- A process that has found the PID of one that is gone. -/
theorem probes (guarded : host.Guarded) (here : host.processes self = some phase)
    (inSection : phase.InSection) {old : ℕ} (remembers : phase.found = some (.pid old))
    (gone : host.processes old = none) {next : ProcessPhase} (unowned : ¬ next.Owns) :
    (host.goes self (some next)).Guarded := by
  refine guarded.quiet (Guarded.unowned unowned) fun _ _ _ owner owning owned owns => ?_
  have found := guarded.found self phase here inSection owner owning owned owns
  obtain rfl := PidText.pid.inj (Option.some.inj (remembers.symm.trans found))
  cases gone.symm.trans owned

/-- A process that has found no PID file. -/
theorem finds_none (guarded : host.Guarded) (none : host.pidFile = none) {next : ProcessPhase}
    (unowned : ¬ next.Owns) : (host.goes self (some next)).Guarded := by
  refine guarded.quiet (Guarded.unowned unowned) fun _ _ _ owner owning owned owns => ?_
  cases none.symm.trans (guarded.named owner owning owned owns)

/-- A daemon writes its PID. -/
theorem writes (guarded : host.Guarded) (apart : host.Apart)
    (here : host.processes self = some .writing) :
    ((host.withPidFile (some (.pid self))).goes self (some .binding)).Guarded := by
  have free {owner : ℕ} {owning : ProcessPhase} (owned : host.processes owner = some owning) :=
    guarded.no_owner here trivial nofun owned
  refine guarded.goes (some (.pid self)) host.socket (fun _ _ _ => rfl) nofun
    (fun phase same inSection => ?_) (fun pid phase _ owned owns => ?_)
    (fun pid _ owned => ?_) (fun pid phase other there inSection _ => ?_)
  · obtain rfl := Option.some.inj same
    exact inSection.elim
  · exact absurd owns (free owned)
  · exact absurd trivial (free owned)
  · exact absurd (apart pid self phase .writing there here inSection trivial) other

/-- The last owner removes its PID file. -/
theorem removes (guarded : host.Guarded) (here : host.processes self = some .leaving) :
    ((host.withPidFile none).goes self (some .unlinked)).Guarded := by
  have only {owner : ℕ} {owning : ProcessPhase} (owned : host.processes owner = some owning)
      (owns : owning.Owns) : owner = self := guarded.owner_unique owned owns here trivial
  refine guarded.goes none host.socket (fun phase same owns => ?_) nofun
    (fun _ _ _ owner owning other owned owns => ?_) (fun pid phase other owned owns => ?_)
    (fun pid other owned => ?_) (fun _ _ _ _ _ owner => ?_)
  · obtain rfl := Option.some.inj same
    exact owns.elim
  · exact absurd (only owned owns) other
  · exact absurd (only owned owns) other
  · exact absurd (only owned trivial) other
  · obtain ⟨owning, same, owns⟩ := owner
    obtain rfl := Option.some.inj same
    exact owns.elim

/-- What the turn of a process keeps. -/
theorem turn (guarded : host.Guarded) (apart : host.Apart)
    (here : host.processes self = some phase) : (host.turn self phase).Guarded := by
  have gone {old : ℕ} (killing : host.kill old = .processLookupError) :
      host.processes old = none := by
    unfold kill at killing
    split at killing
    · assumption
    · cases killing
    · cases killing
  cases phase with
  | starting =>
      unfold DaemonHost.turn
      rcases file : host.pidFile with _ | found
      · exact guarded.finds_none file id
      · exact guarded.looks file id rfl
  | looked found =>
      cases found with
      | torn => exact guarded.ends
      | pid old =>
          simp only [DaemonHost.turn]
          rcases killing : host.kill old
          · exact guarded.ends
          · exact guarded.probes here trivial rfl (gone killing) id
          · exact guarded.ends
  | clears => exact guarded.clears here trivial nofun none host.socket (unowned id)
  | clearsSocket => exact guarded.clears here trivial nofun host.pidFile none (unowned id)
  | writes => exact guarded.clears here trivial nofun (some .torn) host.socket (unowned id)
  | writing => exact guarded.writes apart here
  | binding =>
      refine guarded.keeps here trivial .serving trivial (some self) (fun _ => rfl) ?_
      intro pid other serves
      exact absurd (guarded.owner_unique serves trivial here trivial) other
  | serving =>
      exact guarded.keeps here trivial .leaving trivial host.socket nofun
        fun pid _ => guarded.bound pid
  | leaving => exact guarded.removes here
  | unlinked => exact guarded.clears here trivial nofun host.pidFile none nofun
  | down =>
      unfold DaemonHost.turn
      rcases file : host.pidFile with _ | found
      · exact guarded.ends
      · exact guarded.looks file id rfl
  | downLooked found =>
      cases found with
      | torn => exact guarded.clears here trivial nofun host.pidFile host.socket (unowned id)
      | pid old =>
          simp only [DaemonHost.turn]
          rcases killing : host.kill old
          · exact guarded.ends
          · exact guarded.probes here trivial rfl (gone killing) id
          · exact guarded.ends
  | downClears => exact guarded.clears here trivial nofun none host.socket nofun
  | other ours => exact guarded

theorem spawns (guarded : host.Guarded) (first : phase.First) :
    (host.goes self (some phase)).Guarded := by
  refine guarded.quiet (unowned fun owns => ?_) fun begun same inSection => ?_
  · rcases first with rfl | rfl | ⟨_, rfl⟩ <;> exact owns
  · obtain rfl := Option.some.inj same
    rcases first with rfl | rfl | ⟨_, rfl⟩ <;> exact inSection.elim

/-- What every step keeps, where the sections are apart before it. -/
theorem step {event : HostEvent} {next : DaemonHost} (guarded : host.Guarded) (apart : host.Apart)
    (stepped : HostStep host event next) : next.Guarded := by
  cases stepped with
  | spawned _ first => exact guarded.spawns first
  | turned here => exact guarded.turn apart here
  | raised here =>
      exact guarded.keeps here trivial .leaving trivial host.socket nofun
        fun pid _ => guarded.bound pid
  | killed => exact guarded.ends

end Guarded

end DaemonHost

/-- A step after which the sections are apart. -/
def ApartStep (host : DaemonHost) (event : HostEvent) (next : DaemonHost) : Prop :=
  HostStep host event next ∧ next.Apart

/-- **One daemon at a time.** Whatever files earlier processes have left, and whichever processes
are killed, as long as the sections of different processes do not overlap, at most one daemon
serves, the PID file names it, and the socket that is bound is its own. -/
theorem one_daemon {pidFile : Option PidText} {socket : Option ℕ} {events : List HostEvent}
    {host : DaemonHost} (run : Run ApartStep (DaemonHost.idle pidFile socket) events host) :
    ∀ daemon, host.processes daemon = some .serving →
      host.pidFile = some (.pid daemon) ∧ host.socket = some daemon ∧
        ∀ other, host.processes other = some .serving → other = daemon := by
  have kept : host.Guarded ∧ host.Apart := by
    refine run.invariant (fun host => host.Guarded ∧ host.Apart) ?_ ⟨.idle pidFile socket, nofun⟩
    rintro source event target ⟨guarded, apart⟩ ⟨stepped, next⟩
    exact ⟨guarded.step apart stepped, next⟩
  intro daemon serves
  refine ⟨kept.1.named daemon _ serves trivial, kept.1.bound daemon serves, fun other too => ?_⟩
  exact kept.1.owner_unique too trivial serves trivial

/-- A daemon that starts over the files of one that was killed. -/
def restarting : List ProcessPhase :=
  [.starting, .looked (.pid 3), .clears, .clearsSocket, .writes, .writing, .binding]

/-- The host on which it serves. -/
def restarted : DaemonHost :=
  restarting.foldl (fun host phase => host.turn 7 phase)
    ((DaemonHost.idle (some (.pid 3)) (some 3)).goes 7 (some .starting))

/-- A turn leaves the other processes. -/
theorem DaemonHost.processes_turn_of_ne {host : DaemonHost} {self pid : ℕ} (phase : ProcessPhase)
    (other : pid ≠ self) : (host.turn self phase).processes pid = host.processes pid := by
  fun_cases DaemonHost.turn host self phase <;>
    first | rfl | exact processes_goes_of_ne other

/-- The process is the only one. -/
def DaemonHost.Alone (host : DaemonHost) (self : ℕ) : Prop :=
  ∀ pid, pid ≠ self → host.processes pid = none

theorem DaemonHost.Alone.apart {host : DaemonHost} {self : ℕ} (alone : host.Alone self) :
    host.Apart := by
  have only {pid : ℕ} {phase : ProcessPhase} (here : host.processes pid = some phase) :
      pid = self := by
    by_contra other
    cases (alone pid other).symm.trans here
  intro first second _ _ here there _ _
  exact (only here).trans (only there).symm

theorem run_restarted : Run ApartStep (DaemonHost.idle (some (.pid 3)) (some 3))
    (.spawned 7 .starting :: restarting.map fun _ => .turned 7) restarted := by
  have alone : ((DaemonHost.idle (some (.pid 3)) (some 3)).goes 7 (some .starting)).Alone 7 :=
    fun pid other => DaemonHost.processes_goes_of_ne other
  have turns : EachMeets (fun host phase => host.turn 7 phase)
      (fun host phase => host.processes 7 = some phase)
      ((DaemonHost.idle (some (.pid 3)) (some 3)).goes 7 (some .starting)) restarting :=
    ⟨rfl, rfl, rfl, rfl, rfl, rfl, rfl, trivial⟩
  refine .cons ⟨.spawned rfl (Or.inl rfl), alone.apart⟩
    (turns.run (DaemonHost.Alone · 7) (fun host phase alone here => ?_) alone)
  have next : (host.turn 7 phase).Alone 7 :=
    fun pid other => (DaemonHost.processes_turn_of_ne phase other).trans (alone pid other)
  exact ⟨⟨.turned here, next.apart⟩, next⟩

theorem restarted_alone : restarted.pidFile = some (.pid 7) ∧ restarted.socket = some 7 ∧
    ∀ other, restarted.processes other = some .serving → other = 7 :=
  one_daemon run_restarted 7 rfl

/-! ## Overlapping starts -/

/-- Two daemons that both look into the PID file before one of them writes it. -/
def overlapping : List (ℕ × ProcessPhase) :=
  [(7, .starting), (8, .starting), (7, .writes), (7, .writing), (7, .binding), (8, .writes),
    (8, .writing), (8, .binding)]

/-- Without a PID file, two daemons that start at the same time both come to serve. -/
theorem two_daemons : ∃ events host, Run HostStep (DaemonHost.idle none none) events host ∧
    host.processes 7 = some .serving ∧ host.processes 8 = some .serving := by
  have turns : EachMeets (fun host move => host.turn move.1 move.2)
      (fun host move => host.processes move.1 = some move.2)
      (((DaemonHost.idle none none).goes 7 (some .starting)).goes 8 (some .starting)) overlapping :=
    ⟨rfl, rfl, rfl, rfl, rfl, rfl, rfl, rfl, trivial⟩
  have spawned (host : DaemonHost) (pid : ℕ) (free : host.processes pid = none) :
      HostStep host (.spawned pid .starting) (host.goes pid (some .starting)) :=
    .spawned free (Or.inl rfl)
  refine ⟨_, _, .cons (spawned _ 7 rfl) (.cons (spawned _ 8 rfl) (turns.run (fun _ => True)
    (fun _ _ _ here => ⟨.turned here, trivial⟩) trivial)), rfl, rfl⟩

end Vcompany.Daemon
