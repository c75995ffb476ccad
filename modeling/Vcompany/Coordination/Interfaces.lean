import Vcompany.Coordination.SyncContext

/-! # Interface changes

`apply_interface_change` writes the contract, then appends the record to the audit trail, which it
has to read and parse for that, and then distributes the files. Nothing takes the first write back:
a trail that cannot be parsed leaves a changed contract without a record. The condition under which
the two files change together or not at all is exact (`applyInterfaceChange_allOrNothing_iff`).
-/

namespace Vcompany.Coordination

open Foundation Shared

inductive ChangeAction where
  | proposed
  | approved
  | rejected
  | applied
  deriving DecidableEq

structure InterfaceChangeRecord where
  timestamp : Text
  agentId : Text
  action : ChangeAction
  description : Text
  diff : Text
  reviewerNote : Text := []
  deriving DecidableEq

structure InterfaceChangeLog where
  project : Text := []
  records : List InterfaceChangeRecord := []
  deriving DecidableEq

/-- `log.records.append(record)`. -/
def InterfaceChangeLog.append (log : InterfaceChangeLog) (record : InterfaceChangeRecord) :
    InterfaceChangeLog :=
  { log with records := log.records ++ [record] }

/-- How a log is read from the bytes of a file, and how it is dumped. -/
structure LogCodec where
  readText : TextReader
  modelValidateJson : Text → Except PyExc InterfaceChangeLog
  modelDumpJson : InterfaceChangeLog → Except PyExc Text

namespace LogCodec

variable (codec : LogCodec)

def parse (data : List UInt8) : Except PyExc InterfaceChangeLog :=
  match codec.readText data with
  | .error raised => .error raised
  | .ok content => codec.modelValidateJson content

/-- The log that a file holds, if it exists. -/
def recorded : Option (List UInt8) → Except PyExc InterfaceChangeLog
  | none => .ok {}
  | some data => codec.parse data

/-- A dumped log is read as the log. -/
def RoundTrips (log : InterfaceChangeLog) : Prop :=
  ∀ content, codec.modelDumpJson log = .ok content → codec.parse (utf8 content) = .ok log

end LogCodec

/-- What a call of `log_interface_change` meets. -/
structure LogTurn where
  existsFault : Option PyExc
  readFault : Option PyExc
  write : WriteTurn

/-- What a call of `apply_interface_change` meets. -/
structure ApplyTurn where
  interfaces : WriteTurn
  log : LogTurn
  sync : SyncTurn

def interfacesPath : ProjectPath := contextPath "INTERFACES.md"

def changesPath : ProjectPath := contextPath "interface_changes.json"

/-- The log to which `log_interface_change` appends. -/
def loadLog (codec : LogCodec) (turn : LogTurn) (files : ProjectFiles) :
    Except PyExc InterfaceChangeLog :=
  match turn.existsFault, files changesPath, turn.readFault with
  | some raised, _, _ => .error raised
  | none, none, _ => .ok {}
  | none, some _, some raised => .error raised
  | none, some data, none => codec.parse data

/-- `log_interface_change`. -/
def logInterfaceChange (codec : LogCodec) (turn : LogTurn) (record : InterfaceChangeRecord)
    (files : ProjectFiles) : ProjectFiles × Except PyExc Unit :=
  match loadLog codec turn files with
  | .error raised => (files, .error raised)
  | .ok log =>
      match codec.modelDumpJson (log.append record) with
      | .error raised => (files, .error raised)
      | .ok content =>
          match writeAtomic turn.write changesPath content files with
          | (files, .error fault) => (files, .error fault.raised)
          | (files, .ok ()) => (files, .ok ())

/-- `apply_interface_change`. -/
def applyInterfaceChange (codec : LogCodec) (turn : ApplyTurn) (agentIds : List Text)
    (newContent : Text) (record : InterfaceChangeRecord) (files : ProjectFiles) :
    ProjectFiles × Except PyExc SyncResult :=
  match writeAtomic turn.interfaces interfacesPath newContent files with
  | (files, .error fault) => (files, .error fault.raised)
  | (files, .ok ()) =>
      match logInterfaceChange codec turn.log record files with
      | (files, .error raised) => (files, .error raised)
      | (files, .ok ()) => syncContextFiles codec.readText turn.sync agentIds files

/-! ## All or nothing -/

/-- A call that raises leaves the contract and the log as they were; one that returns has written
the contract and appended the record. -/
def AllOrNothing (codec : LogCodec) (newContent : Text) (record : InterfaceChangeRecord)
    (before : ProjectFiles) (outcome : ProjectFiles × Except PyExc SyncResult) : Prop :=
  (∀ raised, outcome.2 = .error raised →
    outcome.1 interfacesPath = before interfacesPath ∧
      outcome.1 changesPath = before changesPath) ∧
  ∀ result, outcome.2 = .ok result →
    outcome.1 interfacesPath = some (utf8 newContent) ∧
      ∃ previous log, codec.recorded (before changesPath) = .ok previous ∧
        codec.recorded (outcome.1 changesPath) = .ok log ∧
          log.records = previous.records ++ [record]

/-- The log can be read, the new one dumped and written. -/
def Logs (codec : LogCodec) (turn : LogTurn) (record : InterfaceChangeRecord)
    (files : ProjectFiles) : Prop :=
  turn.write.fault = none ∧ ∃ log content, loadLog codec turn files = .ok log ∧
    codec.modelDumpJson (log.append record) = .ok content

/-- The condition on the files, the record and what the operations meet. The contract cannot be
written; or the record cannot be logged, and the contract has been this already; or the
record can be logged, and the files distributed. -/
def Consistent (codec : LogCodec) (turn : ApplyTurn) (agentIds : List Text) (newContent : Text)
    (record : InterfaceChangeRecord) (files : ProjectFiles) : Prop :=
  turn.interfaces.fault ≠ none ∨
    (¬ Logs codec turn.log record files ∧ files interfacesPath = some (utf8 newContent)) ∨
    (Logs codec turn.log record files ∧ Syncs codec.readText turn.sync agentIds
      (Function.update files interfacesPath (some (utf8 newContent))))

variable {codec : LogCodec} {turn : LogTurn} {record : InterfaceChangeRecord}
  {files : ProjectFiles} {newContent : Text}

theorem allOrNothing_error_iff {after : ProjectFiles} {raised : PyExc} :
    AllOrNothing codec newContent record files (after, .error raised) ↔
      after interfacesPath = files interfacesPath ∧ after changesPath = files changesPath := by
  constructor
  · exact fun consistent => consistent.1 raised rfl
  · exact fun same => ⟨fun _ _ => same, nofun⟩

theorem allOrNothing_ok_iff {after : ProjectFiles} {result : SyncResult} :
    AllOrNothing codec newContent record files (after, .ok result) ↔
      after interfacesPath = some (utf8 newContent) ∧
        ∃ previous log, codec.recorded (files changesPath) = .ok previous ∧
          codec.recorded (after changesPath) = .ok log ∧
            log.records = previous.records ++ [record] := by
  constructor
  · exact fun consistent => consistent.2 result rfl
  · exact fun applied => ⟨nofun, fun _ _ => applied⟩

theorem interfacesPath_kept : Kept interfacesPath where
  context := rfl
  shown := by decide
  notOld := by decide
  notNew := by decide

theorem changesPath_kept : Kept changesPath where
  context := rfl
  shown := by decide
  notOld := by decide
  notNew := by decide

theorem changesPath_ne_interfacesPath : changesPath ≠ interfacesPath := by decide

theorem loadLog_congr {other : ProjectFiles} (same : other changesPath = files changesPath) :
    loadLog codec turn other = loadLog codec turn files := by
  unfold loadLog
  rw [same]

theorem logs_congr {other : ProjectFiles} (same : other changesPath = files changesPath) :
    Logs codec turn record other ↔ Logs codec turn record files := by
  unfold Logs
  rw [loadLog_congr same]

/-- The log that is loaded is the one that the file holds. -/
theorem recorded_of_loadLog {log : InterfaceChangeLog}
    (loaded : loadLog codec turn files = .ok log) :
    codec.recorded (files changesPath) = .ok log := by
  unfold loadLog at loaded
  split at loaded
  · cases loaded
  · next absent =>
      rw [absent]
      exact loaded
  · cases loaded
  · next present _ =>
      rw [present]
      exact loaded

/-- A record that cannot be logged raises, and leaves the files. -/
theorem logInterfaceChange_raises (stuck : ¬ Logs codec turn record files) :
    (∃ raised, (logInterfaceChange codec turn record files).2 = .error raised) ∧
      ∀ path, path.name.head? ≠ some '.' →
        (logInterfaceChange codec turn record files).1 path = files path := by
  unfold logInterfaceChange
  rcases loaded : loadLog codec turn files with raised | log
  · exact ⟨⟨raised, rfl⟩, fun _ _ => rfl⟩
  · dsimp only
    rcases dumped : codec.modelDumpJson (log.append record) with raised | content
    · exact ⟨⟨raised, rfl⟩, fun _ _ => rfl⟩
    · rcases ends : turn.write.fault with _ | fault
      · exact absurd ⟨ends, log, content, loaded, dumped⟩ stuck
      · obtain ⟨raises, target⟩ := @writeAtomic_raised turn.write changesPath content files
          changesPath_kept.shown fault ends
        dsimp only
        rw [raises]
        refine ⟨⟨fault.raised, rfl⟩, fun path shown => ?_⟩
        by_cases own : path = changesPath
        · rw [own]
          exact target
        · exact writeAtomic_of_ne shown own turn.write content files

/-- A record that can be logged is appended, and the other files are left. -/
theorem logInterfaceChange_appends (logs : Logs codec turn record files) :
    ∃ log content, loadLog codec turn files = .ok log ∧
      codec.modelDumpJson (log.append record) = .ok content ∧
        (logInterfaceChange codec turn record files).2 = .ok () ∧
        (logInterfaceChange codec turn record files).1 changesPath = some (utf8 content) ∧
        ∀ path, path.name.head? ≠ some '.' → path ≠ changesPath →
          (logInterfaceChange codec turn record files).1 path = files path := by
  obtain ⟨ends, log, content, loaded, dumped⟩ := logs
  obtain ⟨returns, target⟩ := @writeAtomic_returned turn.write changesPath content files
    changesPath_kept.shown ends
  have others := fun path shown apart =>
    @writeAtomic_of_ne changesPath path shown apart turn.write content files
  unfold logInterfaceChange
  rw [loaded]
  dsimp only
  rw [dumped]
  dsimp only
  rw [returns]
  exact ⟨log, content, rfl, dumped, rfl, target, others⟩

/-- A file does not hold both a log and that log with one more record. -/
theorem ne_of_appended {log : InterfaceChangeLog} {content : Text}
    (roundTrips : ∀ log, codec.RoundTrips log)
    (loaded : codec.recorded (files changesPath) = .ok log)
    (dumped : codec.modelDumpJson (log.append record) = .ok content) :
    some (utf8 content) ≠ files changesPath := by
  intro same
  rw [← same] at loaded
  have appended : codec.parse (utf8 content) = .ok (log.append record) :=
    roundTrips _ content dumped
  have equal := congrArg (fun log => log.records.length)
    (Except.ok.inj (loaded.symm.trans appended))
  simp [InterfaceChangeLog.append] at equal

/-- After the contract and the log have been written: what is distributed, and whether. -/
theorem synced_allOrNothing_iff {turn : SyncTurn} {agentIds : List Text} {logged : ProjectFiles}
    {log : InterfaceChangeLog} {content : Text} (roundTrips : ∀ log, codec.RoundTrips log)
    (recorded : codec.recorded (files changesPath) = .ok log)
    (dumped : codec.modelDumpJson (log.append record) = .ok content)
    (contract : logged interfacesPath = some (utf8 newContent))
    (trail : logged changesPath = some (utf8 content))
    (others : ∀ path, path.name.head? ≠ some '.' → path ≠ interfacesPath → path ≠ changesPath →
      logged path = files path) :
    AllOrNothing codec newContent record files
        (syncContextFiles codec.readText turn agentIds logged) ↔
      Syncs codec.readText turn agentIds
        (Function.update files interfacesPath (some (utf8 newContent))) := by
  have held : ∀ path, path.name.head? ≠ some '.' → path ≠ changesPath →
      logged path = Function.update files interfacesPath (some (utf8 newContent)) path := by
    intro path shown apart
    by_cases own : path = interfacesPath
    · rw [own, Function.update_self]
      exact contract
    · rw [Function.update_of_ne own]
      exact others path shown own apart
  have shown : ∀ name ∈ syncFiles, (contextPath name).name.head? ≠ some '.' := by decide
  have apart : ∀ name ∈ syncFiles, contextPath name ≠ changesPath := by decide
  have same : Syncs codec.readText turn agentIds logged ↔ _ :=
    syncs_congr (held oldPrompt (by decide) (by decide))
      fun name source => held (contextPath name) (shown name source) (apart name source)
  rw [← same, ← syncContextFiles_returns_iff]
  have contractLeft :=
    syncContextFiles_leaves codec.readText turn agentIds logged interfacesPath_kept
  have trailLeft := syncContextFiles_leaves codec.readText turn agentIds logged changesPath_kept
  rw [contract] at contractLeft
  rw [trail] at trailLeft
  rcases synced : syncContextFiles codec.readText turn agentIds logged with
    ⟨after, raised | result⟩ <;> rw [synced] at contractLeft trailLeft
  · refine iff_of_false (fun consistent => ?_) fun ⟨_, returned⟩ => nomatch returned
    have unchanged := allOrNothing_error_iff.mp consistent
    exact ne_of_appended roundTrips recorded dumped (trailLeft.symm.trans unchanged.2)
  · refine iff_of_true (allOrNothing_ok_iff.mpr
      ⟨contractLeft, log, log.append record, recorded, ?_, rfl⟩) ⟨result, rfl⟩
    dsimp only at trailLeft
    rw [trailLeft]
    exact roundTrips _ content dumped

/-- After the contract has been written. -/
theorem applied_allOrNothing_iff {turn : ApplyTurn} {agentIds : List Text} {written : ProjectFiles}
    (roundTrips : ∀ log, codec.RoundTrips log)
    (contract : written interfacesPath = some (utf8 newContent))
    (others : ∀ path, path.name.head? ≠ some '.' → path ≠ interfacesPath →
      written path = files path) :
    AllOrNothing codec newContent record files
        (match logInterfaceChange codec turn.log record written with
          | (files, .error raised) => (files, .error raised)
          | (files, .ok ()) => syncContextFiles codec.readText turn.sync agentIds files) ↔
      (¬ Logs codec turn.log record files ∧ files interfacesPath = some (utf8 newContent)) ∨
        (Logs codec turn.log record files ∧ Syncs codec.readText turn.sync agentIds
          (Function.update files interfacesPath (some (utf8 newContent)))) := by
  have trail : written changesPath = files changesPath :=
    others changesPath changesPath_kept.shown changesPath_ne_interfacesPath
  rw [← @logs_congr codec turn.log record files written trail]
  by_cases logs : Logs codec turn.log record written
  · rw [and_iff_right logs, or_iff_right fun both => both.1 logs]
    obtain ⟨log, content, loaded, dumped, returned, appended, kept⟩ :=
      logInterfaceChange_appends logs
    have recorded := recorded_of_loadLog loaded
    rw [trail] at recorded
    rcases after : logInterfaceChange codec turn.log record written with ⟨logged, result⟩
    rw [after] at returned appended kept
    dsimp only at returned appended kept
    subst returned
    apply synced_allOrNothing_iff roundTrips recorded dumped _ appended
    · intro path shown own apart
      exact (kept path shown apart).trans (others path shown own)
    · exact (kept interfacesPath interfacesPath_kept.shown changesPath_ne_interfacesPath.symm).trans
        contract
  · rw [or_iff_left fun both => logs both.1, and_iff_right logs]
    obtain ⟨⟨raised, raises⟩, left⟩ := logInterfaceChange_raises logs
    have contractLeft := left interfacesPath interfacesPath_kept.shown
    have trailLeft := left changesPath changesPath_kept.shown
    rcases after : logInterfaceChange codec turn.log record written with ⟨logged, result⟩
    rw [after] at raises contractLeft trailLeft
    dsimp only at raises contractLeft trailLeft
    subst raises
    dsimp only
    rw [allOrNothing_error_iff, contractLeft, contract, trailLeft, trail, and_iff_left rfl]
    exact eq_comm

/-- **Interface changes.** A change is applied to the contract and its audit trail, or to neither,
exactly under the condition. -/
theorem applyInterfaceChange_allOrNothing_iff (codec : LogCodec) (turn : ApplyTurn)
    (agentIds : List Text) (newContent : Text) (record : InterfaceChangeRecord)
    (files : ProjectFiles) (roundTrips : ∀ log, codec.RoundTrips log) :
    AllOrNothing codec newContent record files
        (applyInterfaceChange codec turn agentIds newContent record files) ↔
      Consistent codec turn agentIds newContent record files := by
  have others : ∀ path, path.name.head? ≠ some '.' → path ≠ interfacesPath →
      (writeAtomic turn.interfaces interfacesPath newContent files).1 path = files path :=
    fun path shown apart => writeAtomic_of_ne shown apart turn.interfaces newContent files
  unfold applyInterfaceChange Consistent
  rcases ends : turn.interfaces.fault with _ | fault
  · obtain ⟨returns, contract⟩ := @writeAtomic_returned turn.interfaces interfacesPath newContent
      files interfacesPath_kept.shown ends
    rw [returns, or_iff_right fun fails => fails rfl]
    exact applied_allOrNothing_iff roundTrips contract others
  · obtain ⟨raises, contract⟩ := @writeAtomic_raised turn.interfaces interfacesPath newContent
      files interfacesPath_kept.shown fault ends
    rw [raises]
    have trail := others changesPath changesPath_kept.shown changesPath_ne_interfacesPath
    refine iff_of_true (allOrNothing_error_iff.mpr ⟨contract, trail⟩) (.inl ?_)
    exact Option.some_ne_none fault

/-! ## A first change -/

def appliedRecord : InterfaceChangeRecord where
  timestamp := "2026-03-25T12:00:00Z"
  agentId := "agent-a"
  action := .applied
  description := "Add new endpoint"
  diff := "+GET /api/v2/status"

/-- The dumped log with that record. -/
def appliedDump : Text :=
  List.intercalate ['\n'] ([
    "\x7b",
    "  \"project\": \"\",",
    "  \"records\": [",
    "    \x7b",
    "      \"timestamp\": \"2026-03-25T12:00:00Z\",",
    "      \"agent_id\": \"agent-a\",",
    "      \"action\": \"applied\",",
    "      \"description\": \"Add new endpoint\",",
    "      \"diff\": \"+GET /api/v2/status\",",
    "      \"reviewer_note\": \"\"",
    "    \x7d",
    "  ]",
    "\x7d"] : List Text)

/-- `read_text`, on ASCII without a carriage return. -/
def readAscii (data : List UInt8) : Except PyExc Text :=
  if data.all fun octet => octet < 128 && octet != 13 then
    .ok (data.map fun octet => Char.ofNat octet.toNat)
  else .error .valueError

/-- The codec, on the log with that record. -/
def appliedCodec : LogCodec where
  readText := readAscii
  modelValidateJson content :=
    if content = appliedDump then .ok (InterfaceChangeLog.append {} appliedRecord)
    else .error .valueError
  modelDumpJson log :=
    if log = InterfaceChangeLog.append {} appliedRecord then .ok appliedDump
    else .error .valueError

private theorem appliedCodec_readText : appliedCodec.readText = readAscii := rfl

private theorem appliedCodec_dumps :
    appliedCodec.modelDumpJson (InterfaceChangeLog.append {} appliedRecord) = .ok appliedDump := by
  unfold appliedCodec
  dsimp only
  rw [if_pos rfl]

private theorem appliedCodec_validates :
    appliedCodec.modelValidateJson appliedDump =
      .ok (InterfaceChangeLog.append {} appliedRecord) := by
  unfold appliedCodec
  dsimp only
  rw [if_pos rfl]

private theorem readAscii_appliedDump : readAscii (utf8 appliedDump) = .ok appliedDump := by
  decide +kernel

private theorem appliedCodec_roundTrips (log : InterfaceChangeLog) :
    appliedCodec.RoundTrips log := by
  intro content dumped
  by_cases same : log = InterfaceChangeLog.append {} appliedRecord
  · rw [same] at dumped ⊢
    rw [appliedCodec_dumps] at dumped
    obtain rfl := Except.ok.inj dumped
    unfold LogCodec.parse
    rw [appliedCodec_readText, readAscii_appliedDump]
    exact appliedCodec_validates
  · unfold appliedCodec at dumped
    dsimp only at dumped
    rw [if_neg same] at dumped
    cases dumped

/-- Every operation succeeds, and there is the agent's clone. -/
def calmTurn : ApplyTurn where
  interfaces := ⟨"a1b2c3d4", none⟩
  log := ⟨none, none, ⟨"e5f6a7b8", none⟩⟩
  sync :=
    { projectDir := "/home/user/project"
      existsFault := none
      renameFault := none
      pmContext := none
      pmWrite := ⟨"c9d0e1f2", none⟩
      sourceFault := fun _ => none
      isDir := fun _ => .ok true
      cloneWrite := fun _ _ => ⟨"a3b4c5d6", none⟩ }

/-- A project with a contract, and a log if there is one. -/
def contractFiles (log : Option (List UInt8)) : ProjectFiles :=
  Function.update (fun path => if path = interfacesPath then some (utf8 "old") else none)
    changesPath log

private theorem readAscii_new : readAscii (utf8 "new") = .ok "new".toList := by decide +kernel

theorem first_change_applied :
    AllOrNothing appliedCodec "new" appliedRecord (contractFiles none)
      (applyInterfaceChange appliedCodec calmTurn ["agent-a"] "new" appliedRecord
        (contractFiles none)) := by
  have logs : Logs appliedCodec calmTurn.log appliedRecord (contractFiles none) :=
    ⟨rfl, {}, appliedDump, rfl, appliedCodec_dumps⟩
  have reads : ∀ name ∈ syncFiles, Reads appliedCodec.readText calmTurn.sync
      (Function.update (contractFiles none) interfacesPath (some (utf8 "new"))) name := by
    have held : ∀ name ∈ syncFiles, ∀ data ∈ sourceData calmTurn.sync
        (Function.update (contractFiles none) interfacesPath (some (utf8 "new"))) name,
          data = utf8 "new" := by
      decide +kernel
    intro name source
    refine ⟨rfl, fun data present => ⟨"new", ?_⟩⟩
    rw [held name source data present]
    exact readAscii_new
  have consistent : Consistent appliedCodec calmTurn ["agent-a"] "new" appliedRecord
      (contractFiles none) :=
    .inr (.inr ⟨logs, ⟨rfl, fun _ _ => rfl⟩, reads, fun _ _ => ⟨true, rfl⟩⟩)
  exact (applyInterfaceChange_allOrNothing_iff appliedCodec calmTurn ["agent-a"] "new"
    appliedRecord (contractFiles none) appliedCodec_roundTrips).mpr consistent

/-- The log that cannot be parsed. -/
def cutOffLog : List UInt8 := utf8 "\x7b"

/-- A log that cannot be parsed leaves the contract changed. -/
theorem unparsable_log_not_allOrNothing :
    ¬ ∀ (codec : LogCodec) (turn : ApplyTurn) (agentIds : List Text) (newContent : Text)
      (record : InterfaceChangeRecord) (files : ProjectFiles),
      (∀ log, codec.RoundTrips log) →
        AllOrNothing codec newContent record files
          (applyInterfaceChange codec turn agentIds newContent record files) := by
  intro claim
  have consistent := claim appliedCodec calmTurn ["agent-a"] "new" appliedRecord
    (contractFiles (some cutOffLog)) appliedCodec_roundTrips
  have raised : (applyInterfaceChange appliedCodec calmTurn ["agent-a"] "new" appliedRecord
      (contractFiles (some cutOffLog))).2 = .error .valueError := by
    decide +kernel
  have unchanged := (consistent.1 _ raised).1
  exact absurd unchanged (by decide +kernel)

end Vcompany.Coordination
