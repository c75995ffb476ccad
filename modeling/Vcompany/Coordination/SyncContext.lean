import Vcompany.Shared.FileOps

/-! # Distributing the context files

`sync_context_files` renames an old prompt file, has `PM-CONTEXT.md` written, reads the source
files and copies them to the clones. It is known here by what its file operations meet; what
`build_pm_context` assembles is taken as it is. It changes two files of the `context` directory
(`syncContextFiles_leaves`), and raises exactly where it cannot rename, read or look for a clone
(`syncContextFiles_returns_iff`).
-/

namespace Vcompany.Coordination

open Foundation Shared

/-- `SYNC_FILES`. -/
def syncFiles : List Text := ["INTERFACES.md", "MILESTONE-SCOPE.md", "PM-CONTEXT.md"]

structure SyncResult where
  clonesUpdated : ℕ := 0
  filesSynced : ℕ := 0
  errors : List Text := []
  deriving DecidableEq

def contextPath (name : Text) : ProjectPath := ⟨["context"], name⟩

/-- A file of an agent's clone. The validator of the id lets no separator through. -/
def clonePath (agentId name : Text) : ProjectPath := ⟨["clones", agentId], name⟩

def oldPrompt : ProjectPath := contextPath "STRATEGIST-PROMPT.md"

def newPrompt : ProjectPath := contextPath "PM-CONTEXT.md"

/-- `read_text`, on the bytes of a file. -/
abbrev TextReader := List UInt8 → Except PyExc Text

/-- What a call of `sync_context_files` meets. -/
structure SyncTurn where
  projectDir : Text
  /-- `exists` raises for one of the prompt files. -/
  existsFault : Option PyExc
  renameFault : Option PyExc
  /-- What `build_pm_context` returns, unless it raises or cannot be imported. -/
  pmContext : Option Text
  pmWrite : WriteTurn
  /-- `exists` or `read_text` raises for a source file, whatever it holds. -/
  sourceFault : Text → Option PyExc
  isDir : Text → Except PyExc Bool
  cloneWrite : Text → Text → WriteTurn

/-- The old prompt file is renamed if there is no new one. -/
def renamePrompt (turn : SyncTurn) (files : ProjectFiles) : ProjectFiles × Except PyExc Unit :=
  match turn.existsFault with
  | some raised => (files, .error raised)
  | none =>
      if files oldPrompt ≠ none ∧ files newPrompt = none then
        match turn.renameFault with
        | some raised => (files, .error raised)
        | none => (FileStep.perform files (.rename oldPrompt newPrompt), .ok ())
      else (files, .ok ())

/-- `write_pm_context`, whose exceptions are caught. -/
def writePmContext (turn : SyncTurn) (files : ProjectFiles) : ProjectFiles :=
  match turn.pmContext with
  | none => files
  | some content => (writeAtomic turn.pmWrite newPrompt content files).1

def readSource (readText : TextReader) (turn : SyncTurn) (files : ProjectFiles) (name : Text) :
    Except PyExc (Option (Text × Text)) :=
  match turn.sourceFault name, files (contextPath name) with
  | some raised, _ => .error raised
  | none, none => .ok none
  | none, some data => (readText data).map fun content => some (name, content)

/-- The source files that exist, with their texts. -/
def readSources (readText : TextReader) (turn : SyncTurn) (files : ProjectFiles) :
    List Text → Except PyExc (List (Text × Text))
  | [] => .ok []
  | name :: names =>
      match readSource readText turn files name, readSources readText turn files names with
      | .error raised, _ => .error raised
      | .ok _, .error raised => .error raised
      | .ok source, .ok sources => .ok (source.toList ++ sources)

/-- A source file is copied to a clone. -/
def syncFile (turn : SyncTurn) (agentId : Text) (state : ProjectFiles × SyncResult × Bool)
    (source : Text × Text) : ProjectFiles × SyncResult × Bool :=
  match writeAtomic (turn.cloneWrite agentId source.1) (clonePath agentId source.1) source.2
      state.1 with
  | (files, .ok ()) => (files, { state.2.1 with filesSynced := state.2.1.filesSynced + 1 }, true)
  | (files, .error fault) =>
      (files, { state.2.1 with
        errors := state.2.1.errors ++ [("Failed to sync " : Text) ++ source.1 ++ (" to " : Text) ++
          agentId ++ (": " : Text) ++ fault.text] }, state.2.2)

/-- The loop over the agents. -/
def syncAgents (turn : SyncTurn) (sources : List (Text × Text)) :
    List Text → ProjectFiles → SyncResult → ProjectFiles × Except PyExc SyncResult
  | [], files, result => (files, .ok result)
  | agentId :: agentIds, files, result =>
      match turn.isDir agentId with
      | .error raised => (files, .error raised)
      | .ok false =>
          syncAgents turn sources agentIds files { result with
            errors := result.errors ++ [("Clone directory missing for " : Text) ++ agentId ++
              (": " : Text) ++ turn.projectDir ++ ("/clones/" : Text) ++ agentId] }
      | .ok true =>
          let (files, result, cloneSynced) :=
            sources.foldl (syncFile turn agentId) (files, result, false)
          syncAgents turn sources agentIds files
            (if cloneSynced then { result with clonesUpdated := result.clonesUpdated + 1 }
            else result)

/-- `sync_context_files`. -/
def syncContextFiles (readText : TextReader) (turn : SyncTurn) (agentIds : List Text)
    (files : ProjectFiles) : ProjectFiles × Except PyExc SyncResult :=
  match renamePrompt turn files with
  | (files, .error raised) => (files, .error raised)
  | (files, .ok ()) =>
      match readSources readText turn (writePmContext turn files) syncFiles with
      | .error raised => (writePmContext turn files, .error raised)
      | .ok sources => syncAgents turn sources agentIds (writePmContext turn files) {}

/-! ## What it leaves alone -/

variable {turn : SyncTurn} {files : ProjectFiles} {path : ProjectPath} {agentId name : Text}

/-- A file of the `context` directory that is none of the two prompt files, nor hidden. -/
structure Kept (path : ProjectPath) : Prop where
  context : path.directory = ["context".toList]
  shown : path.name.head? ≠ some '.'
  notOld : path ≠ oldPrompt
  notNew : path ≠ newPrompt

theorem Kept.ne_clonePath (kept : Kept path) (agentId name : Text) :
    path ≠ clonePath agentId name := by
  rintro rfl
  have same : 2 = 1 := congrArg List.length kept.context
  exact absurd same (by decide)

theorem renamePrompt_leaves (turn : SyncTurn) (files : ProjectFiles) (kept : Kept path) :
    (renamePrompt turn files).1 path = files path := by
  unfold renamePrompt
  split
  · rfl
  · split
    · split
      · rfl
      · exact (Function.update_of_ne kept.notOld _ _).trans
          (Function.update_of_ne kept.notNew _ _)
    · rfl

theorem writePmContext_leaves (turn : SyncTurn) (files : ProjectFiles)
    (shown : path.name.head? ≠ some '.') (other : path ≠ newPrompt) :
    writePmContext turn files path = files path := by
  unfold writePmContext
  rcases turn.pmContext with _ | content
  · rfl
  · exact writeAtomic_of_ne shown other _ _ _

theorem syncFile_leaves (turn : SyncTurn) (agentId : Text)
    (state : ProjectFiles × SyncResult × Bool) (source : Text × Text) (kept : Kept path) :
    (syncFile turn agentId state source).1 path = state.1 path := by
  have written := writeAtomic_of_ne kept.shown (kept.ne_clonePath agentId source.1)
    (turn.cloneWrite agentId source.1) source.2 state.1
  unfold syncFile
  split
  · next after => rw [after] at written; exact written
  · next after => rw [after] at written; exact written

theorem foldl_syncFile_leaves (turn : SyncTurn) (agentId : Text) (sources : List (Text × Text))
    (kept : Kept path) (state : ProjectFiles × SyncResult × Bool) :
    (sources.foldl (syncFile turn agentId) state).1 path = state.1 path := by
  induction sources generalizing state with
  | nil => rfl
  | cons source sources ih =>
      rw [List.foldl_cons, ih]
      exact syncFile_leaves turn agentId state source kept

theorem syncAgents_leaves (turn : SyncTurn) (sources : List (Text × Text)) (kept : Kept path) :
    ∀ (agentIds : List Text) (files : ProjectFiles) (result : SyncResult),
      (syncAgents turn sources agentIds files result).1 path = files path
  | [], _, _ => rfl
  | agentId :: agentIds, files, result => by
      rw [syncAgents]
      split
      · rfl
      · exact syncAgents_leaves turn sources kept agentIds files _
      · exact (syncAgents_leaves turn sources kept agentIds _ _).trans
          (foldl_syncFile_leaves turn agentId sources kept (files, result, false))

/-- The other files of the `context` directory are left alone. -/
theorem syncContextFiles_leaves (readText : TextReader) (turn : SyncTurn) (agentIds : List Text)
    (files : ProjectFiles) (kept : Kept path) :
    (syncContextFiles readText turn agentIds files).1 path = files path := by
  have renamed := renamePrompt_leaves turn files kept
  have written := writePmContext_leaves turn (renamePrompt turn files).1 kept.shown kept.notNew
  unfold syncContextFiles
  rcases after : renamePrompt turn files with ⟨next, raised | _⟩
  · rw [after] at renamed
    exact renamed
  · rw [after] at renamed written
    dsimp only at renamed written ⊢
    split
    · exact written.trans renamed
    · exact (syncAgents_leaves turn _ kept agentIds _ _).trans (written.trans renamed)

/-! ## Where it raises -/

/-- The prompt files can be looked for, and the old one can be renamed if it has to be. -/
def Renames (turn : SyncTurn) (files : ProjectFiles) : Prop :=
  turn.existsFault = none ∧
    (files oldPrompt ≠ none → files newPrompt = none → turn.renameFault = none)

/-- What a source file holds when it is read. -/
def sourceData (turn : SyncTurn) (files : ProjectFiles) (name : Text) : Option (List UInt8) :=
  if contextPath name = newPrompt then
    match turn.pmContext, turn.pmWrite.fault with
    | some content, none => some (utf8 content)
    | _, _ => (files newPrompt).or (files oldPrompt)
  else files (contextPath name)

/-- A source file is read, if it exists. -/
def Reads (readText : TextReader) (turn : SyncTurn) (files : ProjectFiles) (name : Text) : Prop :=
  turn.sourceFault name = none ∧
    ∀ data ∈ sourceData turn files name, ∃ content, readText data = .ok content

/-- The prompt file is renamed, the source files are read, and the clones are looked for, without
an exception. -/
structure Syncs (readText : TextReader) (turn : SyncTurn) (agentIds : List Text)
    (files : ProjectFiles) : Prop where
  renames : Renames turn files
  reads : ∀ name ∈ syncFiles, Reads readText turn files name
  finds : ∀ agentId ∈ agentIds, ∃ there, turn.isDir agentId = .ok there

theorem renamePrompt_returns_iff (turn : SyncTurn) (files : ProjectFiles) :
    (renamePrompt turn files).2 = .ok () ↔ Renames turn files := by
  unfold renamePrompt Renames
  rcases turn.existsFault with _ | raised
  · rw [and_iff_right rfl]
    dsimp only
    split
    · next needed =>
        rw [forall_prop_of_true needed.1, forall_prop_of_true needed.2]
        rcases turn.renameFault with _ | raised
        · exact iff_of_true rfl rfl
        · refine iff_of_false (fun returned => ?_) (Option.some_ne_none raised)
          cases returned
    · next idle => exact iff_of_true rfl fun old absent => absurd ⟨old, absent⟩ idle
  · refine iff_of_false (fun returned => ?_) fun renames => Option.some_ne_none raised renames.1
    cases returned

/-- After the renaming there is the new prompt file, or the old one in its place. -/
theorem renamePrompt_newPrompt (renames : Renames turn files) :
    (renamePrompt turn files).1 newPrompt = (files newPrompt).or (files oldPrompt) := by
  obtain ⟨exists_, renames⟩ := renames
  unfold renamePrompt
  rw [exists_]
  dsimp only
  split
  · next needed =>
      rw [renames needed.1 needed.2, needed.2, Option.none_or]
      have apart : newPrompt ≠ oldPrompt := by decide
      dsimp only
      rw [FileStep.perform, Function.update_of_ne apart, Function.update_self]
  · next idle =>
      rcases new : files newPrompt with _ | data
      · have old : files oldPrompt = none := by
          by_contra there
          exact idle ⟨there, new⟩
        rw [old, Option.or_none]
        exact new
      · rw [Option.some_or]
        exact new

/-- What the source files hold once the prompt files are prepared. -/
theorem prepared_eq_sourceData (renames : Renames turn files) (source : name ∈ syncFiles) :
    writePmContext turn (renamePrompt turn files).1 (contextPath name) =
      sourceData turn files name := by
  unfold sourceData
  split
  · next same =>
      rw [same]
      unfold writePmContext
      rcases turn.pmContext with _ | content
      · exact renamePrompt_newPrompt renames
      · have shown : newPrompt.name.head? ≠ some '.' := by decide
        rcases ends : turn.pmWrite.fault with _ | fault
        · exact (writeAtomic_returned shown ends).2
        · exact (writeAtomic_raised shown ends).2.trans (renamePrompt_newPrompt renames)
  · next other =>
      have shown : ∀ name ∈ syncFiles, name.head? ≠ some '.' := by decide
      have notOld : ∀ name ∈ syncFiles, contextPath name ≠ oldPrompt := by decide
      rw [writePmContext_leaves turn _ (shown name source) other]
      exact renamePrompt_leaves turn files ⟨rfl, shown name source, notOld name source, other⟩

theorem readSources_returns_iff (readText : TextReader) (turn : SyncTurn) (files : ProjectFiles)
    (names : List Text) :
    (∃ sources, readSources readText turn files names = .ok sources) ↔
      ∀ name ∈ names, turn.sourceFault name = none ∧
        ∀ data ∈ files (contextPath name), ∃ content, readText data = .ok content := by
  induction names with
  | nil => exact iff_of_true ⟨[], rfl⟩ nofun
  | cons name names ih =>
      rw [List.forall_mem_cons, ← ih, readSources]
      unfold readSource
      rcases turn.sourceFault name with _ | raised
      · rcases files (contextPath name) with _ | data
        · rcases readSources readText turn files names with raised | sources <;> simp
        · rcases read : readText data with raised | content
          · simp [Except.map, read]
          · rcases readSources readText turn files names with raised | sources <;>
              simp [Except.map, read]
      · simp

theorem syncAgents_returns_iff (turn : SyncTurn) (sources : List (Text × Text)) :
    ∀ (agentIds : List Text) (files : ProjectFiles) (result : SyncResult),
      (∃ last, (syncAgents turn sources agentIds files result).2 = .ok last) ↔
        ∀ agentId ∈ agentIds, ∃ there, turn.isDir agentId = .ok there
  | [], _, result => iff_of_true ⟨result, rfl⟩ nofun
  | agentId :: agentIds, files, result => by
      rw [List.forall_mem_cons, syncAgents]
      rcases found : turn.isDir agentId with raised | _ | _
      · simp
      · dsimp only
        rw [syncAgents_returns_iff turn sources agentIds]
        simp
      · dsimp only
        rw [syncAgents_returns_iff turn sources agentIds]
        simp

/-- It returns exactly if nothing that it does not catch is raised. -/
theorem syncContextFiles_returns_iff (readText : TextReader) (turn : SyncTurn)
    (agentIds : List Text) (files : ProjectFiles) :
    (∃ result, (syncContextFiles readText turn agentIds files).2 = .ok result) ↔
      Syncs readText turn agentIds files := by
  have renamed := renamePrompt_returns_iff turn files
  unfold syncContextFiles
  rcases after : renamePrompt turn files with ⟨next, raised | _⟩
  · rw [after] at renamed
    refine iff_of_false (fun ⟨_, returned⟩ => nomatch returned) fun syncs => ?_
    exact nomatch renamed.mpr syncs.renames
  · rw [after] at renamed
    have renames : Renames turn files := renamed.mp rfl
    have held : ∀ name ∈ syncFiles, writePmContext turn next (contextPath name) =
        sourceData turn files name := by
      intro name source
      rw [← prepared_eq_sourceData renames source, after]
    have reads := readSources_returns_iff readText turn (writePmContext turn next) syncFiles
    have same : (∀ name ∈ syncFiles, turn.sourceFault name = none ∧
        ∀ data ∈ writePmContext turn next (contextPath name),
          ∃ content, readText data = .ok content) ↔
        ∀ name ∈ syncFiles, Reads readText turn files name := by
      apply forall₂_congr
      intro name source
      rw [held name source]
      rfl
    rw [same] at reads
    dsimp only
    rcases read : readSources readText turn (writePmContext turn next) syncFiles with
      raised | sources
    · rw [read] at reads
      refine iff_of_false (fun ⟨_, returned⟩ => nomatch returned) fun syncs => ?_
      obtain ⟨_, returned⟩ := reads.mpr syncs.reads
      exact nomatch returned
    · rw [read] at reads
      dsimp only
      rw [syncAgents_returns_iff]
      exact ⟨fun finds => ⟨renames, reads.mp ⟨sources, rfl⟩, finds⟩, fun syncs => syncs.finds⟩

/-- Files that hold the same in the `context` directory are distributed alike. -/
theorem syncs_congr {readText : TextReader} {agentIds : List Text} {other : ProjectFiles}
    (old : other oldPrompt = files oldPrompt)
    (same : ∀ name ∈ syncFiles, other (contextPath name) = files (contextPath name)) :
    Syncs readText turn agentIds other ↔ Syncs readText turn agentIds files := by
  have new : other newPrompt = files newPrompt := same "PM-CONTEXT.md".toList (by decide)
  have renames : Renames turn other ↔ Renames turn files := by
    unfold Renames
    rw [old, new]
  have reads : (∀ name ∈ syncFiles, Reads readText turn other name) ↔
      ∀ name ∈ syncFiles, Reads readText turn files name := by
    apply forall₂_congr
    intro name source
    unfold Reads sourceData
    rw [same name source, old, new]
  constructor
  · exact fun syncs => ⟨renames.mp syncs.renames, reads.mp syncs.reads, syncs.finds⟩
  · exact fun syncs => ⟨renames.mpr syncs.renames, reads.mpr syncs.reads, syncs.finds⟩

end Vcompany.Coordination
