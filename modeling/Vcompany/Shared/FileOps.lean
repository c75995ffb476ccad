import Vcompany.Foundation.FileSteps
import Vcompany.Foundation.PyValue

/-! # Atomic file writes

`write_atomic` writes a temporary file in the directory of its target and renames it. A call may
fail behind any of its steps: the target then holds what it held (`writeAtomic_raised`).
-/

namespace Vcompany.Shared

open Foundation

/-- A file of a project: the directories that lead to it, and its name. -/
structure ProjectPath where
  directory : List Text
  name : Text
  deriving DecidableEq

/-- The bytes of the files of a project that exist. -/
abbrev ProjectFiles := Files ProjectPath UInt8

/-- `content.encode("utf-8")`. -/
def utf8 (content : Text) : List UInt8 := content.flatMap String.utf8EncodeChar

/-- A call fails behind this many of its steps, with an exception and its text. The temporary file
is unlinked, or stays where that fails too. -/
structure WriteFault where
  behind : ℕ
  raised : PyExc
  text : Text
  unlinks : Bool

/-- What a call of `write_atomic` meets: the characters that `mkstemp` chooses, and a failure. -/
structure WriteTurn where
  chosen : Text
  fault : Option WriteFault

/-- The name that `mkstemp` makes. -/
def tmpPath (path : ProjectPath) (chosen : Text) : ProjectPath :=
  { path with name := ("." : Text) ++ path.name ++ ("." : Text) ++ chosen ++ (".tmp" : Text) }

/-- The steps of `write_atomic`; the file is written byte by byte. -/
def atomicSteps (turn : WriteTurn) (path : ProjectPath) (content : Text) :
    List (FileStep ProjectPath UInt8) :=
  FileStep.replace path (tmpPath path turn.chosen) ((utf8 content).map fun octet => [octet])

/-- The handler of `write_atomic`, once there is a temporary file. -/
def cleanUp (fault : WriteFault) (tmp : ProjectPath) (files : ProjectFiles) : ProjectFiles :=
  if 2 ≤ fault.behind ∧ fault.unlinks then Function.update files tmp none else files

/-- `write_atomic`. -/
def writeAtomic (turn : WriteTurn) (path : ProjectPath) (content : Text) (files : ProjectFiles) :
    ProjectFiles × Except WriteFault Unit :=
  let steps := atomicSteps turn path content
  match turn.fault with
  | none => (FileStep.crash steps files steps.length, .ok ())
  | some fault =>
      let left := FileStep.crash steps files (min fault.behind (steps.length - 1))
      (cleanUp fault (tmpPath path turn.chosen) left, .error fault)

variable {turn : WriteTurn} {path other : ProjectPath} {content : Text} {files : ProjectFiles}

/-- Two names are apart when one is hidden and the other is not. -/
theorem ne_tmpPath (shown : other.name.head? ≠ some '.') (path : ProjectPath) (chosen : Text) :
    other ≠ tmpPath path chosen := by
  rintro rfl
  exact shown rfl

theorem cleanUp_of_ne (fault : WriteFault) {tmp : ProjectPath} (apart : other ≠ tmp) :
    cleanUp fault tmp files other = files other := by
  unfold cleanUp
  split
  · exact Function.update_of_ne apart _ _
  · rfl

theorem flatten_octets (content : Text) :
    ((utf8 content).map fun octet => [octet]).flatten = utf8 content := by
  rw [← List.flatMap_def]
  exact List.flatMap_singleton' (utf8 content)

/-- A call that returns has put the content in its place. -/
theorem writeAtomic_returned (shown : path.name.head? ≠ some '.') (succeeds : turn.fault = none) :
    writeAtomic turn path content files = ((writeAtomic turn path content files).1, .ok ()) ∧
      (writeAtomic turn path content files).1 path = some (utf8 content) := by
  unfold writeAtomic
  rw [succeeds]
  refine ⟨rfl, ?_⟩
  dsimp only
  unfold atomicSteps
  rw [FileStep.crash_replace (ne_tmpPath shown path turn.chosen), if_neg, flatten_octets]
  simp [FileStep.replace, FileStep.length_write]

/-- A call that raises leaves its target. -/
theorem writeAtomic_raised (shown : path.name.head? ≠ some '.') {fault : WriteFault}
    (fails : turn.fault = some fault) :
    writeAtomic turn path content files =
        ((writeAtomic turn path content files).1, .error fault) ∧
      (writeAtomic turn path content files).1 path = files path := by
  unfold writeAtomic
  rw [fails]
  refine ⟨rfl, ?_⟩
  dsimp only
  rw [cleanUp_of_ne fault (ne_tmpPath shown path turn.chosen)]
  unfold atomicSteps
  rw [FileStep.crash_replace (ne_tmpPath shown path turn.chosen), if_pos]
  apply (Nat.min_le_right _ _).trans
  simp [FileStep.replace, FileStep.length_write]

/-- A call leaves the other files that are not hidden. -/
theorem writeAtomic_of_ne (shown : other.name.head? ≠ some '.') (apart : other ≠ path)
    (turn : WriteTurn) (content : Text) (files : ProjectFiles) :
    (writeAtomic turn path content files).1 other = files other := by
  have away := ne_tmpPath shown path turn.chosen
  unfold writeAtomic
  split
  · exact FileStep.crash_replace_of_ne apart away _ _
  · dsimp only
    rw [cleanUp_of_ne _ away]
    exact FileStep.crash_replace_of_ne apart away _ _

end Vcompany.Shared
