import Vcompany.Foundation.Simulation
import Vcompany.Shared.FileOps

/-! # Concurrent atomic writes

Any number of calls of `write_atomic` run at once, in any number of processes. Each makes a
temporary file of its own, fills it bit by bit, and renames it; it may raise behind any of its
steps, or its process may be killed. Whatever the interleaving, a target always holds all of the
content that was renamed to it last: so the calls behave like writes of a register, each at the
moment of its rename, and those that return are exactly those that were renamed
(`writes_atomic`). No temporary file is left by a call that has returned, or that could unlink it.
-/

namespace Vcompany.Shared

open Foundation

/-- How far a call of `write_atomic` is. A call that has raised, or was killed, may leave its
temporary file. -/
inductive WritePhase where
  | begun
  | writing (tmp : ProjectPath) (remaining : List UInt8)
  | failing (tmp : ProjectPath)
  | returned
  | raised (left : Option ProjectPath)
  | killed (left : Option ProjectPath)
  deriving DecidableEq

structure WriteCall where
  path : ProjectPath
  content : Text
  phase : WritePhase

/-- What happens to a call. -/
inductive WriteEvent where
  /-- `mkstemp` chooses characters for a name that is free. -/
  | creates (chosen : Text)
  /-- There is no directory or no temporary file to be had. -/
  | refused
  | writes (count : ℕ)
  | renames
  /-- A write or the rename raises. -/
  | fails
  | unlinks (done : Bool)
  | dies

namespace WriteCall

/-- The temporary file that the call works on. -/
def owned (call : WriteCall) : Option ProjectPath :=
  match call.phase with
  | .writing tmp _ => some tmp
  | .failing tmp => some tmp
  | _ => none

/-- The temporary file that the call has left behind. -/
def leftover (call : WriteCall) : Option ProjectPath :=
  match call.phase with
  | .raised left => left
  | .killed left => left
  | _ => none

/-- A step of `write_atomic`, with what it does to the files. -/
def next (files : ProjectFiles) (call : WriteCall) (event : WriteEvent) :
    Option (ProjectFiles × WriteCall) :=
  match call.phase, event with
  | .begun, .creates chosen =>
      let tmp := tmpPath call.path chosen
      if files tmp = none then
        some (FileStep.perform files (.truncate tmp),
          { call with phase := .writing tmp (utf8 call.content) })
      else none
  | .begun, .refused => some (files, { call with phase := .raised none })
  | .begun, .dies => some (files, { call with phase := .killed none })
  | .writing tmp remaining, .writes count =>
      some (FileStep.perform files (.append tmp (remaining.take count)),
        { call with phase := .writing tmp (remaining.drop count) })
  | .writing tmp [], .renames =>
      some (FileStep.perform files (.rename tmp call.path), { call with phase := .returned })
  | .writing tmp _, .fails => some (files, { call with phase := .failing tmp })
  | .writing tmp _, .dies => some (files, { call with phase := .killed (some tmp) })
  | .failing tmp, .unlinks done =>
      if done then some (Function.update files tmp none, { call with phase := .raised none })
      else some (files, { call with phase := .raised (some tmp) })
  | .failing tmp, .dies => some (files, { call with phase := .killed (some tmp) })
  | _, _ => none

end WriteCall

/-- The files of a project, the calls of `write_atomic`, and the calls that have renamed their
file, in that order. -/
structure Disk where
  files : ProjectFiles
  calls : ℕ → Option WriteCall
  renamed : List ℕ

inductive DiskEvent where
  | calls (number : ℕ) (path : ProjectPath) (content : Text)
  | acts (number : ℕ) (event : WriteEvent)

namespace Disk

def init (files : ProjectFiles) : Disk where
  files := files
  calls _ := none
  renamed := []

/-- A call has taken a step. -/
def put (number : ℕ) (files : ProjectFiles) (call : WriteCall) (disk : Disk) : Disk where
  files := files
  calls := Function.update disk.calls number (some call)
  renamed := if call.phase = .returned then disk.renamed ++ [number] else disk.renamed

def next (disk : Disk) : DiskEvent → Option Disk
  | .calls number path content =>
      match disk.calls number with
      | none => some { disk with
          calls := Function.update disk.calls number (some ⟨path, content, .begun⟩) }
      | some _ => none
  | .acts number event =>
      match disk.calls number with
      | none => none
      | some call =>
          (call.next disk.files event).map fun (files, call) => disk.put number files call

def Step (disk : Disk) (event : DiskEvent) (later : Disk) : Prop := disk.next event = some later

end Disk

/-- The name is one that `mkstemp` may choose. -/
def Temporary (path : ProjectPath) : Prop := ∃ base chosen, path = tmpPath base chosen

/-- The condition on an event: no call has a temporary file as its target. -/
def Proper : DiskEvent → Prop
  | .calls _ path _ => ¬ Temporary path
  | .acts _ _ => True

/-! ## One call -/

namespace WriteCall

variable {files after : ProjectFiles} {call later : WriteCall} {event : WriteEvent}
  {path tmp : ProjectPath}

/-- What a call relies on: its temporary file holds what it has written of the content. -/
structure Holds (files : ProjectFiles) (call : WriteCall) : Prop where
  proper : ¬ Temporary call.path
  temporary : ∀ tmp, call.owned = some tmp → Temporary tmp ∧ files tmp ≠ none
  written : ∀ tmp remaining, call.phase = .writing tmp remaining →
    ∃ written, files tmp = some written ∧ written ++ remaining = utf8 call.content

/-- What a step of a call does: it keeps what the call relies on, takes a temporary file only
where there was none, and changes no other file but its target, where it puts the content. -/
structure Moves (files : ProjectFiles) (call : WriteCall) (after : ProjectFiles)
    (later : WriteCall) : Prop where
  same : later.path = call.path ∧ later.content = call.content
  holds : later.Holds after
  taken : ∀ tmp, later.owned = some tmp → call.owned = some tmp ∨ files tmp = none
  frame : ∀ path, call.owned ≠ some path → later.owned ≠ some path →
    after path = if later.phase = .returned ∧ path = call.path
      then some (utf8 call.content) else files path
  released : ∀ tmp, call.owned = some tmp → later.owned = some tmp ∨
    later.leftover = some tmp ∨ after tmp = none
  starts : call.phase ≠ .returned ∧ call.leftover = none

theorem temporary_tmpPath (path : ProjectPath) (chosen : Text) : Temporary (tmpPath path chosen) :=
  ⟨path, chosen, rfl⟩

/-- A step that leaves the files, and takes no temporary file. -/
theorem moves_of_same {phase : WritePhase} (holds : call.Holds files)
    (starts : call.phase ≠ .returned ∧ call.leftover = none) (quiet : phase ≠ .returned)
    (idle : ∀ tmp remaining, phase ≠ .writing tmp remaining)
    (owned : ∀ tmp, { call with phase := phase }.owned = some tmp → call.owned = some tmp)
    (released : ∀ tmp, call.owned = some tmp → { call with phase := phase }.owned = some tmp ∨
      { call with phase := phase }.leftover = some tmp) :
    Moves files call files { call with phase := phase } where
  same := ⟨rfl, rfl⟩
  holds := {
    proper := holds.proper
    temporary := fun tmp own => holds.temporary tmp (owned tmp own)
    written := fun tmp remaining writing => absurd writing (idle tmp remaining) }
  taken tmp own := .inl (owned tmp own)
  frame _ _ _ := (if_neg fun done => quiet done.1).symm
  released tmp own := (released tmp own).imp_right .inl
  starts := starts

theorem moves_creates {chosen : Text} (holds : call.Holds files) (begun : call.phase = .begun)
    (free : files (tmpPath call.path chosen) = none) :
    Moves files call (FileStep.perform files (.truncate (tmpPath call.path chosen)))
      { call with phase := .writing (tmpPath call.path chosen) (utf8 call.content) } where
  same := ⟨rfl, rfl⟩
  holds := {
    proper := holds.proper
    temporary := by
      intro tmp own
      obtain rfl := Option.some.inj own
      refine ⟨temporary_tmpPath call.path chosen, ?_⟩
      simp [FileStep.perform]
    written := by
      intro tmp remaining writing
      cases writing
      exact ⟨[], by simp [FileStep.perform], rfl⟩ }
  taken := by
    intro tmp own
    obtain rfl := Option.some.inj own
    exact .inr free
  frame := by
    intro path _ apart
    rw [if_neg (by simp)]
    exact Function.update_of_ne (fun same => apart (congrArg some same.symm)) _ _
  released := by
    intro tmp own
    unfold owned at own
    rw [begun] at own
    cases own
  starts := by
    unfold leftover
    rw [begun]
    exact ⟨by simp, rfl⟩

theorem moves_writes {remaining : List UInt8} (holds : call.Holds files)
    (writing : call.phase = .writing tmp remaining) (count : ℕ) :
    Moves files call (FileStep.perform files (.append tmp (remaining.take count)))
      { call with phase := .writing tmp (remaining.drop count) } := by
  obtain ⟨written, held, split⟩ := holds.written tmp remaining writing
  have own : call.owned = some tmp := by
    unfold owned
    rw [writing]
  have filled : FileStep.perform files (.append tmp (remaining.take count)) tmp =
      some (written ++ remaining.take count) := by
    simp [FileStep.perform, held]
  refine ⟨⟨rfl, rfl⟩, ⟨holds.proper, ?_, ?_⟩, ?_, ?_, ?_, ?_⟩
  · intro other same
    obtain rfl := Option.some.inj same
    exact ⟨(holds.temporary tmp own).1, by simp [filled]⟩
  · intro other rest same
    cases same
    refine ⟨_, filled, ?_⟩
    rw [List.append_assoc, List.take_append_drop, split]
  · exact fun other same => .inl (own.trans same)
  · intro path apart _
    rw [if_neg (by simp)]
    exact Function.update_of_ne (fun same => apart (own.trans (congrArg some same.symm))) _ _
  · exact fun other same => .inl (own.symm.trans same)
  · unfold leftover
    rw [writing]
    exact ⟨by simp, rfl⟩

theorem moves_renames (holds : call.Holds files) (writing : call.phase = .writing tmp []) :
    Moves files call (FileStep.perform files (.rename tmp call.path))
      { call with phase := .returned } := by
  obtain ⟨written, held, split⟩ := holds.written tmp [] writing
  have own : call.owned = some tmp := by
    unfold owned
    rw [writing]
  rw [List.append_nil] at split
  refine ⟨⟨rfl, rfl⟩, ⟨holds.proper, nofun, nofun⟩, nofun, ?_, ?_, ?_⟩
  · intro path apart _
    have other : path ≠ tmp := fun same => apart (own.trans (congrArg some same.symm))
    change Function.update (Function.update files call.path (files tmp)) tmp none path = _
    rw [Function.update_of_ne other]
    by_cases target : path = call.path
    · rw [if_pos ⟨rfl, target⟩, target, Function.update_self, held, split]
    · rw [if_neg fun done => target done.2, Function.update_of_ne target]
  · intro other same
    obtain rfl := Option.some.inj (own.symm.trans same)
    exact .inr (.inr (Function.update_self ..))
  · unfold leftover
    rw [writing]
    exact ⟨nofun, rfl⟩

theorem moves_unlinks (holds : call.Holds files) (failing : call.phase = .failing tmp) :
    Moves files call (Function.update files tmp none) { call with phase := .raised none } := by
  have own : call.owned = some tmp := by
    unfold owned
    rw [failing]
  refine ⟨⟨rfl, rfl⟩, ⟨holds.proper, nofun, nofun⟩, nofun, ?_, ?_, ?_⟩
  · intro path apart _
    rw [if_neg (by simp)]
    exact Function.update_of_ne (fun same => apart (own.trans (congrArg some same.symm))) _ _
  · intro other same
    obtain rfl := Option.some.inj (own.symm.trans same)
    exact .inr (.inr (Function.update_self ..))
  · unfold leftover
    rw [failing]
    exact ⟨nofun, rfl⟩

/-- **One step of a call.** -/
theorem next_moves (holds : call.Holds files)
    (stepped : call.next files event = some (after, later)) : Moves files call after later := by
  unfold next at stepped
  split at stepped
  · next begun =>
      dsimp only at stepped
      split at stepped
      · next free =>
          cases stepped
          exact moves_creates holds begun free
      · cases stepped
  · next begun =>
      cases stepped
      apply moves_of_same holds <;> simp [owned, leftover, begun]
  · next begun =>
      cases stepped
      apply moves_of_same holds <;> simp [owned, leftover, begun]
  · next writing =>
      cases stepped
      exact moves_writes holds writing _
  · next writing =>
      cases stepped
      exact moves_renames holds writing
  · next writing =>
      cases stepped
      apply moves_of_same holds <;> simp [owned, leftover, writing]
  · next writing =>
      cases stepped
      apply moves_of_same holds <;> simp [owned, leftover, writing]
  · next failing =>
      split at stepped
      · cases stepped
        exact moves_unlinks holds failing
      · cases stepped
        apply moves_of_same holds <;> simp [owned, leftover, failing]
  · next failing =>
      cases stepped
      apply moves_of_same holds <;> simp [owned, leftover, failing]
  · cases stepped

end WriteCall

/-! ## All calls -/

namespace Disk

/-- The content that a call has put in a file, if the file is its target. -/
def contentFor (path : ProjectPath) (disk : Disk) (number : ℕ) : Option Text :=
  (disk.calls number).bind fun call => if call.path = path then some call.content else none

/-- The contents that were put in a file, in this order. -/
def renamedTo (path : ProjectPath) (disk : Disk) : List Text :=
  disk.renamed.filterMap (disk.contentFor path)

/-- What a register holds after these writes. -/
def held (initial : ProjectFiles) (path : ProjectPath) (disk : Disk) : Option (List UInt8) :=
  match (disk.renamedTo path).getLast? with
  | some content => some (utf8 content)
  | none => initial path

variable {disk later : Disk} {initial : ProjectFiles} {event : DiskEvent} {number : ℕ}
  {call : WriteCall} {path : ProjectPath}

/-- What holds at every moment, from the files that there were at first. -/
structure Atomic (initial : ProjectFiles) (disk : Disk) : Prop where
  holds : ∀ number call, disk.calls number = some call → call.Holds disk.files
  apart : ∀ number other call another tmp, disk.calls number = some call →
    disk.calls other = some another → call.owned = some tmp → another.owned = some tmp →
    number = other
  contents : ∀ path, ¬ Temporary path → disk.files path = disk.held initial path
  renamed : ∀ number, number ∈ disk.renamed ↔
    ∃ call, disk.calls number = some call ∧ call.phase = .returned
  once : disk.renamed.Nodup
  clean : ∀ tmp, Temporary tmp → disk.files tmp ≠ none → initial tmp ≠ none ∨
    ∃ number call, disk.calls number = some call ∧
      (call.owned = some tmp ∨ call.leftover = some tmp)

theorem atomic_init (initial : ProjectFiles) : (init initial).Atomic initial where
  holds := nofun
  apart := nofun
  contents _ _ := rfl
  renamed _ := ⟨nofun, nofun⟩
  once := List.nodup_nil
  clean _ _ there := .inl there

theorem put_renamed {files : ProjectFiles} {after : WriteCall} :
    (disk.put number files after).renamed =
      if after.phase = .returned then disk.renamed ++ [number] else disk.renamed := rfl

theorem put_calls {files : ProjectFiles} {after : WriteCall} :
    (disk.put number files after).calls number = some after := Function.update_self ..

theorem of_update {calls : ℕ → Option WriteCall} {other : ℕ} {after found : WriteCall}
    (present : Function.update calls number (some after) other = some found) :
    (other = number ∧ found = after) ∨ (other ≠ number ∧ calls other = some found) := by
  by_cases own : other = number
  · subst own
    rw [Function.update_self] at present
    exact .inl ⟨rfl, (Option.some.inj present).symm⟩
  · rw [Function.update_of_ne own] at present
    exact .inr ⟨own, present⟩

/-- A call keeps its target and its content. -/
theorem contentFor_update {after : WriteCall} (disk : Disk)
    (same : ∀ call, disk.calls number = some call →
      after.path = call.path ∧ after.content = call.content)
    {other : ℕ} (present : disk.calls other ≠ none) (path : ProjectPath) :
    { disk with calls := Function.update disk.calls number (some after) }.contentFor path other =
      disk.contentFor path other := by
  unfold contentFor
  dsimp only
  by_cases own : other = number
  · subst own
    obtain ⟨call, found⟩ := Option.ne_none_iff_exists'.mp present
    rw [Function.update_self, found, Option.bind_some, Option.bind_some, (same call found).1,
      (same call found).2]
  · rw [Function.update_of_ne own]

theorem Atomic.present (atomic : disk.Atomic initial) {number : ℕ}
    (member : number ∈ disk.renamed) : disk.calls number ≠ none := by
  obtain ⟨call, present, -⟩ := (atomic.renamed number).mp member
  rw [present]
  exact nofun

/-- A new call. -/
theorem Atomic.calls (atomic : disk.Atomic initial) (fresh : disk.calls number = none)
    (proper : ¬ Temporary path) (content : Text) :
    { disk with calls := Function.update disk.calls number (some ⟨path, content, .begun⟩) }.Atomic
      initial where
  holds := by
    intro other found present
    rcases of_update present with ⟨rfl, rfl⟩ | ⟨-, present⟩
    · exact ⟨proper, nofun, nofun⟩
    · exact atomic.holds other found present
  apart := by
    intro first second call other tmp one two own also
    rcases of_update one with ⟨rfl, rfl⟩ | ⟨-, one⟩
    · cases own
    · rcases of_update two with ⟨rfl, rfl⟩ | ⟨-, two⟩
      · cases also
      · exact atomic.apart first second call other tmp one two own also
  contents := by
    intro target shown
    rw [atomic.contents target shown]
    unfold held renamedTo
    rw [List.filterMap_congr fun other member => contentFor_update disk
      (fun call present => nomatch fresh.symm.trans present) (atomic.present member) target]
  renamed := by
    intro other
    rw [atomic.renamed other]
    constructor
    · rintro ⟨call, present, returned⟩
      have apart : other ≠ number := by
        rintro rfl
        cases fresh.symm.trans present
      exact ⟨call, (Function.update_of_ne apart _ _).trans present, returned⟩
    · rintro ⟨call, present, returned⟩
      rcases of_update present with ⟨rfl, rfl⟩ | ⟨-, present⟩
      · cases returned
      · exact ⟨call, present, returned⟩
  once := atomic.once
  clean := by
    intro tmp temporary there
    refine (atomic.clean tmp temporary there).imp_right ?_
    rintro ⟨other, call, present, owns⟩
    have apart : other ≠ number := by
      rintro rfl
      cases fresh.symm.trans present
    exact ⟨other, call, (Function.update_of_ne apart _ _).trans present, owns⟩

section

variable {files : ProjectFiles} {after : WriteCall}

/-- The temporary files of the other calls are left alone. -/
theorem Atomic.frame (atomic : disk.Atomic initial) (present : disk.calls number = some call)
    (moves : WriteCall.Moves disk.files call files after) {other : ℕ} {another : WriteCall}
    (away : other ≠ number) (found : disk.calls other = some another) {tmp : ProjectPath}
    (owns : another.owned = some tmp) :
    after.owned ≠ some tmp ∧ files tmp = disk.files tmp := by
  obtain ⟨temporary, there⟩ := (atomic.holds other another found).temporary tmp owns
  have before : call.owned ≠ some tmp := fun own =>
    away (atomic.apart other number another call tmp found present owns own)
  have behind : after.owned ≠ some tmp := by
    intro own
    rcases moves.taken tmp own with own | free
    · exact before own
    · exact there free
  refine ⟨behind, (moves.frame tmp before behind).trans (if_neg ?_)⟩
  rintro ⟨-, rfl⟩
  exact (atomic.holds number call present).proper temporary

theorem Atomic.renamedTo_acts (atomic : disk.Atomic initial)
    (present : disk.calls number = some call) (moves : WriteCall.Moves disk.files call files after)
    (target : ProjectPath) :
    (disk.put number files after).renamedTo target =
      if after.phase = .returned ∧ target = call.path then disk.renamedTo target ++ [call.content]
      else disk.renamedTo target := by
  have earlier : disk.renamed.filterMap
      ({ disk with calls := Function.update disk.calls number (some after) }.contentFor target) =
        disk.renamedTo target :=
    List.filterMap_congr fun other member => contentFor_update disk
      (fun found same => Option.some.inj (present.symm.trans same) ▸ moves.same)
      (atomic.present member) target
  have own : { disk with calls := Function.update disk.calls number (some after) }.contentFor
      target number = if target = call.path then some call.content else none := by
    unfold contentFor
    dsimp only
    rw [Function.update_self, Option.bind_some, moves.same.1, moves.same.2]
    simp only [eq_comm]
  by_cases returned : after.phase = .returned
  · have more : (disk.put number files after).renamed = disk.renamed ++ [number] := if_pos returned
    unfold renamedTo
    rw [more, List.filterMap_append]
    change List.filterMap ({ disk with
      calls := Function.update disk.calls number (some after) }.contentFor target) _ ++
        List.filterMap ({ disk with
          calls := Function.update disk.calls number (some after) }.contentFor target) _ = _
    rw [earlier]
    by_cases hit : target = call.path
    · rw [if_pos hit] at own
      rw [if_pos ⟨returned, hit⟩, List.filterMap_cons_some own]
      rfl
    · rw [if_neg hit] at own
      rw [if_neg fun done => hit done.2, List.filterMap_cons_none own, List.filterMap_nil,
        List.append_nil]
      rfl
  · have same : (disk.put number files after).renamed = disk.renamed := if_neg returned
    rw [if_neg fun done => returned done.1]
    unfold renamedTo
    rw [same]
    exact earlier

/-- A step of a call. -/
theorem Atomic.acts (atomic : disk.Atomic initial) (present : disk.calls number = some call)
    (moves : WriteCall.Moves disk.files call files after) :
    (disk.put number files after).Atomic initial where
  holds := by
    intro other found there
    rcases of_update there with ⟨rfl, rfl⟩ | ⟨away, there⟩
    · exact moves.holds
    · have held := atomic.holds other found there
      refine ⟨held.proper, fun tmp own => ?_, fun tmp remaining writing => ?_⟩
      · change Temporary tmp ∧ files tmp ≠ none
        rw [(atomic.frame present moves away there own).2]
        exact held.temporary tmp own
      · have own : found.owned = some tmp := by
          unfold WriteCall.owned
          rw [writing]
        change ∃ written, files tmp = some written ∧ written ++ remaining = utf8 found.content
        rw [(atomic.frame present moves away there own).2]
        exact held.written tmp remaining writing
  apart := by
    intro first second one two tmp isOne isTwo own also
    rcases of_update isOne with ⟨rfl, rfl⟩ | ⟨awayOne, oldOne⟩
    · rcases of_update isTwo with ⟨rfl, rfl⟩ | ⟨awayTwo, oldTwo⟩
      · rfl
      · exact absurd own (atomic.frame present moves awayTwo oldTwo also).1
    · rcases of_update isTwo with ⟨rfl, rfl⟩ | ⟨-, oldTwo⟩
      · exact absurd also (atomic.frame present moves awayOne oldOne own).1
      · exact atomic.apart first second one two tmp oldOne oldTwo own also
  contents := by
    intro target shown
    have before : call.owned ≠ some target := fun own =>
      shown ((atomic.holds number call present).temporary target own).1
    have behind : after.owned ≠ some target := fun own =>
      shown (moves.holds.temporary target own).1
    unfold held
    rw [atomic.renamedTo_acts present moves target]
    change files target = _
    rw [moves.frame target before behind]
    by_cases done : after.phase = .returned ∧ target = call.path
    · rw [if_pos done, if_pos done, List.getLast?_concat]
    · rw [if_neg done, if_neg done]
      exact atomic.contents target shown
  renamed := by
    intro other
    rw [put_renamed]
    by_cases own : other = number
    · subst own
      constructor
      · intro member
        split at member
        · next returned => exact ⟨after, Function.update_self .., returned⟩
        · obtain ⟨found, there, returned⟩ := (atomic.renamed other).mp member
          obtain rfl := Option.some.inj (present.symm.trans there)
          exact absurd returned moves.starts.1
      · rintro ⟨found, there, returned⟩
        change Function.update disk.calls other (some after) other = _ at there
        rw [Function.update_self] at there
        obtain rfl := Option.some.inj there
        rw [if_pos returned]
        exact List.mem_append_right _ List.mem_cons_self
    · have same : (other ∈ if after.phase = .returned then disk.renamed ++ [number]
          else disk.renamed) ↔ other ∈ disk.renamed := by
        split
        · simp [own]
        · rfl
      rw [same, atomic.renamed other]
      change _ ↔ ∃ call, Function.update disk.calls number (some after) other = some call ∧ _
      rw [Function.update_of_ne own]
  once := by
    rw [put_renamed]
    split
    · refine List.Nodup.append atomic.once (List.nodup_singleton number) ?_
      intro other member same
      obtain rfl := List.mem_singleton.mp same
      obtain ⟨found, there, returned⟩ := (atomic.renamed other).mp member
      obtain rfl := Option.some.inj (present.symm.trans there)
      exact moves.starts.1 returned
    · exact atomic.once
  clean := by
    intro tmp temporary there
    by_cases behind : after.owned = some tmp
    · exact .inr ⟨number, after, Function.update_self .., .inl behind⟩
    by_cases before : call.owned = some tmp
    · rcases moves.released tmp before with own | left | gone
      · exact absurd own behind
      · exact .inr ⟨number, after, Function.update_self .., .inr left⟩
      · exact absurd gone there
    have same : files tmp = disk.files tmp := by
      refine (moves.frame tmp before behind).trans (if_neg ?_)
      rintro ⟨-, rfl⟩
      exact (atomic.holds number call present).proper temporary
    refine (atomic.clean tmp temporary (same ▸ there)).imp_right ?_
    rintro ⟨other, found, known, owns⟩
    have away : other ≠ number := by
      rintro rfl
      obtain rfl := Option.some.inj (present.symm.trans known)
      rcases owns with own | left
      · exact before own
      · cases moves.starts.2.symm.trans left
    exact ⟨other, found, (Function.update_of_ne away _ _).trans known, owns⟩

end

/-- **One step.** -/
theorem Atomic.next (atomic : disk.Atomic initial) (proper : Proper event)
    (stepped : disk.Step event later) : later.Atomic initial := by
  unfold Step Disk.next at stepped
  cases event with
  | calls number path content =>
      dsimp only at stepped
      split at stepped
      · next fresh =>
          obtain rfl := Option.some.inj stepped
          exact atomic.calls fresh proper content
      · cases stepped
  | acts number event =>
      dsimp only at stepped
      split at stepped
      · cases stepped
      · next call present =>
          obtain ⟨⟨files, after⟩, moved, rfl⟩ := Option.map_eq_some_iff.mp stepped
          exact atomic.acts present (WriteCall.next_moves (atomic.holds number call present) moved)

theorem atomic_run {events : List DiskEvent}
    (run : Run (Guarded Step fun _ => Proper) (init initial) events disk) : disk.Atomic initial :=
  run.invariant (Atomic initial) (fun _ _ _ atomic moved => atomic.next moved.1 moved.2)
    (atomic_init initial)

/-- No call that has been renamed is forgotten, and later ones come behind it. -/
theorem renamed_isPrefix (stepped : disk.Step event later) : disk.renamed <+: later.renamed := by
  unfold Step Disk.next at stepped
  cases event with
  | calls number path content =>
      dsimp only at stepped
      split at stepped
      · obtain rfl := Option.some.inj stepped
        exact List.prefix_rfl
      · cases stepped
  | acts number event =>
      dsimp only at stepped
      split at stepped
      · cases stepped
      · obtain ⟨⟨files, after⟩, -, rfl⟩ := Option.map_eq_some_iff.mp stepped
        rw [put_renamed]
        split
        · exact List.prefix_append _ _
        · exact List.prefix_rfl

theorem renamed_run {source : Disk} {events : List DiskEvent}
    (run : Run (Guarded Step fun _ => Proper) source events disk) :
    source.renamed <+: disk.renamed :=
  run.invariant (fun later => source.renamed <+: later.renamed)
    (fun _ _ _ before moved => before.trans (renamed_isPrefix moved.2)) List.prefix_rfl

/-- **Atomic writes.** However calls of `write_atomic` interleave, wherever they raise and their
processes are killed: a target holds all of the content of the call that was last renamed to it;
the calls that return are those that are renamed, each once, and one that has returned before
comes before; and a temporary file that was not there at first belongs to a call that goes on,
was killed, or could not unlink it. -/
theorem writes_atomic {events later : List DiskEvent} {before : Disk}
    (run : Run (Guarded Step fun _ => Proper) (init initial) events before)
    (rest : Run (Guarded Step fun _ => Proper) before later disk) :
    (∀ path, ¬ Temporary path → disk.files path = disk.held initial path) ∧
    (∀ number, number ∈ disk.renamed ↔
      ∃ call, disk.calls number = some call ∧ call.phase = .returned) ∧
    disk.renamed.Nodup ∧ before.renamed <+: disk.renamed ∧
    ∀ tmp, Temporary tmp → disk.files tmp ≠ none → initial tmp ≠ none ∨
      ∃ number call, disk.calls number = some call ∧
        (call.owned = some tmp ∨ call.leftover = some tmp) := by
  have atomic : disk.Atomic initial :=
    rest.invariant (Atomic initial) (fun _ _ _ atomic moved => atomic.next moved.1 moved.2)
      (atomic_run run)
  exact ⟨atomic.contents, atomic.renamed, atomic.once, renamed_run rest, atomic.clean⟩

/-! ## A call that is alone -/

/-- The steps of a call that writes byte by byte. -/
def alone (path : ProjectPath) (content chosen : Text) : List DiskEvent :=
  [.calls 0 path content, .acts 0 (.creates chosen)] ++
    (utf8 content).map (fun _ => .acts 0 (.writes 1)) ++ [.acts 0 .renames]

theorem step_acts {files : ProjectFiles} {after : WriteCall} {event : WriteEvent}
    (present : disk.calls number = some call)
    (moved : call.next disk.files event = some (files, after)) :
    Step disk (.acts number event) (disk.put number files after) := by
  unfold Step Disk.next
  dsimp only
  rw [present]
  dsimp only
  rw [moved]
  rfl

theorem appends_run {tmp : ProjectPath} {content : Text} (remaining : List UInt8)
    (present : disk.calls 0 = some ⟨path, content, .writing tmp remaining⟩) :
    ∃ after, Run Step disk (remaining.map fun _ => .acts 0 (.writes 1)) after ∧
      after.files = (remaining.map fun octet => FileStep.append tmp [octet]).foldl
        FileStep.perform disk.files ∧
      after.calls 0 = some ⟨path, content, .writing tmp []⟩ ∧
      after.renamed = disk.renamed := by
  induction remaining generalizing disk with
  | nil => exact ⟨disk, .nil disk, rfl, present, rfl⟩
  | cons octet remaining ih =>
      obtain ⟨after, run, files, last, renamed⟩ :=
        @ih (disk.put 0 (FileStep.perform disk.files (.append tmp [octet]))
          ⟨path, content, .writing tmp remaining⟩) put_calls
      exact ⟨after, .cons (step_acts present rfl) run, files, last, renamed⟩

/-- A call that is alone does to the files what `write_atomic` does by itself. -/
theorem alone_writes {files : ProjectFiles} {turn : WriteTurn} {content : Text}
    (succeeds : turn.fault = none) (free : files (tmpPath path turn.chosen) = none) :
    ∃ disk, Run Step (init files) (alone path content turn.chosen) disk ∧
      disk.files = (writeAtomic turn path content files).1 ∧ disk.renamed = [0] := by
  have creates : WriteCall.next files ⟨path, content, .begun⟩ (.creates turn.chosen) =
      some (FileStep.perform files (.truncate (tmpPath path turn.chosen)),
        ⟨path, content, .writing (tmpPath path turn.chosen) (utf8 content)⟩) := by
    unfold WriteCall.next
    dsimp only
    rw [if_pos free]
  have made : Function.update (init files).calls 0 (some ⟨path, content, .begun⟩) 0 =
      some ⟨path, content, .begun⟩ := Function.update_self ..
  have creating := @step_acts { init files with
    calls := Function.update (init files).calls 0 (some ⟨path, content, .begun⟩) } 0 _ _ _ _
      made creates
  obtain ⟨disk, appends, written, last, renamed⟩ := appends_run (utf8 content)
    (put_calls.trans rfl)
  have renames := @step_acts disk 0 _ (FileStep.perform disk.files
    (.rename (tmpPath path turn.chosen) path)) ⟨path, content, .returned⟩ .renames last rfl
  refine ⟨_, (Run.cons rfl (.cons creating appends)).concat renames, ?_,
    congrArg (· ++ [0]) renamed⟩
  change FileStep.perform disk.files (.rename (tmpPath path turn.chosen) path) = _
  rw [written]
  unfold writeAtomic
  rw [succeeds]
  dsimp only
  unfold FileStep.crash atomicSteps FileStep.replace FileStep.write
  rw [List.take_length, List.foldl_append, List.map_map]
  rfl

/-! ## Two writers of the status file -/

/-- A file whose name does not begin with a dot is none that `mkstemp` chooses. -/
theorem not_temporary (shown : path.name.head? ≠ some '.') : ¬ Temporary path := by
  rintro ⟨base, chosen, same⟩
  exact ne_tmpPath shown base chosen same

private def statusPath : ProjectPath := ⟨[], "PROJECT-STATUS.md".toList⟩

private def twoWriters : List DiskEvent :=
  [.calls 0 statusPath "a".toList, .calls 1 statusPath "b".toList,
    .acts 0 (.creates "x".toList), .acts 1 (.creates "y".toList), .acts 0 (.writes 1),
    .acts 1 (.writes 1), .acts 1 .renames, .acts 0 .dies]

/-- One of two writers is killed, and the file is that of the other. -/
theorem surviving_writer : ∃ disk : Disk, disk.renamed = [1] ∧
    disk.files statusPath = disk.held (fun _ => none) statusPath := by
  have shown : ¬ Temporary statusPath := not_temporary (by decide)
  have run : ∃ disk : Disk,
      Run (Guarded Step fun _ => Proper) (init fun _ => none) twoWriters disk ∧
        disk.renamed = [1] := by
    refine ⟨_, .cons ⟨shown, rfl⟩ <| .cons ⟨shown, rfl⟩ <| .cons ⟨trivial, rfl⟩ <|
      .cons ⟨trivial, rfl⟩ <| .cons ⟨trivial, rfl⟩ <| .cons ⟨trivial, rfl⟩ <|
      .cons ⟨trivial, rfl⟩ <| .cons ⟨trivial, rfl⟩ (.nil _), rfl⟩
  obtain ⟨disk, run, renamed⟩ := run
  exact ⟨disk, renamed, (writes_atomic run (.nil disk)).1 statusPath shown⟩

end Disk

end Vcompany.Shared
