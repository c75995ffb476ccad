import Mathlib.Data.List.Basic
import Mathlib.Logic.Function.Basic

/-! # Files that are written in steps

A program that writes files takes steps, and it may be killed behind any of them. What a file
that is truncated and then written in parts holds at each point (`crash_write`), and that one
written beside and renamed holds what it held or all of the new (`crash_replace`).
-/

namespace Vcompany.Foundation

variable {ν β : Type} [DecidableEq ν]

/-- The contents of the files that exist. -/
abbrev Files (ν β : Type) := ν → Option (List β)

/-- What a process asks of the file system, one after the other. -/
inductive FileStep (ν β : Type) where
  /-- The directory above a file is there. -/
  | parents (path : ν)
  | truncate (path : ν)
  | append (path : ν) (data : List β)
  | rename (source target : ν)

namespace FileStep

def perform (files : Files ν β) : FileStep ν β → Files ν β
  | parents _ => files
  | truncate path => Function.update files path (some [])
  | append path data => Function.update files path (some ((files path).getD [] ++ data))
  | rename source target =>
      Function.update (Function.update files target (files source)) source none

/-- The files that are left if the process is killed after some of its steps. -/
def crash (steps : List (FileStep ν β)) (files : Files ν β) (count : ℕ) : Files ν β :=
  (steps.take count).foldl perform files

/-- Truncate a file and write it in parts. -/
def write (path : ν) (parts : List (List β)) : List (FileStep ν β) :=
  parents path :: truncate path :: parts.map (append path)

/-- Write a file beside and put it in the place of another. -/
def replace (path beside : ν) (parts : List (List β)) : List (FileStep ν β) :=
  write beside parts ++ [rename beside path]

variable {path other : ν} {files : Files ν β}

theorem foldl_append_self {data : List β} (held : files path = some data)
    (parts : List (List β)) :
    (parts.map (append path)).foldl perform files path = some (data ++ parts.flatten) := by
  induction parts generalizing files data with
  | nil => simpa using held
  | cons part parts ih =>
      rw [List.map_cons, List.foldl_cons]
      have next : perform files (append path part) path = some (data ++ part) := by
        simp [perform, held]
      rw [ih next, List.flatten_cons, List.append_assoc]

theorem foldl_append_of_ne (apart : other ≠ path) (parts : List (List β)) :
    (parts.map (append path)).foldl perform files other = files other := by
  induction parts generalizing files with
  | nil => rfl
  | cons part parts ih =>
      rw [List.map_cons, List.foldl_cons, ih]
      exact Function.update_of_ne apart _ _

/-- What the file holds when the process is killed: what it held, or a part of the new. -/
theorem crash_write (parts : List (List β)) (count : ℕ) :
    crash (write path parts) files count path =
      if count < 2 then files path else some (parts.take (count - 2)).flatten := by
  match count with
  | 0 | 1 => rfl
  | count + 2 =>
      have emptied : perform (perform files (parents path)) (truncate path) path = some [] :=
        Function.update_self ..
      rw [if_neg (by omega), Nat.add_sub_cancel, crash, write, List.take_succ_cons,
        List.take_succ_cons, ← List.map_take, List.foldl_cons, List.foldl_cons,
        foldl_append_self emptied, List.nil_append]

theorem crash_write_of_ne (apart : other ≠ path) (parts : List (List β)) (count : ℕ) :
    crash (write path parts) files count other = files other := by
  match count with
  | 0 | 1 => rfl
  | count + 2 =>
      rw [crash, write, List.take_succ_cons, List.take_succ_cons, ← List.map_take,
        List.foldl_cons, List.foldl_cons, foldl_append_of_ne apart]
      exact Function.update_of_ne apart _ _

omit [DecidableEq ν] in
theorem length_write (path : ν) (parts : List (List β)) :
    (write path parts).length = parts.length + 2 := by
  simp [write]

/-- A file that is replaced holds what it held up to the last step, and then all of the new. -/
theorem crash_replace (apart : path ≠ other) (parts : List (List β)) (count : ℕ) :
    crash (replace path other parts) files count path =
      if count ≤ parts.length + 2 then files path else some parts.flatten := by
  rw [← length_write other parts]
  split
  · next early =>
      rw [crash, replace, List.take_append_of_le_length early]
      exact crash_write_of_ne apart parts count
  · next late =>
      have beside : (write other parts).foldl perform files other = some parts.flatten := by
        have written := @crash_write _ _ _ other files parts (write other parts).length
        rw [crash, List.take_length, length_write, if_neg (by omega), Nat.add_sub_cancel,
          List.take_length] at written
        exact written
      have all : (write other parts ++ [rename other path]).length ≤ count := by
        rw [List.length_append, List.length_singleton]
        omega
      rw [crash, replace, List.take_of_length_le all, List.foldl_append, List.foldl_cons,
        List.foldl_nil, perform, Function.update_of_ne apart, Function.update_self, beside]

/-- The other files are left alone. -/
theorem crash_replace_of_ne {beside : ν} (apart : other ≠ path) (away : other ≠ beside)
    (parts : List (List β)) (count : ℕ) :
    crash (replace path beside parts) files count other = files other := by
  rw [crash, replace, List.take_append, List.foldl_append]
  have written : crash (write beside parts) files count other = files other :=
    crash_write_of_ne away parts count
  rcases count - (write beside parts).length with _ | rest
  · exact written
  · rw [List.take_succ_cons, List.take_nil, List.foldl_cons, List.foldl_nil, perform,
      Function.update_of_ne away, Function.update_of_ne apart]
    exact written

end FileStep

end Vcompany.Foundation
