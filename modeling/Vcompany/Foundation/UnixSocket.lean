import Vcompany.Foundation.Dict
import Mathlib.Data.Finset.Erase
import Mathlib.Data.Finset.Insert

/-! # Sockets in the file system

A bound socket has an entry at a path, and the entry stays when the socket is closed. To
connect to a path is to reach the socket of its entry, which has to listen; to bind at a path
takes a path without an entry; to unlink a path removes whatever entry is there.
-/

namespace Vcompany.Foundation

/-- The sockets that have entries, by path, and the ones that listen. -/
structure SocketFiles (π σ : Type) where
  entries : Dict π σ
  listening : Finset σ

/-- How connecting to a path goes. -/
inductive Connecting (σ : Type) where
  | accepted (socket : σ)
  | refused
  | missing
  deriving DecidableEq, Repr

namespace SocketFiles

variable {π σ : Type} [DecidableEq π] [DecidableEq σ]

/-- The socket whose entry is at the path. -/
def entry (files : SocketFiles π σ) (path : π) : Option σ := files.entries.get? path

def connect (files : SocketFiles π σ) (path : π) : Connecting σ :=
  match files.entry path with
  | none => .missing
  | some socket => if socket ∈ files.listening then .accepted socket else .refused

/-- Fails where the path has an entry. -/
def bind (files : SocketFiles π σ) (path : π) (socket : σ) : Option (SocketFiles π σ) :=
  match files.entry path with
  | none => some { files with entries := files.entries.set path socket }
  | some _ => none

def listen (files : SocketFiles π σ) (socket : σ) : SocketFiles π σ :=
  { files with listening := insert socket files.listening }

def close (files : SocketFiles π σ) (socket : σ) : SocketFiles π σ :=
  { files with listening := files.listening.erase socket }

/-- Does nothing where the path has no entry. -/
def unlink (files : SocketFiles π σ) (path : π) : SocketFiles π σ :=
  { files with entries := files.entries.pop path }

theorem connect_eq_accepted_iff {files : SocketFiles π σ} {path : π} {socket : σ} :
    files.connect path = .accepted socket ↔
      files.entry path = some socket ∧ socket ∈ files.listening := by
  unfold connect
  rcases files.entry path with _ | other
  · simp
  · dsimp only
    split
    · next listens =>
        rw [Connecting.accepted.injEq, Option.some.injEq]
        exact ⟨fun same => ⟨same, same ▸ listens⟩, And.left⟩
    · next closed =>
        refine iff_of_false nofun ?_
        rintro ⟨same, listens⟩
        exact closed (Option.some.inj same ▸ listens)

omit [DecidableEq σ] in
theorem bind_of_entry {files : SocketFiles π σ} {path : π} (socket : σ)
    (free : files.entry path = none) :
    files.bind path socket = some { files with entries := files.entries.set path socket } := by
  unfold bind
  rw [free]

omit [DecidableEq σ] in
theorem bind_eq_some {files bound : SocketFiles π σ} {path : π} {socket : σ}
    (binds : files.bind path socket = some bound) :
    bound.entry path = some socket ∧ bound.listening = files.listening := by
  unfold bind at binds
  split at binds
  · obtain rfl := Option.some.inj binds
    exact ⟨Dict.get?_set_self .., rfl⟩
  · contradiction

omit [DecidableEq σ] in
@[simp] theorem entry_unlink (files : SocketFiles π σ) (path : π) :
    (files.unlink path).entry path = none := Dict.get?_pop_self files.entries path

omit [DecidableEq σ] in
@[simp] theorem listening_unlink (files : SocketFiles π σ) (path : π) :
    (files.unlink path).listening = files.listening := rfl

@[simp] theorem entry_listen (files : SocketFiles π σ) (path : π) (socket : σ) :
    (files.listen socket).entry path = files.entry path := rfl

omit [DecidableEq π] in
@[simp] theorem mem_listening_listen {files : SocketFiles π σ} {socket other : σ} :
    other ∈ (files.listen socket).listening ↔ other = socket ∨ other ∈ files.listening :=
  Finset.mem_insert

omit [DecidableEq π] in
@[simp] theorem mem_listening_close {files : SocketFiles π σ} {socket other : σ} :
    other ∈ (files.close socket).listening ↔ other ≠ socket ∧ other ∈ files.listening :=
  Finset.mem_erase

@[simp] theorem entry_close (files : SocketFiles π σ) (path : π) (socket : σ) :
    (files.close socket).entry path = files.entry path := rfl

end SocketFiles

end Vcompany.Foundation
