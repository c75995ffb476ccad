import Vcompany.Shared.StoreContents
import Vcompany.Worker.Container

/-! # The worker's store over its tables

The worker keeps its memory in a `MemoryStore` of its own package, with the same code and the same
tables as the daemon's. Where its writes are committed, the list of values and checkpoints with
which the container is modelled is what the tables hold: every call is answered from the one
as from the other (`worker_store_refines`), in any order of calls, and over the end of a process.
-/

namespace Vcompany.Worker

open Foundation

/-- A call of the worker's store, with the time that a write records, or the end of its
process. -/
inductive WorkerStoreCall where
  | «open»
  | close
  | crash
  | get (key : Text)
  | set (key value now : Text)
  | checkpoint (label : Text) (data : CheckpointData) (now : Text)
  | getLatestCheckpoint (label : Text)

namespace WorkerStoreCall

/-- The call of the store's methods, with the text of the checkpoint. -/
def stored (dumpJson : CheckpointData → Text) : WorkerStoreCall → Shared.StoreCall
  | «open» => .open .opens
  | close => .close
  | crash => .crash
  | get key => .get key .answers
  | set key value now => .set key value now .commits
  | checkpoint label data now => .checkpoint label (dumpJson data) now .commits
  | getLatestCheckpoint label => .getLatestCheckpoint label .answers

end WorkerStoreCall

/-- A write, with what it returns. -/
def MemoryStore.written (store : MemoryStore) :
    Except PyExc MemoryStore → Except PyExc Shared.StoreAnswer × MemoryStore
  | .ok next => (.ok .none, next)
  | .error raised => (.error raised, store)

/-- A call of the container's store, with what it returns. `model_dump_json` gives the text of a
checkpoint. -/
def MemoryStore.perform (dumpJson : CheckpointData → Text) (store : MemoryStore) :
    WorkerStoreCall → Except PyExc Shared.StoreAnswer × MemoryStore
  | .open => (.ok .none, store.open)
  | .close | .crash => (.ok .none, store.close)
  | .get key => ((store.get key).map .text, store)
  | .set key value _ => store.written (store.set key value)
  | .checkpoint label data _ => store.written (store.checkpoint label data)
  | .getLatestCheckpoint label =>
      ((store.getLatestCheckpoint label).map fun data => .text (data.map dumpJson), store)

/-- The store of an agent that has not been started. -/
def MemoryStore.empty : MemoryStore := { opened := false, kv := [], checkpoints := [] }

/-- The tables hold what the lists hold. -/
structure Holds (dumpJson : CheckpointData → Text) (store : MemoryStore) (tables : Shared.Tables) :
    Prop where
  values : ∀ key, (store.kv.find? fun row => row.1 = key).map Prod.snd = tables.selectValue key
  checkpoints : store.checkpoints.map (Prod.map id dumpJson) =
    tables.checkpoints.reverse.map fun row => (row.label, row.data)

namespace Holds

variable {dumpJson : CheckpointData → Text} {store : MemoryStore} {tables : Shared.Tables}

theorem «open» (holds : Holds dumpJson store tables) : Holds dumpJson store.open tables :=
  ⟨holds.values, holds.checkpoints⟩

theorem close (holds : Holds dumpJson store tables) : Holds dumpJson store.close tables :=
  ⟨holds.values, holds.checkpoints⟩

theorem set (holds : Holds dumpJson store tables) (key value now : Text) :
    Holds dumpJson
      { store with kv := (key, value) :: store.kv.filter fun row => row.1 ≠ key }
      (tables.insertOrReplace ⟨key, value, now⟩) where
  values other := by
    by_cases same : other = key
    · rw [same, List.find?_cons_of_pos (by simp)]
      exact (@Shared.Tables.selectValue_insertOrReplace_self tables ⟨key, value, now⟩).symm
    · rw [Shared.Tables.selectValue_insertOrReplace_of_ne same, ← holds.values,
        List.find?_cons_of_neg (by simpa using Ne.symm same), List.find?_filter]
      congr 2
      funext row
      by_cases here : row.1 = other
      · simp [here, same]
      · simp [here]
  checkpoints := holds.checkpoints

theorem checkpoint (holds : Holds dumpJson store tables) (label : Text) (data : CheckpointData)
    (now : Text) :
    Holds dumpJson { store with checkpoints := (label, data) :: store.checkpoints }
      (tables.insertCheckpoint label (dumpJson data) now) where
  values := holds.values
  checkpoints := by
    unfold Shared.Tables.insertCheckpoint
    rw [List.map_cons, holds.checkpoints, List.reverse_append]
    rfl

theorem latest (holds : Holds dumpJson store tables) (label : Text) :
    ((store.checkpoints.find? fun row => row.1 = label).map Prod.snd).map dumpJson =
      tables.selectLatest label := by
  have rows : (store.checkpoints.map (Prod.map id dumpJson)).find? (fun row => row.1 = label) =
      (store.checkpoints.find? fun row => row.1 = label).map (Prod.map id dumpJson) :=
    List.find?_map ..
  rw [holds.checkpoints, List.find?_map] at rows
  have selected := congrArg (Option.map Prod.snd) rows
  rw [Option.map_map, Option.map_map] at selected
  rw [Shared.Tables.selectLatest, Shared.Tables.newestFirst_eq, List.head?_filter, Option.map_map]
  exact selected.symm

end Holds

/-- The container's store is open where the tables are, and they hold the same, all of it
committed. -/
structure Backed (dumpJson : CheckpointData → Text) (store : MemoryStore)
    (tables : Shared.SqliteStore) : Prop where
  holds : Holds dumpJson store tables.file
  connection : tables.connection = if store.opened then some tables.file else none

namespace Backed

variable {dumpJson : CheckpointData → Text} {store : MemoryStore} {tables : Shared.SqliteStore}

theorem empty : Backed dumpJson MemoryStore.empty Shared.SqliteStore.fresh :=
  ⟨⟨fun _ => rfl, rfl⟩, rfl⟩

theorem perform (backed : Backed dumpJson store tables) (call : WorkerStoreCall) :
    (store.perform dumpJson call).1 = (tables.perform (call.stored dumpJson)).1 ∧
      Backed dumpJson (store.perform dumpJson call).2
        (tables.perform (call.stored dumpJson)).2 := by
  obtain ⟨opened, kv, checkpoints⟩ := store
  obtain ⟨file, connection⟩ := tables
  have holds : Holds dumpJson ⟨opened, kv, checkpoints⟩ file := backed.holds
  obtain rfl : connection = if opened then some file else none := backed.connection
  cases opened with
  | false =>
      cases call with
      | «open» => exact ⟨rfl, holds.open, rfl⟩
      | close | crash => exact ⟨rfl, holds.close, rfl⟩
      | get | set | checkpoint | getLatestCheckpoint => exact ⟨rfl, holds, rfl⟩
  | true =>
      cases call with
      | «open» => exact ⟨rfl, holds.open, rfl⟩
      | close | crash => exact ⟨rfl, holds.close, rfl⟩
      | get key =>
          exact ⟨congrArg (fun value => Except.ok (Shared.StoreAnswer.text value))
            (holds.values key), holds, rfl⟩
      | set key value now => exact ⟨rfl, holds.set key value now, rfl⟩
      | checkpoint label data now => exact ⟨rfl, holds.checkpoint label data now, rfl⟩
      | getLatestCheckpoint label =>
          exact ⟨congrArg (fun data => Except.ok (Shared.StoreAnswer.text data))
            (holds.latest label), holds, rfl⟩

end Backed

/-- **The worker's store is its tables.** Whatever the container asks of its store, in any order
and over the end of its process, it is answered as by the tables, where every write commits. -/
theorem worker_store_refines (dumpJson : CheckpointData → Text) (calls : List WorkerStoreCall) :
    exchanges (MemoryStore.perform dumpJson) MemoryStore.empty calls =
      exchanges (fun tables call => Shared.SqliteStore.perform tables
        (WorkerStoreCall.stored dumpJson call)) Shared.SqliteStore.fresh calls :=
  exchanges_eq_of_related (Backed dumpJson) (fun _ _ call backed => backed.perform call) .empty
    calls

end Vcompany.Worker
