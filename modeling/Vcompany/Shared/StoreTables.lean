import Vcompany.Shared.MemoryStore
import Mathlib.Data.Char
import Mathlib.Data.List.Lex

/-! # The tables of an agent's memory

`MemoryStore` as it works on its SQLite file: the `kv` table with one row for each key, the
`checkpoints` table with an id that counts up, and a connection whose transaction sees changes
that the file does not have yet. A statement that raises leaves the tables alone; a commit that
raises leaves the change in the open transaction, from where the next commit takes it along.
Either may end the transaction, and so may a query that raises, or the end of the connection.
`open` may raise once it has its connection, which it keeps: on a new file statements then raise
as long as their table is not there.
-/

namespace Vcompany.Shared

open Foundation

/-- A row of `kv`. -/
structure KvRow where
  key : Text
  value : Text
  updatedAt : Text
  deriving DecidableEq, Repr

/-- A row of `checkpoints`. -/
structure CheckpointRow where
  id : ℕ
  label : Text
  data : Text
  createdAt : Text
  deriving DecidableEq, Repr

/-- The two tables in the order of their row ids, and the entry of `checkpoints` in
`sqlite_sequence`. -/
structure Tables where
  kv : List KvRow
  checkpoints : List CheckpointRow
  sequence : ℕ
  /-- `key TEXT PRIMARY KEY`. -/
  primaryKey : (kv.map KvRow.key).Nodup
  /-- `id INTEGER PRIMARY KEY AUTOINCREMENT`. -/
  ascending : (checkpoints.map CheckpointRow.id).Pairwise (· < ·)
  autoincrement : ∀ row ∈ checkpoints, row.id ≤ sequence

namespace Tables

/-- The tables that `CREATE TABLE IF NOT EXISTS` makes. -/
def empty : Tables where
  kv := []
  checkpoints := []
  sequence := 0
  primaryKey := List.nodup_nil
  ascending := List.Pairwise.nil
  autoincrement := nofun

/-- `DELETE FROM kv WHERE key = ?`. -/
def deleteKey (key : Text) (tables : Tables) : Tables :=
  { tables with
    kv := tables.kv.filter fun row => row.key ≠ key
    primaryKey := tables.primaryKey.sublist (List.filter_sublist.map KvRow.key) }

theorem mem_kv_deleteKey {key : Text} {tables : Tables} {row : KvRow} :
    row ∈ (tables.deleteKey key).kv ↔ row ∈ tables.kv ∧ row.key ≠ key :=
  List.mem_filter.trans (and_congr_right fun _ => decide_eq_true_iff)

/-- `INSERT OR REPLACE INTO kv (key, value, updated_at) VALUES (?, ?, ?)`. -/
def insertOrReplace (row : KvRow) (tables : Tables) : Tables :=
  { tables with
    kv := (tables.deleteKey row.key).kv ++ [row]
    primaryKey := by
      rw [List.map_append, List.map_singleton, List.nodup_append_comm]
      refine List.nodup_cons.mpr ⟨fun mem => ?_, (tables.deleteKey row.key).primaryKey⟩
      obtain ⟨other, kept, same⟩ := List.mem_map.mp mem
      exact (mem_kv_deleteKey.mp kept).2 same }

/-- `INSERT INTO checkpoints (label, data, created_at) VALUES (?, ?, ?)`. -/
def insertCheckpoint (label data createdAt : Text) (tables : Tables) : Tables :=
  { tables with
    checkpoints := tables.checkpoints ++ [⟨tables.sequence + 1, label, data, createdAt⟩]
    sequence := tables.sequence + 1
    ascending := by
      rw [List.map_append, List.pairwise_append]
      refine ⟨tables.ascending, List.pairwise_singleton _ _, fun id mem last same => ?_⟩
      obtain ⟨row, member, rfl⟩ := List.mem_map.mp mem
      obtain rfl := List.mem_singleton.mp same
      exact Nat.lt_succ_of_le (tables.autoincrement row member)
    autoincrement := by
      intro row member
      rcases List.mem_append.mp member with old | new
      · exact Nat.le_succ_of_le (tables.autoincrement row old)
      · obtain rfl := List.mem_singleton.mp new
        exact le_rfl }

/-- `SELECT value FROM kv WHERE key = ?`, and its first row. -/
def selectValue (key : Text) (tables : Tables) : Option Text :=
  (tables.kv.find? fun row => row.key = key).map KvRow.value

/-- `SELECT key FROM kv ORDER BY key`. The bytes of two texts in UTF-8 are ordered as their
code points are. -/
def selectKeys (tables : Tables) : List Text :=
  (tables.kv.map KvRow.key).mergeSort fun first second => decide (first ≤ second)

/-- The rows of `checkpoints`, `ORDER BY id DESC`. -/
def newestFirst (tables : Tables) : List CheckpointRow :=
  tables.checkpoints.mergeSort fun first second => decide (second.id ≤ first.id)

/-- `SELECT data FROM checkpoints WHERE label = ? ORDER BY id DESC LIMIT 1`. -/
def selectLatest (label : Text) (tables : Tables) : Option Text :=
  ((tables.newestFirst.filter fun row => row.label = label).head?).map CheckpointRow.data

/-- `SELECT label, created_at FROM checkpoints ORDER BY id DESC`. -/
def selectLabels (tables : Tables) : List (Text × Text) :=
  tables.newestFirst.map fun row => (row.label, row.createdAt)

end Tables

/-- How a statement that changes a table goes, with the commit after it. What raises may also
end the open transaction. -/
inductive WriteCourse where
  | commits
  | executeRaises (raised : PyExc) (rolledBack : Bool)
  | commitRaises (raised : PyExc) (rolledBack : Bool)
  deriving DecidableEq, Repr

/-- How the execution of a query and the fetching of its rows go. -/
inductive QueryCourse where
  | answers
  | raises (raised : PyExc) (rolledBack : Bool)
  deriving DecidableEq, Repr

/-- How `open` goes. It has its connection before it sets the journal mode and makes the tables.
-/
inductive OpenCourse where
  | opens
  | connectRaises (raised : PyExc)
  | setupRaises (raised : PyExc)
  deriving DecidableEq, Repr

/-- `MemoryStore`: its file, and what its connection sees, if it is open. -/
structure SqliteStore where
  file : Tables
  connection : Option Tables

namespace SqliteStore

/-- A store over a new file. -/
def fresh : SqliteStore := ⟨Tables.empty, none⟩

/-- `MemoryStore.open`. A connection that is open is dropped with its transaction. -/
def «open» (course : OpenCourse) (store : SqliteStore) : Except PyExc Unit × SqliteStore :=
  match course with
  | .opens => (.ok (), { store with connection := some store.file })
  | .connectRaises raised => (.error raised, store)
  | .setupRaises raised => (.error raised, { store with connection := some store.file })

/-- `MemoryStore.close`, and also the end of the process. -/
def close (store : SqliteStore) : SqliteStore := { store with connection := none }

/-- The end of the open transaction. -/
def rollback (store : SqliteStore) (rolledBack : Bool) : SqliteStore :=
  if rolledBack then { store with connection := some store.file } else store

/-- A method that executes a query. -/
def query {α : Type} (select : Tables → α) (course : QueryCourse) (store : SqliteStore) :
    Except PyExc α × SqliteStore :=
  match store.connection with
  | none => (.error .assertionError, store)
  | some tables =>
      match course with
      | .answers => (.ok (select tables), store)
      | .raises raised rolledBack => (.error raised, store.rollback rolledBack)

/-- A method that executes a statement and commits. -/
def write (statement : Tables → Tables) (course : WriteCourse) (store : SqliteStore) :
    Except PyExc Unit × SqliteStore :=
  match store.connection with
  | none => (.error .assertionError, store)
  | some tables =>
      match course with
      | .commits => (.ok (), ⟨statement tables, some (statement tables)⟩)
      | .executeRaises raised rolledBack => (.error raised, store.rollback rolledBack)
      | .commitRaises raised rolledBack =>
          (.error raised,
            ({ store with connection := some (statement tables) } : SqliteStore).rollback
              rolledBack)

/-- `MemoryStore.get`. -/
def get (key : Text) (course : QueryCourse) (store : SqliteStore) :
    Except PyExc (Option Text) × SqliteStore :=
  store.query (Tables.selectValue key) course

/-- `MemoryStore.set`. -/
def set (key value now : Text) (course : WriteCourse) (store : SqliteStore) :
    Except PyExc Unit × SqliteStore :=
  store.write (Tables.insertOrReplace ⟨key, value, now⟩) course

/-- `MemoryStore.delete`. -/
def delete (key : Text) (course : WriteCourse) (store : SqliteStore) :
    Except PyExc Unit × SqliteStore :=
  store.write (Tables.deleteKey key) course

/-- `MemoryStore.keys`. -/
def keys (course : QueryCourse) (store : SqliteStore) : Except PyExc (List Text) × SqliteStore :=
  store.query Tables.selectKeys course

/-- `MemoryStore.checkpoint`. -/
def checkpoint (label data now : Text) (course : WriteCourse) (store : SqliteStore) :
    Except PyExc Unit × SqliteStore :=
  store.write (Tables.insertCheckpoint label data now) course

/-- `MemoryStore.get_latest_checkpoint`. -/
def getLatestCheckpoint (label : Text) (course : QueryCourse) (store : SqliteStore) :
    Except PyExc (Option Text) × SqliteStore :=
  store.query (Tables.selectLatest label) course

/-- `MemoryStore.list_checkpoints`: each label with its time. -/
def listCheckpoints (course : QueryCourse) (store : SqliteStore) :
    Except PyExc (List (Text × Text)) × SqliteStore :=
  store.query Tables.selectLabels course

end SqliteStore

/-- A call of a method of the store, or the end of the process that has it open. -/
inductive StoreCall where
  | «open» (course : OpenCourse)
  | close
  | crash
  | get (key : Text) (course : QueryCourse)
  | set (key value now : Text) (course : WriteCourse)
  | delete (key : Text) (course : WriteCourse)
  | keys (course : QueryCourse)
  | checkpoint (label data now : Text) (course : WriteCourse)
  | getLatestCheckpoint (label : Text) (course : QueryCourse)
  | listCheckpoints (course : QueryCourse)
  deriving DecidableEq, Repr

/-- What the methods return. -/
inductive StoreAnswer where
  | none
  | text (value : Option Text)
  | texts (values : List Text)
  | labels (values : List (Text × Text))
  deriving DecidableEq, Repr

namespace SqliteStore

/-- A call, with what it returns or raises. -/
def perform (store : SqliteStore) : StoreCall → Except PyExc StoreAnswer × SqliteStore
  | .open course => (store.open course).map (·.map fun _ => .none) id
  | .close => (.ok .none, store.close)
  | .crash => (.ok .none, store.close)
  | .get key course => (store.get key course).map (·.map .text) id
  | .set key value now course => (store.set key value now course).map (·.map fun _ => .none) id
  | .delete key course => (store.delete key course).map (·.map fun _ => .none) id
  | .keys course => (store.keys course).map (·.map .texts) id
  | .checkpoint label data now course =>
      (store.checkpoint label data now course).map (·.map fun _ => .none) id
  | .getLatestCheckpoint label course =>
      (store.getLatestCheckpoint label course).map (·.map .text) id
  | .listCheckpoints course => (store.listCheckpoints course).map (·.map .labels) id

end SqliteStore

end Vcompany.Shared
