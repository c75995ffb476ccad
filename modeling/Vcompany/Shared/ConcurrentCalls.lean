import Vcompany.Foundation.SharedTransaction
import Vcompany.Shared.StoreContents

/-! # Calls of a memory at the same time

`MemoryStore` has one connection, whose thread executes one statement after the other. A call
that writes waits for its statement and again for its commit, and other calls go on meanwhile,
in the same transaction. A call may be cancelled while it waits, or raise, and the process may
end.

What the file holds is what the calls that were kept give one after the other, in the order in
which they were made, and every call that returned is one of them unless a statement that raised
has rolled it back (`concurrent_calls`). So the value of a key is never older than the last call
that wrote it and returned (`newest_value`).
-/

namespace Vcompany.Shared

open Foundation SharedTransaction

/-- A call that writes. -/
inductive StoreChange where
  | set (key value now : Text)
  | delete (key : Text)
  | checkpoint (label data now : Text)
  deriving DecidableEq, Repr

namespace StoreChange

/-- The statement that the call executes. -/
def statement : StoreChange → Tables → Tables
  | set key value now => Tables.insertOrReplace ⟨key, value, now⟩
  | delete key => Tables.deleteKey key
  | checkpoint label data now => Tables.insertCheckpoint label data now

/-- What the call does to the contents. -/
def change : StoreChange → Contents → Contents
  | set key value _ => Contents.put key value
  | delete key => Contents.remove key
  | checkpoint label data now => Contents.note ⟨label, data, now⟩

/-- The value that the call gives to the key. -/
def gives (key : Text) : StoreChange → Option (Option Text)
  | set written value _ => if written = key then some (some value) else none
  | delete written => if written = key then some none else none
  | checkpoint _ _ _ => none

/-- The data that the call gives to the newest checkpoint with the label. -/
def notes (label : Text) : StoreChange → Option (Option Text)
  | set _ _ _ | delete _ => none
  | checkpoint noted data _ => if noted = label then some (some data) else none

theorem represents_statement {tables : Tables} {contents : Contents}
    (represents : Represents tables contents) (call : StoreChange) :
    Represents (call.statement tables) (call.change contents) := by
  cases call with
  | set key value now => exact represents.insertOrReplace ⟨key, value, now⟩
  | delete key => exact represents.deleteKey key
  | checkpoint label data now => exact represents.insertCheckpoint label data now

theorem values_change (key : Text) (call : StoreChange) (contents : Contents) :
    (call.change contents).values key = (call.gives key).getD (contents.values key) := by
  cases call with
  | set written value now =>
      by_cases own : written = key
      · rw [gives, if_pos own, ← own]
        exact MemoryStore.set_self ..
      · rw [gives, if_neg own]
        exact MemoryStore.set_of_ne _ _ (Ne.symm own)
  | delete written =>
      by_cases own : written = key
      · rw [gives, if_pos own, ← own]
        exact MemoryStore.delete_self ..
      · rw [gives, if_neg own]
        exact MemoryStore.delete_of_ne _ (Ne.symm own)
  | checkpoint label data now => rfl

theorem latest_change (label : Text) (call : StoreChange) (contents : Contents) :
    (call.change contents).latest label = (call.notes label).getD (contents.latest label) := by
  cases call with
  | set written value now => rfl
  | delete written => rfl
  | checkpoint noted data now =>
      change ((⟨noted, data, now⟩ :: contents.log).find? _).map Checkpoint.data = _
      by_cases own : noted = label
      · rw [notes, if_pos own, List.find?_cons_of_pos (by simpa using own)]
        rfl
      · rw [notes, if_neg own, List.find?_cons_of_neg (by simpa using own)]
        rfl

end StoreChange

/-- A memory, whose calls share the connection. -/
abbrev SharedStore := SharedTransaction Tables StoreChange

namespace SharedStore

/-- The store over a new file, after the events. -/
def after (events : List (Event StoreChange)) : SharedStore :=
  (unopened Tables.empty).run StoreChange.statement events

/-- The contents that the calls give one after the other. -/
def contents (entries : List (CallChange StoreChange)) : Contents :=
  replay StoreChange.change Contents.empty entries

/-- The calls of the store might as well have been made one after the other: those that are kept,
and then those that the open transaction has made, in the order in which they were called. A call
that returned though it was undone has committed a transaction that had lost its change: the
statement that raised was another call's. -/
structure Serialized (store : SharedStore) : Prop where
  ordered : ((store.kept ++ store.pending).map Prod.fst).Pairwise (· < ·)
  called : ∀ entry ∈ store.kept, store.changes[entry.1]? = some entry.2
  file : Represents store.saved (contents store.kept)
  connection : ∀ current, store.transaction = some current →
    Represents current.seen (contents (store.kept ++ current.pending))
  acknowledged : ∀ call, store.progress call = .returned →
    call ∈ store.kept.map Prod.fst ∨ call ∈ store.undone.map Prod.fst
  apart : ∀ call ∈ store.undone.map Prod.fst, call ∉ store.kept.map Prod.fst

theorem represents_replay (entries : List (CallChange StoreChange)) {tables : Tables}
    {contents : Contents} (represents : Represents tables contents) :
    Represents (replay StoreChange.statement tables entries)
      (replay StoreChange.change contents entries) := by
  induction entries generalizing tables contents with
  | nil => exact represents
  | cons entry entries ih => exact ih (StoreChange.represents_statement represents entry.2)

theorem serialized_of_ledger {store : SharedStore}
    (ledger : Ledger StoreChange.statement Tables.empty store) : Serialized store := by
  have onFile : Represents store.saved (contents store.kept) := by
    rw [ledger.saved]
    exact represents_replay store.kept .empty
  have once := ledger.once
  unfold entries at once
  rw [List.append_assoc, List.map_append, List.map_append, List.append_assoc] at once
  refine ⟨?_, fun entry member => ledger.recorded entry ?_, onFile, fun current opened => ?_,
    fun call returned => ?_, fun call undone kept => ?_⟩
  · exact ledger.ascending.sublist (List.Sublist.map _ (List.sublist_append_left _ _))
  · simp only [entries, List.mem_append]
    tauto
  · unfold contents
    rw [ledger.seen current opened, replay_append]
    exact represents_replay current.pending onFile
  · have known := ledger.acknowledged call (Or.inr returned)
    rwa [List.map_append, List.mem_append] at known
  · exact (List.nodup_append.mp once).2.2 call kept call (List.mem_append_left _ undone) rfl

/-- **Calls at the same time.** After any events, the file and the open connection hold what
the kept calls give one after the other, in the order of the calls. Every call that returned is
kept unless it was undone, and none is undone where no statement that raises rolls the
transaction back. -/
theorem concurrent_calls (events : List (Event StoreChange)) :
    Serialized (after events) ∧ (.serves (some true) ∉ events → (after events).undone = []) :=
  ⟨serialized_of_ledger (ledger_run StoreChange.statement Tables.empty events),
    undone_run StoreChange.statement (unopened Tables.empty)⟩

/-! ## What the file holds -/

/-- The call has returned, and was not undone. -/
def Acknowledged (store : SharedStore) (call : ℕ) : Prop :=
  store.progress call = .returned ∧ call ∉ store.undone.map Prod.fst

namespace Serialized

variable {store : SharedStore}

theorem exists_kept (serialized : Serialized store) {call : ℕ}
    (acknowledged : store.Acknowledged call) : ∃ change, (call, change) ∈ store.kept := by
  have kept := (serialized.acknowledged call acknowledged.1).resolve_right acknowledged.2
  obtain ⟨⟨_, change⟩, member, rfl⟩ := List.mem_map.mp kept
  exact ⟨change, member⟩

/-- An acknowledged call is one of those that were kept. -/
theorem kept_of_acknowledged (serialized : Serialized store) {call : ℕ} {change : StoreChange}
    (called : store.changes[call]? = some change) (acknowledged : store.Acknowledged call) :
    (call, change) ∈ store.kept := by
  obtain ⟨made, member⟩ := serialized.exists_kept acknowledged
  have same := called.symm.trans (serialized.called _ member)
  rwa [Option.some.inj same]

/-- What is seen of the contents of the file was given by a call, or is what is seen of an empty
file, and no later call that gives anything has been acknowledged. -/
theorem newest (serialized : Serialized store) {α : Type} {view : Contents → α}
    {gives : StoreChange → Option α}
    (follows : ∀ change contents,
      view (StoreChange.change change contents) = (gives change).getD (view contents)) :
    (∃ call change, (call, change) ∈ store.kept ∧
        gives change = some (view (contents store.kept)) ∧
        ∀ later written, call < later → store.changes[later]? = some written →
          store.Acknowledged later → gives written = none) ∨
      view (contents store.kept) = view Contents.empty ∧ ∀ later written,
        store.changes[later]? = some written → store.Acknowledged later →
          gives written = none := by
  rcases view_replay follows Contents.empty store.kept with
    ⟨before, ⟨call, change⟩, rest, cut, gave, silent⟩ | ⟨none, silent⟩
  · have member : (call, change) ∈ store.kept := by
      rw [cut]
      simp
    refine Or.inl ⟨call, change, member, gave, ?_⟩
    intro later written follows called acknowledged
    have kept := serialized.kept_of_acknowledged called acknowledged
    have ordered := serialized.ordered.sublist
      (List.Sublist.map _ (List.sublist_append_left store.kept store.pending))
    rw [cut, List.map_append, List.pairwise_append] at ordered
    rw [cut, List.mem_append, List.mem_cons] at kept
    rcases kept with earlier | own | after
    · have precedes := ordered.2.2 later (List.mem_map.mpr ⟨_, earlier, rfl⟩) call
        (List.mem_map.mpr ⟨_, List.mem_cons_self, rfl⟩)
      omega
    · obtain ⟨rfl, rfl⟩ := Prod.mk.inj own
      omega
    · exact silent _ after
  · refine Or.inr ⟨none, fun later written called acknowledged => ?_⟩
    exact silent _ (serialized.kept_of_acknowledged called acknowledged)

/-- The value of a key stays where the calls that come to be kept do not give one. -/
theorem value_of_kept {next : SharedStore} (serialized : Serialized store)
    (serialized' : Serialized next) {more : List (CallChange StoreChange)}
    (kept : next.kept = store.kept ++ more) {key : Text}
    (silent : ∀ entry ∈ more, entry.2.gives key = none) :
    next.saved.selectValue key = store.saved.selectValue key := by
  rw [serialized'.file.values, serialized.file.values, kept]
  unfold contents
  rw [replay_append]
  rcases @view_replay _ _ _ StoreChange.change (fun contents => contents.values key)
      (StoreChange.gives key) (StoreChange.values_change key)
      (replay StoreChange.change Contents.empty store.kept) more with
    ⟨before, entry, rest, rfl, gave, _⟩ | ⟨same, _⟩
  · have none := silent entry (by simp)
    rw [none] at gave
    cases gave
  · exact same

/-- The value that the file holds for a key was given by a call, or is that of an empty file,
and no later call that wrote the key has been acknowledged. -/
theorem newest_value (serialized : Serialized store) (key : Text) :
    (∃ call change, (call, change) ∈ store.kept ∧
        change.gives key = some (store.saved.selectValue key) ∧
        ∀ later written, call < later → store.changes[later]? = some written →
          store.Acknowledged later → written.gives key = none) ∨
      store.saved.selectValue key = none ∧ ∀ later written,
        store.changes[later]? = some written → store.Acknowledged later →
          written.gives key = none := by
  rw [serialized.file.values key]
  exact @newest _ serialized _ (fun contents => contents.values key) (StoreChange.gives key)
    (StoreChange.values_change key)

/-- So does the newest checkpoint with a label. -/
theorem newest_checkpoint (serialized : Serialized store) (label : Text) :
    (∃ call change, (call, change) ∈ store.kept ∧
        change.notes label = some (store.saved.selectLatest label) ∧
        ∀ later written, call < later → store.changes[later]? = some written →
          store.Acknowledged later → written.notes label = none) ∨
      store.saved.selectLatest label = none ∧ ∀ later written,
        store.changes[later]? = some written → store.Acknowledged later →
          written.notes label = none := by
  rw [serialized.file.selectLatest label]
  exact @newest _ serialized _ (Contents.latest label) (StoreChange.notes label)
    (StoreChange.latest_change label)

end Serialized

/-! ## A call that nothing interrupts -/

/-- The turns of a call that is alone. -/
def alone (call : ℕ) (change : StoreChange) : WriteCourse → List (Event StoreChange)
  | .commits => [.asks change, .serves none, .resumes call, .serves none, .resumes call]
  | .executeRaises _ rolledBack => [.asks change, .serves (some rolledBack)]
  | .commitRaises _ rolledBack =>
      [.asks change, .serves none, .resumes call, .serves (some rolledBack)]

/-- The store as a sequence of calls sees it. -/
def sequential (store : SharedStore) : SqliteStore := ⟨store.saved, store.transaction.map Open.seen⟩

/-- Calls of which none interrupts another are the calls of `SqliteStore`. -/
theorem sequential_alone {store : SharedStore} (running : store.running = true)
    (quiet : store.demands = []) {current : Open Tables StoreChange}
    (opened : store.transaction = some current) (change : StoreChange) (course : WriteCourse) :
    sequential (store.run StoreChange.statement (alone store.changes.length change course)) =
      (store.sequential.write change.statement course).2 := by
  obtain ⟨saved, _, _, _, changes, progress, kept, undone⟩ := store
  obtain rfl : _ = true := running
  obtain rfl : _ = [] := quiet
  obtain rfl : _ = some current := opened
  cases course with
  | commits =>
      simp [run, alone, perform, asks, serves, serve, makes, commits, advances, resumes,
        sequential, SqliteStore.write]
  | executeRaises raised rolledBack =>
      cases rolledBack <;> simp [run, alone, perform, asks, serves, serve, makes, faults, fails,
        sequential, SqliteStore.write, SqliteStore.rollback]
  | commitRaises raised rolledBack =>
      cases rolledBack <;> simp [run, alone, perform, asks, serves, serve, makes, commits,
        advances, resumes, faults, fails, sequential, SqliteStore.write, SqliteStore.rollback]

end SharedStore

end Vcompany.Shared
