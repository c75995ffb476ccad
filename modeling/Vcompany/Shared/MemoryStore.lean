import Vcompany.Foundation.PyValue
import Mathlib.Logic.Function.Basic

/-! # The key-value store of an agent

The table of a `MemoryStore`, whose values are given as their readers parse them.
Writing a key takes a statement and a commit, each of which may raise.
-/

namespace Vcompany.Shared

open Foundation

/-- The `kv` table: the value of each key, if it has one. -/
abbrev MemoryStore (ν : Type) := Text → Option ν

namespace MemoryStore

variable {ν : Type}

/-- `MemoryStore.set`. -/
def set (memory : MemoryStore ν) (key : Text) (value : ν) : MemoryStore ν :=
  Function.update memory key (some value)

/-- `MemoryStore.delete`. -/
def delete (memory : MemoryStore ν) (key : Text) : MemoryStore ν :=
  Function.update memory key none

@[simp] theorem set_self (memory : MemoryStore ν) (key : Text) (value : ν) :
    memory.set key value key = some value := Function.update_self ..

theorem set_of_ne (memory : MemoryStore ν) {key other : Text} (value : ν) (distinct : other ≠ key) :
    memory.set key value other = memory other := Function.update_of_ne distinct ..

@[simp] theorem delete_self (memory : MemoryStore ν) (key : Text) :
    memory.delete key key = none := Function.update_self ..

theorem delete_of_ne (memory : MemoryStore ν) {key other : Text} (distinct : other ≠ key) :
    memory.delete key other = memory other := Function.update_of_ne distinct ..

end MemoryStore

/-- How a write to the store goes. -/
inductive StoreWrite where
  | succeeds
  | executeRaises (raised : PyExc)
  | commitRaises (raised : PyExc)
  deriving DecidableEq, Repr

end Vcompany.Shared
