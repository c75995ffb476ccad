import Vcompany.Foundation.Text
import Mathlib.Data.Rat.Floor
import Mathlib.Data.Finset.Basic

/-! # Dynamically typed values

The values that a YAML or JSON document can be parsed to, with the operations a
Python program applies to a value whose type it has not checked: truth, `get`,
iteration, hashing into a set, `startswith` and `join`. An operation on a value
of the wrong type raises, as it does in Python.
-/

namespace Vcompany.Foundation

/-- The exceptions a program raises, catches or lets through. -/
inductive PyExc where
  | attributeError
  | typeError
  | indexError
  | keyError
  | valueError
  | assertionError
  | jsonDecodeError
  | yamlError
  | osError
  | other
  deriving DecidableEq, Repr

namespace PyExc

variable {α β : Type}

/-- A computation returns when its first part and then the rest return. -/
theorem bind_eq_ok_iff {first : Except PyExc α} {rest : α → Except PyExc β} {result : β} :
    first >>= rest = .ok result ↔ ∃ value, first = .ok value ∧ rest value = .ok result := by
  cases first <;> simp [bind, Except.bind]

theorem ok_bind (value : α) (rest : α → Except PyExc β) :
    (Except.ok value : Except PyExc α) >>= rest = rest value := rfl

theorem error_bind (raised : PyExc) (rest : α → Except PyExc β) :
    (Except.error raised : Except PyExc α) >>= rest = .error raised := rfl

end PyExc

/-- A parsed value. Numbers are compared and hashed by value across `bool`,
`int` and `float`. An `other` object (a date, an infinity, a tuple) is known by
its truth and, when it can be hashed, by its class under equality. -/
inductive PyValue where
  | none
  | str (text : Text)
  | num (value : ℚ)
  | other (key : Option ℕ) (truth : Bool)
  | bytes (octets : List ℕ)
  | list (items : List PyValue)
  | set (items : List PyValue)
  | dict (entries : List (PyValue × PyValue))

/-- What a set keeps of a value: values with one key are one element. -/
inductive HashKey where
  | none
  | str (text : Text)
  | num (value : ℚ)
  | other (key : ℕ)
  | bytes (octets : List ℕ)
  deriving DecidableEq

namespace PyValue

/-- `bool(value)`. -/
def truthy : PyValue → Bool
  | none => false
  | str text => !text.isEmpty
  | num value => value != 0
  | other _ truth => truth
  | bytes octets => !octets.isEmpty
  | list items => !items.isEmpty
  | set items => !items.isEmpty
  | dict entries => !entries.isEmpty

/-- The value is the string `key`. -/
def isStr (key : Text) : PyValue → Bool
  | str text => text == key
  | _ => false

/-- `value.get(key, default)` with a string key. -/
def get (value : PyValue) (key : Text) (default : PyValue) : Except PyExc PyValue :=
  match value with
  | dict entries => .ok (((entries.find? fun entry => entry.1.isStr key).map Prod.snd).getD default)
  | _ => .error .attributeError

/-- `iter(value)`: the items in order. -/
def iter : PyValue → Except PyExc (List PyValue)
  | str text => .ok (text.map fun c => str [c])
  | bytes octets => .ok (octets.map fun octet => num octet)
  | list items => .ok items
  | set items => .ok items
  | dict entries => .ok (entries.map Prod.fst)
  | _ => .error .typeError

/-- `hash(value)`, with the value's class under equality. -/
def hash : PyValue → Except PyExc HashKey
  | none => .ok .none
  | str text => .ok (.str text)
  | num value => .ok (.num value)
  | other (some key) _ => .ok (.other key)
  | bytes octets => .ok (.bytes octets)
  | _ => .error .typeError

/-- The keys of a list of values. -/
def hashAll : List PyValue → Except PyExc (Finset HashKey)
  | [] => .ok ∅
  | item :: rest => do
      let key ← item.hash
      let keys ← hashAll rest
      return insert key keys

/-- `set(value)`. -/
def toSet (value : PyValue) : Except PyExc (Finset HashKey) := do
  hashAll (← value.iter)

/-- `any(value.startswith(d) for d in starts)`. -/
def startsWithAny (starts : List Text) : PyValue → Except PyExc Bool
  | str text => .ok (starts.any fun start => decide (start <+: text))
  | bytes _ => if starts.isEmpty then .ok false else .error .typeError
  | _ => if starts.isEmpty then .ok false else .error .attributeError

/-- The texts of a list of strings. -/
def strs : List PyValue → Except PyExc (List Text)
  | [] => .ok []
  | str text :: rest => do return text :: (← strs rest)
  | _ :: _ => .error .typeError

/-- `sep.join(items)`. -/
def join (sep : Text) (items : List PyValue) : Except PyExc Text := do
  return List.intercalate sep (← strs items)

@[simp] theorem get_dict_nil (key : Text) (default : PyValue) :
    (dict []).get key default = .ok default := rfl

@[simp] theorem truthy_list_nil : (list []).truthy = false := rfl

end PyValue

/-- What a program uses of the interpreter and of its libraries. -/
structure PyRuntime where
  /-- The case tables of `str.lower`. -/
  casing : Text.Casing
  /-- `yaml.safe_load`. -/
  safeLoad : Text → Except PyExc PyValue
  /-- `json.loads`. -/
  loads : Text → Except PyExc PyValue
  /-- `json.dumps`. -/
  dumps : PyValue → Text
  /-- `str` of a value that is not a string. -/
  repr : PyValue → Text

/-- `str(value)`. -/
def PyRuntime.format (py : PyRuntime) : PyValue → Text
  | .str text => text
  | value => py.repr value

/-- `int(value)` of a `float`. -/
def truncate (value : ℚ) : ℤ := if 0 ≤ value then ⌊value⌋ else ⌈value⌉

/-- `str(value)` of an `int`. -/
def intText (value : ℤ) : Text := (toString value).toList

end Vcompany.Foundation
