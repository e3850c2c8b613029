/-
Module: ServiceLifecycle.Value.Basic
Purpose: Configuration values.
Main exports: Value, Table, Value.at?, Value.settled
-/
import ServiceLifecycle.Entries

namespace ServiceLifecycle

/-!
A configuration value is a scalar, a list or a table.  Integers and floats are
different even when they are numerically equal: `2` is an integer and `2.0` is
not.  The keys of a table ascend.
-/

/-- A configuration value. -/
inductive Value where
  | null
  | bool (value : Bool)
  | int (value : Int)
  | float (value : Float)
  | text (value : String)
  | list (items : List Value)
  | table (entries : List (String × Value))
deriving Repr, Inhabited, BEq

/-- The entries of a table, by ascending key. -/
abbrev Table := Entries Value

namespace Value

/-- The entries of a table. -/
def table? : Value → Option Table
  | .table entries => some entries
  | _ => none

/-- The characters of a text. -/
def text? : Value → Option String
  | .text value => some value
  | _ => none

/-- The entry of a table under a key; other values have no entries. -/
def child? (key : String) : Value → Option Value
  | .table entries => Entries.get? key entries
  | _ => none

mutual

/-- Floats that are not finite have no place in settings: they become null. -/
def settled : Value → Value
  | .float x => if x.isFinite then .float x else .null
  | .list items => .list (settledItems items)
  | .table entries => .table (settledEntries entries)
  | value => value

/-- `settled` on the items of a list. -/
def settledItems : List Value → List Value
  | [] => []
  | item :: rest => item.settled :: settledItems rest

/-- `settled` on the entries of a table. -/
def settledEntries : List (String × Value) → List (String × Value)
  | [] => []
  | (key, value) :: rest => (key, value.settled) :: settledEntries rest
end

end Value

end ServiceLifecycle
