/-
Module: ServiceLifecycle.Value.Annotation
Purpose: Tables that stand for the value they carry.
Main exports: Value.carried?, Value.carriedEntries?
-/
import ServiceLifecycle.Value.Basic

namespace ServiceLifecycle.Value

/-!
In a file a value may be written as a table that carries it under a reserved key; the
other entries of such a table say something about the value and are dropped.  A second
reserved key belongs to the program: a file must not use it.
-/

/-- The reserved key of the value that a table carries. -/
def carriedKey : String := "___figment_value_value"

/-- The reserved key that no file may use. -/
def ownKey : String := "___figment_value_id"

/-- What a table stands for whose entries have been looked at. -/
def ofCarrier? (entries : Table) : Option Value :=
  if entries.contains ownKey then none
  else some ((entries.get? carriedKey).getD (.table entries))

mutual

/-- The value with what each table in it stands for. -/
def carried? : Value → Option Value
  | .list items => (carriedItems? items).map .list
  | .table entries => (carriedEntries? entries).bind ofCarrier?
  | value => some value

/-- `carried?` on the items of a list. -/
def carriedItems? : List Value → Option (List Value)
  | [] => some []
  | item :: rest => do
      let item ← item.carried?
      return item :: (← carriedItems? rest)

/-- `carried?` on the entries of a table. -/
def carriedEntries? : List (String × Value) → Option (List (String × Value))
  | [] => some []
  | (key, value) :: rest => do
      let value ← value.carried?
      return (key, value) :: (← carriedEntries? rest)
end

example : carried? (.list [.table [("note", .int 1), (carriedKey, .bool true)]]) =
    some (.list [.bool true]) := by
  rfl

end ServiceLifecycle.Value
