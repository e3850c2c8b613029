/-
Module: ServiceLifecycle.Configuration.Properties
Purpose: A section flattened to dotted keys and plain texts.
Main exports: Configuration.properties
-/
import ServiceLifecycle.Configuration.Basic
import ServiceLifecycle.Value.Printer

namespace ServiceLifecycle

/-!
Programs that only know text properties read a section as one flat map.  A
table contributes the properties of its entries, with its own key and a dot in
front; a list is joined by commas; null is the empty text.  Where two values
flatten to one key, the one that comes later in the section wins.
-/

namespace Value

/-- The text of an item inside a list property: a text as it is. -/
def itemText : Value → String
  | .text value => value
  | other => other.render

mutual

/-- The properties of a value under a key. -/
def flatten (key : String) : Value → List (String × String)
  | .table entries => flattenEntries (key ++ ".") entries
  | .list items => [(key, ",".intercalate (items.map itemText))]
  | .text value => [(key, value)]
  | .null => [(key, "")]
  | value => [(key, value.render)]

/-- The properties of the entries of a table, each key behind a stem. -/
def flattenEntries (stem : String) : List (String × Value) → List (String × String)
  | [] => []
  | (key, value) :: rest => value.flatten (stem ++ key) ++ flattenEntries stem rest
end

end Value

namespace Configuration

/-- The properties of a section, by ascending key. -/
def properties (config : Configuration) : Entries String :=
  Entries.sorted (Value.flattenEntries "" config)

end Configuration

end ServiceLifecycle
