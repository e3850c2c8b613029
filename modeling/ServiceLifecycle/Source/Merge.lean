/-
Module: ServiceLifecycle.Source.Merge
Purpose: One configuration tree laid over another.
Main exports: Value.overlay, Table.overlay
-/
import ServiceLifecycle.Value.Basic

namespace ServiceLifecycle

/-!
A source of higher priority overrides a lower one key by key.  Two tables under
one key are merged in turn; any other value, lists included, replaces what was
there as a whole.
-/

namespace Value

mutual

/-- Lay the second value over the first. -/
def overlay (low : Value) : Value → Value
  | .table high =>
      match low with
      | .table entries => .table (overlayEntries entries high)
      | _ => .table high
  | high => high

/-- Lay entries over a table, one after the other. -/
def overlayEntries (low : List (String × Value)) :
    List (String × Value) → List (String × Value)
  | [] => low
  | (key, high) :: rest =>
      let merged :=
        match Entries.get? key low with
        | some old => old.overlay high
        | none => high
      overlayEntries (Entries.putSorted key merged low) rest
end

end Value

/-- Lay the second table over the first. -/
def Table.overlay (low high : Table) : Table :=
  Value.overlayEntries low high

end ServiceLifecycle
