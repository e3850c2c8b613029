/-
Module: ServiceLifecycle.Pattern.Height
Purpose: How deep the parts of a regular expression are nested.
Main exports: rowHeight, greatestHeight
-/

namespace ServiceLifecycle.Pattern

/-!
The *height* of a part is the length of the longest way down to one of its items.  Parts
in a row, alternatives and the members of a class are one level above the highest of
them; a part that stands alone makes no level.
-/

/-- The greatest height that an expression may have. -/
def greatestHeight : Nat := 250

/-- The height of parts that stand side by side. -/
def rowHeight : List Nat → Nat
  | [] => 0
  | [height] => height
  | heights => 1 + heights.foldl max 0

example : rowHeight [] = 0 ∧ rowHeight [3] = 3 ∧ rowHeight [3, 0] = 4 := by decide

end ServiceLifecycle.Pattern
