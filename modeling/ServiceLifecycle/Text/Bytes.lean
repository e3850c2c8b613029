/-
Module: ServiceLifecycle.Text.Bytes
Purpose: Places in a text, counted in the bytes of its UTF-8 encoding.
Main exports: byteLength, splitAtByte?, betweenBytes?
-/

namespace ServiceLifecycle.Text

/-!
A place in a text is the number of bytes in front of it.  Not every number is a
place: a character may take several bytes, and nothing is cut inside of one.
-/

/-- How many bytes the characters take. -/
def byteLength : List Char → Nat
  | [] => 0
  | c :: rest => c.utf8Size + byteLength rest

/-- Split a text at a place. -/
def splitAtByte? : Nat → List Char → Option (List Char × List Char)
  | 0, chars => some ([], chars)
  | _ + 1, [] => none
  | place + 1, c :: rest =>
      if c.utf8Size ≤ place + 1 then
        (splitAtByte? (place + 1 - c.utf8Size) rest).map fun (before, after) =>
          (c :: before, after)
      else
        none

/-- The text between two places. -/
def betweenBytes? (first last : Nat) (chars : List Char) : Option (List Char) := do
  let (_, rest) ← splitAtByte? first chars
  let (between, _) ← splitAtByte? (last - first) rest
  some between

example : splitAtByte? 2 ['é', 'x'] = some (['é'], ['x']) ∧ splitAtByte? 1 ['é'] = none := by
  decide

end ServiceLifecycle.Text
