/-
Module: ServiceLifecycle.Text.Hexadecimal
Purpose: Hexadecimal digits, and characters by their number.
Main exports: hexValue?, hexNumber?, scalar?
-/

namespace ServiceLifecycle.Text

/-!
Texts of several kinds name a character by its number, written in hexadecimal digits of
either case.  Surrogates and numbers beyond the last code point are no characters.
-/

/-- The value of a hexadecimal digit. -/
def hexValue? (c : Char) : Option Nat :=
  if '0' ≤ c && c ≤ '9' then some (c.toNat - '0'.toNat)
  else if 'a' ≤ c && c ≤ 'f' then some (c.toNat - 'a'.toNat + 10)
  else if 'A' ≤ c && c ≤ 'F' then some (c.toNat - 'A'.toNat + 10)
  else none

/-- The number that a run of hexadecimal digits denotes. -/
def hexNumber? (digits : List Char) : Option Nat :=
  digits.foldl (fun value d => do return (← value) * 16 + (← hexValue? d)) (some 0)

/-- The character for a number, unless the number is none of a character. -/
def scalar? (n : Nat) : Option Char :=
  if n < 0xd800 || (0xe000 ≤ n && n < 0x110000) then some (Char.ofNat n) else none

example : (hexNumber? ['e', '9']).bind scalar? = some 'é' ∧ scalar? 0xd800 = none := by decide

end ServiceLifecycle.Text
