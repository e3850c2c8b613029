/-
Module: ServiceLifecycle.Decimal.Notation
Purpose: The text of a number in configuration values, and reading it back.
Main exports: Layout, Layout.text, settingLayout, parse?
-/
import ServiceLifecycle.Decimal.Shortest

namespace ServiceLifecycle.Decimal

/-!
How the digits of a number are laid out is a choice of the output format, not
of the number.  One record states the choice that configuration values use.
-/

/-- Which exponents are written out in place, and whether a positive exponent
carries its sign. -/
structure Layout where
  /-- The smallest exponent of the leading digit that is written in place. -/
  smallest : Int
  /-- The largest exponent of the leading digit that is written in place. -/
  largest : Int
  /-- A positive exponent is written with a plus sign. -/
  signed : Bool
deriving Repr, Inhabited, DecidableEq

/-- Configuration values are written in place from `10 ^ -5` to below
`10 ^ 16`, and a point always separates the fraction there. -/
def settingLayout : Layout := ⟨-5, 15, true⟩

/-- The digits of a natural number in base 10. -/
def digitChars (n : Nat) : List Char :=
  Nat.toDigits 10 n

/-- The digits with a point after the leading one, which has the exponent
`order`; at least one digit follows the point. -/
def inPlace (digits : List Char) (order : Int) : List Char :=
  if order < 0 then
    '0' :: '.' :: (List.replicate (-order - 1).toNat '0' ++ digits)
  else
    let whole := order.toNat + 1
    let padded := digits ++ List.replicate (whole - digits.length) '0'
    let fraction := padded.drop whole
    padded.take whole ++ '.' :: (if fraction.isEmpty then ['0'] else fraction)

/-- The digits with a point after the first, if more follow, and the exponent. -/
def withExponent (signed : Bool) (digits : List Char) (order : Int) : List Char :=
  let mantissa :=
    match digits with
    | [] => []
    | [d] => [d]
    | d :: rest => d :: '.' :: rest
  let sign := if order < 0 then ['-'] else if signed then ['+'] else []
  mantissa ++ 'e' :: (sign ++ digitChars order.natAbs)

/-- The text of a decimal number in the given layout. -/
def Layout.decimalText (layout : Layout) (d : Numeral) : List Char :=
  let digits := digitChars d.digits
  let order := d.exponent + digits.length - 1
  if layout.smallest ≤ order && order ≤ layout.largest then
    inPlace digits order
  else
    withExponent layout.signed digits order

/-- The text of a double: the shortest digits that read back, in the given
layout.  Zero keeps its sign. -/
def Layout.text (layout : Layout) (x : Float) : String :=
  let sign := if isNegative x then "-" else ""
  match Binary.ofFloat? x with
  | some b => sign ++ String.ofList (layout.decimalText b.shortest)
  | none => if x.isNaN then "NaN" else if x.isInf then sign ++ "inf" else sign ++ "0.0"

/-!
Reading takes digits, an optional fraction and an optional exponent; at least
one digit stands before or after the point.
-/

/-- The value of a run of decimal digits. -/
def digitsValue (digits : List Char) : Nat :=
  digits.foldl (fun value d => value * 10 + (d.toNat - '0'.toNat)) 0

/-- Split off an optional sign; `true` is negative. -/
def splitSign : List Char → Bool × List Char
  | '-' :: rest => (true, rest)
  | '+' :: rest => (false, rest)
  | chars => (false, chars)

/-- The double nearest to `mantissa · 10 ^ exponent`. -/
def nearest (negative : Bool) (mantissa : Nat) (exponent : Int) : Float :=
  let magnitude := Float.ofScientific mantissa (exponent < 0) exponent.natAbs
  if negative then -magnitude else magnitude

/-- Read the exponent that follows the mantissa, if any. -/
def parseExponent? : List Char → Option Int
  | [] => some 0
  | c :: rest =>
      if c == 'e' || c == 'E' then
        let (negative, digits) := splitSign rest
        if !digits.isEmpty && digits.all Char.isDigit then
          let n : Int := digitsValue digits
          some (if negative then -n else n)
        else
          none
      else
        none

/-- Read a decimal number, sign and all, as the nearest double. -/
def parse? (chars : List Char) : Option Float :=
  let (negative, unsigned) := splitSign chars
  let whole := unsigned.takeWhile Char.isDigit
  let afterWhole := unsigned.dropWhile Char.isDigit
  let (fraction, afterFraction) :=
    match afterWhole with
    | '.' :: rest => (rest.takeWhile Char.isDigit, rest.dropWhile Char.isDigit)
    | rest => ([], rest)
  if whole.isEmpty && fraction.isEmpty then
    none
  else do
    let exponent ← parseExponent? afterFraction
    some (nearest negative (digitsValue (whole ++ fraction)) (exponent - fraction.length))

end ServiceLifecycle.Decimal
