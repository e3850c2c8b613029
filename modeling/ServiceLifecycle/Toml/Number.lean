/-
Module: ServiceLifecycle.Toml.Number
Purpose: Integers and floats of TOML documents.
Main exports: readNumber?
-/
import ServiceLifecycle.Toml.Lexis
import ServiceLifecycle.Configuration.Basic

namespace ServiceLifecycle.Toml

/-!
Digits may be grouped by single underscores.  A decimal integer has no zeros
in front; an integer that does not fit 64 bits with a sign is an error, as is a
float beyond the largest one.
-/

/-- The character can stand in a number. -/
def isNumberChar (c : Char) : Bool :=
  c.isAlphanum || c == '_' || c == '+' || c == '-' || c == '.'

/-- The digits of a run with each underscore between two digits. -/
def ungroup? (isDigit : Char → Bool) : List Char → Option (List Char)
  | [] => none
  | [d] => if isDigit d then some [d] else none
  | d :: '_' :: rest =>
      if isDigit d then (ungroup? isDigit rest).map (d :: ·) else none
  | d :: rest => if isDigit d then (ungroup? isDigit rest).map (d :: ·) else none

/-- The number that digits denote in a base. -/
def digitsIn (base : Nat) (digits : List Char) : Nat :=
  digits.foldl (fun value d => value * base + (Text.hexValue? d).getD 0) 0

/-- The digits of a base that has a letter. -/
def baseDigits? : Char → Option (Nat × (Char → Bool))
  | 'x' => some (16, fun c => (Text.hexValue? c).isSome)
  | 'o' => some (8, fun c => '0' ≤ c && c ≤ '7')
  | 'b' => some (2, fun c => c == '0' || c == '1')
  | _ => none

/-- Digits with at most one zero in front, and then nothing else. -/
def withoutLeadingZeros? (digits : List Char) : Option (List Char) :=
  match digits with
  | '0' :: _ :: _ => none
  | _ => some digits

/-- An integer, if it fits. -/
def boundedInt? (n : Int) : Option Value :=
  if Configuration.fitsSigned64 n then some (.int n) else none

/-- The value of the characters of an integer. -/
def integer? (chars : List Char) : Option Value :=
  match chars with
  | '0' :: letter :: digits =>
      match baseDigits? letter with
      | some (base, isDigit) => do
          let plain ← ungroup? isDigit digits
          boundedInt? (digitsIn base plain)
      | none => none
  | _ => do
      let (negative, unsigned) := Decimal.splitSign chars
      let digits ← withoutLeadingZeros? (← ungroup? Char.isDigit unsigned)
      let magnitude : Int := Decimal.digitsValue digits
      boundedInt? (if negative then -magnitude else magnitude)

/-- Split a text at the first character with a property, which is dropped. -/
def splitAtFirst? (p : Char → Bool) (chars : List Char) : List Char × Option (List Char) :=
  match chars.dropWhile fun c => !p c with
  | [] => (chars, none)
  | _ :: rest => (chars.takeWhile fun c => !p c, some rest)

/-- The value of the characters of a float. -/
def float? (chars : List Char) : Option Value := do
  let (negative, unsigned) := Decimal.splitSign chars
  if unsigned = ['i', 'n', 'f'] then
    return .float (if negative then -(1.0 / 0.0) else 1.0 / 0.0)
  if unsigned = ['n', 'a', 'n'] then
    return .float (0.0 / 0.0)
  let (mantissa, exponent?) := splitAtFirst? (fun c => c == 'e' || c == 'E') unsigned
  let (whole, fraction?) := splitAtFirst? (· == '.') mantissa
  if exponent?.isNone && fraction?.isNone then none
  let whole ← withoutLeadingZeros? (← ungroup? Char.isDigit whole)
  let fraction ←
    match fraction? with
    | some digits => ungroup? Char.isDigit digits
    | none => some []
  let exponent ←
    match exponent? with
    | some signed => do
        let (below, digits) := Decimal.splitSign signed
        let n : Int := Decimal.digitsValue (← ungroup? Char.isDigit digits)
        some (if below then -n else n)
    | none => some 0
  let x := Decimal.nearest negative (Decimal.digitsValue (whole ++ fraction))
    (exponent - fraction.length)
  if x.isInf && !negative then none else some (.float x)

/-- Read an integer or a float. -/
def readNumber? (chars : List Char) : Option (Value × List Char) :=
  let word := chars.takeWhile isNumberChar
  ((integer? word).orElse fun _ => float? word).map fun value =>
    (value, chars.dropWhile isNumberChar)

end ServiceLifecycle.Toml
