/-
Module: ServiceLifecycle.Decimal.Shortest
Purpose: The fewest decimal digits that read back as a given binary number.
Main exports: Binary, Numeral, Binary.ofFloat?, Binary.shortest
-/

namespace ServiceLifecycle.Decimal

/-!
A double is `significand · 2 ^ exponent`.  The real numbers that round to it
form an interval around it, closed exactly when the significand is even.  On
the grid of `n`-digit decimals only the two neighbours of the double can be
the nearest grid point inside that interval, so the shortest text is found by
testing two candidates for `n = 1, 2, …, 17`.  All comparisons are between
natural numbers: both sides are scaled by the same power of two and of ten.
-/

/-- A positive number `significand · 2 ^ exponent`.  `steep` marks a number
whose lower neighbour is half as far away as its upper one. -/
structure Binary where
  significand : Nat
  exponent : Int
  steep : Bool
deriving Repr, Inhabited, DecidableEq

/-- A number `digits · 10 ^ exponent`. -/
structure Numeral where
  digits : Nat
  exponent : Int
deriving Repr, Inhabited, DecidableEq

/-- The significand and exponent of a double's magnitude, when it is finite
and not zero. -/
def Binary.ofFloat? (x : Float) : Option Binary :=
  let bits : Nat := x.toBits.toNat
  let fraction : Nat := bits % Nat.pow 2 52
  let biased : Nat := bits / Nat.pow 2 52 % Nat.pow 2 11
  if biased = 2047 then
    none
  else if biased = 0 then
    if fraction = 0 then none else some ⟨fraction, -1074, false⟩
  else
    some ⟨fraction + Nat.pow 2 52, (biased : Int) - 1075, fraction == 0 && biased != 1⟩

/-- `x` carries the sign bit. -/
def isNegative (x : Float) : Bool :=
  x.toBits.toNat / Nat.pow 2 63 == 1

/-- Compare `a · 2 ^ p` with `d · 10 ^ e`, exactly. -/
def compareScaled (a : Nat) (p : Int) (d : Nat) (e : Int) : Ordering :=
  compare (a * Nat.pow 2 p.toNat * Nat.pow 10 (-e).toNat)
    (d * Nat.pow 10 e.toNat * Nat.pow 2 (-p).toNat)

/-- The decimal lies in the interval of reals that round to the number. -/
def Binary.readsBack (x : Binary) (d : Numeral) : Bool :=
  let lower := 4 * x.significand - (if x.steep then 1 else 2)
  let upper := 4 * x.significand + 2
  let below := compareScaled lower (x.exponent - 2) d.digits d.exponent
  let above := compareScaled upper (x.exponent - 2) d.digits d.exponent
  (below == .lt || (below == .eq && x.significand % 2 == 0)) &&
    (above == .gt || (above == .eq && x.significand % 2 == 0))

/-- The largest multiple of `10 ^ e` that does not exceed the number, counted
in units of `10 ^ e`. -/
def Binary.floorAt (x : Binary) (e : Int) : Nat :=
  x.significand * Nat.pow 2 x.exponent.toNat * Nat.pow 10 (-e).toNat /
    (Nat.pow 2 (-x.exponent).toNat * Nat.pow 10 e.toNat)

/-- Find the power of ten with `10 ^ e ≤ x`, walking down from an upper bound. -/
def Binary.orderFrom (x : Binary) : Nat → Int → Int
  | 0, e => e
  | steps + 1, e => if x.floorAt e = 0 then x.orderFrom steps (e - 1) else e

/-- The exponent of the leading decimal digit. -/
def Binary.order (x : Binary) : Int :=
  let bits := (Nat.log2 x.significand : Int) + x.exponent
  x.orderFrom 3 (bits * 30103 / 100000 + 1)

/-- The candidate with `n` digits, if one reads back: the nearer of the two
neighbours, the lower one of an exact tie only when its last digit is even. -/
def Binary.candidate? (x : Binary) (n : Nat) : Option Numeral :=
  let e := x.order + 1 - n
  let low : Numeral := ⟨x.floorAt e, e⟩
  let high : Numeral := ⟨x.floorAt e + 1, e⟩
  match x.readsBack low, x.readsBack high with
  | false, false => none
  | true, false => some low
  | false, true => some high
  | true, true =>
      match compareScaled (2 * x.significand) x.exponent (2 * low.digits + 1) e with
      | .lt => some low
      | .gt => some high
      | .eq => some (if low.digits % 2 = 0 then low else high)

/-- Move the zeros at the end of the digits into the exponent. -/
def Numeral.stripZeros : Nat → Numeral → Numeral
  | 0, d => d
  | fuel + 1, d =>
      if d.digits % 10 = 0 && d.digits != 0 then
        Numeral.stripZeros fuel ⟨d.digits / 10, d.exponent + 1⟩
      else
        d

/-- The fewest digits that read back as the number; of several, the nearest. -/
def Binary.shortest (x : Binary) : Numeral :=
  Numeral.stripZeros 400 (((List.range 17).findSome? fun n => x.candidate? (n + 1)).getD
    ⟨x.floorAt (x.order - 16), x.order - 16⟩)

end ServiceLifecycle.Decimal
