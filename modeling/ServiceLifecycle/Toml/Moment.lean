/-
Module: ServiceLifecycle.Toml.Moment
Purpose: Dates and times of TOML documents.
Main exports: readMoment?
-/
import ServiceLifecycle.Toml.Lexis

namespace ServiceLifecycle.Toml

/-!
A moment is a date, a time of day, or both with an optional distance from
universal time.  It is kept as its canonical text: a `T` between date and time,
at most nine digits of a second without zeros at the end, and `Z` for a distance
that was written so.
-/

/-- Read exactly `count` decimal digits as a number. -/
def fixedDigits? (count : Nat) (chars : List Char) : Option (Nat × List Char) :=
  let digits := chars.take count
  if digits.length = count && digits.all Char.isDigit then
    some (Decimal.digitsValue digits, chars.drop count)
  else
    none

/-- Step over one expected character. -/
def expect? (c : Char) : List Char → Option (List Char)
  | d :: rest => if c == d then some rest else none
  | [] => none

/-- The number of days of a month. -/
def daysIn (year month : Nat) : Nat :=
  if month = 2 then
    if year % 4 = 0 && (year % 100 != 0 || year % 400 = 0) then 29 else 28
  else if month = 4 || month = 6 || month = 9 || month = 11 then 30
  else 31

/-- At least two decimal digits. -/
def twoDigits (n : Nat) : List Char :=
  let digits := Decimal.digitChars n
  List.replicate (2 - digits.length) '0' ++ digits

/-- Read a date; its canonical text is what was read. -/
def readDate? (chars : List Char) : Option (List Char × List Char) := do
  let (year, rest) ← fixedDigits? 4 chars
  let (month, rest) ← fixedDigits? 2 (← expect? '-' rest)
  let (day, rest) ← fixedDigits? 2 (← expect? '-' rest)
  if 1 ≤ month && month ≤ 12 && 1 ≤ day && day ≤ daysIn year month then
    some (chars.take 10, rest)
  else
    none

/-- The canonical text of the digits of a fraction of a second. -/
def fractionText (digits : List Char) : List Char :=
  let kept := ((digits.take 9).reverse.dropWhile (· == '0')).reverse
  if kept.isEmpty then [] else '.' :: kept

/-- Read a time of day. -/
def readTime? (chars : List Char) : Option (List Char × List Char) := do
  let (hour, rest) ← fixedDigits? 2 chars
  let (minute, rest) ← fixedDigits? 2 (← expect? ':' rest)
  let (second, rest) ← fixedDigits? 2 (← expect? ':' rest)
  if hour < 24 && minute < 60 && second ≤ 60 then
    match rest with
    | '.' :: d :: more =>
        if d.isDigit then
          let digits := (d :: more).takeWhile Char.isDigit
          some (chars.take 8 ++ fractionText digits, (d :: more).dropWhile Char.isDigit)
        else
          some (chars.take 8, rest)
    | _ => some (chars.take 8, rest)
  else
    none

/-- Read a distance from universal time.  No distance has no sign of its own. -/
def readOffset? (chars : List Char) : Option (List Char × List Char) :=
  match chars with
  | c :: rest =>
      if c == 'Z' || c == 'z' then
        some (['Z'], rest)
      else if c == '+' || c == '-' then do
        let (hours, rest) ← fixedDigits? 2 rest
        let (minutes, rest) ← fixedDigits? 2 (← expect? ':' rest)
        if hours < 24 && minutes < 60 then
          let sign := if hours + minutes = 0 then '+' else c
          some (sign :: (twoDigits hours ++ ':' :: twoDigits minutes), rest)
        else
          none
      else
        none
  | [] => none

/-- Read the time that may follow a date. -/
def readTimeAfterDate (chars : List Char) : List Char × List Char :=
  match chars with
  | c :: rest =>
      if c == 'T' || c == 't' || c == ' ' then
        match readTime? rest with
        | some (time, rest) =>
            match readOffset? rest with
            | some (offset, rest) => ('T' :: (time ++ offset), rest)
            | none => ('T' :: time, rest)
        | none => ([], chars)
      else
        ([], chars)
  | [] => ([], [])

/-- Read a moment of any kind as its canonical text. -/
def readMoment? (chars : List Char) : Option (String × List Char) :=
  match readDate? chars with
  | some (date, rest) =>
      let (time, rest) := readTimeAfterDate rest
      some (String.ofList (date ++ time), rest)
  | none => (readTime? chars).map fun (time, rest) => (String.ofList time, rest)

end ServiceLifecycle.Toml
