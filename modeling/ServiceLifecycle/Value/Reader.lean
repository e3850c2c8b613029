/-
Module: ServiceLifecycle.Value.Reader
Purpose: Configuration values from JSON text.
Main exports: Value.read?
-/
import ServiceLifecycle.Value.Basic
import ServiceLifecycle.Decimal.Notation
import ServiceLifecycle.Text.Hexadecimal

namespace ServiceLifecycle

/-!
The reader accepts JSON.  A number without point and exponent is an integer
when it fits 64 bits, with or without sign; every other number is a float, and
so is the integer zero with a minus sign, which only a float can hold.  Of two
entries with one key the later wins.
-/

namespace Value

/-- The four characters that JSON allows between tokens. -/
def isSpace (c : Char) : Bool :=
  c == ' ' || c == '\t' || c == '\n' || c == '\r'

/-- Drop the blanks before a token. -/
def skipSpace (chars : List Char) : List Char :=
  chars.dropWhile isSpace

/-- The integer fits 64 bits, signed or unsigned. -/
def fits64 (n : Int) : Bool :=
  -9223372036854775808 ≤ n && n < 18446744073709551616

/-- The value of a number's characters. -/
def number? (chars : List Char) : Option Value :=
  let (negative, digits) := Decimal.splitSign chars
  if chars.any fun c => c == '.' || c == 'e' || c == 'E' then
    (Decimal.parse? chars).map .float
  else if digits.isEmpty || !digits.all Char.isDigit then
    none
  else
    let magnitude : Int := Decimal.digitsValue digits
    let n := if negative then -magnitude else magnitude
    if fits64 n && !(negative && magnitude == 0) then some (.int n)
    else (Decimal.parse? chars).map .float

/-- The code point of a pair of surrogates. -/
def joinSurrogates (high low : Nat) : Nat :=
  0x10000 + (high - 0xd800) * 0x400 + (low - 0xdc00)

/-- Read a text up to its closing quotation mark. -/
def textTail? : List Char → Option (List Char × List Char)
  | [] => none
  | '"' :: rest => some ([], rest)
  | '\\' :: 'u' :: a :: b :: c :: d :: rest => do
      let unit ← Text.hexNumber? [a, b, c, d]
      if 0xd800 ≤ unit && unit < 0xdc00 then
        match rest with
        | '\\' :: 'u' :: e :: f :: g :: h :: rest => do
            let low ← Text.hexNumber? [e, f, g, h]
            let (chars, after) ← textTail? rest
            some (Char.ofNat (joinSurrogates unit low) :: chars, after)
        | _ => none
      else do
        let (chars, after) ← textTail? rest
        some (Char.ofNat unit :: chars, after)
  | '\\' :: e :: rest => do
      let c ←
        match e with
        | '"' => some '"'
        | '\\' => some '\\'
        | '/' => some '/'
        | 'b' => some '\x08'
        | 'f' => some '\x0c'
        | 'n' => some '\n'
        | 'r' => some '\r'
        | 't' => some '\t'
        | _ => none
      let (chars, after) ← textTail? rest
      some (c :: chars, after)
  | c :: rest => do
      let (chars, after) ← textTail? rest
      some (c :: chars, after)

/-- The character can stand in a number. -/
def isNumberChar (c : Char) : Bool :=
  c.isDigit || c == '-' || c == '+' || c == '.' || c == 'e' || c == 'E'

mutual

/-- Read one value; `fuel` bounds the number of nested reads. -/
def readValue? : Nat → List Char → Option (Value × List Char)
  | 0, _ => none
  | fuel + 1, chars =>
      match skipSpace chars with
      | 'n' :: 'u' :: 'l' :: 'l' :: rest => some (.null, rest)
      | 't' :: 'r' :: 'u' :: 'e' :: rest => some (.bool true, rest)
      | 'f' :: 'a' :: 'l' :: 's' :: 'e' :: rest => some (.bool false, rest)
      | '"' :: rest => do
          let (content, rest) ← textTail? rest
          some (.text (String.ofList content), rest)
      | '[' :: rest =>
          match skipSpace rest with
          | ']' :: rest => some (.list [], rest)
          | rest => do
              let (items, rest) ← readItems? fuel rest
              some (.list items, rest)
      | '\x7b' :: rest =>
          match skipSpace rest with
          | '\x7d' :: rest => some (.table [], rest)
          | rest => do
              let (entries, rest) ← readEntries? fuel rest
              some (.table (Entries.sorted entries), rest)
      | rest => do
          let value ← number? (rest.takeWhile isNumberChar)
          some (value, rest.dropWhile isNumberChar)

/-- Read the items of a list and its closing bracket. -/
def readItems? : Nat → List Char → Option (List Value × List Char)
  | 0, _ => none
  | fuel + 1, chars => do
      let (item, rest) ← readValue? fuel chars
      match skipSpace rest with
      | ',' :: rest => do
          let (items, rest) ← readItems? fuel rest
          some (item :: items, rest)
      | ']' :: rest => some ([item], rest)
      | _ => none

/-- Read the entries of a table and its closing bracket. -/
def readEntries? : Nat → List Char → Option (List (String × Value) × List Char)
  | 0, _ => none
  | fuel + 1, chars =>
      match skipSpace chars with
      | '"' :: rest => do
          let (key, rest) ← textTail? rest
          match skipSpace rest with
          | ':' :: rest => do
              let (value, rest) ← readValue? fuel rest
              match skipSpace rest with
              | ',' :: rest => do
                  let (entries, rest) ← readEntries? fuel rest
                  some ((String.ofList key, value) :: entries, rest)
              | '\x7d' :: rest => some ([(String.ofList key, value)], rest)
              | _ => none
          | _ => none
      | _ => none
end

/-- Read a JSON text that holds one value and nothing else. -/
def read? (source : String) : Option Value := do
  let chars := source.toList
  let (value, rest) ← readValue? (chars.length + 1) chars
  if (skipSpace rest).isEmpty then some value else none

end Value

end ServiceLifecycle
