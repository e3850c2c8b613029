/-
Module: ServiceLifecycle.Toml.Lexis
Purpose: Blanks, comments, keys and strings of TOML documents.
Main exports: skipBlanks, skipComment, lineEnd?, readText?, deepest, readKey?
-/
import ServiceLifecycle.Value.Reader

namespace ServiceLifecycle.Toml

/-!
A step reads something off the front of the remaining characters and returns
what it read together with the rest; `none` means that the document is not
well formed there.
-/

/-- Tab and space separate tokens within a line. -/
def isBlankChar (c : Char) : Bool :=
  c == ' ' || c == '\t'

/-- Drop blanks, staying on the line. -/
def skipBlanks (chars : List Char) : List Char :=
  chars.dropWhile isBlankChar

/-- The character may appear in comments and literal strings. -/
def isPlain (c : Char) : Bool :=
  c == '\t' || (0x20 ≤ c.toNat && c.toNat != 0x7f)

/-- Drop a comment up to the end of its line. -/
def skipComment : List Char → List Char
  | '#' :: rest => rest.dropWhile isPlain
  | chars => chars

/-- Step over the end of a line.  A carriage return alone does not end one. -/
def lineEnd? : List Char → Option (List Char)
  | '\n' :: rest => some rest
  | '\r' :: '\n' :: rest => some rest
  | _ => none

/-- Drop blanks, comments and line ends. -/
def skipLines : Nat → List Char → List Char
  | 0, chars => chars
  | fuel + 1, chars =>
      let rest := skipComment (skipBlanks chars)
      match lineEnd? rest with
      | some after => skipLines fuel after
      | none => rest

/-- The character that an escape stands for, and what follows the escape. -/
def readEscape? : List Char → Option (Char × List Char)
  | 'b' :: rest => some ('\x08', rest)
  | 't' :: rest => some ('\t', rest)
  | 'n' :: rest => some ('\n', rest)
  | 'f' :: rest => some ('\x0c', rest)
  | 'r' :: rest => some ('\r', rest)
  | '"' :: rest => some ('"', rest)
  | '\\' :: rest => some ('\\', rest)
  | 'u' :: rest => hexEscape? 4 rest
  | 'U' :: rest => hexEscape? 8 rest
  | _ => none
where
  /-- A character by its number, in exactly `count` hexadecimal digits. -/
  hexEscape? (count : Nat) (chars : List Char) : Option (Char × List Char) := do
    let digits := chars.take count
    if digits.length < count then none
    let c ← Text.scalar? (← Text.hexNumber? digits)
    some (c, chars.drop count)

/-- The rest of a string between quotation marks, on one line. -/
def readBasic? : Nat → List Char → Option (List Char × List Char)
  | 0, _ => none
  | _ + 1, '"' :: rest => some ([], rest)
  | fuel + 1, '\\' :: rest => do
      let (c, rest) ← readEscape? rest
      let (chars, rest) ← readBasic? fuel rest
      some (c :: chars, rest)
  | fuel + 1, c :: rest =>
      if isPlain c then do
        let (chars, rest) ← readBasic? fuel rest
        some (c :: chars, rest)
      else
        none
  | _ + 1, [] => none

/-- The rest of a string between apostrophes, on one line. -/
def readLiteral? : List Char → Option (List Char × List Char)
  | [] => none
  | '\'' :: rest => some ([], rest)
  | c :: rest =>
      if isPlain c then do
        let (chars, rest) ← readLiteral? rest
        some (c :: chars, rest)
      else
        none

/-- Drop blanks and line ends after a backslash at the end of a line. -/
def skipFold : List Char → List Char
  | '\r' :: '\n' :: rest => skipFold rest
  | c :: rest => if isBlankChar c || c == '\n' then skipFold rest else c :: rest
  | [] => []

/-- A backslash that only blanks separate from the end of its line. -/
def foldsLine (chars : List Char) : Bool :=
  (lineEnd? (skipBlanks chars)).isSome

/-- The closing delimiter of a string of several lines, with up to two marks
before it that still belong to the string. -/
def closing? (mark : Char) : List Char → Option (List Char × List Char)
  | a :: b :: c :: d :: e :: rest =>
      if a == mark && b == mark && c == mark then
        if d == mark then
          if e == mark then some ([mark, mark], rest) else some ([mark], e :: rest)
        else
          some ([], d :: e :: rest)
      else
        none
  | [a, b, c, d] =>
      if a == mark && b == mark && c == mark then
        if d == mark then some ([mark], []) else some ([], [d])
      else
        none
  | [a, b, c] => if a == mark && b == mark && c == mark then some ([], []) else none
  | _ => none

/-- The rest of a string of several lines; escapes count when `escapes` holds.
Every line end is read as a line feed. -/
def readLines? (mark : Char) (escapes : Bool) : Nat → List Char → Option (List Char × List Char)
  | 0, _ => none
  | fuel + 1, chars =>
      match closing? mark chars with
      | some (last, rest) => some (last, rest)
      | none =>
          match lineEnd? chars with
          | some rest => prepend '\n' (readLines? mark escapes fuel rest)
          | none =>
              match chars with
              | [] => none
              | c :: rest =>
                  if escapes && c == '\\' then
                    if foldsLine rest then
                      readLines? mark escapes fuel (skipFold rest)
                    else
                      match readEscape? rest with
                      | some (e, rest) => prepend e (readLines? mark escapes fuel rest)
                      | none => none
                  else if isPlain c then
                    prepend c (readLines? mark escapes fuel rest)
                  else
                    none
where
  /-- Put a character before what a step reads. -/
  prepend (c : Char) (step : Option (List Char × List Char)) : Option (List Char × List Char) :=
    step.map fun (chars, rest) => (c :: chars, rest)

/-- The first line end of a string of several lines is not part of it. -/
def afterOpening (chars : List Char) : List Char :=
  (lineEnd? chars).getD chars

/-- Read a string of any of the four kinds. -/
def readText? (chars : List Char) : Option (String × List Char) :=
  let fuel := chars.length + 1
  let content : Option (List Char × List Char) :=
    match chars with
    | '"' :: '"' :: '"' :: rest => readLines? '"' true fuel (afterOpening rest)
    | '"' :: rest => readBasic? fuel rest
    | '\'' :: '\'' :: '\'' :: rest => readLines? '\'' false fuel (afterOpening rest)
    | '\'' :: rest => readLiteral? rest
    | _ => none
  content.map fun (text, rest) => (String.ofList text, rest)

/-- The character may appear in a key without quotation marks. -/
def isBareKeyChar (c : Char) : Bool :=
  c.isAlphanum || c == '_' || c == '-'

/-- Read one part of a key. -/
def readKeyPart? (chars : List Char) : Option (String × List Char) :=
  match chars with
  | '"' :: rest =>
      (readBasic? (rest.length + 1) rest).map fun (text, rest) => (String.ofList text, rest)
  | '\'' :: rest => (readLiteral? rest).map fun (text, rest) => (String.ofList text, rest)
  | _ =>
      let part := chars.takeWhile isBareKeyChar
      if part.isEmpty then none else some (String.ofList part, chars.dropWhile isBareKeyChar)

/-- Read the further parts of a dotted key; blanks may surround the dots. -/
def readMoreKey? : Nat → List Char → Option (List String × List Char)
  | 0, _ => none
  | fuel + 1, chars =>
      match skipBlanks chars with
      | '.' :: rest => do
          let (part, rest) ← readKeyPart? (skipBlanks rest)
          let (parts, rest) ← readMoreKey? fuel rest
          some (part :: parts, rest)
      | rest => some ([], rest)

/-- How many values may be inside each other, and how many parts a key may have. -/
def deepest : Nat := 79

/-- Read a dotted key and the blanks after it. -/
def readKey? (chars : List Char) : Option (List String × List Char) := do
  let (part, rest) ← readKeyPart? chars
  let (parts, rest) ← readMoreKey? (rest.length + 1) rest
  if deepest < parts.length + 1 then none else some (part :: parts, rest)

end ServiceLifecycle.Toml
