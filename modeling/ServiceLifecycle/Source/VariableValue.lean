/-
Module: ServiceLifecycle.Source.VariableValue
Purpose: The configuration values that environment variables denote.
Main exports: Value.ofVariable
-/
import ServiceLifecycle.Toml.Lexis
import ServiceLifecycle.Configuration.Basic
import ServiceLifecycle.Text.Blank
import ServiceLifecycle.Text.Bytes

namespace ServiceLifecycle

/-!
A variable holds one value: `true` or `false`, a list `[a,b]`, a table `{k=v}`, a
text between quotation marks, one character between apostrophes, or a bare word,
which is a float if it has a point and reads as one, an integer if it reads as
one, and a text otherwise.  Blanks and line ends may surround values and names.  A
variable that is not well formed in this sense is the text it consists of.

A text between quotation marks may hold escapes.  What stands before its first
escape counts by length: of its encoding, as many bytes remain as it has
characters, so characters beyond ASCII push its end out.
-/

namespace Source

/-- The character may stand around values and names. -/
def isSpace (c : Char) : Bool :=
  c == ' ' || c == '\t' || c == '\n' || c == '\x0c' || c == '\r'

/-- Drop what may stand around values and names. -/
def skipSpace (chars : List Char) : List Char :=
  chars.dropWhile isSpace

/-- The character ends a bare word. -/
def isSeparator (c : Char) : Bool :=
  c == ',' || c == '\x7b' || c == '\x7d' || c == '[' || c == ']'

/-- The value of a bare word. -/
def wordValue (word : String) : Value :=
  let float? := if '.' ∈ word.toList then Decimal.parse? word.toList else none
  match float? with
  | some x => .float x
  | none =>
      match (Configuration.readInteger? word).filter Value.fits64 with
      | some n => .int n
      | none => .text word

/-- Read a bare word and trim it. -/
def readWord (chars : List Char) : Value × List Char :=
  let (word, rest) := chars.span fun c => !isSeparator c
  (wordValue (Text.trim (String.ofList word)), rest)

/-- The rest of a text between quotation marks.  The characters before its first
escape are cut to as many bytes. -/
def readQuoted? (chars : List Char) : Option (String × List Char) := do
  let front := chars.takeWhile fun c => c != '"' && c != '\\'
  if !front.all Toml.isPlain then none
  match chars.drop front.length with
  | '"' :: rest => some (String.ofList front, rest)
  | rest =>
      let (content, rest) ← Toml.readBasic? (rest.length + 1) rest
      let (kept, _) ← Text.splitAtByte? front.length front
      some (String.ofList (kept ++ content), rest)

/-- Read the name before the equals sign of an entry. -/
def readName? (chars : List Char) : Option (String × List Char) :=
  match chars with
  | '"' :: rest => readQuoted? rest
  | _ =>
      let (name, rest) := chars.span Toml.isBareKeyChar
      if name.isEmpty then none else some (String.ofList name, rest)

mutual

/-- Read a value and the space around it; `fuel` bounds the nested reads. -/
def readVariable? : Nat → List Char → Option (Value × List Char)
  | 0, _ => none
  | fuel + 1, chars =>
      match readBare? fuel (skipSpace chars) with
      | some (value, rest) => some (value, skipSpace rest)
      | none => none

/-- Read a value at its first character. -/
def readBare? : Nat → List Char → Option (Value × List Char)
  | 0, _ => none
  | fuel + 1, chars =>
      match chars with
      | 't' :: 'r' :: 'u' :: 'e' :: rest => some (.bool true, rest)
      | 'f' :: 'a' :: 'l' :: 's' :: 'e' :: rest => some (.bool false, rest)
      | '\x7b' :: rest => do
          let (entries, rest) ← readPairs? fuel [] rest
          some (.table entries, rest)
      | '[' :: rest => do
          let (items, rest) ← readItems? fuel rest
          some (.list items, rest)
      | '"' :: rest => (readQuoted? rest).map fun (content, rest) => (.text content, rest)
      | '\'' :: rest =>
          match rest with
          | c :: '\'' :: rest => some (.text c.toString, rest)
          | _ => none
      | _ => some (readWord chars)

/-- Read the items of a list and its closing bracket. -/
def readItems? : Nat → List Char → Option (List Value × List Char)
  | 0, _ => none
  | fuel + 1, chars =>
      match chars with
      | ']' :: rest => some ([], rest)
      | _ => do
          let (item, rest) ← readVariable? fuel chars
          match rest with
          | ',' :: rest => do
              let (items, rest) ← readItems? fuel rest
              some (item :: items, rest)
          | ']' :: rest => some ([item], rest)
          | _ => none

/-- Read the entries of a table and its closing bracket. -/
def readPairs? : Nat → Table → List Char → Option (Table × List Char)
  | 0, _, _ => none
  | fuel + 1, entries, chars =>
      match chars with
      | '\x7d' :: rest => some (entries, rest)
      | _ => do
          let (name, rest) ← readName? (skipSpace chars)
          match skipSpace rest with
          | '=' :: rest => do
              let (value, rest) ← readVariable? fuel rest
              let entries := Entries.putSorted name value entries
              match rest with
              | ',' :: rest => readPairs? fuel entries rest
              | '\x7d' :: rest => some (entries, rest)
              | _ => none
          | _ => none
end

end Source

/-- The value that the text of a variable denotes. -/
def Value.ofVariable (content : String) : Value :=
  let chars := content.toList
  match Source.readVariable? (2 * chars.length + 2) chars with
  | some (value, []) => value
  | _ => .text content

end ServiceLifecycle
