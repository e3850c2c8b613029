/-
Module: ServiceLifecycle.Pattern.Item
Purpose: The single items of a regular expression.
Main exports: Item, Item.read?, Item.readMember?, Mode.admits, Mode.admitsMember
-/
import ServiceLifecycle.Pattern.Mode
import ServiceLifecycle.Text.Hexadecimal

namespace ServiceLifecycle.Pattern

/-!
An item stands for one character or for a place between characters.  Expressions match
text and never parts of a character, and no tables of characters are at hand.  So letters
cannot be matched without regard to case unless they are bytes, and the classes `\d`,
`\s` and `\w` and the edges of words exist among bytes only, while their opposites, which
many bytes beyond ASCII have in common, do not exist at all.
-/

/-- An item of an expression. -/
inductive Item where
  /-- A character; `isByte` holds if it is written as the number of a byte. -/
  | literal (c : Char) (isByte : Bool)
  | anyCharacter
  /-- One of the named classes. -/
  | named
  /-- A beginning or an end of the text or a line. -/
  | anchor
  /-- A place that depends on what belongs to a word. -/
  | wordEdge
deriving Repr, Inhabited, DecidableEq

/-- The item can be matched. -/
def Mode.admits (mode : Mode) : Item → Bool
  | .literal c isByte => if mode.unicode then !mode.caseless else c.toNat < 0x80 || !isByte
  | .anyCharacter => mode.unicode
  | .named | .wordEdge => !mode.unicode
  | .anchor => true

/-- The item can be matched as a member of a class.  Classes of bytes hold nothing beyond
ASCII. -/
def Mode.admitsMember (mode : Mode) : Item → Bool
  | .literal c _ => if mode.unicode then !mode.caseless else c.toNat < 0x80
  | .named => !mode.unicode
  | .anyCharacter | .anchor | .wordEdge => false

/-- Read the given number of hexadecimal digits, and prepend those already read. -/
def readHex? (mode : Mode) (code : Nat) : Nat → List Char → Option (Nat × List Char)
  | 0, chars => some (code, chars)
  | count + 1, chars =>
      match mode.skip chars with
      | [] => none
      | c :: rest => do readHex? mode (code * 16 + (← Text.hexValue? c)) count rest

/-- Read a character by its number. -/
def readCode? (mode : Mode) (count : Nat) (isByte : Bool) (chars : List Char) :
    Option (Item × List Char) := do
  let (code, rest) ← readHex? mode 0 count chars
  return (.literal (← Text.scalar? code) isByte, rest)

/-- The character that stands behind a backslash for one that cannot be seen. -/
def control? : Char → Option Char
  | 'a' => some '\x07'
  | 'f' => some '\x0c'
  | 't' => some '\t'
  | 'n' => some '\n'
  | 'r' => some '\r'
  | 'v' => some '\x0b'
  | _ => none

namespace Item

/-- Read what stands behind a backslash. -/
def readEscape? (mode : Mode) : List Char → Option (Item × List Char)
  | [] => none
  | 'x' :: rest => readCode? mode 2 true rest
  | 'u' :: rest => readCode? mode 4 false rest
  | 'U' :: rest => readCode? mode 8 false rest
  | c :: rest =>
      if ['d', 's', 'w'].contains c then some (named, rest)
      else if ['A', 'z'].contains c then some (anchor, rest)
      else if ['b', 'B', '<', '>'].contains c then some (wordEdge, rest)
      else if c.toNat < 0x80 && !c.isAlphanum then some (literal c false, rest)
      else (control? c).map fun c => (literal c false, rest)

/-- Read an item.  A curly bracket is none: it would have to be closed, and the closing
one is not part of an expression here. -/
def read? (mode : Mode) : List Char → Option (Item × List Char)
  | [] => none
  | '\x7b' :: _ => none
  | '\\' :: rest => readEscape? mode rest
  | '.' :: rest => some (anyCharacter, rest)
  | '^' :: rest | '$' :: rest => some (anchor, rest)
  | c :: rest => some (literal c false, rest)

/-- Read an item inside of a class, where only the backslash is special. -/
def readMember? (mode : Mode) : List Char → Option (Item × List Char)
  | [] => none
  | '\\' :: rest => readEscape? mode rest
  | c :: rest => some (literal c false, rest)

/-- The first item is a character that does not come after the second one. -/
def isRange : Item → Item → Bool
  | literal first _, literal last _ => first ≤ last
  | _, _ => false

end Item

example : Item.read? {} "\\x41b".toList = some (.literal 'A' true, ['b']) := by decide +kernel

example : Item.read? {} "\\ud800".toList = none ∧ Item.read? {} "\\é".toList = none := by
  decide +kernel

end ServiceLifecycle.Pattern
