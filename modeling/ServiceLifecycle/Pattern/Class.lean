/-
Module: ServiceLifecycle.Pattern.Class
Purpose: Classes of characters in a regular expression.
Main exports: Bracket, readClass?
-/
import ServiceLifecycle.Pattern.Height
import ServiceLifecycle.Pattern.Item

namespace ServiceLifecycle.Pattern

/-!
A class stands between square brackets: characters, ranges of them, names of classes and
further classes, which operators of two signs may separate.  Minus signs in front belong
to the class, and so does a closing bracket that comes first.
-/

/-- A class that is still open. -/
structure Bracket where
  /-- Nothing but minus signs has come yet. -/
  isFresh : Bool := true
  /-- The height of what stands in front of the last operator. -/
  before : Option Nat := none
  /-- The heights of the members behind it. -/
  members : List Nat := []
deriving Repr, Inhabited, DecidableEq

namespace Bracket

/-- The height of what is in the class. -/
def height (bracket : Bracket) : Nat :=
  match bracket.before with
  | none => rowHeight bracket.members
  | some before => 1 + max before (rowHeight bracket.members)

/-- Add a minus sign in front. -/
def addSign (bracket : Bracket) : Bracket :=
  { bracket with members := 0 :: bracket.members }

/-- Add a member of the given height. -/
def add (bracket : Bracket) (height : Nat) : Bracket :=
  { bracket with isFresh := false, members := height :: bracket.members }

/-- Put everything in front of an operator. -/
def split (bracket : Bracket) : Bracket :=
  { isFresh := false, before := some bracket.height }

end Bracket

/-- The names of classes. -/
def classNames : List String :=
  ["alnum", "alpha", "ascii", "blank", "cntrl", "digit", "graph", "lower", "print", "punct",
    "space", "upper", "word", "xdigit"]

/-- A name can be a member of a class.  Among bytes the opposite of a named class reaches
beyond ASCII. -/
def Mode.admitsName (mode : Mode) (isOpposite : Bool) : Bool :=
  if mode.unicode then !mode.caseless else !isOpposite

/-- Read the name of a class, of which the bracket has been read: `:name:]`, or `:^name:]`
for the opposite. -/
def readName? : List Char → Option (Bool × List Char)
  | ':' :: chars =>
      let (isOpposite, chars) :=
        match chars with
        | '^' :: rest => (true, rest)
        | _ => (false, chars)
      let name := chars.takeWhile (· != ':')
      match chars.drop name.length with
      | ':' :: ']' :: rest =>
          if classNames.contains (String.ofList name) then some (isOpposite, rest) else none
      | _ => none
  | _ => none

/-- Read what stands behind the bracket that opens a class.  Bytes have no opposite of a
class. -/
def openClass? (mode : Mode) (chars : List Char) : Option (List Char) :=
  match mode.skip chars with
  | '^' :: rest => if mode.unicode then some rest else none
  | rest => some rest

/-- Read a character or a range, or one of the classes `\d`, `\s` and `\w`.  A minus sign
in front of a closing bracket or of another minus sign makes no range. -/
def readSpan? (mode : Mode) (chars : List Char) : Option (List Char) := do
  let (first, rest) ← Item.readMember? mode chars
  if !mode.admitsMember first then none
  match mode.skip rest with
  | '-' :: after =>
      if [some ']', some '-'].contains (mode.glimpse? after) then
        return '-' :: after
      else
        let (last, rest) ← Item.readMember? mode (mode.skip after)
        if mode.admitsMember last && first.isRange last then return rest else none
  | rest => return rest

/-- Where the reading of a class has got to. -/
inductive Progress where
  /-- Classes are open, `here` the innermost and `outer` from the inside out. -/
  | within (here : Bracket) (outer : List Bracket)
  /-- The class is complete and has a height. -/
  | closed (height : Nat)
deriving Repr, Inhabited, DecidableEq

/-- Close the innermost class. -/
def Progress.close (here : Bracket) : List Bracket → Progress
  | [] => closed (1 + here.height)
  | around :: outer => within (around.add (1 + here.height)) outer

/-- Read one member, operator or bracket. -/
def readStep? (mode : Mode) (here : Bracket) (outer : List Bracket) (chars : List Char) :
    Option (Progress × List Char) := do
  match chars with
  | '-' :: rest =>
      if here.isFresh then
        if !mode.admitsMember (.literal '-' false) then none
        return (.within here.addSign outer, rest)
      else if rest.head? = some '-' then
        return (.within here.split outer, rest.drop 1)
      else
        return (.within (here.add 0) outer, ← readSpan? mode chars)
  | ']' :: rest =>
      if here = {} then
        if !mode.admitsMember (.literal ']' false) then none
        return (.within (here.add 0) outer, rest)
      else
        return (.close here outer, rest)
  | '[' :: rest =>
      match readName? rest with
      | some (isOpposite, rest) =>
          if !mode.admitsName isOpposite then none
          return (.within (here.add 0) outer, rest)
      | none => return (.within {} (here :: outer), ← openClass? mode rest)
  | '&' :: '&' :: rest | '~' :: '~' :: rest => return (.within here.split outer, rest)
  | _ => return (.within (here.add 0) outer, ← readSpan? mode chars)

/-- Read the rest of a class, and find its height; `fuel` bounds the number of steps. -/
def readMembers? (mode : Mode) :
    Nat → Bracket → List Bracket → List Char → Option (Nat × List Char)
  | 0, _, _, _ => none
  | fuel + 1, here, outer, chars => do
      match ← readStep? mode here outer (mode.skip chars) with
      | (.closed height, rest) => return (height, rest)
      | (.within here outer, rest) => readMembers? mode fuel here outer rest

/-- Read a class, of which the opening bracket has been read. -/
def readClass? (mode : Mode) (chars : List Char) : Option (Nat × List Char) := do
  readMembers? mode (chars.length + 1) {} [] (← openClass? mode chars)

example : readClass? {} "^]a-z]+".toList = some (2, ['+']) := by decide +kernel

example : readClass? {} "[:alpha:]--[b-c]]".toList = some (3, []) := by decide +kernel

example : ["a", "z-a]", "\\A]", "[]]"].all fun text => readClass? {} text.toList = none := by
  decide +kernel

end ServiceLifecycle.Pattern
