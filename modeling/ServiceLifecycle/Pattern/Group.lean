/-
Module: ServiceLifecycle.Pattern.Group
Purpose: Groups of a regular expression, and whether an expression is well formed.
Main exports: Group, Opening, readOpening?, isWellFormed
-/
import ServiceLifecycle.Pattern.Class
import ServiceLifecycle.Text.Alphanumeric

namespace ServiceLifecycle.Pattern

/-!
An expression is well formed when its groups and classes are closed, when every
repetition has something to repeat, when each item exists in the mode in which it stands,
and when it is not nested too deep.  It is read from left to right, with the groups that
are still open on a stack.
-/

/-- A part of an expression. -/
structure Part where
  height : Nat := 0
  /-- Flags are no part that could be repeated. -/
  isRepeatable : Bool := true
deriving Repr, Inhabited, DecidableEq

/-- A group that is still open, or the whole expression. -/
structure Group where
  /-- The mode in which what follows is read. -/
  mode : Mode := {}
  /-- The heights of the alternatives before the current one. -/
  alternatives : List Nat := []
  /-- The parts of the current alternative, the last one first. -/
  parts : List Part := []
deriving Repr, Inhabited, DecidableEq

namespace Group

/-- The height of the current alternative. -/
def row (group : Group) : Nat :=
  rowHeight (group.parts.map Part.height)

/-- The height of what is in the group. -/
def height (group : Group) : Nat :=
  rowHeight (group.row :: group.alternatives)

/-- Add a part. -/
def add (group : Group) (part : Part) : Group :=
  { group with parts := part :: group.parts }

/-- Begin another alternative.  Flags stay in force. -/
def split (group : Group) : Group :=
  { group with alternatives := group.row :: group.alternatives, parts := [] }

/-- Repeat the last part. -/
def repeatLast? (group : Group) : Option Group :=
  match group.parts with
  | [] => none
  | last :: parts =>
      if last.isRepeatable then
        some { group with parts := { height := 1 + last.height } :: parts }
      else
        none

end Group

/-- What an opening parenthesis begins. -/
inductive Opening where
  /-- A group with the mode inside of it, and perhaps a name. -/
  | group (mode : Mode) (name : Option (List Char))
  /-- Flags for what follows, in no group of their own. -/
  | flags (mode : Mode)
deriving Repr, Inhabited, DecidableEq

/-- The characters can name a group. -/
def isGroupName : List Char → Bool
  | [] => false
  | c :: rest =>
      (c == '_' || Text.isAlphabetic c) &&
        rest.all fun c => ['_', '.', '[', ']'].contains c || Text.isAlphanumeric c

/-- Read the name of a group up to the angle bracket that ends it. -/
def readGroupName? (mode : Mode) (chars : List Char) : Option (Opening × List Char) :=
  let name := chars.takeWhile (· != '>')
  match chars.drop name.length with
  | _ :: rest => if isGroupName name then some (.group mode (some name), rest) else none
  | [] => none

/-- Read flags up to the colon that begins a group or the parenthesis that ends them. -/
def readFlags? (mode : Mode) (chars : List Char) : Option (Opening × List Char) :=
  let word := chars.takeWhile fun c => c != ':' && c != ')'
  if !isFlagWord word then
    none
  else
    match chars.drop word.length with
    | ':' :: rest => some (.group (mode.withFlags word) none, rest)
    | ')' :: rest => if word.isEmpty then none else some (.flags (mode.withFlags word), rest)
    | _ => none

/-- Read what stands behind an opening parenthesis, up to the first part of the group. -/
def readOpening? (mode : Mode) (chars : List Char) : Option (Opening × List Char) :=
  match mode.skip chars with
  | '?' :: 'P' :: '<' :: rest | '?' :: '<' :: rest => readGroupName? mode rest
  | '?' :: rest => readFlags? mode rest
  | rest => some (.group mode none, rest)

/-- The sign repeats the part before it. -/
def isRepetition (c : Char) : Bool :=
  c == '*' || c == '+' || c == '?'

/-- Drop the question mark behind a repetition, which makes it match as little as
possible. -/
def dropReluctance : List Char → List Char
  | '?' :: rest => rest
  | rest => rest

/-- Read the rest of an expression, and find its height.  `outer` holds the open groups
around the current one and `names` the names of groups, which have to differ; `fuel`
bounds the number of parts. -/
def readParts? : Nat → Group → List Group → List (List Char) → List Char → Option Nat
  | 0, _, _, _, _ => none
  | fuel + 1, here, outer, names, chars => do
      match here.mode.skip chars with
      | [] => if outer.isEmpty then some here.height else none
      | '(' :: rest =>
          match ← readOpening? here.mode rest with
          | (.flags mode, rest) =>
              let here := here.add { isRepeatable := false }
              readParts? fuel { here with mode } outer names rest
          | (.group mode name, rest) =>
              if name.any names.contains then none
              readParts? fuel { mode } (here :: outer) (name.toList ++ names) rest
      | ')' :: rest =>
          match outer with
          | [] => none
          | around :: outer =>
              readParts? fuel (around.add { height := 1 + here.height }) outer names rest
      | '|' :: rest => readParts? fuel here.split outer names rest
      | '[' :: rest =>
          let (height, rest) ← readClass? here.mode rest
          readParts? fuel (here.add { height }) outer names rest
      | c :: rest =>
          if isRepetition c then
            readParts? fuel (← here.repeatLast?) outer names (dropReluctance rest)
          else
            let (item, rest) ← Item.read? here.mode (c :: rest)
            if !here.mode.admits item then none
            readParts? fuel (here.add {}) outer names rest

/-- The regular expression is well formed. -/
def isWellFormed (text : String) : Bool :=
  let chars := text.toList
  (readParts? (chars.length + 1) {} [] [] chars).any (· ≤ greatestHeight)

example : ["a.*b", "[]x]+", "(a|b)?", "(?:)", "[a[^]]]", "(?P<n>x)(?-u)\\d+"].all
    isWellFormed = true := by
  decide +kernel

example : ["*", "(", "a)", "[]", "[[]]", "a\\", "a|+", "(?i)x", "(?<n>)(?<n>)"].all
    (!isWellFormed ·) = true := by
  decide +kernel

end ServiceLifecycle.Pattern
