/-
Module: ServiceLifecycle.Pattern.Mode
Purpose: The modes in which a regular expression is read.
Main exports: Mode, Mode.withFlags, Mode.skip, Mode.glimpse?, isFlagWord
-/
import ServiceLifecycle.Text.Blank

namespace ServiceLifecycle.Pattern

/-!
Flags inside an expression change how the rest of its group is read.  Three of them
decide whether an expression is well formed; the others only change what it matches.
-/

/-- How an expression is read. -/
structure Mode where
  /-- A letter stands for both of its cases. -/
  caseless : Bool := false
  /-- What is matched are characters and not bytes. -/
  unicode : Bool := true
  /-- Blanks and comments between items mean nothing. -/
  spaced : Bool := false
deriving Repr, Inhabited, DecidableEq

/-- The letters of all flags. -/
def flagLetters : List Char := ['i', 'm', 's', 'U', 'u', 'R', 'x']

/-- The letters are flags, each at most once; a minus sign may stand in front of some. -/
def isFlagWord (word : List Char) : Bool :=
  (word.all fun c => c == '-' || flagLetters.contains c) && decide word.Nodup &&
    word.getLast? != some '-'

namespace Mode

/-- Turn a flag on or off. -/
def set (mode : Mode) (value : Bool) : Char → Mode
  | 'i' => { mode with caseless := value }
  | 'u' => { mode with unicode := value }
  | 'x' => { mode with spaced := value }
  | _ => mode

/-- Turn on the flags in front of the minus sign and turn off those behind it. -/
def withFlags (mode : Mode) (word : List Char) : Mode :=
  let isOn := fun (c : Char) => c != '-'
  (word.dropWhile isOn).foldl (set · false) ((word.takeWhile isOn).foldl (set · true) mode)

/-- Drop blanks and comments.  A comment ends with its line. -/
def dropSpace (inComment : Bool) : List Char → List Char
  | [] => []
  | c :: rest =>
      if inComment then dropSpace (c != '\n') rest
      else if c = '#' then dropSpace true rest
      else if Text.isBlank c then dropSpace false rest
      else c :: rest

/-- Drop what means nothing in front of an item. -/
def skip (mode : Mode) (chars : List Char) : List Char :=
  if mode.spaced then dropSpace false chars else chars

/-- The next character of meaning, at a glimpse: of a comment only the mark is passed
over. -/
def glimpse? (mode : Mode) (chars : List Char) : Option Char :=
  if mode.spaced then
    match Text.trimLeft chars with
    | '#' :: rest => (Text.trimLeft rest).head?
    | rest => rest.head?
  else
    chars.head?

end Mode

example : isFlagWord ['s', 'm', '-', 'U'] = true ∧ isFlagWord ['i', '-', 'i'] = false ∧
    isFlagWord ['-'] = false := by
  decide

example : ({} : Mode).withFlags ['x', '-', 'u'] = { unicode := false, spaced := true } := by
  decide

end ServiceLifecycle.Pattern
