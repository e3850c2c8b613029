/-
Module: ServiceLifecycle.Configuration.Basic
Purpose: Read-only configuration sections and dotted lookup.
Main exports: Configuration, pathParts, lookup, flag, integer?, section
-/
import ServiceLifecycle.Value.Basic
import ServiceLifecycle.Decimal.Notation

namespace ServiceLifecycle

/-!
A configuration section is a table.  A *dotted path* such as `pool.size` names
a value below it: the path is cut at every dot, and each part selects a child
of the table reached so far.  Only tables have children, so a path that runs
into a scalar or a list leads nowhere.
-/

/-- A section of configuration. -/
abbrev Configuration := Table

/-- Cut a text at every dot; the parts may be empty. -/
def splitAtDots : List Char → List (List Char)
  | [] => [[]]
  | c :: rest =>
      if c = '.' then
        [] :: splitAtDots rest
      else
        match splitAtDots rest with
        | [] => [[c]]
        | part :: parts => (c :: part) :: parts

/-- The parts of a dotted path. -/
def pathParts (path : String) : List String :=
  (splitAtDots path.toList).map String.ofList

/-- The path without the dots at its end. -/
def withoutTrailingDots (path : String) : String :=
  String.ofList (path.toList.reverse.dropWhile (· == '.')).reverse

namespace Value

/-- Follow the parts of a path through nested tables. -/
def follow? : List String → Value → Option Value
  | [], value => some value
  | part :: parts, value => (value.child? part).bind (follow? parts)

end Value

namespace Configuration

/-- Wrap a value: anything but a table makes an empty section. -/
def ofValue (value : Value) : Configuration :=
  value.table?.getD []

/-- The value that a dotted path leads to. -/
def lookup (config : Configuration) (path : String) : Option Value :=
  Value.follow? (pathParts path) (.table config)

/-- The text that a path leads to. -/
def text? (config : Configuration) (path : String) : Option String :=
  (config.lookup path).bind Value.text?

/-- A switch: a Boolean, or one of the texts `true` and `false`; all else means
the default. -/
def flag (config : Configuration) (path : String) (default : Bool) : Bool :=
  match config.lookup path with
  | some (.bool value) => value
  | some (.text "true") => true
  | some (.text "false") => false
  | _ => default

/-- The number fits 64 bits with a sign. -/
def fitsSigned64 (n : Int) : Bool :=
  -9223372036854775808 ≤ n && n < 9223372036854775808

/-- Read a whole number with an optional sign. -/
def readInteger? (text : String) : Option Int :=
  let (negative, digits) := Decimal.splitSign text.toList
  if digits.isEmpty || !digits.all Char.isDigit then
    none
  else
    let magnitude : Int := Decimal.digitsValue digits
    some (if negative then -magnitude else magnitude)

/-- A whole number of 64 bits, written as a number or as a text. -/
def integer? (config : Configuration) (path : String) : Option Int :=
  match config.lookup path with
  | some (.int n) => if fitsSigned64 n then some n else none
  | some (.text digits) => (readInteger? digits).filter fitsSigned64
  | _ => none

/-- The nested section that a path, less its trailing dots, leads to; empty
when there is no table there. -/
def subset (config : Configuration) (path : String) : Configuration :=
  match config.lookup (withoutTrailingDots path) with
  | some (.table entries) => entries
  | _ => []

/-- The nested section, if it holds anything. -/
def subset? (config : Configuration) (path : String) : Option Configuration :=
  let found := config.subset path
  if found.isEmpty then none else some found

end Configuration

end ServiceLifecycle
