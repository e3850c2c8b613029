/-
Module: ServiceLifecycle.Logging.Threshold
Purpose: How important a log message has to be.
Main exports: Threshold, Threshold.admits, Threshold.ofText?, Threshold.finer
-/
import ServiceLifecycle.Logging.Settings
import ServiceLifecycle.Decimal.Notation

namespace ServiceLifecycle

/-!
A threshold lets through the messages that are at least as important as its level.
It is written as a name or as a number from 0, where nothing passes, to 5, where
everything does.
-/

/-- The least important messages that pass; without it none do. -/
abbrev Threshold := Option Level

namespace Level

/-- How important messages of a level are. -/
def importance : Level → Nat
  | trace => 0
  | debug => 1
  | info => 2
  | warn => 3
  | error => 4

end Level

namespace Threshold

/-- A message of a level passes. -/
def admits (threshold : Threshold) (level : Level) : Bool :=
  threshold.any fun least => least.importance ≤ level.importance

/-- How many levels pass. -/
def breadth : Threshold → Nat
  | none => 0
  | some least => 5 - least.importance

/-- Of two thresholds the one that lets more through. -/
def finer (one other : Threshold) : Threshold :=
  if one.breadth < other.breadth then other else one

/-- The thresholds by name. -/
def names : List (String × Threshold) :=
  ("off", none) :: Level.variants.map fun (name, level) => (name, some level)

/-- The thresholds by number, from none to all. -/
def numbered : List Threshold :=
  [none, some .error, some .warn, some .info, some .debug, some .trace]

/-- Read a threshold: a number, or a name in any case. -/
def ofText? (text : String) : Option Threshold :=
  let digits := match text.toList with
    | '+' :: digits => digits
    | digits => digits
  if !digits.isEmpty && digits.all Char.isDigit then
    numbered[Decimal.digitsValue digits]?
  else
    (names.find? fun (name, _) => name == text.map Char.toLower).map Prod.snd

end Threshold

end ServiceLifecycle
