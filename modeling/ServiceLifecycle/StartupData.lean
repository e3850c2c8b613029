/-
Module: ServiceLifecycle.StartupData
Purpose: What a host hands to the early phase of its components.
Main exports: StartupData, StartupData.size, StartupData.summary
-/
import ServiceLifecycle.Source.Loader

namespace ServiceLifecycle

/-!
Startup data is a bag with at most one value of each type.  A component picks out
the types that it understands and ignores the rest.
-/

/-- At most one value of each type. -/
structure StartupData where
  unsigned : Option Nat := none
  signed : Option Int := none
  flag : Option Bool := none
  text : Option String := none
  texts : Option (List String) := none
  deployment : Option Deployment := none
  loader : Option Loader := none
deriving Repr, Inhabited

namespace StartupData

/-- No data at all. -/
def empty : StartupData := {}

/-- Which types have a value. -/
def present (data : StartupData) : List Bool :=
  [data.unsigned.isSome, data.signed.isSome, data.flag.isSome, data.text.isSome,
    data.texts.isSome, data.deployment.isSome, data.loader.isSome]

/-- The number of values. -/
def size (data : StartupData) : Nat :=
  data.present.count true

/-- The bag in one line. -/
def summary (data : StartupData) : String :=
  "InitData \x7b values: " ++ toString data.size ++ " \x7d"

end StartupData

end ServiceLifecycle
