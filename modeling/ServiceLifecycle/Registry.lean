/-
Module: ServiceLifecycle.Registry
Purpose: What can be built, by implementation key.
Main exports: Capability, Recipe, StaticEntry, Registry, Registry.find, Registry.contains
-/
import ServiceLifecycle.Component.Basic

namespace ServiceLifecycle

/-!
A registry maps implementation keys to recipes.  It may fall back to a fixed list
of entries that were there before it; a recipe of the same key comes first.  An
entry that is no service cannot be built where a service is wanted.
-/

/-- What a broker manages. -/
inductive Capability where
  /-- Components addressed by implementation key. -/
  | component
  /-- Named services. -/
  | service
deriving Repr, Inhabited, DecidableEq

/-- The name of a capability in messages. -/
def Capability.name : Capability → String
  | component => "Initable"
  | service => "Service"

/-- A component in one line, as a broker of the capability shows it. -/
def Capability.describe (capability : Capability) (component : Component) : String :=
  match capability with
  | .component => component.summary
  | .service => component.serviceSummary

/-- How a component is built. -/
inductive Recipe where
  | build (body : Body)
  | refuse (fault : ConstructionFault)
deriving Repr, Inhabited

/-- A component that can be built without a recipe. -/
structure StaticEntry where
  key : String
  body : Body := .plain
  isService : Bool := true
deriving Repr, Inhabited

/-- An entry in one line. -/
def StaticEntry.summary (entry : StaticEntry) : String :=
  "ComponentEntry \x7b key: " ++ Text.quote entry.key ++ ", service: " ++
    Component.flagText entry.isService ++ " \x7d"

/-- Recipes by key, and the fixed entries if the registry falls back to them. -/
structure Registry where
  capability : Capability := .component
  recipes : Entries Recipe := []
  statics : Option (List StaticEntry) := none
deriving Repr, Inhabited

/-- What a registry has for a key. -/
inductive Finding where
  /-- Nothing. -/
  | nothing
  /-- A recipe. -/
  | recipe (recipe : Recipe)
  /-- A fixed entry of the capability. -/
  | entry (body : Body)
  /-- A fixed entry without the capability. -/
  | unfit
deriving Repr, Inhabited

namespace Registry

/-- The fixed entry of a key, if the registry falls back to them. -/
def static? (registry : Registry) (key : String) : Option StaticEntry :=
  registry.statics.bind fun entries => entries.find? fun entry => entry.key == key

/-- What the registry has for a key. -/
def find (registry : Registry) (key : String) : Finding :=
  match registry.recipes.get? key with
  | some recipe => .recipe recipe
  | none =>
      match registry.static? key with
      | some entry =>
          if registry.capability = .service && !entry.isService then .unfit
          else .entry entry.body
      | none => .nothing

/-- The key is known, whatever can be built from it. -/
def contains (registry : Registry) (key : String) : Bool :=
  registry.recipes.contains key || (registry.static? key).isSome

/-- Put a recipe in place of whatever the key had. -/
def register (registry : Registry) (key : String) (recipe : Recipe) : Registry :=
  { registry with recipes := registry.recipes.put key recipe }

/-- Remove the recipe of a key. -/
def unregister (registry : Registry) (key : String) : Registry :=
  { registry with recipes := registry.recipes.erase key }

/-- The keys that have recipes, ascending. -/
def keys (registry : Registry) : List String :=
  registry.recipes.sortedKeys

/-- A registry in one line. -/
def summary (registry : Registry) : String :=
  "FactoryRegistry \x7b capability: " ++ Text.quote registry.capability.name ++ ", keys: " ++
    Text.quoteList registry.keys ++ ", use_static: " ++
    Component.flagText registry.statics.isSome ++ " \x7d"

end Registry

end ServiceLifecycle
