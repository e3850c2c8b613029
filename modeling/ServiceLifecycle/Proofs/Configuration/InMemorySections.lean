/-
Module: ServiceLifecycle.Proofs.Configuration.InMemorySections
Purpose: Which section a service finds with a provider that a host has put together.
Main exports: InMemory.Step, InMemory.assemble, InMemory.lastGiven?,
  InMemory.holds_assemble, InMemory.section_found, InMemory.section_misread
-/
import Mathlib.Data.List.Induction
import ServiceLifecycle.Broker.Store
import ServiceLifecycle.Proofs.Deployment.Sections
import ServiceLifecycle.Proofs.Entries.Ascending

namespace ServiceLifecycle

/-!
A host gives settings to services one after the other, and each name keeps the last that it was
given.  They are stored under the name as it is, but they are looked up by a dotted path, which
loses the dots at its end and is cut at the others.  So a name without dots finds its own settings,
whereas any other name is taken for a path: it leads into the settings of the service that its
first part names, and a name of nothing but dots leads to the table of all services.
-/

namespace InMemory

/-- What a host does to put a provider together. -/
inductive Step where
  | service (name implementation : String) (settings : Value)
  | settings (name : String) (settings : Value)
  | withSection (key : String) (value : Value)
  | withRoot (path : String)
deriving Repr, Inhabited

namespace Step

/-- Carry a step out. -/
def carryOut (provider : InMemory) : Step → InMemory
  | service name implementation value => provider.service name implementation value
  | settings name value => provider.settings name value
  | withSection key value => provider.withSection key value
  | withRoot path => provider.withRoot path

/-- The settings that a step gives, and the service that it gives them to. -/
def given? : Step → Option (String × Value)
  | service name _ value => some (name, value)
  | settings name value => some (name, value)
  | withSection _ _ => none
  | withRoot _ => none

/-- A step puts no section of its own in the place of the services. -/
def Spares : Step → Prop
  | withSection key _ => key ≠ "services"
  | _ => True

end Step

/-- The provider that comes of steps, from none on. -/
def assemble (steps : List Step) : InMemory :=
  steps.foldl Step.carryOut {}

/-- The settings that have been given to services, in order. -/
def given (steps : List Step) : List (String × Value) :=
  steps.filterMap Step.given?

/-- The settings that a service has been given last. -/
def lastGiven? (name : String) (steps : List Step) : Option Value :=
  Entries.get? name (given steps).reverse

/-- The table of services in a provider is that of some settings, and it is there as soon as there
are any. -/
def Holds (provider : InMemory) (settings : List (String × Value)) : Prop :=
  Entries.get? "services" provider.root =
    if settings = [] then none else some (.table (Entries.sorted settings))

theorem Holds.settings {provider : InMemory} {settings : List (String × Value)}
    (holds : provider.Holds settings) (name : String) (value : Value) :
    (provider.settings name value).Holds (settings ++ [(name, value)]) := by
  have present : (Entries.get? "services" provider.root).getD (.table []) =
      .table (Entries.sorted settings) := by
    rw [holds]
    split
    · rename_i nothing
      rw [nothing]
      rfl
    · rfl
  have extended : Entries.sorted (settings ++ [(name, value)]) =
      Entries.putSorted name value (Entries.sorted settings) := by
    rw [Entries.sorted, Entries.putAll, List.foldl_append]
    rfl
  rw [Holds, InMemory.settings, present, Entries.get?_putSorted, if_pos rfl, extended,
    if_neg (by simp)]

theorem Holds.carryOut {provider : InMemory} {settings : List (String × Value)} {step : Step}
    (holds : provider.Holds settings) (spares : step.Spares) :
    (step.carryOut provider).Holds (settings ++ step.given?.toList) := by
  cases step with
  | service name implementation value =>
      have declared : ({ provider with
          declarations := provider.declarations ++ [(name, implementation)] } : InMemory).Holds
          settings := holds
      exact declared.settings name value
  | settings name value => exact holds.settings name value
  | withSection key value =>
      have elsewhere : "services" ≠ key := Ne.symm spares
      rw [Step.given?, Option.toList_none, List.append_nil, Holds, Step.carryOut,
        InMemory.withSection, Entries.get?_putSorted, if_neg elsewhere]
      exact holds
  | withRoot path =>
      rw [Step.given?, Option.toList_none, List.append_nil]
      exact holds

/-- Every name has the settings that it has been given last. -/
theorem holds_assemble {steps : List Step} (spare : ∀ step ∈ steps, step.Spares) :
    (assemble steps).Holds (given steps) := by
  induction steps using List.reverseRecOn with
  | nil => rfl
  | append_singleton front last inductionHypothesis =>
      have earlier : (assemble front).Holds (given front) :=
        inductionHypothesis fun step member => spare step (List.mem_append_left _ member)
      have spares : last.Spares := spare last (List.mem_append_right _ List.mem_cons_self)
      have added : given (front ++ [last]) = given front ++ last.given?.toList := by
        rw [given, List.filterMap_append, given, List.filterMap_cons]
        cases last.given? <;> rfl
      rw [assemble, List.foldl_append, added]
      exact earlier.carryOut spares

theorem get?_sorted_given (name : String) (steps : List Step) :
    Entries.get? name (Entries.sorted (given steps)) = lastGiven? name steps := by
  rw [Entries.get?_sorted_eq, lastGiven?]

section Found

variable {provider : InMemory} {settings : List (String × Value)} {name : String}

theorem Holds.configuration_dots (holds : provider.Holds settings)
    (dots : withoutTrailingDots name = "") :
    provider.configuration ("services." ++ name) =
      (some (Entries.sorted settings)).filter (!·.isEmpty) := by
  have whole : pathParts "services" = ["services"] := pathParts_dotless (by decide)
  rw [InMemory.configuration, Configuration.subset?_eq, withoutTrailingDots_section, if_pos dots,
    Configuration.lookup, whole, Value.follow?, Value.child?, holds]
  by_cases nothing : settings = []
  · rw [if_pos nothing, nothing]
    rfl
  · rw [if_neg nothing]
    rfl

theorem Holds.configuration_other (holds : provider.Holds settings)
    (other : withoutTrailingDots name ≠ "") {first : String} {rest : List String}
    (parts : pathParts (withoutTrailingDots name) = first :: rest) :
    provider.configuration ("services." ++ name) =
      (((Entries.get? first (Entries.sorted settings)).bind (Value.follow? rest)).bind
        Value.table?).filter (!·.isEmpty) := by
  rw [InMemory.configuration, Configuration.subset?_eq, withoutTrailingDots_section, if_neg other,
    Configuration.lookup, pathParts_section, parts, Value.follow?, Value.child?, holds]
  by_cases nothing : settings = []
  · rw [if_pos nothing, nothing]
    rfl
  · rw [if_neg nothing]
    rfl

end Found

/-- What a service finds with a provider that has been put together in steps.  A name without dots
finds the settings that it has been given last, if they are a table that holds anything.  A name of
nothing but dots, such as the empty one, finds the table of all services.  Every other name, less
the dots at its end, is a path: it leads into what the service of its first part has been given. -/
theorem section_found {steps : List Step} (spare : ∀ step ∈ steps, step.Spares) (name : String) :
    (name ≠ "" → '.' ∉ name.toList →
      (assemble steps).configuration ("services." ++ name) =
        ((lastGiven? name steps).bind Value.table?).filter (!·.isEmpty)) ∧
    (withoutTrailingDots name = "" →
      (assemble steps).configuration ("services." ++ name) =
        (some (Entries.sorted (given steps))).filter (!·.isEmpty)) ∧
    (∀ first rest, withoutTrailingDots name ≠ "" →
      pathParts (withoutTrailingDots name) = first :: rest →
      (assemble steps).configuration ("services." ++ name) =
        (((lastGiven? first steps).bind (Value.follow? rest)).bind Value.table?).filter
          (!·.isEmpty)) ∧
    ∀ s : Store, s.registry.capability = .service →
      s.provider = some (.inMemory (assemble steps)) →
      s.sectionOf name = ((assemble steps).configuration ("services." ++ name)).getD [] := by
  have holds : (assemble steps).Holds (given steps) := holds_assemble spare
  refine ⟨?dotless, holds.configuration_dots, ?path, ?broker⟩
  case dotless =>
    intro nonempty dotless
    have kept : withoutTrailingDots name = name := withoutTrailingDots_dotless dotless
    have parts : pathParts (withoutTrailingDots name) = [name] := by
      rw [kept, pathParts_dotless dotless]
    rw [holds.configuration_other (kept.symm ▸ nonempty) parts, get?_sorted_given]
    cases lastGiven? name steps <;> rfl
  case path =>
    intro first rest other parts
    rw [holds.configuration_other other parts, get?_sorted_given]
  case broker => exact fun s services provided => Store.sectionOf_provided services provided name

/-- One service, with a table among its settings. -/
def pooled : List Step :=
  [.service "Cache" "acme.cache" (.table [("pool", .table [("size", .int 8)])])]

/-- The name finds its own settings. -/
theorem section_found_pooled :
    (assemble pooled).configuration ("services." ++ "Cache") =
      some [("pool", .table [("size", .int 8)])] := by
  have spare : ∀ step ∈ pooled, step.Spares := by
    intro step member
    rw [List.mem_singleton.mp member]
    trivial
  rw [(section_found spare "Cache").1 (by decide) (by decide)]
  rfl

/-- Three names that have been given nothing find the table of all services, the settings of
another service and a part of them.  A name with a dot in it does not find what it has been
given. -/
theorem section_misread :
    lastGiven? "" pooled = none ∧
    (assemble pooled).configuration ("services." ++ "") =
      some [("Cache", .table [("pool", .table [("size", .int 8)])])] ∧
    lastGiven? "Cache." pooled = none ∧
    (assemble pooled).configuration ("services." ++ "Cache.") =
      some [("pool", .table [("size", .int 8)])] ∧
    lastGiven? "Cache.pool" pooled = none ∧
    (assemble pooled).configuration ("services." ++ "Cache.pool") = some [("size", .int 8)] ∧
    lastGiven? "a.b" [.settings "a.b" (.table [("size", .int 8)])] =
      some (.table [("size", .int 8)]) ∧
    (assemble [.settings "a.b" (.table [("size", .int 8)])]).configuration ("services." ++ "a.b") =
      none := by
  refine ⟨rfl, rfl, rfl, rfl, rfl, rfl, rfl, rfl⟩

end InMemory

end ServiceLifecycle
