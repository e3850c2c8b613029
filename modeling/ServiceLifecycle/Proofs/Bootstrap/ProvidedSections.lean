/-
Module: ServiceLifecycle.Proofs.Bootstrap.ProvidedSections
Purpose: What the configuration service hands out is what the deployment declares, name by name.
Main exports: Deployment.AlikeAt, Store.Provides, provides_of_served, provided_sections
-/
import ServiceLifecycle.Proofs.Bootstrap.ConfigurationService

namespace ServiceLifecycle

/-!
The configuration service keeps the deployment that it has loaded as one tree, and a broker reads
the section of a service back from it by a dotted path.  On this way every section could run into
another: two declarations of one name, or a name with a dot in it, would share an entry.  A
deployment that has been accepted has neither, so what is read under a name is settled by the
declaration of that name alone.
-/

open Broker

/-- A section: its settings, with the implementation key over what they say about it. -/
theorem Declaration.get?_toSection (declaration : Declaration) (key : String) :
    Entries.get? key declaration.toSection =
      if key = "implementation" then
        (declaration.implementation.map Value.text).or (Entries.get? key declaration.settings)
      else
        Entries.get? key declaration.settings := by
  rw [toSection]
  cases declaration.implementation with
  | none => simp
  | some implementation =>
      rw [Entries.get?_putSorted]
      by_cases same : key = "implementation" <;> simp [same]

namespace Deployment

/-- Two deployments declare the same under a name. -/
def AlikeAt (deployment other : Deployment) (name : String) : Prop :=
  ∀ declaration : Declaration, declaration.name = name →
    (declaration ∈ deployment.services ↔ declaration ∈ other.services)

variable {deployment other : Deployment} {name : String}

theorem find?_eq_none (undeclared : ∀ declaration ∈ deployment.services, declaration.name ≠ name) :
    deployment.find? name = none := by
  rw [find?, List.find?_eq_none]
  intro declaration member
  simpa using undeclared declaration member

/-- Deployments that declare the same under a name find the same there. -/
theorem AlikeAt.find?_eq (alike : deployment.AlikeAt other name) (named : deployment.IsNamed)
    (otherNamed : other.IsNamed) : deployment.find? name = other.find? name := by
  by_cases declared : ∃ declaration ∈ deployment.services, declaration.name = name
  case pos =>
    obtain ⟨declaration, member, rfl⟩ := declared
    have shared : declaration ∈ other.services := (alike declaration rfl).mp member
    rw [find?_of_mem named.distinct member, find?_of_mem otherNamed.distinct shared]
  case neg =>
    have undeclared : ∀ declaration ∈ deployment.services, declaration.name ≠ name :=
      fun declaration member same => declared ⟨declaration, member, same⟩
    have unshared : ∀ declaration ∈ other.services, declaration.name ≠ name :=
      fun declaration member same =>
        declared ⟨declaration, (alike declaration same).mpr member, same⟩
    rw [find?_eq_none undeclared, find?_eq_none unshared]

end Deployment

section Served

variable {deployment : Deployment} {s : Store} {id : Nat} {name : String}

theorem configuration_of_served (served : s.deploymentOf? id = some deployment) (path : String) :
    (Provider.component id).configuration s path = deployment.tree.subset? path := by
  rw [Provider.configuration, served, Option.bind_some]

theorem declarations_of_served (served : s.deploymentOf? id = some deployment) :
    (Provider.component id).declarations s = deployment.declared := by
  rw [Provider.declarations, served]

/-- The section of a name is that of its declaration, if it holds anything. -/
theorem configuration_section (named : deployment.IsNamed)
    (served : s.deploymentOf? id = some deployment) (nonempty : name ≠ "")
    (dotless : '.' ∉ name.toList) :
    (Provider.component id).configuration s ("services." ++ name) =
      ((deployment.find? name).map Declaration.toSection).filter (!·.isEmpty) := by
  rw [configuration_of_served served, Configuration.subset?,
    Deployment.subset_tree named.distinct nonempty dotless]
  cases deployment.find? name with
  | none => rfl
  | some declaration =>
      by_cases empty : declaration.toSection.isEmpty = true <;> simp [Option.filter, empty]

/-- What the configuration service behind an instance hands out, and the broker that reads its
sections there, is what a deployment declares. -/
structure Store.Provides (s : Store) (id : Nat) (deployment : Deployment) : Prop where
  declarations : (Provider.component id).declarations s =
    deployment.services.filterMap fun declaration =>
      declaration.implementation.map fun key => (declaration.name, key)
  present : ∀ declaration ∈ deployment.services, declaration.toSection ≠ [] →
    (Provider.component id).configuration s ("services." ++ declaration.name) =
      some declaration.toSection
  vacant : ∀ declaration ∈ deployment.services, declaration.toSection = [] →
    (Provider.component id).configuration s ("services." ++ declaration.name) = none
  absent : ∀ name : String, name ≠ "" → '.' ∉ name.toList →
    (∀ declaration ∈ deployment.services, declaration.name ≠ name) →
    (Provider.component id).configuration s ("services." ++ name) = none
  entries : ∀ declaration ∈ deployment.services, ∀ key,
    Entries.get? key declaration.toSection =
      if key = "implementation" then
        (declaration.implementation.map Value.text).or (Entries.get? key declaration.settings)
      else
        Entries.get? key declaration.settings
  broker : s.registry.capability = .service → s.provider = some (.component id) →
    ∀ name, s.sectionOf name =
      ((Provider.component id).configuration s ("services." ++ name)).getD []

/-- What is served is handed out. -/
theorem provides_of_served (named : deployment.IsNamed)
    (served : s.deploymentOf? id = some deployment) : s.Provides id deployment := by
  have declared : ∀ declaration ∈ deployment.services,
      (Provider.component id).configuration s ("services." ++ declaration.name) =
        (some declaration.toSection).filter (!·.isEmpty) := by
    intro declaration member
    rw [configuration_section named served (named.nonempty declaration member)
      (named.dotless declaration member), Deployment.find?_of_mem named.distinct member,
      Option.map_some]
  constructor
  case declarations => exact declarations_of_served served
  case present =>
    intro declaration member filled
    rw [declared declaration member]
    simpa using filled
  case vacant =>
    intro declaration member empty
    rw [declared declaration member, empty]
    rfl
  case absent =>
    intro name nonempty dotless undeclared
    rw [configuration_section named served nonempty dotless, Deployment.find?_eq_none undeclared]
    rfl
  case entries => exact fun declaration _ key => declaration.get?_toSection key
  case broker => exact fun services provided => Store.sectionOf_provided services provided

end Served

/-- A deployment that is accepted can be loaded, and what the configuration service has loaded is
handed out section by section, as it has been declared.  What is handed out under a name depends
on the declaration of that name alone: it is the same for any other accepted deployment, wherever
that is served, that has the same declaration there or has none as well. -/
theorem provided_sections {deployment : Deployment} (valid : deployment.validate = .ok ()) :
    (∀ (surroundings : Surroundings) (data : StartupData), data.deployment = some deployment →
      loadDeployment surroundings data = .ok deployment) ∧
    (∀ (s : Store) (id : Nat) (data : StartupData), (s.instance? id).isSome →
      loadDeployment s.surroundings data = .ok deployment →
      ∃ t, startConfiguration id data s = .finished (.ok (), t) ∧
        t.deploymentOf? id = some deployment) ∧
    ∀ (s : Store) (id : Nat), s.deploymentOf? id = some deployment →
      s.Provides id deployment ∧
      ∀ (other : Deployment) (t : Store) (otherId : Nat) (name : String),
        other.validate = .ok () → t.deploymentOf? otherId = some other →
        name ≠ "" → '.' ∉ name.toList → deployment.AlikeAt other name →
        (Provider.component otherId).configuration t ("services." ++ name) =
          (Provider.component id).configuration s ("services." ++ name) := by
  have named : deployment.IsNamed := Deployment.isNamed_of_valid valid
  refine ⟨?accepted, ?loaded, ?served⟩
  case accepted =>
    intro surroundings data given
    rw [loadDeployment, given]
    change (do deployment.validate; pure deployment : Except LoadFault Deployment) = _
    rw [valid]
    rfl
  case loaded =>
    intro s id data held loads
    obtain ⟨component, present⟩ := Option.isSome_iff_exists.mp held
    refine ⟨s.install id deployment, ?_, ?_⟩
    · rw [startConfiguration_apply, loads]
    · rw [Store.deploymentOf?, instance?_install, present]
      rfl
  case served =>
    intro s id served
    refine ⟨provides_of_served named served, ?_⟩
    intro other t otherId name otherValid otherServed nonempty dotless alike
    have otherNamed : other.IsNamed := Deployment.isNamed_of_valid otherValid
    rw [configuration_section named served nonempty dotless,
      configuration_section otherNamed otherServed nonempty dotless,
      alike.find?_eq named otherNamed]

/-- A service with an implementation and a setting. -/
def Declaration.cache : Declaration :=
  { name := "Cache", implementation := some "acme.cache", settings := [("capacity", .int 64)] }

/-- A deployment with all kinds of declarations: with settings and without, with an implementation
and without. -/
def Deployment.mixed : Deployment :=
  { applicationRoot := some "/srv/app"
    services := [.cache, { name := "Quiet" }, { name := "Mail", settings := [("port", .int 25)] }] }

/-- The cache is served with its implementation key, and a service without settings not at all. -/
theorem provided_sections_mixed :
    ∃ s : Store, s.deploymentOf? 0 = some Deployment.mixed ∧
      (Provider.component 0).configuration s ("services." ++ "Cache") =
        some [("capacity", .int 64), ("implementation", .text "acme.cache")] ∧
      (Provider.component 0).configuration s ("services." ++ "Quiet") = none ∧
      (Provider.component 0).configuration s ("services." ++ "Disk") = none ∧
      (Provider.component 0).declarations s = [("Cache", "acme.cache")] := by
  have valid : Deployment.mixed.validate = .ok () := by rfl
  have rendered : Declaration.cache.toSection =
      [("capacity", .int 64), ("implementation", .text "acme.cache")] := by rfl
  obtain ⟨accepted, loaded, served⟩ := provided_sections valid
  let blank : Store := { instances := [{ body := .configuration none }] }
  obtain ⟨s, -, holds⟩ := loaded blank 0 { deployment := some .mixed } rfl (accepted _ _ rfl)
  obtain ⟨provides, -⟩ := served s 0 holds
  refine ⟨s, holds, ?cache, ?quiet, ?disk, provides.declarations⟩
  case cache =>
    rw [← rendered]
    exact provides.present .cache List.mem_cons_self (by rw [rendered]; simp)
  case quiet =>
    exact provides.vacant { name := "Quiet" } (List.mem_cons_of_mem _ List.mem_cons_self) rfl
  case disk =>
    refine provides.absent "Disk" (by decide) (by decide) ?_
    simp [Deployment.mixed, Declaration.cache]

end ServiceLifecycle
