/-
Module: ServiceLifecycle.Deployment.Basic
Purpose: What an application declares: its root directory and its services.
Main exports: Declaration, Deployment, Deployment.declared, Deployment.tree
-/
import ServiceLifecycle.Configuration.Basic

namespace ServiceLifecycle

/-!
A deployment lists services in the order in which they are to be started.  A
declaration without implementation only carries settings, for a service that
is registered by other means.
-/

/-- One service: its name, how it is built, and its settings. -/
structure Declaration where
  name : String
  implementation : Option String := none
  settings : Table := []
deriving Repr, Inhabited

/-- A whole application. -/
structure Deployment where
  applicationRoot : Option String := none
  services : List Declaration := []
deriving Repr, Inhabited

namespace Declaration

/-- The section of a declaration: its settings and its implementation key. -/
def toSection (declaration : Declaration) : Table :=
  match declaration.implementation with
  | some key => declaration.settings.putSorted "implementation" (Value.text key)
  | none => declaration.settings

end Declaration

namespace Deployment

/-- The declaration of a name; of several, the first. -/
def find? (deployment : Deployment) (name : String) : Option Declaration :=
  deployment.services.find? fun declaration => declaration.name == name

/-- Name and implementation key of each service that has one, in order. -/
def declared (deployment : Deployment) : List (String × String) :=
  deployment.services.filterMap fun declaration =>
    declaration.implementation.map fun key => (declaration.name, key)

/-- The sections of all services by name; of one name, the last counts. -/
def sections (deployment : Deployment) : Table :=
  Entries.sorted (deployment.services.map fun declaration =>
    (declaration.name, .table declaration.toSection))

/-- The deployment as one tree: the sections under `services`. -/
def tree (deployment : Deployment) : Configuration :=
  let services : Table := [("services", .table deployment.sections)]
  match deployment.applicationRoot with
  | some path => services.putSorted "application_root" (Value.text path)
  | none => services

end Deployment

end ServiceLifecycle
