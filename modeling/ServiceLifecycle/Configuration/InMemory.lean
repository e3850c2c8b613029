/-
Module: ServiceLifecycle.Configuration.InMemory
Purpose: A configuration provider that a host assembles piece by piece.
Main exports: InMemory, InMemory.settings, InMemory.configuration
-/
import ServiceLifecycle.Configuration.Basic

namespace ServiceLifecycle

/-!
A provider answers three questions: which section stands under a path, which
services are declared, and which directory is the application's root.  This
one is put together in code.
-/

/-- Sections, declarations and the root directory, as a host gave them. -/
structure InMemory where
  root : Table := []
  declarations : List (String × String) := []
  applicationRoot : Option String := none
deriving Repr, Inhabited

namespace InMemory

/-- Configure a service without declaring it.  The settings go below the
section `services`, unless the host put something else than a table there. -/
def settings (provider : InMemory) (name : String) (value : Value) : InMemory :=
  match (provider.root.get? "services").getD (.table []) with
  | .table services =>
      { provider with
        root := provider.root.putSorted "services"
          (.table (Entries.putSorted name value services)) }
  | _ => provider

/-- Declare a service with its implementation key and settings. -/
def service (provider : InMemory) (name implementation : String) (value : Value) : InMemory :=
  { provider with declarations := provider.declarations ++ [(name, implementation)] }
    |>.settings name value

/-- Put a value at the top level. -/
def withSection (provider : InMemory) (key : String) (value : Value) : InMemory :=
  { provider with root := provider.root.putSorted key value }

/-- Name the root directory. -/
def withRoot (provider : InMemory) (path : String) : InMemory :=
  { provider with applicationRoot := some path }

/-- The section under a path, if it holds anything. -/
def configuration (provider : InMemory) (path : String) : Option Configuration :=
  Configuration.subset? provider.root path

end InMemory

end ServiceLifecycle
