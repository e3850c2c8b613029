/-
Module: ServiceLifecycle.Component.Basic
Purpose: Components and their state.
Main exports: Body, Calls, Component, Component.summary, Component.has
-/
import ServiceLifecycle.Component.Script
import ServiceLifecycle.Deployment.Basic
import ServiceLifecycle.Logging.Settings

namespace ServiceLifecycle

/-!
A component has a body, which decides what its phases do, and the state that every
component has: whether it is initialized, the name and the owner that its broker
gave it, and how often each of its phases has run.
-/

/-- What a component is. -/
inductive Body where
  /-- It only keeps its status. -/
  | plain
  /-- It follows a script. -/
  | scripted (script : Script)
  /-- The built-in configuration service, with what it has loaded. -/
  | configuration (loaded : Option Deployment)
  /-- The built-in logging service, with the settings it has read. -/
  | logging (settings : Option LogSettings)
deriving Repr, Inhabited

/-- How often each phase of a scripted component has run. -/
structure Calls where
  early : Nat := 0
  late : Nat := 0
  shutdown : Nat := 0
deriving Repr, Inhabited, DecidableEq

namespace Calls

/-- The count of one phase. -/
def of (calls : Calls) : Phase → Nat
  | .early => calls.early
  | .late => calls.late
  | .shutdown => calls.shutdown

/-- One more run of a phase. -/
def next (calls : Calls) : Phase → Calls
  | .early => { calls with early := calls.early + 1 }
  | .late => { calls with late := calls.late + 1 }
  | .shutdown => { calls with shutdown := calls.shutdown + 1 }

end Calls

/-- A component and its state. -/
structure Component where
  /-- The implementation key it was built from. -/
  implementation : String := ""
  body : Body := .plain
  /-- The number of a scripted component among those built so far. -/
  label : Option Nat := none
  /-- The name of a service, once given. -/
  name : Option String := none
  /-- A broker owns the component. -/
  owned : Bool := false
  initialized : Bool := false
  calls : Calls := {}
deriving Repr, Inhabited

namespace Component

/-- The name, empty before one is given. -/
def nameOrEmpty (component : Component) : String :=
  component.name.getD ""

/-- Give a name; only the first one counts. -/
def withName (component : Component) (name : String) : Component :=
  match component.name with
  | some _ => component
  | none => { component with name := some name }

/-- The component is of a type. -/
def has (component : Component) (wanted : Wanted) : Bool :=
  match wanted, component.body with
  | .scripted, .scripted _ => true
  | .configurationService, .configuration _ => true
  | .loggingService, .logging _ => true
  | .implementation key _, _ => component.implementation == key
  | _, _ => false

/-- What the configuration service has loaded. -/
def deployment? (component : Component) : Option Deployment :=
  match component.body with
  | .configuration loaded => loaded
  | _ => none

/-- What the logging service has read. -/
def logSettings? (component : Component) : Option LogSettings :=
  match component.body with
  | .logging settings => settings
  | _ => none

/-- `true` or `false`. -/
def flagText (flag : Bool) : String :=
  if flag then "true" else "false"

/-- A component that is not a service, in one line. -/
def summary (component : Component) : String :=
  "Initable \x7b initialized: " ++ flagText component.initialized ++ ", .. \x7d"

/-- A service in one line. -/
def serviceSummary (component : Component) : String :=
  "Service \x7b name: " ++ Text.quote component.nameOrEmpty ++ ", initialized: " ++
    flagText component.initialized ++ ", .. \x7d"

/-- The state that every component has, in one line. -/
def lifecycleSummary (component : Component) : String :=
  "Lifecycle \x7b initialized: " ++ flagText component.initialized ++ ", attached: " ++
    flagText component.owned ++ " \x7d"

end Component

end ServiceLifecycle
