/-
Module: ServiceLifecycle.Broker.Event
Purpose: What happens while a broker works.
Main exports: Event, Event.line?
-/
import ServiceLifecycle.Component.Basic
import ServiceLifecycle.Diagnostics

namespace ServiceLifecycle

/-!
A broker keeps a journal of what it and its components do.  Scripted components
are numbered in the order in which they are built, and what they do shows in the
log behind their number.  The other events stay in the journal.
-/

/-- One entry of the journal. -/
inductive Event where
  /-- An instance was built, for a key or for nobody in particular; a scripted one has a
  label. -/
  | built (instanceId : Nat) (implementation : String) (label : Option Nat) (key : Option String)
  /-- A recipe refused to build an instance. -/
  | refused (implementation : String)
  /-- An instance was put into the cache. -/
  | cached (key : String) (instanceId : Nat)
  /-- The broker started a phase of an instance. -/
  | started (key : String) (instanceId : Nat) (phase : Phase)
  /-- A phase that the broker had started came to its end; it succeeded when it
  reported no fault and left the instance initialized. -/
  | ended (key : String) (instanceId : Nat) (phase : Phase) (succeeded : Bool)
  /-- A scripted component entered a phase. -/
  | entered (label : Option Nat) (phase : Phase)
  /-- A scripted component logged a text. -/
  | said (label : Option Nat) (text : String)
  /-- An instance became initialized by its own doing. -/
  | marked (instanceId : Nat)
  /-- A key lost its instance and its records. -/
  | evicted (key : String)
  /-- A diagnostic was reported. -/
  | reported (entry : Diagnostic)
deriving Repr, Inhabited, DecidableEq

/-- The line of a component in the log; a component without label has none. -/
def labelledLine (label : Option Nat) (text : String) : Option String :=
  label.map fun n => "#" ++ toString n ++ " " ++ text

/-- The line that an event leaves in the log. -/
def Event.line? : Event → Option String
  | built _ implementation label _ => labelledLine label ("new " ++ implementation)
  | refused implementation => some ("factory " ++ implementation ++ " fails")
  | entered label phase => labelledLine label phase.name
  | said label text => labelledLine label text
  | _ => none

end ServiceLifecycle
