/-
Module: ServiceLifecycle.Broker.Store
Purpose: The state of a broker and computations over it.
Main exports: Provider, HostObject, Store, Outcome, Work, PhaseRunner
-/
import ServiceLifecycle.Broker.Event
import ServiceLifecycle.Mapping
import ServiceLifecycle.Registry
import ServiceLifecycle.StartupData

namespace ServiceLifecycle

/-!
One broker manages components of one capability.  Without the service capability
it addresses them by implementation key; with it, by service name, and a mapping
leads from names to implementation keys.  Each key has at most one cached instance.

Instances are numbered in the order in which they are built and keep their number
for good, so that a caller may hold one whose key has been evicted.

Components call their broker from within their phases.  Such a computation ends in
one of four ways: it finishes, it waits for itself, because a late phase needs its
own key to be ready, it stops the program, or it nests more phases than it was allowed to.
-/

/-- Where a broker reads the sections of its services. -/
inductive Provider where
  /-- A provider put together by the host. -/
  | inMemory (provider : InMemory)
  /-- The configuration service behind an instance. -/
  | component (instanceId : Nat)
deriving Repr, Inhabited

/-- An object that a host lends to its services. -/
inductive HostObject where
  | text (value : String)
  | flag (value : Bool)
  | unsigned (value : Nat)
deriving Repr, Inhabited, DecidableEq

/-- The state of a broker. -/
structure Store where
  registry : Registry := {}
  /-- The implementation key of each registered service, in order of registration. -/
  mapping : Mapping := .empty
  /-- Every instance built so far, by number. -/
  instances : List Component := []
  /-- How many of them follow a script. -/
  scripted : Nat := 0
  /-- The instance of each key. -/
  cached : Entries Nat := []
  /-- What went wrong in the last late phase of each key where something did. -/
  poisoned : Entries String := []
  /-- The keys whose early phase is in progress, innermost first. -/
  stack : List String := []
  /-- The keys whose late phase is in progress, innermost first. -/
  settling : List String := []
  channel : Channel := {}
  provider : Option Provider := none
  applicationRoot : Option String := none
  objects : Entries HostObject := []
  /-- Components can reach the broker that owns them. -/
  reachable : Bool := true
  surroundings : Surroundings := {}
  /-- What has happened, newest first. -/
  journal : List Event := []
deriving Inhabited

/-- How a computation ends. -/
inductive Outcome (α : Type) where
  /-- With a result. -/
  | finished (result : α)
  /-- It waits for the late phase of a key, which waits for it. -/
  | blocked (key : String)
  /-- It stops the program, which cannot log as it was told to. -/
  | stopped
  /-- It nests more phases than it was allowed to. -/
  | exhausted
deriving Repr, Inhabited

namespace Outcome

/-- Go on with the result, if there is one. -/
def andThen {α β : Type} (outcome : Outcome α) (next : α → Outcome β) : Outcome β :=
  match outcome with
  | finished result => next result
  | blocked key => blocked key
  | stopped => stopped
  | exhausted => exhausted

instance : Monad Outcome where
  pure := finished
  bind := andThen

instance : LawfulMonad Outcome :=
  LawfulMonad.mk' Outcome
    (fun outcome => by cases outcome <;> rfl)
    (fun _ _ => rfl)
    (fun outcome _ _ => by cases outcome <;> rfl)

end Outcome

/-- A computation over the state of a broker. -/
abbrev Work := StateT Store Outcome

/-- How a phase of an instance is run, with the data of an early phase. -/
abbrev PhaseRunner := Nat → Phase → StartupData → Work (Except PhaseFault Unit)

namespace Work

/-- Wait for the late phase of a key that is already in progress. -/
def blocked {α : Type} (key : String) : Work α :=
  fun _ => .blocked key

/-- Stop the program. -/
def stopped {α : Type} : Work α :=
  fun _ => .stopped

/-- Nest too deep. -/
def exhausted {α : Type} : Work α :=
  fun _ => .exhausted

end Work

namespace Store

/-- The instance of a number. -/
def instance? (store : Store) (id : Nat) : Option Component :=
  store.instances[id]?

/-- The name of an instance, empty before one is given. -/
def nameOf (store : Store) (id : Nat) : String :=
  ((store.instance? id).map Component.nameOrEmpty).getD ""

/-- The label of an instance that follows a script. -/
def labelOf? (store : Store) (id : Nat) : Option Nat :=
  (store.instance? id).bind Component.label

/-- What the configuration service behind an instance has loaded. -/
def deploymentOf? (store : Store) (id : Nat) : Option Deployment :=
  (store.instance? id).bind Component.deployment?

/-- What the logging service behind an instance has read. -/
def logSettingsOf? (store : Store) (id : Nat) : Option LogSettings :=
  (store.instance? id).bind Component.logSettings?

/-- The number of the cached instance of a key. -/
def cachedId? (store : Store) (key : String) : Option Nat :=
  store.cached.get? key

/-- The cached instance of a key. -/
def cachedInstance? (store : Store) (key : String) : Option Component :=
  (store.cachedId? key).bind store.instance?

/-- A key has an instance. -/
def isConstructed (store : Store) (key : String) : Bool :=
  store.cached.contains key

/-- An instance is initialized. -/
def isReady (store : Store) (id : Nat) : Bool :=
  (store.instance? id).any (·.initialized)

/-- A key has an instance that is initialized. -/
def isInitialized (store : Store) (key : String) : Bool :=
  (store.cachedId? key).any store.isReady

/-- The last late phase of a key failed. -/
def isPoisoned (store : Store) (key : String) : Bool :=
  store.poisoned.contains key

/-- The keys that have instances, ascending. -/
def constructedKeys (store : Store) : List String :=
  store.cached.sortedKeys

/-- Write into the journal. -/
def note (store : Store) (event : Event) : Store :=
  { store with journal := event :: store.journal }

/-- Change an instance. -/
def update (store : Store) (id : Nat) (change : Component → Component) : Store :=
  { store with instances := store.instances.modify id change }

/-- An instance becomes initialized by its own doing. -/
def mark (store : Store) (id : Nat) : Store :=
  (store.update id fun component => { component with initialized := true }).note (.marked id)

/-- An instance becomes uninitialized. -/
def unmark (store : Store) (id : Nat) : Store :=
  store.update id fun component => { component with initialized := false }

/-- Report a diagnostic. -/
def report (store : Store) (entry : Diagnostic) : Store :=
  { store with channel := store.channel.record entry }.note (.reported entry)

/-- Report a notice. -/
def notice (store : Store) (text : String) : Store :=
  store.report (.ofNotice text)

/-- Report an error by its message. -/
def errorMessage (store : Store) (text : String) : Store :=
  store.report (.ofError text)

/-- Report a fault together with its causes. -/
def reportFault (store : Store) (fault : Fault) : Store :=
  store.errorMessage fault.chain

/-- Remember what went wrong in the late phase of a key. -/
def poison (store : Store) (key reason : String) : Store :=
  { store with poisoned := store.poisoned.put key reason }

/-- Forget what went wrong in the late phase of a key. -/
def clearPoison (store : Store) (key : String) : Store :=
  { store with poisoned := store.poisoned.erase key }

/-- Forget the instance of a key and what went wrong with it.  The instance is not
shut down. -/
def evict (store : Store) (key : String) : Store :=
  { store with
    cached := store.cached.erase key
    poisoned := store.poisoned.erase key }.note (.evicted key)

/-- The lines of the log, in order. -/
def log (store : Store) : List String :=
  store.journal.reverse.filterMap Event.line?

end Store

namespace Provider

/-- The section that a provider has under a path, if it holds anything. -/
def configuration (provider : Provider) (store : Store) (path : String) : Option Configuration :=
  match provider with
  | inMemory provider => provider.configuration path
  | component id =>
      (store.deploymentOf? id).bind fun deployment => deployment.tree.subset? path

/-- The services that a provider declares, each with its implementation key. -/
def declarations (provider : Provider) (store : Store) : List (String × String) :=
  match provider with
  | inMemory provider => provider.declarations
  | component id =>
      match store.deploymentOf? id with
      | some deployment => deployment.declared
      | none => []

/-- The root directory that a provider names. -/
def applicationRoot (provider : Provider) (store : Store) : Option String :=
  match provider with
  | inMemory provider => provider.applicationRoot
  | component id => (store.deploymentOf? id).bind Deployment.applicationRoot

end Provider

namespace Store

/-- The section of a service, empty when there is none.  A broker without the
service capability has no sections. -/
def sectionOf (store : Store) (name : String) : Configuration :=
  match store.registry.capability with
  | .component => []
  | .service =>
      (store.provider.bind fun provider =>
        provider.configuration store ("services." ++ name)).getD []

theorem sectionOf_provided {store : Store} {provider : Provider}
    (services : store.registry.capability = .service)
    (provided : store.provider = some provider) (name : String) :
    store.sectionOf name =
      (provider.configuration store ("services." ++ name)).getD [] := by
  rw [sectionOf, services, provided]
  rfl

end Store

end ServiceLifecycle
