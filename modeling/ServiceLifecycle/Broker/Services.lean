/-
Module: ServiceLifecycle.Broker.Services
Purpose: What a host does with a broker.
Main exports: Broker.early, Broker.resolve, Broker.resolveAs, Broker.shutdown,
  Broker.earlyAll, Broker.shutdownAll, Store.register, Store.registerAll, Store.unregister
-/
import ServiceLifecycle.Broker.Phases
import ServiceLifecycle.Configuration.Properties

namespace ServiceLifecycle

/-!
The first registration of a service name counts: a second one with another
implementation is ignored with a notice.  The services start in the order in which
they were registered, and shut down in the opposite order, which is right for
services that are declared after those they use.
-/

/-- The setting by which a service opts out of the common start. -/
def earlySetting : String := "early_init"

namespace Store

/-- Map a service name to an implementation.  The answer is whether it is mapped to it
afterwards. -/
def register (store : Store) (name implementation : String) : Bool × Store :=
  match store.mapping.get? name with
  | none => (true, { store with mapping := store.mapping.put name implementation })
  | some present =>
      if present = implementation then
        (true, store)
      else
        (false, store.notice ("Service " ++ name ++ " is already mapped to " ++ present ++
          ", ignoring " ++ implementation))

/-- Register pairs of name and implementation in order, and count those that are mapped
as asked. -/
def registerAll (store : Store) : List (String × String) → Nat × Store
  | [] => (0, store)
  | (name, implementation) :: rest =>
      let (mapped, store) := store.register name implementation
      let (count, store) := store.registerAll rest
      ((if mapped then 1 else 0) + count, store)

/-- Remove a service together with its instance, which is not shut down. -/
def unregister (store : Store) (name : String) : Bool × Store :=
  (store.mapping.contains name, { store with mapping := store.mapping.erase name }.evict name)

/-- The names of the registered services, in order of registration. -/
def serviceNames (store : Store) : List String :=
  store.mapping.keys

/-- The registered names that begin with a text. -/
def serviceNamesFrom (store : Store) (beginning : String) : List String :=
  store.serviceNames.filter fun name => beginning.toList.isPrefixOf name.toList

/-- The section of a service, flattened. -/
def properties (store : Store) (name : String) : Entries String :=
  (store.sectionOf name).properties

/-- A broker of components in one line. -/
def summary (store : Store) : String :=
  "InitableBroker \x7b capability: " ++ Text.quote store.registry.capability.name ++
    ", instances: " ++ Text.quoteList store.constructedKeys ++ " \x7d"

/-- A broker of services in one line. -/
def serviceSummary (store : Store) : String :=
  "ServiceBroker \x7b mapping: [" ++ ", ".intercalate (store.mapping.entries.map Text.quotePair) ++
    "], constructed: " ++ Text.quoteList store.constructedKeys ++ " \x7d"

/-- Hand the diagnostics to a sink, once. -/
def enable (store : Store) (sink : Sink) : Bool × Store :=
  let (accepted, channel) := store.channel.enable sink
  (accepted, { store with channel })

end Store

namespace Broker

/-- Initialize services early in order.  One that opts out is passed over.  A failure
ends the walk, or else is reported. -/
def earlyEach (run : PhaseRunner) (data : StartupData) (failFast : Bool) :
    List String → Work (Except BrokerFault Unit)
  | [] => pure (.ok ())
  | name :: rest => do
      if ((← get).sectionOf name).flag earlySetting true then
        match ← earlyBy run name data with
        | .ok () => earlyEach run data failFast rest
        | .error fault =>
            if failFast then
              pure (.error fault)
            else
              modify fun store => store.reportFault (.broker fault)
              earlyEach run data failFast rest
      else
        earlyEach run data failFast rest

/-- Initialize every registered service early. -/
def earlyAllBy (run : PhaseRunner) (data : StartupData) (failFast : Bool) :
    Work (Except BrokerFault Unit) := do
  match ← earlyEach run data failFast (← get).serviceNames with
  | .error fault => pure (.error fault)
  | .ok () =>
      modify fun store => store.notice "Finished initializing all services"
      pure (.ok ())

/-- Shut services down in order, each after a notice if it is initialized. -/
def shutdownEach (run : PhaseRunner) : List String → Work Unit
  | [] => pure ()
  | name :: rest => do
      if (← get).isInitialized name then
        modify fun store => store.notice ("Shutting down service: " ++ name)
      let _ ← shutdownBy run name
      shutdownEach run rest

/-- Shut every registered service down, in reverse order of registration. -/
def shutdownAllBy (run : PhaseRunner) : Work Unit := do
  modify fun store => store.notice "Shutting down all services"
  shutdownEach run (← get).serviceNames.reverse

/-- Carry out an operation in which phases may nest as deep as there are keys. -/
def carryOut {α : Type} (operation : PhaseRunner → Work α) : Work α := do
  operation (runPhase (depthAllowance (← get)))

/-- Initialize a key early. -/
def early (key : String) (data : StartupData) : Work (Except BrokerFault Unit) :=
  carryOut fun run => earlyBy run key data

/-- Initialize a key early, with an instance of the given implementation. -/
def earlyAs (key implementation : String) (data : StartupData) :
    Work (Except BrokerFault Unit) :=
  carryOut fun run => earlyFrom run (constructAs key implementation none) key data

/-- The instance of a key, ready for use. -/
def resolve (key : String) : Work (Except BrokerFault Nat) :=
  carryOut fun run => resolveBy run key

/-- An instance of the given implementation under a key, ready for use. -/
def resolveFrom (key implementation : String) : Work (Except BrokerFault Nat) :=
  carryOut fun run => lateFrom run (constructAs key implementation none) key

/-- The instance of a key, ready for use and of the type wanted. -/
def resolveAs (key : String) (wanted : Wanted) : Work (Except BrokerFault Nat) :=
  carryOut fun run => resolveAsBy run key wanted

/-- Shut the instance of a key down, if it is initialized. -/
def shutdownInstance (key : String) : Work Bool :=
  carryOut fun run => shutdownInstanceBy run key

/-- Shut a key down. -/
def shutdown (key : String) : Work Bool :=
  carryOut fun run => shutdownBy run key

/-- Initialize every registered service early. -/
def earlyAll (data : StartupData) (failFast : Bool) : Work (Except BrokerFault Unit) :=
  carryOut fun run => earlyAllBy run data failFast

/-- Shut every registered service down. -/
def shutdownAll : Work Unit :=
  carryOut shutdownAllBy

end Broker

end ServiceLifecycle
