/-
Module: ServiceLifecycle.Broker.Lifecycle
Purpose: How a broker takes its components through their phases.
Main exports: Broker.earlyFrom, Broker.lateFrom, Broker.earlyBy, Broker.resolveBy,
  Broker.resolveAsBy, Broker.shutdownBy
-/
import ServiceLifecycle.Broker.Construction

namespace ServiceLifecycle

/-!
Early initialization is driven from the outside and comes with startup data.  The
keys in progress form a stack; a key that is reached again while it is on the stack
closes a circle, and the part of the stack from that key on is the chain reported.

Late initialization happens when a key is first needed.  When it fails, the key is
poisoned: from then on the same fault is reported without another attempt, until an
early initialization succeeds or the key is evicted.  A key that is needed while its
own late phase is in progress can never become ready, and the computation blocks.

All operations here take the way to run a phase as an argument, because a phase may
in turn use these operations.
-/

/-- The circle that a key closes on a stack: from its place up to the top and back. -/
def circleThrough (key : String) (stack : List String) : List String :=
  (stack.reverse.dropWhile fun entry => entry != key) ++ [key]

/-- The fault of a component that ended its phase without becoming initialized. -/
def unmarkedFault (phase : Phase) (key : String) : PhaseFault :=
  .failed (phase.name ++ "_init() failed to initialize " ++ key) none

/-- A phase's fault, as a fault about the key: the fault of a nested call is passed on
unchanged. -/
def PhaseFault.about (key : String) : PhaseFault → BrokerFault
  | .nested fault => fault
  | fault => .uninitialized key fault

namespace Broker

/-- Run a phase of an instance, and note in the journal that it starts and how it
ends.  A phase that reports no fault must leave the instance initialized. -/
def runPhaseOf (run : PhaseRunner) (key : String) (id : Nat) (phase : Phase)
    (data : StartupData) : Work (Except PhaseFault Unit) := do
  modify fun store => store.note (.started key id phase)
  let result ← run id phase data
  let store ← get
  let result :=
    match result with
    | .error fault => .error fault
    | .ok () => if store.isReady id then .ok () else .error (unmarkedFault phase key)
  set (store.note (.ended key id phase result.isOk))
  pure result

/-- Initialize a key early, with the instance that a computation comes by.  Nothing
happens when it is already initialized. -/
def earlyFrom (run : PhaseRunner) (construct : Work (Except BrokerFault Nat)) (key : String)
    (data : StartupData) : Work (Except BrokerFault Unit) := do
  match ← construct with
  | .error fault => pure (.error fault)
  | .ok id =>
      let store ← get
      if store.isReady id then
        pure (.ok ())
      else if store.stack.contains key then
        pure (.error (.circular key (circleThrough key store.stack)))
      else
        set { store with stack := key :: store.stack }
        let result ← runPhaseOf run key id .early data
        modify fun store => { store with stack := store.stack.tail }
        match result with
        | .ok () =>
            modify fun store => store.clearPoison key
            pure (.ok ())
        | .error fault => pure (.error (fault.about key))

/-- Make a key ready, with the instance that a computation comes by, and initialize
it late when it is not. -/
def lateFrom (run : PhaseRunner) (construct : Work (Except BrokerFault Nat)) (key : String) :
    Work (Except BrokerFault Nat) := do
  match ← construct with
  | .error fault => pure (.error fault)
  | .ok id =>
      let store ← get
      if store.isReady id then
        pure (.ok id)
      else
        match store.poisoned.get? key with
        | some reason => pure (.error (.uninitialized key (.failed reason none)))
        | none =>
            if store.settling.contains key then
              Work.blocked key
            else
              set { store with settling := key :: store.settling }
              let result ← runPhaseOf run key id .late {}
              modify fun store => { store with settling := store.settling.tail }
              match result with
              | .ok () => pure (.ok id)
              | .error fault =>
                  modify fun store => store.poison key (Fault.phase fault).chain
                  pure (.error (fault.about key))

/-- Initialize a key early.  A service is announced first. -/
def earlyBy (run : PhaseRunner) (key : String) (data : StartupData) :
    Work (Except BrokerFault Unit) := do
  if (← get).registry.capability = .service then
    modify fun store => store.notice ("Start initializing service (early): " ++ key)
  earlyFrom run (instanceFor key) key data

/-- The instance of a key, ready for use. -/
def resolveBy (run : PhaseRunner) (key : String) : Work (Except BrokerFault Nat) :=
  lateFrom run (instanceFor key) key

/-- The instance of a key, ready for use and of the type wanted. -/
def resolveAsBy (run : PhaseRunner) (key : String) (wanted : Wanted) :
    Work (Except BrokerFault Nat) := do
  match ← resolveBy run key with
  | .error fault => pure (.error fault)
  | .ok id =>
      if ((← get).instance? id).any (·.has wanted) then
        pure (.ok id)
      else
        pure (.error (.typeMismatch key wanted.typeName))

/-- Shut the instance of a key down, if it is initialized.  Afterwards it is not,
whatever its phase did. -/
def shutdownInstanceBy (run : PhaseRunner) (key : String) : Work Bool := do
  let store ← get
  match store.cachedId? key with
  | none => pure false
  | some id =>
      if store.isReady id then
        set (store.note (.started key id .shutdown))
        let result ← run id .shutdown {}
        modify fun store => (store.unmark id).note (.ended key id .shutdown result.isOk)
        pure true
      else
        pure false

/-- The key means something to the broker, so that it can be shut down. -/
def isKnown (store : Store) (key : String) : Bool :=
  store.isConstructed key ||
    match store.registry.capability with
    | .component => store.registry.contains key
    | .service => store.mapping.contains key

/-- What is reported when an unknown key is to be shut down. -/
def unknownShutdown (capability : Capability) (key : String) : String :=
  match capability with
  | .component => "Shutdown of a nonexistent component " ++ key ++ " was requested"
  | .service => "Shutdown of a nonexistent service '" ++ key ++ "' was requested"

/-- Shut a key down.  It is an error when the key is unknown. -/
def shutdownBy (run : PhaseRunner) (key : String) : Work Bool := do
  let store ← get
  if isKnown store key then
    shutdownInstanceBy run key
  else
    set (store.errorMessage (unknownShutdown store.registry.capability key))
    pure false

end Broker

end ServiceLifecycle
