/-
Module: ServiceLifecycle.Fault
Purpose: What can go wrong, in which words, and because of what.
Main exports:
  Reason, SourceFault, LoadFault, BrokerFault, PhaseFault, ConstructionFault, StartupFault,
  Fault, Fault.message, Fault.source?, Fault.trace, Fault.chain
-/

namespace ServiceLifecycle

/-!
Faults nest.  A broker reports a fault about a key; its cause is what the
component's phase or its factory reported; and that may again have causes of
any kind.  A phase that fails because a nested broker call failed passes the
broker's fault on *unchanged*: such a wrapper has no words of its own, it shows
the message and the source of what it wraps.

`Fault.trace` walks from a fault to its root cause by asking each fault for its
source, and `Fault.chain` writes the messages met on the way on one line.
-/

/-- Why a key could not be turned into a component. -/
inductive Reason where
  /-- Nothing can build the implementation. -/
  | unavailable
  /-- The factory misses something it needs. -/
  | missingDependency
  /-- The component is not of the kind asked for. -/
  | typeMismatch
  /-- The factory ran and failed. -/
  | constructionFailed
  /-- No implementation is mapped to the service name. -/
  | unknownService
deriving Repr, Inhabited, DecidableEq

namespace Reason

/-- A short name for logs. -/
def label : Reason → String
  | unavailable => "unavailable"
  | missingDependency => "missing-dependency"
  | typeMismatch => "type-mismatch"
  | constructionFailed => "construction-failed"
  | unknownService => "unknown-service"

/-- The reason with a short name. -/
def ofLabel? (label : String) : Option Reason :=
  [unavailable, missingDependency, typeMismatch, constructionFailed, unknownService].find?
    fun reason => reason.label == label

/-- The reason in a sentence about an implementation and what was asked of it. -/
def sentence (reason : Reason) (implementation capability : String) : String :=
  match reason with
  | unavailable =>
      "Component " ++ implementation ++ " is unavailable. Check your registered factories."
  | missingDependency =>
      "A component referenced by " ++ implementation ++
        " is unavailable. Check your registered factories."
  | typeMismatch => "Component " ++ implementation ++ " doesn't implement " ++ capability ++ "."
  | constructionFailed => "Failed to instantiate " ++ implementation
  | unknownService => "ServiceBroker: unknown service " ++ implementation ++ " requested"

end Reason

/-- What the reader of the sources reports, in its own words and without a further cause. -/
structure SourceFault where
  message : String
deriving Repr, Inhabited, DecidableEq

/-- Why a configuration could not be loaded or accepted. -/
inductive LoadFault where
  /-- The file that was asked for does not exist. -/
  | fileNotFound (path : String)
  /-- Files with this extension cannot be read. -/
  | unsupportedFormat (extension : String)
  /-- The sources cannot be read, or together do not fit the schema. -/
  | unreadable (cause : SourceFault)
  /-- The configuration breaks a rule. -/
  | invalid (message : String)
  /-- A required field is missing or blank. -/
  | missingField (field : String)
  /-- Two declarations have the same name. -/
  | duplicateService (name : String)
deriving Repr, Inhabited, DecidableEq

/-- The message of a load fault. -/
def LoadFault.message : LoadFault → String
  | fileNotFound path => "Configuration file not found: " ++ path
  | unsupportedFormat extension =>
      "Unsupported or disabled configuration file format: ." ++ extension
  | unreadable _ => "Failed to extract configuration"
  | invalid text => "Invalid configuration: " ++ text
  | missingField field => "Missing required configuration field: " ++ field
  | duplicateService name => "Duplicate service declaration: " ++ name

mutual

/-- What a broker reports about a key. -/
inductive BrokerFault where
  /-- Early initialization came back to a key that it had not finished; the
  chain leads from the key to the key. -/
  | circular (key : String) (chain : List String)
  /-- The key could not be turned into a component. -/
  | unresolved (key : String) (reason : Reason) (details : String) (cause : Option Fault)
  /-- The component exists but did not become initialized. -/
  | uninitialized (key : String) (cause : PhaseFault)

/-- What a component's phase reports. -/
inductive PhaseFault where
  /-- The component's own failure. -/
  | failed (message : String) (cause : Option Fault)
  /-- A nested broker call failed, and its fault is passed on unchanged. -/
  | nested (fault : BrokerFault)

/-- What a factory reports. -/
inductive ConstructionFault where
  /-- Another component is needed and not available. -/
  | missing (name : String)
  /-- The component does not have the capability. -/
  | mismatch (capability : String)
  /-- The construction itself failed. -/
  | failed (cause : Fault)

/-- Any fault. -/
inductive Fault where
  /-- A message with a cause. -/
  | plain (message : String) (cause : Option Fault)
  | broker (fault : BrokerFault)
  | phase (fault : PhaseFault)
  | construction (fault : ConstructionFault)
  /-- A broker's fault met while starting the services, passed on unchanged. -/
  | startup (fault : BrokerFault)
  /-- A service lacks what its place at startup requires. -/
  | missingCapability (service capability : String)
  | load (fault : LoadFault)

end

deriving instance Repr for BrokerFault, PhaseFault, ConstructionFault, Fault
deriving instance Inhabited for BrokerFault, PhaseFault, ConstructionFault, Fault

namespace ConstructionFault

/-- The reason that a factory's fault gives for not resolving a key. -/
def reason : ConstructionFault → Reason
  | missing _ => .missingDependency
  | mismatch _ => .typeMismatch
  | failed _ => .constructionFailed

/-- The message of a factory's fault. -/
def message : ConstructionFault → String
  | missing name => "required component '" ++ name ++ "' is unavailable"
  | mismatch capability => "component does not implement " ++ capability
  | failed _ => "constructor failed"

end ConstructionFault

namespace BrokerFault

/-- The key that the fault is about. -/
def key : BrokerFault → String
  | circular key _ => key
  | unresolved key _ _ _ => key
  | uninitialized key _ => key

/-- The message of a broker's fault. -/
def message : BrokerFault → String
  | circular key chain =>
      key ++ " couldn't be initialized because of circular dependency chain: " ++
        "->".intercalate chain
  | unresolved key _ details _ => "cannot resolve '" ++ key ++ "': " ++ details
  | uninitialized key _ => key ++ " failed to initialize"

/-- A fault that has a reason and no cause. -/
def ofReason (key : String) (reason : Reason) (implementation capability : String) : BrokerFault :=
  .unresolved key reason (reason.sentence implementation capability) none

/-- No implementation is mapped to the name. -/
def unknownService (name : String) : BrokerFault :=
  ofReason name .unknownService name "Service"

/-- The component behind the key is not of the type asked for. -/
def typeMismatch (key typeName : String) : BrokerFault :=
  ofReason key .typeMismatch key typeName

/-- A factory's fault, as a fault about the key it should have been built for. -/
def ofConstruction (key implementation capability : String) (fault : ConstructionFault) :
    BrokerFault :=
  .unresolved key fault.reason (fault.reason.sentence implementation capability)
    (some (.construction fault))

end BrokerFault

namespace PhaseFault

/-- The message of a phase's fault. -/
def message : PhaseFault → String
  | failed message _ => message
  | nested fault => fault.message

end PhaseFault

namespace Fault

/-- The message of a fault, without its causes. -/
def message : Fault → String
  | plain message _ => message
  | broker fault => fault.message
  | phase fault => fault.message
  | construction fault => fault.message
  | startup fault => fault.message
  | missingCapability service capability =>
      "Service " ++ service ++ " does not provide " ++ capability
  | load fault => fault.message

/-- The source of a broker's fault. -/
def brokerSource? : BrokerFault → Option Fault
  | .circular _ _ => none
  | .unresolved _ _ _ cause => cause
  | .uninitialized _ cause => some (phase cause)

/-- The source of a load fault. -/
def loadSource? : LoadFault → Option Fault
  | .unreadable cause => some (plain cause.message none)
  | _ => none

/-- What a fault names as its source. -/
def source? : Fault → Option Fault
  | plain _ cause => cause
  | broker fault => brokerSource? fault
  | phase (.failed _ cause) => cause
  | phase (.nested fault) => brokerSource? fault
  | construction (.failed cause) => some cause
  | construction _ => none
  | startup fault => brokerSource? fault
  | missingCapability _ _ => none
  | load fault => loadSource? fault

theorem sizeOf_lt_of_brokerSource? {fault : BrokerFault} {cause : Fault}
    (h : brokerSource? fault = some cause) : sizeOf cause < sizeOf fault + 1 := by
  cases fault with
  | circular key chain => exact absurd h (by simp [brokerSource?])
  | unresolved key reason details origin =>
      cases (show origin = some cause from h)
      simp only [BrokerFault.unresolved.sizeOf_spec, Option.some.sizeOf_spec]
      omega
  | uninitialized key origin =>
      cases Option.some.inj h
      simp only [phase.sizeOf_spec, BrokerFault.uninitialized.sizeOf_spec]
      omega

theorem sizeOf_lt_of_loadSource? {fault : LoadFault} {cause : Fault}
    (h : loadSource? fault = some cause) : sizeOf cause < sizeOf fault + 1 := by
  cases fault with
  | unreadable origin =>
      cases Option.some.inj h
      cases origin
      simp only [plain.sizeOf_spec, LoadFault.unreadable.sizeOf_spec, SourceFault.mk.sizeOf_spec,
        Option.none.sizeOf_spec]
      omega
  | _ => cases h

theorem sizeOf_lt_of_source? {fault cause : Fault} (h : fault.source? = some cause) :
    sizeOf cause < sizeOf fault := by
  cases fault with
  | plain message origin =>
      cases (show origin = some cause from h)
      simp only [plain.sizeOf_spec, Option.some.sizeOf_spec]
      omega
  | broker inner =>
      have := sizeOf_lt_of_brokerSource? h
      simp only [broker.sizeOf_spec]
      omega
  | startup inner =>
      have := sizeOf_lt_of_brokerSource? h
      simp only [startup.sizeOf_spec]
      omega
  | missingCapability service capability => exact absurd h (by simp [source?])
  | load inner =>
      have := sizeOf_lt_of_loadSource? h
      simp only [load.sizeOf_spec]
      omega
  | phase inner =>
      cases inner with
      | failed message origin =>
          cases (show origin = some cause from h)
          simp only [phase.sizeOf_spec, PhaseFault.failed.sizeOf_spec, Option.some.sizeOf_spec]
          omega
      | nested fault =>
          have := sizeOf_lt_of_brokerSource? h
          simp only [phase.sizeOf_spec, PhaseFault.nested.sizeOf_spec]
          omega
  | construction inner =>
      cases inner with
      | missing name => exact absurd h (by simp [source?])
      | mismatch capability => exact absurd h (by simp [source?])
      | failed origin =>
          cases Option.some.inj h
          simp only [construction.sizeOf_spec, ConstructionFault.failed.sizeOf_spec]
          omega

/-- The messages of a fault and of its sources, down to the root cause. -/
def trace (fault : Fault) : List String :=
  fault.message ::
    match _h : fault.source? with
    | none => []
    | some cause => cause.trace
termination_by sizeOf fault
decreasing_by exact sizeOf_lt_of_source? _h

/-- A fault and its causes on one line. -/
def chain (fault : Fault) : String :=
  ": ".intercalate fault.trace

end Fault

end ServiceLifecycle
