/-
Module: ServiceLifecycle.Bootstrap
Purpose: How an application comes up from its configuration.
Main exports: Plan, StartupFault, Bootstrap.build, Bootstrap.deployment?
-/
import ServiceLifecycle.Broker.Services

namespace ServiceLifecycle

/-!
The services of an application are declared in its configuration, but reading the
configuration, and reporting problems while doing so, takes services too.  The
broker therefore comes up in four steps:

1. the configuration service starts, and becomes the broker's provider;
2. the logging service starts, with settings from that configuration;
3. the diagnostics kept so far go to the sink of the logging service;
4. the remaining services are registered in the order of their declarations.

When one of the first two steps fails, its fault is reported like any other, and all
diagnostics go to a fallback sink.
-/

/-- The name of the service that serves the configuration. -/
def configurationName : String := "ConfigurationService"

/-- The name of the service that sets up logging. -/
def loggingName : String := "LoggingService"

/-- The implementation key of the built-in configuration service. -/
def configurationKey : String := "keystone.configuration"

/-- The implementation key of the built-in logging service. -/
def loggingKey : String := "keystone.logging"

/-- What a host decides before the start. -/
structure Plan where
  loader : Loader
  /-- A deployment to use as it is, instead of loading one. -/
  deployment : Option Deployment := none
  configurationKey : String := ServiceLifecycle.configurationKey
  /-- The logging service, unless the configuration declares another. -/
  loggingKey : String := ServiceLifecycle.loggingKey
  fallback : Sink := .console
  data : StartupData := {}
deriving Inhabited

/-- Why an application did not come up. -/
inductive StartupFault where
  | broker (fault : BrokerFault)
  /-- A service lacks what its place at startup requires. -/
  | missingCapability (service capability : String)
deriving Inhabited

/-- A startup fault among all faults. -/
def StartupFault.toFault : StartupFault → Fault
  | broker fault => .startup fault
  | missingCapability service capability => .missingCapability service capability

namespace Registry

/-- Add a recipe unless the key is known. -/
def provide (registry : Registry) (key : String) (body : Body) : Registry :=
  if registry.contains key then registry else registry.register key (.build body)

/-- Add the built-in services where the host has not put others. -/
def withBuiltin (registry : Registry) : Registry :=
  (registry.provide configurationKey (.configuration none)).provide loggingKey (.logging none)

end Registry

namespace Bootstrap

/-- The provider that a component offers. -/
def offeredProvider? (store : Store) (id : Nat) : Option Provider :=
  match (store.instance? id).map Component.body with
  | some (.configuration _) => some (.component id)
  | some (.scripted script) => script.provider.map .inMemory
  | _ => none

/-- The sink that a component offers; the log when it offers none. -/
def offeredSink (store : Store) (id : Nat) : Sink :=
  match (store.instance? id).map Component.body with
  | some (.scripted script) => script.sink.getD .tracing
  | _ => .tracing

/-- Start a service early and get its instance. -/
def startService (name : String) (data : StartupData) : Work (Except StartupFault Nat) := do
  match ← Broker.early name data with
  | .error fault => pure (.error (.broker fault))
  | .ok () =>
      match ← Broker.resolve name with
      | .error fault => pure (.error (.broker fault))
      | .ok id => pure (.ok id)

/-- Start the configuration service. -/
def startConfiguration (data : StartupData) : Work (Except StartupFault Provider) := do
  match ← startService configurationName data with
  | .error fault => pure (.error fault)
  | .ok id =>
      match offeredProvider? (← get) id with
      | some provider => pure (.ok provider)
      | none => pure (.error (.missingCapability configurationName "ConfigurationProvider"))

/-- Report a fault and hand all diagnostics to a fallback sink. -/
def abort (fallback : Sink) (fault : StartupFault) : Work (Except StartupFault Unit) := do
  modify fun store => ((store.reportFault fault.toFault).enable fallback).2
  pure (.error fault)

/-- The implementation key of the logging service: the first one declared, or else the
default. -/
def chooseLogging (declarations : List (String × String)) (default : String) : String :=
  ((declarations.find? fun declaration => declaration.1 == loggingName).map Prod.snd).getD default

/-- The startup data with what the configuration service is to serve. -/
def Plan.startupData (plan : Plan) : StartupData :=
  match plan.deployment with
  | some deployment => { plan.data with deployment := some deployment }
  | none => { plan.data with loader := some plan.loader }

/-- Steps 2 to 4: logging, diagnostics, and the other services. -/
def continueWith (plan : Plan) (data : StartupData) (provider : Provider) :
    Work (Except StartupFault Unit) := do
  modify fun store =>
    { store with
      provider := some provider
      applicationRoot := (provider.applicationRoot store).or store.applicationRoot }
  let logging := chooseLogging (provider.declarations (← get)) plan.loggingKey
  modify fun store => (store.register loggingName logging).2
  match ← startService loggingName data with
  | .error fault =>
      modify fun store => (store.unregister loggingName).2
      abort plan.fallback fault
  | .ok id =>
      modify fun store => (store.enable (offeredSink store id)).2
      modify fun store => (store.registerAll (provider.declarations store)).2
      pure (.ok ())

/-- Bring an application up. -/
def build (plan : Plan) : Work (Except StartupFault Unit) := do
  modify fun store =>
    ({ store with registry := store.registry.withBuiltin }.register
      configurationName plan.configurationKey).2
  let data := Plan.startupData plan
  match ← startConfiguration data with
  | .error fault => abort plan.fallback fault
  | .ok provider => continueWith plan data provider

/-- The deployment that the built-in configuration service serves, after it has been
made ready. -/
def deployment? : Work (Option Deployment) := do
  match ← Broker.resolveAs configurationName .configurationService with
  | .error _ => pure none
  | .ok id => pure ((← get).deploymentOf? id)

/-- The settings that the built-in logging service has read, after it has been made
ready. -/
def logSettings? : Work (Except BrokerFault (Option LogSettings)) := do
  match ← Broker.resolveAs loggingName .loggingService with
  | .error fault => pure (.error fault)
  | .ok id => pure (.ok ((← get).logSettingsOf? id))

end Bootstrap

end ServiceLifecycle
