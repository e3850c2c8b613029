/-
Module: ServiceLifecycle.Broker.Phases
Purpose: What the phases of the components do.
Main exports: Situation, Broker.act, Broker.perform, Broker.runBody, Broker.runPhase
-/
import ServiceLifecycle.Broker.Lifecycle
import ServiceLifecycle.Logging.Setup
import ServiceLifecycle.Value.Printer

namespace ServiceLifecycle

/-!
A plain component only changes its status.  A scripted one follows the course of its
phase, up to the first action that fails.  The configuration service loads what the startup
data names, and the logging service reads its settings from its own section and sets the log up.

Phases nest, since an action may have the broker run phases of other components.
How deep they may nest is an argument, which goes down by one with each phase.
-/

/-- The phase that a scripted component is in. -/
structure Situation where
  id : Nat
  phase : Phase
  /-- This is the `run`-th time that the instance is in this phase. -/
  run : Nat
  data : StartupData := {}
deriving Inhabited

namespace StartupData

/-- A value, or a dash where there is none. -/
def orDash (text : Option String) : String :=
  text.getD "-"

/-- The values that scripted components know, on one line. -/
def line (data : StartupData) : String :=
  "data len=" ++ toString data.size ++ " u64=" ++ orDash (data.unsigned.map toString) ++
    " i64=" ++ orDash (data.signed.map toString) ++
    " bool=" ++ orDash (data.flag.map Component.flagText) ++
    " string=" ++ orDash data.text

end StartupData

namespace Broker

/-- Log a text in the name of an instance. -/
def say (id : Nat) (text : String) : Work Unit :=
  modify fun store => store.note (.said (store.labelOf? id) text)

/-- An instance can reach its broker. -/
def hasOwner (store : Store) (id : Nat) : Bool :=
  store.reachable && (store.instance? id).any (·.owned)

/-- The section that an instance has from its broker. -/
def ownSection (store : Store) (id : Nat) : Configuration :=
  if hasOwner store id then
    store.sectionOf (store.nameOf id)
  else
    []

/-- What becomes of a phase after a broker call that its component made. -/
def afterCall {α : Type} (id : Nat) (onFailure : OnFailure) (result : Except BrokerFault α) :
    Work (Except PhaseFault Heard) :=
  match result, onFailure with
  | .ok _, _ => pure (.ok none)
  | .error fault, .propagate => pure (.error (.nested fault))
  | .error fault, .wrap =>
      pure (.error (.failed "dependency failed" (some (.broker fault))))
  | .error fault, .ignore => do
      say id ("ignored: " ++ (Fault.broker fault).chain)
      pure (.ok (some fault))

/-- Perform an action that calls the broker. -/
def callOwner (run : PhaseRunner) (now : Situation) (action : Action) :
    Work (Except PhaseFault Heard) := do
  match action with
  | .early key onFailure =>
      afterCall now.id onFailure (← earlyBy run key now.data)
  | .resolve key onFailure =>
      afterCall now.id onFailure (← resolveBy run key)
  | .resolveAs key wanted onFailure =>
      let result ← resolveAsBy run key wanted
      if let .ok id := result then
        if let some label := (← get).labelOf? id then
          say now.id ("got #" ++ toString label)
      afterCall now.id onFailure result
  | .shutdown key =>
      let _ ← shutdownBy run key
      pure (.ok none)
  | .notice text =>
      modify fun store => store.notice text
      pure (.ok none)
  | .report text =>
      modify fun store => store.errorMessage text
      pure (.ok none)
  | .ownerConfig key =>
      say now.id ("owner_config " ++ (Value.table ((← get).sectionOf key)).render)
      pure (.ok none)
  | _ => pure (.ok none)

/-- Perform an action.  A component that cannot reach its broker logs that instead of
calling it. -/
def act (run : PhaseRunner) (now : Situation) (action : Action) :
    Work (Except PhaseFault Heard) := do
  match action with
  | .mark =>
      modify fun store => store.mark now.id
      pure (.ok none)
  | .unmark =>
      modify fun store => store.unmark now.id
      pure (.ok none)
  | .log text =>
      say now.id text
      pure (.ok none)
  | .name =>
      say now.id ("name=" ++ (← get).nameOf now.id)
      pure (.ok none)
  | .owner =>
      say now.id ("owner=" ++ Component.flagText (hasOwner (← get) now.id))
      pure (.ok none)
  | .data =>
      say now.id now.data.line
      pure (.ok none)
  | .config path =>
      let found := (ownSection (← get) now.id).lookup path
      say now.id ("config " ++ path ++ "=" ++ StartupData.orDash (found.map Value.render))
      pure (.ok none)
  | .fail message cause => pure (.error (.failed message cause))
  | .failFirst count message =>
      if now.run ≤ count then pure (.error (.failed message none)) else pure (.ok none)
  | .failAfter count message =>
      if count < now.run then pure (.error (.failed message none)) else pure (.ok none)
  | .failBroker fault => pure (.error (.nested fault))
  | call =>
      if hasOwner (← get) now.id then
        callOwner run now call
      else
        say now.id (call.label ++ ": no owner")
        pure (.ok none)

/-- Go on with what has been heard by an action, unless it has failed. -/
def proceed (done : Except PhaseFault Heard) (next : Heard → Work (Except PhaseFault Unit)) :
    Work (Except PhaseFault Unit) :=
  match done with
  | .error fault => pure (.error fault)
  | .ok heard => next heard

/-- Perform the actions of a course, up to the first that fails. -/
def perform (run : PhaseRunner) (now : Situation) : Course → Work (Except PhaseFault Unit)
  | .finish => pure (.ok ())
  | .act action next => do
      proceed (← act run now action) fun heard => perform run now (next heard)

/-- Count and log that a scripted component enters a phase. -/
def enterPhase (id : Nat) (phase : Phase) (data : StartupData) : Work Situation := do
  modify fun store => store.update id fun component =>
    { component with calls := component.calls.next phase }
  let store ← get
  let component := (store.instance? id).getD {}
  set (store.note (.entered component.label phase))
  pure { id, phase, run := component.calls.of phase, data }

/-- The late phase of a scripted component: its course, or else it just becomes
initialized. -/
def runLateScript (run : PhaseRunner) (id : Nat) (script : Script) :
    Work (Except PhaseFault Unit) := do
  let now ← enterPhase id .late {}
  perform run now script.lateCourse

/-- The early phase of a scripted component: its course, or else its late phase. -/
def runEarlyScript (run : PhaseRunner) (id : Nat) (script : Script) (data : StartupData) :
    Work (Except PhaseFault Unit) := do
  match script.early with
  | none => runLateScript run id script
  | some course => perform run (← enterPhase id .early data) course

/-- The shutdown phase of a scripted component: its course, or else it just becomes
uninitialized.  A failure only shows in the log. -/
def runShutdownScript (run : PhaseRunner) (id : Nat) (script : Script) :
    Work (Except PhaseFault Unit) := do
  let now ← enterPhase id .shutdown {}
  if let .error fault ← perform run now script.shutdownCourse then
    say id ("shutdown error: " ++ (Fault.phase fault).chain)
  pure (.ok ())

/-- What the configuration service serves: the deployment in the startup data, else
what the loader in it loads, else what the default loader loads. -/
def loadDeployment (surroundings : Surroundings) (data : StartupData) :
    Except LoadFault Deployment :=
  match data.deployment with
  | some deployment => do
      deployment.validate
      pure deployment
  | none => (data.loader.getD (Loader.new surroundings)).load surroundings

/-- The configuration service loads a deployment and becomes initialized. -/
def startConfiguration (id : Nat) (data : StartupData) : Work (Except PhaseFault Unit) := do
  let store ← get
  match loadDeployment store.surroundings data with
  | .error fault =>
      pure (.error (.failed "Failed to load configuration" (some (.load fault))))
  | .ok deployment =>
      set ((store.update id fun component =>
        { component with body := .configuration (some deployment) }).mark id)
      pure (.ok ())

/-- The settings in a section, if they are well-formed. -/
def readLogSettings (config : Configuration) : Except Fault LogSettings :=
  match LogSettings.decode (.table config) with
  | .error fault => .error (.plain fault.message none)
  | .ok settings =>
      match settings.validate with
      | .error fault => .error (.load fault)
      | .ok () => .ok settings

/-- The logging service reads the settings in its own section, sets the log up and
becomes initialized.  A log that the host has set up before stays in force, but the file
for the output is opened all the same. -/
def startLogging (id : Nat) : Work (Except PhaseFault Unit) := do
  let store ← get
  match readLogSettings (ownSection store id) with
  | .error fault =>
      pure (.error (.failed ("Invalid settings for " ++ store.nameOf id) (some fault)))
  | .ok settings =>
      let setup : LogSetup := { settings }
      if !setup.isUsable store.surroundings then Work.stopped
      let store := { store with surroundings := setup.leave store.surroundings }
      set ((store.update id fun component =>
        { component with body := .logging (some settings) }).mark id)
      pure (.ok ())

/-- Run a phase of an instance, with a way to run the phases nested in it. -/
def runBody (run : PhaseRunner) : PhaseRunner := fun id phase data => do
  let store ← get
  match (store.instance? id).map Component.body, phase with
  | none, _ => pure (.ok ())
  | some (.scripted script), .early => runEarlyScript run id script data
  | some (.scripted script), .late => runLateScript run id script
  | some (.scripted script), .shutdown => runShutdownScript run id script
  | some (.configuration _), .early => startConfiguration id data
  | some (.configuration _), .late => startConfiguration id {}
  | some (.configuration _), .shutdown =>
      set ((store.update id fun component =>
        { component with body := .configuration none }).unmark id)
      pure (.ok ())
  | some (.logging _), .early => startLogging id
  | some (.logging _), .late => startLogging id
  | some _, .shutdown =>
      set (store.unmark id)
      pure (.ok ())
  | some .plain, _ =>
      set (store.mark id)
      pure (.ok ())

/-- Run a phase of an instance with at most `depth` phases inside each other. -/
def runPhase : Nat → PhaseRunner
  | 0 => fun _ _ _ => Work.exhausted
  | depth + 1 => runBody (runPhase depth)

/-- How many phases may be inside each other: more than there are keys to nest, and
enough for shutdowns that lead back to themselves until one of them fails. -/
def depthAllowance (store : Store) : Nat :=
  65536 + 4 * (store.registry.recipes.length + store.mapping.keys.length +
    (store.registry.statics.getD []).length)

end Broker

end ServiceLifecycle
