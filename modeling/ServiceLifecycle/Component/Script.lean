/-
Module: ServiceLifecycle.Component.Script
Purpose: What a component does in its phases.
Main exports: Phase, Wanted, OnFailure, Action, Heard, Course, Course.straight, Script,
  Script.lateCourse, Script.shutdownCourse
-/
import ServiceLifecycle.Configuration.InMemory
import ServiceLifecycle.Diagnostics

namespace ServiceLifecycle

/-!
A component acts in three phases: it is initialized early, with startup data, or
late, when it is first needed, and it is shut down.  In a phase it takes a course of
actions: it changes its own status, reports, fails, or calls the broker that owns it.
What it does next may depend on what has become of its calls so far, and an action that
fails ends its phase.
-/

/-- The phases in the life of a component. -/
inductive Phase where
  | early
  | late
  | shutdown
deriving Repr, Inhabited, DecidableEq

/-- The name of a phase. -/
def Phase.name : Phase → String
  | early => "early"
  | late => "late"
  | shutdown => "shutdown"

/-- The type that a caller expects of a component. -/
inductive Wanted where
  /-- A type that no component has. -/
  | foreign (typeName : String)
  /-- A component that follows a script. -/
  | scripted
  /-- The built-in configuration service. -/
  | configurationService
  /-- The built-in logging service. -/
  | loggingService
  /-- Whatever is built from one implementation key. -/
  | implementation (key typeName : String)
deriving Repr, Inhabited, DecidableEq

/-- The name of the type in messages. -/
def Wanted.typeName : Wanted → String
  | foreign typeName => typeName
  | scripted => "Scripted"
  | configurationService => "keystone_runtime::services::configuration::ConfigurationService"
  | loggingService => "keystone_runtime::services::logging::LoggingService"
  | implementation _ typeName => typeName

/-- What a component makes of the failure of a broker call. -/
inductive OnFailure where
  /-- It fails with the broker's fault, unchanged. -/
  | propagate
  /-- It goes on. -/
  | ignore
  /-- It fails with a message of its own and the fault as cause. -/
  | wrap
deriving Repr, Inhabited, DecidableEq

/-- One step of a phase. -/
inductive Action where
  /-- Become initialized. -/
  | mark
  /-- Become uninitialized. -/
  | unmark
  /-- Log a text. -/
  | log (text : String)
  /-- Log the name that the broker gave. -/
  | name
  /-- Log whether the owner is there. -/
  | owner
  /-- Log the startup data. -/
  | data
  /-- Log a value of the component's own section. -/
  | config (path : String)
  /-- Fail. -/
  | fail (message : String) (cause : Option Fault)
  /-- Fail in the first `count` runs of the phase. -/
  | failFirst (count : Nat) (message : String)
  /-- Fail after `count` runs of the phase. -/
  | failAfter (count : Nat) (message : String)
  /-- Fail with a given broker's fault. -/
  | failBroker (fault : BrokerFault)
  /-- Have the owner initialize a key early, with the data at hand. -/
  | early (key : String) (onFailure : OnFailure)
  /-- Have the owner resolve a key. -/
  | resolve (key : String) (onFailure : OnFailure)
  /-- Have the owner resolve a key, and expect a type. -/
  | resolveAs (key : String) (wanted : Wanted) (onFailure : OnFailure)
  /-- Have the owner shut a key down. -/
  | shutdown (key : String)
  /-- Report a notice through the owner. -/
  | notice (text : String)
  /-- Report an error through the owner. -/
  | report (text : String)
  /-- Log the section that the owner has for a key. -/
  | ownerConfig (key : String)
deriving Repr, Inhabited

/-- What an action that needs the owner is called in the log. -/
def Action.label : Action → String
  | mark => "mark"
  | unmark => "unmark"
  | log _ => "log"
  | name => "name"
  | owner => "owner"
  | data => "data"
  | config _ => "config"
  | fail _ _ => "fail"
  | failFirst _ _ => "fail_first"
  | failAfter _ _ => "fail_after"
  | failBroker _ => "fail_broker"
  | early _ _ => "early"
  | resolve _ _ => "resolve"
  | resolveAs _ _ _ => "resolve_as"
  | shutdown _ => "shutdown"
  | notice _ => "notice"
  | report _ => "report"
  | ownerConfig _ => "owner_config"

/-- What a component hears that goes on after a call: the fault, if the call has failed. -/
abbrev Heard := Option BrokerFault

/-- What a component does in a phase: nothing more, or an action and then whatever it makes
of what it hears. -/
inductive Course where
  | finish
  | act (action : Action) (next : Heard → Course)
deriving Inhabited

namespace Course

/-- A list of actions, in order, whatever is heard. -/
def straight : List Action → Course
  | [] => finish
  | action :: rest => act action fun _ => straight rest

/-- The actions of a course as long as no call fails. -/
def smooth : Course → List Action
  | finish => []
  | act action next => action :: (next none).smooth

/-- A course is shown as if no call failed. -/
instance : Repr Course where
  reprPrec course := reprPrec course.smooth

theorem smooth_eq_nil {course : Course} : course.smooth = [] ↔ course = finish := by
  cases course <;> simp [smooth]

theorem smooth_eq_cons {course : Course} {action : Action} {rest : List Action} :
    course.smooth = action :: rest ↔
      ∃ next, course = act action next ∧ (next none).smooth = rest := by
  cases course with
  | finish => simp [smooth]
  | act first next => simp [smooth, and_assoc]

theorem smooth_straight {actions : List Action} : (straight actions).smooth = actions := by
  induction actions with
  | nil => rfl
  | cons action rest inductionHypothesis => rw [straight, smooth, inductionHypothesis]

/-- An action is performed on a course if certain things are heard. -/
def Includes (sought : Action) : Course → Prop
  | finish => False
  | act action next => sought = action ∨ ∃ heard, (next heard).Includes sought

instance : Membership Action Course where
  mem course action := course.Includes action

variable {action sought : Action} {next : Heard → Course}

@[simp] theorem not_mem_finish : sought ∉ finish := id

@[simp] theorem mem_act :
    sought ∈ act action next ↔ sought = action ∨ ∃ heard, sought ∈ next heard :=
  .rfl

theorem mem_act_self : action ∈ act action next := .inl rfl

theorem mem_act_of_mem {heard : Heard} (member : sought ∈ next heard) : sought ∈ act action next :=
  .inr ⟨heard, member⟩

@[simp] theorem mem_straight {actions : List Action} :
    sought ∈ straight actions ↔ sought ∈ actions := by
  induction actions with
  | nil => simp [straight]
  | cons action rest inductionHypothesis => simp [straight, inductionHypothesis]

end Course

/-- The course of each phase, where it differs from the default: to become initialized,
late in place of early, and uninitialized at shutdown.  A script may also offer a
configuration provider or a sink to the runtime. -/
structure Script where
  early : Option Course := none
  late : Option Course := none
  shutdown : Option Course := none
  provider : Option InMemory := none
  sink : Option Sink := none
deriving Repr, Inhabited

namespace Script

/-- What a component does when it is first needed. -/
def lateCourse (script : Script) : Course :=
  script.late.getD (.straight [.mark])

/-- What a component does when it is shut down. -/
def shutdownCourse (script : Script) : Course :=
  script.shutdown.getD (.straight [.unmark])

end Script

end ServiceLifecycle
