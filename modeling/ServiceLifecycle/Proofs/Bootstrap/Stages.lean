/-
Module: ServiceLifecycle.Proofs.Bootstrap.Stages
Purpose: The stages in which an application comes up, and how each of them ends.
Main exports: Store.forServices, Bootstrap.ServiceEnd, Bootstrap.startService_ends,
  Bootstrap.ConfigurationEnd, Bootstrap.startConfiguration_ends, Bootstrap.Launched,
  Bootstrap.BuildEnd, Bootstrap.build_ends
-/
import ServiceLifecycle.Bootstrap
import ServiceLifecycle.Proofs.Broker.Constancy

namespace ServiceLifecycle

/-!
An application comes up in two calls, one for the configuration service and one for the logging
service.  Between them and around them the host changes the broker: it registers the service that
is called next, puts the provider in place, hands the diagnostics to a sink.  Each of these changes
is named here, so that whatever comes of the start is put together from the two calls and the
changes of the host.
-/

open Broker

/-- A broker of services that nothing has been asked of yet. -/
def Store.forServices (registry : Registry) (surroundings : Surroundings) : Store :=
  { registry := { registry with capability := .service }, surroundings }

namespace Bootstrap

/-- The built-in services can be built, and the configuration service is registered. -/
def prepared (plan : Plan) (s : Store) : Store :=
  ({ s with registry := s.registry.withBuiltin }.register
    configurationName plan.configurationKey).2

/-- The provider is in place. -/
def furnished (provider : Provider) (s : Store) : Store :=
  { s with
    provider := some provider
    applicationRoot := (provider.applicationRoot s).or s.applicationRoot }

/-- The logging service is registered. -/
def admitted (plan : Plan) (provider : Provider) (s : Store) : Store :=
  (s.register loggingName (chooseLogging (provider.declarations s) plan.loggingKey)).2

/-- The diagnostics go to the sink of the logging service. -/
def connected (id : Nat) (s : Store) : Store :=
  (s.enable (offeredSink s id)).2

/-- The declared services are registered. -/
def populated (provider : Provider) (s : Store) : Store :=
  (s.registerAll (provider.declarations s)).2

/-- A fault is reported, and all diagnostics go to a fallback sink. -/
def aborted (fallback : Sink) (fault : StartupFault) (s : Store) : Store :=
  ((s.reportFault fault.toFault).enable fallback).2

/-- How the start of a service ends. -/
inductive ServiceEnd (name : String) (data : StartupData) (s : Store) :
    Except StartupFault Nat → Store → Prop where
  | failed {fault : BrokerFault} {t : Store}
      (called : earlyBy (runPhase (depthAllowance s)) name data s = .finished (.error fault, t)) :
      ServiceEnd name data s (.error (.broker fault)) t
  /-- The service has been initialized, so that it can be had as it is. -/
  | started {id : Nat} {t : Store}
      (called : earlyBy (runPhase (depthAllowance s)) name data s = .finished (.ok (), t))
      (present : t.cachedId? name = some id) (ready : t.isReady id = true) :
      ServiceEnd name data s (.ok id) t

theorem startService_ends {name : String} {data : StartupData} {s t : Store}
    {result : Except StartupFault Nat}
    (finished : startService name data s = .finished (result, t)) :
    ServiceEnd name data s result t := by
  obtain ⟨answer, u, called, rest⟩ := Work.bind_finished.mp finished
  cases answer with
  | error fault =>
      cases rest
      exact .failed called
  | ok _ =>
      obtain ⟨id, present, ready⟩ := earlyBy_ready called
      have resolved : resolve name u = .finished (.ok id, u) := resolveBy_ready present ready
      obtain ⟨again, v, recalled, last⟩ := Work.bind_finished.mp rest
      rw [resolved] at recalled
      cases recalled
      cases last
      exact .started called present ready

/-- How the start of the configuration service ends. -/
inductive ConfigurationEnd (data : StartupData) (s : Store) :
    Except StartupFault Provider → Store → Prop where
  | failed {fault : StartupFault} {t : Store}
      (ending : ServiceEnd configurationName data s (.error fault) t) :
      ConfigurationEnd data s (.error fault) t
  /-- It has started, but is no provider. -/
  | unfit {id : Nat} {t : Store} (ending : ServiceEnd configurationName data s (.ok id) t)
      (lacks : offeredProvider? t id = none) :
      ConfigurationEnd data s
        (.error (.missingCapability configurationName "ConfigurationProvider")) t
  | provides {id : Nat} {provider : Provider} {t : Store}
      (ending : ServiceEnd configurationName data s (.ok id) t)
      (offers : offeredProvider? t id = some provider) :
      ConfigurationEnd data s (.ok provider) t

theorem startConfiguration_ends {data : StartupData} {s t : Store}
    {result : Except StartupFault Provider}
    (finished : startConfiguration data s = .finished (result, t)) :
    ConfigurationEnd data s result t := by
  obtain ⟨answer, u, started, rest⟩ := Work.bind_finished.mp finished
  have ending := startService_ends started
  cases answer with
  | error fault =>
      cases rest
      exact .failed ending
  | ok id =>
      simp only [Work.bind_apply, Work.get_apply, Outcome.andThen_finished] at rest
      cases offers : offeredProvider? u id with
      | none =>
          rw [offers] at rest
          cases rest
          exact .unfit ending offers
      | some provider =>
          rw [offers] at rest
          cases rest
          exact .provides ending offers

/-- The configuration service provides, and the logging service has started after it. -/
def Launched (plan : Plan) (s : Store) (provider : Provider) (id : Nat) (t : Store) : Prop :=
  ∃ u, ConfigurationEnd (Plan.startupData plan) (prepared plan s) (.ok provider) u ∧
    ServiceEnd loggingName (Plan.startupData plan) (admitted plan provider (furnished provider u))
      (.ok id) t

/-- How the start of an application ends. -/
inductive BuildEnd (plan : Plan) (s : Store) : Except StartupFault Unit → Store → Prop where
  /-- The configuration service has not started. -/
  | unconfigured {fault : StartupFault} {u : Store}
      (configuration : ConfigurationEnd (Plan.startupData plan) (prepared plan s)
        (.error fault) u) :
      BuildEnd plan s (.error fault) (aborted plan.fallback fault u)
  /-- The logging service has not started. -/
  | unlogged {provider : Provider} {fault : StartupFault} {u v : Store}
      (configuration : ConfigurationEnd (Plan.startupData plan) (prepared plan s) (.ok provider) u)
      (logging : ServiceEnd loggingName (Plan.startupData plan)
        (admitted plan provider (furnished provider u)) (.error fault) v) :
      BuildEnd plan s (.error fault) (aborted plan.fallback fault (v.unregister loggingName).2)
  /-- Both have started. -/
  | up {provider : Provider} {id : Nat} {u v : Store}
      (configuration : ConfigurationEnd (Plan.startupData plan) (prepared plan s) (.ok provider) u)
      (logging : ServiceEnd loggingName (Plan.startupData plan)
        (admitted plan provider (furnished provider u)) (.ok id) v) :
      BuildEnd plan s (.ok ()) (populated provider (connected id v))

theorem continueWith_ends {plan : Plan} {provider : Provider} {s u t : Store}
    {result : Except StartupFault Unit}
    (configuration : ConfigurationEnd (Plan.startupData plan) (prepared plan s) (.ok provider) u)
    (finished : continueWith plan (Plan.startupData plan) provider u = .finished (result, t)) :
    BuildEnd plan s result t := by
  simp only [continueWith, Work.bind_apply, Work.get_apply, Work.modify_apply,
    Outcome.andThen_finished] at finished
  obtain ⟨⟨answer, v⟩, started, rest⟩ := Outcome.andThen_eq_finished.mp finished
  have ending : ServiceEnd loggingName (Plan.startupData plan)
      (admitted plan provider (furnished provider u)) answer v := startService_ends started
  cases answer with
  | error fault =>
      cases rest
      exact .unlogged configuration ending
  | ok id =>
      cases rest
      exact .up configuration ending

/-- The start of an application ends in one of three ways. -/
theorem build_ends {plan : Plan} {s t : Store} {result : Except StartupFault Unit}
    (finished : build plan s = .finished (result, t)) : BuildEnd plan s result t := by
  simp only [build, Work.bind_apply, Work.modify_apply, Outcome.andThen_finished] at finished
  obtain ⟨⟨answer, u⟩, started, rest⟩ := Outcome.andThen_eq_finished.mp finished
  have ending : ConfigurationEnd (Plan.startupData plan) (prepared plan s) answer u :=
    startConfiguration_ends started
  cases answer with
  | error fault =>
      cases rest
      exact .unconfigured ending
  | ok provider => exact continueWith_ends ending rest

section Histories

variable {plan : Plan} {name : String} {data : StartupData} {s t : Store}

theorem ServiceEnd.moves {result : Except StartupFault Nat}
    (ending : ServiceEnd name data s result t) : Moves ⟨[], s⟩ ⟨[], t⟩ := by
  cases ending with
  | failed called => exact earlyBy_moves (runPhase_faithful _) called
  | started called present ready => exact earlyBy_moves (runPhase_faithful _) called

theorem ServiceEnd.deeds {result : Except StartupFault Nat} {asked : String → Prop}
    (ending : ServiceEnd name data s result t) : Deeds data asked s t := by
  cases ending with
  | failed called => exact earlyBy_deeds (runPhase_accountable data _) (.inl rfl) called
  | started called present ready =>
      exact earlyBy_deeds (runPhase_accountable data _) (.inl rfl) called

theorem ConfigurationEnd.serviceEnd {result : Except StartupFault Provider}
    (ending : ConfigurationEnd data s result t) :
    ∃ answer, ServiceEnd configurationName data s answer t := by
  cases ending with
  | failed ending => exact ⟨_, ending⟩
  | unfit ending lacks => exact ⟨_, ending⟩
  | provides ending offers => exact ⟨_, ending⟩

theorem admitted_moves (plan : Plan) (provider : Provider) (s : Store) :
    Moves ⟨[], s⟩ ⟨[], admitted plan provider (furnished provider s)⟩ := by
  have first : Move ⟨[], s⟩ ⟨[], furnished provider s⟩ :=
    .host (.furnish (some provider) ((provider.applicationRoot s).or s.applicationRoot) s.objects
      s.surroundings)
  have second : Move ⟨[], furnished provider s⟩
      ⟨[], admitted plan provider (furnished provider s)⟩ :=
    .host (.register loggingName _)
  exact (Relation.ReflTransGen.single first).tail second

theorem populated_moves (provider : Provider) (s : Store) :
    Moves ⟨[], s⟩ ⟨[], populated provider s⟩ := by
  rw [populated]
  generalize provider.declarations s = declarations
  induction declarations generalizing s with
  | nil => exact .refl
  | cons declaration rest inductionHypothesis =>
      obtain ⟨name, implementation⟩ := declaration
      exact (inductionHypothesis _).head (.host (.register name implementation))

end Histories

end Bootstrap

end ServiceLifecycle
