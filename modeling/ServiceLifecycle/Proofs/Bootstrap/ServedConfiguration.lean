/-
Module: ServiceLifecycle.Proofs.Bootstrap.ServedConfiguration
Purpose: Which configuration an application serves in the course of its life.
Main exports: Store.Hosts, build_hosts, Bootstrap.Session, Bootstrap.Session.hosts,
  Store.Follows, session_configuration
-/
import ServiceLifecycle.Proofs.Bootstrap.ConfigurationService
import ServiceLifecycle.Proofs.Bootstrap.Stages
import ServiceLifecycle.Proofs.Broker.InProgress
import ServiceLifecycle.Proofs.Broker.Registration
import ServiceLifecycle.Proofs.Broker.Shutdown

namespace ServiceLifecycle

/-!
An application is built with the deployment of its host, which the configuration service serves from
its first start on.  The host then starts the services, asks for them, asks for the configuration
and shuts the services down, in any order and any number of times.  The configuration service is
the first one that is registered, so it is the last one to be shut down, and what it has served is
gone after that: the startup data that the application was built with does not come back.
-/

open Broker

/-- An application that has come up, between the calls of its host. -/
structure Store.Hosts (s : Store) (offers : List StartupData) (id : Nat) : Prop where
  keeps : s.ServesFrom offers id
  arises : Moment.Arises ⟨[], s⟩
  services : s.registry.capability = .service
  provided : s.provider = some (.component id)
  first : ∃ others, s.serviceNames = configurationName :: others

section Starting

variable {plan : Plan} {provider : Provider} {registry : Registry} {surroundings : Surroundings}
  {offers : List StartupData} {s t u : Store} {id other : Nat}

open Bootstrap

theorem Store.ServesFrom.congr (keeps : s.ServesFrom offers id)
    (instances : t.instances = s.instances)
    (cached : t.cached = s.cached) (poisoned : t.poisoned = s.poisoned)
    (surroundings : t.surroundings = s.surroundings) : t.ServesFrom offers id := by
  have same : ∀ other, t.instance? other = s.instance? other := fun _ => by
    rw [Store.instance?, instances, Store.instance?]
  refine ⟨?_, ?_, surroundings ▸ keeps.bare, ?_, ?_⟩
  · rw [Store.cachedId?, cached]
    exact keeps.present
  · rw [same]
    exact keeps.component
  · rw [Store.isPoisoned, poisoned]
    exact keeps.unpoisoned
  · rw [Store.deploymentOf?, same]
    exact keeps.served

theorem Registry.capability_withBuiltin (registry : Registry) :
    registry.withBuiltin.capability = registry.capability := by
  have provided : ∀ (registry : Registry) key body,
      (registry.provide key body).capability = registry.capability := by
    intro registry key body
    rw [provide]
    split <;> rfl
  rw [withBuiltin, provided, provided]

theorem bodyOf?_prepared (plan : Plan) (registry : Registry) (surroundings : Surroundings) :
    (prepared plan (Store.forServices registry surroundings)).bodyOf? configurationName =
      (Store.forServices registry surroundings).registry.withBuiltin.bodyFor?
        plan.configurationKey := by
  have services : (prepared plan (Store.forServices registry surroundings)).registry.capability =
      .service := Registry.capability_withBuiltin _
  simp only [Store.bodyOf?, Store.assigned?, services]
  rfl

theorem offeredProvider?_of_servesFrom (keeps : s.ServesFrom offers id) :
    offeredProvider? s id = some (.component id) := by
  obtain ⟨component, held, loaded, body, -⟩ := keeps.component
  simp [offeredProvider?, held, body]

theorem Bootstrap.ConfigurationEnd.provider_eq {data : StartupData}
    (configuration : ConfigurationEnd data s (.ok provider) u) (keeps : u.ServesFrom offers id) :
    provider = .component id := by
  cases configuration with
  | provides ending offered =>
      cases ending with
      | started called present ready =>
          rw [keeps.present] at present
          cases present
          rw [offeredProvider?_of_servesFrom keeps] at offered
          exact (Option.some.inj offered).symm

/-- The registry stays as it is, and what is registered comes after what has been. -/
structure Store.Grows (s t : Store) : Prop where
  registry : t.registry = s.registry
  mapping : s.mapping.entries <+: t.mapping.entries

theorem Store.Grows.trans (first : s.Grows t) (second : t.Grows u) : s.Grows u :=
  ⟨second.registry.trans first.registry, first.mapping.trans second.mapping⟩

theorem Store.grows_register (s : Store) (name implementation : String) :
    s.Grows (s.register name implementation).2 := by
  obtain ⟨_, _, _, longer, only⟩ := s.register_only name implementation
  rw [only]
  exact ⟨rfl, longer⟩

theorem Store.grows_registerAll (s : Store) (declarations : List (String × String)) :
    s.Grows (s.registerAll declarations).2 := by
  obtain ⟨_, _, _, longer, only⟩ := s.registerAll_only declarations
  rw [only]
  exact ⟨rfl, longer⟩

/-- Components register nothing. -/
theorem Deeds.grows {asked : String → Prop} {data : StartupData} (deeds : Deeds data asked s t) :
    s.Grows t := by
  have same : t.mapping = s.mapping := congrArg Arrangement.mapping deeds.arrangement
  exact ⟨congrArg Arrangement.registry deeds.arrangement, same ▸ List.prefix_rfl⟩

/-- What is registered when the configuration service is about to be started stays in its place
while the application comes up. -/
theorem grows_populated (configuration : ConfigurationEnd (Plan.startupData plan)
      (prepared plan (Store.forServices registry surroundings)) (.ok provider) u)
    (logging : ServiceEnd loggingName (Plan.startupData plan)
      (admitted plan provider (furnished provider u)) (.ok other) t) :
    (prepared plan (Store.forServices registry surroundings)).Grows
      (populated provider (connected other t)) := by
  obtain ⟨_, started⟩ := configuration.serviceEnd
  have furnishing : u.Grows (furnished provider u) := ⟨rfl, List.prefix_rfl⟩
  have connection : t.Grows (connected other t) := ⟨rfl, List.prefix_rfl⟩
  have admission : (furnished provider u).Grows (admitted plan provider (furnished provider u)) :=
    Store.grows_register _ _ _
  have population : (connected other t).Grows (populated provider (connected other t)) :=
    Store.grows_registerAll _ _
  have first : Deeds (Plan.startupData plan) (fun _ => False) _ u := started.deeds
  have second : Deeds (Plan.startupData plan) (fun _ => False) _ t := logging.deeds
  exact ((first.grows.trans furnishing).trans admission).trans
    ((second.grows.trans connection).trans population)

/-- The configuration service goes on with what it serves while the rest of the application comes
up. -/
theorem build_hosts (configuration : ConfigurationEnd (Plan.startupData plan)
      (prepared plan (Store.forServices registry surroundings)) (.ok provider) u)
    (logging : ServiceEnd loggingName (Plan.startupData plan)
      (admitted plan provider (furnished provider u)) (.ok other) t)
    (keeps : u.ServesFrom [Plan.startupData plan] id) :
    (populated provider (connected other t)).Hosts [Plan.startupData plan] id ∧
      Moves ⟨[], u⟩ ⟨[], populated provider (connected other t)⟩ := by
  obtain ⟨_, started⟩ := configuration.serviceEnd
  have second : Deeds (Plan.startupData plan) (fun _ => False) _ t := logging.deeds
  have grown := grows_populated configuration logging
  obtain ⟨_, _, _, _, admits⟩ := (furnished provider u).register_only loggingName
    (chooseLogging (provider.declarations (furnished provider u)) plan.loggingKey)
  obtain ⟨_, _, _, _, populates⟩ :=
    (connected other t).registerAll_only (provider.declarations (connected other t))
  rw [← admitted] at admits
  rw [← populated] at populates
  have fresh : (prepared plan (Store.forServices registry surroundings)).IsFresh :=
    ⟨rfl, rfl, rfl, rfl, rfl, rfl⟩
  have moves : Moves ⟨[], u⟩ ⟨[], populated provider (connected other t)⟩ :=
    ((admitted_moves plan provider u).trans logging.moves).trans
      ((populated_moves provider (connected other t)).head (.host (.enable _)))
  refine ⟨⟨?keeps, ⟨_, fresh, started.moves.trans moves⟩, ?services, ?provided, ?first⟩, moves⟩
  case keeps =>
    have before :
        (admitted plan provider (furnished provider u)).ServesFrom [Plan.startupData plan] id := by
      rw [admits]
      exact keeps.congr rfl rfl rfl rfl
    have after : t.ServesFrom [Plan.startupData plan] id :=
      second.servesFrom (.inr (List.mem_singleton_self _)) before
    rw [populates]
    exact after.congr rfl rfl rfl rfl
  case services =>
    rw [grown.registry]
    exact Registry.capability_withBuiltin _
  case provided =>
    have launched : t.provider = _ := congrArg Arrangement.provider second.arrangement
    rw [populates]
    change t.provider = _
    rw [launched, admits, ← configuration.provider_eq keeps]
    rfl
  case first =>
    obtain ⟨others, listed⟩ := grown.mapping
    refine ⟨others.map Prod.fst, ?_⟩
    rw [Store.serviceNames, Mapping.keys, ← listed]
    rfl

end Starting

namespace Bootstrap

/-- What a host does with an application that has come up.  Kept along is the startup data that
has been offered to the configuration service since the application was last shut down. -/
inductive Session (plan : Plan) (t : Store) : List StartupData → Store → Prop where
  | begun : Session plan t [Plan.startupData plan] t
  /-- All services are started. -/
  | started {offers : List StartupData} {s u : Store} {data : StartupData} {failFast : Bool}
      {result : Except BrokerFault Unit} (earlier : Session plan t offers s)
      (called : earlyAll data failFast s = .finished (result, u)) :
      Session plan t (data :: offers) u
  /-- A service is asked for. -/
  | gave {offers : List StartupData} {s u : Store} {name : String}
      {result : Except BrokerFault Nat} (earlier : Session plan t offers s)
      (called : resolve name s = .finished (result, u)) : Session plan t offers u
  | gaveAs {offers : List StartupData} {s u : Store} {name : String} {wanted : Wanted}
      {result : Except BrokerFault Nat} (earlier : Session plan t offers s)
      (called : resolveAs name wanted s = .finished (result, u)) : Session plan t offers u
  /-- The configuration is asked for. -/
  | configured {offers : List StartupData} {s u : Store} {served : Option Deployment}
      (earlier : Session plan t offers s)
      (called : deployment? s = .finished (served, u)) : Session plan t offers u
  /-- All services are shut down. -/
  | stopped {offers : List StartupData} {s u : Store} (earlier : Session plan t offers s)
      (called : shutdownAll s = .finished ((), u)) : Session plan t [] u

section Sessions

variable {plan : Plan} {offers : List StartupData} {given : StartupData} {s t u : Store}

/-- A call of the host has been carried out, and nothing was to be shut down. -/
structure Carried (given : StartupData) (s u : Store) : Prop where
  moves : Moves ⟨[], s⟩ ⟨[], u⟩
  deeds : Deeds given (fun _ => False) s u

theorem carried_earlyAll {failFast : Bool} {result : Except BrokerFault Unit}
    (called : earlyAll given failFast s = .finished (result, u)) : Carried given s u := by
  rw [earlyAll, carryOut_apply] at called
  exact ⟨earlyAllBy_moves (runPhase_faithful _) called,
    earlyAllBy_deeds (runPhase_accountable given _) called⟩

theorem carried_resolve {name : String} {result : Except BrokerFault Nat}
    (called : resolve name s = .finished (result, u)) : Carried {} s u :=
  ⟨resolveBy_moves (runPhase_faithful _) called, resolveBy_deeds (runPhase_accountable {} _) called⟩

theorem carried_resolveAs {name : String} {wanted : Wanted} {result : Except BrokerFault Nat}
    (called : resolveAs name wanted s = .finished (result, u)) : Carried {} s u :=
  ⟨resolveAsBy_moves (runPhase_faithful _) called,
    resolveAsBy_deeds (runPhase_accountable {} _) called⟩

theorem carried_deployment? {served : Option Deployment}
    (called : deployment? s = .finished (served, u)) : Carried {} s u := by
  obtain ⟨result, v, resolved, rest⟩ := Work.bind_finished.mp called
  cases result <;> cases rest <;> exact carried_resolveAs resolved

theorem Session.moves (session : Session plan t offers u) : Moves ⟨[], t⟩ ⟨[], u⟩ := by
  induction session with
  | begun => exact .refl
  | started earlier called before => exact before.trans (carried_earlyAll called).moves
  | gave earlier called before => exact before.trans (carried_resolve called).moves
  | gaveAs earlier called before => exact before.trans (carried_resolveAs called).moves
  | configured earlier called before => exact before.trans (carried_deployment? called).moves
  | stopped earlier called before =>
      exact before.trans (shutdownAllBy_moves (runPhase_faithful _) called)

end Sessions

end Bootstrap

section Sessions

open Bootstrap

variable {plan : Plan} {offers more : List StartupData} {given : StartupData}
  {asked : String → Prop} {s t u : Store} {id : Nat}

/-- A call leaves an application in place. -/
theorem Store.Hosts.call (hosts : s.Hosts offers id) (moves : Moves ⟨[], s⟩ ⟨[], u⟩)
    (deeds : Deeds given asked s u) (offered : given = {} ∨ given ∈ more)
    (fewer : offers ⊆ more) : u.Hosts more id := by
  have arranged := deeds.arrangement
  have keeps : s.ServesFrom more id :=
    { hosts.keeps with served := fun _ same => (hosts.keeps.served _ same).mono fewer }
  refine ⟨deeds.servesFrom offered keeps, hosts.arises.trans moves, ?_, ?_, ?_⟩
  · rw [show u.registry = s.registry from congrArg Arrangement.registry arranged]
    exact hosts.services
  · rw [show u.provider = s.provider from congrArg Arrangement.provider arranged]
    exact hosts.provided
  · rw [Store.serviceNames, show u.mapping = s.mapping from congrArg Arrangement.mapping arranged]
    exact hosts.first

/-- The configuration service is the last one to be shut down, so that it serves nothing after
that. -/
theorem Store.Hosts.stop (hosts : s.Hosts offers id)
    (called : shutdownAll s = .finished ((), u)) : u.Hosts [] id := by
  have moves : Moves ⟨[], s⟩ ⟨[], u⟩ := shutdownAllBy_moves (runPhase_faithful _) called
  have deeds : Deeds {} (fun other => other ∈ s.serviceNames) s u :=
    shutdownAllBy_deeds (runPhase_accountable {} _) (fun _ member => member) called
  have stopped := hosts.call moves deeds (.inl rfl) (List.Subset.refl offers)
  obtain ⟨others, listed⟩ := hosts.first
  have noticed : Moment.Arises ⟨[], s.notice "Shutting down all services"⟩ :=
    hosts.arises.trans (.single (.host (.report _)))
  have walked : shutdownEach (runPhase (depthAllowance s)) (others.reverse ++ [configurationName])
      (s.notice "Shutting down all services") = .finished ((), u) := by
    have carried : shutdownAllBy (runPhase (depthAllowance s)) s = .finished ((), u) := called
    simp only [shutdownAllBy, Work.bind_apply, Work.modify_apply, Work.get_apply,
      Outcome.andThen_finished] at carried
    rw [← List.reverse_cons, ← listed]
    exact carried
  have unready : u.isReady id = false := by
    rw [← isInitialized_of_cachedId? stopped.keeps.present]
    exact shutdownEach_last noticed walked
  have vacant : u.deploymentOf? id = none := by
    rcases stopped.keeps.serves with ⟨ready, -⟩ | ⟨-, vacant⟩
    · rw [unready] at ready
      cases ready
    · exact vacant
  have keeps : u.ServesFrom [] id :=
    { stopped.keeps with served := fun _ same => by rw [vacant] at same; cases same }
  exact { stopped with keeps }

theorem Store.Hosts.carried (hosts : s.Hosts offers id) (carried : Carried {} s u) :
    u.Hosts offers id :=
  hosts.call carried.moves carried.deeds (.inl rfl) (List.Subset.refl offers)

theorem Bootstrap.Session.hosts (session : Session plan t offers u)
    (hosts : t.Hosts [Plan.startupData plan] id) : u.Hosts offers id := by
  induction session with
  | begun => exact hosts
  | started earlier called before =>
      have carried := carried_earlyAll called
      exact before.call carried.moves carried.deeds (.inr List.mem_cons_self)
        (List.subset_cons_self _ _)
  | gave earlier called before => exact before.carried (carried_resolve called)
  | gaveAs earlier called before => exact before.carried (carried_resolveAs called)
  | configured earlier called before => exact before.carried (carried_deployment? called)
  | stopped earlier called before => exact before.stop called

/-- The services find what a deployment declares for them, and nothing else. -/
structure Store.Follows (s : Store) (deployment : Deployment) : Prop where
  declared : ∀ declaration ∈ deployment.services,
    s.sectionOf declaration.name = declaration.toSection
  undeclared : ∀ name, name ≠ "" → '.' ∉ name.toList → deployment.find? name = none →
    s.sectionOf name = []

theorem Store.Hosts.follows {deployment : Deployment} (hosts : s.Hosts offers id)
    (served : s.deploymentOf? id = some deployment) (named : deployment.IsNamed) :
    s.Follows deployment := by
  have found : ∀ name, s.sectionOf name = deployment.tree.subset ("services." ++ name) := by
    intro name
    rw [← Configuration.getD_subset?]
    simp only [Store.sectionOf, hosts.services, hosts.provided, Option.bind_some,
      Provider.configuration, served]
  constructor
  case declared =>
    intro declaration member
    rw [found, Deployment.subset_tree_of_mem named member]
  case undeclared =>
    intro name nonempty dotless absent
    rw [found, Deployment.subset_tree named.distinct nonempty dotless, absent]
    rfl

theorem startupData_loads {plan : Plan} {surroundings : Surroundings}
    {configured deployment : Deployment} (given : plan.deployment = some configured)
    (loaded : loadDeployment surroundings (Plan.startupData plan) = .ok deployment) :
    deployment = configured := by
  rw [Plan.startupData, given] at loaded
  exact (eq_of_accepted loaded).1

end Sessions

open Bootstrap

theorem Store.Hosts.answers {offers : List StartupData} {s : Store} {id : Nat}
    (hosts : s.Hosts offers id) :
    ∃ deployment t, deployment? s = .finished (some deployment, t) ∧
      (s.isReady id = true → t = s) ∧ (s.isReady id = false → deployment = {}) ∧
      t.Follows deployment ∧ Obtainable offers deployment := by
  rcases hosts.keeps.serves with ⟨ready, deployment, served⟩ | ⟨unready, vacant⟩
  · have obtainable := hosts.keeps.served deployment served
    have answer := deployment?_ready hosts.keeps ready
    rw [served] at answer
    refine ⟨deployment, s, answer, fun _ => rfl, ?_, hosts.follows served obtainable.isNamed,
      obtainable⟩
    intro unready
    rw [ready] at unready
    cases unready
  · have idle : configurationName ∉ s.settling := by
      have settled : s.settling = [] :=
        (hosts.arises.recorded (show Phase.late ≠ .shutdown by decide)).1
      rw [settled]
      exact List.not_mem_nil
    obtain ⟨t, answer, served⟩ := deployment?_unready hosts.keeps unready idle
    have obtainable : Obtainable offers {} := .inl rfl
    refine ⟨{}, t, answer, ?_, fun _ => rfl, ?_, obtainable⟩
    · intro ready
      rw [unready] at ready
      cases ready
    · exact (hosts.carried (carried_deployment? answer)).follows served obtainable.isNamed

/-- An application that comes up serves the deployment of the host. -/
theorem build_serves {registry : Registry} {surroundings : Surroundings} {plan : Plan}
    {configured : Deployment} {t : Store} (given : plan.deployment = some configured)
    (builtin : (Store.forServices registry surroundings).registry.withBuiltin.bodyFor?
      plan.configurationKey = some (.configuration none))
    (bare : surroundings.IsBare)
    (built : build plan (Store.forServices registry surroundings) = .finished (.ok (), t)) :
    ∃ id s, s.isReady id = true ∧ s.deploymentOf? id = some configured ∧
      Moves ⟨[], s⟩ ⟨[], t⟩ ∧ t.Hosts [Plan.startupData plan] id := by
  generalize answer : Except.ok () = result at built
  cases build_ends built with
  | unconfigured configuration => cases answer
  | unlogged configuration logging => cases answer
  | @up provider other s v configuration logging =>
      have start := configuration
      cases start with
      | @provides number _ _ ending offered =>
          cases ending with
          | started called present ready =>
              have body := (bodyOf?_prepared plan registry surroundings).trans builtin
              obtain ⟨id, deployment, places, keeps, served, loaded⟩ :=
                earlyBy_configures rfl body bare called
              have same : id = number := Option.some.inj (keeps.present.symm.trans present)
              rw [← same] at ready
              rw [startupData_loads given loaded] at served
              obtain ⟨hosts, moves⟩ := build_hosts configuration logging keeps
              exact ⟨id, s, ready, served, moves, hosts⟩

/-- What an application serves that was built with a deployment of the host, where there is nothing
in the default places.  As long as its configuration service has not been shut down, it is that
deployment, whatever else has been asked of the application.  Later it is the one without services,
or one that has been offered when the services were started, after the last time that all of them
were shut down; the deployment of the host does not come back by itself.  The services always find
what the deployment that is served declares for them. -/
theorem session_configuration {registry : Registry} {surroundings : Surroundings} {plan : Plan}
    {configured : Deployment} {offers : List StartupData} {t u : Store}
    (given : plan.deployment = some configured)
    (builtin : (Store.forServices registry surroundings).registry.withBuiltin.bodyFor?
      plan.configurationKey = some (.configuration none))
    (bare : surroundings.IsBare)
    (built : build plan (Store.forServices registry surroundings) = .finished (.ok (), t))
    (session : Session plan t offers u) :
    ∃ id, u.cachedId? configurationName = some id ∧
      (id ∉ u.shutdowns → deployment? u = .finished (some configured, u) ∧ u.Follows configured) ∧
      ∃ deployment v, deployment? u = .finished (some deployment, v) ∧
        (u.isReady id = true → v = u) ∧ (u.isReady id = false → deployment = {}) ∧
        v.Follows deployment ∧ Obtainable offers deployment := by
  obtain ⟨id, s, ready, served, moves, hosts⟩ := build_serves given builtin bare built
  have later : u.Hosts offers id := session.hosts hosts
  refine ⟨id, later.keeps.present, ?kept, later.answers⟩
  case kept =>
    intro spared
    have history : Moves ⟨[], s⟩ ⟨[], u⟩ := moves.trans session.moves
    have unshut : u.shutdowns.count id = s.shutdowns.count id := by
      have fewer : s.shutdowns.count id ≤ u.shutdowns.count id :=
        (Moves.shutdowns_suffix history).sublist.count_le id
      rw [List.count_eq_zero.mpr spared] at fewer ⊢
      exact (Nat.le_zero.mp fewer).symm
    obtain ⟨same, still⟩ := Moves.isReady_eq history ready unshut
    have serves : u.deploymentOf? id = some configured := by
      rw [Store.deploymentOf?, same]
      exact served
    have answer := deployment?_ready later.keeps still
    rw [serves] at answer
    exact ⟨answer, later.follows serves (later.keeps.served configured serves).isNamed⟩

/-- One service, with a setting. -/
def Deployment.modest : Deployment :=
  { services := [
      { name := "clock", implementation := some "Clock", settings := [("zone", .text "UTC")] }] }

/-- What it is built from. -/
def Registry.modest : Registry := { recipes := [("Clock", .build .plain)] }

/-- What the host decides on to have it. -/
def Plan.modest : Plan := { loader := {}, deployment := some .modest }

theorem isBare_empty : Surroundings.IsBare {} := by
  constructor
  case files =>
    intro place member content found
    cases found
  case stemless =>
    intro binding member
    cases member

/-- The deployment of the host is served when the application has come up and been started. -/
theorem session_configuration_modest :
    ∃ t u, build Plan.modest (Store.forServices Registry.modest {}) = .finished (.ok (), t) ∧
      earlyAll {} true t = .finished (.ok (), u) ∧
      deployment? u = .finished (some Deployment.modest, u) ∧ u.Follows Deployment.modest := by
  have succeeds : ((build Plan.modest (Store.forServices Registry.modest {})).success?.any
      fun t => (earlyAll {} true t).success?.any fun u => u.shutdowns = []) = true := by
    decide +kernel
  obtain ⟨t, up, starts⟩ := (Option.any_eq_true _ _).mp succeeds
  obtain ⟨u, started, unshut⟩ := (Option.any_eq_true _ _).mp starts
  obtain ⟨⟨⟩, built⟩ := Outcome.success?_eq_some.mp up
  obtain ⟨⟨⟩, called⟩ := Outcome.success?_eq_some.mp started
  obtain ⟨id, -, kept, -⟩ :=
    session_configuration rfl rfl isBare_empty built (.started .begun called)
  have spared : id ∉ u.shutdowns := by
    rw [of_decide_eq_true unshut]
    exact List.not_mem_nil
  exact ⟨t, u, built, called, kept spared⟩

/-- It is not served any more when the application has been shut down: the configuration service
becomes ready again, but the deployment that it serves has no services. -/
theorem configuration_forgotten :
    ∃ t u v deployment,
      build Plan.modest (Store.forServices Registry.modest {}) = .finished (.ok (), t) ∧
      shutdownAll t = .finished ((), u) ∧ deployment? u = .finished (some deployment, v) ∧
      v.isInitialized configurationName = true ∧
      deployment ≠ Deployment.modest ∧ v.sectionOf "clock" = [] := by
  have happens : ((build Plan.modest (Store.forServices Registry.modest {})).success?.any fun t =>
      (shutdownAll t).result?.any fun stopped => (deployment? stopped.2).result?.any fun answer =>
        answer.2.isInitialized configurationName && (answer.2.sectionOf "clock").isEmpty &&
          answer.1.any fun deployment => deployment.services.isEmpty) = true := by
    decide +kernel
  obtain ⟨t, up, stops⟩ := (Option.any_eq_true _ _).mp happens
  obtain ⟨⟨⟨⟩, u⟩, stopped, answers⟩ := (Option.any_eq_true _ _).mp stops
  obtain ⟨⟨served, v⟩, answered, outcome⟩ := (Option.any_eq_true _ _).mp answers
  obtain ⟨⟨⟩, built⟩ := Outcome.success?_eq_some.mp up
  simp only [Bool.and_eq_true] at outcome
  obtain ⟨⟨ready, vacant⟩, empty⟩ := outcome
  obtain ⟨deployment, rfl, none⟩ := (Option.any_eq_true _ _).mp empty
  refine ⟨t, u, v, deployment, built, Outcome.result?_eq_some.mp stopped,
    Outcome.result?_eq_some.mp answered, ready, ?_, List.isEmpty_iff.mp vacant⟩
  rintro rfl
  cases none

end ServiceLifecycle
