/-
Module: ServiceLifecycle.Proofs.Bootstrap.ConfigurationService
Purpose: What the built-in configuration service serves, traced along what is done to it.
Main exports: Component.IsConfiguration, Obtainable, Store.ServesFrom, Deeds.servesFrom,
  Bootstrap.deployment?_ready, Bootstrap.deployment?_unready, earlyBy_configures
-/
import ServiceLifecycle.Bootstrap
import ServiceLifecycle.Proofs.Broker.Constancy
import ServiceLifecycle.Proofs.Deployment.Sections
import ServiceLifecycle.Proofs.Source.BareSurroundings
import ServiceLifecycle.Proofs.Source.LayerPrecedence

namespace ServiceLifecycle

/-!
The configuration service is started like any other service: early, from the startup data of a
call, or late, from what the default loader finds.  It forgets what it serves when it is shut down.
What it serves is traced along the deeds of a call: it stays the same, or it is gone, or it has been
loaded from the data of the call or from none.  Where there is nothing for the default loader to
find, its late phase never fails, so that it can always be made ready.
-/

open Broker

/-- The built-in configuration service.  It serves a deployment exactly while it is initialized. -/
def Component.IsConfiguration (component : Component) : Prop :=
  ∃ loaded, component.body = .configuration loaded ∧ component.initialized = loaded.isSome

/-- A deployment that can have been loaded where there is nothing in the default places: the one
without services, or what comes of some startup data. -/
def Obtainable (offers : List StartupData) (deployment : Deployment) : Prop :=
  deployment = {} ∨ ∃ data ∈ offers, ∃ surroundings : Surroundings, surroundings.IsBare ∧
    loadDeployment surroundings data = .ok deployment

theorem Obtainable.mono {offers more : List StartupData} {deployment : Deployment}
    (obtainable : Obtainable offers deployment) (fewer : offers ⊆ more) :
    Obtainable more deployment := by
  rcases obtainable with empty | ⟨data, member, loaded⟩
  · exact .inl empty
  · exact .inr ⟨data, fewer member, loaded⟩

theorem Surroundings.IsBare.loadDeployment_eq {surroundings : Surroundings}
    (bare : surroundings.IsBare) : loadDeployment surroundings {} = .ok {} :=
  bare.load_eq

theorem eq_of_accepted {deployment other : Deployment}
    (accepted : (do deployment.validate; pure deployment : Except LoadFault Deployment) =
      .ok other) :
    other = deployment ∧ deployment.validate = .ok () := by
  cases valid : deployment.validate with
  | error fault =>
      rw [valid] at accepted
      cases accepted
  | ok _ =>
      rw [valid] at accepted
      cases accepted
      exact ⟨rfl, rfl⟩

theorem Loader.valid_of_load {loader : Loader} {surroundings : Surroundings}
    {deployment : Deployment} (loaded : loader.load surroundings = .ok deployment) :
    deployment.validate = .ok () := by
  obtain ⟨-, -, -, valid⟩ := load_eq_ok_iff.mp loaded
  exact valid

/-- Whatever is loaded has been accepted. -/
theorem valid_of_loaded {surroundings : Surroundings} {data : StartupData}
    {deployment : Deployment} (loaded : loadDeployment surroundings data = .ok deployment) :
    deployment.validate = .ok () := by
  rw [loadDeployment] at loaded
  cases given : data.deployment with
  | some other =>
      rw [given] at loaded
      obtain ⟨rfl, valid⟩ := eq_of_accepted loaded
      exact valid
  | none =>
      rw [given] at loaded
      exact Loader.valid_of_load loaded

theorem Obtainable.isNamed {offers : List StartupData} {deployment : Deployment}
    (obtainable : Obtainable offers deployment) : deployment.IsNamed := by
  rcases obtainable with rfl | ⟨data, -, surroundings, -, loaded⟩
  · exact Deployment.isNamed_of_valid rfl
  · exact Deployment.isNamed_of_valid (valid_of_loaded loaded)

section Deeds

variable {given : StartupData} {asked : String → Prop} {offers : List StartupData} {s t : Store}
  {id : Nat}

/-- The configuration service stays what it is, and serves what it has served, or nothing, or what
it has loaded from the data of the call or from none. -/
theorem Component.Turn.isConfiguration {surroundings : Surroundings} {before after : Component}
    (turn : before.Turn given surroundings after) (configuration : before.IsConfiguration) :
    after.IsConfiguration ∧ ∀ deployment, after.deployment? = some deployment →
      before.deployment? = some deployment ∨
        ∃ data, (data = given ∨ data = {}) ∧ loadDeployment surroundings data = .ok deployment := by
  obtain ⟨loaded, body, initialized⟩ := configuration
  cases turn with
  | left => exact ⟨⟨loaded, body, initialized⟩, fun _ served => .inl served⟩
  | entered phase => exact ⟨⟨loaded, body, initialized⟩, fun _ served => .inl served⟩
  | marked ordinary => exact absurd body (ordinary loaded)
  | unmarked unserved =>
      rw [deployment?, body] at unserved
      cases unserved
      exact ⟨⟨none, body, rfl⟩, fun _ served => .inl served⟩
  | @installed _ data deployment held offered loads =>
      refine ⟨⟨some deployment, rfl, rfl⟩, ?_⟩
      intro other served
      cases served
      exact .inr ⟨data, offered, loads⟩
  | withdrawn held =>
      refine ⟨⟨none, rfl, rfl⟩, ?_⟩
      intro other served
      cases served
  | logSet held settings =>
      rw [body] at held
      cases held

theorem Deed.bare (deed : Deed given asked s t) (bare : s.surroundings.IsBare) :
    t.surroundings.IsBare := by
  cases deed with
  | remarked remarked => cases remarked <;> exact bare
  | @opened key number phase present admits cause => cases phase <;> exact bare
  | @closed key number phase result present honest emptied loads =>
      cases phase <;> cases result <;> exact bare
  | logSet held read usable => exact bare.leave _
  | _ => exact bare

/-- The configuration service, in surroundings where there is nothing to load. -/
structure Store.ServesFrom (s : Store) (offers : List StartupData) (id : Nat) : Prop where
  present : s.cachedId? configurationName = some id
  component : ∃ component, s.instance? id = some component ∧ component.IsConfiguration
  bare : s.surroundings.IsBare
  unpoisoned : s.isPoisoned configurationName = false
  served : ∀ deployment, s.deploymentOf? id = some deployment → Obtainable offers deployment

theorem Store.ServesFrom.loadsLate (keeps : s.ServesFrom offers id) : s.LoadsLate id := by
  obtain ⟨component, held, loaded, body, -⟩ := keeps.component
  exact ⟨⟨loaded, by rw [held, Option.map_some, body]⟩, {}, keeps.bare.loadDeployment_eq⟩

/-- The late phase of the configuration service never fails. -/
theorem Deed.unpoisoned (deed : Deed given asked s t) (keeps : s.ServesFrom offers id) :
    t.isPoisoned configurationName = false := by
  have unpoisoned := keeps.unpoisoned
  cases deed with
  | remarked remarked => cases remarked <;> exact unpoisoned
  | @opened key number phase present admits cause => cases phase <;> exact unpoisoned
  | @closed key number phase result present honest emptied loads =>
      rw [isPoisoned_closePhase, unpoisoned]
      by_cases same : key = configurationName
      · subst same
        rw [keeps.present] at present
        cases present
        cases phase with
        | late =>
            rw [loads rfl keeps.loadsLate]
            rfl
        | early => cases result <;> rfl
        | shutdown => rfl
      · cases phase <;> cases result <;>
          simp [Event.poisons?, Except.isOk, Except.toBool, same]
  | _ => exact unpoisoned

theorem Deed.servesFrom (deed : Deed given asked s t) (offered : given = {} ∨ given ∈ offers)
    (keeps : s.ServesFrom offers id) : t.ServesFrom offers id := by
  obtain ⟨before, held, configuration⟩ := keeps.component
  obtain ⟨after, present, turn⟩ := deed.turn held
  obtain ⟨still, traced⟩ := turn.isConfiguration configuration
  refine ⟨deed.cachedId? keeps.present, ⟨after, present, still⟩, deed.bare keeps.bare,
    deed.unpoisoned keeps, ?_⟩
  intro deployment served
  rw [deployment?_of_held present] at served
  have empty : loadDeployment s.surroundings {} = .ok deployment →
      Obtainable offers deployment := by
    intro loaded
    rw [keeps.bare.loadDeployment_eq] at loaded
    cases loaded
    exact .inl rfl
  rcases traced deployment served with earlier | ⟨data, origin, loaded⟩
  · exact keeps.served deployment ((deployment?_of_held held).trans earlier)
  · rcases origin with rfl | rfl
    · rcases offered with rfl | member
      · exact empty loaded
      · exact .inr ⟨data, member, s.surroundings, keeps.bare, loaded⟩
    · exact empty loaded

theorem Deeds.servesFrom (deeds : Deeds given asked s t) (offered : given = {} ∨ given ∈ offers)
    (keeps : s.ServesFrom offers id) : t.ServesFrom offers id := by
  induction deeds with
  | refl => exact keeps
  | tail _ last inductionHypothesis => exact last.servesFrom offered inductionHypothesis

end Deeds

section Loading

variable {offers : List StartupData} {data : StartupData} {deployment : Deployment} {s t : Store}
  {id : Nat}

theorem Store.ServesFrom.serves (keeps : s.ServesFrom offers id) :
    (s.isReady id = true ∧ ∃ deployment, s.deploymentOf? id = some deployment) ∨
      (s.isReady id = false ∧ s.deploymentOf? id = none) := by
  obtain ⟨component, held, loaded, body, initialized⟩ := keeps.component
  have served : s.deploymentOf? id = loaded := by
    rw [deployment?_of_held held, Component.deployment?, body]
  have ready : s.isReady id = loaded.isSome := by
    rw [Store.isReady, held, Option.any_some, initialized]
  cases loaded with
  | some deployment => exact .inl ⟨ready, deployment, served⟩
  | none => exact .inr ⟨ready, served⟩

theorem Store.ServesFrom.has (keeps : s.ServesFrom offers id) :
    (s.instance? id).any (·.has .configurationService) = true := by
  obtain ⟨component, held, loaded, body, -⟩ := keeps.component
  simp [held, Component.has, body]

/-- What the configuration service serves once it has been made ready is handed out. -/
theorem Bootstrap.deployment?_of_resolved
    (resolved : resolveBy (runPhase (depthAllowance s)) configurationName s =
      .finished (.ok id, t)) (keeps : t.ServesFrom offers id) :
    Bootstrap.deployment? s = .finished (t.deploymentOf? id, t) := by
  have typed : resolveAs configurationName .configurationService s = .finished (.ok id, t) := by
    change resolveAsBy (runPhase (depthAllowance s)) configurationName .configurationService s = _
    simp only [resolveAsBy, Work.bind_apply, resolved, Outcome.andThen_finished, Work.get_apply,
      keeps.has, if_true, Work.pure_apply]
  rw [Bootstrap.deployment?, Work.bind_apply, typed]
  rfl

theorem Bootstrap.deployment?_ready (keeps : s.ServesFrom offers id) (ready : s.isReady id = true) :
    Bootstrap.deployment? s = .finished (s.deploymentOf? id, s) :=
  Bootstrap.deployment?_of_resolved (resolveBy_ready keeps.present ready) keeps

/-- A phase in which a configuration service loads succeeds, and it leaves what has been loaded. -/
theorem instance?_loaded {w : Store} {component : Component} (phase : Phase)
    (deployment : Deployment) (startup : phase ≠ .shutdown)
    (held : w.instance? id = some component) :
    verdict ((w.openPhase configurationName id phase).install id deployment) configurationName id
        phase (.ok ()) = .ok () ∧
      (((w.openPhase configurationName id phase).install id deployment).closePhase
          configurationName id phase (.ok ())).instance? id =
        some { component with body := .configuration (some deployment), initialized := true } := by
  have installed : ((w.openPhase configurationName id phase).install id deployment).instance? id =
      some { component with body := .configuration (some deployment), initialized := true } := by
    have opened : (w.openPhase configurationName id phase).instance? id = some component := by
      cases phase with
      | early => exact held
      | late => exact held
      | shutdown => exact absurd rfl startup
    rw [instance?_install, opened]
    rfl
  constructor
  · simp [verdict, Store.isReady, installed]
  · rw [instance?_closePhase, if_neg (by simp [startup]), installed]

/-- The configuration service that is not initialized loads what the default loader finds, and
there is nothing. -/
theorem Bootstrap.deployment?_unready (keeps : s.ServesFrom offers id)
    (unready : s.isReady id = false)
    (idle : configurationName ∉ s.settling) :
    ∃ t, Bootstrap.deployment? s = .finished (some {}, t) ∧ t.deploymentOf? id = some {} := by
  obtain ⟨depth, allowance⟩ := depthAllowance_succ s
  obtain ⟨component, held, loaded, body, -⟩ := keeps.component
  have clean : s.poisoned.get? configurationName = none :=
    Option.isNone_iff_eq_none.mp (Option.isSome_eq_false_iff.mp keeps.unpoisoned)
  have admits : s.Admits configurationName id .late := ⟨unready, clean, idle⟩
  have opened : (s.openPhase configurationName id .late).instance? id = some component := held
  have configuration : ((s.openPhase configurationName id .late).instance? id).map Component.body =
      some (.configuration loaded) := by
    rw [opened, Option.map_some, body]
  have ran : runPhase (depthAllowance s) id .late {} (s.openPhase configurationName id .late) =
      .finished (.ok (), (s.openPhase configurationName id .late).install id {}) := by
    have bare : (s.openPhase configurationName id .late).surroundings.IsBare := keeps.bare
    rw [allowance, runPhase, runBody_configuration configuration (by simp), if_neg (by simp),
      startConfiguration_apply, bare.loadDeployment_eq]
  obtain ⟨good, installed⟩ := instance?_loaded .late {} (by simp) held
  generalize (s.openPhase configurationName id .late).install id {} = u at ran good installed
  have resolved : resolveBy (runPhase (depthAllowance s)) configurationName s =
      .finished (.ok id, u.closePhase configurationName id .late (.ok ())) := by
    rw [resolveBy, lateFrom_admitted (instanceFor_cached keeps.present) admits, ran,
      Outcome.andThen_finished, good]
    rfl
  have deeds : Deeds {} (fun _ => False) s (u.closePhase configurationName id .late (.ok ())) :=
    resolveBy_deeds (runPhase_accountable {} _) resolved
  have served : (u.closePhase configurationName id .late (.ok ())).deploymentOf? id = some {} := by
    rw [deployment?_of_held installed]
    rfl
  have answer := Bootstrap.deployment?_of_resolved resolved (deeds.servesFrom (.inl rfl) keeps)
  rw [served] at answer
  exact ⟨_, answer, served⟩

theorem Deeds.bare {given : StartupData} {asked : String → Prop} (deeds : Deeds given asked s t)
    (bare : s.surroundings.IsBare) : t.surroundings.IsBare := by
  induction deeds with
  | refl => exact bare
  | tail _ last inductionHypothesis => exact last.bare inductionHypothesis

/-- A configuration service that has been built for an early call is new. -/
theorem instance?_of_built {w : Store} (absent : s.cachedId? configurationName = none)
    (builtin : s.bodyOf? configurationName = some (.configuration none))
    (construction : instanceFor configurationName s = .finished (.ok id, w)) :
    ∃ component, w.instance? id = some component ∧ component.body = .configuration none ∧
      component.initialized = false := by
  cases instanceFor_finished construction with
  | cached present => rw [absent] at present; cases present
  | @built implementation name body _ assigned found =>
      rw [Store.bodyOf?, assigned, Option.bind_some, found] at builtin
      cases builtin
      exact ⟨s.newComponent implementation name (.configuration none),
        by rw [Store.instance?_construct, if_pos rfl], rfl, rfl⟩

/-- The configuration service has loaded a deployment in its early phase. -/
theorem servesFrom_of_loaded {w v : Store} {component : Component}
    (present : w.cachedId? configurationName = some id) (held : w.instance? id = some component)
    (bare : w.surroundings.IsBare) (loaded : loadDeployment w.surroundings data = .ok deployment)
    (installation : (w.openPhase configurationName id .early).install id deployment = v) :
    verdict v configurationName id .early (.ok ()) = .ok () ∧
      (v.closePhase configurationName id .early (.ok ())).ServesFrom [data] id ∧
      (v.closePhase configurationName id .early (.ok ())).deploymentOf? id = some deployment := by
  obtain ⟨good, closed⟩ := instance?_loaded .early deployment (by simp) held
  rw [installation] at good closed
  have served := deployment?_of_held closed
  refine ⟨good, ?keeps, served⟩
  case keeps =>
    refine ⟨?present, ⟨_, closed, some deployment, rfl, rfl⟩, ?bare, ?unpoisoned, ?served⟩
    case present =>
      rw [Store.cachedId?, cached_closePhase, ← installation]
      exact present
    case bare =>
      rw [← installation]
      exact bare
    case unpoisoned =>
      rw [isPoisoned_closePhase]
      rfl
    case served =>
      intro other same
      rw [served] at same
      cases same
      exact .inr ⟨data, List.mem_singleton_self data, w.surroundings, bare, loaded⟩

/-- An early call that succeeds leaves a new configuration service with what it has loaded. -/
theorem earlyBy_configures {depth : Nat} (absent : s.cachedId? configurationName = none)
    (builtin : s.bodyOf? configurationName = some (.configuration none))
    (bare : s.surroundings.IsBare)
    (finished : earlyBy (runPhase depth) configurationName data s = .finished (.ok (), t)) :
    ∃ id deployment surroundings, t.ServesFrom [data] id ∧ t.deploymentOf? id = some deployment ∧
      loadDeployment surroundings data = .ok deployment := by
  rw [earlyBy_apply] at finished
  have supplies := supplies_instanceFor configurationName (announce s configurationName)
  have announced := announce_remarks s configurationName
  generalize announce s configurationName = a at finished supplies announced
  have absent : a.cachedId? configurationName = none := by cases announced <;> exact absent
  have builtin : a.bodyOf? configurationName = some (.configuration none) := by
    cases announced <;> exact builtin
  have bare : a.surroundings.IsBare := by cases announced <;> exact bare
  generalize answer : Except.ok () = result at finished
  cases earlyFrom_finished.mp finished with
  | unbuilt construction => cases answer
  | circle construction unready again => cases answer
  | already construction ready =>
      obtain ⟨component, held, -, unready⟩ := instance?_of_built absent builtin construction
      simp [Store.isReady, held, unready] at ready
  | @ran id w v raw construction admits phase =>
      obtain ⟨component, held, body, -⟩ := instance?_of_built absent builtin construction
      have constructed : Deeds data (fun _ => False) a w :=
        (instanceFor_finished construction).deeds
      have configuration : ((w.openPhase configurationName id .early).instance? id).map
          Component.body = some (.configuration none) := by
        rw [show (w.openPhase configurationName id .early).instance? id = some component from held,
          Option.map_some, body]
      cases depth with
      | zero => cases phase
      | succ depth =>
          rw [runPhase, runBody_configuration configuration (by simp), if_pos rfl,
            startConfiguration_apply] at phase
          have surroundings : (w.openPhase configurationName id .early).surroundings =
              w.surroundings := rfl
          rw [surroundings] at phase
          cases loaded : loadDeployment w.surroundings data with
          | error fault =>
              rw [loaded] at phase
              cases phase
              cases answer
          | ok deployment =>
              rw [loaded] at phase
              cases phase
              obtain ⟨good, keeps, served⟩ :=
                servesFrom_of_loaded (supplies.present construction) held
                (constructed.bare bare) loaded rfl
              rw [good]
              exact ⟨id, deployment, w.surroundings, keeps, served, loaded⟩

end Loading

end ServiceLifecycle
