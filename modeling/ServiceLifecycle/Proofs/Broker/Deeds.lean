/-
Module: ServiceLifecycle.Proofs.Broker.Deeds
Purpose: What is done to the store while a call is carried out, down to what the built-in
  services load and what a shutdown is due to.
Main exports: Deed, Deeds, Broker.Accountable, Broker.runPhase_accountable, Call.carry_deeds,
  Deeds.arrangement, Deeds.cachedId?, Deed.turn
-/
import ServiceLifecycle.Proofs.Broker.Actions
import ServiceLifecycle.Proofs.Broker.Caching

namespace ServiceLifecycle

/-!
A move says what a step may do to the store as far as the broker is concerned, and leaves open
what a component does to itself.  A deed leaves nothing open: it names the diagnostic that is
reported, the deployment that the configuration service loads and the startup data that it comes
from, and the script on whose account something is shut down.  The host has no part in deeds.

Every call that comes to its end has been carried out by deeds, so that whatever each deed keeps,
the call keeps.
-/

open Broker Relation

/-- A script has its component shut a key down in one of its phases. -/
def Script.Shuts (script : Script) (key : String) : Prop :=
  ∃ phase data, Action.shutdown key ∈ (script.plan data phase).2.2

/-- A component may want a key to be shut down. -/
def Store.Urges (s : Store) (key : String) : Prop :=
  ∃ id script, (s.instance? id).map Component.body = some (.scripted script) ∧ script.Shuts key

/-- The configuration service has loaded a deployment and has become initialized. -/
def Store.install (s : Store) (id : Nat) (deployment : Deployment) : Store :=
  (s.update id fun component =>
    { component with body := .configuration (some deployment) }).mark id

/-- The configuration service has forgotten what it served and is not initialized any more. -/
def Store.withdraw (s : Store) (id : Nat) : Store :=
  (s.update id fun component => { component with body := .configuration none }).unmark id

/-- The logging service has set the log up and has become initialized. -/
def Store.setLog (s : Store) (id : Nat) (settings : LogSettings) : Store :=
  let setup : LogSetup := { settings }
  ({ s with surroundings := setup.leave s.surroundings }.update id fun component =>
    { component with body := .logging (some settings) }).mark id

/-- The instance is not the built-in configuration service. -/
def Store.IsOrdinary (s : Store) (id : Nat) : Prop :=
  ∀ loaded, (s.instance? id).map Component.body ≠ some (.configuration loaded)

/-- A configuration service finds a deployment to load although no startup data offers any. -/
def Store.LoadsLate (s : Store) (id : Nat) : Prop :=
  (∃ before, (s.instance? id).map Component.body = some (.configuration before)) ∧
    ∃ deployment, loadDeployment s.surroundings {} = .ok deployment

/-- One thing that is done while a call is carried out that comes with startup data and asks for
the shutdown of some keys. -/
inductive Deed (given : StartupData) (asked : String → Prop) (s : Store) : Store → Prop where
  /-- Something is logged or reported. -/
  | remarked {t : Store} (remarked : s.Remarked t) : Deed given asked s t
  /-- A recipe refuses to build an instance. -/
  | refused (implementation : String) : Deed given asked s (s.note (.refused implementation))
  | built {key implementation : String} {name : Option String} {body : Body}
      (absent : s.cachedId? key = none) (assigned : s.Assigns key implementation name)
      (found : s.registry.bodyFor? implementation = some body) :
      Deed given asked s (s.construct key implementation name body)
  /-- The broker hands over to a phase.  It shuts down what it is asked to. -/
  | opened {key : String} {id : Nat} {phase : Phase} (present : s.cachedId? key = some id)
      (admits : s.Admits key id phase) (cause : phase = .shutdown → asked key ∨ s.Urges key) :
      Deed given asked s (s.openPhase key id phase)
  /-- A phase ends.  After its shutdown phase an instance serves no deployment, and the late phase
  of a configuration service succeeds if there is a deployment to load. -/
  | closed {key : String} {id : Nat} {phase : Phase} {result : Except PhaseFault Unit}
      (present : s.cachedId? key = some id)
      (honest : phase ≠ .shutdown → result = .ok () → s.isReady id = true)
      (emptied : phase = .shutdown → s.deploymentOf? id = none)
      (loads : phase = .late → s.LoadsLate id → result = .ok ()) :
      Deed given asked s (s.closePhase key id phase result)
  | entered {id : Nat} {script : Script} (phase : Phase)
      (held : (s.instance? id).map Component.body = some (.scripted script)) :
      Deed given asked s (s.enter id phase)
  | marked {id : Nat} (ordinary : s.IsOrdinary id) : Deed given asked s (s.mark id)
  | unmarked {id : Nat} (ordinary : s.IsOrdinary id) : Deed given asked s (s.unmark id)
  /-- The configuration service loads from the startup data of the call or from none. -/
  | served {id : Nat} {before : Option Deployment} {data : StartupData} {deployment : Deployment}
      (held : (s.instance? id).map Component.body = some (.configuration before))
      (offered : data = given ∨ data = {})
      (loaded : loadDeployment s.surroundings data = .ok deployment) :
      Deed given asked s (s.install id deployment)
  | withdrawn {id : Nat} {before : Option Deployment}
      (held : (s.instance? id).map Component.body = some (.configuration before)) :
      Deed given asked s (s.withdraw id)
  | logSet {id : Nat} {before : Option LogSettings} {settings : LogSettings}
      (held : (s.instance? id).map Component.body = some (.logging before))
      (read : readLogSettings (ownSection s id) = .ok settings)
      (usable : ({ settings } : LogSetup).isUsable s.surroundings = true) :
      Deed given asked s (s.setLog id settings)

/-- Any number of deeds. -/
abbrev Deeds (given : StartupData) (asked : String → Prop) : Store → Store → Prop :=
  ReflTransGen (Deed given asked)

section Kept

variable {given : StartupData} {asked : String → Prop} {s t : Store}

/-- What a broker works with, apart from the components. -/
structure Arrangement where
  registry : Registry
  mapping : Mapping
  provider : Option Provider
  applicationRoot : Option String
  objects : Entries HostObject
  reachable : Bool

def Store.arrangement (s : Store) : Arrangement :=
  { registry := s.registry
    mapping := s.mapping
    provider := s.provider
    applicationRoot := s.applicationRoot
    objects := s.objects
    reachable := s.reachable }

theorem Deed.arrangement (deed : Deed given asked s t) : t.arrangement = s.arrangement := by
  cases deed with
  | remarked remarked => cases remarked <;> rfl
  | @opened key id phase present admits cause => cases phase <;> rfl
  | @closed key id phase result present honest emptied loads => cases phase <;> cases result <;> rfl
  | _ => rfl

/-- While a call is carried out, only components change. -/
theorem Deeds.arrangement (deeds : Deeds given asked s t) : t.arrangement = s.arrangement := by
  induction deeds with
  | refl => rfl
  | tail _ last inductionHypothesis => exact last.arrangement.trans inductionHypothesis

theorem Deed.cachedId? (deed : Deed given asked s t) {key : String} {id : Nat}
    (present : s.cachedId? key = some id) : t.cachedId? key = some id := by
  cases deed with
  | remarked remarked => cases remarked <;> exact present
  | @built other implementation name body absent assigned found =>
      have different : key ≠ other := by
        rintro rfl
        rw [absent] at present
        cases present
      rw [Store.cachedId?_construct, if_neg different]
      exact present
  | @opened other number phase held admits cause => cases phase <;> exact present
  | closed held honest emptied loads =>
      rw [Store.cachedId?, cached_closePhase]
      exact present
  | _ => exact present

/-- A key that has an instance keeps it. -/
theorem Deeds.cachedId? (deeds : Deeds given asked s t) {key : String} {id : Nat}
    (present : s.cachedId? key = some id) : t.cachedId? key = some id := by
  induction deeds with
  | refl => exact present
  | tail _ last inductionHypothesis => exact last.cachedId? inductionHypothesis

/-- What becomes of a component in one deed. -/
inductive Component.Turn (given : StartupData) (surroundings : Surroundings)
    (before : Component) : Component → Prop where
  | left : Turn given surroundings before before
  | entered (phase : Phase) : Turn given surroundings before
      { before with calls := before.calls.next phase }
  | marked (ordinary : ∀ loaded, before.body ≠ .configuration loaded) :
      Turn given surroundings before { before with initialized := true }
  | unmarked (unserved : before.deployment? = none) : Turn given surroundings before
      { before with initialized := false }
  | installed {loaded : Option Deployment} {data : StartupData} {deployment : Deployment}
      (held : before.body = .configuration loaded) (offered : data = given ∨ data = {})
      (loads : loadDeployment surroundings data = .ok deployment) :
      Turn given surroundings before
        { before with body := .configuration (some deployment), initialized := true }
  | withdrawn {loaded : Option Deployment} (held : before.body = .configuration loaded) :
      Turn given surroundings before
        { before with body := .configuration none, initialized := false }
  | logSet {read : Option LogSettings} (held : before.body = .logging read)
      (settings : LogSettings) : Turn given surroundings before
        { before with body := .logging (some settings), initialized := true }

theorem turn_update {surroundings : Surroundings} {id other : Nat}
    {change : Component → Component} {before : Component} (held : s.instance? other = some before)
    (turns : id = other → before.Turn given surroundings (change before)) :
    ∃ after, (s.update id change).instance? other = some after ∧
      before.Turn given surroundings after := by
  rw [Store.instance?_update]
  by_cases same : id = other
  · rw [if_pos same, held]
    exact ⟨_, rfl, turns same⟩
  · rw [if_neg same]
    exact ⟨before, held, .left⟩

theorem instance?_update_update (s : Store) (id other : Nat)
    (first second : Component → Component) :
    ((s.update id first).update id second).instance? other =
      (s.update id (second ∘ first)).instance? other := by
  simp only [Store.update, Store.instance?, List.modify_modify_eq]

/-- A built-in service changes what it has loaded and then its status. -/
theorem turn_rebody {surroundings : Surroundings} {id other : Nat} {loaded : Body} (body : Body)
    (initialized : Bool) {before : Component}
    (bodied : (s.instance? id).map Component.body = some loaded)
    (held : s.instance? other = some before)
    (turns : before.body = loaded →
      before.Turn given surroundings { before with body, initialized }) :
    ∃ after, ((s.update id fun component => { component with body }).update id
        fun component => { component with initialized }).instance? other = some after ∧
      before.Turn given surroundings after := by
  rw [instance?_update_update]
  refine turn_update held ?_
  rintro rfl
  rw [held] at bodied
  cases bodied
  exact turns rfl

theorem instance?_closePhase (s : Store) (key : String) (id other : Nat) (phase : Phase)
    (result : Except PhaseFault Unit) :
    (s.closePhase key id phase result).instance? other =
      if phase = .shutdown then (s.unmark id).instance? other else s.instance? other := by
  cases phase <;> cases result <;> rfl

theorem deployment?_of_held {id : Nat} {before : Component} (held : s.instance? id = some before) :
    s.deploymentOf? id = before.deployment? := by
  rw [Store.deploymentOf?, held, Option.bind_some]

theorem Store.IsOrdinary.deploymentOf? {id : Nat} (ordinary : s.IsOrdinary id) :
    s.deploymentOf? id = none := by
  cases held : s.instance? id with
  | none => rw [Store.deploymentOf?, held, Option.bind_none]
  | some component =>
      rw [deployment?_of_held held, Component.deployment?]
      cases kind : component.body with
      | configuration loaded => exact absurd (by rw [held, Option.map_some, kind]) (ordinary loaded)
      | _ => rfl

theorem isOrdinary_of_body {id : Nat} {body : Body}
    (held : (s.instance? id).map Component.body = some body)
    (other : ∀ loaded, body ≠ .configuration loaded) : s.IsOrdinary id := by
  intro loaded same
  rw [held] at same
  exact other loaded (Option.some.inj same)

/-- What becomes of a component that there is. -/
theorem Deed.turn (deed : Deed given asked s t) {id : Nat} {before : Component}
    (held : s.instance? id = some before) :
    ∃ after, t.instance? id = some after ∧ before.Turn given s.surroundings after := by
  cases deed with
  | remarked remarked => cases remarked <;> exact ⟨before, held, .left⟩
  | refused implementation => exact ⟨before, held, .left⟩
  | @built key implementation name body absent assigned found =>
      have old : id ≠ s.instances.length := by
        rintro rfl
        simp [Store.instance?] at held
      rw [Store.instance?_construct, if_neg old]
      exact ⟨before, held, .left⟩
  | @opened key number phase present admits cause =>
      cases phase <;> exact ⟨before, held, .left⟩
  | @closed key number phase result present honest emptied loads =>
      rw [instance?_closePhase]
      split
      · rename_i shut
        refine turn_update held ?_
        rintro rfl
        exact .unmarked ((deployment?_of_held held).symm.trans (emptied shut))
      · exact ⟨before, held, .left⟩
  | entered phase bodied => exact turn_update held fun _ => .entered phase
  | @marked number ordinary =>
      refine @turn_update _ s _ number id _ _ held ?_
      rintro rfl
      exact .marked fun loaded body => ordinary loaded (by rw [held, Option.map_some, body])
  | @unmarked number ordinary =>
      refine turn_update held ?_
      rintro rfl
      exact .unmarked ((deployment?_of_held held).symm.trans ordinary.deploymentOf?)
  | @served number loaded data deployment bodied offered loads =>
      exact turn_rebody (.configuration (some deployment)) true bodied held
        fun same => .installed same offered loads
  | withdrawn bodied =>
      exact turn_rebody (.configuration none) false bodied held fun same => .withdrawn same
  | @logSet number read settings bodied reads usable =>
      have surrounded : ({ s with surroundings := ({ settings } : LogSetup).leave s.surroundings } :
          Store).instance? id = some before := held
      exact turn_rebody (.logging (some settings)) true bodied surrounded
        fun same => .logSet same settings

theorem Component.Turn.kind {surroundings : Surroundings} {before after : Component}
    (turn : before.Turn given surroundings after) : after.body.kind = before.body.kind := by
  cases turn with
  | installed held offered loads => rw [held]; rfl
  | withdrawn held => rw [held]; rfl
  | logSet held settings => rw [held]; rfl
  | _ => rfl

/-- An instance stays the kind of component that it is. -/
theorem Deeds.kind (deeds : Deeds given asked s t) {id : Nat} {component : Component}
    (held : s.instance? id = some component) :
    ∃ later, t.instance? id = some later ∧ later.body.kind = component.body.kind := by
  induction deeds with
  | refl => exact ⟨component, held, rfl⟩
  | tail _ last inductionHypothesis =>
      obtain ⟨middle, found, same⟩ := inductionHypothesis
      obtain ⟨later, present, turn⟩ := last.turn found
      exact ⟨later, present, turn.kind.trans same⟩

theorem Body.eq_scripted_of_kind {body : Body} {script : Script}
    (kind : body.kind = .scripted script) : body = .scripted script := by
  cases body with
  | scripted other => exact kind
  | _ => cases kind

theorem Body.eq_configuration_of_kind {body : Body} (kind : body.kind = .configuration none) :
    ∃ loaded, body = .configuration loaded := by
  cases body with
  | configuration loaded => exact ⟨loaded, rfl⟩
  | _ => cases kind

/-- A script stays as it is. -/
theorem Deeds.scripted (deeds : Deeds given asked s t) {id : Nat} {script : Script}
    (held : (s.instance? id).map Component.body = some (.scripted script)) :
    (t.instance? id).map Component.body = some (.scripted script) := by
  obtain ⟨component, found, body⟩ := Option.map_eq_some_iff.mp held
  obtain ⟨later, present, kind⟩ := deeds.kind found
  rw [body] at kind
  rw [present, Option.map_some, Body.eq_scripted_of_kind kind]

theorem isOrdinary_of_scripted {id : Nat} {script : Script}
    (held : (s.instance? id).map Component.body = some (.scripted script)) : s.IsOrdinary id :=
  isOrdinary_of_body held fun _ => by simp

end Kept

namespace Broker

/-- Whatever a phase does is done by deeds.  No deployment is served any more after a shutdown
phase, and a configuration service with a deployment to load becomes ready late. -/
def Accountable (given : StartupData) (run : PhaseRunner) : Prop :=
  ∀ id phase data s result t, data = given ∨ data = {} →
    run id phase data s = .finished (result, t) →
    (∀ asked, Deeds given asked s t) ∧ (phase = .shutdown → t.deploymentOf? id = none) ∧
      (phase = .late → t.LoadsLate id → result = .ok () ∧ t.isReady id = true)

section Calls

variable {run : PhaseRunner} {construct : Work (Except BrokerFault Nat)} {key : String}
  {given data : StartupData} {asked : String → Prop} {s t : Store}

theorem ConstructEnd.deeds {implementation : String} {name : Option String}
    {result : Except BrokerFault Nat} (assigned : s.Assigns key implementation name)
    (ending : ConstructEnd key implementation name s result t) : Deeds given asked s t := by
  cases ending with
  | cached present => exact .refl
  | unbuildable absent nothing unresolved remark =>
      rcases remark with rfl | rfl
      · exact .refl
      · exact .single (.refused implementation)
  | built absent found => exact .single (.built absent assigned found)

theorem InstanceEnd.deeds {result : Except BrokerFault Nat} (ending : InstanceEnd key s result t) :
    Deeds given asked s t := by
  cases ending with
  | cached present => exact .refl
  | unbuildable absent nothing unresolved remark =>
      rcases remark with rfl | ⟨implementation, rfl⟩
      · exact .refl
      · exact .single (.refused implementation)
  | built absent assigned found =>
      exact .single (.built absent (Store.assigns_of_assigned? assigned) found)

theorem phase_deeds (accountable : Accountable given run) {id : Nat} {phase : Phase}
    {raw result : Except PhaseFault Unit} (offered : data = given ∨ data = {})
    (present : s.cachedId? key = some id) (admits : s.Admits key id phase)
    (cause : phase = .shutdown → asked key ∨ s.Urges key)
    (ran : run id phase data (s.openPhase key id phase) = .finished (raw, t))
    (judged : phase ≠ .shutdown → result = verdict t key id phase raw) :
    Deeds given asked s (t.closePhase key id phase result) := by
  obtain ⟨inside, emptied, late⟩ := accountable id phase data _ raw t offered ran
  have outside : Deeds given asked s t := (inside asked).head (.opened present admits cause)
  refine outside.tail (.closed (outside.cachedId? present) ?honest emptied ?loads)
  case honest =>
    intro other good
    exact isReady_of_verdict_ok ((judged other).symm.trans good)
  case loads =>
    rintro rfl able
    obtain ⟨rfl, ready⟩ := late rfl able
    rw [judged (by simp), verdict, ready]
    rfl

theorem EarlyEnd.deeds (accountable : Accountable given run) (supplies : Supplies construct key s)
    (constructed : ∀ {result t}, construct s = .finished (result, t) → Deeds given asked s t)
    (offered : data = given ∨ data = {}) {result : Except BrokerFault Unit}
    (ending : EarlyEnd run construct key data s result t) : Deeds given asked s t := by
  cases ending with
  | unbuilt construction => exact constructed construction
  | already construction ready => exact constructed construction
  | circle construction unready again => exact constructed construction
  | ran construction admits phase =>
      exact (constructed construction).trans (phase_deeds accountable offered
        (supplies.present construction) admits (by simp) phase fun _ => rfl)

theorem LateEnd.deeds (accountable : Accountable given run) (supplies : Supplies construct key s)
    (constructed : ∀ {result t}, construct s = .finished (result, t) → Deeds given asked s t)
    {result : Except BrokerFault Nat} (ending : LateEnd run construct key s result t) :
    Deeds given asked s t := by
  cases ending with
  | unbuilt construction => exact constructed construction
  | already construction ready => exact constructed construction
  | poisoned construction unready record => exact constructed construction
  | ran construction admits phase =>
      exact (constructed construction).trans (phase_deeds accountable (.inr rfl)
        (supplies.present construction) admits (by simp) phase fun _ => rfl)

theorem ShutdownEnd.deeds (accountable : Accountable given run) (cause : asked key ∨ s.Urges key)
    {result : Bool} (ending : ShutdownEnd run key s result t) : Deeds given asked s t := by
  cases ending with
  | absent missing => exact .refl
  | idle present unready => exact .refl
  | ran present ready phase =>
      exact phase_deeds accountable (.inr rfl) present ready (fun _ => cause) phase
        fun other => absurd rfl other

theorem earlyBy_deeds (accountable : Accountable given run) (offered : data = given ∨ data = {})
    {result : Except BrokerFault Unit}
    (finished : earlyBy run key data s = .finished (result, t)) : Deeds given asked s t := by
  rw [earlyBy_apply] at finished
  have announced : Deeds given asked s (announce s key) :=
    .single (.remarked (announce_remarks s key))
  exact announced.trans ((earlyFrom_finished.mp finished).deeds accountable
    (supplies_instanceFor key _) (fun construction => (instanceFor_finished construction).deeds)
    offered)

theorem resolveBy_deeds (accountable : Accountable given run) {result : Except BrokerFault Nat}
    (finished : resolveBy run key s = .finished (result, t)) : Deeds given asked s t :=
  (lateFrom_finished.mp finished).deeds accountable (supplies_instanceFor key s)
    fun construction => (instanceFor_finished construction).deeds

theorem resolveAsBy_deeds (accountable : Accountable given run) {wanted : Wanted}
    {result : Except BrokerFault Nat}
    (finished : resolveAsBy run key wanted s = .finished (result, t)) : Deeds given asked s t := by
  obtain ⟨resolved, resolution, -⟩ := resolveBy_of_resolveAsBy finished
  exact resolveBy_deeds accountable resolution

theorem shutdownBy_deeds (accountable : Accountable given run) (cause : asked key ∨ s.Urges key)
    {result : Bool} (finished : shutdownBy run key s = .finished (result, t)) :
    Deeds given asked s t := by
  by_cases known : isKnown s key = true
  · have inner : shutdownInstanceBy run key s = .finished (result, t) := by
      simpa [shutdownBy, known] using finished
    exact (shutdownInstanceBy_finished.mp inner).deeds accountable cause
  · obtain ⟨rfl, rfl⟩ : false = result ∧ s.errorMessage _ = t := by
      simpa [shutdownBy, known] using finished
    exact .single (.remarked (.reported _))

end Calls

section Phases

variable {run : PhaseRunner} {given data : StartupData} {asked : String → Prop} {s t : Store}
  {now : Situation} {id : Nat} {phase : Phase} {script : Script}

theorem request_deeds (accountable : Accountable given run) (offered : data = given ∨ data = {})
    {action : Action} (urged : ∀ key, action = .shutdown key → s.Urges key)
    {answer : Except BrokerFault Answer}
    (finished : action.request run data s = .finished (answer, t)) : Deeds given asked s t := by
  cases action with
  | early key onFailure =>
      obtain ⟨result, u, called, rest⟩ := Work.bind_finished.mp finished
      cases rest
      exact earlyBy_deeds accountable offered called
  | resolve key onFailure =>
      obtain ⟨result, u, called, rest⟩ := Work.bind_finished.mp finished
      cases rest
      exact resolveBy_deeds accountable called
  | resolveAs key wanted onFailure =>
      obtain ⟨result, u, called, rest⟩ := Work.bind_finished.mp finished
      cases rest
      exact resolveAsBy_deeds accountable called
  | shutdown key =>
      obtain ⟨ran, u, called, rest⟩ := Work.bind_finished.mp finished
      cases rest
      exact shutdownBy_deeds accountable (.inr (urged key rfl)) called
  | _ =>
      cases finished
      exact .refl

theorem act_deeds (accountable : Accountable given run)
    (offered : now.data = given ∨ now.data = {})
    (held : (s.instance? now.id).map Component.body = some (.scripted script)) {action : Action}
    (urged : ∀ key, action = .shutdown key → script.Shuts key) {result : Except PhaseFault Heard}
    (finished : act run now action s = .finished (result, t)) : Deeds given asked s t := by
  cases act_ends finished with
  | marked => exact .single (.marked (isOrdinary_of_scripted held))
  | unmarked => exact .single (.unmarked (isOrdinary_of_scripted held))
  | requested names owned answered remarked =>
      have requested : Deeds given asked s _ := request_deeds accountable offered
        (fun key same => ⟨now.id, script, held, urged key same⟩) answered
      exact requested.tail (.remarked remarked)
  | unowned names unowned remarked => exact .single (.remarked remarked)
  | remarked silent marking unmarking remarked => exact .single (.remarked remarked)

theorem perform_deeds (accountable : Accountable given run)
    (offered : now.data = given ∨ now.data = {})
    (held : (s.instance? now.id).map Component.body = some (.scripted script))
    {course : Course} (urged : ∀ key, .shutdown key ∈ course → script.Shuts key)
    {result : Except PhaseFault Unit}
    (finished : perform run now course s = .finished (result, t)) : Deeds given asked s t := by
  refine perform_walk (P := Deeds given asked s) ?_ .refl finished
  intro action member u v done before acted
  exact before.trans (act_deeds accountable offered (before.scripted held)
    (fun key same => urged key (same ▸ member)) acted)

/-- A component that enters a phase and follows its script does so by deeds. -/
theorem performIn_deeds (accountable : Accountable given run)
    (held : (s.instance? id).map Component.body = some (.scripted script)) {seen : Phase}
    {seenData : StartupData} {course : Course}
    (planned : script.plan data phase = (seen, seenData, course))
    (offered : seenData = given ∨ seenData = {}) {result : Except PhaseFault Unit}
    (finished : perform run (s.situation id seen seenData) course (s.enter id seen) =
      .finished (result, t)) : Deeds given asked s t := by
  have entered : Deeds given asked s (s.enter id seen) := .single (.entered seen held)
  exact entered.trans (perform_deeds accountable offered (entered.scripted held)
    (fun key member => ⟨phase, data, by rw [planned]; exact member⟩) finished)

theorem Script.plan_data {seen : Phase} {seenData : StartupData} {course : Course}
    (planned : script.plan data phase = (seen, seenData, course))
    (offered : data = given ∨ data = {}) : seenData = given ∨ seenData = {} := by
  cases phase with
  | early =>
      cases early : script.early with
      | none =>
          simp only [Script.plan, early] at planned
          cases planned
          exact .inr rfl
      | some course =>
          simp only [Script.plan, early] at planned
          cases planned
          exact offered
  | late =>
      cases planned
      exact .inr rfl
  | shutdown =>
      cases planned
      exact .inr rfl

theorem runShutdownScript_deeds (accountable : Accountable given run)
    (held : (s.instance? id).map Component.body = some (.scripted script))
    {result : Except PhaseFault Unit}
    (finished : runShutdownScript run id script s = .finished (result, t)) :
    Deeds given asked s t := by
  rw [runShutdownScript, Work.bind_finished] at finished
  obtain ⟨now, u, entering, following⟩ := finished
  rw [enterPhase_apply] at entering
  cases entering
  rw [Work.bind_finished] at following
  obtain ⟨done, v, performing, rest⟩ := following
  have followed : Deeds given asked s v :=
    performIn_deeds accountable held (script.plan_shutdown {}) (.inr rfl) performing
  cases done with
  | ok _ =>
      cases rest
      exact followed
  | error fault =>
      cases rest
      exact followed.tail (.remarked (.said _ _))

theorem startConfiguration_apply (id : Nat) (data : StartupData) (s : Store) :
    startConfiguration id data s =
      match loadDeployment s.surroundings data with
      | .error fault =>
          .finished (.error (.failed "Failed to load configuration" (some (.load fault))), s)
      | .ok deployment => .finished (.ok (), s.install id deployment) := by
  simp only [startConfiguration, Work.bind_apply, Work.get_apply, Outcome.andThen_finished]
  cases loadDeployment s.surroundings data <;> rfl

theorem startConfiguration_deeds {before : Option Deployment}
    (held : (s.instance? id).map Component.body = some (.configuration before))
    (offered : data = given ∨ data = {}) {result : Except PhaseFault Unit}
    (finished : startConfiguration id data s = .finished (result, t)) : Deeds given asked s t := by
  rw [startConfiguration_apply] at finished
  cases loaded : loadDeployment s.surroundings data with
  | error fault =>
      rw [loaded] at finished
      cases finished
      exact .refl
  | ok deployment =>
      rw [loaded] at finished
      cases finished
      exact .single (.served held offered loaded)

theorem startLogging_deeds {before : Option LogSettings}
    (held : (s.instance? id).map Component.body = some (.logging before))
    {result : Except PhaseFault Unit}
    (finished : startLogging id s = .finished (result, t)) : Deeds given asked s t := by
  cases read : readLogSettings (ownSection s id) with
  | error fault =>
      simp [startLogging, read] at finished
      obtain ⟨-, rfl⟩ := finished
      exact .refl
  | ok settings =>
      by_cases usable : ({ settings } : LogSetup).isUsable s.surroundings = true
      · simp [startLogging, read, usable] at finished
        obtain ⟨-, rfl⟩ := finished
        exact .single (.logSet held read usable)
      · simp [startLogging, read, usable] at finished

theorem deploymentOf?_unmark (s : Store) (id : Nat) :
    (s.unmark id).deploymentOf? id = s.deploymentOf? id := by
  rw [Store.deploymentOf?, Store.unmark, Store.instance?_update, if_pos rfl, Store.deploymentOf?]
  cases s.instance? id <;> rfl

theorem deploymentOf?_withdraw (s : Store) (id : Nat) :
    (s.withdraw id).deploymentOf? id = none := by
  rw [Store.withdraw, deploymentOf?_unmark, Store.deploymentOf?, Store.instance?_update, if_pos rfl]
  cases s.instance? id <;> rfl

/-- The configuration service is initialized early from the data that it is given, and late from
none. -/
theorem runBody_configuration {before : Option Deployment}
    (held : (s.instance? id).map Component.body = some (.configuration before))
    (initializing : phase ≠ .shutdown) :
    runBody run id phase data s =
      startConfiguration id (if phase = .early then data else {}) s := by
  simp only [runBody, Work.bind_apply, Work.get_apply, Outcome.andThen_finished]
  rw [held]
  cases phase with
  | shutdown => exact absurd rfl initializing
  | early => rfl
  | late => rfl

theorem runBody_deeds (accountable : Accountable given run) (offered : data = given ∨ data = {})
    {result : Except PhaseFault Unit}
    (finished : runBody run id phase data s = .finished (result, t)) : Deeds given asked s t := by
  have block := finished
  simp only [runBody, Work.bind_apply, Work.get_apply, Outcome.andThen_finished] at block
  cases present : s.instance? id with
  | none =>
      rw [present] at block
      cases block
      exact .refl
  | some component =>
      have held : (s.instance? id).map Component.body = some component.body := by
        rw [present, Option.map_some]
      rw [held] at block
      cases kind : component.body with
      | plain =>
          rw [kind] at held block
          have ordinary : s.IsOrdinary id := isOrdinary_of_body held fun _ => by simp
          cases phase <;> cases block
          · exact .single (.marked ordinary)
          · exact .single (.marked ordinary)
          · exact .single (.unmarked ordinary)
      | scripted script =>
          rw [kind] at held block
          by_cases closing : phase = .shutdown
          · subst closing
            exact runShutdownScript_deeds accountable held block
          · have planned : script.plan data phase = (_, _, _) := rfl
            rw [runBody_scripted closing held planned] at finished
            exact performIn_deeds accountable held planned (Script.plan_data planned offered)
              finished
      | configuration before =>
          rw [kind] at held block
          cases phase with
          | early => exact startConfiguration_deeds held offered block
          | late => exact startConfiguration_deeds held (.inr rfl) block
          | shutdown =>
              cases block
              exact .single (.withdrawn held)
      | logging before =>
          rw [kind] at held block
          cases phase with
          | early => exact startLogging_deeds held block
          | late => exact startLogging_deeds held block
          | shutdown =>
              cases block
              exact .single (.unmarked (isOrdinary_of_body held fun _ => by simp))

/-- After its shutdown phase a component serves no deployment. -/
theorem runBody_emptied (deeds : Deeds given asked s t) {result : Except PhaseFault Unit}
    (finished : runBody run id .shutdown data s = .finished (result, t)) :
    t.deploymentOf? id = none := by
  simp only [runBody, Work.bind_apply, Work.get_apply, Outcome.andThen_finished] at finished
  cases present : s.instance? id with
  | none =>
      rw [present] at finished
      cases finished
      rw [Store.deploymentOf?, present, Option.bind_none]
  | some component =>
      have held : (s.instance? id).map Component.body = some component.body := by
        rw [present, Option.map_some]
      rw [held] at finished
      cases kind : component.body with
      | scripted script =>
          rw [kind] at held
          exact (isOrdinary_of_scripted (deeds.scripted held)).deploymentOf?
      | configuration before =>
          rw [kind] at finished
          cases finished
          exact deploymentOf?_withdraw s id
      | _ =>
          rw [kind] at finished
          cases finished
          rw [deploymentOf?_unmark, deployment?_of_held present, Component.deployment?, kind]

theorem instance?_install (s : Store) (id : Nat) (deployment : Deployment) :
    (s.install id deployment).instance? id = (s.instance? id).map fun component =>
      { component with body := .configuration (some deployment), initialized := true } := by
  have changed : (s.install id deployment).instance? id =
      ((s.update id fun component => { component with body := .configuration (some deployment) }
        ).update id fun component => { component with initialized := true }).instance? id := rfl
  rw [changed, instance?_update_update, Store.instance?_update, if_pos rfl]
  rfl

/-- The late phase of a configuration service succeeds if there is a deployment to load. -/
theorem runBody_loads (deeds : Deeds given asked s t) {result : Except PhaseFault Unit}
    (finished : runBody run id .late data s = .finished (result, t)) (able : t.LoadsLate id) :
    result = .ok () ∧ t.isReady id = true := by
  obtain ⟨⟨after, served⟩, deployment, loadable⟩ := able
  cases present : s.instance? id with
  | none =>
      simp only [runBody, Work.bind_apply, Work.get_apply, Outcome.andThen_finished] at finished
      rw [present] at finished
      cases finished
      rw [present] at served
      cases served
  | some component =>
      obtain ⟨later, found, kind⟩ := deeds.kind present
      rw [found, Option.map_some] at served
      rw [Option.some.inj served] at kind
      obtain ⟨before, body⟩ := Body.eq_configuration_of_kind kind.symm
      have held : (s.instance? id).map Component.body = some (.configuration before) := by
        rw [present, Option.map_some, body]
      rw [runBody_configuration held (by simp), if_neg (by simp), startConfiguration_apply]
        at finished
      cases loaded : loadDeployment s.surroundings {} with
      | error fault =>
          rw [loaded] at finished
          cases finished
          rw [loaded] at loadable
          cases loadable
      | ok other =>
          rw [loaded] at finished
          cases finished
          refine ⟨rfl, ?_⟩
          rw [Store.isReady, instance?_install, present]
          rfl

theorem runBody_accountable (accountable : Accountable given run) :
    Accountable given (runBody run) := by
  intro id phase data s result t offered finished
  have deeds : ∀ asked, Deeds given asked s t :=
    fun _ => runBody_deeds accountable offered finished
  refine ⟨deeds, ?emptied, ?late⟩
  case emptied =>
    rintro rfl
    exact runBody_emptied (deeds fun _ => False) finished
  case late =>
    rintro rfl able
    exact runBody_loads (deeds fun _ => False) finished able

/-- However deep phases may nest, they do what they do by deeds. -/
theorem runPhase_accountable (given : StartupData) (depth : Nat) :
    Accountable given (runPhase depth) := by
  induction depth with
  | zero =>
      intro id phase data s result t offered finished
      cases finished
  | succ depth inductionHypothesis => exact runBody_accountable inductionHypothesis

end Phases

section BulkCalls

variable {run : PhaseRunner} {given : StartupData} {asked : String → Prop} {s t : Store}

theorem earlyEach_deeds (accountable : Accountable given run) {failFast : Bool}
    {names : List String} {result : Except BrokerFault Unit}
    (finished : earlyEach run given failFast names s = .finished (result, t)) :
    Deeds given asked s t := by
  refine earlyEach_walk (P := fun u => Deeds given asked s u) ?called ?reported .refl finished
  case called =>
    exact fun name _ u v answer before _ called =>
      before.trans (earlyBy_deeds accountable (.inl rfl) called)
  case reported => exact fun u fault before => before.tail (.remarked (.reported _))

theorem earlyAllBy_deeds (accountable : Accountable given run) {failFast : Bool}
    {result : Except BrokerFault Unit}
    (finished : earlyAllBy run given failFast s = .finished (result, t)) :
    Deeds given asked s t := by
  obtain ⟨u, walked, remarked⟩ := earlyAllBy_ends finished
  exact (earlyEach_deeds accountable walked).tail (.remarked remarked)

theorem forewarn_remarks (s : Store) (name : String) : s.Remarked (s.forewarn name) := by
  rw [Store.forewarn]
  split
  · exact .reported _
  · exact .nothing

theorem shutdownEach_deeds (accountable : Accountable given run) {names : List String}
    (asks : ∀ name ∈ names, asked name)
    (finished : shutdownEach run names s = .finished ((), t)) : Deeds given asked s t := by
  refine shutdownEach_walk (P := Deeds given asked s) ?forewarned ?called .refl finished
  case forewarned => exact fun u name before => before.tail (.remarked (forewarn_remarks u name))
  case called =>
    exact fun name member u v ran before shut =>
      before.trans (shutdownBy_deeds accountable (.inl (asks name member)) shut)

theorem shutdownAllBy_deeds (accountable : Accountable given run)
    (asks : ∀ name ∈ s.serviceNames, asked name)
    (finished : shutdownAllBy run s = .finished ((), t)) : Deeds given asked s t := by
  have noticed : Deeds given asked s (s.notice "Shutting down all services") :=
    .single (.remarked (.reported _))
  exact noticed.trans (shutdownEach_deeds accountable
    (fun name member => asks name (List.mem_reverse.mp member)) finished)

end BulkCalls

end Broker

namespace Call

/-- The startup data that a call comes with. -/
def data : Call → StartupData
  | early _ data | earlyAs _ _ data | earlyAll data _ => data
  | _ => {}

/-- The keys whose shutdown a call asks for. -/
def Shuts (s : Store) : Call → String → Prop
  | shutdown key | shutdownInstance key => fun other => other = key
  | shutdownAll => fun other => other ∈ s.serviceNames
  | _ => fun _ => False

/-- What a host asks for is carried out by deeds. -/
theorem carry_deeds {call : Call} {depth : Nat} {s t : Store} (permitted : call.IsPermitted s)
    (finished : call.carry (runPhase depth) s = .finished ((), t)) :
    Deeds call.data (call.Shuts s) s t := by
  have accountable := runPhase_accountable call.data depth
  cases call with
  | early key data =>
      obtain ⟨_, called⟩ := Work.finished_of_dropped finished
      exact earlyBy_deeds accountable (.inl rfl) called
  | earlyAs key implementation data =>
      obtain ⟨_, called⟩ := Work.finished_of_dropped finished
      have assigned : s.Assigns key implementation none := permitted
      exact (earlyFrom_finished.mp called).deeds accountable (supplies_given permitted)
        (fun construction => (constructAs_finished construction).deeds assigned) (.inl rfl)
  | resolve key =>
      obtain ⟨_, called⟩ := Work.finished_of_dropped finished
      exact resolveBy_deeds accountable called
  | resolveFrom key implementation =>
      obtain ⟨_, called⟩ := Work.finished_of_dropped finished
      have assigned : s.Assigns key implementation none := permitted
      exact (lateFrom_finished.mp called).deeds accountable (supplies_given permitted)
        fun construction => (constructAs_finished construction).deeds assigned
  | resolveAs key wanted =>
      obtain ⟨_, called⟩ := Work.finished_of_dropped finished
      exact resolveAsBy_deeds accountable called
  | shutdown key =>
      obtain ⟨_, called⟩ := Work.finished_of_dropped finished
      exact shutdownBy_deeds accountable (.inl rfl) called
  | shutdownInstance key =>
      obtain ⟨_, called⟩ := Work.finished_of_dropped finished
      exact (shutdownInstanceBy_finished.mp called).deeds accountable (.inl rfl)
  | construct key =>
      obtain ⟨_, called⟩ := Work.finished_of_dropped finished
      exact (instanceFor_finished called).deeds
  | constructAs key implementation =>
      obtain ⟨_, called⟩ := Work.finished_of_dropped finished
      have assigned : s.Assigns key implementation none := permitted
      exact (constructAs_finished called).deeds assigned
  | earlyAll data failFast =>
      obtain ⟨_, called⟩ := Work.finished_of_dropped finished
      exact earlyAllBy_deeds accountable called
  | shutdownAll => exact shutdownAllBy_deeds accountable (fun _ member => member) finished

end Call

end ServiceLifecycle
