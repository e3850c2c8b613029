/-
Module: ServiceLifecycle.Proofs.Broker.Constancy
Purpose: An initialized instance stays as it is until the broker shuts it down.
Main exports: Store.shutdowns, Moves.instance?_eq, Store.ServesReady, Deeds.servesReady,
  Store.IsGentle, Deeds.shutdowns_eq
-/
import ServiceLifecycle.Proofs.Broker.Deeds
import ServiceLifecycle.Proofs.Broker.Instances
import ServiceLifecycle.Proofs.Broker.Readiness

namespace ServiceLifecycle

/-!
Only the component in charge of a phase changes itself, and the broker starts no initializing
phase of an instance that is initialized.  Between the calls of a host no phase is in progress.
An instance that is initialized then is left alone by everything that comes, until the broker
starts its shutdown, which the journal tells.

The configuration service is the one component that others read from.  It serves a deployment
only while it is initialized, so what is read from it stays the same for as long.
-/

open Broker Relation

/-- The instance whose shutdown is started. -/
def Event.shutdownOf? : Event → Option Nat
  | .started _ id .shutdown => some id
  | _ => none

/-- The instances whose shutdown the broker has started, the last one first. -/
def Store.shutdowns (s : Store) : List Nat :=
  s.journal.filterMap Event.shutdownOf?

section Moves

variable {before after later : Moment} {s t : Store} {id : Nat} {component : Component}

theorem Moves.shutdowns_suffix (moves : Moves before later) :
    before.store.shutdowns <:+ later.store.shutdowns := by
  obtain ⟨events, grown⟩ := moves.journal_suffix
  refine ⟨events.filterMap Event.shutdownOf?, ?_⟩
  rw [Store.shutdowns, Store.shutdowns, ← grown, List.filterMap_append]

/-- An initialized instance that takes no part in the phases in progress. -/
structure Moment.Rests (id : Nat) (component : Component) (moment : Moment) : Prop where
  held : moment.store.instance? id = some component
  initialized : component.initialized = true
  apart : ∀ frame ∈ moment.frames, frame.id ≠ id

theorem HostChange.instance?_eq (change : HostChange s t) (held : s.instance? id = some component) :
    t.instance? id = some component := by
  cases change using HostChange.byEffect with
  | create found =>
      have old : id < s.instances.length := (List.getElem?_eq_some_iff.mp held).1
      exact (List.getElem?_append_left old).trans held
  | _ => exact held

/-- An instance at rest stays so, unless the broker starts to shut it down. -/
theorem Move.rests (move : Move before after) (rests : before.Rests id component) :
    after.Rests id component ∨ after.store.shutdowns = id :: before.store.shutdowns := by
  obtain ⟨held, initialized, apart⟩ := rests
  cases move with
  | @quiet frames s t change =>
      have other : frames.head?.map Frame.id ≠ some id := by
        intro charge
        obtain ⟨frame, first, same⟩ := Option.map_eq_some_iff.mp charge
        exact apart frame (List.mem_of_mem_head? first) same
      exact .inl ⟨(change.others id other).trans held, initialized, apart⟩
  | @build frames s key implementation name body absent assigned found =>
      have old : id ≠ s.instances.length := by
        rintro rfl
        simp [Store.instance?] at held
      refine .inl ⟨?_, initialized, apart⟩
      rw [Store.instance?_construct, if_neg old]
      exact held
  | @enter frames s key number phase present admits =>
      by_cases same : number = id
      · subst same
        have ready : s.isReady number = true := by simp [Store.isReady, held, initialized]
        cases phase with
        | early => exact absurd (ready.symm.trans admits.1) (by simp)
        | late => exact absurd (ready.symm.trans admits.1) (by simp)
        | shutdown => exact .inr rfl
      · refine .inl ⟨?_, initialized, ?_⟩
        · cases phase <;> exact held
        · intro frame member
          rcases List.mem_cons.mp member with rfl | outer
          · exact same
          · exact apart frame outer
  | @leave frames s key number phase result honest =>
      have other : number ≠ id := apart ⟨key, number, phase⟩ List.mem_cons_self
      refine .inl ⟨?_, initialized, fun frame outer => apart frame (List.mem_cons_of_mem _ outer)⟩
      have unmarked : (s.unmark number).instance? id = some component := by
        rw [Store.unmark, Store.instance?_update, if_neg other]
        exact held
      rw [instance?_closePhase]
      split
      · exact unmarked
      · exact held
  | host change => exact .inl ⟨change.instance?_eq held, initialized, apart⟩

theorem Moves.rests (moves : Moves before later) (rests : before.Rests id component)
    (spared : later.store.shutdowns.count id = before.store.shutdowns.count id) :
    later.Rests id component := by
  induction moves with
  | refl => exact rests
  | @tail middle final moves last inductionHypothesis =>
      -- The count never falls, so neither the last step nor an earlier one has raised it.
      have earlier : before.store.shutdowns.count id ≤ middle.store.shutdowns.count id :=
        (Moves.shutdowns_suffix moves).sublist.count_le id
      have recent : middle.store.shutdowns.count id ≤ final.store.shutdowns.count id :=
        (Moves.shutdowns_suffix (.single last)).sublist.count_le id
      rcases last.rests (inductionHypothesis (by omega)) with kept | shut
      · exact kept
      · rw [shut, List.count_cons_self] at spared
        omega

/-- An instance that is initialized when no phase is in progress stays as it is until the broker
starts to shut it down. -/
theorem Moves.instance?_eq (moves : Moves ⟨[], s⟩ later) (held : s.instance? id = some component)
    (initialized : component.initialized = true)
    (spared : later.store.shutdowns.count id = s.shutdowns.count id) :
    later.store.instance? id = some component := by
  have start : Moment.Rests id component ⟨[], s⟩ :=
    ⟨held, initialized, fun _ member => absurd member List.not_mem_nil⟩
  exact (Moves.rests moves start spared).held

theorem Moves.isReady_eq (moves : Moves ⟨[], s⟩ later) (ready : s.isReady id = true)
    (spared : later.store.shutdowns.count id = s.shutdowns.count id) :
    later.store.instance? id = s.instance? id ∧ later.store.isReady id = true := by
  obtain ⟨component, held, initialized⟩ := (Option.any_eq_true _ _).mp ready
  have kept := Moves.instance?_eq moves held initialized spared
  exact ⟨kept.trans held.symm, by simp [Store.isReady, kept, initialized]⟩

/-- Where nothing is shut down in the whole, nothing is in a part. -/
theorem Moves.shutdowns_eq {u : Store} (first : Moves ⟨[], s⟩ ⟨[], u⟩)
    (second : Moves ⟨[], u⟩ ⟨[], t⟩) (spared : t.shutdowns = s.shutdowns) :
    u.shutdowns = s.shutdowns ∧ t.shutdowns = u.shutdowns := by
  have before : s.shutdowns <:+ u.shutdowns := Moves.shutdowns_suffix first
  have after : u.shutdowns <:+ t.shutdowns := Moves.shutdowns_suffix second
  have same : u.shutdowns = s.shutdowns :=
    (before.eq_of_length_le (spared ▸ after.length_le)).symm
  exact ⟨same, spared.trans same.symm⟩

end Moves

/-- An early call that succeeds leaves the instance of the key initialized. -/
theorem Broker.earlyBy_ready {depth : Nat} {name : String} {data : StartupData} {s t : Store}
    (finished : earlyBy (runPhase depth) name data s = .finished (.ok (), t)) :
    ∃ id, t.cachedId? name = some id ∧ t.isReady id = true := by
  rw [earlyBy_apply] at finished
  generalize answer : Except.ok () = result at finished
  have supplies := supplies_instanceFor name (announce s name)
  cases earlyFrom_finished.mp finished with
  | unbuilt construction => cases answer
  | already construction ready => exact ⟨_, supplies.present construction, ready⟩
  | circle construction unready again => cases answer
  | @ran id u v raw construction admits phase =>
      have inside : ∀ asked, Deeds data asked _ v :=
        (runPhase_accountable data depth id .early data _ _ v (.inl rfl) phase).1
      have before : u.cachedId? name = some id := supplies.present construction
      have present : v.cachedId? name = some id := (inside fun _ => False).cachedId? before
      refine ⟨id, ?_, ?_⟩
      · rw [Store.cachedId?, cached_closePhase]
        exact present
      · cases judged : verdict v name id .early raw with
        | error fault =>
            rw [judged] at answer
            cases answer
        | ok _ =>
            rw [isReady_closePhase, if_neg (by simp)]
            exact isReady_of_verdict_ok judged

section Deployments

variable {given : StartupData} {asked : String → Prop} {s t : Store} {id : Nat}

/-- A component serves a deployment only while it is initialized. -/
def Component.ServesReady (component : Component) : Prop :=
  component.initialized = true ∨ component.deployment? = none

theorem Component.Turn.servesReady {surroundings : Surroundings} {before after : Component}
    (turn : before.Turn given surroundings after) (serves : before.ServesReady) :
    after.ServesReady := by
  cases turn with
  | left => exact serves
  | entered phase => exact serves
  | marked ordinary => exact .inl rfl
  | unmarked unserved => exact .inr unserved
  | installed held offered loads => exact .inl rfl
  | withdrawn held => exact .inr rfl
  | logSet held settings => exact .inl rfl

theorem Deeds.servesReady (deeds : Deeds given asked s t) {component : Component}
    (held : s.instance? id = some component) (serves : component.ServesReady) :
    ∃ later, t.instance? id = some later ∧ later.ServesReady := by
  induction deeds with
  | refl => exact ⟨component, held, serves⟩
  | tail _ last inductionHypothesis =>
      obtain ⟨middle, found, still⟩ := inductionHypothesis
      obtain ⟨later, present, turn⟩ := last.turn found
      exact ⟨later, present, turn.servesReady still⟩

/-- The provider of a broker is fixed: the host has put it together, or it is an instance that
serves a deployment only while it is initialized. -/
def Store.HoldsProvider (s : Store) : Prop :=
  ∀ id, s.provider = some (.component id) →
    ∃ component, s.instance? id = some component ∧ component.ServesReady

theorem Provider.configuration_eq {provider : Provider}
    (served : ∀ id, provider = .component id → t.deploymentOf? id = s.deploymentOf? id)
    (path : String) : provider.configuration t path = provider.configuration s path := by
  cases provider with
  | inMemory provider => rfl
  | component id => rw [configuration, served id rfl, configuration]

theorem Provider.declarations_eq {provider : Provider}
    (served : ∀ id, provider = .component id → t.deploymentOf? id = s.deploymentOf? id) :
    provider.declarations t = provider.declarations s := by
  cases provider with
  | inMemory provider => rfl
  | component id => rw [declarations, served id rfl, declarations]

/-- The sections stay the same as long as the provider serves the same. -/
theorem Store.sectionOf_eq (registry : t.registry = s.registry) (provider : t.provider = s.provider)
    (served : ∀ id, s.provider = some (.component id) → t.deploymentOf? id = s.deploymentOf? id)
    (name : String) : t.sectionOf name = s.sectionOf name := by
  rw [sectionOf, registry, provider, sectionOf]
  cases given : s.provider with
  | none => rfl
  | some provider =>
      have same : ∀ id, provider = .component id → t.deploymentOf? id = s.deploymentOf? id :=
        fun id equal => served id (given.trans (congrArg some equal))
      simp only [Option.bind_some, provider.configuration_eq same]

end Deployments

section Gentleness

variable {given : StartupData} {asked : String → Prop} {s t : Store}

/-- No component that there is or that can be built has anything shut down. -/
structure Store.IsGentle (s : Store) : Prop where
  held : ∀ id component script key, s.instance? id = some component →
    component.body = .scripted script → ¬ script.Shuts key
  known : ∀ implementation script key,
    s.registry.bodyFor? implementation = some (.scripted script) → ¬ script.Shuts key

theorem Store.IsGentle.not_urges (gentle : s.IsGentle) (key : String) : ¬ s.Urges key := by
  rintro ⟨id, script, held, shuts⟩
  obtain ⟨component, found, body⟩ := Option.map_eq_some_iff.mp held
  exact gentle.held id component script key found body shuts

/-- An instance that was not there before has been built from what the registry has. -/
theorem Deed.built_of_none (deed : Deed given asked s t) {id : Nat} {component : Component}
    (absent : s.instance? id = none) (held : t.instance? id = some component) :
    ∃ implementation, s.registry.bodyFor? implementation = some component.body := by
  have updated : ∀ {u : Store} (other : Nat) (change : Component → Component),
      u.instance? id = none → (u.update other change).instance? id = none := by
    intro u other change missing
    rw [Store.instance?_update, missing]
    split <;> rfl
  cases deed with
  | @built key implementation name body missing assigned found =>
      rw [Store.instance?_construct] at held
      split at held
      · cases held
        exact ⟨implementation, found⟩
      · rw [absent] at held
        cases held
  | remarked remarked => cases remarked <;> exact absurd (absent.symm.trans held) (by simp)
  | @opened key number phase present admits cause =>
      cases phase <;> exact absurd (absent.symm.trans held) (by simp)
  | @closed key number phase result present honest emptied loads =>
      rw [instance?_closePhase] at held
      split at held
      · exact absurd ((updated number _ absent).symm.trans held) (by simp)
      · exact absurd (absent.symm.trans held) (by simp)
  | refused implementation => exact absurd (absent.symm.trans held) (by simp)
  | entered phase bodied => exact absurd ((updated _ _ absent).symm.trans held) (by simp)
  | marked ordinary => exact absurd ((updated _ _ absent).symm.trans held) (by simp)
  | unmarked ordinary => exact absurd ((updated _ _ absent).symm.trans held) (by simp)
  | served bodied offered loads =>
      exact absurd ((updated _ _ (updated _ _ absent)).symm.trans held) (by simp)
  | withdrawn bodied =>
      exact absurd ((updated _ _ (updated _ _ absent)).symm.trans held) (by simp)
  | logSet bodied reads usable =>
      exact absurd ((updated _ _ (updated _ _ absent)).symm.trans held) (by simp)

theorem Deed.isGentle (deed : Deed given asked s t) (gentle : s.IsGentle) : t.IsGentle := by
  have registry : t.registry = s.registry := congrArg Arrangement.registry deed.arrangement
  constructor
  case known => exact registry ▸ gentle.known
  case held =>
    intro id component script key held body
    cases before : s.instance? id with
    | none =>
        obtain ⟨implementation, found⟩ := deed.built_of_none before held
        exact gentle.known implementation script key (body ▸ found)
    | some earlier =>
        obtain ⟨later, present, turn⟩ := deed.turn before
        rw [held] at present
        cases present
        have kind := turn.kind
        rw [body] at kind
        exact gentle.held id earlier script key before (Body.eq_scripted_of_kind kind.symm)

/-- Nothing is shut down that nobody asks for. -/
theorem Deed.shutdowns_eq (deed : Deed given asked s t) (unasked : ∀ key, ¬ asked key)
    (gentle : s.IsGentle) : t.shutdowns = s.shutdowns := by
  cases deed with
  | remarked remarked => cases remarked <;> rfl
  | @opened key id phase present admits cause =>
      cases phase with
      | early => rfl
      | late => rfl
      | shutdown => exact ((cause rfl).elim (unasked key) (gentle.not_urges key)).elim
  | @closed key id phase result present honest emptied loads => cases phase <;> cases result <;> rfl
  | _ => rfl

/-- Where no component has anything shut down, a call that does not ask for it shuts nothing
down. -/
theorem Deeds.shutdowns_eq (deeds : Deeds given asked s t) (unasked : ∀ key, ¬ asked key)
    (gentle : s.IsGentle) : t.IsGentle ∧ t.shutdowns = s.shutdowns := by
  induction deeds with
  | refl => exact ⟨gentle, rfl⟩
  | tail _ last inductionHypothesis =>
      obtain ⟨still, same⟩ := inductionHypothesis
      exact ⟨last.isGentle still, (last.shutdowns_eq unasked still).trans same⟩

end Gentleness

end ServiceLifecycle
