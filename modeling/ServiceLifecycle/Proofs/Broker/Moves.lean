/-
Module: ServiceLifecycle.Proofs.Broker.Moves
Purpose: A broker at work as a system that moves from one moment to the next.
Main exports: Frame, Moment, Quiet, HostChange, HostChange.byEffect, Move, Moves
-/
import ServiceLifecycle.Proofs.Broker.Calls
import ServiceLifecycle.Proofs.Broker.Construction
import Mathlib.Logic.Relation

namespace ServiceLifecycle

/-!
Calls nest: a phase of one component has the broker run phases of others.  A moment
of a run is therefore a store together with the phases in progress, innermost first.
From one moment to the next, one of five things happens:

* the component in charge changes its own status, logs or reports something;
* the broker builds and caches an instance;
* the broker hands over to a phase;
* a phase comes to its end;
* between the calls, the host changes what the broker works with.

Each step is described by what it does to the store, and is allowed whenever its
condition holds, so that whatever holds at every moment that can be reached by moves
holds throughout every run.
-/

/-- A phase in progress. -/
structure Frame where
  key : String
  id : Nat
  phase : Phase
deriving Repr, Inhabited, DecidableEq

/-- A store, and the phases that are in progress, innermost first. -/
structure Moment where
  frames : List Frame
  store : Store

/-- What never changes about an instance once it has been cached. -/
def Component.identity (component : Component) : String × Option Nat × Option String × Bool :=
  (component.implementation, component.label, component.name, component.owned)

/-- A remark is an event that is not the broker's doing; only the component in charge
marks itself. -/
def Event.IsRemark (owner : Option Nat) : Event → Prop
  | .refused _ | .entered _ _ | .said _ _ | .reported _ => True
  | .marked id => owner = some id
  | _ => False

/-- A change that the broker has no part in: the component in charge may have changed
itself, and remarks may have been added to the journal.  Whoever becomes initialized has
marked itself. -/
structure Quiet (owner : Option Nat) (s t : Store) : Prop where
  registry : t.registry = s.registry
  mapping : t.mapping = s.mapping
  cached : t.cached = s.cached
  poisoned : t.poisoned = s.poisoned
  stack : t.stack = s.stack
  settling : t.settling = s.settling
  provider : t.provider = s.provider
  reachable : t.reachable = s.reachable
  length : t.instances.length = s.instances.length
  others : ∀ id, owner ≠ some id → t.instance? id = s.instance? id
  identity : ∀ id, (t.instance? id).map Component.identity =
    (s.instance? id).map Component.identity
  journal : ∃ remarks, t.journal = remarks ++ s.journal ∧
    ∀ event ∈ remarks, event.IsRemark owner
  marked : ∀ id, t.isReady id = true → s.isReady id = true ∨
    ∃ remarks, t.journal = remarks ++ s.journal ∧ .marked id ∈ remarks

namespace Quiet

variable {owner : Option Nat} {s t u : Store}

theorem refl (owner : Option Nat) (s : Store) : Quiet owner s s :=
  ⟨rfl, rfl, rfl, rfl, rfl, rfl, rfl, rfl, rfl, fun _ _ => rfl, fun _ => rfl,
    ⟨[], rfl, by simp⟩, fun _ ready => .inl ready⟩

theorem trans (first : Quiet owner s t) (second : Quiet owner t u) : Quiet owner s u := by
  obtain ⟨before, beforeEq, beforeRemarks⟩ := first.journal
  obtain ⟨after, afterEq, afterRemarks⟩ := second.journal
  constructor
  case registry => exact second.registry.trans first.registry
  case mapping => exact second.mapping.trans first.mapping
  case cached => exact second.cached.trans first.cached
  case poisoned => exact second.poisoned.trans first.poisoned
  case stack => exact second.stack.trans first.stack
  case settling => exact second.settling.trans first.settling
  case provider => exact second.provider.trans first.provider
  case reachable => exact second.reachable.trans first.reachable
  case length => exact second.length.trans first.length
  case others => exact fun id other => (second.others id other).trans (first.others id other)
  case identity => exact fun id => (second.identity id).trans (first.identity id)
  case journal =>
    refine ⟨after ++ before, by rw [afterEq, beforeEq, List.append_assoc], ?_⟩
    intro event member
    rcases List.mem_append.mp member with late | soon
    · exact afterRemarks event late
    · exact beforeRemarks event soon
  case marked =>
    intro id ready
    rcases second.marked id ready with earlier | ⟨remarks, grown, member⟩
    · rcases first.marked id earlier with start | ⟨remarks, grown, member⟩
      · exact .inl start
      · refine .inr ⟨after ++ remarks, by rw [afterEq, grown, List.append_assoc], ?_⟩
        exact List.mem_append_right _ member
    · refine .inr ⟨remarks ++ before, by rw [grown, beforeEq, List.append_assoc], ?_⟩
      exact List.mem_append_left _ member

/-- A remark in the journal. -/
theorem note {event : Event} (remark : event.IsRemark owner) (s : Store) :
    Quiet owner s (s.note event) := by
  refine ⟨rfl, rfl, rfl, rfl, rfl, rfl, rfl, rfl, rfl, fun _ _ => rfl, fun _ => rfl,
    ⟨[event], rfl, ?_⟩, fun _ ready => .inl ready⟩
  intro other member
  rw [List.mem_singleton.mp member]
  exact remark

/-- A component changes itself, but not what the broker gave it, and makes one remark.
It says so when it becomes initialized. -/
theorem updateNoting {id : Nat} (change : Component → Component) {remarks : List Event}
    (same : ∀ component, (change component).identity = component.identity)
    (quiet : ∀ event ∈ remarks, event.IsRemark (some id))
    (honest : ∀ component, (change component).initialized = true →
      component.initialized = true ∨ .marked id ∈ remarks) (s : Store) :
    Quiet (some id) s { s.update id change with journal := remarks ++ s.journal } := by
  have changed : ∀ other, ({ s.update id change with journal := remarks ++ s.journal } :
      Store).instance? other =
        if id = other then (s.instance? other).map change else s.instance? other :=
    fun other => Store.instance?_update s id other change
  refine ⟨rfl, rfl, rfl, rfl, rfl, rfl, rfl, rfl, by simp [Store.update], ?_, ?_,
    ⟨remarks, rfl, quiet⟩, ?_⟩
  · intro other different
    have ne : id ≠ other := fun equal => different (by rw [equal])
    rw [changed, if_neg ne]
  · intro other
    rw [changed]
    split
    · rw [Option.map_map]
      exact Option.map_congr fun component _ => same component
    · rfl
  · intro other ready
    rw [Store.isReady, changed] at ready
    split at ready
    · rename_i equal
      subst equal
      cases held : s.instance? id with
      | none => simp [held] at ready
      | some component =>
          have now : (change component).initialized = true := by simpa [held] using ready
          rcases honest component now with before | said
          · exact .inl (by simpa [Store.isReady, held] using before)
          · exact .inr ⟨remarks, rfl, said⟩
    · exact .inl ready

theorem update (s : Store) {id : Nat} {change : Component → Component}
    (same : ∀ component, (change component).identity = component.identity)
    (honest : ∀ component, (change component).initialized = true →
      component.initialized = true) :
    Quiet (some id) s (s.update id change) := by
  have none : ∀ event ∈ ([] : List Event), event.IsRemark (some id) :=
    fun _ member => absurd member List.not_mem_nil
  exact updateNoting change same none (fun component ready => .inl (honest component ready)) s

theorem refused (implementation : String) (s : Store) :
    Quiet owner s (s.note (.refused implementation)) :=
  note (show Event.IsRemark owner (.refused implementation) from True.intro) s

theorem entered (label : Option Nat) (phase : Phase) (s : Store) :
    Quiet owner s (s.note (.entered label phase)) :=
  note (show Event.IsRemark owner (.entered label phase) from True.intro) s

theorem said (label : Option Nat) (text : String) (s : Store) :
    Quiet owner s (s.note (.said label text)) :=
  note (show Event.IsRemark owner (.said label text) from True.intro) s

theorem report (entry : Diagnostic) (s : Store) : Quiet owner s (s.report entry) := by
  have recorded : Quiet owner s { s with channel := s.channel.record entry } :=
    ⟨rfl, rfl, rfl, rfl, rfl, rfl, rfl, rfl, rfl, fun _ _ => rfl, fun _ => rfl,
      ⟨[], rfl, by simp⟩, fun _ ready => .inl ready⟩
  exact recorded.trans (note (show Event.IsRemark owner (.reported entry) from True.intro) _)

theorem mark (id : Nat) (s : Store) : Quiet (some id) s (s.mark id) := by
  have said : ∀ event ∈ [Event.marked id], event.IsRemark (some id) := by
    intro event member
    rw [List.mem_singleton.mp member]
    rfl
  exact updateNoting (fun component => { component with initialized := true }) (fun _ => rfl) said
    (fun _ _ => .inr (List.mem_singleton_self _)) s

theorem unmark (id : Nat) (s : Store) : Quiet (some id) s (s.unmark id) :=
  update s (fun _ => rfl) fun _ ready => absurd ready Bool.false_ne_true

/-- A built-in service loads or forgets what it serves. -/
theorem rebody (id : Nat) (body : Body) (s : Store) :
    Quiet (some id) s (s.update id fun component => { component with body }) :=
  update s (fun _ => rfl) fun _ ready => ready

theorem surround (surroundings : Surroundings) (s : Store) :
    Quiet owner s { s with surroundings } :=
  ⟨rfl, rfl, rfl, rfl, rfl, rfl, rfl, rfl, rfl, fun _ _ => rfl, fun _ => rfl,
    ⟨[], rfl, by simp⟩, fun _ ready => .inl ready⟩

end Quiet

/-- The broker may build an instance of an implementation for a key, and give it a
name.  A broker of services builds what the name is mapped to; otherwise the host has
a say in the implementation. -/
def Store.Assigns (s : Store) (key implementation : String) : Option String → Prop
  | none => s.registry.capability = .component
  | some name => s.registry.capability = .service ∧ name = key ∧
      s.mapping.get? key = some implementation

theorem Store.assigns_of_assigned? {s : Store} {key implementation : String}
    {name : Option String} (assigned : s.assigned? key = some (implementation, name)) :
    s.Assigns key implementation name := by
  cases capability : s.registry.capability with
  | component =>
      rw [assigned?, capability] at assigned
      cases assigned
      exact capability
  | service =>
      simp only [assigned?, capability, Option.map_eq_some_iff] at assigned
      obtain ⟨_, mapped, same⟩ := assigned
      cases same
      exact ⟨capability, rfl, mapped⟩

/-- What a host changes between its calls. -/
inductive HostChange (s : Store) : Store → Prop where
  /-- It puts another registry of the same capability in place. -/
  | registry {registry : Registry} (same : registry.capability = s.registry.capability) :
      HostChange s { s with registry }
  | register (name implementation : String) : HostChange s (s.register name implementation).2
  | unregister (name : String) : HostChange s (s.unregister name).2
  /-- Only a broker of components lets its host evict a key. -/
  | evict (key : String) (component : s.registry.capability = .component) :
      HostChange s (s.evict key)
  /-- It has an instance built that no key gets. -/
  | create {implementation : String} {body : Body}
      (found : s.registry.bodyFor? implementation = some body) :
      HostChange s (s.add implementation body none).2
  | refuse (implementation : String) : HostChange s (s.note (.refused implementation))
  | report (entry : Diagnostic) : HostChange s (s.report entry)
  | enable (sink : Sink) : HostChange s (s.enable sink).2
  /-- It provides for the components. -/
  | furnish (provider : Option Provider) (applicationRoot : Option String)
      (objects : Entries HostObject) (surroundings : Surroundings) :
      HostChange s { s with provider, applicationRoot, objects, surroundings }

/-- A registration changes the mapping, or else it leaves a notice. -/
theorem Store.register_ends (s : Store) (name implementation : String) :
    (∃ mapping, (s.register name implementation).2 = { s with mapping }) ∨
      ∃ text, (s.register name implementation).2 = s.notice text := by
  rw [register]
  cases s.mapping.get? name with
  | none => exact .inl ⟨_, rfl⟩
  | some present =>
      by_cases same : present = implementation
      · simp only [same, if_true]
        exact .inl ⟨s.mapping, rfl⟩
      · simp only [same, if_false]
        exact .inr ⟨_, rfl⟩

/-- What a host changes, case by case.  A registration need not be looked at by itself, since it
changes the mapping or else it is a report. -/
@[elab_as_elim]
theorem HostChange.byEffect {s : Store} {motive : ∀ t, HostChange s t → Prop}
    (registry : ∀ {registry : Registry}
      (same : registry.capability = s.registry.capability), motive _ (.registry same))
    (remap : ∀ (mapping : Mapping) (change : HostChange s { s with mapping }),
      motive _ change)
    (unregister : ∀ name : String, motive _ (.unregister name))
    (evict : ∀ (key : String) (component : s.registry.capability = .component),
      motive _ (.evict key component))
    (create : ∀ {implementation : String} {body : Body}
      (found : s.registry.bodyFor? implementation = some body), motive _ (.create found))
    (refuse : ∀ implementation : String, motive _ (.refuse implementation))
    (report : ∀ (entry : Diagnostic) (change : HostChange s (s.report entry)), motive _ change)
    (enable : ∀ sink : Sink, motive _ (.enable sink))
    (furnish : ∀ (provider : Option Provider) (applicationRoot : Option String)
      (objects : Entries HostObject) (surroundings : Surroundings),
      motive _ (.furnish provider applicationRoot objects surroundings))
    {t : Store} (change : HostChange s t) : motive t change := by
  cases change with
  | registry same => exact registry same
  | register name implementation =>
      generalize HostChange.register name implementation = registration
      revert registration
      rcases s.register_ends name implementation with ⟨mapping, same⟩ | ⟨text, same⟩
      · rw [same]
        exact remap mapping
      · rw [same]
        exact report (.ofNotice text)
  | unregister name => exact unregister name
  | evict key component => exact evict key component
  | create found => exact create found
  | refuse implementation => exact refuse implementation
  | report entry => exact report entry _
  | enable sink => exact enable sink
  | furnish provider applicationRoot objects surroundings =>
      exact furnish provider applicationRoot objects surroundings

/-- One step from a moment to the next. -/
inductive Move : Moment → Moment → Prop where
  /-- The component in charge acts on its own. -/
  | quiet {frames : List Frame} {s t : Store}
      (change : Quiet (frames.head?.map Frame.id) s t) : Move ⟨frames, s⟩ ⟨frames, t⟩
  /-- The broker builds and caches an instance. -/
  | build {frames : List Frame} {s : Store} {key implementation : String}
      {name : Option String} {body : Body} (absent : s.cachedId? key = none)
      (assigned : s.Assigns key implementation name)
      (found : s.registry.bodyFor? implementation = some body) :
      Move ⟨frames, s⟩ ⟨frames, s.construct key implementation name body⟩
  /-- The broker hands over to a phase of a cached instance. -/
  | enter {frames : List Frame} {s : Store} {key : String} {id : Nat} {phase : Phase}
      (present : s.cachedId? key = some id) (admits : s.Admits key id phase) :
      Move ⟨frames, s⟩ ⟨⟨key, id, phase⟩ :: frames, s.openPhase key id phase⟩
  /-- The innermost phase ends.  An initializing one succeeds only when the instance is
  initialized. -/
  | leave {frames : List Frame} {s : Store} {key : String} {id : Nat} {phase : Phase}
      {result : Except PhaseFault Unit}
      (honest : phase ≠ .shutdown → result = .ok () → s.isReady id = true) :
      Move ⟨⟨key, id, phase⟩ :: frames, s⟩ ⟨frames, s.closePhase key id phase result⟩
  /-- The host changes something. -/
  | host {s t : Store} (change : HostChange s t) : Move ⟨[], s⟩ ⟨[], t⟩

/-- Any number of steps. -/
abbrev Moves : Moment → Moment → Prop := Relation.ReflTransGen Move

theorem Moves.quiet {frames : List Frame} {s t : Store}
    (change : Quiet (frames.head?.map Frame.id) s t) : Moves ⟨frames, s⟩ ⟨frames, t⟩ :=
  .single (.quiet change)

/-- A broker that nothing has been asked of yet. -/
structure Store.IsFresh (s : Store) : Prop where
  instances : s.instances = []
  cached : s.cached = []
  poisoned : s.poisoned = []
  stack : s.stack = []
  settling : s.settling = []
  journal : s.journal = []

/-- A moment in the history of a broker. -/
def Moment.Arises (moment : Moment) : Prop :=
  ∃ s, s.IsFresh ∧ Moves ⟨[], s⟩ moment

/-- What holds at the start and is kept by every step holds at every moment. -/
theorem Moment.Arises.induction {motive : Moment → Prop}
    (fresh : ∀ s : Store, s.IsFresh → motive ⟨[], s⟩)
    (move : ∀ before after, Move before after → motive before → motive after)
    {moment : Moment} (arises : moment.Arises) : motive moment := by
  obtain ⟨s, isFresh, moves⟩ := arises
  induction moves with
  | refl => exact fresh s isFresh
  | tail _ last inductionHypothesis => exact move _ _ last inductionHypothesis

theorem Moment.Arises.trans {before after : Moment} (arises : before.Arises)
    (moves : Moves before after) : after.Arises := by
  obtain ⟨s, isFresh, earlier⟩ := arises
  exact ⟨s, isFresh, earlier.trans moves⟩

end ServiceLifecycle
