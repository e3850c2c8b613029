/-
Module: ServiceLifecycle.Proofs.Resolution.Bookkeeping
Purpose: When a ledger tells what a store has, and which steps keep it so.
Main exports: Body.lateCourse?, Store.RealizesLazily, Store.IsUnused, Fits, Fits.openPhase,
  Fits.settle, Fits.spoil, instanceFor_fits
-/
import ServiceLifecycle.Proofs.Broker.FailureRecord
import ServiceLifecycle.Proofs.Resolution.Ledger
import ServiceLifecycle.Proofs.Startup.DepthFirst

namespace ServiceLifecycle

/-!
A broker realizes a graph lazily when what it would build for each key asks in its late phase
for what it needs to be ready, in order, passes every failure on, and then marks itself or
fails.  While such a broker is at work, a ledger tells what its store has: which late phases
are in progress, which keys are initialized and which are poisoned, and what the journal has
about all of them.
-/

open Broker

/-- What a body does in its late phase, if it performs actions only. -/
def Body.lateCourse? : Body → Option Course
  | .plain => some (.straight [.mark])
  | .scripted script => some (script.plan {} .late).2.2
  | _ => none

/-- What a component does when it is first needed: it asks for all that it needs to be ready,
and comes to its end. -/
def Node.resolving (node : Node) : List Action :=
  node.needs.map (fun key => .resolve key .propagate) ++ [node.ending]

/-- What is built for the keys does in its late phase as a graph says, as long as no call fails. -/
structure Store.RealizesLazily (s : Store) (graph : Graph) : Prop where
  unknown : ∀ key, graph key = none → s.bodyOf? key = none
  known : ∀ key node, graph key = some node →
    ∃ body, s.bodyOf? key = some body ∧ body.lateCourse?.map Course.smooth = some node.resolving

/-- Nothing has been asked of the broker, and components can reach it. -/
structure Store.IsUnused (s : Store) : Prop where
  cached : s.cached = []
  poisoned : s.poisoned = []
  settling : s.settling = []
  reachable : s.reachable = true

/-- What the broker has been given is what it had been given in an earlier store, and instances
are what was to be built for their keys then. -/
structure Store.IsIntact (s base : Store) : Prop where
  registry : s.registry = base.registry
  mapping : s.mapping = base.mapping
  reachable : s.reachable = true
  adheres : s.AdheresTo fun key body => base.bodyOf? key = some body

/-- The late phase of a key starts. -/
def Event.taken? : Event → Option String
  | .started key _ .late => some key
  | _ => none

/-- The late phase of a key fails. -/
def Event.spoiled? : Event → Option String
  | .ended key _ .late false => some key
  | _ => none

/-- What has been written into the journal since an earlier store is what the ledger has. -/
structure Ledger.IsRecorded (base s : Store) (ledger : Ledger) (events : List Event) : Prop where
  grown : s.journal = events ++ base.journal
  taken : (events.filterMap Event.taken?).Perm ledger.begun
  marked : (events.filterMap Event.marked?).map some = ledger.ready.map s.cachedId?
  spoiled : events.filterMap Event.spoiled? = ledger.spoiled

/-- The ledger tells what the store has. -/
structure Fits (base s : Store) (ledger : Ledger) : Prop where
  intact : s.IsIntact base
  settling : s.settling = ledger.active
  initialized : ∀ key, s.isInitialized key = true ↔ key ∈ ledger.ready
  poisoned : ∀ key, s.isPoisoned key = true ↔ key ∈ ledger.spoiled
  journal : ∃ events, ledger.IsRecorded base s events

namespace Fits

variable {base s : Store} {ledger : Ledger} {key : String} {id : Nat}

/-- Nothing has happened yet. -/
theorem start (unused : base.IsUnused) : Fits base base {} := by
  have absent : ∀ key, base.cachedId? key = none := by
    intro key
    rw [Store.cachedId?, unused.cached]
    rfl
  constructor
  case intact =>
    refine ⟨rfl, rfl, unused.reachable, ?_, ?_⟩
    · intro key other id present
      rw [absent key] at present
      cases present
    · intro key id present
      rw [absent key] at present
      cases present
  case settling => exact unused.settling
  case initialized =>
    intro key
    rw [Store.isInitialized, absent key]
    simp
  case poisoned =>
    intro key
    rw [Store.isPoisoned, unused.poisoned]
    simp [Entries.contains]
  case journal => exact ⟨[], rfl, .nil, rfl, rfl⟩

theorem isReady_iff (fits : Fits base s ledger) (present : s.cachedId? key = some id) :
    s.isReady id = true ↔ key ∈ ledger.ready := by
  rw [← fits.initialized key, Store.isInitialized_of_cachedId? present]

theorem cachedId?_of_ready (fits : Fits base s ledger) (member : key ∈ ledger.ready) :
    ∃ id, s.cachedId? key = some id ∧ s.isReady id = true :=
  Store.isInitialized_iff.mp ((fits.initialized key).mpr member)

/-- What is built for a key is what would have been built for it at the start. -/
theorem bodyOf?_eq (fits : Fits base s ledger) (key : String) :
    s.bodyOf? key = base.bodyOf? key := by
  rw [Store.bodyOf?, Store.assigned?, fits.intact.registry, fits.intact.mapping]
  rfl

theorem knownKeys_eq (fits : Fits base s ledger) : s.knownKeys = base.knownKeys := by
  rw [Store.knownKeys, Store.knownKeys, fits.intact.registry, fits.intact.mapping]

/-- An event is noted that the ledger does not care about. -/
theorem note {event : Event} (fits : Fits base s ledger) (untaken : event.taken? = none)
    (unmarked : event.marked? = none) (unspoiled : event.spoiled? = none) :
    Fits base (s.note event) ledger := by
  obtain ⟨⟨registry, mapping, reachable, adheres⟩, settling, initialized, poisoned, events,
    recorded⟩ := fits
  refine ⟨⟨registry, mapping, reachable, adheres.change rfl fun _ => rfl⟩, settling, initialized,
    poisoned, event :: events, ?_⟩
  constructor
  case grown => rw [Store.note, recorded.grown]; rfl
  case taken => rw [List.filterMap_cons, untaken]; exact recorded.taken
  case marked => rw [List.filterMap_cons, unmarked]; exact recorded.marked
  case spoiled => rw [List.filterMap_cons, unspoiled]; exact recorded.spoiled

/-- The instance of a key is built. -/
theorem construct {implementation : String} {name : Option String} {body : Body}
    (fits : Fits base s ledger) (absent : s.cachedId? key = none)
    (buildable : base.bodyOf? key = some body) :
    Fits base (s.construct key implementation name body) ledger := by
  have unready : key ∉ ledger.ready := by
    intro member
    obtain ⟨id, present, -⟩ := fits.cachedId?_of_ready member
    rw [absent] at present
    cases present
  obtain ⟨⟨registry, mapping, reachable, adheres⟩, settling, initialized, poisoned, events,
    recorded⟩ := fits
  refine ⟨⟨registry, mapping, reachable, adheres.construct buildable⟩, settling, ?_, poisoned,
    .cached key s.instances.length ::
      .built s.instances.length implementation (s.nextLabel body) (some key) :: events, ?_⟩
  · intro other
    rw [Store.isInitialized_construct _ _ _ _ _ absent]
    exact initialized other
  · constructor
    case grown => rw [Store.journal_construct, recorded.grown]; rfl
    case taken => exact recorded.taken
    case marked =>
      refine recorded.marked.trans (List.map_congr_left fun other member => ?_)
      have different : other ≠ key := by
        rintro rfl
        exact unready member
      rw [Store.cachedId?_construct, if_neg different]
    case spoiled => exact recorded.spoiled

/-- The broker hands over to the late phase of a key. -/
theorem openPhase (fits : Fits base s ledger) (key : String) (id : Nat) :
    Fits base (s.openPhase key id .late) (ledger.take key) := by
  obtain ⟨⟨registry, mapping, reachable, adheres⟩, settling, initialized, poisoned, events,
    recorded⟩ := fits
  refine ⟨⟨registry, mapping, reachable, adheres.change rfl fun _ => rfl⟩,
    congrArg (key :: ·) settling, initialized, poisoned, .started key id .late :: events, ?_⟩
  constructor
  case grown => rw [journal_openPhase, recorded.grown]; rfl
  case taken => exact recorded.taken.cons key
  case marked => exact recorded.marked
  case spoiled => exact recorded.spoiled

/-- An instance changes in something that does not matter. -/
theorem update {change : Component → Component} (fits : Fits base s ledger)
    (plan : ∀ component, (change component).plan = component.plan)
    (status : ∀ component, (change component).initialized = component.initialized) :
    Fits base (s.update id change) ledger := by
  obtain ⟨⟨registry, mapping, reachable, adheres⟩, settling, initialized, poisoned, events,
    recorded⟩ := fits
  refine ⟨⟨registry, mapping, reachable, adheres.change rfl (Store.plan_update plan)⟩, settling,
    fun key => ?_, poisoned, events, recorded.grown, recorded.taken, recorded.marked,
    recorded.spoiled⟩
  rw [Store.isInitialized_update status]
  exact initialized key

/-- A scripted component counts and logs that it enters a phase. -/
theorem enter (fits : Fits base s ledger) (id : Nat) (phase : Phase) :
    Fits base (s.enter id phase) ledger := by
  have counted : Fits base
      (s.update id fun component => { component with calls := component.calls.next phase })
      ledger := fits.update (fun _ => rfl) fun _ => rfl
  exact counted.note rfl rfl rfl

/-- The component of the innermost key marks itself and its late phase ends. -/
theorem settle {rest : List String} (fits : Fits base s ledger)
    (present : s.cachedId? key = some id) (active : ledger.active = key :: rest) :
    Fits base ((s.mark id).closePhase key id .late (.ok ())) (ledger.settle key) := by
  obtain ⟨⟨registry, mapping, reachable, adheres⟩, settling, initialized, poisoned, events,
    recorded⟩ := fits
  obtain ⟨component, found, -⟩ := adheres.held present
  have plan : ∀ other, (((s.mark id).closePhase key id .late (.ok ())).instance? other).map
      Component.plan = (s.instance? other).map Component.plan := Store.plan_update fun _ => rfl
  refine ⟨⟨registry, mapping, reachable, adheres.change rfl plan⟩, congrArg List.tail settling,
    fun other => ?_, poisoned, .ended key id .late true :: .marked id :: events, ?_⟩
  · have there : (s.instance? id).isSome = true := by rw [found]; rfl
    have own : ∀ name, s.cachedId? name = some id → name = key :=
      fun name same => adheres.distinct same present
    have closed : ((s.mark id).closePhase key id .late (.ok ())).isInitialized other =
        (s.mark id).isInitialized other := rfl
    rw [closed, Store.isInitialized_mark present there own, initialized other]
    exact List.mem_cons.symm
  · constructor
    case grown => rw [journal_closePhase, Store.mark, Store.note, Store.update, recorded.grown]; rfl
    case taken => exact recorded.taken.trans (Ledger.begun_settle active)
    case marked =>
      have marks : (Event.ended key id .late true :: .marked id :: events).filterMap
          Event.marked? = id :: events.filterMap Event.marked? := rfl
      have named : ((s.mark id).closePhase key id .late (.ok ())).cachedId? = s.cachedId? := rfl
      rw [marks, named, Ledger.settle, List.map_cons, List.map_cons, recorded.marked, present]
    case spoiled => exact recorded.spoiled

/-- The late phase of the innermost key ends with a fault. -/
theorem spoil {rest : List String} {fault : PhaseFault} (fits : Fits base s ledger) (id : Nat)
    (active : ledger.active = key :: rest) :
    Fits base (s.closePhase key id .late (.error fault)) (ledger.spoil key) := by
  obtain ⟨⟨registry, mapping, reachable, adheres⟩, settling, initialized, poisoned, events,
    recorded⟩ := fits
  refine ⟨⟨registry, mapping, reachable, adheres.change rfl fun _ => rfl⟩,
    congrArg List.tail settling, initialized, fun other => ?_,
    .ended key id .late false :: events, ?_⟩
  · rw [isPoisoned_closePhase, Ledger.spoil, List.mem_cons, ← poisoned other]
    by_cases same : key = other
    · simp [Event.poisons?, same, Except.isOk, Except.toBool]
    · simp [Event.poisons?, Except.isOk, Except.toBool, same, Ne.symm same]
  · constructor
    case grown => rw [journal_closePhase, recorded.grown]; rfl
    case taken => exact recorded.taken.trans (Ledger.begun_spoil active)
    case marked => exact recorded.marked
    case spoiled => exact congrArg (key :: ·) recorded.spoiled

end Fits

end ServiceLifecycle
