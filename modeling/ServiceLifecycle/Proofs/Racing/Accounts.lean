/-
Module: ServiceLifecycle.Proofs.Racing.Accounts
Purpose: What a store tells about what has been tried for a key.
Main exports: Tally, tally, Store.Precedes, Store.Resembles, Store.InOrder, Store.Guarded
-/
import ServiceLifecycle.Proofs.Broker.Readiness
import ServiceLifecycle.Proofs.Racing.Threads

namespace ServiceLifecycle

/-!
While nobody holds the lock of a key, the store tells what has been tried so far: if there is no
instance, nothing has been, and if there is one that is neither initialized nor poisoned, its late
phase has not been started.  Most of what happens makes no difference to that, so that the store
resembles the one before.
-/

open Broker

/-- An instance has been built. -/
def Event.isBuilt : Event → Bool
  | .built _ _ _ _ => true
  | _ => false

/-- A late phase of a key has been started. -/
def Event.beginsLate (key : String) : Event → Bool
  | .started about _ .late => about == key
  | _ => false

/-- A late phase of a key has failed. -/
def Event.failsLate (key : String) : Event → Bool
  | .ended about _ .late false => about == key
  | _ => false

/-- How many instances have been built, and how many late phases of a key started and failed. -/
structure Tally where
  built : Nat
  begun : Nat
  failed : Nat
deriving Repr, Inhabited, DecidableEq

/-- The tally of a journal. -/
def tally (key : String) (journal : List Event) : Tally :=
  { built := journal.countP Event.isBuilt
    begun := journal.countP (Event.beginsLate key)
    failed := journal.countP (Event.failsLate key) }

section Tally

variable (key : String) (journal : List Event)

theorem tally_silent {event : Event} (unbuilt : event.isBuilt = false)
    (unbegun : event.beginsLate key = false) (unfailed : event.failsLate key = false) :
    tally key (event :: journal) = tally key journal := by
  simp [tally, unbuilt, unbegun, unfailed]

theorem tally_built (id : Nat) (implementation : String) (label : Option Nat)
    (about : Option String) :
    tally key (.built id implementation label about :: journal) =
      ⟨(tally key journal).built + 1, (tally key journal).begun, (tally key journal).failed⟩ := by
  simp [tally, List.countP_cons, Event.isBuilt, Event.beginsLate, Event.failsLate]

theorem tally_started (id : Nat) :
    tally key (.started key id .late :: journal) =
      ⟨(tally key journal).built, (tally key journal).begun + 1, (tally key journal).failed⟩ := by
  simp [tally, Event.isBuilt, Event.beginsLate, Event.failsLate]

theorem tally_failed (id : Nat) :
    tally key (.ended key id .late false :: journal) =
      ⟨(tally key journal).built, (tally key journal).begun, (tally key journal).failed + 1⟩ := by
  simp [tally, Event.isBuilt, Event.beginsLate, Event.failsLate]

end Tally

/-- What a built-in service has loaded does not matter to how it settles. -/
theorem settlesLast_of_kind {body other : Body} (same : other.kind = body.kind)
    (settles : other.SettlesLast) : body.SettlesLast := by
  cases other <;> cases body <;> cases same <;> exact settles

section Relations

variable {key implementation : String} {origin : Tally} {s t : Store}

/-- What threads can rely on from one store to a later one. -/
structure Store.Precedes (key : String) (s t : Store) : Prop where
  journal : s.journal <:+ t.journal
  cached : ∀ id, s.cachedId? key = some id → t.cachedId? key = some id
  ready : ∀ id, s.isReady id = true → t.isReady id = true

theorem Store.Precedes.refl (s : Store) : s.Precedes key s :=
  ⟨List.suffix_refl _, fun _ cached => cached, fun _ ready => ready⟩

theorem Store.Precedes.trans {u : Store} (first : s.Precedes key t) (second : t.Precedes key u) :
    s.Precedes key u :=
  ⟨first.journal.trans second.journal, fun id cached => second.cached id (first.cached id cached),
    fun id ready => second.ready id (first.ready id ready)⟩

/-- What the component behind an instance is, without what it has loaded. -/
def Store.kindOf? (s : Store) (id : Nat) : Option Body :=
  (s.instance? id).map fun component => component.body.kind

theorem Store.kindOf?_update (s : Store) (id : Nat) {change : Component → Component}
    (kept : ∀ component, (change component).body.kind = component.body.kind) (other : Nat) :
    (s.update id change).kindOf? other = s.kindOf? other :=
  s.map_instance?_update id kept other

/-- Two stores between which threads that call for a key see no difference. -/
structure Store.Resembles (key : String) (s t : Store) : Prop where
  journal : s.journal <:+ t.journal
  tally : tally key t.journal = tally key s.journal
  registry : t.registry = s.registry
  cached : t.cachedId? key = s.cachedId? key
  ready : ∀ id, t.isReady id = s.isReady id
  poisoned : t.isPoisoned key = s.isPoisoned key
  kinds : ∀ id, t.kindOf? id = s.kindOf? id

theorem Store.Resembles.refl (s : Store) : s.Resembles key s :=
  ⟨List.suffix_refl _, rfl, rfl, rfl, fun _ => rfl, rfl, fun _ => rfl⟩

theorem Store.Resembles.note (s : Store) {event : Event} (unbuilt : event.isBuilt = false)
    (unbegun : event.beginsLate key = false) (unfailed : event.failsLate key = false) :
    s.Resembles key (s.note event) :=
  ⟨List.suffix_cons _ _, tally_silent key _ unbuilt unbegun unfailed, rfl, rfl, fun _ => rfl, rfl,
    fun _ => rfl⟩

theorem Store.Remarked.resembles (remarked : s.Remarked t) : s.Resembles key t := by
  cases remarked with
  | nothing => exact .refl s
  | said label text => exact .note s rfl rfl rfl
  | reported entry =>
      refine ⟨List.suffix_cons _ _, ?_, rfl, rfl, fun _ => rfl, rfl, fun _ => rfl⟩
      exact tally_silent key _ rfl rfl rfl

theorem Store.Resembles.trans {u : Store} (first : s.Resembles key t)
    (second : t.Resembles key u) : s.Resembles key u :=
  ⟨first.journal.trans second.journal, second.tally.trans first.tally,
    second.registry.trans first.registry, second.cached.trans first.cached,
    fun id => (second.ready id).trans (first.ready id), second.poisoned.trans first.poisoned,
    fun id => (second.kinds id).trans (first.kinds id)⟩

theorem Store.Resembles.update (s : Store) (id : Nat) {change : Component → Component}
    (status : ∀ component, (change component).initialized = component.initialized)
    (kept : ∀ component, (change component).body.kind = component.body.kind) :
    s.Resembles key (s.update id change) :=
  ⟨List.suffix_refl _, rfl, rfl, rfl, s.isReady_update id status, rfl,
    s.kindOf?_update id kept⟩

theorem Store.resembles_enter (s : Store) (id : Nat) (phase : Phase) :
    s.Resembles key (s.enter id phase) := by
  have counted : s.Resembles key (s.update id fun component =>
      { component with calls := component.calls.next phase }) :=
    .update s id (fun _ => rfl) fun _ => rfl
  exact counted.trans (.note _ rfl rfl rfl)

theorem Store.kindOf?_mark (s : Store) (id other : Nat) :
    (s.mark id).kindOf? other = s.kindOf? other := by
  have marked : (s.mark id).kindOf? other =
      (s.update id fun component => { component with initialized := true }).kindOf? other := rfl
  rw [marked]
  apply s.kindOf?_update id
  intro component
  rfl

theorem Store.kindOf?_unmark (s : Store) (id other : Nat) :
    (s.unmark id).kindOf? other = s.kindOf? other := by
  rw [unmark]
  apply s.kindOf?_update id
  intro component
  rfl

/-- An instance that is not initialized can be unmarked, and nobody sees it. -/
theorem Store.resembles_unmark {id : Nat} (unready : s.isReady id = false) :
    s.Resembles key (s.unmark id) := by
  refine ⟨List.suffix_refl _, rfl, rfl, rfl, ?ready, rfl, kindOf?_unmark s id⟩
  intro other
  rw [isReady_unmark]
  by_cases same : other = id
  · rw [if_pos same, same, unready]
  · rw [if_neg same]

/-- A built-in service may load what it needs. -/
theorem Store.resembles_load {id : Nat} {body : Body} {surroundings : Surroundings}
    (held : s.kindOf? id = some body.kind) :
    s.Resembles key
      ({ s with surroundings }.update id fun component => { component with body }) := by
  refine ⟨List.suffix_refl _, rfl, rfl, rfl, ?ready, rfl, ?kinds⟩
  case ready => exact Store.isReady_update { s with surroundings } id fun _ => rfl
  case kinds =>
    intro other
    rw [kindOf?, instance?_update]
    split
    · rename_i same
      rw [← same, held, Option.map_map]
      obtain ⟨component, present, -⟩ := Option.map_eq_some_iff.mp held
      have there : Store.instance? { s with surroundings } id = some component := present
      rw [there]
      rfl
    · rfl

theorem Store.Resembles.precedes (resembles : s.Resembles key t) : s.Precedes key t :=
  ⟨resembles.journal, fun _ cached => resembles.cached.trans cached,
    fun id ready => (resembles.ready id).trans ready⟩

theorem Store.isFit_of_kindOf? {id : Nat} (same : t.kindOf? id = s.kindOf? id)
    (isFit : s.IsFit id) : t.IsFit id := by
  intro component present
  have kind : s.kindOf? id = some component.body.kind := by
    rw [← same, kindOf?, present]
    rfl
  obtain ⟨before, held, equal⟩ := Option.map_eq_some_iff.mp kind
  exact settlesLast_of_kind equal (isFit before held)

/-- What holds of the store at all times, counted from a tally on: no more than one instance has
been built and one late phase started, and none has failed if the instance is ready. -/
structure Store.InOrder (key implementation : String) (origin : Tally) (s : Store) : Prop where
  built : (tally key s.journal).built ≤ origin.built + 1
  begun : (tally key s.journal).begun ≤ origin.begun + 1
  unfailed : ∀ id, s.cachedId? key = some id → s.isReady id = true →
    (tally key s.journal).failed = origin.failed
  fits : ∀ id, s.cachedId? key = some id → s.IsFit id
  recipe : s.registry.IsFit implementation

theorem Store.InOrder.resembling (inOrder : s.InOrder key implementation origin)
    (resembles : s.Resembles key t) : t.InOrder key implementation origin := by
  constructor
  case built => exact resembles.tally ▸ inOrder.built
  case begun => exact resembles.tally ▸ inOrder.begun
  case unfailed =>
    intro id cached ready
    rw [resembles.cached] at cached
    rw [resembles.ready] at ready
    exact resembles.tally ▸ inOrder.unfailed id cached ready
  case fits =>
    intro id cached
    rw [resembles.cached] at cached
    exact Store.isFit_of_kindOf? (resembles.kinds id) (inOrder.fits id cached)
  case recipe => exact resembles.registry ▸ inOrder.recipe

/-- What holds of the store, besides, while nobody holds the lock of the key: where there is no
instance nothing has been tried, and where there is one that is neither initialized nor poisoned its
late phase has not been. -/
structure Store.Guarded (key : String) (origin : Tally) (s : Store) : Prop where
  absent : s.cachedId? key = none → tally key s.journal = origin
  pending : ∀ id, s.cachedId? key = some id → s.isReady id = false → s.isPoisoned key = false →
    (tally key s.journal).begun = origin.begun ∧ (tally key s.journal).failed = origin.failed

theorem Store.Guarded.resembling (guarded : s.Guarded key origin)
    (resembles : s.Resembles key t) : t.Guarded key origin := by
  constructor
  case absent =>
    intro absent
    rw [resembles.cached] at absent
    rw [resembles.tally]
    exact guarded.absent absent
  case pending =>
    intro id cached unready clean
    rw [resembles.cached] at cached
    rw [resembles.ready] at unready
    rw [resembles.poisoned] at clean
    rw [resembles.tally]
    exact guarded.pending id cached unready clean

/-- With an instance that is ready nothing is left to be done. -/
theorem Store.guarded_of_ready {id : Nat} (cached : s.cachedId? key = some id)
    (ready : s.isReady id = true) : s.Guarded key origin := by
  constructor
  case absent =>
    intro absent
    rw [absent] at cached
    cases cached
  case pending =>
    intro other present unready
    rw [cached] at present
    cases present
    rw [ready] at unready
    cases unready

/-- With a record of failure nothing is tried any more. -/
theorem Store.guarded_of_poisoned {id : Nat} (cached : s.cachedId? key = some id)
    (poisoned : s.isPoisoned key = true) : s.Guarded key origin := by
  constructor
  case absent =>
    intro absent
    rw [absent] at cached
    cases cached
  case pending =>
    intro other present unready clean
    rw [poisoned] at clean
    cases clean

theorem Store.isPoisoned_eq_false {s : Store} (clean : s.poisoned.get? key = none) :
    s.isPoisoned key = false := by
  rw [Store.isPoisoned, Entries.contains, clean]
  rfl

end Relations

end ServiceLifecycle
