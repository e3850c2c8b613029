/-
Module: ServiceLifecycle.Proofs.Startup.Tracking
Purpose: When a store is where a search has come to, and which steps keep it there.
Main exports: Body.Follows, Store.Realizes, Store.IsPlanned, Records, Tracks, instanceFor_tracks
-/
import ServiceLifecycle.Proofs.Startup.Search

namespace ServiceLifecycle

/-!
A broker realizes a graph when what it would build for each key does what the graph says:
it has the keys that it needs initialized early, in order, and passes every failure on,
and then it marks itself or fails.  While such a broker is at work, its store tracks the
progress of a search.  Every single step of the broker and its components has a lemma
here that says what it does to the progress.
-/

open Broker

/-- What a body does in its early phase, if it performs actions only. -/
def Body.earlyCourse? : Body → Option Course
  | .plain => some (.straight [.mark])
  | .scripted script => some (script.plan {} .early).2.2
  | _ => none

/-- The action by which a component comes to its end. -/
def Node.ending (node : Node) : Action :=
  match node.fault with
  | none => .mark
  | some (.failed message cause) => .fail message cause
  | some (.nested fault) => .failBroker fault

/-- What a component does: it has all that it needs initialized, and comes to its end. -/
def Node.actions (node : Node) : List Action :=
  node.needs.map (fun key => .early key .propagate) ++ [node.ending]

/-- As long as no call fails, the early phase of a body is that of a component in a graph. -/
def Body.Follows (body : Body) (node : Node) : Prop :=
  body.earlyCourse?.map Course.smooth = some node.actions

/-- What is built for the keys is as in a graph. -/
def Store.Realizes (s : Store) (graph : Graph) : Prop :=
  ∀ key, match graph key with
    | none => s.bodyOf? key = none
    | some node => ∃ body, s.bodyOf? key = some body ∧ body.Follows node

theorem Store.Realizes.of_known {s : Store} {graph : Graph} {key : String} {node : Node}
    (realizes : s.Realizes graph) (known : graph key = some node) :
    ∃ body, s.bodyOf? key = some body ∧ body.Follows node := by
  have realized := realizes key
  rw [known] at realized
  exact realized

theorem Store.Realizes.of_bodyOf? {s : Store} {graph : Graph} {key : String} {body : Body}
    (realizes : s.Realizes graph) (found : s.bodyOf? key = some body) :
    ∃ node, graph key = some node ∧ body.Follows node := by
  have realized := realizes key
  cases known : graph key with
  | none =>
      rw [known, found] at realized
      cases realized
  | some node =>
      obtain ⟨other, same, follows⟩ := realizes.of_known known
      rw [found] at same
      cases same
      exact ⟨node, rfl, follows⟩

/-- Nothing has been constructed, and components can reach their broker. -/
structure Store.IsBare (s : Store) : Prop where
  cached : s.cached = []
  stack : s.stack = []
  reachable : s.reachable = true

/-- What an instance has to keep so that everything stays as planned. -/
def Component.plan (component : Component) : Body × Bool :=
  (component.body, component.owned)

theorem Store.plan_update {s : Store} {id : Nat} {change : Component → Component}
    (same : ∀ component, (change component).plan = component.plan) (other : Nat) :
    ((s.update id change).instance? other).map Component.plan =
      (s.instance? other).map Component.plan := by
  rw [instance?_update]
  split
  · rw [Option.map_map]
    exact Option.map_congr fun component _ => same component
  · rfl

/-- No two keys share an instance, and the instance of each key belongs to the broker and has a
body that is planned for the key. -/
structure Store.AdheresTo (plan : String → Body → Prop) (s : Store) : Prop where
  distinct : ∀ {key other : String} {id : Nat}, s.cachedId? key = some id →
    s.cachedId? other = some id → key = other
  held : ∀ {key : String} {id : Nat}, s.cachedId? key = some id →
    ∃ component, s.instance? id = some component ∧ component.owned = true ∧
      plan key component.body

namespace Store.AdheresTo

variable {plan : String → Body → Prop} {s t : Store}

theorem change (adheres : s.AdheresTo plan) (cached : t.cached = s.cached)
    (same : ∀ id, (t.instance? id).map Component.plan = (s.instance? id).map Component.plan) :
    t.AdheresTo plan := by
  have search : ∀ key, t.cachedId? key = s.cachedId? key := by
    intro key
    rw [Store.cachedId?, cached]
    rfl
  constructor
  case distinct =>
    intro key other id present again
    rw [search] at present again
    exact adheres.distinct present again
  case held =>
    intro key id present
    rw [search] at present
    obtain ⟨component, found, owned, planned⟩ := adheres.held present
    have kept := same id
    rw [found] at kept
    obtain ⟨now, there, equal⟩ := Option.map_eq_some_iff.mp kept
    obtain ⟨body, owner⟩ := Prod.mk.injEq .. ▸ equal
    exact ⟨now, there, owner.trans owned, body.symm ▸ planned⟩

/-- The number of a new instance is no other's. -/
theorem construct {key implementation : String} {name : Option String} {body : Body}
    (adheres : s.AdheresTo plan) (planned : plan key body) :
    (s.construct key implementation name body).AdheresTo plan := by
  have old : ∀ {other : String} {id : Nat}, s.cachedId? other = some id →
      id ≠ s.instances.length := by
    intro other id present
    obtain ⟨component, found, -⟩ := adheres.held present
    have within := (List.getElem?_eq_some_iff.mp found).1
    omega
  constructor
  case distinct =>
    intro one other id present again
    rw [Store.cachedId?_construct] at present again
    split at present
    · rename_i first
      split at again
      · rename_i second
        exact first.trans second.symm
      · exact absurd (Option.some.inj present).symm (old again)
    · split at again
      · exact absurd (Option.some.inj again).symm (old present)
      · exact adheres.distinct present again
  case held =>
    intro other id present
    rw [Store.cachedId?_construct] at present
    split at present
    · rename_i same
      cases present
      refine ⟨s.newComponent implementation name body, ?_, rfl, same ▸ planned⟩
      rw [Store.instance?_construct, if_pos rfl]
    · obtain ⟨component, found, rest⟩ := adheres.held present
      refine ⟨component, ?_, rest⟩
      rw [Store.instance?_construct, if_neg (old present)]
      exact found

end Store.AdheresTo

/-- What the broker has been given is what it had been given in an earlier store, and its
instances are components of the graph. -/
structure Store.IsPlanned (graph : Graph) (s base : Store) : Prop where
  registry : s.registry = base.registry
  mapping : s.mapping = base.mapping
  provider : s.provider = base.provider
  reachable : s.reachable = true
  deployments : ∀ id, s.deploymentOf? id = base.deploymentOf? id
  distinct : ∀ {key other : String} {id : Nat}, s.cachedId? key = some id →
    s.cachedId? other = some id → key = other
  follows : ∀ {key : String} {id : Nat}, s.cachedId? key = some id →
    ∃ component node, s.instance? id = some component ∧ component.owned = true ∧
      graph key = some node ∧ component.body.Follows node

/-- The instances are components of the graph. -/
theorem Store.IsPlanned.adheres {graph : Graph} {base s : Store}
    (planned : s.IsPlanned graph base) :
    s.AdheresTo fun key body => ∃ node, graph key = some node ∧ body.Follows node := by
  refine ⟨planned.distinct, fun present => ?_⟩
  obtain ⟨component, node, held, owned, known, follows⟩ := planned.follows present
  exact ⟨component, held, owned, node, known, follows⟩

theorem Store.IsPlanned.change {graph : Graph} {base s t : Store} (planned : s.IsPlanned graph base)
    (registry : t.registry = s.registry) (mapping : t.mapping = s.mapping)
    (provider : t.provider = s.provider) (reachable : t.reachable = s.reachable)
    (cached : t.cached = s.cached)
    (plan : ∀ id, (t.instance? id).map Component.plan = (s.instance? id).map Component.plan) :
    t.IsPlanned graph base := by
  have adheres := planned.adheres.change cached plan
  constructor
  case registry => exact registry.trans planned.registry
  case mapping => exact mapping.trans planned.mapping
  case provider => exact provider.trans planned.provider
  case reachable => exact reachable.trans planned.reachable
  case deployments =>
    intro id
    have served : ∀ u : Store, u.deploymentOf? id = ((u.instance? id).map Component.plan).bind
        fun plan => ({ body := plan.1 } : Component).deployment? := by
      intro u
      rw [Store.deploymentOf?, Option.bind_map]
      rfl
    rw [← planned.deployments id, served t, served s, plan id]
  case distinct => exact adheres.distinct
  case follows =>
    intro key id present
    obtain ⟨component, held, owned, node, known, follows⟩ := adheres.held present
    exact ⟨component, node, held, owned, known, follows⟩

/-- A phase of the early initialization of a key starts. -/
def Event.begun? : Event → Option String
  | .started key _ .early => some key
  | _ => none

def Event.marked? : Event → Option Nat
  | .marked id => some id
  | _ => none

def Event.diagnostic? : Event → Option Diagnostic
  | .reported entry => some entry
  | _ => none

/-- The errors among the diagnostics of a journal. -/
def errorsIn (journal : List Event) : List Diagnostic :=
  (journal.filterMap Event.diagnostic?).filter fun entry => entry.severity = .error

/-- What has been written into the journal since an earlier store is what a search has done,
and the diagnostics in it have gone through the channel. -/
structure Records (base s : Store) (p : Progress) (events : List Event) : Prop where
  grown : s.journal = events ++ base.journal
  begun : events.filterMap Event.begun? = p.begun
  marked : (events.filterMap Event.marked?).map some = p.ready.map s.cachedId?
  errors : errorsIn events = p.errors
  channel : s.channel = (events.filterMap Event.diagnostic?).foldr
    (fun entry channel => channel.record entry) base.channel

/-- The store is where the search has come to. -/
structure Tracks (graph : Graph) (base s : Store) (p : Progress) : Prop where
  planned : s.IsPlanned graph base
  stack : s.stack = p.stack
  held : ∀ key ∈ p.stack, key ∈ p.built
  constructed : ∀ key, s.isConstructed key = true ↔ key ∈ p.built
  initialized : ∀ key, s.isInitialized key = true ↔ key ∈ p.ready
  journal : ∃ events, Records base s p events

namespace Tracks

variable {graph : Graph} {base s : Store} {p : Progress}

/-- A search has come to nothing yet. -/
theorem start (bare : base.IsBare) : Tracks graph base base {} := by
  have absent : ∀ key, base.cachedId? key = none := by
    intro key
    rw [Store.cachedId?, bare.cached]
    rfl
  constructor
  case planned =>
    refine ⟨rfl, rfl, rfl, bare.reachable, fun _ => rfl, ?_, ?_⟩
    · intro key other id present
      rw [absent key] at present
      cases present
    · intro key id present
      rw [absent key] at present
      cases present
  case stack => exact bare.stack
  case held => exact fun _ member => absurd member List.not_mem_nil
  case constructed =>
    intro key
    rw [Store.isConstructed, bare.cached]
    simp [Entries.contains]
  case initialized =>
    intro key
    rw [Store.isInitialized, absent key]
    simp
  case journal => exact ⟨[], rfl, rfl, rfl, rfl, rfl⟩

theorem isReady_iff {key : String} {id : Nat} (tracks : Tracks graph base s p)
    (present : s.cachedId? key = some id) : s.isReady id = true ↔ key ∈ p.ready := by
  rw [← tracks.initialized key, Store.isInitialized, present]
  rfl

theorem mem_built {key : String} {id : Nat} (tracks : Tracks graph base s p)
    (present : s.cachedId? key = some id) : key ∈ p.built := by
  have some : (s.cachedId? key).isSome = true := by rw [present]; rfl
  exact (tracks.constructed key).mp some

theorem cachedId?_of_mem_built {key : String} (tracks : Tracks graph base s p)
    (member : key ∈ p.built) : ∃ id, s.cachedId? key = some id :=
  Option.isSome_iff_exists.mp ((tracks.constructed key).mpr member)

theorem mem_built_of_ready {key : String} (tracks : Tracks graph base s p)
    (member : key ∈ p.ready) : key ∈ p.built := by
  have ready := (tracks.initialized key).mpr member
  cases present : s.cachedId? key with
  | none =>
      rw [Store.isInitialized, present] at ready
      exact absurd ready Bool.false_ne_true
  | some id => exact tracks.mem_built present

/-- The stack changes. -/
theorem restack {keys : List String} (tracks : Tracks graph base s p)
    (held : ∀ key ∈ keys, key ∈ p.built) :
    Tracks graph base { s with stack := keys } { p with stack := keys } := by
  obtain ⟨planned, -, -, constructed, initialized, events, records⟩ := tracks
  exact ⟨planned.change rfl rfl rfl rfl rfl fun _ => rfl, rfl, held, constructed, initialized,
    events, records.grown, records.begun, records.marked, records.errors, records.channel⟩

/-- An event that is neither a mark nor a diagnostic is noted. -/
theorem note {event : Event} (tracks : Tracks graph base s p) (unmarked : event.marked? = none)
    (silent : event.diagnostic? = none) :
    Tracks graph base (s.note event) { p with begun := event.begun?.toList ++ p.begun } := by
  obtain ⟨planned, stack, held, constructed, initialized, events, records⟩ := tracks
  refine ⟨planned.change rfl rfl rfl rfl rfl fun _ => rfl, stack, held, constructed, initialized,
    event :: events, ?_⟩
  constructor
  case grown => rw [Store.note, records.grown]; rfl
  case begun =>
    rw [List.filterMap_cons, records.begun]
    cases event.begun? <;> rfl
  case marked =>
    rw [List.filterMap_cons, unmarked]
    exact records.marked
  case errors =>
    rw [errorsIn, List.filterMap_cons, silent]
    exact records.errors
  case channel =>
    rw [List.filterMap_cons, silent]
    exact records.channel

/-- A diagnostic is reported. -/
theorem report (entry : Diagnostic) (tracks : Tracks graph base s p) :
    Tracks graph base (s.report entry)
      { p with errors := [entry].filter (fun entry => entry.severity = .error) ++ p.errors } := by
  obtain ⟨planned, stack, held, constructed, initialized, events, records⟩ := tracks
  refine ⟨planned.change rfl rfl rfl rfl rfl fun _ => rfl, stack, held, constructed, initialized,
    .reported entry :: events, ?_⟩
  constructor
  case grown => rw [Store.report, Store.note, records.grown]; rfl
  case begun => exact records.begun
  case marked => exact records.marked
  case errors =>
    have split : Event.reported entry :: events = [.reported entry] ++ events := rfl
    rw [errorsIn, split, List.filterMap_append, List.filter_append, ← records.errors]
    rfl
  case channel =>
    rw [Store.report, Store.note, records.channel]
    rfl

theorem notice (text : String) (tracks : Tracks graph base s p) :
    Tracks graph base (s.notice text) p :=
  tracks.report (.ofNotice text)

theorem clearPoison (key : String) (tracks : Tracks graph base s p) :
    Tracks graph base (s.clearPoison key) p := by
  obtain ⟨planned, stack, held, constructed, initialized, events, records⟩ := tracks
  exact ⟨planned.change rfl rfl rfl rfl rfl fun _ => rfl, stack, held, constructed, initialized,
    events, records.grown, records.begun, records.marked, records.errors, records.channel⟩

/-- An instance changes in something that does not matter. -/
theorem update {id : Nat} {change : Component → Component} (tracks : Tracks graph base s p)
    (plan : ∀ component, (change component).plan = component.plan)
    (status : ∀ component, (change component).initialized = component.initialized) :
    Tracks graph base (s.update id change) p := by
  obtain ⟨planned, stack, held, constructed, initialized, events, records⟩ := tracks
  refine ⟨planned.change rfl rfl rfl rfl rfl (Store.plan_update plan), stack, held, constructed,
    fun key => ?_, events, records.grown, records.begun, records.marked, records.errors,
    records.channel⟩
  rw [Store.isInitialized_update status]
  exact initialized key

/-- The instance of a key becomes initialized. -/
theorem mark {key : String} {id : Nat} (tracks : Tracks graph base s p)
    (present : s.cachedId? key = some id) :
    Tracks graph base (s.mark id) { p with ready := key :: p.ready } := by
  obtain ⟨planned, stack, held, constructed, initialized, events, records⟩ := tracks
  obtain ⟨component, -, found, -⟩ := planned.follows present
  have plan : ∀ other, ((s.mark id).instance? other).map Component.plan =
      (s.instance? other).map Component.plan := Store.plan_update fun _ => rfl
  refine ⟨planned.change rfl rfl rfl rfl rfl plan, stack, held, constructed, ?_,
    .marked id :: events, ?_⟩
  · intro other
    have own : ∀ name, s.cachedId? name = some id → name = key :=
      fun name same => planned.distinct same present
    have there : (s.instance? id).isSome = true := by rw [found]; rfl
    rw [Store.isInitialized_mark present there own, List.mem_cons, initialized other]
  · constructor
    case grown => rw [Store.mark, Store.note, Store.update, records.grown]; rfl
    case begun => exact records.begun
    case marked =>
      have marks : (Event.marked id :: events).filterMap Event.marked? =
          id :: events.filterMap Event.marked? := rfl
      have named : (s.mark id).cachedId? = s.cachedId? := rfl
      rw [marks, List.map_cons, List.map_cons, records.marked, named, present]
    case errors => exact records.errors
    case channel => exact records.channel

theorem build_of_mem {key : String} (tracks : Tracks graph base s p) (member : key ∈ p.built) :
    Tracks graph base s (p.build key) := by
  obtain ⟨planned, stack, held, constructed, initialized, events, records⟩ := tracks
  refine ⟨planned, stack, fun other on => List.mem_cons_of_mem _ (held other on), ?_, initialized,
    events, records.grown, records.begun, records.marked, records.errors, records.channel⟩
  intro other
  rw [constructed other, Progress.build, List.mem_cons]
  constructor
  · exact fun already => .inr already
  · rintro (rfl | already)
    · exact member
    · exact already

/-- What is built for a key is what the search was told. -/
theorem bodyOf?_eq (tracks : Tracks graph base s p) (key : String) :
    s.bodyOf? key = base.bodyOf? key := by
  have planned := tracks.planned
  rw [Store.bodyOf?, Store.assigned?, planned.registry, planned.mapping]
  rfl

section Construct

variable {key implementation : String} {name : Option String} {body : Body} {node : Node}

theorem planned_construct (tracks : Tracks graph base s p) (known : graph key = some node)
    (follows : body.Follows node) :
    (s.construct key implementation name body).IsPlanned graph base := by
  have planned := tracks.planned
  have adheres : (s.construct key implementation name body).AdheresTo _ :=
    planned.adheres.construct ⟨node, known, follows⟩
  constructor
  case registry => exact planned.registry
  case mapping => exact planned.mapping
  case provider => exact planned.provider
  case reachable => exact planned.reachable
  case deployments =>
    intro id
    rw [← planned.deployments id, Store.deploymentOf?, Store.deploymentOf?,
      Store.instance?_construct]
    split
    · rename_i last
      have absent : s.instance? id = none := List.getElem?_eq_none (by omega)
      rw [absent]
      cases body with
      | configuration loaded => cases follows
      | _ => rfl
    · rfl
  case distinct => exact adheres.distinct
  case follows =>
    intro other id present
    obtain ⟨component, held, owned, node, known, follows⟩ := adheres.held present
    exact ⟨component, node, held, owned, known, follows⟩

/-- The instance of a key is built. -/
theorem construct (tracks : Tracks graph base s p) (absent : s.cachedId? key = none)
    (known : graph key = some node) (follows : body.Follows node) :
    Tracks graph base (s.construct key implementation name body) (p.build key) := by
  have planned : (s.construct key implementation name body).IsPlanned graph base :=
    tracks.planned_construct known follows
  have unready : key ∉ p.ready := by
    intro member
    obtain ⟨id, present⟩ := tracks.cachedId?_of_mem_built (tracks.mem_built_of_ready member)
    rw [absent] at present
    cases present
  obtain ⟨-, stack, held, constructed, initialized, events, records⟩ := tracks
  refine ⟨planned, stack, fun other on => List.mem_cons_of_mem _ (held other on),
    ?_, ?_, .cached key s.instances.length ::
      .built s.instances.length implementation (s.nextLabel body) (some key) :: events, ?_⟩
  · intro other
    have search : (s.construct key implementation name body).isConstructed other =
        ((s.construct key implementation name body).cachedId? other).isSome := rfl
    rw [search, Store.cachedId?_construct, Progress.build, List.mem_cons, ← constructed other]
    by_cases same : other = key
    · simp [same]
    · simp only [same, if_false, false_or]
      rfl
  · intro other
    rw [Store.isInitialized_construct _ _ _ _ _ absent]
    exact initialized other
  · constructor
    case grown => rw [Store.journal_construct, records.grown]; rfl
    case begun => exact records.begun
    case marked =>
      refine records.marked.trans (List.map_congr_left fun other member => ?_)
      have different : other ≠ key := by
        rintro rfl
        exact unready member
      rw [Store.cachedId?_construct, if_neg different]
    case errors => exact records.errors
    case channel => exact records.channel

end Construct

end Tracks

/-- Instances are not taken away from their keys. -/
def Store.Keeps (s t : Store) : Prop :=
  ∀ {key : String} {id : Nat}, s.cachedId? key = some id → t.cachedId? key = some id

/-- How the search for the instance of a key ends, by what the graph has for the key. -/
inductive InstanceTracked (graph : Graph) (base : Store) (key : String) (s : Store) (p : Progress) :
    Except BrokerFault Nat → Store → Prop where
  | unknown {fault : BrokerFault} {t : Store} (nothing : graph key = none)
      (unresolved : fault.IsUnresolved key) (tracks : Tracks graph base t p) :
      InstanceTracked graph base key s p (.error fault) t
  | known {id : Nat} {node : Node} {t : Store} (known : graph key = some node)
      (present : t.cachedId? key = some id) (tracks : Tracks graph base t (p.build key))
      (already : key ∈ p.built → t = s) : InstanceTracked graph base key s p (.ok id) t

theorem instanceFor_tracks {graph : Graph} {base s : Store} {p : Progress} {key : String}
    (realizes : base.Realizes graph) (tracks : Tracks graph base s p) :
    ∃ result t, instanceFor key s = .finished (result, t) ∧ s.Keeps t ∧
      InstanceTracked graph base key s p result t := by
  obtain ⟨result, t, finished, ending⟩ := instanceFor_ends key s
  refine ⟨result, t, finished, ?_⟩
  cases ending with
  | @cached id present =>
      obtain ⟨_, node, -, -, known, -⟩ := tracks.planned.follows present
      have built := tracks.build_of_mem (tracks.mem_built present)
      exact ⟨fun present => present, .known known present built fun _ => rfl⟩
  | @unbuildable fault t absent nothing unresolved remark =>
      have unknown : graph key = none := by
        cases known : graph key with
        | none => rfl
        | some node =>
            obtain ⟨body, found, -⟩ := realizes.of_known known
            rw [← tracks.bodyOf?_eq, nothing] at found
            cases found
      rcases remark with rfl | ⟨implementation, rfl⟩
      · exact ⟨fun present => present, .unknown unknown unresolved tracks⟩
      · have unmarked : (Event.refused implementation).marked? = none := rfl
        exact ⟨fun present => present, .unknown unknown unresolved (tracks.note unmarked rfl)⟩
  | @built implementation name body absent assigned found =>
      have buildable : base.bodyOf? key = some body := by
        rw [← tracks.bodyOf?_eq, Store.bodyOf?, assigned, Option.bind_some, found]
      obtain ⟨node, known, follows⟩ := realizes.of_bodyOf? buildable
      constructor
      · intro other id present
        have different : other ≠ key := by
          rintro rfl
          rw [absent] at present
          cases present
        rw [Store.cachedId?_construct, if_neg different]
        exact present
      · refine .known known ?_ (tracks.construct absent known follows) fun member => ?_
        · rw [Store.cachedId?_construct, if_pos rfl]
        · obtain ⟨id, present⟩ := tracks.cachedId?_of_mem_built member
          rw [absent] at present
          cases present

end ServiceLifecycle
