/-
Module: ServiceLifecycle.Proofs.Broker.Caching
Purpose: What one step of a broker does to the instance that a key has.
Main exports: Event.builtFor?, sinceEviction, Store.IsAdopted, CacheStep, Move.cacheStep,
  Move.mapping, Move.identity_cases
-/
import ServiceLifecycle.Proofs.Broker.Readiness

namespace ServiceLifecycle

/-!
A key gets an instance in one step, in which it is built, given its owner and its name, and
cached; it loses the instance only when it is evicted.  What one step can do to the instance
of a key is stated once, in `CacheStep`, and every invariant about instances follows from it.

In a broker of services the mapping and the cache change together: a name that has an
instance stays mapped as it is, and it loses both at once.
-/

open Broker

/-- The number of the instance that an event puts into the cache for a key. -/
def Event.cachedFor? (key : String) : Event → Option Nat
  | .cached about id => if about = key then some id else none
  | _ => none

/-- The number of the instance that has been built for a key. -/
def Event.builtFor? (key : String) : Event → Option Nat
  | .built id _ _ (some about) => if about = key then some id else none
  | _ => none

theorem Event.builtFor?_built (key : String) (id : Nat) (implementation : String)
    (label : Option Nat) :
    Event.builtFor? key (.built id implementation label (some key)) = some id :=
  if_pos rfl

/-- Neither is an instance built for a key nor is one put into the cache for it. -/
def Event.PassesBy (key : String) (event : Event) : Prop :=
  event.cachedFor? key = none ∧ event.builtFor? key = none

theorem Event.not_passesBy_cached (key : String) (id : Nat) :
    ¬ (Event.cached key id).PassesBy key := by
  simp [PassesBy, cachedFor?]

theorem Event.not_passesBy_built (key : String) (id : Nat) (implementation : String)
    (label : Option Nat) : ¬ (Event.built id implementation label (some key)).PassesBy key := by
  simp [PassesBy, builtFor?_built]

/-- What has happened since a key was evicted last, newest first. -/
def sinceEviction (key : String) (journal : List Event) : List Event :=
  journal.takeWhile fun event => event ≠ .evicted key

theorem sinceEviction_append {key : String} {events : List Event} (kept : .evicted key ∉ events)
    (journal : List Event) :
    sinceEviction key (events ++ journal) = events ++ sinceEviction key journal := by
  refine List.takeWhile_append_of_pos fun event member => ?_
  have other : event ≠ .evicted key := by
    rintro rfl
    exact kept member
  simp [other]

theorem sinceEviction_evicted (key : String) (journal : List Event) :
    sinceEviction key (.evicted key :: journal) = [] := by
  simp [sinceEviction]

namespace Store

/-- The name that the broker gives to the instance of a key. -/
def nameFor (s : Store) (key : String) : Option String :=
  match s.registry.capability with
  | .component => none
  | .service => some key

/-- An instance was built from an implementation for a key, and has got its name and its
owner. -/
def IsAdopted (s : Store) (key : String) (id : Nat) (implementation : String)
    (label : Option Nat) : Prop :=
  (s.instance? id).map Component.identity = some (implementation, label, s.nameFor key, true)

theorem nameFor_of_assigns {s : Store} {key implementation : String} {name : Option String}
    (assigned : s.Assigns key implementation name) : s.nameFor key = name := by
  cases name with
  | none => rw [nameFor, show s.registry.capability = .component from assigned]
  | some name =>
      obtain ⟨service, same, -⟩ := assigned
      rw [nameFor, service, same]

theorem IsAdopted.lt_length {s : Store} {key implementation : String} {id : Nat}
    {label : Option Nat} (adopted : s.IsAdopted key id implementation label) :
    id < s.instances.length := by
  obtain ⟨component, held, -⟩ := Option.map_eq_some_iff.mp adopted
  exact (List.getElem?_eq_some_iff.mp held).1

theorem isAdopted_construct {s : Store} {key implementation : String} {name : Option String}
    {body : Body} (assigned : s.Assigns key implementation name) :
    (s.construct key implementation name body).IsAdopted key s.instances.length implementation
      (s.nextLabel body) := by
  have given : (s.construct key implementation name body).nameFor key = name :=
    nameFor_of_assigns assigned
  rw [IsAdopted, instance?_construct, if_pos rfl, given]
  rfl

/-- A registration does not change what a name is mapped to. -/
theorem get?_register {s : Store} {key implementation : String}
    (mapped : s.mapping.get? key = some implementation) (name other : String) :
    (s.register name other).2.mapping.get? key = some implementation := by
  rw [register]
  cases present : s.mapping.get? name with
  | none =>
      have different : key ≠ name := by
        rintro rfl
        rw [mapped] at present
        cases present
      simp only [Mapping.get?_put, if_neg different]
      exact mapped
  | some now =>
      by_cases same : now = other
      · simpa only [same, if_true] using mapped
      · simp only [same, if_false]
        exact mapped

end Store

section Steps

variable {s t : Store} {before after : Moment} {key : String}

/-- What one step does to the instance of a key. -/
inductive CacheStep (key : String) (s t : Store) : Prop where
  /-- Nothing. -/
  | kept {events : List Event} (grown : t.journal = events ++ s.journal)
      (silent : ∀ event ∈ events, event.PassesBy key) (present : .evicted key ∉ events)
      (same : t.cachedId? key = s.cachedId? key) : CacheStep key s t
  /-- The key gets a new one. -/
  | built {implementation : String} {label : Option Nat} (absent : s.cachedId? key = none)
      (present : t.cachedId? key = some s.instances.length)
      (grown : t.journal = [.cached key s.instances.length,
        .built s.instances.length implementation label (some key)] ++ s.journal)
      (adopted : t.IsAdopted key s.instances.length implementation label)
      (mapped : s.registry.capability = .service → t.mapping.get? key = some implementation) :
      CacheStep key s t
  /-- The key loses the one it has. -/
  | evicted (grown : t.journal = .evicted key :: s.journal) (absent : t.cachedId? key = none) :
      CacheStep key s t

/-- Without an event that is about the cache, keys keep their instances. -/
theorem CacheStep.of_quiet {events : List Event} (grown : t.journal = events ++ s.journal)
    (quiet : ∀ event ∈ events, event.PassesBy key ∧ event ≠ .evicted key)
    (same : t.cached = s.cached) : CacheStep key s t := by
  refine .kept grown (fun event member => (quiet event member).1) ?_ ?_
  · exact fun member => (quiet _ member).2 rfl
  · exact congrArg (Entries.get? key) same

/-- Neither a step without an event nor one with an event of another kind concerns the cache. -/
theorem CacheStep.of_event {event : Event} (grown : t.journal = event :: s.journal)
    (quiet : event.PassesBy key ∧ event ≠ .evicted key)
    (same : t.cached = s.cached) : CacheStep key s t := by
  have appended : t.journal = [event] ++ s.journal := grown
  refine .of_quiet appended (fun other member => ?_) same
  rw [List.mem_singleton.mp member]
  exact quiet

theorem CacheStep.of_eq (grown : t.journal = s.journal) (same : t.cached = s.cached) :
    CacheStep key s t := by
  have appended : t.journal = [] ++ s.journal := grown
  exact .of_quiet appended (fun _ member => absurd member List.not_mem_nil) same

theorem CacheStep.of_evict (name : String) (mapping : Mapping) :
    CacheStep key s ({ s with mapping }.evict name) := by
  have search : ({ s with mapping }.evict name).cachedId? key =
      if key = name then none else s.cachedId? key := Entries.get?_erase name key s.cached
  by_cases same : key = name
  · rw [if_pos same] at search
    subst same
    exact .evicted rfl search
  · rw [if_neg same] at search
    have grown : ({ s with mapping }.evict name).journal = [.evicted name] ++ s.journal := rfl
    refine .kept grown ?_ ?_ search
    · intro event member
      rw [List.mem_singleton.mp member]
      exact ⟨rfl, rfl⟩
    · simpa using same

theorem HostChange.cacheStep (change : HostChange s t) (key : String) : CacheStep key s t := by
  cases change using HostChange.byEffect with
  | registry same => exact .of_eq rfl rfl
  | remap mapping change => exact .of_eq rfl rfl
  | unregister name => exact .of_evict name _
  | evict name component => exact .of_evict name s.mapping
  | create found => exact .of_event rfl ⟨⟨rfl, rfl⟩, by simp⟩ rfl
  | refuse implementation => exact .of_event rfl ⟨⟨rfl, rfl⟩, by simp⟩ rfl
  | report entry change => exact .of_event rfl ⟨⟨rfl, rfl⟩, by simp⟩ rfl
  | enable sink => exact .of_eq rfl rfl
  | furnish provider applicationRoot objects surroundings => exact .of_eq rfl rfl

theorem cached_openPhase (s : Store) (key : String) (id : Nat) (phase : Phase) :
    (s.openPhase key id phase).cached = s.cached := by
  cases phase <;> rfl

theorem cached_closePhase (s : Store) (key : String) (id : Nat) (phase : Phase)
    (result : Except PhaseFault Unit) :
    (s.closePhase key id phase result).cached = s.cached := by
  cases phase <;> cases result <;> rfl

theorem Move.cacheStep (move : Move before after) (key : String) :
    CacheStep key before.store after.store := by
  cases move with
  | quiet change =>
      obtain ⟨remarks, grown, quiet⟩ := change.journal
      refine .of_quiet grown (fun event member => ?_) change.cached
      have remark := quiet event member
      cases event <;> first | exact remark.elim | exact ⟨⟨rfl, rfl⟩, by simp⟩
  | @build frames s other implementation name body absent assigned found =>
      by_cases same : key = other
      · subst same
        refine .built absent ?_ rfl (Store.isAdopted_construct assigned) fun service => ?_
        · rw [Store.cachedId?_construct, if_pos rfl]
        · cases name with
          | none =>
              have component : s.registry.capability = .component := assigned
              rw [component] at service
              cases service
          | some name => exact assigned.2.2
      · have grown : (s.construct other implementation name body).journal =
            [.cached other s.instances.length,
              .built s.instances.length implementation (s.nextLabel body) (some other)] ++
                s.journal := rfl
        refine .kept grown ?_ (by simp) ?_
        · simp [Event.PassesBy, Event.cachedFor?, Event.builtFor?, Ne.symm same]
        · rw [Store.cachedId?_construct, if_neg same]
  | enter present admits =>
      exact .of_event (journal_openPhase _ _ _ _) ⟨⟨rfl, rfl⟩, by simp⟩ (cached_openPhase _ _ _ _)
  | leave honest =>
      exact .of_event (journal_closePhase _ _ _ _ _) ⟨⟨rfl, rfl⟩, by simp⟩
        (cached_closePhase _ _ _ _ _)
  | host change => exact change.cacheStep key

theorem HostChange.capability (change : HostChange s t) :
    t.registry.capability = s.registry.capability := by
  cases change using HostChange.byEffect with
  | registry same => exact same
  | _ => rfl

/-- A broker manages the same kind of components for good. -/
theorem Move.capability (move : Move before after) :
    after.store.registry.capability = before.store.registry.capability := by
  cases move with
  | quiet change => exact congrArg Registry.capability change.registry
  | build absent assigned found => rfl
  | @enter frames s key id phase present admits => cases phase <;> rfl
  | @leave frames s key id phase result honest => cases phase <;> cases result <;> rfl
  | host change => exact change.capability

/-- What a name is mapped to stays as it is while the name has an instance. -/
theorem Move.mapping (move : Move before after) {implementation : String} {id : Nat}
    (mapped : before.store.mapping.get? key = some implementation)
    (present : after.store.cachedId? key = some id) :
    after.store.mapping.get? key = some implementation := by
  cases move with
  | quiet change => exact (congrArg (Mapping.get? · key) change.mapping).trans mapped
  | build absent assigned found => exact mapped
  | @enter frames s key id phase present admits => cases phase <;> exact mapped
  | @leave frames s key id phase result honest => cases phase <;> cases result <;> exact mapped
  | @host s t change =>
      cases change with
      | register name other => exact Store.get?_register mapped name other
      | unregister name =>
          have search : (s.unregister name).2.cachedId? key =
              if key = name then none else s.cachedId? key := Entries.get?_erase name key s.cached
          have different : key ≠ name := by
            intro same
            rw [show (s.unregister name).2.cachedId? key = some id from present,
              if_pos same] at search
            cases search
          have kept : (s.unregister name).2.mapping.get? key =
              if key = name then none else s.mapping.get? key :=
            s.mapping.get?_erase name key
          exact kept.trans ((if_neg different).trans mapped)
      | _ => exact mapped

theorem identity_closePhase (s : Store) (key : String) (id other : Nat) (phase : Phase)
    (result : Except PhaseFault Unit) :
    ((s.closePhase key id phase result).instance? other).map Component.identity =
      (s.instance? other).map Component.identity := by
  cases phase with
  | early => cases result <;> rfl
  | late => cases result <;> rfl
  | shutdown =>
      exact (Quiet.unmark id (s.note (.ended key id .shutdown result.isOk))).identity other

/-- What one step does to what the broker has given to an instance. -/
theorem Move.identity_cases (move : Move before after) (id : Nat) :
    (after.store.instance? id).map Component.identity =
        (before.store.instance? id).map Component.identity ∨
      before.store.instance? id = none ∧
        ((after.store.instance? id).bind Component.name = none ∨
          ∃ key, (after.store.instance? id).bind Component.name = some key ∧
            .cached key id ∈ after.store.journal) := by
  cases move with
  | quiet change => exact .inl (change.identity id)
  | @build frames s key implementation name body absent assigned found =>
      by_cases last : id = s.instances.length
      · subst last
        refine .inr ⟨List.getElem?_eq_none (Nat.le_refl _), ?_⟩
        rw [Store.instance?_construct, if_pos rfl]
        cases name with
        | none => exact .inl rfl
        | some name =>
            obtain ⟨-, same, -⟩ := assigned
            subst same
            exact .inr ⟨name, rfl, List.mem_cons_self⟩
      · rw [Store.instance?_construct, if_neg last]
        exact .inl rfl
  | @enter frames s key started phase present admits => exact .inl (by cases phase <;> rfl)
  | leave honest => exact .inl (identity_closePhase _ _ _ _ _ _)
  | @host s t change =>
      cases change using HostChange.byEffect with
      | @create implementation body found =>
          have added : (s.add implementation body none).2.instance? id =
              (s.instances ++ [{ implementation, body, label := s.nextLabel body }])[id]? := rfl
          simp only [added]
          by_cases old : id < s.instances.length
          · exact .inl (by rw [List.getElem?_append_left old, Store.instance?])
          · refine .inr ⟨List.getElem?_eq_none (by omega), .inl ?_⟩
            by_cases last : id = s.instances.length
            · subst last
              simp
            · rw [List.getElem?_eq_none (by simp; omega), Option.bind_none]
      | _ => exact .inl rfl

theorem Move.isAdopted (move : Move before after) {id : Nat} {implementation : String}
    {label : Option Nat} (adopted : before.store.IsAdopted key id implementation label) :
    after.store.IsAdopted key id implementation label := by
  have name : after.store.nameFor key = before.store.nameFor key := by
    rw [Store.nameFor, Store.nameFor, move.capability]
  rcases move.identity_cases id with same | ⟨absent, -⟩
  · rw [Store.IsAdopted, same, name]
    exact adopted
  · rw [Store.IsAdopted, absent] at adopted
    cases adopted

/-- What is built for a key in a step has been built before, or it is cached right away. -/
theorem CacheStep.mem_built (step : CacheStep key s t) {id : Nat} {implementation : String}
    {label : Option Nat} (member : .built id implementation label (some key) ∈ t.journal) :
    .built id implementation label (some key) ∈ s.journal ∨
      [.cached key id, .built id implementation label (some key)] <+: t.journal := by
  cases step with
  | kept grown silent present same =>
      rw [grown] at member
      rcases List.mem_append.mp member with new | old
      · exact absurd (silent _ new) (Event.not_passesBy_built key id implementation label)
      · exact .inl old
  | built absent present grown adopted mapped =>
      rw [grown] at member ⊢
      simp only [List.cons_append, List.nil_append, List.mem_cons, reduceCtorEq, false_or]
        at member
      rcases member with same | old
      · cases same
        exact .inr (List.prefix_append _ _)
      · exact .inl old
  | evicted grown absent =>
      rw [grown] at member
      exact .inl ((List.mem_cons.mp member).resolve_left (by simp))

/-- Whatever is cached for a key has been so before, or it is the newest instance. -/
theorem CacheStep.mem_cached (step : CacheStep key s t) {id : Nat}
    (member : .cached key id ∈ t.journal) :
    .cached key id ∈ s.journal ∨
      id = s.instances.length ∧ t.journal.head? = some (.cached key id) ∧
        ∃ implementation label, t.IsAdopted key id implementation label := by
  cases step with
  | kept grown silent present same =>
      rw [grown] at member
      rcases List.mem_append.mp member with new | old
      · exact absurd (silent _ new) (Event.not_passesBy_cached key id)
      · exact .inl old
  | built absent present grown adopted mapped =>
      rw [grown] at member ⊢
      simp only [List.cons_append, List.nil_append, List.mem_cons, Event.cached.injEq,
        true_and, reduceCtorEq, false_or] at member
      rcases member with rfl | old
      · exact .inr ⟨rfl, rfl, _, _, adopted⟩
      · exact .inl old
  | evicted grown absent =>
      rw [grown] at member
      rcases List.mem_cons.mp member with equal | old
      · cases equal
      · exact .inl old

end Steps

end ServiceLifecycle
