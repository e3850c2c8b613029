/-
Module: ServiceLifecycle.Proofs.Broker.Instances
Purpose: Which instance a key has, where it comes from, and how long the key keeps it.
Main exports: Store.KnowsInstances, Moment.Arises.knowsInstances, Moment.Arises.holdsInstances,
  Moves.keeps_instance, Broker.LateEnd.ready, instances_genuine
-/
import ServiceLifecycle.Proofs.Broker.Caching
import ServiceLifecycle.Proofs.Broker.Deeds

namespace ServiceLifecycle

/-!
The journal tells which instance a key has: the one that has been cached for it since the
key was evicted last, if there is one.  No instance is ever cached for two keys, because each
has a number of its own, and none takes part in a phase before it has been cached.
-/

open Broker

section Steps

variable {s : Store} {before after : Moment} {key : String}

/-- The journal tells which instances the keys have had, and the store has what the broker has
given to them. -/
structure Store.KnowsInstances (s : Store) : Prop where
  latest : ∀ key, (sinceEviction key s.journal).filterMap (Event.cachedFor? key) =
    (s.cachedId? key).toList
  single : ∀ key, (sinceEviction key s.journal).filterMap (Event.builtFor? key) =
    (s.cachedId? key).toList
  adopted : ∀ key id, .cached key id ∈ s.journal →
    ∃ implementation label, s.IsAdopted key id implementation label
  once : ∀ key other id, .cached key id ∈ s.journal → .cached other id ∈ s.journal → key = other
  named : ∀ id name, (s.instance? id).bind Component.name = some name →
    .cached name id ∈ s.journal
  delivered : ∀ key id implementation label,
    .built id implementation label (some key) ∈ s.journal →
    [.cached key id, .built id implementation label (some key)] <:+: s.journal
  origin : ∀ key id, s.cachedId? key = some id → ∃ implementation label,
    s.IsAdopted key id implementation label ∧
    [.cached key id, .built id implementation label (some key)] <:+:
      sinceEviction key s.journal ∧
    (s.registry.capability = .service → s.mapping.get? key = some implementation)

theorem Store.KnowsInstances.mem_journal (knows : s.KnowsInstances) {id : Nat}
    (present : s.cachedId? key = some id) : .cached key id ∈ s.journal := by
  obtain ⟨implementation, label, -, part, -⟩ := knows.origin key id present
  exact (List.takeWhile_sublist _).subset (part.subset List.mem_cons_self)

/-- No two keys share an instance. -/
theorem Store.KnowsInstances.distinct (knows : s.KnowsInstances) {other : String} {id : Nat}
    (present : s.cachedId? key = some id) (again : s.cachedId? other = some id) : key = other :=
  knows.once key other id (knows.mem_journal present) (knows.mem_journal again)

theorem Move.latest (move : Move before after) (knows : before.store.KnowsInstances)
    (key : String) :
    (sinceEviction key after.store.journal).filterMap (Event.cachedFor? key) =
      (after.store.cachedId? key).toList := by
  cases move.cacheStep key with
  | kept grown silent present same =>
      rw [grown, sinceEviction_append present, List.filterMap_append,
        List.filterMap_eq_nil_iff.mpr fun event member => (silent event member).1,
        List.nil_append, same]
      exact knows.latest key
  | built absent present grown adopted mapped =>
      have old := knows.latest key
      rw [absent] at old
      rw [grown, sinceEviction_append (by simp), List.filterMap_append, old, present]
      simp [Event.cachedFor?]
  | evicted grown absent =>
      rw [grown, sinceEviction_evicted, absent]
      rfl

theorem Move.single (move : Move before after) (knows : before.store.KnowsInstances)
    (key : String) :
    (sinceEviction key after.store.journal).filterMap (Event.builtFor? key) =
      (after.store.cachedId? key).toList := by
  cases move.cacheStep key with
  | kept grown silent present same =>
      rw [grown, sinceEviction_append present, List.filterMap_append,
        List.filterMap_eq_nil_iff.mpr fun event member => (silent event member).2,
        List.nil_append, same]
      exact knows.single key
  | built absent present grown adopted mapped =>
      have old := knows.single key
      rw [absent] at old
      rw [grown, sinceEviction_append (by simp), List.filterMap_append, old, present,
        List.filterMap_cons_none rfl, List.filterMap_cons_some (Event.builtFor?_built key _ _ _)]
      rfl
  | evicted grown absent =>
      rw [grown, sinceEviction_evicted, absent]
      rfl

theorem Move.once (move : Move before after) (knows : before.store.KnowsInstances)
    {other : String} {id : Nat} (member : .cached key id ∈ after.store.journal)
    (again : .cached other id ∈ after.store.journal) : key = other := by
  -- The number of a new instance has not been given before.
  have fresh : ∀ name, .cached name before.store.instances.length ∉ before.store.journal := by
    intro name old
    obtain ⟨implementation, label, adopted⟩ := knows.adopted _ _ old
    exact absurd adopted.lt_length (Nat.lt_irrefl _)
  rcases (move.cacheStep key).mem_cached member with old | ⟨rfl, first, -⟩
  · rcases (move.cacheStep other).mem_cached again with older | ⟨rfl, -, -⟩
    · exact knows.once key other id old older
    · exact absurd old (fresh key)
  · rcases (move.cacheStep other).mem_cached again with older | ⟨-, second, -⟩
    · exact absurd older (fresh other)
    · rw [first] at second
      cases second
      rfl

theorem Move.origin (move : Move before after) (knows : before.store.KnowsInstances) {id : Nat}
    (present : after.store.cachedId? key = some id) : ∃ implementation label,
    after.store.IsAdopted key id implementation label ∧
    [.cached key id, .built id implementation label (some key)] <:+:
      sinceEviction key after.store.journal ∧
    (after.store.registry.capability = .service →
      after.store.mapping.get? key = some implementation) := by
  cases move.cacheStep key with
  | @kept events grown silent kept same =>
      obtain ⟨implementation, label, adopted, part, mapped⟩ :=
        knows.origin key id (same ▸ present)
      refine ⟨implementation, label, move.isAdopted adopted, ?_, fun service => ?_⟩
      · rw [grown, sinceEviction_append kept]
        exact part.trans (List.suffix_append _ _).isInfix
      · exact move.mapping (mapped (move.capability ▸ service)) present
  | @built implementation label absent now grown adopted mapped =>
      rw [now] at present
      cases present
      refine ⟨implementation, label, adopted, ?_, fun service => ?_⟩
      · rw [grown, sinceEviction_append (by simp)]
        exact (List.prefix_append _ _).isInfix
      · exact mapped (move.capability ▸ service)
  | evicted grown absent =>
      rw [absent] at present
      cases present

theorem Move.knowsInstances (move : Move before after) (knows : before.store.KnowsInstances) :
    after.store.KnowsInstances := by
  constructor
  case latest => exact move.latest knows
  case single => exact move.single knows
  case delivered =>
    intro key id implementation label member
    rcases (move.cacheStep key).mem_built member with old | first
    · exact (knows.delivered key id implementation label old).trans move.journal_suffix.isInfix
    · exact first.isInfix
  case adopted =>
    intro key id member
    rcases (move.cacheStep key).mem_cached member with old | ⟨-, -, adopted⟩
    · obtain ⟨implementation, label, adopted⟩ := knows.adopted key id old
      exact ⟨implementation, label, move.isAdopted adopted⟩
    · exact adopted
  case once => exact fun key other id => move.once knows
  case named =>
    intro id name given
    rcases move.identity_cases id with same | ⟨-, nameless | ⟨key, own, member⟩⟩
    · have projected : ∀ s : Store, (s.instance? id).bind Component.name =
          ((s.instance? id).map Component.identity).bind fun identity => identity.2.2.1 := by
        intro s
        rw [Option.bind_map]
        rfl
      rw [projected, same, ← projected] at given
      exact move.journal_suffix.subset (knows.named id name given)
    · rw [nameless] at given
      cases given
    · rw [own] at given
      cases given
      exact member
  case origin => exact fun key id => move.origin knows

/-- Whatever has been started for an instance of a key was started after it was cached. -/
def Store.StartsCached (s : Store) : Prop :=
  ∀ key id phase, .started key id phase ∈ s.journal →
    [.started key id phase, .cached key id].Sublist s.journal

/-- What is started in a step is started by the broker for the instance of the key. -/
theorem Move.started_cases (move : Move before after) {id : Nat} {phase : Phase}
    (member : .started key id phase ∈ after.store.journal) :
    .started key id phase ∈ before.store.journal ∨
      after.store.journal = .started key id phase :: before.store.journal ∧
        before.store.cachedId? key = some id := by
  cases move with
  | quiet change =>
      obtain ⟨remarks, grown, quiet⟩ := change.journal
      rw [grown] at member
      rcases List.mem_append.mp member with new | old
      · exact (quiet _ new).elim
      · exact .inl old
  | build absent assigned found =>
      rw [Store.journal_construct] at member
      exact .inl (by simpa using member)
  | enter present admits =>
      rw [journal_openPhase] at member ⊢
      rcases List.mem_cons.mp member with same | old
      · cases same
        exact .inr ⟨rfl, present⟩
      · exact .inl old
  | leave honest =>
      rw [journal_closePhase] at member
      exact .inl (by simpa using member)
  | @host s t change =>
      left
      cases change using HostChange.byEffect with
      | unregister name => exact (List.mem_cons.mp member).resolve_left (by simp)
      | evict name component => exact (List.mem_cons.mp member).resolve_left (by simp)
      | create found => exact (List.mem_cons.mp member).resolve_left (by simp)
      | refuse implementation => exact (List.mem_cons.mp member).resolve_left (by simp)
      | report entry change => exact (List.mem_cons.mp member).resolve_left (by simp)
      | _ => exact member

theorem Move.startsCached (move : Move before after) (knows : before.store.KnowsInstances)
    (starts : before.store.StartsCached) : after.store.StartsCached := by
  intro key id phase member
  rcases move.started_cases member with old | ⟨grown, present⟩
  · exact (starts key id phase old).trans move.journal_suffix.sublist
  · rw [grown]
    exact (List.singleton_sublist.mpr (knows.mem_journal present)).cons_cons _

/-- The phases in progress are phases of the instances that their keys have. -/
def Moment.HoldsInstances (moment : Moment) : Prop :=
  ∀ frame ∈ moment.frames, moment.store.cachedId? frame.key = some frame.id

theorem Move.holdsInstances (move : Move before after) (holds : before.HoldsInstances) :
    after.HoldsInstances := by
  cases move with
  | quiet change =>
      intro frame member
      exact (congrArg (Entries.get? frame.key) change.cached).trans (holds frame member)
  | @build frames s key implementation name body absent assigned found =>
      intro frame member
      have held := holds frame member
      have different : frame.key ≠ key := by
        intro same
        rw [same] at held
        exact absurd (absent.symm.trans held) (by simp)
      rw [Store.cachedId?_construct, if_neg different]
      exact held
  | enter present admits =>
      intro frame member
      rw [Store.cachedId?, cached_openPhase]
      rcases List.mem_cons.mp member with rfl | outer
      · exact present
      · exact holds frame outer
  | leave honest =>
      intro frame member
      rw [Store.cachedId?, cached_closePhase]
      exact holds frame (List.mem_cons_of_mem _ member)
  | host change => exact fun _ member => absurd member List.not_mem_nil

end Steps

section Moments

variable {moment later : Moment}

/-- At every moment the journal tells which instances the keys have. -/
theorem Moment.Arises.knowsInstances (arises : moment.Arises) : moment.store.KnowsInstances := by
  refine Moment.Arises.induction ?fresh (fun _ _ move => move.knowsInstances) arises
  intro s isFresh
  have absent : ∀ key, s.cachedId? key = none := by
    intro key
    rw [Store.cachedId?, isFresh.cached]
    rfl
  constructor
  case latest =>
    intro key
    rw [isFresh.journal, absent key]
    rfl
  case single =>
    intro key
    rw [isFresh.journal, absent key]
    rfl
  case delivered => simp [isFresh.journal]
  case adopted => simp [isFresh.journal]
  case once => simp [isFresh.journal]
  case named => simp [Store.instance?, isFresh.instances]
  case origin =>
    intro key id present
    rw [absent key] at present
    cases present

/-- No phase is ever started before the instance has been cached for its key. -/
theorem Moment.Arises.startsCached (arises : moment.Arises) : moment.store.StartsCached := by
  have both : moment.store.KnowsInstances ∧ moment.store.StartsCached := by
    refine Moment.Arises.induction (motive := fun moment =>
      moment.store.KnowsInstances ∧ moment.store.StartsCached) ?fresh ?move arises
    case fresh =>
      intro s isFresh
      have fresh : Moment.Arises ⟨[], s⟩ := ⟨s, isFresh, .refl⟩
      exact ⟨fresh.knowsInstances, by simp [Store.StartsCached, isFresh.journal]⟩
    case move =>
      rintro before after move ⟨knows, starts⟩
      exact ⟨move.knowsInstances knows, move.startsCached knows starts⟩
  exact both.2

theorem Moment.Arises.holdsInstances (arises : moment.Arises) : moment.HoldsInstances := by
  refine Moment.Arises.induction ?fresh (fun _ _ move => move.holdsInstances) arises
  exact fun s isFresh frame member => absurd member List.not_mem_nil

/-- A key has the same instance until it is evicted. -/
theorem Moves.keeps_instance (moves : Moves moment later) {key : String} {id : Nat}
    (present : moment.store.cachedId? key = some id) :
    ∃ events, later.store.journal = events ++ moment.store.journal ∧
      (.evicted key ∈ events ∨ later.store.cachedId? key = some id) := by
  induction moves with
  | refl => exact ⟨[], rfl, .inr present⟩
  | @tail middle final moves last inductionHypothesis =>
      obtain ⟨events, grown, kept⟩ := inductionHypothesis
      cases last.cacheStep key with
      | @kept more more_grown silent unevicted same =>
          refine ⟨more ++ events, by rw [more_grown, grown, List.append_assoc], ?_⟩
          rcases kept with evicted | held
          · exact .inl (List.mem_append_right _ evicted)
          · exact .inr (same.trans held)
      | built absent now more_grown adopted mapped =>
          refine ⟨_ ++ events, by rw [more_grown, grown, List.append_assoc], .inl ?_⟩
          rcases kept with evicted | held
          · exact List.mem_append_right _ evicted
          · rw [absent] at held
            cases held
      | evicted more_grown absent =>
          refine ⟨.evicted key :: events, by rw [more_grown, grown]; rfl, .inl ?_⟩
          exact List.mem_cons_self

end Moments

section Answers

variable {run : PhaseRunner} {construct : Work (Except BrokerFault Nat)} {key : String}
  {s t : Store} {id : Nat}

/-- A call for a ready instance that succeeds returns the instance that it came by. -/
theorem Broker.LateEnd.id_eq {old : Nat} (ending : LateEnd run construct key s (.ok id) t)
    (construction : construct s = .finished (.ok old, s)) : id = old := by
  generalize answer : Except.ok id = result at ending
  cases ending with
  | unbuilt other => cases answer
  | already other ready =>
      cases answer
      rw [construction] at other
      cases other
      rfl
  | poisoned other unready record => cases answer
  | @ran found u v raw other admits phase =>
      rw [construction] at other
      cases other
      cases verdict_eq : verdict v key old .late raw with
      | error fault =>
          rw [verdict_eq] at answer
          cases answer
      | ok _ =>
          rw [verdict_eq] at answer
          cases answer
          rfl

/-- A call for a ready instance that succeeds returns the instance that the key has then, and it
is initialized. -/
theorem Broker.LateEnd.ready {frames : List Frame} (faithful : Faithful run)
    (supplies : Supplies construct key s) (arises : Moment.Arises ⟨frames, s⟩)
    (ending : LateEnd run construct key s (.ok id) t) :
    t.cachedId? key = some id ∧ t.isReady id = true := by
  generalize answer : Except.ok id = result at ending
  cases ending with
  | unbuilt construction => cases answer
  | already construction ready =>
      cases answer
      exact ⟨supplies.present construction, ready⟩
  | poisoned construction unready record => cases answer
  | @ran other u v raw construction admits phase =>
      have present : u.cachedId? key = some other := supplies.present construction
      have inside : Moment.Arises ⟨⟨key, other, .late⟩ :: frames, v⟩ :=
        (arises.trans (supplies.moves construction frames)).trans
          (.head (.enter present admits) (faithful _ _ _ _ _ _ phase key frames))
      have held : v.cachedId? key = some other :=
        inside.holdsInstances ⟨key, other, .late⟩ List.mem_cons_self
      cases verdict_eq : verdict v key other .late raw with
      | error fault =>
          rw [verdict_eq] at answer
          cases answer
      | ok _ =>
          rw [verdict_eq] at answer
          cases answer
          have ready : v.isReady other = true := isReady_of_verdict_ok verdict_eq
          rw [Store.cachedId?, cached_closePhase, isReady_closePhase]
          exact ⟨held, by simpa using ready⟩

end Answers

section Calls

variable {given : StartupData} {asked : String → Prop} {s t : Store}

/-- An event that is not the building of an instance that no key gets. -/
def Event.IsAttributed : Event → Prop
  | .built _ _ _ none => False
  | _ => True

/-- Whatever is built while a call is carried out is built for a key. -/
theorem Deed.attributed (deed : Deed given asked s t) :
    ∃ events, t.journal = events ++ s.journal ∧ ∀ event ∈ events, event.IsAttributed := by
  have one : ∀ event : Event, event.IsAttributed → ∀ other ∈ [event], other.IsAttributed :=
    fun _ holds _ member => List.mem_singleton.mp member ▸ holds
  cases deed with
  | remarked remarked =>
      cases remarked with
      | nothing => exact ⟨[], rfl, by simp⟩
      | said label text => exact ⟨[.said label text], rfl, one _ trivial⟩
      | reported entry => exact ⟨[.reported entry], rfl, one _ trivial⟩
  | refused implementation => exact ⟨[.refused implementation], rfl, one _ trivial⟩
  | @built key implementation name body absent assigned found =>
      refine ⟨[.cached key _, .built _ implementation _ (some key)], s.journal_construct .., ?_⟩
      simp [Event.IsAttributed]
  | opened present admits cause => exact ⟨[_], journal_openPhase .., one _ trivial⟩
  | closed present honest emptied loads => exact ⟨[_], journal_closePhase .., one _ trivial⟩
  | entered phase held => exact ⟨[.entered _ phase], rfl, one _ trivial⟩
  | @marked id ordinary => exact ⟨[.marked id], rfl, one _ trivial⟩
  | unmarked ordinary => exact ⟨[], rfl, by simp⟩
  | @served id before data deployment held offered loaded =>
      exact ⟨[.marked id], rfl, one _ trivial⟩
  | withdrawn held => exact ⟨[], rfl, by simp⟩
  | @logSet id before settings held read usable => exact ⟨[.marked id], rfl, one _ trivial⟩

theorem Deeds.attributed (deeds : Deeds given asked s t) :
    ∃ events, t.journal = events ++ s.journal ∧ ∀ event ∈ events, event.IsAttributed := by
  induction deeds with
  | refl => exact ⟨[], rfl, by simp⟩
  | tail _ last inductionHypothesis =>
      obtain ⟨events, grown, attributed⟩ := inductionHypothesis
      obtain ⟨more, more_grown, more_attributed⟩ := last.attributed
      refine ⟨more ++ events, by rw [more_grown, grown, List.append_assoc], fun event member => ?_⟩
      rcases List.mem_append.mp member with new | old
      · exact more_attributed event new
      · exact attributed event old

end Calls

section Tasks

variable {construct : Work (Except BrokerFault Nat)} {key : String} {s : Store} {id : Nat}

/-- A call comes by the instance of its key in one of two ways. -/
def Broker.ComesBy (construct : Work (Except BrokerFault Nat)) (key : String) : Prop :=
  construct = instanceFor key ∨ ∃ implementation, construct = constructAs key implementation none

/-- Both ways lead to the instance that the key has, if there is one. -/
theorem Broker.ComesBy.cached (comes : ComesBy construct key)
    (present : s.cachedId? key = some id) : construct s = .finished (.ok id, s) := by
  rcases comes with rfl | ⟨implementation, rfl⟩
  · exact instanceFor_cached present
  · simp [constructAs, present]

/-- The task is not a call, or it comes by the instance of its key in one of these ways. -/
def Task.ComesBy : Task → Prop
  | .early construct key _ | .late construct key => Broker.ComesBy construct key
  | _ => True

theorem Call.begin_comesBy {call : Call} {t : Store} {task : Task}
    (begun : call.begin s = some (task, t)) : task.ComesBy := by
  cases call with
  | early key data =>
      cases begun
      exact .inl rfl
  | earlyAs key implementation data =>
      cases begun
      exact .inr ⟨implementation, rfl⟩
  | resolve key =>
      cases begun
      exact .inl rfl
  | resolveFrom key implementation =>
      cases begun
      exact .inr ⟨implementation, rfl⟩
  | resolveAs key wanted =>
      cases begun
      exact .inl rfl
  | shutdown key =>
      rw [Call.begin] at begun
      split at begun <;> cases begun
      trivial
  | shutdownInstance key =>
      cases begun
      trivial
  | _ => cases begun

theorem Underway.comesBy {task : Task} {frames : List Frame} (underway : Underway task frames s) :
    task.ComesBy := by
  cases underway with
  | asked before permitted begun => exact Call.begin_comesBy begun
  | called before owned calls begun => exact Call.begin_comesBy begun
  | _ => trivial

end Tasks

/-- At every point of every history of a broker of services, whatever its components do in their
phases, each instance is genuine and belongs to one name.

A name with an instance is registered, the instance has been built from the implementation that
the name is mapped to now, after the name was unregistered last, and it has the name and the
broker as its owner.  No other name has the same instance.  The phases in progress are phases
of the instances that the names have, and none was started before its instance was cached
under the name, which is when the instance got its name and its owner.

Since a name was unregistered last, one instance has been built for it if it has one now, and
none otherwise, and that one is the instance that it has.  Whatever is built for a name is cached
for it at once, and a call builds nothing that is not for a name: only the host has an instance
built that no name gets.  Whatever happens from here on, a name keeps its instance until it is
unregistered.  A call for a ready instance that succeeds returns the instance of the name, and
that is initialized. -/
theorem instances_genuine {task : Task} {frames : List Frame} {s : Store}
    (underway : Underway task frames s) (service : s.registry.capability = .service) :
    (∀ name id, s.cachedId? name = some id →
      (∃ component, s.instance? id = some component ∧ component.name = some name ∧
        component.owned = true ∧ s.mapping.get? name = some component.implementation ∧
        [.cached name id, .built id component.implementation component.label (some name)] <:+:
          sinceEviction name s.journal) ∧
      ∀ other, s.cachedId? other = some id → other = name) ∧
    (∀ frame ∈ frames, s.cachedId? frame.key = some frame.id) ∧
    (∀ name id phase, .started name id phase ∈ s.journal →
      [.started name id phase, .cached name id].Sublist s.journal) ∧
    (∀ name id, .cached name id ∈ s.journal ↔ ∃ component, s.instance? id = some component ∧
      component.name = some name ∧ component.owned = true) ∧
    (∀ name, (sinceEviction name s.journal).filterMap (Event.builtFor? name) =
        (s.cachedId? name).toList ∧
      (sinceEviction name s.journal).filterMap (Event.cachedFor? name) =
        (s.cachedId? name).toList) ∧
    (∀ name id implementation label, .built id implementation label (some name) ∈ s.journal →
      [.cached name id, .built id implementation label (some name)] <:+: s.journal) ∧
    (∀ (call : Call) depth t, task = .idle → call.IsPermitted s →
      call.carry (runPhase depth) s = .finished ((), t) →
      ∃ events, t.journal = events ++ s.journal ∧ ∀ event ∈ events, event.IsAttributed) ∧
    (∀ name id later, s.cachedId? name = some id → Moves ⟨frames, s⟩ later →
      ∃ events, later.store.journal = events ++ s.journal ∧
        (.evicted name ∈ events ∨ later.store.cachedId? name = some id)) ∧
    (∀ construct name, task = .late construct name → ∀ depth id t,
      lateFrom (runPhase depth) construct name s = .finished (.ok id, t) →
        t.cachedId? name = some id ∧ t.isReady id = true ∧
        ∀ old, s.cachedId? name = some old → id = old) := by
  obtain ⟨arises, sound⟩ := underway.arises
  have knows : s.KnowsInstances := arises.knowsInstances
  -- What an adopted instance has been given, field by field.
  have given : ∀ {name id implementation label}, s.IsAdopted name id implementation label →
      ∃ component, s.instance? id = some component ∧ component.name = some name ∧
        component.owned = true ∧ component.implementation = implementation ∧
        component.label = label := by
    intro name id implementation label adopted
    obtain ⟨component, held, same⟩ := Option.map_eq_some_iff.mp adopted
    rw [Store.nameFor, service] at same
    simp only [Component.identity, Prod.mk.injEq] at same
    obtain ⟨built, labelled, named, owned⟩ := same
    exact ⟨component, held, named, owned, built, labelled⟩
  refine ⟨?_, arises.holdsInstances, arises.startsCached, ?_,
    fun name => ⟨knows.single name, knows.latest name⟩, knows.delivered, ?_, ?_, ?_⟩
  · intro name id present
    obtain ⟨implementation, label, adopted, part, mapped⟩ := knows.origin name id present
    obtain ⟨component, held, named, owned, rfl, rfl⟩ := given adopted
    refine ⟨⟨component, held, named, owned, mapped service, part⟩, ?_⟩
    exact fun other again => knows.distinct again present
  · intro name id
    constructor
    · intro member
      obtain ⟨implementation, label, adopted⟩ := knows.adopted name id member
      obtain ⟨component, held, named, owned, -⟩ := given adopted
      exact ⟨component, held, named, owned⟩
    · rintro ⟨component, held, named, -⟩
      exact knows.named id name (by rw [held, Option.bind_some, named])
  · rintro call depth t rfl permitted finished
    exact (Call.carry_deeds permitted finished).attributed
  · exact fun name id later present moves => moves.keeps_instance present
  · rintro construct name rfl depth id t finished
    have supplies : Supplies construct name s := sound
    have comes : Broker.ComesBy construct name := underway.comesBy
    have ending := lateFrom_finished.mp finished
    obtain ⟨present, ready⟩ := ending.ready (runPhase_faithful depth) supplies arises
    refine ⟨present, ready, fun old before => ?_⟩
    exact ending.id_eq (comes.cached before)

/-- A service that only keeps its status is asked for, and has no instance yet. -/
def Store.serve (s : Store) (name implementation : String) : Store :=
  let begun := (s.construct name implementation (some name) .plain).openPhase name
    s.instances.length .late
  (begun.mark s.instances.length).closePhase name s.instances.length .late (.ok ())

/-- Registering services one after the other is a sequence of registrations. -/
theorem Underway.registerAll {s : Store} (before : Underway .idle [] s)
    (pairs : List (String × String)) : Underway .idle [] (s.registerAll pairs).2 := by
  induction pairs generalizing s with
  | nil => exact before
  | cons pair rest inductionHypothesis =>
      exact inductionHypothesis (.changed before (.register pair.1 pair.2))

/-- A broker of services with two implementations. -/
def Store.twofold : Store :=
  { registry :=
      { capability := .service, recipes := [("Old", .build .plain), ("New", .build .plain)] } }

/-- Two services with one implementation have been asked for. -/
def Store.shared : Store :=
  let registered := (Store.twofold.registerAll [("clock", "Old"), ("timer", "Old")]).2
  (registered.serve "clock" "Old").serve "timer" "Old"

/-- One of the services has been removed, registered with the other implementation and asked for
again. -/
def Store.reassigned : Store :=
  ((Store.shared.unregister "clock").2.register "clock" "New").2.serve "clock" "New"

theorem underway_reassigned : Underway .idle [] Store.reassigned := by
  have fresh : Underway .idle [] Store.twofold := .fresh ⟨rfl, rfl, rfl, rfl, rfl, rfl⟩
  have registered := fresh.registerAll [("clock", "Old"), ("timer", "Old")]
  have first := @Underway.answered _ _ (.resolve "clock") 1 registered trivial rfl
  have shared : Underway .idle [] Store.shared :=
    @Underway.answered _ _ (.resolve "timer") 1 first trivial rfl
  have removed := Underway.changed shared (.unregister "clock")
  have again := Underway.changed removed (.register "clock" "New")
  exact @Underway.answered _ _ (.resolve "clock") 1 again trivial rfl

/-- The service has an instance of its own, the only one since it was removed, which is of the
second implementation, and the next call returns it. -/
theorem instances_genuine_reassigned :
    Store.reassigned.cachedId? "clock" = some 2 ∧ Store.reassigned.cachedId? "timer" = some 1 ∧
    (∃ component, Store.reassigned.instance? 2 = some component ∧
      component.name = some "clock" ∧ component.implementation = "New") ∧
    (sinceEviction "clock" Store.reassigned.journal).filterMap (Event.builtFor? "clock") = [2] ∧
    Store.reassigned.journal.filterMap (Event.builtFor? "clock") = [2, 0] ∧
    ∃ id t, lateFrom (runPhase 1) (instanceFor "clock") "clock" Store.reassigned =
      .finished (.ok id, t) ∧ id = 2 ∧ t.isReady id = true := by
  have asked : Underway (.late (instanceFor "clock") "clock") [] Store.reassigned :=
    @Underway.asked _ _ (.resolve "clock") _ underway_reassigned trivial rfl
  obtain ⟨genuine, -, -, -, once, -, -, -, calls⟩ := instances_genuine asked rfl
  have present : Store.reassigned.cachedId? "clock" = some 2 := rfl
  obtain ⟨⟨component, held, named, -, mapped, -⟩, -⟩ := genuine "clock" 2 present
  have implementation : component.implementation = "New" := (Option.some.inj mapped).symm
  have call : lateFrom (runPhase 1) (instanceFor "clock") "clock" Store.reassigned =
      .finished (.ok 2, Store.reassigned) := rfl
  obtain ⟨-, ready, same⟩ := calls _ _ rfl 1 2 _ call
  exact ⟨present, rfl, ⟨component, held, named, implementation⟩, (once "clock").1, rfl, 2,
    _, call,
    same 2 present, ready⟩

end ServiceLifecycle
