/-
Module: ServiceLifecycle.Proofs.Locality.Footprint
Purpose: What a phase cannot touch, told from the keys that components name.
Main exports: Body.RefersTo, Store.bodyAt?, Store.Names, Store.Reaches, Store.HoldsOwn, Spares,
  Broker.Local, Broker.request_spares, Broker.runPhase_local
-/
import ServiceLifecycle.Proofs.Broker.Actions
import ServiceLifecycle.Proofs.Broker.Instances

namespace ServiceLifecycle

/-!
A component can only have its broker do something about the keys that its script names.  Let a
set of keys be closed, so that the components of its keys name no others.  Then whatever is done
about a key of the set spares all other keys: they keep their instances with everything in them
and their records, and no phase of theirs is run.

What is spared is stated once, in `Spares`, which is kept by each single change and put together
along a run.
-/

open Broker

section References

/-- An action that may be performed on a course has the broker do something about a key. -/
def Course.RefersTo (course : Course) (key : String) : Prop :=
  ∃ action ∈ course, action.named? = some key

/-- A component may have its broker do something about a key, in some phase. -/
def Body.RefersTo : Body → String → Prop
  | .scripted script, key => ∃ data phase, (script.plan data phase).2.2.RefersTo key
  | _, _ => False

/-- What a built-in service has loaded has no part in what it refers to. -/
theorem Body.refersTo_kind (body : Body) (key : String) :
    body.kind.RefersTo key ↔ body.RefersTo key := by
  cases body <;> rfl

theorem Course.refersTo_straight {actions : List Action} {key : String} :
    (straight actions).RefersTo key ↔ key ∈ actions.filterMap Action.named? := by
  simp only [RefersTo, mem_straight, List.mem_filterMap]

/-- A script refers to what one of its courses refers to.  What it does by default, in place of a
course, is not about any key. -/
theorem Body.refersTo_scripted {script : Script} {key : String} :
    (Body.scripted script).RefersTo key ↔
      ∃ course, (script.early = some course ∨ script.late = some course ∨
        script.shutdown = some course) ∧ course.RefersTo key := by
  have given : ∀ {course : Option Course} {default : Action}, default.named? = none →
      (course.getD (.straight [default])).RefersTo key →
        ∃ own, course = some own ∧ own.RefersTo key := by
    intro course default silent refers
    cases course with
    | some own => exact ⟨own, rfl, refers⟩
    | none => simp [Course.refersTo_straight, silent] at refers
  constructor
  · rintro ⟨data, phase, refers⟩
    cases phase with
    | early =>
        cases early : script.early with
        | some course =>
            rw [Script.plan, early] at refers
            exact ⟨course, .inl rfl, refers⟩
        | none =>
            rw [Script.plan, early] at refers
            obtain ⟨course, late, own⟩ := given rfl refers
            exact ⟨course, .inr (.inl late), own⟩
    | late =>
        obtain ⟨course, late, own⟩ := given rfl refers
        exact ⟨course, .inr (.inl late), own⟩
    | shutdown =>
        obtain ⟨course, shutdown, own⟩ := given rfl refers
        exact ⟨course, .inr (.inr shutdown), own⟩
  · rintro ⟨course, early | late | shutdown, refers⟩
    · exact ⟨{}, .early, by rwa [Script.plan, early]⟩
    · exact ⟨{}, .late, by rwa [Script.plan, Script.lateCourse, late]⟩
    · exact ⟨{}, .shutdown, by rwa [Script.plan, Script.shutdownCourse, shutdown]⟩

/-- The numbers under the keys are distinct and below a bound. -/
structure NumbersApart (cached : Entries Nat) (count : Nat) : Prop where
  held : ∀ {key : String} {id : Nat}, cached.get? key = some id → id < count
  distinct : ∀ {key other : String} {id : Nat}, cached.get? key = some id →
    cached.get? other = some id → key = other

namespace Store

/-- The body of the component that a key has, or else would get. -/
def bodyAt? (s : Store) (key : String) : Option Body :=
  match s.cachedInstance? key with
  | some component => some component.body
  | none => s.bodyOf? key

/-- The component that the first key has, or would get, refers to the second one. -/
def Names (s : Store) (key other : String) : Prop :=
  ∃ body, s.bodyAt? key = some body ∧ body.RefersTo other

/-- One comes from the first key to the second by references. -/
abbrev Reaches (s : Store) : String → String → Prop := Relation.ReflTransGen s.Names

/-- A set of keys is closed when the components of its keys refer to keys in it only. -/
def Closed (s : Store) (S : String → Prop) : Prop :=
  ∀ key other, S key → s.Names key other → S other

theorem closed_reaches (s : Store) (key : String) : s.Closed (s.Reaches key) :=
  fun _ _ reaches names => reaches.tail names

/-- The set of all keys is closed. -/
theorem closed_all (s : Store) : s.Closed fun _ => True := fun _ _ _ _ => trivial

/-- References do not lead out of a closed set. -/
theorem Closed.of_reaches {s : Store} {S : String → Prop} (closed : s.Closed S) {key other : String}
    (own : S key) (reaches : s.Reaches key other) : S other := by
  induction reaches with
  | refl => exact own
  | tail _ names inductionHypothesis => exact closed _ _ inductionHypothesis names

/-- Each key has an instance of its own. -/
abbrev HoldsOwn (s : Store) : Prop := NumbersApart s.cached s.instances.length

/-- A new instance has a new number. -/
theorem HoldsOwn.construct {s : Store} (holds : s.HoldsOwn) (key implementation : String)
    (name : Option String) (body : Body) :
    (s.construct key implementation name body).HoldsOwn := by
  have found : ∀ other, (s.construct key implementation name body).cached.get? other =
      if other = key then some s.instances.length else s.cached.get? other :=
    s.cachedId?_construct key implementation name body
  rw [HoldsOwn, instances_construct, List.length_append, List.length_singleton]
  constructor
  case held =>
    intro other id present
    rw [found] at present
    split at present
    · cases present
      exact Nat.lt_succ_self _
    · exact Nat.lt_succ_of_lt (holds.held present)
  case distinct =>
    intro one other id present again
    rw [found] at present again
    split at present <;> split at again
    · rename_i first second
      exact first.trans second.symm
    · cases present
      exact absurd (holds.held again) (Nat.lt_irrefl _)
    · cases again
      exact absurd (holds.held present) (Nat.lt_irrefl _)
    · exact holds.distinct present again

theorem HoldsOwn.instance? {s : Store} (holds : s.HoldsOwn) {key : String} {id : Nat}
    (present : s.cachedId? key = some id) : ∃ component, s.instance? id = some component :=
  ⟨_, List.getElem?_eq_getElem (holds.held present)⟩

theorem cachedInstance?_eq (s : Store) {key : String} {id : Nat}
    (present : s.cachedId? key = some id) : s.cachedInstance? key = s.instance? id := by
  rw [cachedInstance?, present, Option.bind_some]

/-- A change of the instance of a key is seen under this key only. -/
theorem cachedInstance?_update {s : Store} (holds : s.HoldsOwn) {key : String} {id : Nat}
    (present : s.cachedId? key = some id) (change : Component → Component) (other : String) :
    (s.update id change).cachedInstance? other =
      if other = key then (s.cachedInstance? key).map change else s.cachedInstance? other := by
  have unchanged : (s.update id change).cachedId? other = s.cachedId? other := rfl
  rw [cachedInstance?, unchanged]
  split
  · rename_i same
    subst same
    rw [cachedInstance?, present, Option.bind_some, Option.bind_some, instance?_update, if_pos rfl]
  · rename_i different
    rw [cachedInstance?]
    cases found : s.cachedId? other with
    | none => rfl
    | some number =>
        have apart : id ≠ number := by
          rintro rfl
          exact different (holds.distinct found present)
        rw [Option.bind_some, Option.bind_some, instance?_update, if_neg apart]

/-- A new instance is seen under its key only. -/
theorem cachedInstance?_construct {s : Store} (holds : s.HoldsOwn) (key implementation : String)
    (name : Option String) (body : Body) (other : String) :
    (s.construct key implementation name body).cachedInstance? other =
      if other = key then some (s.newComponent implementation name body)
      else s.cachedInstance? other := by
  rw [cachedInstance?, cachedId?_construct]
  split
  · rw [Option.bind_some, instance?_construct, if_pos rfl]
  · rw [cachedInstance?]
    cases found : s.cachedId? other with
    | none => rfl
    | some number =>
        rw [Option.bind_some, Option.bind_some, instance?_construct,
          if_neg (Nat.ne_of_lt (holds.held found))]

theorem bodyAt?_eq (s : Store) {key : String} {id : Nat} {body : Body}
    (present : s.cachedId? key = some id)
    (held : (s.instance? id).map Component.body = some body) : s.bodyAt? key = some body := by
  obtain ⟨component, found, rfl⟩ := Option.map_eq_some_iff.mp held
  rw [bodyAt?, s.cachedInstance?_eq present, found]

/-- What the kind of a body decides holds of all components if it did when they were of the same
kinds. -/
theorem forall_bodies {s t : Store} {P : Body → Prop} (decided : ∀ body, P body.kind ↔ P body)
    (kinds : ∀ key, (t.bodyAt? key).map Body.kind = (s.bodyAt? key).map Body.kind)
    (all : ∀ key body, s.bodyAt? key = some body → P body) {key : String} {body : Body}
    (found : t.bodyAt? key = some body) : P body := by
  have same := kinds key
  rw [found] at same
  obtain ⟨other, held, kind⟩ := Option.map_eq_some_iff.mp same.symm
  rw [← decided, ← kind, decided]
  exact all key other held

/-- Only the kinds of the bodies decide which keys name which. -/
theorem names_iff {s t : Store} {key other : String}
    (kinds : (t.bodyAt? key).map Body.kind = (s.bodyAt? key).map Body.kind) :
    t.Names key other ↔ s.Names key other := by
  have expand : ∀ u : Store, u.Names key other ↔
      ∃ kind, (u.bodyAt? key).map Body.kind = some kind ∧ kind.RefersTo other := by
    intro u
    constructor
    · rintro ⟨body, found, refers⟩
      exact ⟨body.kind, by rw [found]; rfl, (body.refersTo_kind other).mpr refers⟩
    · rintro ⟨_, found, refers⟩
      obtain ⟨body, same, rfl⟩ := Option.map_eq_some_iff.mp found
      exact ⟨body, same, (body.refersTo_kind other).mp refers⟩
  rw [expand, expand, kinds]

end Store

/-- At every moment each key has an instance of its own. -/
theorem Moment.Arises.holdsOwn {moment : Moment} (arises : moment.Arises) :
    moment.store.HoldsOwn := by
  have knows : moment.store.KnowsInstances := arises.knowsInstances
  constructor
  case held =>
    intro key id present
    obtain ⟨implementation, label, adopted, -⟩ := knows.origin key id present
    exact adopted.lt_length
  case distinct => exact fun present again => knows.distinct present again

end References

/-- The key and the instance whose phase an event is about. -/
def Event.about? : Event → Option (String × Nat)
  | .started key id _ | .ended key id _ _ => some (key, id)
  | _ => none

/-- From one store to another, nothing has been done about keys outside a set.

Instances of keys in the set may have changed, but not in what they are; new ones may have been
built for keys in the set. -/
structure Spares (S : String → Prop) (s t : Store) : Prop where
  registry : t.registry = s.registry
  mapping : t.mapping = s.mapping
  provider : t.provider = s.provider
  reachable : t.reachable = s.reachable
  stack : t.stack = s.stack
  settling : t.settling = s.settling
  length : s.instances.length ≤ t.instances.length
  kept : ∀ {key id}, s.cachedId? key = some id → t.cachedId? key = some id
  fresh : ∀ {key id}, t.cachedId? key = some id →
    s.cachedId? key = some id ∨ S key ∧ s.instances.length ≤ id
  instances : ∀ {id}, id < s.instances.length → (∀ key, S key → s.cachedId? key ≠ some id) →
    t.instance? id = s.instance? id
  kinds : ∀ key, (t.bodyAt? key).map Body.kind = (s.bodyAt? key).map Body.kind
  poisoned : ∀ key, ¬ S key → t.poisoned.get? key = s.poisoned.get? key
  holdsOwn : s.HoldsOwn → t.HoldsOwn
  ran : ∃ events, t.journal = events ++ s.journal ∧ ∀ event ∈ events, ∀ key id,
    event.about? = some (key, id) → S key ∧ t.cachedId? key = some id

namespace Spares

variable {S : String → Prop} {s t u : Store} {key : String} {id : Nat}

theorem refl (S : String → Prop) (s : Store) : Spares S s s := by
  constructor
  case length => exact Nat.le_refl _
  case kept => exact fun present => present
  case fresh => exact fun present => .inl present
  case instances => exact fun _ _ => rfl
  case kinds => exact fun _ => rfl
  case poisoned => exact fun _ _ => rfl
  case holdsOwn => exact fun holds => holds
  case ran => exact ⟨[], rfl, fun _ member => absurd member List.not_mem_nil⟩
  all_goals rfl

theorem trans (first : Spares S s t) (second : Spares S t u) : Spares S s u := by
  constructor
  case registry => exact second.registry.trans first.registry
  case mapping => exact second.mapping.trans first.mapping
  case provider => exact second.provider.trans first.provider
  case reachable => exact second.reachable.trans first.reachable
  case stack => exact second.stack.trans first.stack
  case settling => exact second.settling.trans first.settling
  case length => exact Nat.le_trans first.length second.length
  case kept => exact fun present => second.kept (first.kept present)
  case fresh =>
    intro key id present
    rcases second.fresh present with before | ⟨own, new⟩
    · exact first.fresh before
    · exact .inr ⟨own, Nat.le_trans first.length new⟩
  case instances =>
    intro id old apart
    have apartThen : ∀ key, S key → t.cachedId? key ≠ some id := by
      intro key own present
      rcases first.fresh present with before | ⟨-, new⟩
      · exact apart key own before
      · exact absurd old (Nat.not_lt.mpr new)
    exact (second.instances (Nat.lt_of_lt_of_le old first.length) apartThen).trans
      (first.instances old apart)
  case kinds => exact fun key => (second.kinds key).trans (first.kinds key)
  case poisoned =>
    exact fun key other => (second.poisoned key other).trans (first.poisoned key other)
  case holdsOwn => exact fun holds => second.holdsOwn (first.holdsOwn holds)
  case ran =>
    obtain ⟨before, grown, concerned⟩ := first.ran
    obtain ⟨after, grownMore, concernedMore⟩ := second.ran
    refine ⟨after ++ before, by rw [grownMore, grown, List.append_assoc], ?_⟩
    intro event member key id about
    rcases List.mem_append.mp member with late | soon
    · exact concernedMore event late key id about
    · obtain ⟨own, present⟩ := concerned event soon key id about
      exact ⟨own, second.kept present⟩

/-- What spares everything outside a set spares everything outside a larger one. -/
theorem cachedId? (spares : Spares S s t) (other : ¬ S key) :
    t.cachedId? key = s.cachedId? key := by
  cases before : s.cachedId? key with
  | some id => exact spares.kept before
  | none =>
      cases after : t.cachedId? key with
      | none => rfl
      | some id =>
          rcases spares.fresh after with same | ⟨own, -⟩
          · rw [before] at same
            cases same
          · exact absurd own other

/-- The instance of a key outside the set is as it was. -/
theorem instance? (spares : Spares S s t) (holds : s.HoldsOwn) (other : ¬ S key)
    (present : s.cachedId? key = some id) : t.instance? id = s.instance? id := by
  refine spares.instances (holds.held present) fun about own again => ?_
  exact other (holds.distinct present again ▸ own)

theorem cachedInstance? (spares : Spares S s t) (holds : s.HoldsOwn) (other : ¬ S key) :
    t.cachedInstance? key = s.cachedInstance? key := by
  rw [Store.cachedInstance?, Store.cachedInstance?, spares.cachedId? other]
  cases present : s.cachedId? key with
  | none => rfl
  | some id => exact spares.instance? holds other present

theorem names_iff (spares : Spares S s t) (key other : String) :
    t.Names key other ↔ s.Names key other :=
  Store.names_iff (spares.kinds key)

theorem names_eq (spares : Spares S s t) : t.Names = s.Names :=
  funext fun key => funext fun other => propext (spares.names_iff key other)

theorem closed {T : String → Prop} (spares : Spares S s t) (closed : s.Closed T) : t.Closed T :=
  fun key other own names => closed key other own ((spares.names_iff key other).mp names)

/-- Something is added to the journal that is not about a phase. -/
theorem note {event : Event} (silent : event.about? = none) (s : Store) :
    Spares S s (s.note event) := by
  refine { Spares.refl S s with ran := ⟨[event], rfl, fun other member key id about => ?_⟩ }
  rw [List.mem_singleton.mp member, silent] at about
  cases about

theorem report (entry : Diagnostic) (s : Store) : Spares S s (s.report entry) := by
  have recorded : Spares S s { s with channel := s.channel.record entry } :=
    { Spares.refl S s with }
  exact recorded.trans (note rfl _)

theorem surround (surroundings : Surroundings) (s : Store) :
    Spares S s { s with surroundings } :=
  { Spares.refl S s with }

theorem of_remarked (remarked : s.Remarked t) : Spares S s t := by
  cases remarked with
  | nothing => exact .refl S s
  | said label text => exact note rfl s
  | reported entry => exact report entry s

/-- The instance of a key in the set changes, but not in what it is. -/
theorem update (own : S key) (present : s.cachedId? key = some id)
    (change : Component → Component)
    (same : ∀ component, s.instance? id = some component →
      (change component).body.kind = component.body.kind) :
    Spares S s (s.update id change) := by
  have bodies : ∀ other, (((s.update id change).instance? other).map Component.body).map Body.kind =
      ((s.instance? other).map Component.body).map Body.kind := by
    intro other
    rw [Store.instance?_update]
    split
    · rename_i equal
      subst equal
      cases held : s.instance? id with
      | none => rfl
      | some component => exact congrArg some (same component held)
    · rfl
  have unchanged : ∀ other, (s.update id change).cachedId? other = s.cachedId? other :=
    fun _ => rfl
  refine { Spares.refl S s with length := ?_, instances := ?_, kinds := ?_, holdsOwn := ?_ }
  · simp [Store.update]
  · intro other old apart
    have different : id ≠ other := by
      rintro rfl
      exact apart key own present
    rw [Store.instance?_update, if_neg different]
  · intro other
    have expand : ∀ u : Store, u.cachedId? other = s.cachedId? other →
        u.bodyOf? other = s.bodyOf? other →
        (u.bodyAt? other).map Body.kind =
          (((s.cachedId? other).bind fun number =>
            ((u.instance? number).map Component.body).map Body.kind).or
              ((s.bodyOf? other).map Body.kind)) := by
      intro u cached built
      rw [Store.bodyAt?, Store.cachedInstance?, cached, built]
      cases s.cachedId? other with
      | none => simp
      | some number =>
          rw [Option.bind_some, Option.bind_some]
          cases u.instance? number <;> simp
    rw [expand _ (unchanged other) rfl, expand s rfl rfl]
    exact congrArg (fun found => ((s.cachedId? other).bind found).or _) (funext bodies)
  · intro holds
    refine ⟨fun there => ?_, fun there again => holds.distinct there again⟩
    have old := holds.held there
    simpa [Store.update] using old

theorem mark (own : S key) (present : s.cachedId? key = some id) : Spares S s (s.mark id) :=
  (update own present (fun component => { component with initialized := true })
    fun _ _ => rfl).trans (note rfl _)

theorem unmark (own : S key) (present : s.cachedId? key = some id) : Spares S s (s.unmark id) :=
  update own present _ fun _ _ => rfl

theorem enter (own : S key) (present : s.cachedId? key = some id) (phase : Phase) :
    Spares S s (s.enter id phase) :=
  (update own present (fun component => { component with calls := component.calls.next phase })
    fun _ _ => rfl).trans (note rfl _)

/-- An instance is built for a key in the set. -/
theorem construct {implementation : String} {name : Option String} {body : Body}
    (holds : s.HoldsOwn) (own : S key) (absent : s.cachedId? key = none)
    (found : s.bodyOf? key = some body) :
    Spares S s (s.construct key implementation name body) := by
  have cached := s.cachedId?_construct key implementation name body
  have instances := s.instance?_construct key implementation name body
  have grown : (s.construct key implementation name body).instances.length =
      s.instances.length + 1 := by
    rw [Store.instances_construct, List.length_append, List.length_singleton]
  refine { Spares.refl S s with
    length := by omega, kept := ?_, fresh := ?_, instances := ?_, kinds := ?_, holdsOwn := ?_,
    ran := ?_ }
  · intro other id present
    have different : other ≠ key := by
      rintro rfl
      rw [absent] at present
      cases present
    rw [cached, if_neg different]
    exact present
  · intro other id present
    rw [cached] at present
    split at present
    · rename_i same
      cases present
      exact .inr ⟨same ▸ own, Nat.le_refl _⟩
    · exact .inl present
  · intro id old apart
    rw [instances, if_neg (Nat.ne_of_lt old)]
  · intro other
    rw [Store.bodyAt?, Store.cachedInstance?_construct holds]
    by_cases same : other = key
    · subst same
      rw [if_pos rfl, Store.bodyAt?, Store.cachedInstance?, absent, Option.bind_none, found]
      rfl
    · rw [if_neg same]
      rfl
  · exact fun _ => holds.construct key implementation name body
  · refine ⟨[_, _], Store.journal_construct s key implementation name body, ?_⟩
    intro event member other id about
    simp only [List.mem_cons, List.not_mem_nil, or_false] at member
    rcases member with rfl | rfl <;> cases about

theorem of_instanceEnd {result : Except BrokerFault Nat} (holds : s.HoldsOwn) (own : S key)
    (ending : InstanceEnd key s result t) : Spares S s t := by
  cases ending with
  | cached present => exact .refl S s
  | unbuildable absent nothing unresolved remark =>
      rcases remark with rfl | ⟨implementation, rfl⟩
      · exact .refl S _
      · exact note rfl s
  | built absent assigned found =>
      refine construct holds own absent ?_
      rw [Store.bodyOf?, assigned, Option.bind_some, found]

theorem poison (own : S key) (reason : String) (s : Store) :
    Spares S s (s.poison key reason) := by
  refine { Spares.refl S s with poisoned := fun other outside => ?_ }
  have different : other ≠ key := by
    rintro rfl
    exact outside own
  rw [Store.poison, Entries.get?_put, if_neg different]

theorem clearPoison (own : S key) (s : Store) : Spares S s (s.clearPoison key) := by
  refine { Spares.refl S s with poisoned := fun other outside => ?_ }
  have different : other ≠ key := by
    rintro rfl
    exact outside own
  rw [Store.clearPoison, Entries.get?_erase, if_neg different]

/-- A phase of a key in the set spares the keys outside if what happens inside it does. -/
theorem framed {phase : Phase} {result : Except PhaseFault Unit} (own : S key)
    (present : s.cachedId? key = some id) (inside : Spares S (s.openPhase key id phase) t) :
    Spares S s (t.closePhase key id phase result) := by
  have still : t.cachedId? key = some id := by
    apply inside.kept
    cases phase <;> exact present
  -- The store after the phase, with the lists of keys in progress as they were before.
  have ended : Spares S s ({ t with stack := s.stack, settling := s.settling }.note
      (.ended key id phase result.isOk)) := by
    have grown : ∃ events, (.ended key id phase result.isOk :: t.journal) = events ++ s.journal ∧
        ∀ event ∈ events, ∀ about number,
          event.about? = some (about, number) → S about ∧ t.cachedId? about = some number := by
      obtain ⟨events, grown, concerned⟩ := inside.ran
      rw [journal_openPhase] at grown
      refine ⟨.ended key id phase result.isOk :: (events ++ [.started key id phase]), ?_, ?_⟩
      · rw [grown]
        simp
      · intro event member about number concerns
        simp only [List.mem_cons, List.mem_append, List.not_mem_nil, or_false] at member
        rcases member with rfl | old | rfl
        · cases concerns
          exact ⟨own, still⟩
        · exact concerned event old about number concerns
        · cases concerns
          exact ⟨own, still⟩
    cases phase <;> exact { inside with stack := rfl, settling := rfl, ran := grown }
  have stack : (s.openPhase key id phase).stack = t.stack := inside.stack.symm
  have settling : (s.openPhase key id phase).settling = t.settling := inside.settling.symm
  cases phase with
  | early =>
      have below : s.stack = t.stack.tail := by rw [← stack]; rfl
      rw [below, show s.settling = t.settling from settling] at ended
      cases result with
      | ok _ => exact ended.trans (clearPoison own _)
      | error fault => exact ended
  | late =>
      have below : s.settling = t.settling.tail := by rw [← settling]; rfl
      rw [show s.stack = t.stack from stack, below] at ended
      cases result with
      | ok _ => exact ended
      | error fault => exact ended.trans (poison own _ _)
  | shutdown =>
      rw [show s.stack = t.stack from stack, show s.settling = t.settling from settling] at ended
      exact ended.trans (unmark own still)

end Spares

namespace Broker

/-- Phases of the components of a closed set spare all keys outside the set. -/
def Local (run : PhaseRunner) : Prop :=
  ∀ id phase data s result t, run id phase data s = .finished (result, t) →
    ∀ (S : String → Prop) key, s.HoldsOwn → s.Closed S → S key → s.cachedId? key = some id →
      Spares S s t

section Walk

variable {run : PhaseRunner} {S : String → Prop} {key : String} {id : Nat} {s t : Store}

theorem served_spares (confined : Local run) (holds : s.HoldsOwn) (closed : s.Closed S)
    (own : S key) (served : Served run key s t) : Spares S s t := by
  cases served with
  | left => exact Spares.refl S _
  | @ran id phase data raw result u present admits ran judged =>
      have opened : ∀ {phase}, (s.openPhase key id phase).HoldsOwn ∧
          (s.openPhase key id phase).Closed S ∧
          (s.openPhase key id phase).cachedId? key = some id := by
        intro phase
        cases phase <;> exact ⟨⟨holds.held, holds.distinct⟩, closed, present⟩
      obtain ⟨holdsThen, closedThen, presentThen⟩ := @opened phase
      exact Spares.framed own present
        (confined _ _ _ _ _ _ ran S key holdsThen closedThen own presentThen)

/-- Whatever the broker is asked to do about a key of a closed set spares the keys outside. -/
theorem request_spares (confined : Local run) (holds : s.HoldsOwn) (closed : s.Closed S)
    (own : S key) {action : Action} {data : StartupData} {answer : Except BrokerFault Answer}
    (names : action.named? = some key)
    (finished : action.request run data s = .finished (answer, t)) : Spares S s t := by
  obtain ⟨u, v, prefaced, found, served⟩ := request_serves names finished
  have first : Spares S s u := .of_remarked prefaced.remarked
  have second : Spares S u v := by
    rcases found with rfl | ⟨built, ending⟩
    · exact .refl S _
    · exact .of_instanceEnd (first.holdsOwn holds) own ending
  have both : Spares S s v := first.trans second
  exact both.trans (served_spares confined (both.holdsOwn holds) (both.closed closed) own served)

theorem act_spares (confined : Local run) (holds : s.HoldsOwn) (closed : s.Closed S) (own : S key)
    {now : Situation} (present : s.cachedId? key = some now.id) {action : Action}
    (named : ∀ other, action.named? = some other → S other) {result : Except PhaseFault Heard}
    (finished : act run now action s = .finished (result, t)) : Spares S s t := by
  cases act_ends finished with
  | marked => exact .mark own present
  | unmarked => exact .unmark own present
  | requested names owned answered remarked =>
      exact (request_spares confined holds closed (named _ names) names answered).trans
        (.of_remarked remarked)
  | unowned names unowned remarked => exact .of_remarked remarked
  | remarked silent marking unmarking remarked => exact .of_remarked remarked

theorem perform_spares (confined : Local run) (holds : s.HoldsOwn) (closed : s.Closed S)
    (own : S key) {now : Situation} (present : s.cachedId? key = some now.id)
    {course : Course}
    (named : ∀ action ∈ course, ∀ other, action.named? = some other → S other)
    {result : Except PhaseFault Unit}
    (finished : perform run now course s = .finished (result, t)) : Spares S s t := by
  refine perform_walk (P := Spares S s) ?_ (.refl S s) finished
  intro action member u v done before acted
  exact before.trans (act_spares confined (before.holdsOwn holds) (before.closed closed) own
    (before.kept present) (named action member) acted)

/-- The course of a script in a phase names keys of the closed set only. -/
theorem named_of_closed (closed : s.Closed S) (own : S key) (present : s.cachedId? key = some id)
    {script : Script} (scripted : (s.instance? id).map Component.body = some (.scripted script))
    {data seenData : StartupData} {phase seen : Phase} {course : Course}
    (planned : script.plan data phase = (seen, seenData, course)) :
    ∀ action ∈ course, ∀ other, action.named? = some other → S other := by
  intro action member other names
  have referred : (Body.scripted script).RefersTo other :=
    ⟨data, phase, action, by rwa [planned], names⟩
  exact closed key other own ⟨_, s.bodyAt?_eq present scripted, referred⟩

theorem runBody_local (confined : Local run) : Local (runBody run) := by
  intro id phase data s result t finished S key holds closed own present
  -- A script is followed from the store on in which its phase has been entered.
  have follow : ∀ {seen : Phase} {now : Situation} {course : Course} {u : Store}
      {done : Except PhaseFault Unit}, now.id = id →
      (∀ action ∈ course, ∀ other, action.named? = some other → S other) →
      perform run now course (s.enter id seen) = .finished (done, u) → Spares S s u := by
    intro seen now course u done same named performing
    have entered : Spares S s (s.enter id seen) := .enter own present seen
    exact entered.trans (perform_spares confined (entered.holdsOwn holds) (entered.closed closed)
      own (by rw [same]; exact entered.kept present) named performing)
  cases runBody_ends finished with
  | absent missing => exact .refl S s
  | performed initializing scripted planned performing =>
      exact follow rfl (named_of_closed closed own present scripted planned) performing
  | closed scripted performing remarked =>
      have named := named_of_closed closed own present scripted (Script.plan_shutdown _ data)
      exact (follow rfl named performing).trans (.of_remarked remarked)
  | marked initializing held => exact .mark own present
  | refused initializing => exact .refl S s
  | @started _ _ body surroundings initializing held =>
      have surrounded : Spares S s { s with surroundings } := .surround surroundings s
      have there : ({ s with surroundings } : Store).cachedId? key = some id := present
      refine (surrounded.trans (.update own there _ fun component found => ?_)).trans
        (.mark own present)
      rw [show s.instance? id = some component from found] at held
      exact (Option.some.inj held).symm
  | unmarked => exact .unmark own present
  | @unloaded _ loaded held =>
      refine Spares.trans (.update own present _ fun component found => ?_) (.unmark own present)
      rw [found] at held
      rw [Option.some.inj held]
      rfl

/-- However deep phases may nest, they keep to what they refer to. -/
theorem runPhase_local (depth : Nat) : Local (runPhase depth) := by
  induction depth with
  | zero =>
      intro id phase data s result t finished
      cases finished
  | succ depth inductionHypothesis => exact runBody_local inductionHypothesis

end Walk

end Broker

end ServiceLifecycle
