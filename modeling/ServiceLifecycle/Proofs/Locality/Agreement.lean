/-
Module: ServiceLifecycle.Proofs.Locality.Agreement
Purpose: Two brokers that agree on a set of keys, whatever else they hold.
Main exports: Component.unlabelled, Store.Fixes, AgreesOn, Twin, Twin.components,
  Broker.instanceFor_apply
-/
import ServiceLifecycle.Proofs.Locality.Footprint

namespace ServiceLifecycle

/-!
Two brokers may have been used in different ways, so that they number their instances
differently and have different things to do with most keys.  On a set of keys they agree when
these keys have equal instances in both, up to the numbers, or none, and the same would be built
for them.

Twins also have the same phases in progress.  They stay twins when the same is done to both
about a key of the set, provided that the set is closed and that where they read sections of the
configuration does not depend on it.
-/

open Broker

/-- A component without the number that it has been given among the scripted ones. -/
def Component.unlabelled (component : Component) : Component :=
  { component with label := none }

namespace Store

/-- Sections are not read from an instance that a key of the set has. -/
def Fixes (s : Store) (S : String → Prop) : Prop :=
  ∀ id, s.provider = some (.component id) →
    id < s.instances.length ∧ ∀ key, S key → s.cachedId? key ≠ some id

/-- The set of keys is closed in every way that matters to a run. -/
def Confines (s : Store) (S : String → Prop) : Prop :=
  s.HoldsOwn ∧ s.Closed S ∧ s.Fixes S

end Store

/-- The registry has something for a key, whether it can be used or not. -/
def Finding.isSomething : Finding → Bool
  | .nothing => false
  | _ => true

theorem Registry.contains_eq (registry : Registry) (key : String) :
    registry.contains key = (registry.find key).isSomething := by
  rw [Registry.contains, Registry.find, Entries.contains]
  cases registry.recipes.get? key with
  | some recipe => rfl
  | none =>
      cases registry.static? key with
      | none => rfl
      | some entry =>
          by_cases unfit : (registry.capability = .service && !entry.isService) = true <;>
            simp [unfit, Finding.isSomething]

section Confines

variable {S : String → Prop} {s t : Store}

/-- What is spared includes the provider of sections. -/
theorem Spares.fixes (spares : Spares S s t) (fixed : s.Fixes S) : t.Fixes S := by
  intro id provider
  obtain ⟨old, apart⟩ := fixed id (spares.provider ▸ provider)
  refine ⟨Nat.lt_of_lt_of_le old spares.length, fun key own present => ?_⟩
  rcases spares.fresh present with before | ⟨-, new⟩
  · exact apart key own before
  · exact absurd old (Nat.not_lt.mpr new)

theorem Spares.confines (spares : Spares S s t) (confined : s.Confines S) : t.Confines S :=
  ⟨spares.holdsOwn confined.1, spares.closed confined.2.1, spares.fixes confined.2.2⟩

theorem Spares.sectionOf (spares : Spares S s t) (fixed : s.Fixes S) (name : String) :
    t.sectionOf name = s.sectionOf name := by
  have read : ∀ provider, s.provider = some provider →
      provider.configuration t ("services." ++ name) =
        provider.configuration s ("services." ++ name) := by
    intro provider given
    cases provider with
    | inMemory provider => rfl
    | component id =>
        obtain ⟨old, apart⟩ := fixed id given
        rw [Provider.configuration, Provider.configuration, Store.deploymentOf?,
          Store.deploymentOf?, spares.instances old apart]
  rw [Store.sectionOf, Store.sectionOf, spares.registry, spares.provider]
  cases given : s.provider with
  | none => rfl
  | some provider => rw [Option.bind_some, Option.bind_some, read provider given]

end Confines

/-- The brokers agree on a set of keys, and the world around them is the same.  They read the same
sections; for each key of the set they would build the same; the key has equal instances in both,
up to the numbers, or none; and its late phases have failed in the same way. -/
structure AgreesOn (S : String → Prop) (s t : Store) : Prop where
  capability : t.registry.capability = s.registry.capability
  reachable : t.reachable = s.reachable
  surroundings : t.surroundings = s.surroundings
  sections : ∀ name, t.sectionOf name = s.sectionOf name
  assigned : ∀ key, S key → t.assigned? key = s.assigned? key
  findings : ∀ key, S key → ∀ implementation name, s.assigned? key = some (implementation, name) →
    t.registry.find implementation = s.registry.find implementation
  instances : ∀ key, S key → (t.cachedInstance? key).map Component.unlabelled =
    (s.cachedInstance? key).map Component.unlabelled
  poisoned : ∀ key, S key → t.poisoned.get? key = s.poisoned.get? key

namespace AgreesOn

variable {S : String → Prop} {s t : Store} {key : String}

theorem bodyAt? (agrees : AgreesOn S s t) (own : S key) : t.bodyAt? key = s.bodyAt? key := by
  have bodies : ∀ u : Store, (u.cachedInstance? key).map Component.body =
      ((u.cachedInstance? key).map Component.unlabelled).map Component.body := by
    intro u
    rw [Option.map_map]
    rfl
  have built : t.bodyOf? key = s.bodyOf? key := by
    rw [Store.bodyOf?, Store.bodyOf?, agrees.assigned key own]
    cases given : s.assigned? key with
    | none => rfl
    | some assigned =>
        rw [Option.bind_some, Option.bind_some, Registry.bodyFor?,
          agrees.findings key own assigned.1 assigned.2 given, Registry.bodyFor?]
  have expand : ∀ u : Store, u.bodyAt? key =
      ((u.cachedInstance? key).map Component.body).or (u.bodyOf? key) := by
    intro u
    rw [Store.bodyAt?]
    cases u.cachedInstance? key <;> rfl
  rw [expand, expand, bodies t, agrees.instances key own, ← bodies s, built]

/-- A set that is closed for one broker is closed for the other one. -/
theorem closed (agrees : AgreesOn S s t) (closed : s.Closed S) : t.Closed S := by
  rintro key other own ⟨body, found, member⟩
  exact closed key other own ⟨body, agrees.bodyAt? own ▸ found, member⟩

end AgreesOn

/-- Two brokers in the midst of the same phases that agree on a set of keys. -/
structure Twin (S : String → Prop) (s t : Store) : Prop extends AgreesOn S s t where
  left : s.Confines S
  right : t.Confines S
  stack : t.stack = s.stack
  settling : t.settling = s.settling

namespace Twin

variable {S : String → Prop} {s t u v : Store} {key : String} {id other : Nat}

/-- The instances that a key of the set has in twins differ in nothing but their labels. -/
theorem components (twin : Twin S s t) (own : S key) (first : s.cachedId? key = some id)
    (second : t.cachedId? key = some other) :
    ∃ component label, s.instance? id = some component ∧
      t.instance? other = some { component with label } := by
  obtain ⟨component, one⟩ := twin.left.1.instance? first
  obtain ⟨again, two⟩ := twin.right.1.instance? second
  have same := twin.instances key own
  rw [s.cachedInstance?_eq first, t.cachedInstance?_eq second, one, two] at same
  obtain ⟨implementation, body, label, name, owned, initialized, calls⟩ := component
  obtain ⟨_, _, given, _, _, _, _⟩ := again
  cases same
  exact ⟨_, given, one, two⟩

/-- A key of the set has an instance in both or in none. -/
theorem cachedId?_isSome (twin : Twin S s t) (own : S key) :
    (t.cachedId? key).isSome = (s.cachedId? key).isSome := by
  have expand : ∀ {u : Store}, u.HoldsOwn → (u.cachedId? key).isSome =
      ((u.cachedInstance? key).map Component.unlabelled).isSome := by
    intro u holds
    rw [Option.isSome_map, Store.cachedInstance?]
    cases present : u.cachedId? key with
    | none => rfl
    | some id =>
        obtain ⟨component, held⟩ := holds.instance? present
        rw [Option.bind_some, held]
        rfl
  rw [expand twin.right.1, expand twin.left.1, twin.instances key own]

theorem isReady (twin : Twin S s t) (own : S key) (first : s.cachedId? key = some id)
    (second : t.cachedId? key = some other) : t.isReady other = s.isReady id := by
  obtain ⟨component, label, one, two⟩ := twin.components own first second
  rw [Store.isReady, Store.isReady, one, two]
  rfl

theorem hasOwner (twin : Twin S s t) (own : S key) (first : s.cachedId? key = some id)
    (second : t.cachedId? key = some other) : hasOwner t other = hasOwner s id := by
  obtain ⟨component, label, one, two⟩ := twin.components own first second
  rw [Broker.hasOwner, Broker.hasOwner, one, two, twin.reachable]
  rfl

theorem nameOf (twin : Twin S s t) (own : S key) (first : s.cachedId? key = some id)
    (second : t.cachedId? key = some other) : t.nameOf other = s.nameOf id := by
  obtain ⟨component, label, one, two⟩ := twin.components own first second
  rw [Store.nameOf, Store.nameOf, one, two]
  rfl

theorem body (twin : Twin S s t) (own : S key) (first : s.cachedId? key = some id)
    (second : t.cachedId? key = some other) :
    (t.instance? other).map Component.body = (s.instance? id).map Component.body := by
  obtain ⟨component, label, one, two⟩ := twin.components own first second
  rw [one, two]
  rfl

/-- Only a broker of services has the mapping decide what is known. -/
theorem isKnown (twin : Twin S s t) (own : S key) : isKnown t key = isKnown s key := by
  have constructed : t.isConstructed key = s.isConstructed key := twin.cachedId?_isSome own
  have assigned := twin.assigned key own
  rw [Broker.isKnown, Broker.isKnown, constructed, twin.capability]
  cases capability : s.registry.capability with
  | component =>
      have found := twin.findings key own key none (by rw [Store.assigned?, capability])
      rw [Registry.contains_eq, Registry.contains_eq, found]
  | service =>
      simp only [Store.assigned?, capability, twin.capability] at assigned
      have mapped := congrArg Option.isSome assigned
      rw [Option.isSome_map, Option.isSome_map] at mapped
      simp only [Mapping.contains, Entries.contains]
      exact congrArg (s.isConstructed key || ·) mapped

/-- What is noted in a journal or reported makes no difference. -/
theorem remarked (twin : Twin S s t) (first : s.Remarked u) (second : t.Remarked v) :
    Twin S u v := by
  have left : Twin S u t := by
    cases first <;> exact { twin with }
  cases second <;> exact { left with }

theorem note (twin : Twin S s t) (event again : Event) :
    Twin S (s.note event) (t.note again) :=
  { twin with }

theorem surround (twin : Twin S s t) (surroundings : Surroundings) :
    Twin S { s with surroundings } { t with surroundings } :=
  { twin with surroundings := rfl }

theorem restack (twin : Twin S s t) (stack : List String) :
    Twin S { s with stack } { t with stack } :=
  { twin with stack := rfl }

theorem resettle (twin : Twin S s t) (settling : List String) :
    Twin S { s with settling } { t with settling } :=
  { twin with settling := rfl }

theorem poison (twin : Twin S s t) (key reason : String) :
    Twin S (s.poison key reason) (t.poison key reason) := by
  refine { twin with poisoned := fun other own => ?_ }
  rw [Store.poison, Store.poison, Entries.get?_put, Entries.get?_put, twin.poisoned other own]

theorem clearPoison (twin : Twin S s t) (key : String) :
    Twin S (s.clearPoison key) (t.clearPoison key) := by
  refine { twin with poisoned := fun other own => ?_ }
  rw [Store.clearPoison, Store.clearPoison, Entries.get?_erase, Entries.get?_erase,
    twin.poisoned other own]

/-- The same happens to the instances that a key has in both. -/
theorem update (twin : Twin S s t) (own : S key) (first : s.cachedId? key = some id)
    (second : t.cachedId? key = some other) (change : Component → Component)
    (blind : ∀ component label, (change { component with label }).unlabelled =
      (change component).unlabelled)
    (same : ∀ component, s.instance? id = some component →
      (change component).body.kind = component.body.kind) :
    Twin S (s.update id change) (t.update other change) := by
  have again : ∀ component, t.instance? other = some component →
      (change component).body.kind = component.body.kind := by
    obtain ⟨component, label, one, two⟩ := twin.components own first second
    intro given found
    rw [two] at found
    cases found
    have bodies := congrArg Component.body (blind component label)
    exact (congrArg Body.kind bodies).trans (same component one)
  have sparesLeft : Spares S s (s.update id change) := .update own first change same
  have sparesRight : Spares S t (t.update other change) := .update own second change again
  refine { twin with
    left := sparesLeft.confines twin.left, right := sparesRight.confines twin.right,
    sections := fun name => ?_, instances := fun about within => ?_ }
  · rw [sparesLeft.sectionOf twin.left.2.2, sparesRight.sectionOf twin.right.2.2]
    exact twin.sections name
  · rw [Store.cachedInstance?_update twin.left.1 first,
      Store.cachedInstance?_update twin.right.1 second]
    split
    · obtain ⟨component, label, one, two⟩ := twin.components own first second
      rw [s.cachedInstance?_eq first, t.cachedInstance?_eq second, one, two]
      exact congrArg some (blind component label)
    · exact twin.instances about within

theorem mark (twin : Twin S s t) (own : S key) (first : s.cachedId? key = some id)
    (second : t.cachedId? key = some other) : Twin S (s.mark id) (t.mark other) :=
  (twin.update own first second (fun component => { component with initialized := true })
    (fun _ _ => rfl) fun _ _ => rfl).note _ _

theorem unmark (twin : Twin S s t) (own : S key) (first : s.cachedId? key = some id)
    (second : t.cachedId? key = some other) : Twin S (s.unmark id) (t.unmark other) :=
  twin.update own first second _ (fun _ _ => rfl) fun _ _ => rfl

theorem enter (twin : Twin S s t) (own : S key) (first : s.cachedId? key = some id)
    (second : t.cachedId? key = some other) (phase : Phase) :
    Twin S (s.enter id phase) (t.enter other phase) :=
  (twin.update own first second
    (fun component => { component with calls := component.calls.next phase })
    (fun _ _ => rfl) fun _ _ => rfl).note _ _

/-- Both enter the phase for the same time. -/
theorem situation (twin : Twin S s t) (own : S key) (first : s.cachedId? key = some id)
    (second : t.cachedId? key = some other) (phase : Phase) (data : StartupData) :
    (t.situation other phase data).run = (s.situation id phase data).run := by
  have entered := twin.enter own first second phase
  have one : (s.enter id phase).cachedId? key = some id := first
  have two : (t.enter other phase).cachedId? key = some other := second
  obtain ⟨component, label, held, again⟩ := entered.components own one two
  rw [Store.situation, Store.situation, held, again]
  rfl

theorem openPhase (twin : Twin S s t) (key : String) (id other : Nat) (phase : Phase) :
    Twin S (s.openPhase key id phase) (t.openPhase key other phase) := by
  cases phase with
  | early =>
      have pushed := twin.restack (key :: s.stack)
      rw [Store.openPhase, Store.openPhase, twin.stack]
      exact pushed.note _ _
  | late =>
      have pushed := twin.resettle (key :: s.settling)
      rw [Store.openPhase, Store.openPhase, twin.settling]
      exact pushed.note _ _
  | shutdown => exact twin.note _ _

theorem closePhase (twin : Twin S s t) (own : S key) (first : s.cachedId? key = some id)
    (second : t.cachedId? key = some other) (phase : Phase) (result : Except PhaseFault Unit)
    (again : Except PhaseFault Unit) (same : phase ≠ .shutdown → again = result) :
    Twin S (s.closePhase key id phase result) (t.closePhase key other phase again) := by
  cases phase with
  | early =>
      rw [same (by decide)]
      have popped := (twin.note (.ended key id .early result.isOk)
        (.ended key other .early result.isOk)).restack s.stack.tail
      cases result with
      | ok _ =>
          rw [Store.closePhase, Store.closePhase, twin.stack]
          exact popped.clearPoison key
      | error fault =>
          rw [Store.closePhase, Store.closePhase, twin.stack]
          exact popped
  | late =>
      rw [same (by decide)]
      have popped := (twin.note (.ended key id .late result.isOk)
        (.ended key other .late result.isOk)).resettle s.settling.tail
      cases result with
      | ok _ =>
          rw [Store.closePhase, Store.closePhase, twin.settling]
          exact popped
      | error fault =>
          rw [Store.closePhase, Store.closePhase, twin.settling]
          exact popped.poison key _
  | shutdown => exact (twin.note _ _).unmark own first second

/-- Both build the same for a key. -/
theorem construct (twin : Twin S s t) (own : S key) {implementation : String}
    {name : Option String} {body : Body} (first : s.cachedId? key = none)
    (second : t.cachedId? key = none) (assigned : s.assigned? key = some (implementation, name))
    (found : s.registry.bodyFor? implementation = some body) :
    Twin S (s.construct key implementation name body)
      (t.construct key implementation name body) := by
  have built : s.bodyOf? key = some body := by
    rw [Store.bodyOf?, assigned, Option.bind_some, found]
  have builtAgain : t.bodyOf? key = some body := by
    rw [Store.bodyOf?, twin.assigned key own, assigned, Option.bind_some, Registry.bodyFor?,
      twin.findings key own implementation name assigned, ← found, Registry.bodyFor?]
  have sparesLeft : Spares S s (s.construct key implementation name body) :=
    .construct twin.left.1 own first built
  have sparesRight : Spares S t (t.construct key implementation name body) :=
    .construct twin.right.1 own second builtAgain
  refine { twin with
    left := sparesLeft.confines twin.left, right := sparesRight.confines twin.right,
    sections := fun name => ?_, instances := fun about within => ?_ }
  · rw [sparesLeft.sectionOf twin.left.2.2, sparesRight.sectionOf twin.right.2.2]
    exact twin.sections name
  · rw [Store.cachedInstance?_construct twin.left.1, Store.cachedInstance?_construct twin.right.1]
    split
    · rfl
    · exact twin.instances about within

end Twin

end ServiceLifecycle
