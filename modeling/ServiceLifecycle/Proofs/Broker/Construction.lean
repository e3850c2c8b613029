/-
Module: ServiceLifecycle.Proofs.Broker.Construction
Purpose: How the search for the instance of a key ends, and what a new instance is.
Main exports: Registry.bodyFor?, Store.assigned?, Store.construct, Broker.BuildEnd,
  Broker.build_ends, Broker.ConstructEnd, Broker.constructAs_ends, Broker.InstanceEnd,
  Broker.instanceFor_assigned, Broker.instanceFor_ends
-/
import ServiceLifecycle.Proofs.Computation

namespace ServiceLifecycle

/-!
Looking for the instance of a key always comes to an end: it is there, or it cannot be
built, or it is built and cached in one go.  Nothing else in the store depends on which
of the three happens, except that a recipe which refuses leaves a note.
-/

/-- What the registry builds an implementation from. -/
def Registry.bodyFor? (registry : Registry) (implementation : String) : Option Body :=
  match registry.find implementation with
  | .recipe (.build body) | .entry body => some body
  | _ => none

namespace Store

/-- The implementation of a key, and the name that an instance of it is given. -/
def assigned? (s : Store) (key : String) : Option (String × Option String) :=
  match s.registry.capability with
  | .component => some (key, none)
  | .service => (s.mapping.get? key).map fun implementation => (implementation, some key)

/-- What an instance of a key would be built from. -/
def bodyOf? (s : Store) (key : String) : Option Body :=
  (s.assigned? key).bind fun assigned => s.registry.bodyFor? assigned.1

/-- The component that is built for a key. -/
def newComponent (s : Store) (implementation : String) (name : Option String) (body : Body) :
    Component :=
  { implementation, body, label := s.nextLabel body, name, owned := true }

/-- Build an instance and cache it under a key. -/
def construct (s : Store) (key implementation : String) (name : Option String) (body : Body) :
    Store :=
  let (id, added) := s.add implementation body (some key)
  added.adopt key name id

section Construct

variable (s : Store) (key implementation : String) (name : Option String) (body : Body)

theorem instances_construct :
    (s.construct key implementation name body).instances =
      s.instances ++ [s.newComponent implementation name body] := by
  apply List.ext_getElem?
  intro i
  simp only [construct, add, adopt, note, update, List.getElem?_modify]
  by_cases last : s.instances.length = i
  · subst last
    cases name <;> simp [newComponent, Component.withName]
  · simp only [last, if_false, id_map']
    by_cases old : i < s.instances.length
    · rw [List.getElem?_append_left old, List.getElem?_append_left old]
    · rw [List.getElem?_eq_none (by simp; omega), List.getElem?_eq_none (by simp; omega)]

theorem instance?_construct (id : Nat) :
    (s.construct key implementation name body).instance? id =
      if id = s.instances.length then some (s.newComponent implementation name body)
      else s.instance? id := by
  rw [instance?, instances_construct]
  by_cases last : id = s.instances.length
  · subst last
    simp
  · rw [if_neg last]
    by_cases old : id < s.instances.length
    · rw [List.getElem?_append_left old, instance?]
    · rw [List.getElem?_eq_none (by simp; omega), instance?, List.getElem?_eq_none (by omega)]

/-- An instance is new when it is built, so it is not initialized, and no other one
changes its status. -/
theorem isReady_construct (id : Nat) :
    (s.construct key implementation name body).isReady id = s.isReady id := by
  rw [isReady, isReady, instance?_construct]
  split
  · rename_i last
    have absent : s.instance? id = none := List.getElem?_eq_none (by omega)
    rw [absent]
    rfl
  · rfl

theorem cachedId?_construct (other : String) :
    (s.construct key implementation name body).cachedId? other =
      if other = key then some s.instances.length else s.cachedId? other :=
  Entries.get?_put key other s.instances.length s.cached

/-- A key that gets an instance is not initialized by that. -/
theorem isInitialized_construct (absent : s.cachedId? key = none) (other : String) :
    (s.construct key implementation name body).isInitialized other = s.isInitialized other := by
  have ready : (s.construct key implementation name body).isReady = s.isReady :=
    funext fun id => isReady_construct s key implementation name body id
  rw [isInitialized, ready, cachedId?_construct, isInitialized]
  by_cases same : other = key
  · subst same
    have fresh : s.instance? s.instances.length = none := List.getElem?_eq_none (Nat.le_refl _)
    rw [if_pos rfl, absent, Option.any_some, isReady, fresh]
    rfl
  · rw [if_neg same]

theorem journal_construct :
    (s.construct key implementation name body).journal =
      .cached key s.instances.length ::
        .built s.instances.length implementation (s.nextLabel body) (some key) :: s.journal := rfl

end Construct

end Store

/-- The fault says that the key could not be turned into a component. -/
def BrokerFault.IsUnresolved (key : String) : BrokerFault → Prop
  | .unresolved about _ _ _ => about = key
  | _ => False

namespace Broker

/-- How an attempt to build an instance of an implementation ends. -/
inductive BuildEnd (implementation : String) (key : Option String) (s : Store) :
    Built → Store → Prop where
  /-- Nothing can build it. -/
  | unknown (nothing : s.registry.bodyFor? implementation = none) :
      BuildEnd implementation key s .unknown s
  /-- It was refused. -/
  | refused {fault : ConstructionFault} {t : Store}
      (nothing : s.registry.bodyFor? implementation = none)
      (remark : t = s ∨ t = s.note (.refused implementation)) :
      BuildEnd implementation key s (.refused fault) t
  | made {body : Body} (found : s.registry.bodyFor? implementation = some body) :
      BuildEnd implementation key s (.instance s.instances.length)
        (s.add implementation body key).2

theorem build_ends (implementation : String) (key : Option String) (s : Store) :
    ∃ built t, build implementation key s = .finished (built, t) ∧
      BuildEnd implementation key s built t := by
  cases finding : s.registry.find implementation with
  | nothing =>
      exact ⟨.unknown, s, by simp [build, finding], .unknown (by rw [Registry.bodyFor?, finding])⟩
  | unfit =>
      refine ⟨.refused (.mismatch _), s, by simp [build, finding]; rfl, ?_⟩
      exact .refused (by rw [Registry.bodyFor?, finding]) (.inl rfl)
  | entry body =>
      refine ⟨.instance _, (s.add implementation body key).2, by simp [build, finding]; rfl, ?_⟩
      exact .made (by rw [Registry.bodyFor?, finding])
  | recipe recipe =>
      cases recipe with
      | build body =>
          refine ⟨.instance _, (s.add implementation body key).2, by simp [build, finding]; rfl, ?_⟩
          exact .made (by rw [Registry.bodyFor?, finding])
      | refuse fault =>
          refine ⟨.refused fault, s.note (.refused implementation), by simp [build, finding], ?_⟩
          exact .refused (by rw [Registry.bodyFor?, finding]) (.inr rfl)

theorem build_finished {implementation : String} {key : Option String} {s t : Store}
    {built : Built} (finished : build implementation key s = .finished (built, t)) :
    BuildEnd implementation key s built t := by
  obtain ⟨other, u, same, ending⟩ := build_ends implementation key s
  rw [finished] at same
  cases same
  exact ending

/-- How the search for the instance of a key ends, when it may be built from an
implementation. -/
inductive ConstructEnd (key implementation : String) (name : Option String) (s : Store) :
    Except BrokerFault Nat → Store → Prop where
  /-- The instance is there. -/
  | cached {id : Nat} (present : s.cachedId? key = some id) :
      ConstructEnd key implementation name s (.ok id) s
  /-- There is none, and nothing that it could be built from. -/
  | unbuildable {fault : BrokerFault} {t : Store} (absent : s.cachedId? key = none)
      (nothing : s.registry.bodyFor? implementation = none)
      (unresolved : fault.IsUnresolved key)
      (remark : t = s ∨ t = s.note (.refused implementation)) :
      ConstructEnd key implementation name s (.error fault) t
  /-- It has been built. -/
  | built {body : Body} (absent : s.cachedId? key = none)
      (found : s.registry.bodyFor? implementation = some body) :
      ConstructEnd key implementation name s (.ok s.instances.length)
        (s.construct key implementation name body)

theorem constructAs_ends (key implementation : String) (name : Option String) (s : Store) :
    ∃ result t, constructAs key implementation name s = .finished (result, t) ∧
      ConstructEnd key implementation name s result t := by
  cases present : s.cachedId? key with
  | some id => exact ⟨.ok id, s, by simp [constructAs, present], .cached present⟩
  | none =>
      obtain ⟨built, t, building, ending⟩ := build_ends implementation (some key) s
      cases ending with
      | unknown nothing =>
          refine ⟨.error (.ofReason key .unavailable implementation _), s,
            by simp [constructAs, present, building]; rfl, ?_⟩
          exact .unbuildable present nothing rfl (.inl rfl)
      | @refused fault t nothing remark =>
          refine ⟨.error (.ofConstruction key implementation _ fault), t,
            by simp [constructAs, present, building]; rfl, ?_⟩
          exact .unbuildable present nothing rfl remark
      | @made body found =>
          refine ⟨.ok s.instances.length, s.construct key implementation name body,
            by simp [constructAs, present, building]; rfl, ?_⟩
          exact .built present found

theorem constructAs_finished {key implementation : String} {name : Option String}
    {s t : Store} {result : Except BrokerFault Nat}
    (finished : constructAs key implementation name s = .finished (result, t)) :
    ConstructEnd key implementation name s result t := by
  obtain ⟨other, u, same, ending⟩ := constructAs_ends key implementation name s
  rw [finished] at same
  cases same
  exact ending

/-- How the search for the instance of a key ends. -/
inductive InstanceEnd (key : String) (s : Store) : Except BrokerFault Nat → Store → Prop where
  /-- The instance is there. -/
  | cached {id : Nat} (present : s.cachedId? key = some id) : InstanceEnd key s (.ok id) s
  /-- There is none, and nothing that it could be built from. -/
  | unbuildable {fault : BrokerFault} {t : Store} (absent : s.cachedId? key = none)
      (nothing : s.bodyOf? key = none) (unresolved : fault.IsUnresolved key)
      (remark : t = s ∨ ∃ implementation, t = s.note (.refused implementation)) :
      InstanceEnd key s (.error fault) t
  /-- It has been built. -/
  | built {implementation : String} {name : Option String} {body : Body}
      (absent : s.cachedId? key = none)
      (assigned : s.assigned? key = some (implementation, name))
      (found : s.registry.bodyFor? implementation = some body) :
      InstanceEnd key s (.ok s.instances.length) (s.construct key implementation name body)

theorem ConstructEnd.toInstanceEnd {key implementation : String} {name : Option String}
    {s t : Store} {result : Except BrokerFault Nat}
    (assigned : s.assigned? key = some (implementation, name))
    (ending : ConstructEnd key implementation name s result t) : InstanceEnd key s result t := by
  cases ending with
  | cached present => exact .cached present
  | unbuildable absent nothing unresolved remark =>
      refine .unbuildable absent ?_ unresolved (remark.imp_right fun same => ⟨_, same⟩)
      rw [Store.bodyOf?, assigned, Option.bind_some, nothing]
  | built absent found => exact .built absent assigned found

/-- An instance of a key that has an implementation is built from that one. -/
theorem instanceFor_assigned {key implementation : String} {name : Option String} {s : Store}
    (assigned : s.assigned? key = some (implementation, name)) :
    instanceFor key s = constructAs key implementation name s := by
  cases capability : s.registry.capability with
  | component =>
      rw [Store.assigned?, capability] at assigned
      cases assigned
      simp [instanceFor, capability]
  | service =>
      rw [Store.assigned?, capability] at assigned
      obtain ⟨other, mapped, same⟩ := Option.map_eq_some_iff.mp assigned
      cases same
      cases present : s.cachedId? key with
      | some id => simp [instanceFor, constructAs, capability, present]
      | none => simp [instanceFor, capability, present, mapped]

/-- A key that has no implementation may still have an instance. -/
theorem instanceFor_unassigned {key : String} {s : Store} (unassigned : s.assigned? key = none) :
    instanceFor key s =
      match s.cachedId? key with
      | some id => .finished (.ok id, s)
      | none => .finished (.error (.unknownService key), s) := by
  cases capability : s.registry.capability with
  | component =>
      rw [Store.assigned?, capability] at unassigned
      cases unassigned
  | service =>
      rw [Store.assigned?, capability] at unassigned
      have unmapped : s.mapping.get? key = none := Option.map_eq_none_iff.mp unassigned
      cases present : s.cachedId? key <;> simp [instanceFor, capability, present, unmapped]

theorem instanceFor_ends (key : String) (s : Store) :
    ∃ result t, instanceFor key s = .finished (result, t) ∧ InstanceEnd key s result t := by
  cases assigned : s.assigned? key with
  | some pair =>
      obtain ⟨implementation, name⟩ := pair
      obtain ⟨result, t, finished, ending⟩ := constructAs_ends key implementation name s
      exact ⟨result, t, (instanceFor_assigned assigned).trans finished,
        ending.toInstanceEnd assigned⟩
  | none =>
      cases present : s.cachedId? key with
      | some id =>
          exact ⟨.ok id, s, by rw [instanceFor_unassigned assigned, present], .cached present⟩
      | none =>
          refine ⟨.error (.unknownService key), s,
            by rw [instanceFor_unassigned assigned, present], ?_⟩
          refine .unbuildable present ?_ rfl (.inl rfl)
          rw [Store.bodyOf?, assigned, Option.bind_none]

theorem instanceFor_finished {key : String} {s t : Store} {result : Except BrokerFault Nat}
    (finished : instanceFor key s = .finished (result, t)) : InstanceEnd key s result t := by
  obtain ⟨other, u, same, ending⟩ := instanceFor_ends key s
  rw [finished] at same
  cases same
  exact ending

end Broker

end ServiceLifecycle
