/-
Module: ServiceLifecycle.Broker.Construction
Purpose: How a broker comes by the instance of a key.
Main exports: Built, Broker.build, Broker.constructAs, Broker.instanceFor
-/
import ServiceLifecycle.Broker.Store

namespace ServiceLifecycle

/-!
An instance is built when its key is first needed, and then cached.  It gets its
owner, and a service its name, before it is cached, so that nobody sees it without
them.  A failed construction caches nothing.
-/

/-- What became of an attempt to build an instance. -/
inductive Built where
  /-- Nothing can build the implementation. -/
  | unknown
  /-- It was refused. -/
  | refused (fault : ConstructionFault)
  /-- The number of the new instance. -/
  | instance (id : Nat)
deriving Repr, Inhabited

namespace Store

/-- A body of a script takes the next label. -/
def nextLabel (store : Store) : Body → Option Nat
  | .scripted _ => some (store.scripted + 1)
  | _ => none

/-- Add a new instance of an implementation, which is meant for a key if one is given. -/
def add (store : Store) (implementation : String) (body : Body) (key : Option String) :
    Nat × Store :=
  let label := store.nextLabel body
  let component : Component := { implementation, body, label }
  let id := store.instances.length
  (id,
    { store with
      instances := store.instances ++ [component]
      scripted := label.getD store.scripted }.note (.built id implementation label key))

/-- Give an instance its owner and, if there is one, its name, and cache it. -/
def adopt (store : Store) (key : String) (name : Option String) (id : Nat) : Store :=
  let store := store.update id fun component =>
    match name with
    | some name => { component with owned := true }.withName name
    | none => { component with owned := true }
  { store with cached := store.cached.put key id }.note (.cached key id)

end Store

namespace Broker

/-- Build an instance of an implementation, for a key if one is given, without caching it. -/
def build (implementation : String) (key : Option String) : Work Built := do
  let store ← get
  match store.registry.find implementation with
  | .nothing => pure .unknown
  | .unfit => pure (.refused (.mismatch store.registry.capability.name))
  | .recipe (.refuse fault) =>
      set (store.note (.refused implementation))
      pure (.refused fault)
  | .recipe (.build body) | .entry body =>
      let (id, store) := store.add implementation body key
      set store
      pure (.instance id)

/-- The instance of a key, built from an implementation when there is none. -/
def constructAs (key implementation : String) (name : Option String) :
    Work (Except BrokerFault Nat) := do
  let store ← get
  match store.cachedId? key with
  | some id => pure (.ok id)
  | none =>
      let capability := store.registry.capability.name
      match ← build implementation (some key) with
      | .unknown => pure (.error (.ofReason key .unavailable implementation capability))
      | .refused fault => pure (.error (.ofConstruction key implementation capability fault))
      | .instance id =>
          modify fun store => store.adopt key name id
          pure (.ok id)

/-- The instance of a key, built when there is none: from the key itself, or for a
service from the implementation that its name is mapped to. -/
def instanceFor (key : String) : Work (Except BrokerFault Nat) := do
  let store ← get
  match store.registry.capability with
  | .component => constructAs key key none
  | .service =>
      match store.cachedId? key, store.mapping.get? key with
      | some id, _ => pure (.ok id)
      | none, some implementation => constructAs key implementation (some key)
      | none, none => pure (.error (.unknownService key))

end Broker

end ServiceLifecycle
