/-
Module: ServiceLifecycle.Mapping
Purpose: The implementation key of each service name.
Main exports: Mapping, Mapping.empty, Mapping.get?, Mapping.put, Mapping.erase
-/
import ServiceLifecycle.Entries

namespace ServiceLifecycle

/-!
A mapping keeps the names in the order in which they were registered, and carries the proof that
none of them occurs twice, so that nobody has to ask for it.
-/

/-- The implementation keys of some names, in order of registration. -/
structure Mapping where
  entries : Entries String
  distinct : entries.keys.Nodup := by decide
deriving Repr, DecidableEq

namespace Mapping

/-- No name is mapped. -/
def empty : Mapping where
  entries := []
  distinct := List.nodup_nil

instance : Inhabited Mapping := ⟨empty⟩

/-- The implementation key of a name. -/
def get? (mapping : Mapping) (name : String) : Option String :=
  mapping.entries.get? name

/-- The name is mapped. -/
def contains (mapping : Mapping) (name : String) : Bool :=
  mapping.entries.contains name

/-- The names, in order of registration. -/
def keys (mapping : Mapping) : List String :=
  mapping.entries.keys

/-- Map a name, which keeps its place if it has one. -/
def put (mapping : Mapping) (name implementation : String) : Mapping where
  entries := mapping.entries.put name implementation
  distinct := Entries.nodup_keys_put name implementation mapping.distinct

/-- Remove a name; the others keep their places. -/
def erase (mapping : Mapping) (name : String) : Mapping where
  entries := mapping.entries.erase name
  distinct := Entries.nodup_keys_erase name mapping.distinct

variable (mapping : Mapping) (name other implementation : String)

@[simp] theorem get?_put :
    (mapping.put name implementation).get? other =
      if other = name then some implementation else mapping.get? other :=
  Entries.get?_put name other implementation mapping.entries

@[simp] theorem get?_erase :
    (mapping.erase name).get? other = if other = name then none else mapping.get? other :=
  Entries.get?_erase name other mapping.entries

/-- The order of the names makes no difference to what they are mapped to. -/
theorem get?_perm {mapping other : Mapping} (perm : other.entries.Perm mapping.entries)
    (name : String) : other.get? name = mapping.get? name :=
  Entries.get?_perm perm mapping.distinct name

@[ext] theorem ext {mapping other : Mapping} (same : mapping.entries = other.entries) :
    mapping = other := by
  cases mapping
  cases other
  cases same
  rfl

theorem entries_put {mapping : Mapping} {name : String} (absent : mapping.get? name = none)
    (implementation : String) : (mapping.put name implementation).entries =
      mapping.entries ++ [(name, implementation)] :=
  Entries.put_of_absent absent implementation

end Mapping

end ServiceLifecycle
