/-
Module: ServiceLifecycle.Proofs.Startup.Graph
Purpose: Graphs of dependencies between components.
Main exports: Node, Graph, Graph.Needs, Graph.Reaches, Graph.IsSound, Graph.Ordered
-/
import ServiceLifecycle.Fault
import Mathlib.Logic.Relation

namespace ServiceLifecycle

/-!
Keys need other keys, in a certain order, and then come to an end of their own: they
become initialized, or they fail.  A key for which nothing can be built has no node.
What can be initialized at all is a matter of the graph alone: a key is sound when
everything that it reaches has a node without fault and is on no circle.
-/

/-- What a component needs, in order, and the fault that it then ends with, if any. -/
structure Node where
  needs : List String
  fault : Option PhaseFault := none

/-- The component of each key, where there is one. -/
abbrev Graph := String → Option Node

namespace Graph

variable (graph : Graph)

/-- The component of the first key needs the second. -/
def Needs (key other : String) : Prop :=
  ∃ node, graph key = some node ∧ other ∈ node.needs

/-- One comes from the first key to the second by needs. -/
abbrev Reaches : String → String → Prop := Relation.ReflTransGen graph.Needs

/-- A key needs itself, perhaps by way of others. -/
def IsCircular (key : String) : Prop := Relation.TransGen graph.Needs key key

/-- There is a component for the key, and it ends without fault. -/
def Succeeds (key : String) : Prop := ∃ needs, graph key = some ⟨needs, none⟩

/-- Nothing that the key reaches fails, is missing or is on a circle. -/
def IsSound (key : String) : Prop :=
  ∀ other, graph.Reaches key other → graph.Succeeds other ∧ ¬ graph.IsCircular other

variable {graph}

theorem IsSound.reaches {key other : String} (sound : graph.IsSound key)
    (reaches : graph.Reaches key other) : graph.IsSound other :=
  fun _ further => sound _ (reaches.trans further)

/-- A key is sound when its own component is and so is all that it needs. -/
theorem IsSound.of_needs {key : String} (succeeds : graph.Succeeds key)
    (needed : ∀ other, graph.Needs key other → graph.IsSound other) : graph.IsSound key := by
  -- A circle through the key would also go through one of its needs.
  have uncircular : ¬ graph.IsCircular key := by
    intro circle
    obtain ⟨next, need, back⟩ := Relation.TransGen.head'_iff.mp circle
    have through : graph.IsCircular next := Relation.TransGen.tail' back need
    exact (needed next need next .refl).2 through
  intro other reaches
  rcases Relation.ReflTransGen.cases_head reaches with rfl | ⟨next, need, further⟩
  · exact ⟨succeeds, uncircular⟩
  · exact needed next need other further

variable (graph)

/-- Keys listed so that each comes in front of all that it needs, which has all been listed
before it.  Their components end without fault. -/
inductive Ordered : List String → Prop where
  | nil : Ordered []
  | cons {key : String} {needs keys : List String} (new : key ∉ keys)
      (known : graph key = some ⟨needs, none⟩) (listed : ∀ other ∈ needs, other ∈ keys)
      (rest : Ordered keys) : Ordered (key :: keys)

variable {graph} {keys : List String}

namespace Ordered

theorem nodup (ordered : graph.Ordered keys) : keys.Nodup := by
  induction ordered with
  | nil => exact List.nodup_nil
  | cons new _ _ _ inductionHypothesis => exact List.nodup_cons.mpr ⟨new, inductionHypothesis⟩

theorem isSound (ordered : graph.Ordered keys) : ∀ key ∈ keys, graph.IsSound key := by
  induction ordered with
  | nil => exact fun _ member => absurd member List.not_mem_nil
  | @cons key needs keys new known listed rest inductionHypothesis =>
      intro other member
      rcases List.mem_cons.mp member with rfl | member
      · refine IsSound.of_needs ⟨needs, known⟩ ?_
        rintro next ⟨node, found, need⟩
        rw [known] at found
        cases found
        exact inductionHypothesis next (listed next need)
      · exact inductionHypothesis other member

/-- What a listed key needs is listed behind it. -/
theorem needs_sublist (ordered : graph.Ordered keys) {key other : String} (member : key ∈ keys)
    (need : graph.Needs key other) : [key, other].Sublist keys := by
  induction ordered with
  | nil => cases member
  | @cons first needs keys new known listed rest inductionHypothesis =>
      rcases List.mem_cons.mp member with rfl | member
      · obtain ⟨node, found, needed⟩ := need
        rw [known] at found
        cases found
        exact (List.singleton_sublist.mpr (listed other needed)).cons_cons key
      · exact (inductionHypothesis member).cons first

theorem mem_of_reaches (ordered : graph.Ordered keys) {key other : String} (member : key ∈ keys)
    (reaches : graph.Reaches key other) : other ∈ keys := by
  induction reaches with
  | refl => exact member
  | tail _ need inductionHypothesis =>
      exact (ordered.needs_sublist inductionHypothesis need).subset (by simp)

end Ordered

end Graph

end ServiceLifecycle
