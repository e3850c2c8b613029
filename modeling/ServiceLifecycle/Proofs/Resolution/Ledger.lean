/-
Module: ServiceLifecycle.Proofs.Resolution.Ledger
Purpose: What has become of the keys of a graph while they are made ready when first needed.
Main exports: Graph.IsHealthy, Graph.not_isCircular_of_rank, Ledger, Ledger.IsCoherent,
  Ledger.Leads, Ledger.Extends
-/
import ServiceLifecycle.Proofs.Startup.Search

namespace ServiceLifecycle

/-!
When components are made ready at the first need, each key is in one of four states: nothing
has been asked of it, it is at work, it is ready, or it is spoiled, because its component has
failed or something that it needs could not be made ready.  A ledger has the keys of the last
three kinds.  Entries are only ever added behind the keys at work, and what is ready or spoiled
remains so.
-/

namespace Graph

variable {graph : Graph} {key other : String}

/-- Whatever the key reaches has a component that ends without fault. -/
def IsHealthy (graph : Graph) (key : String) : Prop :=
  ∀ other, graph.Reaches key other → graph.Succeeds other

theorem IsSound.isHealthy (sound : graph.IsSound key) : graph.IsHealthy key :=
  fun other reaches => (sound other reaches).1

theorem IsHealthy.reaches (healthy : graph.IsHealthy key) (reaches : graph.Reaches key other) :
    graph.IsHealthy other :=
  fun _ further => healthy _ (reaches.trans further)

theorem not_isHealthy_of_unknown (unknown : graph key = none) : ¬ graph.IsHealthy key := by
  intro healthy
  obtain ⟨needs, known⟩ := healthy key .refl
  rw [unknown] at known
  cases known

theorem not_isHealthy_of_fault {node : Node} {fault : PhaseFault} (known : graph key = some node)
    (fails : node.fault = some fault) : ¬ graph.IsHealthy key := by
  intro healthy
  obtain ⟨needs, succeeds⟩ := healthy key .refl
  rw [known] at succeeds
  cases succeeds
  cases fails

theorem not_isHealthy_of_need {node : Node} (known : graph key = some node)
    (need : other ∈ node.needs) (unhealthy : ¬ graph.IsHealthy other) : ¬ graph.IsHealthy key :=
  fun healthy => unhealthy (healthy.reaches (.single ⟨node, known, need⟩))

/-- Needs that lead down never lead around. -/
theorem not_isCircular_of_rank (rank : String → Nat)
    (down : ∀ key other, graph.Needs key other → rank other < rank key) (key : String) :
    ¬ graph.IsCircular key := by
  have below : ∀ {other}, Relation.TransGen graph.Needs key other → rank other < rank key := by
    intro other path
    induction path with
    | single need => exact down _ _ need
    | tail _ need inductionHypothesis => exact (down _ _ need).trans inductionHypothesis
  exact fun circle => absurd (below circle) (Nat.lt_irrefl _)

end Graph

/-- What has become of the keys, newest first. -/
structure Ledger where
  /-- The keys whose component is at work, innermost first. -/
  active : List String := []
  /-- The keys that are ready. -/
  ready : List String := []
  /-- The keys that could not be made ready. -/
  spoiled : List String := []

namespace Ledger

/-- All the keys whose component has been set to work. -/
def begun (ledger : Ledger) : List String :=
  ledger.active ++ ledger.ready ++ ledger.spoiled

/-- A component is set to work. -/
def take (ledger : Ledger) (key : String) : Ledger :=
  { ledger with active := key :: ledger.active }

/-- The innermost component has made itself ready. -/
def settle (ledger : Ledger) (key : String) : Ledger :=
  { ledger with active := ledger.active.tail, ready := key :: ledger.ready }

/-- The innermost component has failed. -/
def spoil (ledger : Ledger) (key : String) : Ledger :=
  { ledger with active := ledger.active.tail, spoiled := key :: ledger.spoiled }

/-- The components at work wait for each other, what is ready was made ready in order, and
whatever is spoiled has been bound to be. -/
structure IsCoherent (graph : Graph) (ledger : Ledger) : Prop where
  path : ledger.active.IsChain fun inner outer => graph.Needs outer inner
  known : ∀ key ∈ ledger.active, ∃ node, graph key = some node
  ordered : graph.Ordered ledger.ready
  unhealthy : ∀ key ∈ ledger.spoiled, ¬ graph.IsHealthy key
  distinct : ledger.begun.Nodup

/-- The innermost component at work needs all of the keys. -/
def Leads (graph : Graph) (ledger : Ledger) (keys : List String) : Prop :=
  ∀ key ∈ keys, ∀ top ∈ ledger.active.head?, graph.Needs top key

/-- The same components are at work, and what was settled remains so. -/
structure Extends (earlier later : Ledger) : Prop where
  active : later.active = earlier.active
  ready : earlier.ready <:+ later.ready
  spoiled : earlier.spoiled <:+ later.spoiled

section Steps

variable {graph : Graph} {ledger later final : Ledger} {key : String} {rest : List String}

theorem mem_begun : key ∈ ledger.begun ↔
    key ∈ ledger.active ∨ key ∈ ledger.ready ∨ key ∈ ledger.spoiled := by
  rw [begun, List.mem_append, List.mem_append, or_assoc]

theorem begun_settle (active : ledger.active = key :: rest) :
    ledger.begun.Perm (ledger.settle key).begun := by
  simp only [begun, settle, active, List.tail_cons, List.append_assoc, List.cons_append]
  exact List.perm_middle.symm

theorem begun_spoil (active : ledger.active = key :: rest) :
    ledger.begun.Perm (ledger.spoil key).begun := by
  simp only [begun, spoil, active, List.tail_cons, List.cons_append]
  exact List.perm_middle.symm

theorem isCoherent_start : ({} : Ledger).IsCoherent graph :=
  ⟨List.IsChain.nil, fun _ member => absurd member List.not_mem_nil, .nil,
    fun _ member => absurd member List.not_mem_nil, List.nodup_nil⟩

namespace IsCoherent

theorem take {node : Node} (coherent : ledger.IsCoherent graph) (known : graph key = some node)
    (leads : ledger.Leads graph [key]) (new : key ∉ ledger.begun) :
    (ledger.take key).IsCoherent graph := by
  constructor
  case path =>
    refine List.isChain_cons.mpr ⟨?_, coherent.path⟩
    exact fun top head => leads key List.mem_cons_self top head
  case known =>
    intro other member
    rcases List.mem_cons.mp member with rfl | member
    · exact ⟨node, known⟩
    · exact coherent.known other member
  case ordered => exact coherent.ordered
  case unhealthy => exact coherent.unhealthy
  case distinct => exact List.nodup_cons.mpr ⟨new, coherent.distinct⟩

theorem settle {needs : List String} (coherent : ledger.IsCoherent graph)
    (active : ledger.active = key :: rest) (known : graph key = some ⟨needs, none⟩)
    (listed : ∀ other ∈ needs, other ∈ ledger.ready) : (ledger.settle key).IsCoherent graph := by
  have distinct : (ledger.settle key).begun.Nodup :=
    (begun_settle active).nodup_iff.mp coherent.distinct
  constructor
  case path => exact coherent.path.tail
  case known => exact fun other member => coherent.known other (List.mem_of_mem_tail member)
  case ordered =>
    have ready : (key :: ledger.ready).Nodup :=
      distinct.sublist ((List.sublist_append_right _ _).trans (List.sublist_append_left _ _))
    exact .cons (List.nodup_cons.mp ready).1 known listed coherent.ordered
  case unhealthy => exact coherent.unhealthy
  case distinct => exact distinct

theorem spoil (coherent : ledger.IsCoherent graph) (active : ledger.active = key :: rest)
    (unhealthy : ¬ graph.IsHealthy key) : (ledger.spoil key).IsCoherent graph := by
  constructor
  case path => exact coherent.path.tail
  case known => exact fun other member => coherent.known other (List.mem_of_mem_tail member)
  case ordered => exact coherent.ordered
  case unhealthy =>
    intro other member
    rcases List.mem_cons.mp member with rfl | member
    · exact unhealthy
    · exact coherent.unhealthy other member
  case distinct => exact (begun_spoil active).nodup_iff.mp coherent.distinct

/-- What is needed now is not at work, unless there is a circle. -/
theorem isCircular (coherent : ledger.IsCoherent graph) (leads : ledger.Leads graph [key])
    (again : key ∈ ledger.active) : graph.IsCircular key :=
  isCircular_of_isChain coherent.path (leads key List.mem_cons_self) again

/-- Only healthy keys become ready. -/
theorem isHealthy (coherent : ledger.IsCoherent graph) (member : key ∈ ledger.ready) :
    graph.IsHealthy key :=
  (coherent.ordered.isSound key member).isHealthy

end IsCoherent

namespace Extends

theorem refl (ledger : Ledger) : ledger.Extends ledger :=
  ⟨rfl, List.suffix_refl _, List.suffix_refl _⟩

theorem trans (first : ledger.Extends later) (second : later.Extends final) :
    ledger.Extends final :=
  ⟨second.active.trans first.active, first.ready.trans second.ready,
    first.spoiled.trans second.spoiled⟩

theorem settle (extension : (ledger.take key).Extends later) : ledger.Extends (later.settle key) :=
  ⟨congrArg List.tail extension.active, extension.ready.trans (List.suffix_cons _ _),
    extension.spoiled⟩

theorem spoil (extension : (ledger.take key).Extends later) : ledger.Extends (later.spoil key) :=
  ⟨congrArg List.tail extension.active, extension.ready,
    extension.spoiled.trans (List.suffix_cons _ _)⟩

theorem leads (extension : ledger.Extends later) {keys : List String}
    (leads : ledger.Leads graph keys) : later.Leads graph keys := by
  intro other member top head
  rw [extension.active] at head
  exact leads other member top head

end Extends

theorem leads_take {node : Node} (known : graph key = some node) :
    (ledger.take key).Leads graph node.needs := by
  intro other member top head
  cases head
  exact ⟨node, known, member⟩

theorem leads_of_idle (idle : ledger.active = []) (keys : List String) :
    ledger.Leads graph keys := by
  intro key member top head
  rw [idle] at head
  cases head

end Steps

end Ledger

end ServiceLifecycle
