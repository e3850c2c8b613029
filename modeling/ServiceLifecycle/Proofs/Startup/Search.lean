/-
Module: ServiceLifecycle.Proofs.Startup.Search
Purpose: A depth-first search through a graph of dependencies, and what it finds.
Main exports: Progress, Search, Search.coherent, Search.unsound_of_error, Search.tidy,
  Search.circular_of_error, Search.ok_iff_isSound, Search.reaches_iff
-/
import ServiceLifecycle.Proofs.Broker.DependencyStack
import ServiceLifecycle.Proofs.Startup.Graph
import Mathlib.Data.List.Chain

namespace ServiceLifecycle

/-!
An early call whose components do nothing but initialize what they need is a depth-first
search.  This is the search by itself, without a store: keys are taken up one after the
other, a key that is ready already is passed over, a key on the stack closes a circle, and
the first fault ends the search on all levels.

It is sound and complete.  Keys become ready in an order in which each comes after what
it needs, which only sound keys can do, and a fault shows that one of the keys asked for
is not sound.
-/

open Broker

/-- What a search has come to. -/
structure Progress where
  /-- The keys that are being searched, innermost first. -/
  stack : List String := []
  /-- The keys that have a component. -/
  built : List String := []
  /-- The keys that have been taken up, newest first. -/
  begun : List String := []
  /-- The keys that have become ready, newest first. -/
  ready : List String := []
  /-- The errors that have been reported, newest first. -/
  errors : List Diagnostic := []

namespace Progress

/-- A key gets its component, if it has none. -/
def build (p : Progress) (key : String) : Progress :=
  { p with built := key :: p.built }

/-- Take a key up. -/
def push (p : Progress) (key : String) : Progress :=
  { p.build key with stack := key :: p.stack, begun := key :: p.begun }

/-- Give the innermost key up. -/
def pop (p : Progress) : Progress :=
  { p with stack := p.stack.tail }

/-- The innermost key has become ready. -/
def finish (p : Progress) (key : String) : Progress :=
  { p with stack := p.stack.tail, ready := key :: p.ready }

end Progress

/-- A search for keys, one after the other, that ends with a result. -/
inductive Search (graph : Graph) :
    List String → Progress → Except BrokerFault Unit → Progress → Prop where
  | done {p : Progress} : Search graph [] p (.ok ()) p
  | ready {key : String} {rest : List String} {p q : Progress} {result : Except BrokerFault Unit}
      (initialized : key ∈ p.ready) (following : Search graph rest p result q) :
      Search graph (key :: rest) p result q
  | unknown {key : String} {rest : List String} {p : Progress} {fault : BrokerFault}
      (nothing : graph key = none) (unresolved : fault.IsUnresolved key) :
      Search graph (key :: rest) p (.error fault) p
  | circle {key : String} {rest : List String} {p : Progress} (unready : key ∉ p.ready)
      (again : key ∈ p.stack) :
      Search graph (key :: rest) p (.error (.circular key (circleThrough key p.stack))) p
  | broken {key : String} {rest : List String} {p q : Progress} {node : Node}
      {fault : BrokerFault} (unready : key ∉ p.ready) (new : key ∉ p.stack)
      (known : graph key = some node)
      (inner : Search graph node.needs (p.push key) (.error fault) q) :
      Search graph (key :: rest) p (.error fault) q.pop
  | failed {key : String} {rest : List String} {p q : Progress} {node : Node}
      {fault : PhaseFault} (unready : key ∉ p.ready) (new : key ∉ p.stack)
      (known : graph key = some node) (fails : node.fault = some fault)
      (inner : Search graph node.needs (p.push key) (.ok ()) q) :
      Search graph (key :: rest) p (.error (fault.about key)) q.pop
  | started {key : String} {rest : List String} {p q r : Progress} {needs : List String}
      {result : Except BrokerFault Unit} (unready : key ∉ p.ready) (new : key ∉ p.stack)
      (known : graph key = some ⟨needs, none⟩)
      (inner : Search graph needs (p.push key) (.ok ()) q)
      (following : Search graph rest (q.finish key) result r) :
      Search graph (key :: rest) p result r

/-- The stack is a way through the graph, no key on it is ready, and the keys that are
have become ready in order. -/
structure Progress.IsCoherent (graph : Graph) (p : Progress) : Prop where
  path : p.stack.IsChain fun inner outer => graph.Needs outer inner
  distinct : p.stack.Nodup
  unready : ∀ key ∈ p.stack, key ∉ p.ready
  ordered : graph.Ordered p.ready

/-- The innermost key that is being searched needs all of the keys. -/
def Progress.Leads (graph : Graph) (p : Progress) (keys : List String) : Prop :=
  ∀ key ∈ keys, ∀ top ∈ p.stack.head?, graph.Needs top key

section Levels

variable {graph : Graph} {p q : Progress} {key : String} {rest : List String} {node : Node}

theorem Progress.Leads.tail (leads : p.Leads graph (key :: rest)) : p.Leads graph rest :=
  fun other member => leads other (List.mem_cons_of_mem _ member)

theorem Progress.Leads.of_stack_eq (leads : p.Leads graph rest) (same : q.stack = p.stack) :
    q.Leads graph rest := by
  intro other member top head
  rw [same] at head
  exact leads other member top head

theorem Progress.leads_push (known : graph key = some node) :
    (p.push key).Leads graph node.needs := by
  intro other member top head
  cases head
  exact ⟨node, known, member⟩

theorem Progress.IsCoherent.push (coherent : p.IsCoherent graph)
    (leads : p.Leads graph (key :: rest)) (unready : key ∉ p.ready) (new : key ∉ p.stack) :
    (p.push key).IsCoherent graph := by
  constructor
  case path =>
    refine List.isChain_cons.mpr ⟨?_, coherent.path⟩
    exact fun top head => leads key List.mem_cons_self top head
  case distinct => exact List.nodup_cons.mpr ⟨new, coherent.distinct⟩
  case unready =>
    intro other member
    rcases List.mem_cons.mp member with rfl | member
    · exact unready
    · exact coherent.unready other member
  case ordered => exact coherent.ordered

theorem Progress.IsCoherent.pop (coherent : q.IsCoherent graph) : q.pop.IsCoherent graph := by
  constructor
  case path => exact coherent.path.tail
  case distinct => exact coherent.distinct.tail
  case unready => exact fun other member => coherent.unready other (List.mem_of_mem_tail member)
  case ordered => exact coherent.ordered

theorem Progress.IsCoherent.finish (coherent : q.IsCoherent graph)
    {below needs : List String} (stack : q.stack = key :: below)
    (known : graph key = some ⟨needs, none⟩) (listed : ∀ other ∈ needs, other ∈ q.ready) :
    (q.finish key).IsCoherent graph := by
  have distinct := coherent.distinct
  rw [stack] at distinct
  constructor
  case path => exact coherent.path.tail
  case distinct => exact coherent.distinct.tail
  case unready =>
    intro other member
    have beneath : other ∈ below := by simpa [Progress.finish, stack] using member
    have different : other ≠ key := by
      rintro rfl
      exact (List.nodup_cons.mp distinct).1 beneath
    have unready := coherent.unready other (by rw [stack]; exact List.mem_cons_of_mem _ beneath)
    exact fun listed => (List.mem_cons.mp listed).elim different unready
  case ordered =>
    have unready := coherent.unready key (by rw [stack]; exact List.mem_cons_self)
    exact .cons unready known listed coherent.ordered

/-- Every key on a way leads to its end. -/
theorem reaches_of_isChain {top : String} {below : List String}
    (path : (top :: below).IsChain fun inner outer => graph.Needs outer inner) :
    ∀ key ∈ top :: below, graph.Reaches key top := by
  induction below generalizing top with
  | nil =>
      intro key member
      rw [List.mem_singleton.mp member]
  | cons next below inductionHypothesis =>
      intro key member
      obtain ⟨need, path⟩ := List.isChain_cons_cons.mp path
      rcases List.mem_cons.mp member with rfl | member
      · exact .refl
      · exact (inductionHypothesis path key member).tail need

/-- A key on a way whose end needs the key is on a circle. -/
theorem isCircular_of_isChain {stack : List String}
    (path : stack.IsChain fun inner outer => graph.Needs outer inner)
    (need : ∀ top ∈ stack.head?, graph.Needs top key) (again : key ∈ stack) :
    graph.IsCircular key := by
  cases stack with
  | nil => exact absurd again List.not_mem_nil
  | cons top below =>
      exact Relation.TransGen.tail' (reaches_of_isChain path key again) (need top rfl)

theorem Progress.IsCoherent.isCircular (coherent : p.IsCoherent graph)
    (leads : p.Leads graph (key :: rest)) (again : key ∈ p.stack) : graph.IsCircular key :=
  isCircular_of_isChain coherent.path (leads key List.mem_cons_self) again

/-- At the start there is nothing to be coherent or tidy about. -/
theorem Progress.isCoherent_start : ({} : Progress).IsCoherent graph :=
  ⟨List.IsChain.nil, List.nodup_nil, fun _ member => absurd member List.not_mem_nil, .nil⟩

theorem Progress.leads_of_empty (empty : p.stack = []) (keys : List String) :
    p.Leads graph keys := by
  intro key member top head
  rw [empty] at head
  cases head

end Levels

/-- A circle on a way through the graph is one in the graph. -/
theorem IsCircle.isChain {graph : Graph} {key : String} {stack chain : List String}
    (circle : IsCircle key stack chain)
    (path : stack.IsChain fun inner outer => graph.Needs outer inner)
    (need : ∀ top ∈ stack.head?, graph.Needs top key) : chain.IsChain graph.Needs := by
  obtain ⟨below, split⟩ := circle.part
  have forward : stack.reverse.IsChain graph.Needs := List.isChain_reverse.mpr path
  have upper : chain.dropLast.IsChain graph.Needs := by
    rw [split] at forward
    exact forward.suffix (List.suffix_append _ _)
  rw [← circle.closed]
  refine List.isChain_append.mpr ⟨upper, List.isChain_singleton key, ?_⟩
  intro last isLast first isFirst
  cases isFirst
  -- The last entry of the upper part is the top of the stack.
  have top : stack.head? = some last := by
    have ends : chain.dropLast.getLast? = some last := isLast
    rw [← List.getLast?_reverse, split, List.getLast?_append, ends, Option.some_or]
  exact need last top

/-- Keys are taken up once each, and are ready or being searched from then on. -/
structure Progress.IsTidy (p : Progress) : Prop where
  once : p.begun.Nodup
  built_iff : ∀ key, key ∈ p.built ↔ key ∈ p.begun
  begun_iff : ∀ key, key ∈ p.begun ↔ key ∈ p.ready ∨ key ∈ p.stack

theorem Progress.isTidy_start : ({} : Progress).IsTidy :=
  ⟨List.nodup_nil, fun _ => Iff.rfl, fun _ => by simp⟩

namespace Search

variable {graph : Graph} {p q : Progress} {keys : List String}
  {result : Except BrokerFault Unit}

/-- A fault about the first key ends the search. -/
theorem cons_of_error {key : String} {rest : List String} {fault : BrokerFault}
    (first : Search graph [key] p (.error fault) q) :
    Search graph (key :: rest) p (.error fault) q := by
  cases first with
  | ready initialized following => cases following
  | unknown nothing unresolved => exact .unknown nothing unresolved
  | circle unready again => exact .circle unready again
  | broken unready new known inner => exact .broken unready new known inner
  | failed unready new known fails inner => exact .failed unready new known fails inner
  | started unready new known inner following => cases following

/-- When the first key is ready, the search goes on with the others. -/
theorem cons_of_ok {key : String} {rest : List String} {r : Progress}
    (first : Search graph [key] p (.ok ()) q) (following : Search graph rest q result r) :
    Search graph (key :: rest) p result r := by
  cases first with
  | ready initialized last =>
      cases last
      exact .ready initialized following
  | started unready new known inner last =>
      cases last
      exact .started unready new known inner following

/-- A search leaves the stack as it found it. -/
theorem stack (search : Search graph keys p result q) : q.stack = p.stack := by
  induction search with
  | done => rfl
  | ready initialized following inductionHypothesis => exact inductionHypothesis
  | unknown nothing unresolved => rfl
  | circle unready again => rfl
  | broken unready new known inner inductionHypothesis =>
      rw [Progress.pop, inductionHypothesis]
      rfl
  | failed unready new known fails inner inductionHypothesis =>
      rw [Progress.pop, inductionHypothesis]
      rfl
  | started unready new known inner following innerHypothesis followingHypothesis =>
      rw [followingHypothesis, Progress.finish, innerHypothesis]
      rfl

/-- A search reports nothing. -/
theorem errors (search : Search graph keys p result q) : q.errors = p.errors := by
  induction search with
  | done => rfl
  | ready initialized following inductionHypothesis => exact inductionHypothesis
  | unknown nothing unresolved => rfl
  | circle unready again => rfl
  | broken unready new known inner inductionHypothesis => exact inductionHypothesis
  | failed unready new known fails inner inductionHypothesis => exact inductionHypothesis
  | started unready new known inner following innerHypothesis followingHypothesis =>
      exact followingHypothesis.trans innerHypothesis

/-- What is ready stays ready. -/
theorem ready_suffix (search : Search graph keys p result q) : p.ready <:+ q.ready := by
  induction search with
  | done => exact List.suffix_refl _
  | ready initialized following inductionHypothesis => exact inductionHypothesis
  | unknown nothing unresolved => exact List.suffix_refl _
  | circle unready again => exact List.suffix_refl _
  | broken unready new known inner inductionHypothesis => exact inductionHypothesis
  | failed unready new known fails inner inductionHypothesis => exact inductionHypothesis
  | started unready new known inner following innerHypothesis followingHypothesis =>
      exact (innerHypothesis.trans (List.suffix_cons _ _)).trans followingHypothesis

/-- A search without fault makes ready what it was for. -/
theorem ready_of_ok (search : Search graph keys p result q) (ok : result = .ok ()) :
    ∀ key ∈ keys, key ∈ q.ready := by
  induction search with
  | done => exact fun _ member => absurd member List.not_mem_nil
  | ready initialized following inductionHypothesis =>
      intro key member
      rcases List.mem_cons.mp member with rfl | member
      · exact following.ready_suffix.subset initialized
      · exact inductionHypothesis ok key member
  | unknown nothing unresolved => cases ok
  | circle unready again => cases ok
  | broken unready new known inner inductionHypothesis => cases ok
  | failed unready new known fails inner inductionHypothesis => cases ok
  | started unready new known inner following innerHypothesis followingHypothesis =>
      intro key member
      rcases List.mem_cons.mp member with rfl | member
      · exact following.ready_suffix.subset List.mem_cons_self
      · exact followingHypothesis ok key member

/-- When all that a key needs is ready, the search goes on behind the key. -/
theorem finish {key : String} {needs rest : List String}
    (inner : Search graph needs (p.push key) (.ok ()) q) (within : q.IsCoherent graph)
    (known : graph key = some ⟨needs, none⟩) (leads : p.Leads graph (key :: rest)) :
    (q.finish key).IsCoherent graph ∧ (q.finish key).Leads graph rest := by
  have stack : q.stack = key :: p.stack := inner.stack
  have same : (q.finish key).stack = p.stack := by
    rw [Progress.finish, stack]
    rfl
  exact ⟨within.finish stack known (inner.ready_of_ok rfl), leads.tail.of_stack_eq same⟩

theorem coherent (search : Search graph keys p result q) (before : p.IsCoherent graph)
    (leads : p.Leads graph keys) : q.IsCoherent graph := by
  induction search with
  | done => exact before
  | ready initialized following inductionHypothesis =>
      exact inductionHypothesis before leads.tail
  | unknown nothing unresolved => exact before
  | circle unready again => exact before
  | broken unready new known inner inductionHypothesis =>
      exact (inductionHypothesis (before.push leads unready new) (Progress.leads_push known)).pop
  | failed unready new known fails inner inductionHypothesis =>
      exact (inductionHypothesis (before.push leads unready new) (Progress.leads_push known)).pop
  | started unready new known inner following innerHypothesis followingHypothesis =>
      have within := innerHypothesis (before.push leads unready new) (Progress.leads_push known)
      obtain ⟨after, leading⟩ := inner.finish within known leads
      exact followingHypothesis after leading

/-- A fault shows that one of the keys is not sound. -/
theorem unsound_of_error (search : Search graph keys p result q) (before : p.IsCoherent graph)
    (leads : p.Leads graph keys) {fault : BrokerFault} (error : result = .error fault) :
    ∃ key ∈ keys, ¬ graph.IsSound key := by
  induction search with
  | done => cases error
  | ready initialized following inductionHypothesis =>
      obtain ⟨other, member, unsound⟩ := inductionHypothesis before leads.tail error
      exact ⟨other, List.mem_cons_of_mem _ member, unsound⟩
  | @unknown key _ _ _ nothing unresolved =>
      refine ⟨key, List.mem_cons_self, fun sound => ?_⟩
      obtain ⟨needs, known⟩ := (sound key .refl).1
      rw [nothing] at known
      cases known
  | @circle key _ _ unready again =>
      exact ⟨key, List.mem_cons_self, fun sound => (sound key .refl).2
        (before.isCircular leads again)⟩
  | @broken key _ _ _ node _ unready new known inner inductionHypothesis =>
      obtain ⟨other, member, unsound⟩ := inductionHypothesis (before.push leads unready new)
        (Progress.leads_push known) error
      have need : graph.Needs key other := ⟨node, known, member⟩
      exact ⟨key, List.mem_cons_self, fun sound => unsound (sound.reaches (.single need))⟩
  | @failed key _ _ _ node _ unready new known fails inner inductionHypothesis =>
      refine ⟨key, List.mem_cons_self, fun sound => ?_⟩
      obtain ⟨needs, succeeds⟩ := (sound key .refl).1
      rw [known] at succeeds
      cases succeeds
      cases fails
  | started unready new known inner following innerHypothesis followingHypothesis =>
      have within := inner.coherent (before.push leads unready new) (Progress.leads_push known)
      obtain ⟨after, leading⟩ := inner.finish within known leads
      obtain ⟨other, member, unsound⟩ := followingHypothesis after leading error
      exact ⟨other, List.mem_cons_of_mem _ member, unsound⟩

/-- As long as there is no fault, no key is left unfinished, so none is taken up twice. -/
theorem tidy (search : Search graph keys p result q) (before : p.IsTidy) :
    q.begun.Nodup ∧ (result = .ok () → q.IsTidy) := by
  -- A key that is taken up has not been before.
  have push : ∀ {p : Progress} {key : String}, p.IsTidy → key ∉ p.ready → key ∉ p.stack →
      (p.push key).IsTidy := by
    intro p key before unready new
    have unbegun : key ∉ p.begun := fun member =>
      ((before.begun_iff key).mp member).elim unready new
    refine ⟨List.nodup_cons.mpr ⟨unbegun, before.once⟩, fun other => ?_, fun other => ?_⟩
    · simp only [Progress.push, Progress.build, List.mem_cons, before.built_iff]
    · simp only [Progress.push, List.mem_cons, before.begun_iff]
      exact or_left_comm
  induction search with
  | done => exact ⟨before.once, fun _ => before⟩
  | ready initialized following inductionHypothesis => exact inductionHypothesis before
  | unknown nothing unresolved => exact ⟨before.once, fun ok => by cases ok⟩
  | circle unready again => exact ⟨before.once, fun ok => by cases ok⟩
  | broken unready new known inner inductionHypothesis =>
      exact ⟨(inductionHypothesis (push before unready new)).1, fun ok => by cases ok⟩
  | failed unready new known fails inner inductionHypothesis =>
      exact ⟨(inductionHypothesis (push before unready new)).1, fun ok => by cases ok⟩
  | @started key rest p q r needs result unready new known inner following innerHypothesis
      followingHypothesis =>
      have within : q.IsTidy := (innerHypothesis (push before unready new)).2 rfl
      have stack : q.stack = key :: p.stack := inner.stack
      refine followingHypothesis ⟨within.once, within.built_iff, fun other => ?_⟩
      rw [Progress.finish, within.begun_iff, stack, List.mem_cons, List.tail_cons, List.mem_cons]
      rw [or_left_comm, or_assoc]

/-- When nothing that the keys reach fails or is missing, a fault is that of a circle, which
runs through the graph, and none of its keys has become ready. -/
theorem circular_of_error (search : Search graph keys p result q) (before : p.IsCoherent graph)
    (leads : p.Leads graph keys)
    (succeed : ∀ key ∈ keys, ∀ other, graph.Reaches key other → graph.Succeeds other)
    {fault : BrokerFault} (error : result = .error fault) :
    ∃ about stack chain, fault = .circular about chain ∧ IsCircle about stack chain ∧
      chain.IsChain graph.Needs ∧ ∀ other ∈ chain, other ∉ q.ready := by
  induction search with
  | done => cases error
  | ready initialized following inductionHypothesis =>
      exact inductionHypothesis before leads.tail
        (fun key member => succeed key (List.mem_cons_of_mem _ member)) error
  | @unknown key _ _ _ nothing unresolved =>
      obtain ⟨needs, known⟩ := succeed key List.mem_cons_self key .refl
      rw [nothing] at known
      cases known
  | @circle key rest p unready again =>
      cases error
      have circle := isCircle_circleThrough again before.distinct
      refine ⟨key, p.stack, _, rfl, circle, ?_, ?_⟩
      · exact circle.isChain before.path fun top head => leads key List.mem_cons_self top head
      · exact fun other member => before.unready other (circle.subset other member)
  | @broken key _ _ _ node _ unready new known inner inductionHypothesis =>
      have within : ∀ next ∈ node.needs, ∀ other, graph.Reaches next other →
          graph.Succeeds other := by
        intro next member other reaches
        have need : graph.Needs key next := ⟨node, known, member⟩
        exact succeed key List.mem_cons_self other (reaches.head need)
      exact inductionHypothesis (before.push leads unready new) (Progress.leads_push known) within
        error
  | @failed key _ _ _ node _ unready new known fails inner inductionHypothesis =>
      obtain ⟨needs, succeeds⟩ := succeed key List.mem_cons_self key .refl
      rw [known] at succeeds
      cases succeeds
      cases fails
  | started unready new known inner following innerHypothesis followingHypothesis =>
      have within := inner.coherent (before.push leads unready new) (Progress.leads_push known)
      obtain ⟨after, leading⟩ := inner.finish within known leads
      exact followingHypothesis after leading
        (fun key member => succeed key (List.mem_cons_of_mem _ member)) error

/-- Only keys that are needed are taken up. -/
theorem reaches_of_begun (search : Search graph keys p result q) :
    ∀ other ∈ q.begun, other ∈ p.begun ∨ ∃ key ∈ keys, graph.Reaches key other := by
  -- What is found on the level of a key is found from the key.
  have climb : ∀ {p : Progress} {key : String} {node : Node} {rest : List String} {other : String},
      graph key = some node →
      (other ∈ (p.push key).begun ∨ ∃ need ∈ node.needs, graph.Reaches need other) →
      other ∈ p.begun ∨ ∃ first ∈ key :: rest, graph.Reaches first other := by
    intro p key node rest other known found
    rcases found with member | ⟨need, member, reaches⟩
    · rcases List.mem_cons.mp member with rfl | earlier
      · exact .inr ⟨other, List.mem_cons_self, .refl⟩
      · exact .inl earlier
    · have needed : graph.Needs key need := ⟨node, known, member⟩
      exact .inr ⟨key, List.mem_cons_self, reaches.head needed⟩
  induction search with
  | done => exact fun other member => .inl member
  | ready initialized following inductionHypothesis =>
      intro other member
      rcases inductionHypothesis other member with earlier | ⟨key, among, reaches⟩
      · exact .inl earlier
      · exact .inr ⟨key, List.mem_cons_of_mem _ among, reaches⟩
  | unknown nothing unresolved => exact fun other member => .inl member
  | circle unready again => exact fun other member => .inl member
  | broken unready new known inner inductionHypothesis =>
      exact fun other member => climb known (inductionHypothesis other member)
  | failed unready new known fails inner inductionHypothesis =>
      exact fun other member => climb known (inductionHypothesis other member)
  | started unready new known inner following innerHypothesis followingHypothesis =>
      intro other member
      rcases followingHypothesis other member with earlier | ⟨key, among, reaches⟩
      · exact climb known (innerHypothesis other earlier)
      · exact .inr ⟨key, List.mem_cons_of_mem _ among, reaches⟩

section Alone

variable {key : String}

/-- A search for one key that is not part of another succeeds if and only if the key is
sound. -/
theorem ok_iff_isSound (search : Search graph [key] p result q) (before : p.IsCoherent graph)
    (empty : p.stack = []) : result = .ok () ↔ graph.IsSound key := by
  have leads : p.Leads graph [key] := Progress.leads_of_empty empty _
  constructor
  · intro ok
    have ready : key ∈ q.ready := search.ready_of_ok ok key List.mem_cons_self
    exact (search.coherent before leads).ordered.isSound key ready
  · intro sound
    cases result with
    | ok _ => rfl
    | error fault =>
        obtain ⟨other, member, unsound⟩ := search.unsound_of_error before leads rfl
        rw [List.mem_singleton.mp member] at unsound
        exact absurd sound unsound

/-- A first search that succeeds has built, taken up and made ready what its key reaches, and
nothing else. -/
theorem reaches_iff (search : Search graph [key] {} (.ok ()) q) (other : String) :
    (other ∈ q.built ↔ graph.Reaches key other) ∧ (other ∈ q.begun ↔ graph.Reaches key other) ∧
      (other ∈ q.ready ↔ graph.Reaches key other) := by
  obtain ⟨-, tidy⟩ := search.tidy Progress.isTidy_start
  have neat := tidy rfl
  have coherent : q.IsCoherent graph :=
    search.coherent Progress.isCoherent_start (Progress.leads_of_empty rfl _)
  have finished : other ∈ q.begun ↔ other ∈ q.ready := by
    rw [neat.begun_iff, search.stack]
    simp
  have ready : other ∈ q.ready ↔ graph.Reaches key other := by
    constructor
    · intro member
      have begun : other ∈ q.begun := finished.mpr member
      rcases search.reaches_of_begun other begun with earlier | ⟨first, among, reaches⟩
      · cases earlier
      · rw [List.mem_singleton.mp among] at reaches
        exact reaches
    · exact coherent.ordered.mem_of_reaches (search.ready_of_ok rfl key List.mem_cons_self)
  have begun := finished.trans ready
  exact ⟨(neat.built_iff other).trans begun, begun, ready⟩

end Alone

end Search

end ServiceLifecycle
