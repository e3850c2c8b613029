/-
Module: ServiceLifecycle.Proofs.Startup.EarlyCall
Purpose: What an early call on a broker with nothing constructed comes to.
Main exports: early_depth_first
-/
import ServiceLifecycle.Proofs.Startup.DepthFirst

namespace ServiceLifecycle

/-!
When all components initialize what they need and then themselves, an early call can only
fail for a circle, and it fails whenever there is one within reach.
-/

open Broker

/-- An early call on a broker with nothing constructed, whose components have what they need
initialized in order, pass failures on and then mark themselves, comes to its end.  It
succeeds if and only if no circle can be reached from the key.

Then the keys that can be reached from the key, and no others, are constructed and
initialized, the early phase of each has been run once, and each has marked itself after all
that it needs.  Otherwise the fault is a circle in the graph, none of whose keys is
initialized.  No early phase is run twice in either case, and the stack is empty again. -/
theorem early_depth_first {graph : Graph} {s : Store} {key : String}
    (realizes : s.Realizes graph) (bare : s.IsBare)
    (succeed : ∀ other, graph.Reaches key other → graph.Succeeds other) (data : StartupData) :
    ∃ result t events, early key data s = .finished (result, t) ∧
      t.journal = events ++ s.journal ∧ t.stack = [] ∧ (events.filterMap Event.begun?).Nodup ∧
      (result = .ok () ↔ ∀ other, graph.Reaches key other → ¬ graph.IsCircular other) ∧
      (result = .ok () →
        (∀ other, t.isConstructed other = true ↔ graph.Reaches key other) ∧
        (∀ other, t.isInitialized other = true ↔ graph.Reaches key other) ∧
        (∀ other, other ∈ events.filterMap Event.begun? ↔ graph.Reaches key other) ∧
        ∃ order : List String, order.Nodup ∧ (∀ other, other ∈ order ↔ graph.Reaches key other) ∧
          (events.filterMap Event.marked?).reverse.map some = order.map t.cachedId? ∧
          ∀ one other, one ∈ order → graph.Needs one other → [other, one].Sublist order) ∧
      (∀ fault, result = .error fault →
        ∃ about middle, fault = .circular about (about :: middle ++ [about]) ∧
          (about :: middle).Nodup ∧ (about :: middle ++ [about]).IsChain graph.Needs ∧
          ∀ other ∈ about :: middle, t.isInitialized other = false) := by
  have room : s.knownKeys.length ≤ depthAllowance s + ({} : Progress).stack.length :=
    (length_knownKeys_le s).trans (Nat.le_add_right _ _)
  obtain ⟨result, t, q, search, tracks, -, called⟩ :=
    @searches graph s realizes _ key _ _ (Tracks.start bare) List.nodup_nil room
  have coherent : q.IsCoherent graph :=
    search.coherent Progress.isCoherent_start (Progress.leads_of_empty rfl _)
  obtain ⟨once, -⟩ := search.tidy Progress.isTidy_start
  obtain ⟨events, records⟩ := tracks.journal
  have sound_iff := search.ok_iff_isSound Progress.isCoherent_start rfl
  refine ⟨result, t, events, called data, records.grown, tracks.stack.trans search.stack,
    records.begun ▸ once, ?_, ?_, ?_⟩
  · rw [sound_iff]
    constructor
    · exact fun sound other reaches => (sound other reaches).2
    · exact fun uncircular other reaches => ⟨succeed other reaches, uncircular other reaches⟩
  · rintro rfl
    have found := search.reaches_iff
    refine ⟨?_, ?_, ?_, q.ready.reverse, ?_, ?_, ?_, ?_⟩
    · exact fun other => (tracks.constructed other).trans (found other).1
    · exact fun other => (tracks.initialized other).trans (found other).2.2
    · intro other
      rw [records.begun]
      exact (found other).2.1
    · exact List.nodup_reverse.mpr coherent.ordered.nodup
    · intro other
      rw [List.mem_reverse]
      exact (found other).2.2
    · rw [List.map_reverse, records.marked, List.map_reverse]
    · intro one other listed need
      have pair := coherent.ordered.needs_sublist (List.mem_reverse.mp listed) need
      exact pair.reverse
  · intro fault error
    have within : ∀ first ∈ [key], ∀ other, graph.Reaches first other → graph.Succeeds other := by
      intro first member other reaches
      rw [List.mem_singleton.mp member] at reaches
      exact succeed other reaches
    obtain ⟨about, stack, chain, rfl, circle, path, uninitialized⟩ :=
      search.circular_of_error Progress.isCoherent_start (Progress.leads_of_empty rfl _) within
        error
    have closed := circle.closed
    obtain ⟨middle, start⟩ := List.head?_eq_some_iff.mp circle.start
    rw [start] at closed
    refine ⟨about, middle, by rw [closed], start ▸ circle.distinct, by rw [closed]; exact path, ?_⟩
    intro other member
    have among : other ∈ chain := by
      rw [← closed]
      exact List.mem_append_left _ member
    rw [Bool.eq_false_iff, ne_eq, tracks.initialized]
    exact uninitialized other among

/-- A component that needs another one. -/
def Graph.pair : Graph := fun key =>
  if key = "a" then some ⟨["b"], none⟩
  else if key = "b" then some ⟨[], none⟩
  else none

/-- A broker of these components. -/
def Store.pair : Store :=
  { registry :=
      { recipes :=
          [("a", .build (.scripted { early := some (.straight [.early "b" .propagate, .mark]) })),
            ("b", .build .plain)] } }

theorem pair_realizes : Store.pair.Realizes Graph.pair := by
  intro key
  by_cases first : key = "a"
  · subst first
    exact ⟨_, rfl, rfl⟩
  · by_cases second : key = "b"
    · subst second
      exact ⟨_, rfl, rfl⟩
    · have unknown : Store.pair.registry.recipes.get? key = none := by
        simp [Store.pair, Entries.get?, Ne.symm first, Ne.symm second]
      have absent : Graph.pair key = none := by simp [Graph.pair, first, second]
      have assigned : Store.pair.assigned? key = some (key, none) := rfl
      rw [absent, Store.bodyOf?, assigned, Option.bind_some, Registry.bodyFor?, Registry.find,
        unknown]
      rfl

/-- The second component is all that the first one needs. -/
theorem early_depth_first_pair :
    ∃ t, early "a" {} Store.pair = .finished (.ok (), t) ∧
      ∀ other, t.isInitialized other = true ↔ other = "a" ∨ other = "b" := by
  have ordered : Graph.pair.Ordered ["a", "b"] :=
    .cons (by decide) (show Graph.pair "a" = some ⟨["b"], none⟩ from rfl) (by simp)
      (.cons (by simp) (show Graph.pair "b" = some ⟨[], none⟩ from rfl) (by simp) .nil)
  have sound : Graph.pair.IsSound "a" := ordered.isSound "a" (by simp)
  obtain ⟨result, t, _, called, -, -, -, ok_iff, good, -⟩ := early_depth_first pair_realizes
    ⟨rfl, rfl, rfl⟩ (fun other reaches => (sound other reaches).1) {}
  have ok : result = .ok () := ok_iff.mpr fun other reaches => (sound other reaches).2
  obtain ⟨-, initialized, -⟩ := good ok
  refine ⟨t, ok ▸ called, fun other => (initialized other).trans ⟨fun reaches => ?_, ?_⟩⟩
  · simpa using ordered.mem_of_reaches (by simp) reaches
  · rintro (rfl | rfl)
    · exact .refl
    · exact .single ⟨_, rfl, by simp⟩

end ServiceLifecycle
