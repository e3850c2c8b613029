/-
Module: ServiceLifecycle.Proofs.Resolution.CallSequence
Purpose: What any sequence of calls for ready instances comes to on an unused broker.
Main exports: resolveEach_advances, lazy_resolution
-/
import ServiceLifecycle.Proofs.Resolution.FirstNeed
import Mathlib.Data.List.Forall2

namespace ServiceLifecycle

/-!
Earlier calls leave ready and spoiled keys behind, and later calls come upon any mixture of
them.  Still each call is answered as the graph says, because a key only becomes ready when it
is healthy and is only spoiled when it is not.  So the order of the calls does not matter for
their success.
-/

open Broker

section Sequences

variable {graph : Graph} {base s t : Store} {ledger later final : Ledger} {key : String}
  {result : Except BrokerFault Nat}

/-- An answer remains true. -/
theorem Answers.mono {u : Store} (answers : Answers graph key later t result)
    (advance : Advance graph base later t final u) : Answers graph key final u result := by
  cases result with
  | ok id => exact ⟨advance.keeps answers.1, advance.extension.ready.subset answers.2⟩
  | error fault =>
      refine ⟨answers.1, fun node known => ?_⟩
      exact advance.extension.spoiled.subset (answers.2 node known)

theorem Answers.ok_iff (answers : Answers graph key later t result)
    (coherent : later.IsCoherent graph) : (∃ id, result = .ok id) ↔ graph.IsHealthy key := by
  cases result with
  | ok id => exact ⟨fun _ => coherent.isHealthy answers.2, fun _ => ⟨id, rfl⟩⟩
  | error fault =>
      constructor
      · rintro ⟨id, error⟩
        cases error
      · exact fun healthy => absurd healthy answers.1

/-- What an answer says about the key of the call. -/
theorem Answers.settled (answers : Answers graph key later t result)
    (coherent : later.IsCoherent graph) :
    (graph.IsHealthy key → key ∈ later.ready) ∧
      (∀ node, graph key = some node → ¬ graph.IsHealthy key → key ∈ later.spoiled) := by
  cases result with
  | ok id => exact ⟨fun _ => answers.2, fun _ _ unhealthy =>
      absurd (coherent.isHealthy answers.2) unhealthy⟩
  | error fault => exact ⟨fun healthy => absurd healthy answers.1, fun node known _ =>
      answers.2 node known⟩

/-- Calls made by the host, one after the other, are answered as the graph says. -/
theorem resolveEach_advances (realizes : base.RealizesLazily graph)
    (acyclic : ∀ key, ¬ graph.IsCircular key) (keys : List String) (fits : Fits base s ledger)
    (coherent : ledger.IsCoherent graph) (idle : ledger.active = []) :
    ∃ results t later, keys.mapM resolve s = .finished (results, t) ∧
      Advance graph base ledger s later t ∧
      List.Forall₂ (fun key result => Answers graph key later t result) keys results := by
  induction keys generalizing s ledger with
  | nil => exact ⟨[], s, ledger, rfl, .refl fits coherent, .nil⟩
  | cons key keys inductionHypothesis =>
      have room : base.knownKeys.length ≤ depthAllowance s + ledger.active.length := by
        rw [← fits.knownKeys_eq]
        exact (length_knownKeys_le s).trans (Nat.le_add_right _ _)
      obtain ⟨result, t, later, called, advance, answers⟩ :=
        @resolves graph base realizes acyclic (depthAllowance s) key s ledger fits coherent
          (Ledger.leads_of_idle idle _) room
      obtain ⟨results, u, final, rest, further, following⟩ := inductionHypothesis advance.fits
        advance.coherent (advance.extension.active.trans idle)
      have first : resolve key s = .finished (result, t) := called
      refine ⟨result :: results, u, final, ?_, advance.trans further,
        .cons (answers.mono further) following⟩
      rw [List.mapM_cons, Work.bind_apply, first, Outcome.andThen_finished, Work.bind_apply, rest]
      rfl

end Sequences

/-- Take a broker of which nothing has been asked yet and whose components, when they are first
needed, ask for what they need to be ready in order, pass failures on, and then mark themselves
or fail; some keys may have no component, but there is no circle.  Any sequence of calls comes to
its end, and each call succeeds if and only if everything that its key reaches has a component
and ends without fault.  It then returns the instance of the key.

Throughout the sequence the late phase of a key is run at most once, the initialized keys have
marked themselves in an order in which each comes after all that it needs, and everything that a
healthy key of the sequence reaches is initialized.  No late phase of a healthy key has failed and
none is poisoned, while the other keys of the sequence that have a component all are. -/
theorem lazy_resolution {graph : Graph} {s : Store} (realizes : s.RealizesLazily graph)
    (unused : s.IsUnused) (acyclic : ∀ key, ¬ graph.IsCircular key) (keys : List String) :
    ∃ results t events, keys.mapM resolve s = .finished (results, t) ∧
      t.journal = events ++ s.journal ∧
      List.Forall₂ (fun key result => ((∃ id, result = .ok id) ↔ graph.IsHealthy key) ∧
        ∀ id, result = .ok id → t.cachedId? key = some id) keys results ∧
      (events.filterMap Event.taken?).Nodup ∧
      (∃ order : List String, order.Nodup ∧
        (∀ key, key ∈ order ↔ t.isInitialized key = true) ∧
        (events.filterMap Event.marked?).reverse.map some = order.map t.cachedId? ∧
        ∀ key other, key ∈ order → graph.Needs key other → [other, key].Sublist order) ∧
      (∀ key ∈ keys, graph.IsHealthy key →
        ∀ other, graph.Reaches key other → t.isInitialized other = true) ∧
      (∀ key, graph.IsHealthy key →
        t.isPoisoned key = false ∧ ∀ id, .ended key id .late false ∉ events) ∧
      (∀ key ∈ keys, ∀ node, graph key = some node → ¬ graph.IsHealthy key →
        t.isPoisoned key = true) := by
  obtain ⟨results, t, later, finished, advance, answers⟩ := resolveEach_advances realizes acyclic
    keys (Fits.start unused) Ledger.isCoherent_start rfl
  obtain ⟨fits, coherent, -, -⟩ := advance
  obtain ⟨events, recorded⟩ := fits.journal
  have settled : ∀ key ∈ keys, (graph.IsHealthy key → key ∈ later.ready) ∧
      (∀ node, graph key = some node → ¬ graph.IsHealthy key → key ∈ later.spoiled) :=
    ((List.forall₂_and_left _ _).mp (answers.imp fun _ _ one => ⟨one.settled coherent, one⟩)).1
  refine ⟨results, t, events, finished, recorded.grown, ?_, ?_, ⟨later.ready.reverse, ?_⟩, ?_, ?_,
    ?_⟩
  · refine answers.imp fun key result one => ⟨one.ok_iff coherent, ?_⟩
    rintro id rfl
    exact one.1
  · exact recorded.taken.nodup_iff.mpr coherent.distinct
  · refine ⟨List.nodup_reverse.mpr coherent.ordered.nodup, ?_, ?_, ?_⟩
    · intro key
      rw [List.mem_reverse, fits.initialized]
    · rw [List.map_reverse, recorded.marked, List.map_reverse]
    · intro key other member need
      exact (coherent.ordered.needs_sublist (List.mem_reverse.mp member) need).reverse
  · intro key member healthy other reaches
    have ready := (settled key member).1 healthy
    exact (fits.initialized other).mpr (coherent.ordered.mem_of_reaches ready reaches)
  · intro key healthy
    have unspoiled : key ∉ later.spoiled := fun member => coherent.unhealthy key member healthy
    constructor
    · rw [Bool.eq_false_iff, ne_eq, fits.poisoned]
      exact unspoiled
    · intro id member
      have listed : key ∈ events.filterMap Event.spoiled? :=
        List.mem_filterMap.mpr ⟨_, member, rfl⟩
      rw [recorded.spoiled] at listed
      exact unspoiled listed
  · intro key member node known unhealthy
    exact (fits.poisoned key).mpr ((settled key member).2 node known unhealthy)

/-- A component needs one that is there and one that needs a missing one. -/
def Graph.shop : Graph := fun key =>
  if key = "web" then some ⟨["store", "cache"], none⟩
  else if key = "store" then some ⟨[], none⟩
  else if key = "cache" then some ⟨["disk"], none⟩
  else none

/-- A broker of services with these components. -/
def Store.shop : Store :=
  let resolving (keys : List String) : Body :=
    .scripted
      { late := some (.straight (keys.map (fun key => .resolve key .propagate) ++ [.mark])) }
  { registry :=
      { capability := .service
        recipes :=
          [("Web", .build (resolving ["store", "cache"])), ("Store", .build .plain),
            ("Cache", .build (resolving ["disk"]))] }
    mapping := { entries := [("web", "Web"), ("store", "Store"), ("cache", "Cache")] } }

theorem shop_cases (key : String) :
    key = "web" ∨ key = "store" ∨ key = "cache" ∨
      Graph.shop key = none ∧ Store.shop.bodyOf? key = none := by
  by_cases web : key = "web"
  · exact .inl web
  by_cases store : key = "store"
  · exact .inr (.inl store)
  by_cases cache : key = "cache"
  · exact .inr (.inr (.inl cache))
  refine .inr (.inr (.inr ⟨?_, ?_⟩))
  · simp [Graph.shop, web, store, cache]
  · have unmapped : Store.shop.mapping.get? key = none := by
      simp [Store.shop, Mapping.get?, Entries.get?, Ne.symm web, Ne.symm store, Ne.symm cache]
    rw [Store.bodyOf?, Store.assigned?, show Store.shop.registry.capability = .service from rfl,
      unmapped]
    rfl

theorem shop_realizesLazily : Store.shop.RealizesLazily Graph.shop := by
  constructor
  case unknown =>
    intro key unknown
    rcases shop_cases key with rfl | rfl | rfl | ⟨-, absent⟩
    · cases unknown
    · cases unknown
    · cases unknown
    · exact absent
  case known =>
    intro key node known
    rcases shop_cases key with rfl | rfl | rfl | ⟨unknown, -⟩
    · cases known
      exact ⟨_, rfl, rfl⟩
    · cases known
      exact ⟨_, rfl, rfl⟩
    · cases known
      exact ⟨_, rfl, rfl⟩
    · rw [unknown] at known
      cases known

theorem shop_acyclic (key : String) : ¬ Graph.shop.IsCircular key := by
  let rank : String → Nat := fun key => if key = "web" then 2 else if key = "cache" then 1 else 0
  refine Graph.not_isCircular_of_rank rank ?_ key
  rintro key other ⟨node, known, need⟩
  rcases shop_cases key with rfl | rfl | rfl | ⟨unknown, -⟩
  · cases known
    rcases List.mem_cons.mp need with rfl | need
    · decide
    · rw [List.mem_singleton.mp need]
      decide
  · cases known
    cases need
  · cases known
    rw [List.mem_singleton.mp need]
    decide
  · rw [unknown] at known
    cases known

theorem shop_isHealthy_iff (key : String) : Graph.shop.IsHealthy key ↔ key = "store" := by
  have needsDisk : Graph.shop "cache" = some ⟨["disk"], none⟩ := rfl
  have needsCache : Graph.shop "web" = some ⟨["store", "cache"], none⟩ := rfl
  have cache : ¬ Graph.shop.IsHealthy "cache" :=
    Graph.not_isHealthy_of_need needsDisk List.mem_cons_self (Graph.not_isHealthy_of_unknown rfl)
  have web : ¬ Graph.shop.IsHealthy "web" :=
    Graph.not_isHealthy_of_need needsCache (by simp) cache
  have ordered : Graph.shop.Ordered ["store"] :=
    .cons List.not_mem_nil (show Graph.shop "store" = some ⟨[], none⟩ from rfl) (by simp) .nil
  have store : Graph.shop.IsHealthy "store" :=
    (ordered.isSound "store" List.mem_cons_self).isHealthy
  rcases shop_cases key with rfl | rfl | rfl | ⟨unknown, -⟩
  · simp [web]
  · simp [store]
  · simp [cache]
  · have different : key ≠ "store" := by
      rintro rfl
      cases unknown
    simp [Graph.not_isHealthy_of_unknown unknown, different]

/-- One service can be used, and the others are poisoned, whichever is asked for first. -/
theorem lazy_resolution_shop :
    ∃ results t, ["web", "store", "cache", "web"].mapM resolve Store.shop = .finished (results, t) ∧
      List.Forall₂ (fun key result => (∃ id, result = .ok id) ↔ key = "store")
        ["web", "store", "cache", "web"] results ∧
      t.isInitialized "store" = true ∧ t.isPoisoned "store" = false ∧
      t.isPoisoned "web" = true ∧ t.isPoisoned "cache" = true := by
  obtain ⟨results, t, events, finished, -, answers, -, -, good, clean, bad⟩ :=
    lazy_resolution shop_realizesLazily ⟨rfl, rfl, rfl, rfl⟩ shop_acyclic
      ["web", "store", "cache", "web"]
  have healthy : Graph.shop.IsHealthy "store" := (shop_isHealthy_iff _).mpr rfl
  refine ⟨results, t, finished, ?_, ?_, (clean "store" healthy).1, ?_, ?_⟩
  · exact answers.imp fun key _ one => one.1.trans (shop_isHealthy_iff key)
  · exact good "store" (by simp) healthy "store" .refl
  · exact bad "web" (by simp) _ rfl ((shop_isHealthy_iff _).not.mpr (by decide))
  · exact bad "cache" (by simp) _ rfl ((shop_isHealthy_iff _).not.mpr (by decide))

end ServiceLifecycle
