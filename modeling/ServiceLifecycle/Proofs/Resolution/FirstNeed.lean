/-
Module: ServiceLifecycle.Proofs.Resolution.FirstNeed
Purpose: What a call for a ready instance does on a broker that realizes a graph without circles.
Main exports: Advance, Answers, Resolves, perform_resolving, resolves
-/
import ServiceLifecycle.Proofs.Resolution.Bookkeeping
import ServiceLifecycle.Proofs.Broker.Readiness

namespace ServiceLifecycle

/-!
A call for a key comes to its end and answers as the graph says, whatever the ledger has
already: a ready key is handed out, a spoiled one is refused, and for any other one the late
phase is run, in which the same happens for all that the component needs.  This is shown by
induction on how deep phases may still nest.  There is always room for one more, because the
components at work are distinct and known to the broker, and no component waits for itself,
because there is no circle.
-/

open Broker

/-- How the search for the instance of a key ends, by what the graph has for the key. -/
inductive InstanceFits (graph : Graph) (base : Store) (key : String) (ledger : Ledger) :
    Except BrokerFault Nat → Store → Prop where
  | unknown {fault : BrokerFault} {t : Store} (nothing : graph key = none)
      (fits : Fits base t ledger) : InstanceFits graph base key ledger (.error fault) t
  | known {id : Nat} {node : Node} {t : Store} (known : graph key = some node)
      (present : t.cachedId? key = some id) (fits : Fits base t ledger) :
      InstanceFits graph base key ledger (.ok id) t

/-- The store and the ledger go together, and have come from an earlier store and ledger. -/
structure Advance (graph : Graph) (base : Store) (ledger : Ledger) (s : Store) (later : Ledger)
    (t : Store) : Prop where
  fits : Fits base t later
  coherent : later.IsCoherent graph
  extension : ledger.Extends later
  keeps : s.Keeps t

/-- A call for a key has been answered as the graph says: with the instance of the key, which is
ready, or with a fault, because the key is not healthy and spoiled if it has a component. -/
def Answers (graph : Graph) (key : String) (later : Ledger) (t : Store) :
    Except BrokerFault Nat → Prop
  | .ok id => t.cachedId? key = some id ∧ key ∈ later.ready
  | .error _ => ¬ graph.IsHealthy key ∧ ∀ node, graph key = some node → key ∈ later.spoiled

section Calls

variable {graph : Graph} {base s : Store} {ledger : Ledger} {key : String} {id : Nat}

theorem Store.RealizesLazily.of_bodyOf? {body : Body} (realizes : base.RealizesLazily graph)
    (found : base.bodyOf? key = some body) :
    ∃ node, graph key = some node ∧ body.lateCourse?.map Course.smooth = some node.resolving := by
  cases known : graph key with
  | none =>
      rw [realizes.unknown key known] at found
      cases found
  | some node =>
      obtain ⟨other, same, planned⟩ := realizes.known key node known
      rw [found] at same
      cases same
      exact ⟨node, rfl, planned⟩

theorem instanceFor_fits (realizes : base.RealizesLazily graph) (fits : Fits base s ledger)
    (key : String) :
    ∃ result t, instanceFor key s = .finished (result, t) ∧ s.Keeps t ∧
      InstanceFits graph base key ledger result t := by
  obtain ⟨result, t, finished, ending⟩ := instanceFor_ends key s
  refine ⟨result, t, finished, ?_⟩
  cases ending with
  | @cached id present =>
      obtain ⟨component, -, -, found⟩ := fits.intact.adheres.held present
      obtain ⟨node, known, -⟩ := realizes.of_bodyOf? found
      exact ⟨fun present => present, .known known present fits⟩
  | @unbuildable fault t absent nothing unresolved remark =>
      have unknown : graph key = none := by
        cases known : graph key with
        | none => rfl
        | some node =>
            obtain ⟨body, found, -⟩ := realizes.known key node known
            rw [← fits.bodyOf?_eq, nothing] at found
            cases found
      rcases remark with rfl | ⟨implementation, rfl⟩
      · exact ⟨fun present => present, .unknown unknown fits⟩
      · exact ⟨fun present => present, .unknown unknown (fits.note rfl rfl rfl)⟩
  | @built implementation name body absent assigned found =>
      have buildable : base.bodyOf? key = some body := by
        rw [← fits.bodyOf?_eq, Store.bodyOf?, assigned, Option.bind_some, found]
      obtain ⟨node, known, -⟩ := realizes.of_bodyOf? buildable
      constructor
      · intro other id present
        have different : other ≠ key := by
          rintro rfl
          rw [absent] at present
          cases present
        rw [Store.cachedId?_construct, if_neg different]
        exact present
      · refine .known known ?_ (fits.construct absent buildable)
        rw [Store.cachedId?_construct, if_pos rfl]

/-- A late phase enters and then performs its actions. -/
theorem Fits.runBody_late {component : Component} {course : Course}
    (fits : Fits base s ledger) (held : s.instance? id = some component)
    (planned : component.body.lateCourse? = some course) :
    ∃ t, Fits base t ledger ∧ s.Keeps t ∧ ∀ run,
      ∃ now, now.id = id ∧ runBody run id .late {} s = perform run now course t := by
  have body : (s.instance? id).map Component.body = some component.body := by rw [held]; rfl
  cases shape : component.body with
  | plain =>
      rw [shape] at body planned
      cases planned
      refine ⟨s, fits, fun present => present, fun run => ?_⟩
      refine ⟨{ id, phase := .late, run := 0 }, rfl, ?_⟩
      simp only [runBody, Work.bind_apply, Work.get_apply, Outcome.andThen_finished, body]
      rfl
  | scripted script =>
      rw [shape] at body planned
      cases planned
      refine ⟨s.enter id .late, fits.enter id .late, fun present => present, fun run => ?_⟩
      refine ⟨s.situation id .late {}, rfl, ?_⟩
      simp only [runBody, Work.bind_apply, Work.get_apply, Outcome.andThen_finished, body,
        runLateScript, enterPhase_apply]
      rfl
  | configuration loaded =>
      rw [shape] at planned
      cases planned
  | logging settings =>
      rw [shape] at planned
      cases planned

/-- With phases that may nest to a certain depth, a call for a ready instance comes to its end
and answers as the graph says. -/
def Resolves (graph : Graph) (base : Store) (depth : Nat) : Prop :=
  ∀ {key : String} {s : Store} {ledger : Ledger}, Fits base s ledger → ledger.IsCoherent graph →
    ledger.Leads graph [key] → base.knownKeys.length ≤ depth + ledger.active.length →
    ∃ result t later, resolveBy (runPhase depth) key s = .finished (result, t) ∧
      Advance graph base ledger s later t ∧ Answers graph key later t result

/-- The components at work are distinct and known to the broker. -/
theorem Ledger.IsCoherent.length_active_le (coherent : ledger.IsCoherent graph)
    (realizes : base.RealizesLazily graph) : ledger.active.length ≤ base.knownKeys.length := by
  have distinct : ledger.active.Nodup :=
    coherent.distinct.sublist ((List.sublist_append_left _ _).trans (List.sublist_append_left _ _))
  refine (List.subperm_of_subset distinct fun key member => ?_).length_le
  obtain ⟨node, known⟩ := coherent.known key member
  obtain ⟨body, found, -⟩ := realizes.known key node known
  exact mem_knownKeys found

namespace Advance

variable {later final : Ledger} {t u : Store}

theorem refl (fits : Fits base s ledger) (coherent : ledger.IsCoherent graph) :
    Advance graph base ledger s ledger s :=
  ⟨fits, coherent, .refl ledger, fun present => present⟩

theorem trans (first : Advance graph base ledger s later t)
    (second : Advance graph base later t final u) : Advance graph base ledger s final u :=
  ⟨second.fits, second.coherent, first.extension.trans second.extension,
    fun present => second.keeps (first.keeps present)⟩

/-- The component that was set to work has failed. -/
theorem spoil {fault : PhaseFault} (advance : Advance graph base (ledger.take key) s later t)
    (id : Nat) (unhealthy : ¬ graph.IsHealthy key) :
    Advance graph base ledger s (later.spoil key) (t.closePhase key id .late (.error fault)) := by
  have active : later.active = key :: ledger.active := advance.extension.active
  exact ⟨advance.fits.spoil id active, advance.coherent.spoil active unhealthy,
    advance.extension.spoil, advance.keeps⟩

/-- The component that was set to work has marked itself. -/
theorem settle {needs : List String} (advance : Advance graph base (ledger.take key) s later t)
    (present : t.cachedId? key = some id) (known : graph key = some ⟨needs, none⟩)
    (listed : ∀ other ∈ needs, other ∈ later.ready) :
    Advance graph base ledger s (later.settle key)
      ((t.mark id).closePhase key id .late (.ok ())) := by
  have active : later.active = key :: ledger.active := advance.extension.active
  exact ⟨advance.fits.settle present active, advance.coherent.settle active known listed,
    advance.extension.settle, advance.keeps⟩

end Advance

/-- A component asks for all that it needs, up to the first failure. -/
theorem perform_resolving {depth : Nat} (resolves : Resolves graph base depth)
    (fits : Fits base s ledger) (coherent : ledger.IsCoherent graph) {self : String}
    (present : s.cachedId? self = some id) {needs : List String}
    (leads : ledger.Leads graph needs)
    (room : base.knownKeys.length ≤ depth + ledger.active.length) :
    ∃ (result : Except BrokerFault Unit) (t : Store) (later : Ledger),
      Advance graph base ledger s later t ∧
      (result = .ok () → ∀ key ∈ needs, key ∈ later.ready) ∧
      (∀ fault, result = .error fault → ∃ key ∈ needs, ¬ graph.IsHealthy key) ∧
      ∀ (now : Situation) (course : Course) rest, now.id = id →
        course.smooth = needs.map (fun key => .resolve key .propagate) ++ rest →
        ∃ onward : Course, onward.smooth = rest ∧
          perform (runPhase depth) now course s =
            match result with
            | .error fault => .finished (.error (.nested fault), t)
            | .ok () => perform (runPhase depth) now onward t := by
  induction needs generalizing s ledger with
  | nil =>
      refine ⟨.ok (), s, ledger, .refl fits coherent, ?_, ?_, ?_⟩
      · exact fun _ key member => absurd member List.not_mem_nil
      · exact fun fault error => by cases error
      · exact fun now course rest _ plan => ⟨course, plan, rfl⟩
  | cons key needs inductionHypothesis =>
      obtain ⟨component, held, owned, -⟩ := fits.intact.adheres.held present
      have owner : hasOwner s id = true := by
        rw [hasOwner, fits.intact.reachable, held]
        exact owned
      have first : ledger.Leads graph [key] := by
        intro other member
        rw [List.mem_singleton.mp member]
        exact leads key List.mem_cons_self
      obtain ⟨answer, t, later, called, advance, answers⟩ :=
        @resolves key s ledger fits coherent first room
      -- The component calls its broker, and what becomes of it decides how the phase goes on.
      have acted : ∀ now : Situation, now.id = id →
          act (runPhase depth) now (.resolve key .propagate) s =
            afterCall id .propagate answer t := by
        intro now same
        have calls : Action.CallsOwner (.resolve key .propagate) := trivial
        rw [act_call calls, same, if_pos owner, callOwner, Work.bind_apply, called]
        rw [Outcome.andThen_finished, same]
      cases answer with
      | error fault =>
          refine ⟨.error fault, t, later, advance, (fun ok => by cases ok), ?_, ?_⟩
          · exact fun _ _ => ⟨key, List.mem_cons_self, answers.1⟩
          · intro now course rest same plan
            obtain ⟨next, rfl, -⟩ := Course.smooth_eq_cons.mp plan
            refine ⟨.straight rest, Course.smooth_straight, ?_⟩
            rw [perform, Work.bind_apply, acted now same]
            rfl
      | ok number =>
          have onward : later.Leads graph needs :=
            advance.extension.leads fun other member => leads other (List.mem_cons_of_mem _ member)
          obtain ⟨result, u, final, further, good, bad, performed⟩ :=
            inductionHypothesis advance.fits advance.coherent (advance.keeps present) onward
              (advance.extension.active ▸ room)
          refine ⟨result, u, final, advance.trans further, ?_, ?_, ?_⟩
          · intro ok other member
            rcases List.mem_cons.mp member with rfl | member
            · exact further.extension.ready.subset answers.2
            · exact good ok other member
          · intro fault error
            obtain ⟨other, member, unhealthy⟩ := bad fault error
            exact ⟨other, List.mem_cons_of_mem _ member, unhealthy⟩
          · intro now course rest same plan
            obtain ⟨next, rfl, beyond⟩ := Course.smooth_eq_cons.mp plan
            obtain ⟨onward, left, performs⟩ := performed now (next none) rest same beyond
            refine ⟨onward, left, ?_⟩
            rw [perform, Work.bind_apply, acted now same]
            exact performs

/-- A late phase ends with a fault when something that the component needs could not be made
ready, or when the component fails by itself; otherwise the component marks itself at the end. -/
theorem runPhase_late {depth : Nat} {node : Node} (realizes : base.RealizesLazily graph)
    (resolves : Resolves graph base depth) (known : graph key = some node)
    (present : s.cachedId? key = some id) (fits : Fits base s (ledger.take key))
    (coherent : (ledger.take key).IsCoherent graph)
    (room : base.knownKeys.length ≤ depth + (ledger.take key).active.length) :
    ∃ (t : Store) (later : Ledger), Advance graph base (ledger.take key) s later t ∧
      ((∃ fault, ¬ graph.IsHealthy key ∧
          runPhase (depth + 1) id .late {} s = .finished (.error fault, t)) ∨
        (∃ needs, graph key = some ⟨needs, none⟩ ∧ (∀ other ∈ needs, other ∈ later.ready) ∧
          runPhase (depth + 1) id .late {} s = .finished (.ok (), t.mark id))) := by
  obtain ⟨component, held, -, body⟩ := fits.intact.adheres.held present
  obtain ⟨other, same, planned⟩ := realizes.of_bodyOf? body
  rw [known] at same
  cases same
  obtain ⟨course, taken, plan⟩ := Option.map_eq_some_iff.mp planned
  obtain ⟨t, entered, kept, began⟩ := fits.runBody_late held taken
  obtain ⟨result, u, later, advance, good, bad, performed⟩ :=
    perform_resolving resolves entered coherent (kept present) (Ledger.leads_take known) room
  obtain ⟨now, self, run⟩ := began (runPhase depth)
  have ran : runPhase (depth + 1) id .late {} s = perform (runPhase depth) now course t := run
  obtain ⟨onward, last, performs⟩ := performed now course [node.ending] self plan
  rw [performs] at ran
  refine ⟨u, later, .trans ⟨entered, coherent, .refl _, kept⟩ advance, ?_⟩
  cases result with
  | error fault =>
      obtain ⟨need, member, unhealthy⟩ := bad fault rfl
      exact .inl ⟨_, Graph.not_isHealthy_of_need known member unhealthy, ran⟩
  | ok _ =>
      have ended := perform_ending (runPhase depth) now node last u
      rw [self] at ended
      obtain ⟨needs, cause⟩ := node
      cases cause with
      | some fault => exact .inl ⟨fault, Graph.not_isHealthy_of_fault known rfl, ran.trans ended⟩
      | none => exact .inr ⟨needs, known, good rfl, ran.trans ended⟩

/-- A call that hands over to a late phase answers as the graph says. -/
theorem resolveBy_admitted {depth : Nat} {node : Node} {u : Store}
    (realizes : base.RealizesLazily graph) (resolves : Resolves graph base depth)
    (construction : instanceFor key s = .finished (.ok id, u)) (kept : s.Keeps u)
    (present : u.cachedId? key = some id) (admits : u.Admits key id .late)
    (known : graph key = some node) (fits : Fits base u ledger)
    (coherent : (ledger.take key).IsCoherent graph)
    (room : base.knownKeys.length ≤ depth + (ledger.take key).active.length) :
    ∃ result t later, resolveBy (runPhase (depth + 1)) key s = .finished (result, t) ∧
      Advance graph base ledger s later t ∧ Answers graph key later t result := by
  have cached : (u.openPhase key id .late).cachedId? key = some id := present
  obtain ⟨t, later, advance, ending⟩ := runPhase_late realizes resolves known cached
    (fits.openPhase key id) coherent room
  have moved : Advance graph base (ledger.take key) s later t :=
    ⟨advance.fits, advance.coherent, advance.extension, fun held => advance.keeps (kept held)⟩
  rw [resolveBy, lateFrom_admitted construction admits]
  rcases ending with ⟨fault, unhealthy, ran⟩ | ⟨needs, complete, listed, ran⟩
  · rw [ran]
    refine ⟨.error (fault.about key), _, later.spoil key, rfl, moved.spoil id unhealthy, ?_⟩
    exact ⟨unhealthy, fun _ _ => List.mem_cons_self⟩
  · have self : t.cachedId? key = some id := advance.keeps cached
    have marked : (t.mark id).isReady id = true := by
      obtain ⟨component, found, -⟩ := advance.fits.intact.adheres.held self
      rw [Store.isReady_mark, if_pos rfl, found]
      rfl
    have good : verdict (t.mark id) key id .late (.ok ()) = .ok () := by
      rw [verdict, marked, if_pos rfl]
    rw [ran]
    simp only [Outcome.andThen_finished, good]
    refine ⟨.ok id, _, later.settle key, rfl, moved.settle self complete listed, ?_⟩
    exact ⟨self, List.mem_cons_self⟩

/-- A call answers as the graph says when the calls in the phase that it starts do. -/
theorem resolves_of_inner (realizes : base.RealizesLazily graph)
    (acyclic : ∀ key, ¬ graph.IsCircular key) {depth : Nat}
    (inner : ∀ less, depth = less + 1 → Resolves graph base less) : Resolves graph base depth := by
  intro key s ledger fits coherent leads room
  obtain ⟨supply, u, construction, kept, found⟩ := instanceFor_fits realizes fits key
  cases found with
  | unknown nothing after =>
      refine ⟨_, u, ledger, lateFrom_finished.mpr (.unbuilt construction),
        ⟨after, coherent, .refl ledger, kept⟩, Graph.not_isHealthy_of_unknown nothing, ?_⟩
      intro node known
      rw [nothing] at known
      cases known
  | @known id node _ known present after =>
      have here : Advance graph base ledger s ledger u := ⟨after, coherent, .refl ledger, kept⟩
      by_cases ready : key ∈ ledger.ready
      · have initialized := (after.isReady_iff present).mpr ready
        exact ⟨.ok id, u, ledger, lateFrom_finished.mpr (.already construction initialized), here,
          present, ready⟩
      have unready : u.isReady id = false :=
        Bool.eq_false_iff.mpr fun initialized => ready ((after.isReady_iff present).mp initialized)
      by_cases spoiled : key ∈ ledger.spoiled
      · obtain ⟨reason, record⟩ := Option.isSome_iff_exists.mp ((after.poisoned key).mpr spoiled)
        exact ⟨_, u, ledger, lateFrom_finished.mpr (.poisoned construction unready record), here,
          coherent.unhealthy key spoiled, fun _ _ => spoiled⟩
      have idle : key ∉ ledger.active := fun again => acyclic key (coherent.isCircular leads again)
      have new : key ∉ ledger.begun := by
        rw [Ledger.mem_begun]
        exact fun member => member.elim idle fun rest => rest.elim ready spoiled
      have taken := coherent.take known leads new
      -- There is room for one more phase, because all components at work are known.
      have enough : ledger.active.length + 1 ≤ base.knownKeys.length :=
        taken.length_active_le realizes
      cases depth with
      | zero => omega
      | succ depth =>
          have inside : base.knownKeys.length ≤ depth + (ledger.take key).active.length := by
            simp only [Ledger.take, List.length_cons]
            omega
          have clean : u.poisoned.get? key = none :=
            Option.not_isSome_iff_eq_none.mp fun record => spoiled ((after.poisoned key).mp record)
          have admits : u.Admits key id .late := ⟨unready, clean, after.settling ▸ idle⟩
          exact resolveBy_admitted realizes (inner depth rfl) construction kept present admits
            known after taken inside

theorem resolves (realizes : base.RealizesLazily graph) (acyclic : ∀ key, ¬ graph.IsCircular key)
    (depth : Nat) : Resolves graph base depth := by
  induction depth with
  | zero => exact resolves_of_inner realizes acyclic fun less equal => absurd equal (by omega)
  | succ depth inductionHypothesis =>
      refine resolves_of_inner realizes acyclic fun less equal => ?_
      cases equal
      exact inductionHypothesis

end Calls

end ServiceLifecycle
