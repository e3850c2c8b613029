/-
Module: ServiceLifecycle.Proofs.Startup.DepthFirst
Purpose: An early call on a broker that realizes a graph is a search through the graph.
Main exports: Store.knownKeys, Searches, perform_needs, searches
-/
import ServiceLifecycle.Proofs.Broker.Actions
import ServiceLifecycle.Proofs.Startup.Tracking
import Mathlib.Data.List.Perm.Subperm

namespace ServiceLifecycle

/-!
The search is spread over the broker and its components, which call each other.  Two
things are shown together, by induction on how deep phases may still nest: an early call
comes to its end, and what it has done is a search.  It comes to its end because the keys
on the stack are distinct and known to the broker, so that there is room for one more
phase whenever one is started.
-/

open Broker

/-- Every key for which something can be built is among these. -/
def Store.knownKeys (s : Store) : List String :=
  s.registry.recipes.keys ++ s.mapping.keys ++ (s.registry.statics.getD []).map StaticEntry.key

theorem length_knownKeys_le (s : Store) : s.knownKeys.length ≤ depthAllowance s := by
  simp only [Store.knownKeys, Entries.keys, List.length_append, List.length_map, depthAllowance]
  omega

theorem mem_of_bodyFor? {registry : Registry} {implementation : String} {body : Body}
    (found : registry.bodyFor? implementation = some body) :
    implementation ∈ registry.recipes.keys ++ (registry.statics.getD []).map StaticEntry.key := by
  rw [Registry.bodyFor?, Registry.find] at found
  cases recipe : registry.recipes.get? implementation with
  | some recipe => exact List.mem_append_left _ (Entries.mem_keys_of_get? recipe)
  | none =>
      rw [recipe] at found
      cases static : registry.static? implementation with
      | none =>
          rw [static] at found
          cases found
      | some entry =>
          refine List.mem_append_right _ ?_
          rw [Registry.static?] at static
          obtain ⟨entries, statics, search⟩ := Option.bind_eq_some_iff.mp static
          rw [statics, Option.getD_some]
          have same : entry.key = implementation := by
            simpa using List.find?_some search
          exact List.mem_map.mpr ⟨entry, List.mem_of_find?_eq_some search, same⟩

theorem mem_knownKeys {s : Store} {key : String} {body : Body} (found : s.bodyOf? key = some body) :
    key ∈ s.knownKeys := by
  obtain ⟨⟨implementation, name⟩, assigned, built⟩ := Option.bind_eq_some_iff.mp found
  rw [Store.assigned?] at assigned
  cases capability : s.registry.capability with
  | component =>
      rw [capability] at assigned
      cases assigned
      have member := mem_of_bodyFor? built
      simp only [Store.knownKeys, List.mem_append] at member ⊢
      exact member.imp_left .inl
  | service =>
      rw [capability] at assigned
      obtain ⟨_, mapped, -⟩ := Option.map_eq_some_iff.mp assigned
      exact List.mem_append_left _ (List.mem_append_right _ (Entries.mem_keys_of_get? mapped))

section Search

variable {graph : Graph} {base s : Store} {p : Progress}

/-- The keys on the stack are known to the broker. -/
theorem Tracks.length_stack_le (realizes : base.Realizes graph) (tracks : Tracks graph base s p)
    (distinct : p.stack.Nodup) : p.stack.length ≤ base.knownKeys.length := by
  refine (List.subperm_of_subset distinct fun key member => ?_).length_le
  obtain ⟨id, present⟩ := tracks.cachedId?_of_mem_built (tracks.held key member)
  obtain ⟨_, node, -, -, known, -⟩ := tracks.planned.follows present
  obtain ⟨body, found, -⟩ := realizes.of_known known
  exact mem_knownKeys found

/-- The broker takes a key up. -/
theorem Tracks.openPhase {key : String} {id : Nat} (tracks : Tracks graph base s (p.build key)) :
    Tracks graph base (s.openPhase key id .early) (p.push key) := by
  have held : ∀ other ∈ key :: s.stack, other ∈ (p.build key).built := by
    intro other member
    rcases List.mem_cons.mp member with rfl | member
    · exact List.mem_cons_self
    · rw [tracks.stack] at member
      exact tracks.held other member
  have opened := (tracks.restack held).note
    (show (Event.started key id .early).marked? = none from rfl) rfl
  rw [tracks.stack] at opened
  rw [Store.openPhase, tracks.stack]
  exact opened

/-- The broker gives the innermost key up, whatever came of it. -/
theorem Tracks.closePhase {key : String} {id : Nat} {result : Except PhaseFault Unit}
    (tracks : Tracks graph base s p) :
    Tracks graph base (s.closePhase key id .early result) p.pop := by
  have unmarked : (Event.ended key id .early result.isOk).marked? = none := rfl
  have ended := tracks.note unmarked rfl
  have popped := ended.restack fun key member => tracks.held key (List.mem_of_mem_tail member)
  rw [← tracks.stack] at popped
  cases result with
  | error fault =>
      rw [Progress.pop, ← tracks.stack]
      exact popped
  | ok _ =>
      rw [Progress.pop, ← tracks.stack]
      exact popped.clearPoison key

theorem Tracks.enter (tracks : Tracks graph base s p) (id : Nat) (phase : Phase) :
    Tracks graph base (s.enter id phase) p := by
  have counted : Tracks graph base
      (s.update id fun component => { component with calls := component.calls.next phase }) p :=
    tracks.update (fun _ => rfl) fun _ => rfl
  have silent : ∀ label, (Event.entered label phase).marked? = none := fun _ => rfl
  exact counted.note (silent _) rfl

/-- An early phase enters and then performs its actions. -/
theorem Tracks.runBody_early {component : Component} {id : Nat} {course : Course}
    (tracks : Tracks graph base s p) (held : s.instance? id = some component)
    (planned : component.body.earlyCourse? = some course) :
    ∃ t, Tracks graph base t p ∧ s.Keeps t ∧ ∀ run data,
      ∃ now, now.id = id ∧ runBody run id .early data s = perform run now course t := by
  have body : (s.instance? id).map Component.body = some component.body := by rw [held]; rfl
  cases shape : component.body with
  | plain =>
      rw [shape] at body planned
      cases planned
      refine ⟨s, tracks, fun present => present, ?_⟩
      intro run data
      refine ⟨{ id, phase := .early, run := 0 }, rfl, ?_⟩
      simp only [runBody, Work.bind_apply, Work.get_apply, Outcome.andThen_finished, body]
      rfl
  | scripted script =>
      rw [shape] at body planned
      cases early : script.early with
      | some given =>
          have same : given = course := by
            simpa [Body.earlyCourse?, Script.plan, early] using planned
          subst same
          refine ⟨s.enter id .early, tracks.enter id .early, fun present => present, ?_⟩
          intro run data
          refine ⟨s.situation id .early data, rfl, ?_⟩
          simp only [runBody, Work.bind_apply, Work.get_apply, Outcome.andThen_finished, body,
            runEarlyScript, early, enterPhase_apply]
      | none =>
          have same : script.lateCourse = course := by
            simpa [Body.earlyCourse?, Script.plan, early] using planned
          subst same
          refine ⟨s.enter id .late, tracks.enter id .late, fun present => present, ?_⟩
          intro run data
          refine ⟨s.situation id .late {}, rfl, ?_⟩
          simp only [runBody, Work.bind_apply, Work.get_apply, Outcome.andThen_finished, body,
            runEarlyScript, early, runLateScript, enterPhase_apply]
  | configuration loaded =>
      rw [shape] at planned
      cases planned
  | logging settings =>
      rw [shape] at planned
      cases planned

/-- With phases that may nest to a certain depth, an early call is a search. -/
def Searches (graph : Graph) (base : Store) (depth : Nat) : Prop :=
  ∀ {key : String} {s : Store} {p : Progress}, Tracks graph base s p → p.stack.Nodup →
    base.knownKeys.length ≤ depth + p.stack.length →
    ∃ result t q, Search graph [key] p result q ∧ Tracks graph base t q ∧ s.Keeps t ∧
      ∀ data, earlyBy (runPhase depth) key data s = .finished (result, t)

/-- What a component needs is searched before it goes on with anything else. -/
theorem perform_needs {depth id : Nat} (searches : Searches graph base depth)
    (tracks : Tracks graph base s p) (distinct : p.stack.Nodup)
    (room : base.knownKeys.length ≤ depth + p.stack.length) {self : String}
    (present : s.cachedId? self = some id) (needs : List String) :
    ∃ result t q, Search graph needs p result q ∧ Tracks graph base t q ∧ s.Keeps t ∧
      ∀ (now : Situation) (course : Course) rest, now.id = id →
        course.smooth = needs.map (fun key => .early key .propagate) ++ rest →
        ∃ onward : Course, onward.smooth = rest ∧
          perform (runPhase depth) now course s =
            match result with
            | .error fault => .finished (.error (.nested fault), t)
            | .ok () => perform (runPhase depth) now onward t := by
  induction needs generalizing s p with
  | nil =>
      refine ⟨.ok (), s, p, .done, tracks, fun present => present, ?_⟩
      exact fun now course rest _ plan => ⟨course, plan, rfl⟩
  | cons key needs inductionHypothesis =>
      obtain ⟨component, _, held, owned, -, -⟩ := tracks.planned.follows present
      have owner : hasOwner s id = true := by
        rw [hasOwner, tracks.planned.reachable, held]
        exact owned
      obtain ⟨first, t, q, search, after, keeps, called⟩ := @searches key s p tracks distinct room
      -- The component calls its broker, and what becomes of it decides how the phase goes on.
      have acted : ∀ now : Situation, now.id = id →
          act (runPhase depth) now (.early key .propagate) s = afterCall id .propagate first t := by
        intro now same
        have calls : Action.CallsOwner (.early key .propagate) := trivial
        rw [act_call calls, same, if_pos owner, callOwner, Work.bind_apply, called now.data]
        rw [Outcome.andThen_finished, same]
      cases first with
      | error fault =>
          refine ⟨.error fault, t, q, search.cons_of_error, after, keeps, ?_⟩
          intro now course rest same plan
          obtain ⟨next, rfl, -⟩ := Course.smooth_eq_cons.mp plan
          refine ⟨.straight rest, Course.smooth_straight, ?_⟩
          rw [perform, Work.bind_apply, acted now same]
          rfl
      | ok _ =>
          have stack := search.stack
          obtain ⟨result, u, r, following, later, kept, performed⟩ :=
            inductionHypothesis after (stack ▸ distinct) (stack ▸ room) (keeps present)
          refine ⟨result, u, r, search.cons_of_ok following, later, ?_, ?_⟩
          · exact fun there => kept (keeps there)
          intro now course rest same plan
          obtain ⟨next, rfl, further⟩ := Course.smooth_eq_cons.mp plan
          obtain ⟨onward, left, performs⟩ := performed now (next none) rest same further
          refine ⟨onward, left, ?_⟩
          rw [perform, Work.bind_apply, acted now same]
          exact performs

/-- How a component comes to its end. -/
theorem perform_ending (run : PhaseRunner) (now : Situation) (node : Node) {course : Course}
    (last : course.smooth = [node.ending]) (s : Store) :
    perform run now course s =
      match node.fault with
      | some fault => .finished (.error fault, s)
      | none => .finished (.ok (), s.mark now.id) := by
  obtain ⟨next, rfl, rest⟩ := Course.smooth_eq_cons.mp last
  obtain ⟨needs, fault⟩ := node
  cases fault with
  | none =>
      have marks : perform run now (.act .mark next) s =
          perform run now (next none) (s.mark now.id) := rfl
      exact marks.trans (by rw [Course.smooth_eq_nil.mp rest]; rfl)
  | some fault => cases fault <;> rfl

/-- An early phase is a search for what the component needs, and then its end. -/
theorem phase_search {depth id : Nat} {key : String} {node : Node}
    (searches : Searches graph base depth) (tracks : Tracks graph base s p)
    (distinct : p.stack.Nodup) (room : base.knownKeys.length ≤ depth + p.stack.length)
    (present : s.cachedId? key = some id) (known : graph key = some node) :
    ∃ result t q, Search graph node.needs p result q ∧ Tracks graph base t q ∧ s.Keeps t ∧
      ∀ data, runPhase (depth + 1) id .early data s =
        match result, node.fault with
        | .error fault, _ => .finished (.error (.nested fault), t)
        | .ok (), some fault => .finished (.error fault, t)
        | .ok (), none => .finished (.ok (), t.mark id) := by
  obtain ⟨component, other, held, -, same, follows⟩ := tracks.planned.follows present
  rw [known] at same
  cases same
  obtain ⟨course, planned, plan⟩ := Option.map_eq_some_iff.mp follows
  obtain ⟨t, entered, kept, began⟩ := tracks.runBody_early held planned
  obtain ⟨result, u, q, search, after, keeps, performed⟩ :=
    perform_needs searches entered distinct room (kept present) node.needs
  refine ⟨result, u, q, search, after, fun there => keeps (kept there), fun data => ?_⟩
  obtain ⟨now, self, run⟩ := began (runPhase depth) data
  have ran : runPhase (depth + 1) id .early data s = perform (runPhase depth) now course t := run
  obtain ⟨onward, last, performs⟩ := performed now course [node.ending] self plan
  rw [ran, performs]
  cases result with
  | error fault => rfl
  | ok _ =>
      have ended := perform_ending (runPhase depth) now node last u
      rw [self] at ended
      cases fault : node.fault with
      | none =>
          rw [fault] at ended
          exact ended
      | some cause =>
          rw [fault] at ended
          exact ended

theorem Tracks.announce (tracks : Tracks graph base s p) (key : String) :
    Tracks graph base (announce s key) p := by
  rw [Broker.announce]
  split
  · exact tracks.notice _
  · exact tracks

/-- An early call that hands over to a phase is a search when the phase is. -/
theorem admitted_search {depth id : Nat} {key : String} {node : Node} {u : Store}
    (searches : Searches graph base depth)
    (construction : instanceFor key (announce s key) = .finished (.ok id, u))
    (admits : u.Admits key id .early) (present : u.cachedId? key = some id)
    (known : graph key = some node) (unready : key ∉ p.ready) (new : key ∉ p.stack)
    (opened : Tracks graph base (u.openPhase key id .early) (p.push key))
    (distinct : (p.push key).stack.Nodup)
    (room : base.knownKeys.length ≤ depth + (p.push key).stack.length) :
    ∃ result t q, Search graph [key] p result q ∧ Tracks graph base t q ∧ u.Keeps t ∧
      ∀ data, earlyBy (runPhase (depth + 1)) key data s = .finished (result, t) := by
  have cached : (u.openPhase key id .early).cachedId? key = some id := present
  obtain ⟨result, t, q, search, after, held, ran⟩ :=
    phase_search searches opened distinct room cached known
  have called : ∀ data, earlyBy (runPhase (depth + 1)) key data s = _ := fun data => by
    rw [earlyBy_apply, earlyFrom_admitted construction admits, ran data]
  cases result with
  | error fault =>
      exact ⟨.error fault, t.closePhase key id .early (.error (.nested fault)), q.pop,
        .broken unready new known search, after.closePhase, held, called⟩
  | ok _ =>
      obtain ⟨needs, cause⟩ := node
      cases cause with
      | some fault =>
          exact ⟨.error (fault.about key), t.closePhase key id .early (.error fault), q.pop,
            .failed unready new known rfl search, after.closePhase, held, called⟩
      | none =>
          have self : t.cachedId? key = some id := held present
          have marked : (t.mark id).isReady id = true := by
            obtain ⟨component, _, found, -⟩ := after.planned.follows self
            rw [Store.isReady_mark, if_pos rfl, found]
            rfl
          have good : verdict (t.mark id) key id .early (.ok ()) = .ok () := by
            rw [verdict, marked, if_pos rfl]
          refine ⟨.ok (), (t.mark id).closePhase key id .early (.ok ()), q.finish key,
            .started unready new known search .done, (after.mark self).closePhase, held, ?_⟩
          intro data
          refine (called data).trans ?_
          simp only [Outcome.andThen_finished, good]
          rfl

/-- An early call is a search when calls in the phases that it starts are. -/
theorem searches_of_inner (realizes : base.Realizes graph) {depth : Nat}
    (inner : ∀ less, depth = less + 1 → Searches graph base less) : Searches graph base depth := by
  intro key s p tracks distinct room
  have announced : Tracks graph base (announce s key) p := tracks.announce key
  have same : (announce s key).cachedId? = s.cachedId? := by
    rw [announce]
    split <;> rfl
  have keeps : ∀ {t : Store}, (announce s key).Keeps t → s.Keeps t := by
    intro t kept other id present
    exact kept (same ▸ present)
  obtain ⟨supply, u, construction, kept, tracked⟩ := instanceFor_tracks realizes announced
  cases tracked with
  | @unknown fault _ nothing unresolved tracks =>
      refine ⟨.error fault, u, p, .unknown nothing unresolved, tracks, keeps kept, ?_⟩
      intro data
      rw [earlyBy_apply]
      exact earlyFrom_finished.mpr (.unbuilt construction)
  | @known id node _ known present built already =>
      have status : u.isReady id = true ↔ key ∈ p.ready := built.isReady_iff present
      by_cases initialized : key ∈ p.ready
      · have unchanged := already (announced.mem_built_of_ready initialized)
        refine ⟨.ok (), u, p, .ready initialized .done, unchanged ▸ announced, keeps kept, ?_⟩
        intro data
        rw [earlyBy_apply]
        exact earlyFrom_finished.mpr (.already construction (status.mpr initialized))
      have unready : u.isReady id = false :=
        Bool.eq_false_iff.mpr fun ready => initialized (status.mp ready)
      have stack : u.stack = p.stack := built.stack
      by_cases again : key ∈ p.stack
      · have unchanged := already (announced.held key again)
        refine ⟨_, u, p, .circle initialized again, unchanged ▸ announced, keeps kept, ?_⟩
        intro data
        rw [earlyBy_apply, ← stack]
        exact earlyFrom_finished.mpr (.circle construction unready (stack ▸ again))
      -- There is room for one more phase, because all keys on the stack are known.
      have opened : Tracks graph base (u.openPhase key id .early) (p.push key) := built.openPhase
      have nodup : (p.push key).stack.Nodup := List.nodup_cons.mpr ⟨again, distinct⟩
      have enough : p.stack.length + 1 ≤ base.knownKeys.length :=
        opened.length_stack_le realizes nodup
      cases depth with
      | zero => omega
      | succ depth =>
          have inside : base.knownKeys.length ≤ depth + (p.push key).stack.length := by
            simp only [Progress.push, List.length_cons]
            omega
          have admits : u.Admits key id .early := ⟨unready, stack ▸ again⟩
          obtain ⟨result, t, q, search, after, held, called⟩ := admitted_search (inner depth rfl)
            construction admits present known initialized again opened nodup inside
          exact ⟨result, t, q, search, after, keeps fun there => held (kept there), called⟩

theorem searches (realizes : base.Realizes graph) (depth : Nat) : Searches graph base depth := by
  induction depth with
  | zero => exact searches_of_inner realizes fun less equal => absurd equal (by omega)
  | succ depth inductionHypothesis =>
      refine searches_of_inner realizes fun less equal => ?_
      cases equal
      exact inductionHypothesis

end Search

end ServiceLifecycle
