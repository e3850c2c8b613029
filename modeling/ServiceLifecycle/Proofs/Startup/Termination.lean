/-
Module: ServiceLifecycle.Proofs.Startup.Termination
Purpose: Early calls come to an end, whatever circles the components' early calls run in.
Main exports: Body.AsksEarlyOnly, Store.constructible, Store.IsTame, Terminates, terminates,
  Deepens, early_terminates
-/
import ServiceLifecycle.Proofs.Locality.Footprint
import ServiceLifecycle.Proofs.Startup.DepthFirst
import Mathlib.Data.Finset.Card

namespace ServiceLifecycle

/-!
Components may call each other early in circles, and go on with other calls when a circle has been
reported.  Their calls come to an end all the same.  A key is put on the stack while its early phase
is in progress, and refused as long as it is there.  So the keys that are not on the stack become
fewer with each phase inside another, and within one phase what remains of its course does.
-/

open Broker

section Family

/-- The action asks the broker for nothing but to initialize a key early. -/
def Action.AsksEarlyOnly (action : Action) : Prop :=
  ∀ key, action.named? = some key → ∃ onFailure, action = .early key onFailure

/-- In its early phase the component asks the broker for nothing but to initialize keys early.  The
logging service is not such a component, since it asks for its section. -/
def Body.AsksEarlyOnly : Body → Prop
  | .scripted script => ∀ data, ∀ action ∈ (script.plan data .early).2.2, action.AsksEarlyOnly
  | .logging _ => False
  | _ => True

theorem Body.asksEarlyOnly_kind (body : Body) :
    body.kind.AsksEarlyOnly ↔ body.AsksEarlyOnly := by
  cases body <;> rfl

namespace Store

/-- The components that the keys have, or would get, make early calls only. -/
def AsksEarlyOnly (s : Store) : Prop :=
  ∀ key body, s.bodyAt? key = some body → body.AsksEarlyOnly

/-- The keys that have a component, or for which one can be built. -/
def constructible (s : Store) : Finset String :=
  (s.cached.keys ++ s.knownKeys).toFinset.filter fun key => (s.bodyAt? key).isSome

variable {s t : Store} {key : String} {id : Nat}

theorem mem_constructible : key ∈ s.constructible ↔ (s.bodyAt? key).isSome = true := by
  rw [constructible, Finset.mem_filter, List.mem_toFinset, List.mem_append]
  refine ⟨fun member => member.2, fun found => ⟨?_, found⟩⟩
  rw [bodyAt?] at found
  cases cached : s.cachedInstance? key with
  | some component =>
      obtain ⟨id, present, -⟩ := Option.bind_eq_some_iff.mp cached
      exact .inl (Entries.mem_keys_of_get? present)
  | none =>
      rw [cached] at found
      obtain ⟨body, built⟩ := Option.isSome_iff_exists.mp found
      exact .inr (mem_knownKeys built)

/-- What components are decides which keys can be constructed. -/
theorem constructible_eq (kinds : ∀ key, (t.bodyAt? key).map Body.kind =
    (s.bodyAt? key).map Body.kind) : t.constructible = s.constructible := by
  apply Finset.ext
  intro key
  have same := congrArg Option.isSome (kinds key)
  rw [Option.isSome_map, Option.isSome_map] at same
  rw [mem_constructible, mem_constructible, same]

/-- The components make early calls only, and the stack has different keys that have components. -/
structure IsTame (s : Store) : Prop where
  holds : s.HoldsOwn
  modest : s.AsksEarlyOnly
  distinct : s.stack.Nodup
  known : ∀ key ∈ s.stack, key ∈ s.constructible

/-- A key with an instance has its component. -/
theorem HoldsOwn.body (holds : s.HoldsOwn) (present : s.cachedId? key = some id) :
    ∃ body, (s.instance? id).map Component.body = some body ∧ s.bodyAt? key = some body := by
  obtain ⟨component, held⟩ : ∃ component, s.instance? id = some component :=
    ⟨_, List.getElem?_eq_getElem (holds.held present)⟩
  have body : (s.instance? id).map Component.body = some component.body := by rw [held]; rfl
  exact ⟨component.body, body, s.bodyAt?_eq present body⟩

namespace IsTame

theorem stack_le (tame : s.IsTame) : s.stack.length ≤ s.constructible.card := by
  rw [← List.toFinset_card_of_nodup tame.distinct]
  apply Finset.card_le_card
  intro key member
  exact tame.known key (List.mem_toFinset.mp member)

theorem spares (tame : s.IsTame) (spares : Spares (fun _ => True) s t) : t.IsTame := by
  constructor
  case holds => exact spares.holdsOwn tame.holds
  case modest =>
    exact fun _ _ => forall_bodies Body.asksEarlyOnly_kind spares.kinds tame.modest
  case distinct =>
    rw [spares.stack]
    exact tame.distinct
  case known =>
    rw [spares.stack, constructible_eq spares.kinds]
    exact tame.known

/-- A key that is taken up has a component. -/
theorem openPhase (tame : s.IsTame) (present : s.cachedId? key = some id) (new : key ∉ s.stack) :
    (s.openPhase key id .early).IsTame := by
  constructor
  case holds => exact ⟨tame.holds.held, tame.holds.distinct⟩
  case modest => exact tame.modest
  case distinct => exact List.nodup_cons.mpr ⟨new, tame.distinct⟩
  case known =>
    intro other member
    rcases List.mem_cons.mp member with rfl | below
    · obtain ⟨body, -, found⟩ := tame.holds.body present
      exact mem_constructible.mpr (Option.isSome_iff_exists.mpr ⟨body, found⟩)
    · exact tame.known other below

end IsTame

end Store

/-- At every moment the keys on the stack are distinct and have components. -/
theorem Moment.Arises.isTame {frames : List Frame} {s : Store}
    (arises : Moment.Arises ⟨frames, s⟩) (modest : s.AsksEarlyOnly) : s.IsTame := by
  have holds : s.HoldsOwn := arises.holdsOwn
  obtain ⟨stack, distinct⟩ := arises.disciplined
  constructor
  case holds => exact holds
  case modest => exact modest
  case distinct => exact distinct
  case known =>
    intro key member
    rw [show s.stack = earlyKeys frames from stack] at member
    obtain ⟨frame, listed, rfl⟩ := List.mem_map.mp member
    have present : s.cachedId? frame.key = some frame.id :=
      arises.holdsInstances frame (mem_phaseFrames.mp listed).1
    obtain ⟨body, -, found⟩ := holds.body present
    exact Store.mem_constructible.mpr (Option.isSome_iff_exists.mpr ⟨body, found⟩)

end Family

namespace Broker

section Termination

variable {room : Nat} {s t : Store} {key : String} {id : Nat} {data : StartupData}

/-- An early call comes to an end if there is room for the keys that are not on the stack.  The end
does not depend on how deep phases may nest, if they may as deep as there is room. -/
def Terminates (room : Nat) : Prop :=
  ∀ {key : String} {data : StartupData} {s : Store}, s.IsTame →
    s.constructible.card ≤ room + s.stack.length →
    ∃ result t, ∀ depth, room ≤ depth → earlyBy (runPhase depth) key data s = .finished (result, t)

theorem act_terminates (terminates : Terminates room) (tame : s.IsTame)
    (enough : s.constructible.card ≤ room + s.stack.length) (now : Situation) {action : Action}
    (modest : action.AsksEarlyOnly) :
    ∃ result t, ∀ depth, room ≤ depth →
      act (runPhase depth) now action s = .finished (result, t) := by
  cases names : action.named? with
  | none =>
      obtain ⟨result, t, ends⟩ := act_silent names now s
      exact ⟨result, t, fun depth _ => (ends (runPhase depth)).1⟩
  | some key =>
      cases owned : hasOwner s now.id with
      | false =>
          obtain ⟨t, -, told⟩ := act_unowned (callsOwner_of_named? names) owned
          exact ⟨.ok none, t, fun depth _ => told (runPhase depth)⟩
      | true =>
          obtain ⟨onFailure, rfl⟩ := modest key names
          obtain ⟨answer, u, called⟩ := @terminates key now.data s tame enough
          obtain ⟨t, followed, -⟩ := follow_logs now (.early key onFailure)
            (answer.map fun _ => Answer.done) u
          refine ⟨(Action.early key onFailure).heed (answer.map fun _ => Answer.done), t,
            fun depth deep => ?_⟩
          rw [act_request names owned, request_early onFailure (called depth deep)]
          exact followed

theorem perform_terminates (terminates : Terminates room) (tame : s.IsTame)
    (enough : s.constructible.card ≤ room + s.stack.length) (now : Situation)
    (present : s.cachedId? key = some now.id) {course : Course}
    (modest : ∀ action ∈ course, action.AsksEarlyOnly) :
    ∃ result t, ∀ depth, room ≤ depth →
      perform (runPhase depth) now course s = .finished (result, t) := by
  induction course generalizing s with
  | finish => exact ⟨.ok (), s, fun depth _ => rfl⟩
  | act action next inductionHypothesis =>
      obtain ⟨first, u, acted⟩ :=
        act_terminates terminates tame enough now (modest action Course.mem_act_self)
      cases first with
      | error fault =>
          refine ⟨.error fault, u, fun depth deep => ?_⟩
          rw [perform, Work.bind_apply, acted depth deep]
          rfl
      | ok heard =>
          have spares : Spares (fun _ => True) s u :=
            act_spares (runPhase_local room) tame.holds s.closed_all trivial present
              (fun _ _ => trivial) (acted room (Nat.le_refl room))
          obtain ⟨result, t, performed⟩ := inductionHypothesis heard (tame.spares spares)
            (by rw [Store.constructible_eq spares.kinds, spares.stack]; exact enough)
            (spares.kept present)
            (fun other member => modest other (Course.mem_act_of_mem member))
          refine ⟨result, t, fun depth deep => ?_⟩
          rw [perform, Work.bind_apply, acted depth deep]
          exact performed depth deep

theorem startConfiguration_terminates (id : Nat) (data : StartupData) (s : Store) :
    ∃ result t, startConfiguration id data s = .finished (result, t) := by
  cases load : loadDeployment s.surroundings data with
  | error fault => simp [startConfiguration, load]
  | ok deployment => simp [startConfiguration, load]

/-- An early phase comes to an end. -/
theorem phase_terminates (terminates : Terminates room) (tame : s.IsTame)
    (enough : s.constructible.card ≤ room + s.stack.length)
    (present : s.cachedId? key = some id) (data : StartupData) :
    ∃ result t, ∀ depth, room ≤ depth →
      runPhase (depth + 1) id .early data s = .finished (result, t) := by
  obtain ⟨body, held, found⟩ := tame.holds.body present
  have modest : body.AsksEarlyOnly := tame.modest key body found
  cases body with
  | plain =>
      refine ⟨.ok (), s.mark id, fun depth _ => ?_⟩
      simp only [runPhase, runBody, Work.bind_apply, Work.get_apply, Outcome.andThen_finished, held]
      rfl
  | scripted script =>
      have entered : Spares (fun _ => True) s (s.enter id (script.plan data .early).1) :=
        .enter trivial present _
      obtain ⟨result, t, performed⟩ := perform_terminates terminates (tame.spares entered)
        (by rw [Store.constructible_eq entered.kinds, entered.stack]; exact enough)
        (s.situation id _ (script.plan data .early).2.1) (entered.kept present) (modest data)
      refine ⟨result, t, fun depth deep => ?_⟩
      rw [runPhase, runBody_scripted (by decide) held rfl]
      exact performed depth deep
  | configuration loaded =>
      obtain ⟨result, t, started⟩ := startConfiguration_terminates id data s
      refine ⟨result, t, fun depth _ => ?_⟩
      simp only [runPhase, runBody, Work.bind_apply, Work.get_apply, Outcome.andThen_finished, held]
      exact started
  | logging settings => exact modest.elim

/-- An early call comes to an end if early phases with less room do. -/
theorem terminates_of_inner (inner : ∀ less, room = less + 1 → Terminates less) :
    Terminates room := by
  intro key data s tame enough
  have announced : Spares (fun _ => True) s (announce s key) :=
    .of_remarked (announce_remarks s key)
  obtain ⟨built, u, construction, ending⟩ := instanceFor_ends key (announce s key)
  have found : Spares (fun _ => True) s u :=
    announced.trans (.of_instanceEnd (announced.holdsOwn tame.holds) trivial ending)
  have tameThen : u.IsTame := tame.spares found
  cases built with
  | error fault =>
      refine ⟨.error fault, u, fun depth _ => ?_⟩
      rw [earlyBy_apply]
      exact earlyFrom_finished.mpr (.unbuilt construction)
  | ok id =>
      have present : u.cachedId? key = some id := ending.cachedId?
      cases ready : u.isReady id with
      | true =>
          refine ⟨.ok (), u, fun depth _ => ?_⟩
          rw [earlyBy_apply]
          exact earlyFrom_finished.mpr (.already construction ready)
      | false =>
          by_cases again : key ∈ u.stack
          · refine ⟨.error (.circular key (circleThrough key u.stack)), u, fun depth _ => ?_⟩
            rw [earlyBy_apply]
            exact earlyFrom_finished.mpr (.circle construction ready again)
          -- The key is not on the stack, so there is room for one more phase.
          have opened : (u.openPhase key id .early).IsTame := tameThen.openPhase present again
          have taller : u.stack.length + 1 ≤ u.constructible.card := opened.stack_le
          have room' : u.constructible.card ≤ room + u.stack.length := by
            rw [Store.constructible_eq found.kinds, found.stack]
            exact enough
          obtain ⟨less, rfl⟩ : ∃ less, room = less + 1 := ⟨room - 1, by omega⟩
          have fewer : u.constructible.card ≤ less + (u.stack.length + 1) := by omega
          have cached : (u.openPhase key id .early).cachedId? key = some id := present
          obtain ⟨raw, v, ran⟩ := phase_terminates (inner less rfl) opened fewer cached data
          refine ⟨(verdict v key id .early raw).mapError (PhaseFault.about key),
            v.closePhase key id .early (verdict v key id .early raw), fun depth deep => ?_⟩
          obtain ⟨lower, rfl⟩ : ∃ lower, depth = lower + 1 := ⟨depth - 1, by omega⟩
          rw [earlyBy_apply]
          exact earlyFrom_finished.mpr
            (.ran construction ⟨ready, again⟩ (ran lower (Nat.le_of_succ_le_succ deep)))

theorem terminates (room : Nat) : Terminates room := by
  induction room with
  | zero => exact terminates_of_inner fun less equal => absurd equal (by omega)
  | succ room inductionHypothesis =>
      refine terminates_of_inner fun less equal => ?_
      cases equal
      exact inductionHypothesis

end Termination

end Broker

section Nesting

variable {frames inside deeper : List Frame} {next last : Task} {s t u : Store}

/-- What is about to be done leads to early phases only. -/
def Task.IsModest (s : Store) : Task → Prop
  | .early construct key _ => construct = instanceFor key
  | .phase id started _ => started = .early ∧ ∃ key, s.cachedId? key = some id
  | .perform now course =>
      (∃ key, s.cachedId? key = some now.id) ∧ ∀ action ∈ course, action.AsksEarlyOnly
  | _ => False

/-- From a point on, early phases have been started inside each other.  Their keys have been put on
the stack. -/
structure Deepens (frames : List Frame) (s : Store) (next : Task) (inside : List Frame)
    (t : Store) : Prop where
  tame : t.IsTame
  modest : next.IsModest t
  constructible : t.constructible = s.constructible
  nested : ∃ more, inside = more ++ frames ∧ (∀ frame ∈ more, frame.phase = .early) ∧
    t.stack = more.map Frame.key ++ s.stack

theorem Deepens.keep (deepens : Deepens frames s next inside t)
    (spares : Spares (fun _ => True) t u) (modest : last.IsModest u) :
    Deepens frames s last inside u := by
  obtain ⟨more, same, early, stack⟩ := deepens.nested
  constructor
  case tame => exact deepens.tame.spares spares
  case modest => exact modest
  case constructible =>
    exact (Store.constructible_eq spares.kinds).trans deepens.constructible
  case nested => exact ⟨more, same, early, spares.stack.trans stack⟩

theorem Action.named_of_call? {action : Action} {data : StartupData} {call : Call}
    (calls : action.call? data = some call) : ∃ key, action.named? = some key := by
  cases action <;> first | exact ⟨_, rfl⟩ | cases calls

theorem Deepens.step (deepens : Deepens frames s next inside t)
    (follows : Follows next inside t last deeper u) : Deepens frames s last deeper u := by
  have modest := deepens.modest
  cases follows with
  | @called now action _ _ _ _ call _ owned calls begun =>
      have asks : action.AsksEarlyOnly := modest.2 action Course.mem_act_self
      obtain ⟨key, names⟩ := Action.named_of_call? calls
      obtain ⟨onFailure, rfl⟩ := asks key names
      cases calls
      cases begun
      exact deepens.keep (.of_remarked (announce_remarks t key)) rfl
  | @early construct key data _ _ v id construction admits =>
      cases modest
      have ending := instanceFor_finished construction
      have found : Spares (fun _ => True) t v := .of_instanceEnd deepens.tame.holds trivial ending
      have present : v.cachedId? key = some id := ending.cachedId?
      have tame : v.IsTame := deepens.tame.spares found
      obtain ⟨more, rfl, early, stack⟩ := deepens.nested
      constructor
      case tame => exact tame.openPhase present admits.2
      case modest => exact ⟨rfl, key, present⟩
      case constructible => exact (Store.constructible_eq found.kinds).trans deepens.constructible
      case nested =>
        refine ⟨⟨key, id, .early⟩ :: more, rfl, ?_, ?_⟩
        · intro frame member
          rcases List.mem_cons.mp member with rfl | inner
          · rfl
          · exact early frame inner
        · exact congrArg (key :: ·) (found.stack.trans stack)
  | late construction admits => exact modest.elim
  | shutdown present admits => exact modest.elim
  | @entered id phase data _ _ _ script seen seenData course now scripted planned entering =>
      rw [enterPhase_apply] at entering
      cases entering
      obtain ⟨rfl, key, present⟩ := modest
      have asks : (Body.scripted script).AsksEarlyOnly :=
        deepens.tame.modest key _ (t.bodyAt?_eq present scripted)
      have entered : Spares (fun _ => True) t (t.enter id seen) := .enter trivial present seen
      refine deepens.keep entered ⟨⟨key, entered.kept present⟩, ?_⟩
      have listed := asks data
      rw [planned] at listed
      exact listed
  | @proceeded now action next heard _ _ _ depth done =>
      obtain ⟨⟨key, present⟩, asks⟩ := modest
      have acted : Spares (fun _ => True) t u :=
        act_spares (runPhase_local depth) deepens.tame.holds t.closed_all trivial present
          (fun _ _ => trivial) done
      exact deepens.keep acted ⟨⟨key, acted.kept present⟩,
        fun other member => asks other (Course.mem_act_of_mem member)⟩

theorem Deepens.of_pursues {task : Task} (start : Deepens frames s task frames t)
    (pursues : Pursues task frames t next inside u) : Deepens frames s next inside u := by
  induction pursues with
  | here => exact start
  | step before follows inductionHypothesis => exact inductionHypothesis.step follows

/-- There are no more early phases in progress than keys that can be constructed. -/
theorem Deepens.bounded (deepens : Deepens frames s next inside t) :
    ∃ more, inside = more ++ frames ∧ (∀ frame ∈ more, frame.phase = .early) ∧
      more.length + s.stack.length ≤ s.constructible.card := by
  obtain ⟨more, same, early, stack⟩ := deepens.nested
  refine ⟨more, same, early, ?_⟩
  have height := deepens.tame.stack_le
  rw [deepens.constructible, stack, List.length_append, List.length_map] at height
  exact height

end Nesting

/-- Let the components that the keys have, or would get, ask the broker for nothing but early calls
in their early phases: on any keys, in circles or not, whether they give up when such a call fails,
report it in their own words or make their next calls depend on it.

At every point of every history, an early call on any key comes to an end, and to the same end
however deep phases may nest, if they may as deep as there are keys that can be constructed and are
not on the stack.

On the way, all phases that are started inside are early ones.  At no point are more early phases
in progress than keys can be constructed, those counted that were in progress before. -/
theorem early_terminates {task : Task} {frames : List Frame} {s : Store}
    (underway : Underway task frames s) (modest : s.AsksEarlyOnly) (key : String)
    (data : StartupData) :
    (∃ result t, ∀ depth, s.constructible.card ≤ depth + s.stack.length →
      earlyBy (runPhase depth) key data s = .finished (result, t)) ∧
    ∀ next inside t,
      Pursues (.early (instanceFor key) key data) frames (announce s key) next inside t →
        ∃ more, inside = more ++ frames ∧ (∀ frame ∈ more, frame.phase = .early) ∧
          more.length + s.stack.length ≤ s.constructible.card := by
  have tame : s.IsTame := underway.arises.1.isTame modest
  constructor
  · have enough : s.constructible.card ≤
        s.constructible.card - s.stack.length + s.stack.length := by
      have height := tame.stack_le
      omega
    obtain ⟨result, t, called⟩ := @terminates _ key data s tame enough
    exact ⟨result, t, fun depth room => called depth (by omega)⟩
  · intro next inside t pursues
    have announced : Spares (fun _ => True) s (announce s key) :=
      .of_remarked (announce_remarks s key)
    have start : Deepens frames s (.early (instanceFor key) key data) frames (announce s key) := by
      constructor
      case tame => exact tame.spares announced
      case modest => exact rfl
      case constructible => exact Store.constructible_eq announced.kinds
      case nested =>
        exact ⟨[], rfl, fun frame member => absurd member List.not_mem_nil, announced.stack⟩
    exact (start.of_pursues pursues).bounded

/-- A component that needs another one, asks for it once more if it has failed, and then does not
mind. -/
def Body.insistent : Body :=
  .scripted
    { early := some (.act (.early "right" .ignore) fun heard =>
        .straight (if heard.isSome then [.early "right" .ignore, .mark] else [.mark])) }

/-- A component that needs the first one, and then itself. -/
def Body.hopeless : Body :=
  .scripted { early := some (.straight [.early "left" .ignore, .early "right" .wrap]) }

/-- A broker of the two. -/
def Store.insisted : Store :=
  { registry :=
      { capability := .component
        recipes := [("left", .build .insistent), ("right", .build .hopeless)] } }

theorem insisted_asksEarlyOnly : Store.insisted.AsksEarlyOnly := by
  intro key body there
  have listed : body = .insistent ∨ body = .hopeless := by
    by_cases left : key = "left"
    · subst left
      cases there
      exact .inl rfl
    · by_cases right : key = "right"
      · subst right
        cases there
        exact .inr rfl
      · simp [Store.bodyAt?, Store.cachedInstance?, Store.cachedId?, Store.insisted,
          Store.bodyOf?, Store.assigned?, Registry.bodyFor?, Registry.find, Registry.static?,
          Entries.get?, Ne.symm left, Ne.symm right] at there
  rcases listed with rfl | rfl <;> intro data action member about names
  · obtain rfl | ⟨heard, further⟩ : action = .early "right" .ignore ∨ ∃ heard : Heard,
        action ∈ if heard.isSome then [.early "right" .ignore, .mark] else [.mark] := by
      simpa [Script.plan] using member
    · cases names
      exact ⟨_, rfl⟩
    · split at further <;> simp at further
      · rcases further with rfl | rfl <;> cases names
        exact ⟨_, rfl⟩
      · subst further
        cases names
  · simp [Script.plan] at member
    rcases member with rfl | rfl <;> cases names <;> exact ⟨_, rfl⟩

/-- The circle is reported to the second component, which then fails each time it is started; the
first one does not mind. -/
theorem early_terminates_insisted :
    Store.insisted.constructible.card = 2 ∧
      (∃ t, ∀ depth, 2 ≤ depth →
        earlyBy (runPhase depth) "left" {} Store.insisted = .finished (.ok (), t)) ∧
      ∀ next inside t,
        Pursues (.early (instanceFor "left") "left" {}) [] Store.insisted next inside t →
          inside.length ≤ 2 := by
  have resting : Underway .idle [] Store.insisted := .fresh ⟨rfl, rfl, rfl, rfl, rfl, rfl⟩
  have two : Store.insisted.constructible.card = 2 := rfl
  obtain ⟨⟨result, t, called⟩, nested⟩ :=
    early_terminates resting insisted_asksEarlyOnly "left" {}
  rw [two] at called nested
  refine ⟨two, ⟨t, fun depth deep => ?_⟩, fun next inside u pursues => ?_⟩
  · have fine : (earlyBy (runPhase 2) "left" {} Store.insisted).success?.isSome = true := by
      decide +kernel
    rw [called 2 (Nat.le_refl 2)] at fine
    cases result with
    | ok _ => exact called depth deep
    | error fault => cases fine
  · obtain ⟨more, rfl, -, bound⟩ := nested next inside u pursues
    rw [List.append_nil]
    exact bound

end ServiceLifecycle
