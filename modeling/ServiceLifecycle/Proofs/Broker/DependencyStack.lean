/-
Module: ServiceLifecycle.Proofs.Broker.DependencyStack
Purpose: The stack of keys in early initialization, at every moment of every history.
Main exports: earlyKeys, IsCircle, isCircle_circleThrough, Moment.Arises.disciplined,
  stack_discipline
-/
import ServiceLifecycle.Proofs.Broker.Underway
import ServiceLifecycle.Proofs.Broker.InProgress
import Mathlib.Data.List.Basic
import Mathlib.Data.List.Nodup
import Mathlib.Data.List.TakeWhile

namespace ServiceLifecycle

/-!
The stack holds the keys of the early phases in progress, and nothing else, and no key is
on it twice.  So the chain of a circle is the part of the stack from the key up to the top.
-/

open Broker

/-- The keys whose early phase is in progress, innermost first. -/
def earlyKeys (frames : List Frame) : List String :=
  (frames.filter fun frame => frame.phase = .early).map Frame.key

/-- A chain goes around a circle: it leads from the key to the key, passes no key twice, and
is, without its last entry, the part of the stack from the key up to the top.  The stack is
given innermost first. -/
structure IsCircle (key : String) (stack chain : List String) : Prop where
  first : chain.head? = some key
  last : chain.getLast? = some key
  start : chain.dropLast.head? = some key
  distinct : chain.dropLast.Nodup
  part : ∃ below, stack.reverse = below ++ chain.dropLast

theorem isCircle_circleThrough {key : String} {stack : List String} (member : key ∈ stack)
    (distinct : stack.Nodup) : IsCircle key stack (circleThrough key stack) := by
  have split : stack.reverse.takeWhile (fun entry => entry != key) ++
      stack.reverse.dropWhile (fun entry => entry != key) = stack.reverse :=
    List.takeWhile_append_dropWhile
  have found : key ∈ stack.reverse := List.mem_reverse.mpr member
  cases upper : stack.reverse.dropWhile fun entry => entry != key with
  | nil =>
      have passed := List.dropWhile_eq_nil_iff.mp upper key found
      simp at passed
  | cons head rest =>
      have same : head = key := by
        have stopped := List.head?_dropWhile_not (fun entry => entry != key) stack.reverse
        simpa [upper] using stopped
      subst same
      have chain : circleThrough head stack = (head :: rest) ++ [head] := by
        rw [circleThrough, upper]
      have dropped : (circleThrough head stack).dropLast = head :: rest := by
        rw [chain, List.dropLast_concat]
      have below : stack.reverse =
          stack.reverse.takeWhile (fun entry => entry != head) ++ head :: rest := by
        rw [← upper, split]
      constructor
      case first => rw [chain]; rfl
      case last => rw [chain, List.getLast?_concat]
      case start => rw [dropped]; rfl
      case distinct =>
        rw [dropped]
        have reversed : stack.reverse.Nodup := List.nodup_reverse.mpr distinct
        rw [below] at reversed
        exact (List.nodup_append.mp reversed).2.1
      case part => exact ⟨_, dropped ▸ below⟩

section Circle

variable {key : String} {stack chain : List String}

theorem IsCircle.closed (circle : IsCircle key stack chain) : chain.dropLast ++ [key] = chain :=
  List.dropLast_append_getLast? key circle.last

theorem IsCircle.subset (circle : IsCircle key stack chain) : ∀ other ∈ chain, other ∈ stack := by
  obtain ⟨below, split⟩ := circle.part
  have upper : ∀ other ∈ chain.dropLast, other ∈ stack := by
    intro other member
    have listed : other ∈ stack.reverse := by
      rw [split]
      exact List.mem_append_right _ member
    exact List.mem_reverse.mp listed
  intro other member
  rw [← circle.closed] at member
  rcases List.mem_append.mp member with earlier | last
  · exact upper other earlier
  · rw [List.mem_singleton.mp last]
    exact upper key (List.mem_of_mem_head? circle.start)

end Circle

/-- The stack and the phases in progress go together, and no key is on the stack twice. -/
structure Moment.Disciplined (moment : Moment) : Prop where
  stack : moment.store.stack = earlyKeys moment.frames
  distinct : moment.store.stack.Nodup

/-- At every moment the stack holds the keys of the early phases in progress. -/
theorem Moment.Arises.disciplined {moment : Moment} (arises : moment.Arises) :
    moment.Disciplined := by
  obtain ⟨keys, distinct⟩ := arises.recorded (show Phase.early ≠ .shutdown by decide)
  exact ⟨keys, distinct⟩

/-- A computation between the same phases in progress leaves the stack as it found it. -/
theorem stack_eq_of_moves {frames : List Frame} {s t : Store} (arises : Moment.Arises ⟨frames, s⟩)
    (moves : Moves ⟨frames, s⟩ ⟨frames, t⟩) : t.stack = s.stack :=
  (arises.trans moves).disciplined.stack.trans arises.disciplined.stack.symm

section Calls

variable {run : PhaseRunner} {construct : Work (Except BrokerFault Nat)} {key : String}
  {s t : Store}

/-- The fault of a circle is either raised by the broker, and then about the stack at that
moment, or it is what the early phase has reported. -/
theorem Broker.EarlyEnd.circular_inv {data : StartupData} {about : String} {chain : List String}
    (ending : EarlyEnd run construct key data s (.error (.circular about chain)) t)
    (supplies : Supplies construct key s) :
    (∃ id, construct s = .finished (.ok id, t) ∧ key ∈ t.stack ∧ about = key ∧
        chain = circleThrough key t.stack) ∨
      ∃ id u v, construct s = .finished (.ok id, u) ∧ u.Admits key id .early ∧
        run id .early data (u.openPhase key id .early) =
          .finished (.error (.nested (.circular about chain)), v) := by
  generalize answer : Except.error (BrokerFault.circular about chain) = result at ending
  cases ending with
  | unbuilt construction =>
      cases answer
      exact (supplies.unresolved construction).elim
  | already construction ready => cases answer
  | circle construction unready again =>
      cases answer
      exact .inl ⟨_, construction, again, rfl, rfl⟩
  | @ran id u v raw construction admits phase =>
      refine .inr ⟨id, u, v, construction, admits, ?_⟩
      cases raw with
      | ok _ =>
          simp only [verdict] at answer
          split at answer <;> cases answer
      | error fault =>
          cases fault with
          | failed message cause => cases answer
          | nested fault =>
              cases answer
              exact phase

/-- The fault of a circle that a late call reports is one that the late phase has reported. -/
theorem Broker.LateEnd.circular_inv {about : String} {chain : List String}
    (ending : LateEnd run construct key s (.error (.circular about chain)) t)
    (supplies : Supplies construct key s) :
    ∃ id u v, construct s = .finished (.ok id, u) ∧ u.Admits key id .late ∧
      run id .late {} (u.openPhase key id .late) =
        .finished (.error (.nested (.circular about chain)), v) := by
  generalize answer : Except.error (BrokerFault.circular about chain) = result at ending
  cases ending with
  | unbuilt construction =>
      cases answer
      exact (supplies.unresolved construction).elim
  | already construction ready => cases answer
  | poisoned construction unready record => cases answer
  | @ran id u v raw construction admits phase =>
      refine ⟨id, u, v, construction, admits, ?_⟩
      cases raw with
      | ok _ =>
          simp only [verdict] at answer
          split at answer <;> cases answer
      | error fault =>
          cases fault with
          | failed message cause => cases answer
          | nested fault =>
              cases answer
              exact phase

end Calls

/-- At every point of every history the stack holds exactly the keys of the early phases in
progress, none of them twice, so it is empty when there is none.  Every early call leaves
the stack as it found it, however it ends.  A fault of a circle that an early call reports
either stands for a circle on the stack through the key of the call, or it is what the phase
that the call has run reported; a late call only reports such a fault for its phase. -/
theorem stack_discipline {task : Task} {frames : List Frame} {s : Store}
    (underway : Underway task frames s) :
    s.stack = earlyKeys frames ∧ s.stack.Nodup ∧
    ((∀ frame ∈ frames, frame.phase ≠ .early) → s.stack = []) ∧
    (∀ construct key data, task = .early construct key data →
      ∀ depth result t, earlyFrom (runPhase depth) construct key data s = .finished (result, t) →
        t.stack = s.stack ∧
        ∀ about chain, result = .error (.circular about chain) →
          (about = key ∧ IsCircle key s.stack chain) ∨
          ∃ id u v, construct s = .finished (.ok id, u) ∧ u.Admits key id .early ∧
            runPhase depth id .early data (u.openPhase key id .early) =
              .finished (.error (.nested (.circular about chain)), v)) ∧
    (∀ construct key, task = .late construct key →
      ∀ depth result t, lateFrom (runPhase depth) construct key s = .finished (result, t) →
        t.stack = s.stack ∧
        ∀ about chain, result = .error (.circular about chain) →
          ∃ id u v, construct s = .finished (.ok id, u) ∧ u.Admits key id .late ∧
            runPhase depth id .late {} (u.openPhase key id .late) =
              .finished (.error (.nested (.circular about chain)), v)) := by
  obtain ⟨arises, sound⟩ := underway.arises
  obtain ⟨stack, distinct⟩ := arises.disciplined
  refine ⟨stack, distinct, ?_, ?_, ?_⟩
  · intro noneEarly
    have kept : frames.filter (fun frame => frame.phase = .early) = [] :=
      List.filter_eq_nil_iff.mpr fun frame member => by simpa using noneEarly frame member
    have bare : s.stack = earlyKeys frames := stack
    rw [bare, earlyKeys, kept, List.map_nil]
  · rintro construct key data rfl depth result t finished
    have supplies : Supplies construct key s := sound
    have ending := earlyFrom_finished.mp finished
    have moves : Moves ⟨frames, s⟩ ⟨frames, t⟩ :=
      ending.moves (runPhase_faithful depth) supplies
    refine ⟨stack_eq_of_moves arises moves, ?_⟩
    rintro about chain rfl
    rcases ending.circular_inv supplies with ⟨id, construction, again, rfl, rfl⟩ | reported
    · have unchanged : t.stack = s.stack :=
        stack_eq_of_moves arises (supplies.moves construction frames)
      rw [unchanged] at again ⊢
      exact .inl ⟨rfl, isCircle_circleThrough again distinct⟩
    · exact .inr reported
  · rintro construct key rfl depth result t finished
    have supplies : Supplies construct key s := sound
    have ending := lateFrom_finished.mp finished
    have moves : Moves ⟨frames, s⟩ ⟨frames, t⟩ :=
      ending.moves (runPhase_faithful depth) supplies
    refine ⟨stack_eq_of_moves arises moves, ?_⟩
    rintro about chain rfl
    exact ending.circular_inv supplies

/-- The body of a component that needs itself. -/
def Body.selfNeeding : Body :=
  .scripted { early := some (.straight [.early "a" .propagate, .mark]) }

/-- A broker of one component, which needs itself. -/
def Store.selfNeeding : Store :=
  { registry := { recipes := [("a", .build .selfNeeding)] } }

/-- The component is about to have itself initialized. -/
def Store.selfNeeded : Store :=
  let begun := (Store.selfNeeding.construct "a" "a" none .selfNeeding).openPhase "a" 0 .early
  (begun.update 0 fun component => { component with calls := { early := 1 } }).note
    (.entered (some 1) .early)

theorem underway_selfNeeded :
    Underway (.early (instanceFor "a") "a" {}) [⟨"a", 0, .early⟩] Store.selfNeeded := by
  have fresh : Underway .idle [] Store.selfNeeding := .fresh ⟨rfl, rfl, rfl, rfl, rfl, rfl⟩
  have asked : Underway (.early (instanceFor "a") "a" {}) [] Store.selfNeeding :=
    @Underway.asked _ _ (.early "a" {}) _ fresh trivial rfl
  have phase := Underway.early asked rfl
    (show (Store.selfNeeding.construct "a" "a" none .selfNeeding).Admits "a" 0 .early from
      ⟨rfl, by decide⟩)
  have acting := Underway.entered phase rfl rfl rfl
  exact Underway.called acting rfl rfl rfl

/-- The inner call finds the circle from the component to itself. -/
theorem stack_discipline_selfNeeded :
    Store.selfNeeded.stack = ["a"] ∧
    ∃ chain t, earlyFrom (runPhase 1) (instanceFor "a") "a" {} Store.selfNeeded =
      .finished (.error (.circular "a" chain), t) ∧
      t.stack = ["a"] ∧ IsCircle "a" ["a"] chain := by
  obtain ⟨-, -, -, early, -⟩ := stack_discipline underway_selfNeeded
  refine ⟨rfl, ["a", "a"], Store.selfNeeded, rfl, rfl, ?_⟩
  obtain ⟨-, circle⟩ := early _ _ _ rfl 1 _ _ rfl
  rcases circle "a" ["a", "a"] rfl with ⟨-, isCircle⟩ | ⟨id, u, v, built, admits, -⟩
  · exact isCircle
  · -- The key is on the stack, so no phase is started.
    cases built
    exact absurd (show "a" ∈ ["a"] by decide) admits.2

end ServiceLifecycle
