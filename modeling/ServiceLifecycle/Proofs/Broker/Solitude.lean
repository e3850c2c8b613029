/-
Module: ServiceLifecycle.Proofs.Broker.Solitude
Purpose: What a component does in a phase in which it does not call its broker.
Main exports: Course.reached, Event.IsOwn, ActsAlone, act_alone, perform_alone, Component.nextRun,
  Undisturbed
-/
import ServiceLifecycle.Proofs.Locality.Footprint

namespace ServiceLifecycle

/-!
Without its broker, a component can change its own status, log and fail.  Such actions always come
to their end, and how they end depends on nothing but the number of the run.  So it can be told in
advance which actions of a course are reached, and those behind a failure do not matter.

What the others see of it is little: they keep their instances, with everything in them, and their
records.
-/

open Broker

/-- The actions of a course that are performed in the `run`-th run of a phase as long as none of
them calls the broker: all up to the first that fails. -/
def Course.reached (run : Nat) : Course → List Action
  | .finish => []
  | .act action next =>
      match action.outcome run with
      | .ok heard => action :: (next heard).reached run
      | .error _ => [action]

/-- The component itself marked or logged something. -/
def Event.IsOwn (id : Nat) : Event → Prop
  | .said _ _ => True
  | .marked about => about = id
  | _ => False

/-- From one store to another, a component has done something on its own. -/
structure ActsAlone (id : Nat) (marks : Prop) (s t : Store) : Prop where
  quiet : Quiet (some id) s t
  journal : ∃ own, t.journal = own ++ s.journal ∧ ∀ event ∈ own, event.IsOwn id
  /-- It becomes initialized only if it may mark itself. -/
  ready : t.isReady id = true → s.isReady id = true ∨ marks

namespace ActsAlone

variable {id : Nat} {marks more : Prop} {s t u : Store}

theorem refl (id : Nat) (marks : Prop) (s : Store) : ActsAlone id marks s s :=
  ⟨Quiet.refl _ s, ⟨[], rfl, fun _ member => absurd member List.not_mem_nil⟩, .inl⟩

theorem trans (first : ActsAlone id marks s t) (second : ActsAlone id more t u) :
    ActsAlone id (marks ∨ more) s u := by
  obtain ⟨soon, soonEq, soonOwn⟩ := first.journal
  obtain ⟨late, lateEq, lateOwn⟩ := second.journal
  refine ⟨first.quiet.trans second.quiet, ⟨late ++ soon, ?_, ?_⟩, fun ready => ?_⟩
  · rw [lateEq, soonEq, List.append_assoc]
  · intro event member
    exact (List.mem_append.mp member).elim (lateOwn event) (soonOwn event)
  · rcases second.ready ready with before | marked
    · exact (first.ready before).imp_right .inl
    · exact .inr (.inr marked)

theorem mono (alone : ActsAlone id marks s t) (allowed : marks → more) :
    ActsAlone id more s t :=
  { alone with ready := fun ready => (alone.ready ready).imp_right allowed }

theorem said (label : Option Nat) (text : String) (s : Store) :
    ActsAlone id marks s (s.note (.said label text)) := by
  refine ⟨Quiet.said label text s, ⟨[.said label text], rfl, ?_⟩, .inl⟩
  intro event member
  rw [List.mem_singleton.mp member]
  trivial

theorem mark (id : Nat) (s : Store) : ActsAlone id True s (s.mark id) := by
  refine ⟨Quiet.mark id s, ⟨[.marked id], rfl, ?_⟩, fun _ => .inr trivial⟩
  intro event member
  rw [List.mem_singleton.mp member]
  rfl

theorem unmark (id : Nat) (s : Store) : ActsAlone id False s (s.unmark id) := by
  refine ⟨Quiet.unmark id s, ⟨[], rfl, fun _ member => absurd member List.not_mem_nil⟩, ?_⟩
  intro ready
  rw [Store.isReady_unmark, if_pos rfl] at ready
  cases ready

end ActsAlone

section Actions

variable {now : Situation}

/-- An action that does not call the broker comes to its end, whatever the phases of others. -/
theorem act_alone {action : Action} (alone : ¬ action.CallsOwner) (now : Situation) (s : Store) :
    ∃ t, (∀ run, act run now action s = .finished (action.outcome now.run, t)) ∧
      ActsAlone now.id (action = .mark) s t := by
  have nothing : ActsAlone now.id (action = .mark) s s := .refl _ _ s
  cases action with
  | mark => exact ⟨_, fun run => rfl, (ActsAlone.mark now.id s).mono fun _ => rfl⟩
  | unmark => exact ⟨_, fun run => rfl, (ActsAlone.unmark now.id s).mono False.elim⟩
  | log text => exact ⟨_, fun run => rfl, .said _ _ s⟩
  | name => exact ⟨_, fun run => rfl, .said _ _ s⟩
  | owner => exact ⟨_, fun run => rfl, .said _ _ s⟩
  | data => exact ⟨_, fun run => rfl, .said _ _ s⟩
  | config path => exact ⟨_, fun run => rfl, .said _ _ s⟩
  | fail message cause => exact ⟨s, fun run => rfl, nothing⟩
  | failBroker fault => exact ⟨s, fun run => rfl, nothing⟩
  | failFirst count message =>
      refine ⟨s, fun run => ?_, nothing⟩
      simp only [act, Action.outcome]
      split <;> rfl
  | failAfter count message =>
      refine ⟨s, fun run => ?_, nothing⟩
      simp only [act, Action.outcome]
      split <;> rfl
  | _ => exact absurd trivial alone

/-- If none of the actions that are reached calls the broker, then the course comes to its end,
whatever the phases of others. -/
theorem perform_alone {course : Course}
    (alone : ∀ action ∈ course.reached now.run, ¬ action.CallsOwner) (s : Store) :
    ∃ result t, (∀ run, perform run now course s = .finished (result, t)) ∧
      ActsAlone now.id (.mark ∈ course.reached now.run) s t := by
  induction course generalizing s with
  | finish => exact ⟨.ok (), s, fun run => rfl, .refl _ _ s⟩
  | act action next inductionHypothesis =>
      rw [Course.reached] at alone ⊢
      cases outcome : action.outcome now.run with
      | error fault =>
          rw [outcome] at alone
          obtain ⟨t, acts, first⟩ := act_alone (alone action List.mem_cons_self) now s
          refine ⟨.error fault, t, fun run => ?_, ?_⟩
          · simp only [perform, Work.bind_apply, acts run, outcome, Outcome.andThen_finished]
            rfl
          · exact first.mono fun same => List.mem_singleton.mpr same.symm
      | ok heard =>
          rw [outcome] at alone
          obtain ⟨t, acts, first⟩ := act_alone (alone action List.mem_cons_self) now s
          obtain ⟨result, u, performs, others⟩ := inductionHypothesis heard
            (fun other member => alone other (List.mem_cons_of_mem _ member)) t
          refine ⟨result, u, fun run => ?_, ?_⟩
          · simp only [perform, Work.bind_apply, acts run, outcome, Outcome.andThen_finished]
            exact performs run
          · refine (first.trans others).mono fun marks => List.mem_cons.mpr ?_
            exact marks.imp_left Eq.symm

end Actions

/-- The number of the next run of a phase of a component. -/
def Component.nextRun (component : Component) (phase : Phase) : Nat :=
  (component.calls.next phase).of phase

/-- The number of a run is that of the component that enters the phase. -/
theorem Store.situation_run {s : Store} {id : Nat} {component : Component}
    (held : s.instance? id = some component) (phase : Phase) (data : StartupData) :
    (s.situation id phase data).run = component.nextRun phase := by
  have entered : (s.enter id phase).instance? id =
      some { component with calls := component.calls.next phase } := by
    have changed := s.instance?_update id id fun component =>
      { component with calls := component.calls.next phase }
    rw [if_pos rfl, held] at changed
    exact changed
  rw [situation, entered]
  rfl

/-- From one store to another, nothing has happened to a key: it has the instance that it had, as
it was, or still none, and what was recorded about it. -/
structure Undisturbed (key : String) (s t : Store) : Prop where
  cachedId? : t.cachedId? key = s.cachedId? key
  cachedInstance? : t.cachedInstance? key = s.cachedInstance? key
  record : t.poisoned.get? key = s.poisoned.get? key

/-- Whether a key is initialized is seen from its instance. -/
theorem Store.isInitialized_eq (s : Store) (key : String) :
    s.isInitialized key = (s.cachedInstance? key).any (·.initialized) := by
  rw [isInitialized, cachedInstance?]
  cases s.cachedId? key <;> rfl

namespace Undisturbed

variable {key other : String} {id : Nat} {s t u : Store}

theorem refl (key : String) (s : Store) : Undisturbed key s s := ⟨rfl, rfl, rfl⟩

theorem trans (first : Undisturbed key s t) (second : Undisturbed key t u) :
    Undisturbed key s u where
  cachedId? := second.cachedId?.trans first.cachedId?
  cachedInstance? := second.cachedInstance?.trans first.cachedInstance?
  record := second.record.trans first.record

theorem isInitialized (same : Undisturbed key s t) : t.isInitialized key = s.isInitialized key := by
  rw [Store.isInitialized_eq, Store.isInitialized_eq, same.cachedInstance?]

/-- What a component does by itself does not disturb another key. -/
theorem of_quiet (change : Quiet (some id) s t) (holds : s.HoldsOwn)
    (present : s.cachedId? other = some id) (different : key ≠ other) : Undisturbed key s t := by
  have cached : t.cachedId? key = s.cachedId? key := congrArg (Entries.get? key) change.cached
  refine ⟨cached, ?_, congrArg (Entries.get? key) change.poisoned⟩
  rw [Store.cachedInstance?, Store.cachedInstance?, cached]
  cases found : s.cachedId? key with
  | none => rfl
  | some number =>
      have apart : some id ≠ some number := by
        intro same
        cases same
        exact different (holds.distinct found present)
      exact change.others number apart

theorem remarked (remarked : s.Remarked t) (key : String) : Undisturbed key s t := by
  cases remarked with
  | nothing => exact .refl key s
  | said label text => exact ⟨rfl, rfl, rfl⟩
  | reported entry => exact ⟨rfl, rfl, rfl⟩

theorem openPhase (s : Store) (key : String) (id : Nat) (phase : Phase) (other : String) :
    Undisturbed other s (s.openPhase key id phase) := by
  cases phase <;> exact ⟨rfl, rfl, rfl⟩

/-- The end of a phase does not disturb another key. -/
theorem closePhase (holds : s.HoldsOwn) (present : s.cachedId? other = some id)
    (different : key ≠ other) (phase : Phase) (result : Except PhaseFault Unit) :
    Undisturbed key s (s.closePhase other id phase result) := by
  cases phase with
  | early =>
      cases result with
      | ok _ =>
          exact ⟨rfl, rfl, (Entries.get?_erase other key s.poisoned).trans (if_neg different)⟩
      | error fault => exact ⟨rfl, rfl, rfl⟩
  | late =>
      cases result with
      | ok _ => exact ⟨rfl, rfl, rfl⟩
      | error fault =>
          exact ⟨rfl, rfl, (Entries.get?_put other key _ s.poisoned).trans (if_neg different)⟩
  | shutdown =>
      have noted : Undisturbed key s (s.note (.ended other id .shutdown result.isOk)) :=
        ⟨rfl, rfl, rfl⟩
      exact noted.trans (of_quiet (Quiet.unmark id _) holds present different)

/-- A new instance of another key is none of this one. -/
theorem construct (holds : s.HoldsOwn) (different : key ≠ other) (implementation : String)
    (name : Option String) (body : Body) :
    Undisturbed key s (s.construct other implementation name body) := by
  refine ⟨?_, ?_, rfl⟩
  · rw [Store.cachedId?_construct, if_neg different]
  · rw [Store.cachedInstance?_construct holds, if_neg different]

end Undisturbed

end ServiceLifecycle
