/-
Module: ServiceLifecycle.Proofs.Locality.Operations
Purpose: Calls on a broker at rest depend on, and change, no more than what they refer to.
Main exports: Store.Untouched, Store.InStart, Broker.earlyAllBy_spares, calls_local
-/
import ServiceLifecycle.Proofs.Broker.InProgress
import ServiceLifecycle.Proofs.Locality.Twins

namespace ServiceLifecycle

/-!
When nothing is in progress, the keys that are reached from a key by references are a closed
set.  So a call on the key leaves all other keys alone, and two brokers that agree on this set
answer the call alike.

The common start is a walk of such calls.  Services that are initialized already are passed over,
and so are those that opt out, as long as the sections in which they do so stay as they are.
-/

open Broker

/-- Nothing has become of a key, and no phase of it has been started. -/
structure Store.Untouched (key : String) (s t : Store) : Prop where
  cached : t.cachedId? key = s.cachedId? key
  component : t.cachedInstance? key = s.cachedInstance? key
  record : t.poisoned.get? key = s.poisoned.get? key
  journal : ∃ events, t.journal = events ++ s.journal ∧ ∀ id phase, .started key id phase ∉ events

theorem Spares.untouched {S : String → Prop} {s t : Store} {key : String} (spares : Spares S s t)
    (holds : s.HoldsOwn) (other : ¬ S key) : Store.Untouched key s t := by
  constructor
  case cached => exact spares.cachedId? other
  case component => exact spares.cachedInstance? holds other
  case record => exact spares.poisoned key other
  case journal =>
    obtain ⟨events, grown, concerned⟩ := spares.ran
    refine ⟨events, grown, fun id phase member => ?_⟩
    exact other (concerned _ member key id rfl).1

/-- The common start may do something about a key: the key is reached from a service that takes
part and is not initialized. -/
def Store.InStart (s : Store) (key : String) : Prop :=
  ∃ name ∈ s.serviceNames, (s.sectionOf name).flag earlySetting true = true ∧
    s.isInitialized name = false ∧ s.Reaches name key

theorem Store.closed_inStart (s : Store) : s.Closed s.InStart := by
  rintro key other ⟨name, registered, enrolled, uninitialized, reaches⟩ names
  exact ⟨name, registered, enrolled, uninitialized, reaches.tail names⟩

namespace Broker

section Walk

variable {S : String → Prop} {s t : Store} {depth : Nat} {data : StartupData}
  {name : String}

theorem earlyBy_spares (holds : s.HoldsOwn) (closed : s.Closed S) (own : S name)
    {result : Except BrokerFault Unit}
    (finished : earlyBy (runPhase depth) name data s = .finished (result, t)) : Spares S s t :=
  request_spares (runPhase_local depth) holds closed own rfl (request_early .ignore finished)

theorem earlyEach_spares (confined : s.Confines S) {names : List String}
    (within : ∀ name ∈ names, (s.sectionOf name).flag earlySetting true = true →
      s.isInitialized name = false → S name)
    {failFast : Bool} {result : Except BrokerFault Unit}
    (finished : earlyEach (runPhase depth) data failFast names s = .finished (result, t)) :
    Spares S s t := by
  refine earlyEach_walk (P := Spares S s) ?called ?reported (.refl S s) finished
  case called =>
    intro name member u v answer before enrolled called
    rw [before.sectionOf confined.2.2] at enrolled
    refine before.trans ?_
    by_cases own : S name
    · exact earlyBy_spares (before.holdsOwn confined.1) (before.closed confined.2.1) own called
    · -- The service has been initialized from the start, and nothing has touched it.
      have initialized : s.isInitialized name = true := by
        cases ready : s.isInitialized name with
        | true => rfl
        | false => exact absurd (within name member enrolled ready) own
      obtain ⟨id, present, ready⟩ := Store.isInitialized_iff.mp initialized
      have still : u.isReady id = true := by
        rw [Store.isReady, before.instance? confined.1 own present]
        exact ready
      rw [earlyBy_initialized (Store.isInitialized_iff.mpr
        ⟨id, before.kept present, still⟩)] at called
      cases called
      exact .of_remarked (announce_remarks u name)
  case reported => exact fun u fault before => before.trans (.report _ u)

/-- The common start spares the keys that it has nothing to do with. -/
theorem earlyAllBy_spares (holds : s.HoldsOwn) (fixed : s.Fixes s.InStart) {failFast : Bool}
    {result : Except BrokerFault Unit}
    (finished : earlyAllBy (runPhase depth) data failFast s = .finished (result, t)) :
    Spares s.InStart s t := by
  have confined : s.Confines s.InStart := ⟨holds, s.closed_inStart, fixed⟩
  have within : ∀ name ∈ s.serviceNames, (s.sectionOf name).flag earlySetting true = true →
      s.isInitialized name = false → s.InStart name :=
    fun name registered enrolled uninitialized =>
      ⟨name, registered, enrolled, uninitialized, .refl⟩
  obtain ⟨u, walked, remarked⟩ := earlyAllBy_ends finished
  exact (earlyEach_spares confined within walked).trans (.of_remarked remarked)

end Walk

end Broker

/-- Brokers at rest that agree on a closed set of keys are twins. -/
theorem AgreesOn.twin {S : String → Prop} {s t : Store} (agrees : AgreesOn S s t)
    (first : Underway .idle [] s) (second : Underway .idle [] t) (closed : s.Closed S)
    (fixed : s.Fixes S) (fixedAgain : t.Fixes S) : Twin S s t := by
  have resting : ∀ {u : Store}, Underway .idle [] u → u.stack = [] ∧ u.settling = [] := by
    intro u underway
    obtain ⟨arises, -⟩ := underway.arises
    exact ⟨(arises.recorded (show Phase.early ≠ .shutdown by decide)).keys,
      (arises.recorded (show Phase.late ≠ .shutdown by decide)).keys⟩
  obtain ⟨stack, settling⟩ := resting first
  obtain ⟨stackAgain, settlingAgain⟩ := resting second
  exact { agrees with
    left := ⟨first.arises.1.holdsOwn, closed, fixed⟩
    right := ⟨second.arises.1.holdsOwn, agrees.closed closed, fixedAgain⟩
    stack := stackAgain.trans stack.symm
    settling := settlingAgain.trans settling.symm }

/-- Let nothing be in progress, whatever the components do in their phases.

Whatever the broker is asked to do about a key (to initialize it early, to resolve it, with or
without an expected type, or to shut it down), keys that are not reached from it by references
are left alone: each keeps its instance with everything in it and its record, and no phase of it
is started.

If another broker agrees on the keys that are reached, and sections are not read from an instance
of any of them, the same request has the same outcome there: an answer that is the same up to the
number of an instance, after which the brokers agree again, or both block for the same key, stop
the program or nest too deep.

The common start leaves a service alone that opts out of it, if it is not reached from any other
service that takes part and is not initialized yet. -/
theorem calls_local {s : Store} (resting : Underway .idle [] s) :
    (∀ (key : String) (action : Action), action.named? = some key → ∀ depth data answer t,
      action.request (runPhase depth) data s = .finished (answer, t) →
        ∀ other, ¬ s.Reaches key other → Store.Untouched other s t) ∧
    (∀ (key : String) (other : Store), Underway .idle [] other →
      AgreesOn (s.Reaches key) s other → s.Fixes (s.Reaches key) → other.Fixes (s.Reaches key) →
        ∀ action : Action, action.named? = some key → ∀ depth data,
          Alike (fun a b => SameAnswer key a.2 b.2 a.1 b.1 ∧ AgreesOn (s.Reaches key) a.2 b.2)
            (action.request (runPhase depth) data s)
            (action.request (runPhase depth) data other)) ∧
    (∀ opted, (s.sectionOf opted).flag earlySetting true = false →
      (∀ name ∈ s.serviceNames, name ≠ opted →
        (s.sectionOf name).flag earlySetting true = true → s.isInitialized name = false →
          ¬ s.Reaches name opted) →
      s.Fixes s.InStart → ∀ depth data failFast result t,
        earlyAllBy (runPhase depth) data failFast s = .finished (result, t) →
          Store.Untouched opted s t) := by
  have holds : s.HoldsOwn := resting.arises.1.holdsOwn
  refine ⟨?left, ?alike, ?start⟩
  case left =>
    intro key action names depth data answer t finished other unreached
    have spares := request_spares (runPhase_local depth) holds (s.closed_reaches key) .refl names
      finished
    exact spares.untouched holds unreached
  case alike =>
    intro key other restingAgain agrees fixed fixedAgain action names depth data
    have twin := agrees.twin resting restingAgain (s.closed_reaches key) fixed fixedAgain
    refine (request_alike (runPhase_local depth) (runPhase_parallel depth) twin .refl names
      data).mono ?_
    exact fun a b same => ⟨same.1, same.2.toAgreesOn⟩
  case start =>
    intro opted out unreached fixed depth data failFast result t finished
    refine (earlyAllBy_spares holds fixed finished).untouched holds ?_
    rintro ⟨name, registered, enrolled, uninitialized, reaches⟩
    refine unreached name registered ?_ enrolled uninitialized reaches
    rintro rfl
    rw [out] at enrolled
    cases enrolled

/-- A service that needs another one, and a third one, which opts out of the common start. -/
def Store.aloof : Store :=
  { registry :=
      { capability := .service
        recipes :=
          [("User", .build (.scripted
              { early := some (.straight [.early "clock" .propagate, .mark]) })),
            ("Plain", .build .plain)] }
    mapping := { entries := [("user", "User"), ("clock", "Plain"), ("spare", "Plain")] }
    provider := some (.inMemory
      (({} : InMemory).settings "spare" (.table [(earlySetting, .bool false)]))) }

/-- The third service has been resolved. -/
def Store.aloofUsed : Store :=
  Store.aloof.afterCall (.resolve "spare")

/-- The first service and the one that it needs refer to no others. -/
theorem aloof_closed {s : Store}
    (user : s.bodyAt? "user" =
      some (.scripted { early := some (.straight [.early "clock" .propagate, .mark]) }))
    (clock : s.bodyAt? "clock" = some .plain) :
    s.Closed fun key => key = "user" ∨ key = "clock" := by
  rintro key other (rfl | rfl) ⟨body, found, refers⟩
  · rw [user] at found
    cases found
    have starts : other = "clock" := by
      simpa [Body.refersTo_scripted, Course.refersTo_straight, Action.named?, eq_comm] using refers
    exact .inr starts
  · rw [clock] at found
    cases found
    exact refers.elim

theorem aloof_agrees : AgreesOn (Store.aloof.Reaches "user") Store.aloof Store.aloofUsed := by
  constructor
  case sections => exact fun _ => rfl
  case instances =>
    intro key reaches
    rcases (aloof_closed rfl rfl).of_reaches (.inl rfl) reaches with rfl | rfl <;> rfl
  case poisoned => exact fun _ _ => rfl
  case assigned => exact fun _ _ => rfl
  case findings => exact fun _ _ _ _ _ => rfl
  all_goals rfl

/-- The first service gets the same from both brokers, but with another number, and the common
start has nothing to do with the third. -/
theorem calls_local_aloof :
    (∃ t u, (Action.resolve "user" .ignore).request (runPhase 2) {} Store.aloof =
        .finished (.ok (.instance 0), t) ∧
      (Action.resolve "user" .ignore).request (runPhase 2) {} Store.aloofUsed =
        .finished (.ok (.instance 1), u) ∧
      AgreesOn (Store.aloof.Reaches "user") t u ∧ Store.Untouched "spare" Store.aloof t) ∧
    ∃ t, earlyAllBy (runPhase 2) {} true Store.aloofUsed = .finished (.ok (), t) ∧
      t.isInitialized "user" = true ∧ Store.Untouched "spare" Store.aloofUsed t := by
  have resting : Underway .idle [] Store.aloof := .fresh ⟨rfl, rfl, rfl, rfl, rfl, rfl⟩
  have used : Underway .idle [] Store.aloofUsed :=
    resting.afterCall (.resolve "spare") trivial rfl
  have fixed : ∀ S, Store.aloof.Fixes S := fun S id given => by cases given
  have fixedUsed : ∀ S, Store.aloofUsed.Fixes S := fun S id given => by cases given
  refine ⟨?_, ?_⟩
  · obtain ⟨left, alike, -⟩ := calls_local resting
    have unreached : ¬ Store.aloof.Reaches "user" "spare" := by
      intro reaches
      have within := (aloof_closed rfl rfl).of_reaches (.inl rfl) reaches
      revert within
      decide
    have asked : (Action.resolve "user" .ignore).request (runPhase 2) {} Store.aloof =
        .finished (.ok (.instance 0), _) := rfl
    have same := alike "user" Store.aloofUsed used aloof_agrees (fixed _) (fixedUsed _)
      (.resolve "user" .ignore) rfl 2 {}
    cases same with
    | finished related =>
        have untouched := left "user" _ rfl 2 {} _ _ asked "spare" unreached
        exact ⟨_, _, rfl, rfl, related.2, untouched⟩
  · obtain ⟨-, -, start⟩ := calls_local used
    have unreached : ∀ name ∈ Store.aloofUsed.serviceNames, name ≠ "spare" →
        ¬ Store.aloofUsed.Reaches name "spare" := by
      intro name registered other reaches
      have listed : name = "user" ∨ name = "clock" ∨ name = "spare" := by
        simpa using show name ∈ ["user", "clock", "spare"] from registered
      have first : name = "user" ∨ name = "clock" := by
        rcases listed with user | clock | spare
        · exact .inl user
        · exact .inr clock
        · exact absurd spare other
      have within := (aloof_closed rfl rfl).of_reaches first reaches
      revert within
      decide
    have ends : ((earlyAllBy (runPhase 2) {} true Store.aloofUsed).success?.map fun t =>
        t.isInitialized "user") = some true := by decide +kernel
    obtain ⟨t, left, initialized⟩ := Option.map_eq_some_iff.mp ends
    obtain ⟨_, started⟩ := Outcome.success?_eq_some.mp left
    have out : (Store.aloofUsed.sectionOf "spare").flag earlySetting true = false := by
      decide +kernel
    exact ⟨t, started, initialized, start "spare" out
      (fun name registered other _ _ => unreached name registered other) (fixedUsed _) 2 {} true
      _ t started⟩

end ServiceLifecycle
