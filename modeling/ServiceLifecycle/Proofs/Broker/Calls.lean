/-
Module: ServiceLifecycle.Proofs.Broker.Calls
Purpose: How the calls on a broker end, by what they find.
Main exports: Store.Admits, Store.openPhase, Store.closePhase, Broker.verdict, Broker.EarlyEnd,
  Broker.earlyFrom_finished, Broker.LateEnd, Broker.lateFrom_finished, Broker.ShutdownEnd,
  Broker.shutdownInstanceBy_finished
-/
import ServiceLifecycle.Proofs.Computation

namespace ServiceLifecycle

/-!
What the broker itself does around a phase is the same for all components.  It is
given here as two functions of the store, `openPhase` and `closePhase`, and a
condition `Admits` under which the broker starts the phase at all.  How a call ends
is then a choice between few cases, one of which runs a phase.
-/

namespace Store

/-- The broker has no reason to refuse a phase of the instance of a key. -/
def Admits (s : Store) (key : String) (id : Nat) : Phase → Prop
  | .early => s.isReady id = false ∧ key ∉ s.stack
  | .late => s.isReady id = false ∧ s.poisoned.get? key = none ∧ key ∉ s.settling
  | .shutdown => s.isReady id = true

/-- The store in which the broker hands over to a phase. -/
def openPhase (s : Store) (key : String) (id : Nat) : Phase → Store
  | .early => { s with stack := key :: s.stack }.note (.started key id .early)
  | .late => { s with settling := key :: s.settling }.note (.started key id .late)
  | .shutdown => s.note (.started key id .shutdown)

/-- The store that the broker makes of the one in which a phase has ended. -/
def closePhase (s : Store) (key : String) (id : Nat) (phase : Phase)
    (result : Except PhaseFault Unit) : Store :=
  let ended := s.note (.ended key id phase result.isOk)
  match phase, result with
  | .early, .ok () => { ended with stack := s.stack.tail }.clearPoison key
  | .early, .error _ => { ended with stack := s.stack.tail }
  | .late, .ok () => { ended with settling := s.settling.tail }
  | .late, .error fault =>
      { ended with settling := s.settling.tail }.poison key (Fault.phase fault).chain
  | .shutdown, _ => ended.unmark id

end Store

namespace Broker

/-- What the broker makes of the result of an initializing phase. -/
def verdict (s : Store) (key : String) (id : Nat) (phase : Phase)
    (result : Except PhaseFault Unit) : Except PhaseFault Unit :=
  match result with
  | .error fault => .error fault
  | .ok () => if s.isReady id then .ok () else .error (unmarkedFault phase key)

theorem isReady_of_verdict_ok {s : Store} {key : String} {id : Nat} {phase : Phase}
    {result : Except PhaseFault Unit} (good : verdict s key id phase result = .ok ()) :
    s.isReady id = true := by
  cases result with
  | error fault => simp [verdict] at good
  | ok _ =>
      by_cases ready : s.isReady id = true
      · exact ready
      · simp [verdict, ready] at good

theorem runPhaseOf_apply (run : PhaseRunner) (key : String) (id : Nat) (phase : Phase)
    (data : StartupData) (s : Store) :
    runPhaseOf run key id phase data s =
      (run id phase data (s.note (.started key id phase))).andThen fun ended =>
        .finished (verdict ended.2 key id phase ended.1,
          ended.2.note (.ended key id phase (verdict ended.2 key id phase ended.1).isOk)) := rfl

/-- An early call that is not refused hands over to the early phase, and what it makes of
the end of the phase depends on the verdict only. -/
theorem earlyFrom_admitted {run : PhaseRunner} {construct : Work (Except BrokerFault Nat)}
    {key : String} {data : StartupData} {s t : Store} {id : Nat}
    (construction : construct s = .finished (.ok id, t)) (admits : t.Admits key id .early) :
    earlyFrom run construct key data s =
      (run id .early data (t.openPhase key id .early)).andThen fun ended =>
        .finished ((verdict ended.2 key id .early ended.1).mapError (PhaseFault.about key),
          ended.2.closePhase key id .early (verdict ended.2 key id .early ended.1)) := by
  obtain ⟨unready, fresh⟩ := admits
  rw [earlyFrom, Work.bind_apply, construction]
  simp only [Outcome.andThen_finished, Work.bind_apply, Work.get_apply, unready, fresh,
    List.contains_eq_mem, decide_false, if_false, Bool.false_eq_true, Work.set_apply,
    runPhaseOf_apply, Store.openPhase]
  cases run id .early data _ with
  | finished ended =>
      simp only [Outcome.andThen_finished]
      cases verdict ended.2 key id .early ended.1 <;> rfl
  | blocked key => rfl
  | stopped => rfl
  | exhausted => rfl

/-- A late call that is not refused hands over to the late phase, and what it makes of
the end of the phase depends on the verdict only. -/
theorem lateFrom_admitted {run : PhaseRunner} {construct : Work (Except BrokerFault Nat)}
    {key : String} {s t : Store} {id : Nat}
    (construction : construct s = .finished (.ok id, t)) (admits : t.Admits key id .late) :
    lateFrom run construct key s =
      (run id .late {} (t.openPhase key id .late)).andThen fun ended =>
        .finished (((verdict ended.2 key id .late ended.1).map fun _ => id).mapError
            (PhaseFault.about key),
          ended.2.closePhase key id .late (verdict ended.2 key id .late ended.1)) := by
  obtain ⟨unready, clean, fresh⟩ := admits
  rw [lateFrom, Work.bind_apply, construction]
  simp only [Outcome.andThen_finished, Work.bind_apply, Work.get_apply, unready, clean, fresh,
    List.contains_eq_mem, decide_false, if_false, Bool.false_eq_true, Work.set_apply,
    runPhaseOf_apply, Store.openPhase]
  cases run id .late {} _ with
  | finished ended =>
      simp only [Outcome.andThen_finished]
      cases verdict ended.2 key id .late ended.1 <;> rfl
  | blocked key => rfl
  | stopped => rfl
  | exhausted => rfl

/-- How an early call on a key ends. -/
inductive EarlyEnd (run : PhaseRunner) (construct : Work (Except BrokerFault Nat))
    (key : String) (data : StartupData) (s : Store) :
    Except BrokerFault Unit → Store → Prop where
  /-- There is no instance, and none could be built. -/
  | unbuilt {fault : BrokerFault} {t : Store}
      (construction : construct s = .finished (.error fault, t)) :
      EarlyEnd run construct key data s (.error fault) t
  /-- The instance is initialized already. -/
  | already {id : Nat} {t : Store}
      (construction : construct s = .finished (.ok id, t)) (ready : t.isReady id = true) :
      EarlyEnd run construct key data s (.ok ()) t
  /-- The key is on the stack. -/
  | circle {id : Nat} {t : Store}
      (construction : construct s = .finished (.ok id, t)) (unready : t.isReady id = false)
      (again : key ∈ t.stack) :
      EarlyEnd run construct key data s
        (.error (.circular key (circleThrough key t.stack))) t
  /-- The early phase of the instance has run. -/
  | ran {id : Nat} {t u : Store} {result : Except PhaseFault Unit}
      (construction : construct s = .finished (.ok id, t)) (admits : t.Admits key id .early)
      (phase : run id .early data (t.openPhase key id .early) = .finished (result, u)) :
      EarlyEnd run construct key data s
        ((verdict u key id .early result).mapError (PhaseFault.about key))
        (u.closePhase key id .early (verdict u key id .early result))

theorem earlyFrom_finished {run : PhaseRunner} {construct : Work (Except BrokerFault Nat)}
    {key : String} {data : StartupData} {s t : Store} {result : Except BrokerFault Unit} :
    earlyFrom run construct key data s = .finished (result, t) ↔
      EarlyEnd run construct key data s result t := by
  constructor
  · intro finished
    have block := finished
    rw [earlyFrom, Work.bind_finished] at block
    obtain ⟨built, u, construction, rest⟩ := block
    cases built with
    | error fault =>
        obtain ⟨rfl, rfl⟩ : .error fault = result ∧ u = t := by simpa using rest
        exact .unbuilt construction
    | ok id =>
        by_cases ready : u.isReady id = true
        · obtain ⟨rfl, rfl⟩ : .ok () = result ∧ u = t := by simpa [ready] using rest
          exact .already construction ready
        rw [Bool.not_eq_true] at ready
        by_cases again : key ∈ u.stack
        · obtain ⟨rfl, rfl⟩ :
              .error (.circular key (circleThrough key u.stack)) = result ∧ u = t := by
            simpa [ready, again] using rest
          exact .circle construction ready again
        · have admits : u.Admits key id .early := ⟨ready, again⟩
          rw [earlyFrom_admitted construction admits, Outcome.andThen_eq_finished] at finished
          obtain ⟨⟨raw, v⟩, phase, same⟩ := finished
          cases same
          exact .ran construction admits phase
  · intro ending
    cases ending with
    | unbuilt construction => simp [earlyFrom, construction]
    | already construction ready => simp [earlyFrom, construction, ready]
    | circle construction unready again => simp [earlyFrom, construction, unready, again]
    | ran construction admits phase =>
        rw [earlyFrom_admitted construction admits, phase]
        rfl

/-- How a call for a ready instance ends. -/
inductive LateEnd (run : PhaseRunner) (construct : Work (Except BrokerFault Nat))
    (key : String) (s : Store) : Except BrokerFault Nat → Store → Prop where
  /-- There is no instance, and none could be built. -/
  | unbuilt {fault : BrokerFault} {t : Store}
      (construction : construct s = .finished (.error fault, t)) :
      LateEnd run construct key s (.error fault) t
  /-- The instance is initialized already. -/
  | already {id : Nat} {t : Store}
      (construction : construct s = .finished (.ok id, t)) (ready : t.isReady id = true) :
      LateEnd run construct key s (.ok id) t
  /-- The key is poisoned. -/
  | poisoned {id : Nat} {t : Store} {reason : String}
      (construction : construct s = .finished (.ok id, t)) (unready : t.isReady id = false)
      (record : t.poisoned.get? key = some reason) :
      LateEnd run construct key s (.error (.uninitialized key (.failed reason none))) t
  /-- The late phase of the instance has run. -/
  | ran {id : Nat} {t u : Store} {result : Except PhaseFault Unit}
      (construction : construct s = .finished (.ok id, t)) (admits : t.Admits key id .late)
      (phase : run id .late {} (t.openPhase key id .late) = .finished (result, u)) :
      LateEnd run construct key s
        (((verdict u key id .late result).map fun _ => id).mapError (PhaseFault.about key))
        (u.closePhase key id .late (verdict u key id .late result))

theorem lateFrom_finished {run : PhaseRunner} {construct : Work (Except BrokerFault Nat)}
    {key : String} {s t : Store} {result : Except BrokerFault Nat} :
    lateFrom run construct key s = .finished (result, t) ↔
      LateEnd run construct key s result t := by
  constructor
  · intro finished
    have block := finished
    rw [lateFrom, Work.bind_finished] at block
    obtain ⟨built, u, construction, rest⟩ := block
    cases built with
    | error fault =>
        obtain ⟨rfl, rfl⟩ : .error fault = result ∧ u = t := by simpa using rest
        exact .unbuilt construction
    | ok id =>
        by_cases ready : u.isReady id = true
        · obtain ⟨rfl, rfl⟩ : .ok id = result ∧ u = t := by simpa [ready] using rest
          exact .already construction ready
        rw [Bool.not_eq_true] at ready
        cases record : u.poisoned.get? key with
        | some reason =>
            obtain ⟨rfl, rfl⟩ :
                .error (.uninitialized key (.failed reason none)) = result ∧ u = t := by
              simpa [ready, record] using rest
            exact .poisoned construction ready record
        | none =>
            by_cases waits : key ∈ u.settling
            · -- The computation waits for itself, so it is not finished.
              simp [ready, record, waits] at rest
            · have admits : u.Admits key id .late := ⟨ready, record, waits⟩
              rw [lateFrom_admitted construction admits, Outcome.andThen_eq_finished] at finished
              obtain ⟨⟨raw, v⟩, phase, same⟩ := finished
              cases same
              exact .ran construction admits phase
  · intro ending
    cases ending with
    | unbuilt construction => simp [lateFrom, construction]
    | already construction ready => simp [lateFrom, construction, ready]
    | poisoned construction unready record => simp [lateFrom, construction, unready, record]
    | ran construction admits phase =>
        rw [lateFrom_admitted construction admits, phase]
        rfl

/-- How the shutdown of a key ends. -/
inductive ShutdownEnd (run : PhaseRunner) (key : String) (s : Store) : Bool → Store → Prop where
  /-- There is no instance. -/
  | absent (missing : s.cachedId? key = none) : ShutdownEnd run key s false s
  /-- The instance is not initialized. -/
  | idle {id : Nat} (present : s.cachedId? key = some id) (unready : s.isReady id = false) :
      ShutdownEnd run key s false s
  /-- The shutdown phase of the instance has run. -/
  | ran {id : Nat} {u : Store} {result : Except PhaseFault Unit}
      (present : s.cachedId? key = some id) (ready : s.isReady id = true)
      (phase : run id .shutdown {} (s.openPhase key id .shutdown) = .finished (result, u)) :
      ShutdownEnd run key s true (u.closePhase key id .shutdown result)

theorem shutdownInstanceBy_finished {run : PhaseRunner} {key : String} {s t : Store}
    {result : Bool} :
    shutdownInstanceBy run key s = .finished (result, t) ↔ ShutdownEnd run key s result t := by
  constructor
  · intro finished
    simp only [shutdownInstanceBy, Work.bind_apply, Work.get_apply,
      Outcome.andThen_finished] at finished
    cases present : s.cachedId? key with
    | none =>
        obtain ⟨rfl, rfl⟩ : false = result ∧ s = t := by simpa [present] using finished
        exact .absent present
    | some id =>
        by_cases ready : s.isReady id = true
        · simp only [present, ready, if_true, Work.bind_apply, Work.set_apply,
            Outcome.andThen_finished] at finished
          rw [Outcome.andThen_eq_finished] at finished
          obtain ⟨⟨raw, v⟩, phase, same⟩ := finished
          cases same
          exact .ran present ready phase
        · rw [Bool.not_eq_true] at ready
          obtain ⟨rfl, rfl⟩ : false = result ∧ s = t := by
            simpa [present, ready] using finished
          exact .idle present ready
  · intro ending
    cases ending with
    | absent missing => simp [shutdownInstanceBy, missing]
    | idle present unready => simp [shutdownInstanceBy, present, unready]
    | ran present ready phase =>
        simp only [shutdownInstanceBy, Work.bind_apply, Work.get_apply, Outcome.andThen_finished,
          present, ready, if_true, Work.set_apply]
        rw [show run _ .shutdown {} (s.note _) = _ from phase]
        rfl

/-- An early call on a service is announced. -/
def announce (s : Store) (key : String) : Store :=
  if s.registry.capability = .service then
    s.notice ("Start initializing service (early): " ++ key)
  else s

theorem earlyBy_apply (run : PhaseRunner) (key : String) (data : StartupData) (s : Store) :
    earlyBy run key data s = earlyFrom run (instanceFor key) key data (announce s key) := by
  cases capability : s.registry.capability <;> simp [earlyBy, announce, capability]

theorem resolveBy_of_resolveAsBy {run : PhaseRunner} {key : String} {wanted : Wanted}
    {s t : Store} {result : Except BrokerFault Nat}
    (finished : resolveAsBy run key wanted s = .finished (result, t)) :
    ∃ resolved, resolveBy run key s = .finished (resolved, t) ∧
      (result = resolved ∨ result = .error (.typeMismatch key wanted.typeName)) := by
  rw [resolveAsBy, Work.bind_finished] at finished
  obtain ⟨resolved, u, resolution, rest⟩ := finished
  cases resolved with
  | error fault =>
      obtain ⟨rfl, rfl⟩ : .error fault = result ∧ u = t := by simpa using rest
      exact ⟨_, resolution, .inl rfl⟩
  | ok id =>
      by_cases fits : (u.instance? id).any (·.has wanted) = true
      · obtain ⟨rfl, rfl⟩ : .ok id = result ∧ u = t := by simpa [fits] using rest
        exact ⟨_, resolution, .inl rfl⟩
      · obtain ⟨rfl, rfl⟩ : .error (.typeMismatch key wanted.typeName) = result ∧ u = t := by
          simpa [fits] using rest
        exact ⟨_, resolution, .inr rfl⟩

end Broker

end ServiceLifecycle
