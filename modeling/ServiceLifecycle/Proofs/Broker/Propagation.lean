/-
Module: ServiceLifecycle.Proofs.Broker.Propagation
Purpose: How the failure of one component comes up through all those that wait for it.
Main exports: Demand, Demand.FailsWith, Store.Leads, Store.Sinks, Store.Awaits, Descends,
  leads_step, Demand.FailsAlone, sinks_end, fault_surfaces
-/
import ServiceLifecycle.Proofs.Broker.Solitude
import ServiceLifecycle.Proofs.Broker.InProgress
import ServiceLifecycle.Proofs.Fault.Chain
import Mathlib.Data.List.Chain

namespace ServiceLifecycle

/-!
A component may begin a phase by having its broker initialize another one, and fail with the
broker's fault if that does not work out.  Along a chain of such components the calls go down to
the last key, and its fault comes up.  On the way up, each call closes the phase it has started.
All that it adds is the line for the fault in the record of its key, and that only if the call was
for a ready instance.

On the way down the broker touches one key after the other, so that each key is found as it was
at the start; on the way up it is the same.
-/

open Broker

/-- How a key is to become initialized: early, with startup data, or late. -/
inductive Demand where
  | early (data : StartupData)
  | late

namespace Demand

/-- The phase that is run to meet the demand. -/
def phase : Demand → Phase
  | early _ => .early
  | late => .late

/-- The startup data for the phase. -/
def data : Demand → StartupData
  | early data => data
  | late => {}

/-- The task that the broker takes up for the demand. -/
def task (key : String) : Demand → Task
  | early data => .early (instanceFor key) key data
  | late => .late (instanceFor key) key

/-- The store in which the broker takes the task up. -/
def opening (s : Store) (key : String) : Demand → Store
  | early _ => announce s key
  | late => s

/-- The demand is not met, and this is what the caller is told. -/
def FailsWith (run : PhaseRunner) (key : String) (s : Store) (fault : BrokerFault) (t : Store) :
    Demand → Prop
  | early data => earlyFrom run (instanceFor key) key data s = .finished (.error fault, t)
  | late => lateFrom run (instanceFor key) key s = .finished (.error fault, t)

theorem opening_remarks (demand : Demand) (s : Store) (key : String) :
    s.Remarked (demand.opening s key) := by
  cases demand with
  | early data => exact announce_remarks s key
  | late => exact .nothing

theorem phase_ne_shutdown (demand : Demand) : demand.phase ≠ .shutdown := by
  cases demand <;> exact Phase.noConfusion

end Demand

/-- The key that an action has the broker initialize, and how, with the startup data at hand. -/
def Action.demand? (data : StartupData) : Action → Option (String × Demand)
  | .early key _ => some (key, .early data)
  | .resolve key _ | .resolveAs key _ _ => some (key, .late)
  | _ => none

/-- The action fails with the broker's fault, unchanged. -/
def Action.Propagates : Action → Prop
  | .early _ onFailure | .resolve _ onFailure | .resolveAs _ _ onFailure => onFailure = .propagate
  | _ => False

section Actions

variable {action : Action} {data : StartupData} {key : String} {demand : Demand}

theorem Action.named?_of_demand? (demands : action.demand? data = some (key, demand)) :
    action.named? = some key := by
  cases action <;> cases demands <;> rfl

theorem Action.call?_of_demand? (demands : action.demand? data = some (key, demand)) (s : Store) :
    ∃ call, action.call? data = some call ∧
      call.begin s = some (demand.task key, demand.opening s key) := by
  cases action <;> cases demands <;> exact ⟨_, rfl, rfl⟩

/-- The broker answers with the fault of the task that it has taken up. -/
theorem request_fails {run : PhaseRunner} {s t : Store} {fault : BrokerFault}
    (demands : action.demand? data = some (key, demand))
    (fails : demand.FailsWith run key (demand.opening s key) fault t) :
    action.request run data s = .finished (.error fault, t) := by
  cases action with
  | early about onFailure =>
      cases demands
      have called : earlyBy run key data s = .finished (.error fault, t) :=
        (earlyBy_apply run key data s).trans fails
      simp only [Action.request, Work.bind_apply, called]
      rfl
  | resolve about onFailure =>
      cases demands
      have called : resolveBy run key s = .finished (.error fault, t) := fails
      simp only [Action.request, Work.bind_apply, called]
      rfl
  | resolveAs about wanted onFailure =>
      cases demands
      have called : resolveBy run key s = .finished (.error fault, t) := fails
      simp only [Action.request, resolveAsBy, Work.bind_apply, called]
      rfl
  | _ => cases demands

/-- A component that passes faults on fails with the broker's fault, and does nothing else. -/
theorem act_propagates {run : PhaseRunner} {now : Situation} {s t : Store} {fault : BrokerFault}
    (demands : action.demand? now.data = some (key, demand)) (propagates : action.Propagates)
    (owned : hasOwner s now.id = true)
    (fails : demand.FailsWith run key (demand.opening s key) fault t) :
    act run now action s = .finished (.error (.nested fault), t) := by
  rw [act_request (Action.named?_of_demand? demands) owned, request_fails demands fails,
    Outcome.andThen_finished]
  cases action with
  | early about onFailure =>
      obtain rfl : onFailure = .propagate := propagates
      rfl
  | resolve about onFailure =>
      obtain rfl : onFailure = .propagate := propagates
      rfl
  | resolveAs about wanted onFailure =>
      obtain rfl : onFailure = .propagate := propagates
      rfl
  | _ => cases demands

end Actions

/-- A demand that has a phase run is not met when the phase has failed. -/
theorem Demand.failsWith_of_phase {demand : Demand} {key : String} {s u v : Store} {id : Nat}
    {run : PhaseRunner} {raw : Except PhaseFault Unit} {fault : PhaseFault}
    (construction : instanceFor key s = .finished (.ok id, u))
    (admits : u.Admits key id demand.phase)
    (phase : run id demand.phase demand.data (u.openPhase key id demand.phase) =
      .finished (raw, v))
    (judged : verdict v key id demand.phase raw = .error fault) :
    demand.FailsWith run key s (fault.about key)
      (v.closePhase key id demand.phase (.error fault)) := by
  cases demand with
  | early data =>
      have ran : run id .early data (u.openPhase key id .early) = .finished (raw, v) := phase
      have failed : verdict v key id .early raw = .error fault := judged
      rw [FailsWith, earlyFrom_admitted construction admits, ran, Outcome.andThen_finished, failed]
      rfl
  | late =>
      have ran : run id .late {} (u.openPhase key id .late) = .finished (raw, v) := phase
      have failed : verdict v key id .late raw = .error fault := judged
      rw [FailsWith, lateFrom_admitted construction admits, ran, Outcome.andThen_finished, failed]
      rfl

namespace Store

/-- The number of the next run of a phase of the component that a key has, or would get. -/
def runOf (s : Store) (key : String) (phase : Phase) : Nat :=
  ((s.cachedInstance? key).getD {}).nextRun phase

/-- The key can be initialized in this way as far as the broker is concerned: it is neither
initialized nor poisoned, and the phase is not in progress.  Between the calls of a host no phase
is, so that only the first two matter then. -/
structure Awaits (s : Store) (key : String) (demand : Demand) : Prop where
  uninitialized : s.isInitialized key = false
  clean : s.poisoned.get? key = none
  idle : key ∉ s.keysIn demand.phase

/-- To initialize the first key, its component begins with the demand for the second one, and
passes the fault on if that fails. -/
def Leads (s : Store) (link next : String × Demand) : Prop :=
  ∃ script seen seenData action onward, s.bodyAt? link.1 = some (.scripted script) ∧
    script.plan link.2.data link.2.phase = (seen, seenData, .act action onward) ∧
    action.demand? seenData = some next ∧ action.Propagates

/-- The key cannot be initialized in this way, and its component does not call the broker. -/
inductive Sinks (s : Store) (key : String) (demand : Demand) : Prop where
  /-- There is no component, and none can be built. -/
  | unbuildable (absent : s.cachedId? key = none) (nothing : s.bodyOf? key = none)
  /-- A script is followed that does not mark its component, whether it fails or not. -/
  | unmarked {script : Script} {seen : Phase} {seenData : StartupData} {course : Course}
      (scripted : s.bodyAt? key = some (.scripted script))
      (planned : script.plan demand.data demand.phase = (seen, seenData, course))
      (alone : ∀ action ∈ course.reached (s.runOf key seen), ¬ action.CallsOwner)
      (unmarked : .mark ∉ course.reached (s.runOf key seen))
  /-- The configuration service does not find what it needs. -/
  | unloaded {loaded : Option Deployment} {fault : LoadFault}
      (serving : s.bodyAt? key = some (.configuration loaded))
      (refused : loadDeployment s.surroundings demand.data = .error fault)

end Store

/-- On the way from a call on a key down to what its component does, the broker touches no other
key, and it works with the same things. -/
structure Descends (key : String) (s t : Store) : Prop where
  registry : t.registry = s.registry
  mapping : t.mapping = s.mapping
  reachable : t.reachable = s.reachable
  surroundings : t.surroundings = s.surroundings
  others : ∀ other, other ≠ key → Undisturbed other s t
  waiting : ∀ other phase, other ≠ key → other ∈ t.keysIn phase → other ∈ s.keysIn phase

namespace Descends

variable {key other : String} {id : Nat} {s t u : Store}

theorem refl (key : String) (s : Store) : Descends key s s :=
  ⟨rfl, rfl, rfl, rfl, fun other _ => .refl other s, fun _ _ _ member => member⟩

theorem trans (first : Descends key s t) (second : Descends key t u) : Descends key s u where
  registry := second.registry.trans first.registry
  mapping := second.mapping.trans first.mapping
  reachable := second.reachable.trans first.reachable
  surroundings := second.surroundings.trans first.surroundings
  others other different := (first.others other different).trans (second.others other different)
  waiting other phase different member :=
    first.waiting other phase different (second.waiting other phase different member)

theorem construct (holds : s.HoldsOwn) (key implementation : String) (name : Option String)
    (body : Body) : Descends key s (s.construct key implementation name body) := by
  refine ⟨rfl, rfl, rfl, rfl, fun other different => ?_, fun other phase _ member => ?_⟩
  · exact .construct holds different implementation name body
  · cases phase <;> exact member

theorem openPhase (s : Store) (key : String) (id : Nat) (phase : Phase) :
    Descends key s (s.openPhase key id phase) := by
  have others : ∀ other, other ≠ key → Undisturbed other s (s.openPhase key id phase) :=
    fun other _ => .openPhase s key id phase other
  have waiting : ∀ other asked, other ≠ key → other ∈ (s.openPhase key id phase).keysIn asked →
      other ∈ s.keysIn asked := by
    intro other asked different member
    by_cases initializing : asked = .shutdown
    · subst initializing
      exact member
    · rw [keysIn_openPhase initializing] at member
      split at member
      · exact (List.mem_cons.mp member).resolve_left different
      · exact member
  cases phase <;> exact ⟨rfl, rfl, rfl, rfl, others, waiting⟩

theorem enter (holds : s.HoldsOwn) (present : s.cachedId? key = some id) (phase : Phase) :
    Descends key s (s.enter id phase) := by
  have quiet : Quiet (some id) s (s.enter id phase) :=
    (enterPhase_quiet (enterPhase_apply id phase {} s)).1
  refine ⟨rfl, rfl, rfl, rfl, fun other different => ?_, fun other asked _ member => ?_⟩
  · exact .of_quiet quiet holds present different
  · rw [quiet.keysIn] at member
    exact member

theorem remarked (remarked : s.Remarked t) (key : String) : Descends key s t := by
  have others : ∀ other, other ≠ key → Undisturbed other s t :=
    fun other _ => .remarked remarked other
  cases remarked with
  | nothing => exact .refl key s
  | said label text =>
      exact ⟨rfl, rfl, rfl, rfl, others,
        fun other phase _ member => by cases phase <;> exact member⟩
  | reported entry =>
      exact ⟨rfl, rfl, rfl, rfl, others,
        fun other phase _ member => by cases phase <;> exact member⟩

theorem bodyAt? (descends : Descends key s t) (different : other ≠ key) :
    t.bodyAt? other = s.bodyAt? other := by
  have same := descends.others other different
  rw [Store.bodyAt?, Store.bodyAt?, same.cachedInstance?, Store.bodyOf?, Store.bodyOf?,
    Store.assigned?, Store.assigned?, descends.registry, descends.mapping]

theorem awaits {demand : Demand} (descends : Descends key s t) (different : other ≠ key)
    (awaits : s.Awaits other demand) : t.Awaits other demand := by
  have same := descends.others other different
  refine ⟨same.isInitialized.trans awaits.uninitialized, same.record.trans awaits.clean, ?_⟩
  exact fun member => awaits.idle (descends.waiting other demand.phase different member)

theorem leads {link next : String × Demand} (descends : Descends key s t)
    (different : link.1 ≠ key) (leads : s.Leads link next) : t.Leads link next := by
  rw [Store.Leads, descends.bodyAt? different]
  exact leads

theorem sinks {demand : Demand} (descends : Descends key s t) (different : other ≠ key)
    (sinks : s.Sinks other demand) : t.Sinks other demand := by
  have same := descends.others other different
  have body := descends.bodyAt? different
  cases sinks with
  | unbuildable absent nothing =>
      refine .unbuildable (same.cachedId?.trans absent) ?_
      rw [Store.bodyOf?, Store.assigned?, descends.registry, descends.mapping]
      exact nothing
  | unmarked scripted planned alone unmarked =>
      have number : ∀ phase, t.runOf other phase = s.runOf other phase := by
        intro phase
        rw [Store.runOf, Store.runOf, same.cachedInstance?]
      refine .unmarked (body.trans scripted) planned ?_ ?_
      · rw [number]
        exact alone
      · rw [number]
        exact unmarked
  | unloaded serving refused =>
      rw [← descends.surroundings] at refused
      exact .unloaded (body.trans serving) refused

end Descends

section Steps

variable {key : String} {demand : Demand} {frames : List Frame} {s : Store}

/-- A key that has a component, or would get one, is found to have one that is in the state in
which it was, or new. -/
theorem instanceFor_bodyAt? {body : Body} (holds : s.HoldsOwn) (found : s.bodyAt? key = some body) :
    ∃ id u component, instanceFor key s = .finished (.ok id, u) ∧ Descends key s u ∧
      u.cachedId? key = some id ∧ u.instance? id = some component ∧ component.body = body ∧
      component.initialized = s.isInitialized key ∧
      (∀ phase, component.nextRun phase = s.runOf key phase) ∧
      u.poisoned = s.poisoned ∧ (∀ phase, u.keysIn phase = s.keysIn phase) ∧ u.HoldsOwn := by
  obtain ⟨result, u, finished, ending⟩ := instanceFor_ends key s
  cases ending with
  | @cached id present =>
      obtain ⟨component, held⟩ := holds.instance? present
      have own : s.cachedInstance? key = some component :=
        (s.cachedInstance?_eq present).trans held
      rw [Store.bodyAt?, own] at found
      refine ⟨id, s, component, finished, .refl key s, present, held, Option.some.inj found, ?_,
        fun phase => ?_, rfl, fun _ => rfl, holds⟩
      · rw [Store.isInitialized_eq, own, Option.any_some]
      · rw [Store.runOf, own, Option.getD_some]
  | unbuildable absent nothing unresolved remark =>
      have missing : s.cachedInstance? key = none := by
        rw [Store.cachedInstance?, absent, Option.bind_none]
      rw [Store.bodyAt?, missing, nothing] at found
      cases found
  | @built implementation name builds absent assigned available =>
      have missing : s.cachedInstance? key = none := by
        rw [Store.cachedInstance?, absent, Option.bind_none]
      have same : s.bodyAt? key = some builds := by
        rw [Store.bodyAt?, missing, Store.bodyOf?, assigned]
        exact available
      refine ⟨_, _, s.newComponent implementation name builds, finished, .construct holds key _ _ _,
        ?_, ?_, Option.some.inj (same.symm.trans found), ?_, fun phase => ?_, rfl,
        fun phase => by cases phase <;> rfl, holds.construct key _ _ _⟩
      · rw [Store.cachedId?_construct, if_pos rfl]
      · rw [Store.instance?_construct, if_pos rfl]
      · rw [Store.isInitialized_eq, missing]
        rfl
      · rw [Store.runOf, missing]
        rfl

/-- An instance that a key has got is owned by the broker. -/
theorem Moment.Arises.hasOwner {id : Nat} (arises : Moment.Arises ⟨frames, s⟩)
    (present : s.cachedId? key = some id) (reachable : s.reachable = true) :
    Broker.hasOwner s id = true := by
  have knows : s.KnowsInstances := arises.knowsInstances
  obtain ⟨implementation, label, adopted, -⟩ := knows.origin key id present
  obtain ⟨component, held, same⟩ := Option.map_eq_some_iff.mp adopted
  have owned : component.owned = true := congrArg (fun identity => identity.2.2.2) same
  rw [Broker.hasOwner, reachable, held, Option.any_some, owned]
  rfl

/-- The phase of an initializing demand is begun. -/
theorem Demand.follows {id : Nat} {u : Store}
    (construction : instanceFor key s = .finished (.ok id, u))
    (admits : u.Admits key id demand.phase) :
    Follows (demand.task key) frames s (.phase id demand.phase demand.data)
      (⟨key, id, demand.phase⟩ :: frames) (u.openPhase key id demand.phase) := by
  cases demand with
  | early data => exact .early construction admits
  | late => exact .late construction admits

theorem Demand.admits {id : Nat} {u : Store} (unready : u.isReady id = false)
    (clean : u.poisoned.get? key = none) (idle : key ∉ u.keysIn demand.phase) :
    u.Admits key id demand.phase := by
  cases demand with
  | early data => exact ⟨unready, idle⟩
  | late => exact ⟨unready, clean, idle⟩

/-- The end of the phase of a demand leaves the status of each instance. -/
theorem Demand.isInitialized_closePhase (demand : Demand) (t : Store) (key other : String)
    (id : Nat) (result : Except PhaseFault Unit) :
    (t.closePhase key id demand.phase result).isInitialized other = t.isInitialized other := by
  cases demand with
  | early data => cases result <;> rfl
  | late => cases result <;> rfl

/-- A demand that is awaited is handed over to the component of its key, which is in the state in
which it was, or new. -/
theorem Demand.hands_over {body : Body} (holds : s.HoldsOwn) (found : s.bodyAt? key = some body)
    (awaits : s.Awaits key demand) :
    ∃ id u component, instanceFor key s = .finished (.ok id, u) ∧ u.Admits key id demand.phase ∧
      Descends key s (u.openPhase key id demand.phase) ∧
      (u.openPhase key id demand.phase).cachedId? key = some id ∧
      (u.openPhase key id demand.phase).instance? id = some component ∧ component.body = body ∧
      component.initialized = false ∧
      (∀ phase, component.nextRun phase = s.runOf key phase) ∧
      (u.openPhase key id demand.phase).poisoned.get? key = none ∧
      (u.openPhase key id demand.phase).HoldsOwn := by
  obtain ⟨id, u, component, construction, descends, present, held, same, status, runs, records,
    keys, holdsThen⟩ := instanceFor_bodyAt? holds found
  have uninitialized : component.initialized = false := status.trans awaits.uninitialized
  have unready : u.isReady id = false := by
    rw [Store.isReady, held, Option.any_some, uninitialized]
  have admits : u.Admits key id demand.phase := by
    refine Demand.admits unready ?_ ?_
    · rw [records]
      exact awaits.clean
    · rw [keys]
      exact awaits.idle
  refine ⟨id, u, component, construction, admits, descends.trans (.openPhase u key id _), ?_, ?_,
    same, uninitialized, runs, ?_, ?_⟩
  · cases demand <;> exact present
  · cases demand <;> exact held
  · rw [poisoned_openPhase, records]
    exact awaits.clean
  · cases demand <;> exact holdsThen

theorem Underway.pursue {task next : Task} {inside : List Frame} {t : Store}
    (before : Underway task frames s) (pursues : Pursues task frames s next inside t) :
    Underway next inside t := by
  induction pursues with
  | here => exact before
  | step _ follows inductionHypothesis => exact inductionHypothesis.follow follows

theorem Pursues.trans {task next last : Task} {inside deeper : List Frame} {t u : Store}
    (first : Pursues task frames s next inside t) (second : Pursues next inside t last deeper u) :
    Pursues task frames s last deeper u := by
  induction second with
  | here => exact first
  | step _ follows inductionHypothesis => exact .step inductionHypothesis follows

/-- One step of the way down, and of the way up: a call on a key whose component begins with
another demand comes to the call for that one, and if that fails, then so does this one, with the
same fault. -/
theorem leads_step {next : String × Demand} (underway : Underway (demand.task key) frames s)
    (reachable : s.reachable = true) (leads : s.Leads (key, demand) next)
    (awaits : s.Awaits key demand) :
    ∃ id inside u, Pursues (demand.task key) frames s (next.2.task next.1) inside u ∧
      Descends key s u ∧ u.cachedId? key = some id ∧ u.isInitialized key = false ∧
      u.poisoned.get? key = none ∧ ∀ run fault t, next.2.FailsWith run next.1 u fault t →
        demand.FailsWith (runBody run) key s fault
          (t.closePhase key id demand.phase (.error (.nested fault))) := by
  obtain ⟨script, seen, seenData, action, onward, found, planned, demands, propagates⟩ := leads
  obtain ⟨about, asked⟩ := next
  obtain ⟨arises, -⟩ := underway.arises
  obtain ⟨id, u, component, construction, admits, descends, present, held, body, status, -, clean,
    holds⟩ := Demand.hands_over arises.holdsOwn found awaits
  let begun : Store := u.openPhase key id demand.phase
  let entered : Store := begun.enter id seen
  let within : List Frame := ⟨key, id, demand.phase⟩ :: frames
  let now : Situation := begun.situation id seen seenData
  have scripted : (begun.instance? id).map Component.body = some (.scripted script) := by
    rw [held, Option.map_some, body]
  have handed : Pursues (demand.task key) frames s (.phase id demand.phase demand.data) within
      begun :=
    .step .here (Demand.follows construction admits)
  have acting : Pursues (demand.task key) frames s (.perform now (.act action onward)) within
      entered :=
    .step handed (.entered scripted planned (enterPhase_apply id seen seenData begun))
  have owned : Broker.hasOwner entered id = true := by
    obtain ⟨inside, -⟩ := (underway.pursue acting).arises
    have reaches : entered.reachable = true := descends.reachable.trans reachable
    exact inside.hasOwner present reaches
  obtain ⟨call, calls, begins⟩ := Action.call?_of_demand? demands entered
  have asking : Pursues (demand.task key) frames s (asked.task about) within
      (asked.opening entered about) := .step acting (.called owned calls begins)
  have remarked : Undisturbed key entered (asked.opening entered about) :=
    .remarked (asked.opening_remarks entered about) key
  refine ⟨id, within, asked.opening entered about, asking, ?descends, ?present, ?uninitialized,
    remarked.record.trans clean, fun run fault t fails => ?fails⟩
  case descends =>
    exact (descends.trans (.enter holds present seen)).trans
      (.remarked (asked.opening_remarks entered about) key)
  case present => exact remarked.cachedId?.trans present
  case uninitialized =>
    have unready : begun.isInitialized key = false := by
      rw [Store.isInitialized_of_cachedId? present, Store.isReady, held, Option.any_some, status]
    have kept : entered.isInitialized key = begun.isInitialized key := by
      apply Store.isInitialized_update
      exact fun _ => rfl
    rw [remarked.isInitialized, kept, unready]
  case fails =>
    have phase : runBody run id demand.phase demand.data begun =
        .finished (.error (.nested fault), t) := by
      rw [runBody_scripted demand.phase_ne_shutdown scripted planned]
      simp only [perform, Work.bind_apply]
      rw [act_propagates demands propagates owned fails]
      rfl
    exact Demand.failsWith_of_phase construction admits phase rfl

/-- A phase that has left the instance uninitialized has failed. -/
theorem Broker.verdict_of_unready {t : Store} {id : Nat} (unready : t.isReady id = false)
    (phase : Phase) (raw : Except PhaseFault Unit) :
    ∃ fault, verdict t key id phase raw = .error fault := by
  cases raw with
  | error fault => exact ⟨fault, rfl⟩
  | ok _ => exact ⟨unmarkedFault phase key, if_neg (by simp [unready])⟩

/-- The demand ends with one and the same fault, whatever the phases of other components do, and no
other key is disturbed. -/
def Demand.FailsAlone (s : Store) (key : String) (demand : Demand) : Prop :=
  ∃ fault t, (∀ run, demand.FailsWith (runBody run) key s fault t) ∧
    ∀ other, other ≠ key → Undisturbed other s t

/-- A phase in which the component keeps to itself and does not become initialized ends a demand
with a fault. -/
theorem Demand.failsAlone_of_phase {body : Body} (holds : s.HoldsOwn)
    (found : s.bodyAt? key = some body) (awaits : s.Awaits key demand)
    (sinks : ∀ id begun component, begun.instance? id = some component → component.body = body →
      component.initialized = false → begun.surroundings = s.surroundings →
      (∀ phase, component.nextRun phase = s.runOf key phase) →
      ∃ raw v, (∀ run, runBody run id demand.phase demand.data begun = .finished (raw, v)) ∧
        Quiet (some id) begun v ∧ v.isReady id = false) :
    demand.FailsAlone s key := by
  obtain ⟨id, u, component, construction, admits, descends, present, held, same, status, runs, -,
    holdsThen⟩ := Demand.hands_over holds found awaits
  obtain ⟨raw, v, ran, quiet, unready⟩ :=
    sinks id _ component held same status descends.surroundings runs
  obtain ⟨fault, judged⟩ := verdict_of_unready unready demand.phase raw
  have still : v.cachedId? key = some id :=
    (congrArg (Entries.get? key) quiet.cached).trans present
  have holdsAfter : v.HoldsOwn := by
    rw [Store.HoldsOwn, quiet.cached, quiet.length]
    exact holdsThen
  refine ⟨fault.about key, v.closePhase key id demand.phase (.error fault), fun run => ?_,
    fun other different => ?_⟩
  · exact Demand.failsWith_of_phase construction admits (ran run) judged
  · have before := descends.others other different
    have inside : Undisturbed other _ v := .of_quiet quiet holdsThen present different
    exact (before.trans inside).trans (.closePhase holdsAfter still different demand.phase _)

/-- There is no component, and none can be built. -/
theorem Demand.failsAlone_unbuildable (absent : s.cachedId? key = none)
    (nothing : s.bodyOf? key = none) : demand.FailsAlone s key := by
  obtain ⟨result, t, construction, ending⟩ := instanceFor_ends key s
  cases ending with
  | cached present =>
      rw [absent] at present
      cases present
  | built absent assigned available =>
      rw [Store.bodyOf?, assigned, Option.bind_some, available] at nothing
      cases nothing
  | @unbuildable fault t absent nothing unresolved remark =>
      refine ⟨fault, t, fun run => ?_, fun other _ => ?_⟩
      · cases demand with
        | early data => exact earlyFrom_finished.mpr (.unbuilt construction)
        | late => exact lateFrom_finished.mpr (.unbuilt construction)
      · rcases remark with rfl | ⟨implementation, rfl⟩ <;> exact ⟨rfl, rfl, rfl⟩

/-- A script is followed that does not call the broker and does not mark its component. -/
theorem Demand.failsAlone_unmarked {script : Script} {seen : Phase} {seenData : StartupData}
    {course : Course} (holds : s.HoldsOwn) (awaits : s.Awaits key demand)
    (scripted : s.bodyAt? key = some (.scripted script))
    (planned : script.plan demand.data demand.phase = (seen, seenData, course))
    (alone : ∀ action ∈ course.reached (s.runOf key seen), ¬ action.CallsOwner)
    (unmarked : .mark ∉ course.reached (s.runOf key seen)) : demand.FailsAlone s key := by
  refine failsAlone_of_phase holds scripted awaits ?_
  intro id begun component held body status _ runs
  have number : (begun.situation id seen seenData).run = s.runOf key seen :=
    (Store.situation_run held seen seenData).trans (runs seen)
  rw [← number] at alone unmarked
  obtain ⟨raw, v, performs, acted⟩ := perform_alone alone (begun.enter id seen)
  refine ⟨raw, v, fun run => ?_, ?_, ?_⟩
  · have follows : (begun.instance? id).map Component.body = some (.scripted script) := by
      rw [held, Option.map_some, body]
    exact (runBody_scripted demand.phase_ne_shutdown follows planned).trans (performs run)
  · exact (enterPhase_quiet (enterPhase_apply id seen {} begun)).1.trans acted.quiet
  · rw [← Bool.not_eq_true]
    intro ready
    have kept : (begun.enter id seen).isReady id = begun.isReady id := by
      apply Store.isReady_update
      exact fun _ => rfl
    have before : begun.isReady id = false := by
      rw [Store.isReady, held, Option.any_some, status]
    rcases acted.ready ready with early | marks
    · exact Bool.false_ne_true (before.symm.trans (kept.symm.trans early))
    · exact unmarked marks

/-- The configuration service finds nothing to serve. -/
theorem Demand.failsAlone_unloaded {loaded : Option Deployment} {fault : LoadFault}
    (holds : s.HoldsOwn) (awaits : s.Awaits key demand)
    (serving : s.bodyAt? key = some (.configuration loaded))
    (refused : loadDeployment s.surroundings demand.data = .error fault) :
    demand.FailsAlone s key := by
  refine failsAlone_of_phase holds serving awaits ?_
  intro id begun component held body status around _
  have serves : (begun.instance? id).map Component.body = some (.configuration loaded) := by
    rw [held, Option.map_some, body]
  rw [← around] at refused
  refine ⟨.error (.failed "Failed to load configuration" (some (.load fault))), begun,
    fun run => ?_, Quiet.refl _ begun, ?_⟩
  · cases demand with
    | early data =>
        have missing : loadDeployment begun.surroundings data = .error fault := refused
        simp [runBody, serves, startConfiguration, missing, Demand.phase, Demand.data]
    | late =>
        have missing : loadDeployment begun.surroundings {} = .error fault := refused
        simp [runBody, serves, startConfiguration, missing, Demand.phase]
  · rw [Store.isReady, held, Option.any_some, status]

/-- The end of the way down: the last demand is not met, and nothing happens to the other keys. -/
theorem sinks_end (holds : s.HoldsOwn) (sinks : s.Sinks key demand) (awaits : s.Awaits key demand) :
    demand.FailsAlone s key := by
  cases sinks with
  | unbuildable absent nothing => exact Demand.failsAlone_unbuildable absent nothing
  | unmarked scripted planned alone unmarked =>
      exact Demand.failsAlone_unmarked holds awaits scripted planned alone unmarked
  | unloaded serving refused => exact Demand.failsAlone_unloaded holds awaits serving refused

end Steps

theorem Demand.FailsWith.moves {run : PhaseRunner} {key : String} {demand : Demand} {s t : Store}
    {fault : BrokerFault} (fails : demand.FailsWith run key s fault t) (faithful : Faithful run)
    (frames : List Frame) : Moves ⟨frames, s⟩ ⟨frames, t⟩ := by
  cases demand with
  | early data => exact (earlyFrom_finished.mp fails).moves faithful (supplies_instanceFor key s)
  | late => exact (lateFrom_finished.mp fails).moves faithful (supplies_instanceFor key s)

/-- A key that a fault has passed on its way up is not initialized.  It is poisoned with the line
for the fault if it was to be ready, and not poisoned if it was to be initialized early. -/
def Store.PassedBy (t : Store) (fault : BrokerFault) (link : String × Demand) : Prop :=
  t.isInitialized link.1 = false ∧
    t.poisoned.get? link.1 =
      match link.2 with
      | .early _ => none
      | .late => some (Fault.broker fault).chain

theorem Undisturbed.passedBy {s t : Store} {fault : BrokerFault} {link : String × Demand}
    (same : Undisturbed link.1 s t) (passed : s.PassedBy fault link) : t.PassedBy fault link :=
  ⟨same.isInitialized.trans passed.1, same.record.trans passed.2⟩

/-- What the end of its phase leaves of a key when a fault comes up to it. -/
theorem Store.passedBy_closePhase {t : Store} {key : String} {demand : Demand} {id : Nat}
    {fault : BrokerFault} (uninitialized : t.isInitialized key = false)
    (clean : t.poisoned.get? key = none) :
    (t.closePhase key id demand.phase (.error (.nested fault))).PassedBy fault (key, demand) := by
  refine ⟨(demand.isInitialized_closePhase t key key id _).trans uninitialized, ?_⟩
  cases demand with
  | early data => exact clean
  | late =>
      have put := Entries.get?_put key key (Fault.phase (.nested fault)).chain t.poisoned
      have line := congrArg some (Fault.chain_nested fault)
      exact (put.trans (if_pos rfl)).trans line

/-- A fault comes up unchanged through any number of components that pass it on.

Let a chain of keys lead from one to the next, in whatever mixture of early and late demands, and
let the broker have no reason to refuse any of them.  If the component of the last key cannot be
built, or follows its phase without a call on the broker and without marking itself, then the call
on the first key comes to the call on the last key; that ends with a fault, and the call on the
first key ends with the same fault.  Afterwards no key on the way is initialized, and each of them
is poisoned with the line for that fault if it was to be ready, and not poisoned if it was to be
initialized early. -/
theorem fault_surfaces {outer : List (String × Demand)} {first last : String × Demand}
    {frames : List Frame} {s : Store} (starts : (outer ++ [last]).head? = some first)
    (underway : Underway (first.2.task first.1) frames s) (reachable : s.reachable = true)
    (distinct : ((outer ++ [last]).map Prod.fst).Nodup)
    (awaits : ∀ link ∈ outer ++ [last], s.Awaits link.1 link.2)
    (leads : (outer ++ [last]).IsChain s.Leads) (sinks : s.Sinks last.1 last.2) :
    ∃ fault inside u v t,
      Pursues (first.2.task first.1) frames s (last.2.task last.1) inside u ∧
      (∀ depth, last.2.FailsWith (runPhase (depth + 1)) last.1 u fault v) ∧
      (∀ depth, first.2.FailsWith (runPhase (depth + 1 + outer.length)) first.1 s fault t) ∧
      (∀ link ∈ outer, t.PassedBy fault link) ∧
      ∀ key, key ∉ (outer ++ [last]).map Prod.fst → Undisturbed key s t := by
  induction outer generalizing first frames s with
  | nil =>
      obtain rfl : last = first := Option.some.inj starts
      obtain ⟨arises, -⟩ := underway.arises
      obtain ⟨fault, t, fails, others⟩ :=
        sinks_end arises.holdsOwn sinks (awaits last List.mem_cons_self)
      refine ⟨fault, frames, s, t, t, .here, fun depth => fails (runPhase depth),
        fun depth => fails (runPhase depth), fun link member => absurd member List.not_mem_nil, ?_⟩
      exact fun key outside => others key fun same => outside (same ▸ List.mem_cons_self)
  | cons link rest inductionHypothesis =>
      obtain rfl : link = first := Option.some.inj starts
      obtain ⟨next, tail, split⟩ : ∃ next tail, rest ++ [last] = next :: tail :=
        List.exists_cons_of_ne_nil (List.append_ne_nil_of_right_ne_nil rest (List.cons_ne_nil _ _))
      obtain ⟨fresh, distinct⟩ := List.nodup_cons.mp distinct
      have apart : ∀ other ∈ rest ++ [last], other.1 ≠ link.1 := by
        intro other member same
        exact fresh (same ▸ List.mem_map_of_mem member)
      rw [List.cons_append, split, List.isChain_cons_cons, ← split] at leads
      obtain ⟨step, chain⟩ := leads
      have linkAwaits : s.Awaits link.1 link.2 := awaits link List.mem_cons_self
      obtain ⟨id, inside, u, pursues, descends, present, uninitialized, clean, comesUp⟩ :=
        leads_step underway reachable step linkAwaits
      have begun : Underway (next.2.task next.1) inside u := underway.pursue pursues
      obtain ⟨fault, deeper, w, v, t, path, innermost, fails, passed, others⟩ :=
        inductionHypothesis (by rw [split]; rfl) begun (descends.reachable.trans reachable) distinct
          (fun other member => descends.awaits (apart other member)
            (awaits other (List.mem_cons_of_mem _ member)))
          (chain.imp_of_mem_imp fun one other member _ => descends.leads (apart one member))
          (descends.sinks (apart last (List.mem_append_right _ List.mem_cons_self)) sinks)
      have kept : Undisturbed link.1 u t := others link.1 fresh
      have holds : t.HoldsOwn := by
        obtain ⟨arises, -⟩ := begun.arises
        exact (arises.trans ((fails 0).moves (runPhase_faithful _) inside)).holdsOwn
      have still : t.cachedId? link.1 = some id := kept.cachedId?.trans present
      have closing : ∀ key, key ≠ link.1 → Undisturbed key t
          (t.closePhase link.1 id link.2.phase (.error (.nested fault))) :=
        fun key different => .closePhase holds still different _ _
      refine ⟨fault, deeper, w, v, _, pursues.trans path, innermost,
        fun depth => comesUp _ fault t (fails depth), fun other member => ?passed,
        fun key outside => ?others⟩
      case passed =>
        rcases List.mem_cons.mp member with rfl | later
        · exact Store.passedBy_closePhase (kept.isInitialized.trans uninitialized)
            (kept.record.trans clean)
        · exact (closing other.1 (apart other (List.mem_append_left _ later))).passedBy
            (passed other later)
      case others =>
        obtain ⟨different, absent⟩ := not_or.mp fun member => outside (List.mem_cons.mpr member)
        exact ((descends.others key different).trans (others key absent)).trans
          (closing key different)

/-- The body of a component that has its broker do one thing about another key, in every phase, and
passes faults on. -/
def Body.forwarding (action : Action) : Body :=
  .scripted { early := some (.straight [action]), late := some (.straight [action]) }

/-- A broker of three components that wait for each other in a row, of which the last one does
nothing about its status. -/
def Store.row : Store :=
  { registry :=
      { recipes := [("a", .build (.forwarding (.resolve "b" .propagate))),
          ("b", .build (.forwarding (.early "c" .propagate))),
          ("c", .build (.forwarding (.log "idle")))] } }

/-- The first is initialized early and passes the fault on without a record, and the second is to
be ready and gets one. -/
theorem fault_surfaces_row :
    ∃ fault t, (∀ depth, earlyFrom (runPhase (depth + 1 + 2)) (instanceFor "a") "a" {} Store.row =
        .finished (.error fault, t)) ∧
      t.isInitialized "a" = false ∧ t.poisoned.get? "a" = none ∧
      t.isInitialized "b" = false ∧
      t.poisoned.get? "b" = some (Fault.broker fault).chain := by
  have fresh : Underway .idle [] Store.row := .fresh ⟨rfl, rfl, rfl, rfl, rfl, rfl⟩
  have asked : Underway (.early (instanceFor "a") "a" {}) [] Store.row :=
    @Underway.asked _ _ (.early "a" {}) _ fresh trivial rfl
  have awaits : ∀ link ∈ [("a", Demand.early {}), ("b", .late)] ++ [("c", .early {})],
      Store.row.Awaits link.1 link.2 := by
    intro link member
    rcases member with _ | ⟨_, _ | ⟨_, _ | ⟨_, none⟩⟩⟩
    · exact ⟨rfl, rfl, List.not_mem_nil⟩
    · exact ⟨rfl, rfl, List.not_mem_nil⟩
    · exact ⟨rfl, rfl, List.not_mem_nil⟩
    · cases none
  have first : Store.row.Leads ("a", .early {}) ("b", .late) := ⟨_, _, _, _, _, rfl, rfl, rfl, rfl⟩
  have second : Store.row.Leads ("b", .late) ("c", .early {}) := ⟨_, _, _, _, _, rfl, rfl, rfl, rfl⟩
  have sinks : Store.row.Sinks "c" (.early {}) := by
    refine .unmarked rfl rfl ?_ ?_
    · rintro action (_ | ⟨_, none⟩)
      · exact id
      · cases none
    · rintro (_ | ⟨_, none⟩)
      cases none
  obtain ⟨fault, inside, u, v, t, -, -, fails, passed, -⟩ :=
    @fault_surfaces [("a", .early {}), ("b", .late)] ("a", .early {}) ("c", .early {}) [] Store.row
      rfl asked rfl (by decide) awaits
      (List.isChain_cons_cons.mpr ⟨first, List.isChain_cons_cons.mpr ⟨second, .singleton _⟩⟩) sinks
  obtain ⟨early, clean⟩ := passed ("a", .early {}) List.mem_cons_self
  obtain ⟨late, record⟩ := passed ("b", .late) (List.mem_cons_of_mem _ List.mem_cons_self)
  exact ⟨fault, t, fails, early, clean, late, record⟩

end ServiceLifecycle
