/-
Module: ServiceLifecycle.Proofs.Locality.Poise
Purpose: Initializations and shutdowns are balanced in every history of orderly components.
Main exports: OrderlyHistory, Call.IsPlain, Broker.carry_sustains, Poised, Poised.follow,
  OrderlyHistory.poised, phases_balanced
-/
import ServiceLifecycle.Proofs.Locality.Balance

namespace ServiceLifecycle

/-!
A history is orderly if the components were so at all its points.  The host may change them between
its calls, and a call that is told an implementation may bring a new one in.

Between the calls all instances are settled.  Inside a call, references lead from the key of each
phase in progress to those of the phases inside it.  Since they do not run in circles, no instance
has two phases in progress, and each of those that have one has had its turn.
-/

open Broker

/-- A point in the history of a broker whose components have been orderly throughout. -/
inductive OrderlyHistory : Task → List Frame → Store → Prop where
  | fresh {s : Store} (isFresh : s.IsFresh) (orderly : s.IsOrderly) : OrderlyHistory .idle [] s
  | changed {s t : Store} (before : OrderlyHistory .idle [] s) (change : HostChange s t)
      (orderly : t.IsOrderly) : OrderlyHistory .idle [] t
  | answered {s t : Store} {call : Call} {depth : Nat} (before : OrderlyHistory .idle [] s)
      (permitted : call.IsPermitted s)
      (finished : call.carry (runPhase depth) s = .finished ((), t)) (orderly : t.IsOrderly) :
      OrderlyHistory .idle [] t
  | asked {s t : Store} {call : Call} {task : Task} (before : OrderlyHistory .idle [] s)
      (permitted : call.IsPermitted s) (begun : call.begin s = some (task, t)) :
      OrderlyHistory task [] t
  | followed {task next : Task} {frames inside : List Frame} {s t : Store}
      (before : OrderlyHistory task frames s) (follows : Follows task frames s next inside t)
      (orderly : t.IsOrderly) : OrderlyHistory next inside t

theorem OrderlyHistory.underway {task : Task} {frames : List Frame} {s : Store}
    (history : OrderlyHistory task frames s) : Underway task frames s := by
  induction history with
  | fresh isFresh orderly => exact .fresh isFresh
  | changed before change orderly inductionHypothesis => exact .changed inductionHypothesis change
  | answered before permitted finished orderly inductionHypothesis =>
      exact .answered inductionHypothesis permitted finished
  | asked before permitted begun inductionHypothesis =>
      exact .asked inductionHypothesis permitted begun
  | followed before follows orderly inductionHypothesis => exact inductionHypothesis.follow follows

/-- The call leaves the choice of implementations to the broker. -/
def Call.IsPlain : Call → Prop
  | .earlyAs _ _ _ | .resolveFrom _ _ | .constructAs _ _ => False
  | _ => True

namespace Broker

section Calls

variable {run : PhaseRunner} {construct : Work (Except BrokerFault Nat)} {key : String}
  {data : StartupData} {s t u : Store}

/-- The components stay what they are, and all instances keep their balance. -/
structure Sustains (s t : Store) : Prop where
  spares : Spares (fun _ => True) s t
  settled : ∀ id, s.Settled id → t.Settled id

theorem Sustains.refl (s : Store) : Sustains s s := ⟨.refl _ s, fun _ settled => settled⟩

theorem Sustains.trans (first : Sustains s t) (second : Sustains t u) : Sustains s u :=
  ⟨first.spares.trans second.spares,
    fun id settled => second.settled id (first.settled id settled)⟩

theorem Sustains.of_remarked (remarked : s.Remarked t) : Sustains s t :=
  ⟨.of_remarked remarked, fun _ settled => settled.of_remarked remarked⟩

theorem request_sustains {depth : Nat} (holds : s.HoldsOwn) (orderly : s.IsOrderly)
    {action : Action} {answer : Except BrokerFault Answer} (names : action.named? = some key)
    (finished : action.request (runPhase depth) data s = .finished (answer, t)) : Sustains s t :=
  ⟨request_spares (runPhase_local depth) holds s.closed_all trivial names finished,
    fun _ => request_settled (runPhase_steady depth) holds orderly names finished⟩

theorem earlyBy_sustains {depth : Nat} (holds : s.HoldsOwn) (orderly : s.IsOrderly)
    {result : Except BrokerFault Unit}
    (finished : earlyBy (runPhase depth) key data s = .finished (result, t)) : Sustains s t :=
  request_sustains holds orderly rfl (request_early .ignore finished)

theorem shutdownBy_sustains {depth : Nat} (holds : s.HoldsOwn) (orderly : s.IsOrderly)
    {ran : Bool} (finished : shutdownBy (runPhase depth) key s = .finished (ran, t)) :
    Sustains s t := by
  have asked : (Action.shutdown key).request (runPhase depth) {} s =
      .finished (.ok (.shut ran), t) :=
    Work.bind_finished.mpr ⟨ran, t, finished, rfl⟩
  exact request_sustains holds orderly rfl asked

theorem earlyEach_sustains {depth : Nat} {failFast : Bool} (holds : s.HoldsOwn)
    (orderly : s.IsOrderly) {names : List String} {result : Except BrokerFault Unit}
    (finished : earlyEach (runPhase depth) data failFast names s = .finished (result, t)) :
    Sustains s t := by
  refine earlyEach_walk (P := Sustains s) ?called ?reported (.refl s) finished
  case called =>
    exact fun name _ u v answer before _ called => before.trans (earlyBy_sustains
      (before.spares.holdsOwn holds) (before.spares.isOrderly_iff.mpr orderly) called)
  case reported => exact fun u fault before => before.trans (.of_remarked (.reported _))

theorem shutdownEach_sustains {depth : Nat} (holds : s.HoldsOwn) (orderly : s.IsOrderly)
    {names : List String} (finished : shutdownEach (runPhase depth) names s = .finished ((), t)) :
    Sustains s t := by
  refine shutdownEach_walk (P := Sustains s) ?forewarned ?called (.refl s) finished
  case forewarned =>
    exact fun u name before => before.trans (.of_remarked (forewarn_remarks u name))
  case called =>
    exact fun name _ u v ran before shut => before.trans (shutdownBy_sustains
      (before.spares.holdsOwn holds) (before.spares.isOrderly_iff.mpr orderly) shut)

/-- A component may be built for a key that had none before.  That the components are orderly
afterwards is enough, since its phase does not change what they are. -/
theorem built_settled {depth : Nat} {implementation : String} {built : Except BrokerFault Nat}
    (holds : s.HoldsOwn)
    (construction : constructAs key implementation none s = .finished (built, u))
    (served : Served (runPhase depth) key u t) (orderly : t.IsOrderly) {id : Nat}
    (settled : s.Settled id) : t.Settled id := by
  have ending := constructAs_finished construction
  have holdsThen : u.HoldsOwn := Store.HoldsOwn.of_constructEnd holds ending
  have spares := served_spares (runPhase_local depth) holdsThen u.closed_all trivial served
  exact served_settled (runPhase_steady depth) holdsThen (spares.isOrderly_iff.mp orderly) served
    (settled.of_constructEnd ending)

theorem carry_sustains {depth : Nat} {call : Call} (plain : call.IsPlain) (holds : s.HoldsOwn)
    (orderly : s.IsOrderly) (finished : call.carry (runPhase depth) s = .finished ((), t)) :
    Sustains s t := by
  cases call with
  | early key data =>
      obtain ⟨result, called⟩ := Work.finished_of_dropped finished
      exact earlyBy_sustains holds orderly called
  | resolve key =>
      obtain ⟨result, called⟩ := Work.finished_of_dropped finished
      have asked : (Action.resolve key .ignore).request (runPhase depth) {} s =
          .finished (result.map .instance, t) :=
        Work.bind_finished.mpr ⟨result, t, called, rfl⟩
      exact request_sustains holds orderly rfl asked
  | resolveAs key wanted =>
      obtain ⟨result, called⟩ := Work.finished_of_dropped finished
      have asked : (Action.resolveAs key wanted .ignore).request (runPhase depth) {} s =
          .finished (result.map .instance, t) :=
        Work.bind_finished.mpr ⟨result, t, called, rfl⟩
      exact request_sustains holds orderly rfl asked
  | shutdown key =>
      obtain ⟨ran, called⟩ := Work.finished_of_dropped finished
      exact shutdownBy_sustains holds orderly called
  | shutdownInstance key =>
      obtain ⟨ran, called⟩ := Work.finished_of_dropped finished
      have served := (shutdownInstanceBy_finished.mp called).served
      exact ⟨served_spares (runPhase_local depth) holds s.closed_all trivial served,
        fun _ => served_settled (runPhase_steady depth) holds orderly served⟩
  | construct key =>
      obtain ⟨built, called⟩ := Work.finished_of_dropped finished
      have ending := instanceFor_finished called
      exact ⟨.of_instanceEnd holds trivial ending, fun _ settled => settled.of_instanceEnd ending⟩
  | earlyAll data failFast =>
      obtain ⟨result, called⟩ := Work.finished_of_dropped finished
      obtain ⟨u, walked, remarked⟩ := earlyAllBy_ends called
      exact (earlyEach_sustains holds orderly walked).trans (.of_remarked remarked)
  | shutdownAll =>
      have noticed : Sustains s (s.notice "Shutting down all services") :=
        .of_remarked (.reported _)
      exact noticed.trans (shutdownEach_sustains (noticed.spares.holdsOwn holds)
        (noticed.spares.isOrderly_iff.mpr orderly) finished)
  | earlyAs key implementation data | resolveFrom key implementation
  | constructAs key implementation => exact plain.elim

/-- Whatever a host asks for, all instances keep their balance. -/
theorem carry_settled {depth : Nat} {call : Call} (permitted : call.IsPermitted s)
    (holds : s.HoldsOwn) (orderly : s.IsOrderly) (orderlyAfter : t.IsOrderly)
    (finished : call.carry (runPhase depth) s = .finished ((), t)) {id : Nat}
    (settled : s.Settled id) : t.Settled id := by
  cases call with
  | earlyAs key implementation data =>
      obtain ⟨result, called⟩ := Work.finished_of_dropped finished
      obtain ⟨built, u, construction, served⟩ :=
        (earlyFrom_finished.mp called).served (supplies_given permitted)
      exact built_settled holds construction served orderlyAfter settled
  | resolveFrom key implementation =>
      obtain ⟨result, called⟩ := Work.finished_of_dropped finished
      obtain ⟨built, u, construction, served⟩ :=
        (lateFrom_finished.mp called).served (supplies_given permitted)
      exact built_settled holds construction served orderlyAfter settled
  | constructAs key implementation =>
      obtain ⟨built, called⟩ := Work.finished_of_dropped finished
      exact settled.of_constructEnd (constructAs_finished called)
  | _ => exact (carry_sustains (by trivial) holds orderly finished).settled id settled

end Calls

end Broker

section Histories

variable {task next : Task} {frames inside : List Frame} {s t : Store} {key : String} {id : Nat}

/-- An instance has a phase in progress. -/
def Engaged (frames : List Frame) (id : Nat) : Prop := ∃ frame ∈ frames, frame.id = id

/-- The keys that a task is about, or may come to. -/
def Task.Concerns : Task → String → Prop
  | .early _ key _, other | .late _ key, other | .shutdown key, other => other = key
  | .perform _ course, other => course.RefersTo other
  | _, _ => False

/-- References lead from the key of each phase in progress to those of the phases inside it and to
what is about to be done.  Instances with a phase in progress have had their turn, and all others
are settled. -/
structure Poised (task : Task) (frames : List Frame) (s : Store) : Prop where
  chain : frames.Pairwise fun inner outer => Relation.TransGen s.Names outer.key inner.key
  ahead : ∀ key, task.Concerns key → s.LeadsTo (Engaged frames) key
  engaged : ∀ frame ∈ frames, Balanced frame.id false s.journal
  others : ∀ id, ¬ Engaged frames id → s.Settled id

namespace Poised

/-- When no phase is in progress, all instances are settled. -/
theorem rest_iff : Poised task [] s ↔ ∀ id, s.Settled id := by
  constructor
  · intro poised id
    exact poised.others id fun ⟨frame, member, _⟩ => absurd member List.not_mem_nil
  · intro settled
    constructor
    case chain => exact List.Pairwise.nil
    case ahead => exact fun key _ id ⟨frame, member, _⟩ => absurd member List.not_mem_nil
    case engaged => exact fun frame member => absurd member List.not_mem_nil
    case others => exact fun id _ => settled id

theorem balanced (poised : Poised task frames s) (id : Nat) :
    ∃ ready, Balanced id ready s.journal := by
  by_cases busy : Engaged frames id
  · obtain ⟨frame, member, rfl⟩ := busy
    exact ⟨false, poised.engaged frame member⟩
  · exact ⟨_, poised.others id busy⟩

/-- Something else is about to be done. -/
theorem turn (poised : Poised task frames s)
    (ahead : ∀ key, next.Concerns key → s.LeadsTo (Engaged frames) key) : Poised next frames s :=
  { poised with ahead }

/-- What keeps the balance of instances that are not in progress may happen in the meantime. -/
theorem keep (poised : Poised task frames s) (spares : Spares (fun _ => True) s t)
    (within : Within (Engaged frames) s t) : Poised task frames t := by
  constructor
  case chain =>
    rw [spares.names_eq]
    exact poised.chain
  case ahead => exact fun key concerns => spares.leadsTo (poised.ahead key concerns)
  case engaged =>
    intro frame member
    obtain ⟨events, grown, silent⟩ := within.silent
    rw [grown]
    exact (poised.engaged frame member).append fun event noted =>
      silent event noted frame.id ⟨frame, member, rfl⟩
  case others => exact fun id apart => within.others id apart (poised.others id apart)

/-- The broker hands over to a phase of the key that it has taken up. -/
theorem openPhase (poised : Poised task frames s) (holds : s.HoldsOwn) (orderly : s.IsOrderly)
    (held : ∀ frame ∈ frames, s.cachedId? frame.key = some frame.id) (concerns : task.Concerns key)
    (present : s.cachedId? key = some id) {phase : Phase} (admits : s.Admits key id phase)
    (data : StartupData) :
    Poised (.phase id phase data) (⟨key, id, phase⟩ :: frames) (s.openPhase key id phase) := by
  have leads : ∀ frame ∈ frames, Relation.TransGen s.Names frame.key key := by
    intro frame member
    obtain ⟨origin, there, path⟩ := poised.ahead key concerns frame.id ⟨frame, member, rfl⟩
    exact holds.distinct there (held frame member) ▸ path
  have idle : ¬ Engaged frames id := by
    rintro ⟨frame, member, same⟩
    have own : frame.key = key := holds.distinct (held frame member) (same ▸ present)
    exact orderly.acyclic key (own ▸ leads frame member)
  have settled : s.Settled id := poised.others id idle
  have names : (s.openPhase key id phase).Names = s.Names := by cases phase <;> rfl
  constructor
  case chain =>
    rw [names]
    exact List.pairwise_cons.mpr ⟨leads, poised.chain⟩
  case ahead => exact fun other concerns => concerns.elim
  case engaged =>
    intro frame member
    rcases List.mem_cons.mp member with rfl | outer
    · exact settled.openPhase admits
    · have apart : id ≠ frame.id := fun same => idle ⟨frame, outer, same.symm⟩
      rw [journal_openPhase]
      exact .silent (by simpa [Event.isTurnOf] using apart) (poised.engaged frame outer)
  case others =>
    intro other apart
    have different : id ≠ other := fun same => apart ⟨_, List.mem_cons_self, same⟩
    have outside : ¬ Engaged frames other := by
      rintro ⟨frame, member, same⟩
      exact apart ⟨frame, List.mem_cons_of_mem _ member, same⟩
    exact (poised.others other outside).openPhase_of_ne different phase

end Poised

theorem Call.begin_remarks {call : Call} (begun : call.begin s = some (task, t)) :
    s.Remarked t := by
  cases call with
  | early key data =>
      cases begun
      exact announce_remarks s key
  | shutdown key =>
      rw [Call.begin] at begun
      split at begun
      · cases begun
        exact .nothing
      · cases begun
  | construct key => cases begun
  | constructAs key implementation => cases begun
  | earlyAll data failFast => cases begun
  | shutdownAll => cases begun
  | _ =>
      cases begun
      exact .nothing

/-- What the broker takes up for a component is about the key that the component names. -/
theorem Action.named_of_begin {action : Action} {data : StartupData} {call : Call}
    (calls : action.call? data = some call) (begun : call.begin s = some (task, t))
    (concerns : task.Concerns key) : action.named? = some key := by
  cases action with
  | shutdown about =>
      cases calls
      rw [Call.begin] at begun
      split at begun
      · cases begun
        exact congrArg some concerns.symm
      · cases begun
  | early about onFailure | resolve about onFailure | resolveAs about wanted onFailure =>
      cases calls
      cases begun
      exact congrArg some (Eq.symm concerns)
  | _ => cases calls

/-- A call that a component makes leaves the choice of the implementation to the broker. -/
def Task.IsPlain (frames : List Frame) : Task → Prop
  | .early construct key _ | .late construct key => frames ≠ [] → construct = instanceFor key
  | _ => True

theorem Underway.isPlain (underway : Underway task frames s) : task.IsPlain frames := by
  cases underway with
  | asked before permitted begun =>
      cases task with
      | early construct key data => exact fun inside => absurd rfl inside
      | late construct key => exact fun inside => absurd rfl inside
      | _ => trivial
  | @called _ action _ _ _ _ call _ before owned calls begun =>
      cases action with
      | early about onFailure | resolve about onFailure | resolveAs about wanted onFailure =>
          cases calls
          cases begun
          exact fun _ => rfl
      | shutdown about =>
          cases calls
          rw [Call.begin] at begun
          split at begun <;> cases begun
          trivial
      | _ => cases calls
  | _ => trivial

/-- When the broker has come by the instance of the key that it has taken up, all is as before. -/
theorem Poised.built (poised : Poised task frames s) {construct : Work (Except BrokerFault Nat)}
    (holds : s.HoldsOwn) (comes : ComesBy construct key)
    (plain : frames ≠ [] → construct = instanceFor key) {result : Except BrokerFault Nat}
    (construction : construct s = .finished (result, t)) : Poised task frames t := by
  have usual : construct = instanceFor key → Poised task frames t := by
    rintro rfl
    have ending := instanceFor_finished construction
    exact poised.keep (.of_instanceEnd holds trivial ending) (.of_instanceEnd ending)
  rcases comes with same | ⟨implementation, rfl⟩
  · exact usual same
  · by_cases outside : frames = []
    · subst outside
      exact Poised.rest_iff.mpr fun id =>
        (Poised.rest_iff.mp poised id).of_constructEnd (constructAs_finished construction)
    · exact usual (plain outside)

/-- One step of a call leads from poise to poise. -/
theorem Poised.follow (poised : Poised task frames s) (underway : Underway task frames s)
    (orderly : s.IsOrderly) (follows : Follows task frames s next inside t)
    (orderlyAfter : t.IsOrderly) : Poised next inside t := by
  obtain ⟨arises, sound⟩ := underway.arises
  have holds : s.HoldsOwn := arises.holdsOwn
  have held := arises.holdsInstances
  have handOver : ∀ {construct : Work (Except BrokerFault Nat)} {key : String} {u : Store}
      {id : Nat} {phase : Phase} (data : StartupData),
      ComesBy construct key → Supplies construct key s →
      (frames ≠ [] → construct = instanceFor key) → task.Concerns key →
      construct s = .finished (.ok id, u) → u.Admits key id phase →
      (u.openPhase key id phase).IsOrderly →
      Poised (.phase id phase data) (⟨key, id, phase⟩ :: frames) (u.openPhase key id phase) := by
    intro construct key u id phase data comes supplies plain concerns construction admits after
    have arisesThen : Moment.Arises ⟨frames, u⟩ := arises.trans (supplies.moves construction frames)
    have orderlyThen : u.IsOrderly := by
      cases phase <;> exact ⟨after.marksLast, after.acyclic⟩
    exact (poised.built holds comes plain construction).openPhase arisesThen.holdsOwn orderlyThen
      arisesThen.holdsInstances concerns (supplies.present construction) admits data
  cases follows with
  | @called now action _ _ _ _ call _ owned calls begun =>
      have named : Poised next frames s := poised.turn fun key concerns =>
        poised.ahead key
          ⟨action, Course.mem_act_self, Action.named_of_begin calls begun concerns⟩
      have remarked := Call.begin_remarks begun
      exact named.keep (.of_remarked remarked) (.of_remarked remarked)
  | early construction admits =>
      exact handOver _ underway.comesBy sound underway.isPlain rfl construction admits orderlyAfter
  | late construction admits =>
      exact handOver _ underway.comesBy sound underway.isPlain rfl construction admits orderlyAfter
  | shutdown present admits => exact poised.openPhase holds orderly held rfl present admits {}
  | @entered id phase data _ _ _ script seen seenData course now scripted planned entering =>
      rw [enterPhase_apply] at entering
      cases entering
      obtain ⟨frame, top, rfl⟩ := Option.map_eq_some_iff.mp sound
      obtain ⟨outer, rfl⟩ : ∃ outer, frames = frame :: outer := by
        cases frames with
        | nil => cases top
        | cons first outer =>
            cases top
            exact ⟨outer, rfl⟩
      have present : s.cachedId? frame.key = some frame.id := held frame List.mem_cons_self
      have engaged : Engaged (frame :: outer) frame.id := ⟨frame, List.mem_cons_self, rfl⟩
      have ahead : ∀ key, (Task.perform (s.situation frame.id seen seenData) course).Concerns key →
          s.LeadsTo (Engaged (frame :: outer)) key := by
        rintro key ⟨action, member, names⟩ _ ⟨about, listed, rfl⟩
        have refers : s.Names frame.key key :=
          names_of_planned present scripted planned action member key names
        refine ⟨about.key, held about listed, ?_⟩
        rcases List.mem_cons.mp listed with rfl | beyond
        · exact .single refers
        · exact ((List.pairwise_cons.mp poised.chain).1 about beyond).tail refers
      exact (poised.turn ahead).keep (.enter trivial present seen) (.enter engaged seen s)
  | @proceeded now action next heard _ _ _ depth done =>
      obtain ⟨frame, top, same⟩ := Option.map_eq_some_iff.mp sound
      have member : frame ∈ frames := List.mem_of_mem_head? top
      have present : s.cachedId? frame.key = some now.id := same ▸ held frame member
      have leads : ∀ other, action.named? = some other → s.LeadsTo (Engaged frames) other :=
        fun other names => poised.ahead other ⟨action, Course.mem_act_self, names⟩
      have remaining : Poised (.perform now (next heard)) frames s := by
        refine poised.turn fun key concerns => poised.ahead key ?_
        obtain ⟨later, listed, names⟩ := concerns
        exact ⟨later, Course.mem_act_of_mem listed, names⟩
      obtain ⟨within, -⟩ := act_within (runPhase_steady depth) (runPhase_local depth) holds orderly
        ⟨frame, member, same⟩ leads done
      exact remaining.keep
        (act_spares (runPhase_local depth) holds s.closed_all trivial present
          (fun _ _ => trivial) done) within

/-- Components stay orderly if the broker has the choice of implementations. -/
theorem OrderlyHistory.answer {call : Call} {depth : Nat} (before : OrderlyHistory .idle [] s)
    (orderly : s.IsOrderly) (plain : call.IsPlain)
    (finished : call.carry (runPhase depth) s = .finished ((), t)) :
    OrderlyHistory .idle [] t ∧ t.IsOrderly := by
  have holds := before.underway.arises.1.holdsOwn
  have after : t.IsOrderly :=
    (carry_sustains plain holds orderly finished).spares.isOrderly_iff.mpr orderly
  have permitted : call.IsPermitted s := by cases call <;> trivial
  exact ⟨.answered before permitted finished after, after⟩

theorem OrderlyHistory.poised (history : OrderlyHistory task frames s) :
    s.IsOrderly ∧ Poised task frames s := by
  induction history with
  | @fresh s isFresh orderly =>
      refine ⟨orderly, Poised.rest_iff.mpr fun id => ?_⟩
      have unready : s.isReady id = false := by
        simp [Store.isReady, Store.instance?, isFresh.instances]
      rw [Store.Settled, unready, isFresh.journal]
      exact .start
  | changed before change orderly inductionHypothesis =>
      exact ⟨orderly, Poised.rest_iff.mpr fun id =>
        (Poised.rest_iff.mp inductionHypothesis.2 id).of_hostChange change⟩
  | answered before permitted finished orderly inductionHypothesis =>
      obtain ⟨orderlyBefore, poised⟩ := inductionHypothesis
      have holds := before.underway.arises.1.holdsOwn
      exact ⟨orderly, Poised.rest_iff.mpr fun id => carry_settled permitted holds orderlyBefore
        orderly finished (Poised.rest_iff.mp poised id)⟩
  | asked before permitted begun inductionHypothesis =>
      obtain ⟨orderly, poised⟩ := inductionHypothesis
      have remarked := Call.begin_remarks begun
      have same : Spares (fun _ => True) _ _ := .of_remarked remarked
      exact ⟨same.isOrderly_iff.mpr orderly, Poised.rest_iff.mpr fun id =>
        (Poised.rest_iff.mp poised id).of_remarked remarked⟩
  | followed before follows orderly inductionHypothesis =>
      exact ⟨orderly, inductionHypothesis.2.follow before.underway inductionHypothesis.1 follows
        orderly⟩

end Histories

/-- Let components mark themselves as initialized at the very end of their initializing phases, if
at all, and not unmark themselves there, and let references not run in circles.  They may fail and
call the broker in all phases, and do in their shutdown phases what they like.

Whenever nothing is in progress, as many initializing phases of an instance have succeeded as
shutdown phases of it have been started, and one more if it is initialized.

When a phase was started, also inside others and in calls that have not come to their end, then as
many successes and shutdowns had gone before, and one success more if it was a shutdown phase,
which was then the only one since the previous shutdown; and the instance was initialized if it was
a shutdown phase, and not initialized otherwise. -/
theorem phases_balanced {task : Task} {frames : List Frame} {s : Store}
    (history : OrderlyHistory task frames s) :
    (frames = [] → ∀ id, successes id s.journal =
      shutdowns id s.journal + if s.isReady id then 1 else 0) ∧
    ∀ key id phase earlier, .started key id phase :: earlier <:+ s.journal →
      successes id earlier = shutdowns id earlier + (if phase = .shutdown then 1 else 0) ∧
      successes id (sinceShutdown id earlier) = (if phase = .shutdown then 1 else 0) ∧
      ∃ before : Moment, Moves before ⟨frames, s⟩ ∧ before.store.journal = earlier ∧
        before.store.cachedId? key = some id ∧
        before.store.isReady id = decide (phase = .shutdown) := by
  obtain ⟨orderly, poised⟩ := history.poised
  constructor
  · rintro rfl id
    exact Balanced.count (Poised.rest_iff.mp poised id)
  · intro key id phase earlier part
    obtain ⟨ready, balanced⟩ := poised.balanced id
    have before : Balanced id (decide (phase = .shutdown)) earlier := balanced.before_started part
    refine ⟨by simpa using before.count, by simpa using before.countSince, ?_⟩
    obtain ⟨start, isFresh, moves⟩ := history.underway.arises.1
    rcases moves.started part with old | ⟨moment, -, later, same, present, admits⟩
    · rw [isFresh.journal] at old
      exact absurd old.length_le (by simp)
    · refine ⟨moment, later, same, present, ?_⟩
      cases phase with
      | early => exact admits.1
      | late => exact admits.1
      | shutdown => exact admits

/-- A component that starts another one, and shuts it down when it is shut down itself. -/
def Body.borrowing : Body :=
  .scripted
    { early := some (.straight [.early "clock" .propagate, .mark])
      shutdown := some (.straight [.shutdown "clock", .unmark]) }

/-- A broker of such a component and the other one. -/
def Store.borrowing : Store :=
  { registry :=
      { capability := .component
        recipes := [("user", .build .borrowing), ("clock", .build .plain)] } }

/-- The component has been initialized. -/
def Store.borrowed : Store := Store.borrowing.afterCall (.early "user" {})

/-- It has been shut down, and the other one with it. -/
def Store.returned : Store := Store.borrowed.afterCall (.shutdown "user")

/-- It has been initialized again, but the other one has not. -/
def Store.borrowedAgain : Store := Store.returned.afterCall (.resolve "user")

theorem borrowing_orderly : Store.borrowing.IsOrderly := by
  have found : ∀ {key body}, Store.borrowing.bodyAt? key = some body →
      key = "user" ∧ body = .borrowing ∨ key = "clock" ∧ body = .plain := by
    intro key body there
    by_cases user : key = "user"
    · subst user
      cases there
      exact .inl ⟨rfl, rfl⟩
    · by_cases clock : key = "clock"
      · subst clock
        cases there
        exact .inr ⟨rfl, rfl⟩
      · simp [Store.bodyAt?, Store.cachedInstance?, Store.cachedId?, Store.borrowing,
          Store.bodyOf?, Store.assigned?, Registry.bodyFor?, Registry.find, Registry.static?,
          Entries.get?, Ne.symm user, Ne.symm clock] at there
  constructor
  case marksLast =>
    intro key body there
    rcases found there with ⟨-, rfl⟩ | ⟨-, rfl⟩
    · intro data phase initializing
      cases phase with
      | shutdown => exact absurd rfl initializing
      | early => simp [Script.plan, Course.marksLast_straight]
      | late => simp [Script.plan, Script.lateCourse, Course.marksLast_straight]
    · trivial
  case acyclic =>
    have steps : ∀ {key other}, Store.borrowing.Names key other →
        key = "user" ∧ other = "clock" := by
      rintro key other ⟨body, there, refers⟩
      rcases found there with ⟨rfl, rfl⟩ | ⟨-, rfl⟩
      · have named : other = "clock" ∨ other = "clock" := by
          simpa [Body.borrowing, Body.refersTo_scripted, Course.refersTo_straight, Action.named?,
            eq_comm] using refers
        exact ⟨rfl, named.elim id id⟩
      · exact refers.elim
    intro key circle
    have ends : ∀ {other}, Relation.TransGen Store.borrowing.Names key other →
        key = "user" ∧ other = "clock" := by
      intro other path
      induction path with
      | single names => exact steps names
      | tail _ names inductionHypothesis =>
          obtain ⟨start, -⟩ := inductionHypothesis
          exact ⟨start, (steps names).2⟩
    obtain ⟨start, same⟩ := ends circle
    exact absurd (start.symm.trans same) (by decide)

/-- The component has been initialized twice and shut down once in between. -/
theorem phases_balanced_borrowing :
    successes 0 Store.borrowedAgain.journal = 2 ∧ shutdowns 0 Store.borrowedAgain.journal = 1 ∧
      Store.borrowedAgain.isReady 0 = true ∧
      (∀ id, successes id Store.borrowedAgain.journal =
        shutdowns id Store.borrowedAgain.journal +
          if Store.borrowedAgain.isReady id then 1 else 0) ∧
      ∀ key id earlier, .started key id .shutdown :: earlier <:+ Store.borrowedAgain.journal →
        successes id (sinceShutdown id earlier) = 1 := by
  have fresh : OrderlyHistory .idle [] Store.borrowing :=
    .fresh ⟨rfl, rfl, rfl, rfl, rfl, rfl⟩ borrowing_orderly
  obtain ⟨first, orderlyFirst⟩ :
      OrderlyHistory .idle [] Store.borrowed ∧ Store.borrowed.IsOrderly :=
    @OrderlyHistory.answer _ _ (.early "user" {}) 2 fresh borrowing_orderly trivial rfl
  obtain ⟨second, orderlySecond⟩ :
      OrderlyHistory .idle [] Store.returned ∧ Store.returned.IsOrderly :=
    @OrderlyHistory.answer _ _ (.shutdown "user") 2 first orderlyFirst trivial rfl
  obtain ⟨third, -⟩ :
      OrderlyHistory .idle [] Store.borrowedAgain ∧ Store.borrowedAgain.IsOrderly :=
    @OrderlyHistory.answer _ _ (.resolve "user") 2 second orderlySecond trivial rfl
  obtain ⟨counts, starts⟩ := phases_balanced third
  refine ⟨rfl, rfl, rfl, counts rfl, fun key id earlier part => ?_⟩
  exact (starts key id .shutdown earlier part).2.1

end ServiceLifecycle
