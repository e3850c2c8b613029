/-
Module: ServiceLifecycle.Proofs.Startup.Completion
Purpose: When all services have started without a failure, all of them are up and stay up.
Main exports: Broker.startFailures, earlyEach_collecting, earlyEach_failFast_iff,
  startFailures_initialized, earlyAllBy_complete, bulk_start_lasts
-/
import ServiceLifecycle.Proofs.Broker.Constancy
import ServiceLifecycle.Proofs.Broker.Registration

namespace ServiceLifecycle

/-!
A service is initialized at the end of its turn, if the turn is no failure, and no phase is in
progress then.  Later turns may lead to calls on it, but as long as the broker does not start its
shutdown, nobody but itself could change its status, and it does not get to act.  So when the
common start has come to its end without a failure and without a shutdown, every service that
takes part in it is initialized, also one that a service before it has needed.

Whether a service takes part is read from the provider at its turn.  A provider that is a component
may have been initialized in the meantime, but before that it serves nothing, and then every
service takes part.
-/

open Broker

/-- The service takes part in the common start. -/
def Store.isEnrolled (s : Store) (name : String) : Bool :=
  (s.sectionOf name).flag earlySetting true

namespace Broker

/-- Start services in order as the common start does that goes on after a failure, and collect the
services whose turn fails, each with its fault. -/
def startFailures (run : PhaseRunner) (data : StartupData) :
    List String → Work (List (String × BrokerFault))
  | [] => pure []
  | name :: rest => do
      if (← get).isEnrolled name then
        match ← earlyBy run name data with
        | .ok () => startFailures run data rest
        | .error fault =>
            modify fun store => store.reportFault (.broker fault)
            return (name, fault) :: (← startFailures run data rest)
      else
        startFailures run data rest

end Broker

section Failures

variable {run : PhaseRunner} {data : StartupData} {s t : Store}

/-- What happens at the turn of a service, and then in the rest of the walk. -/
theorem startFailures_cons {name : String} {rest : List String} :
    startFailures run data (name :: rest) s =
      if s.isEnrolled name then
        (earlyBy run name data s).andThen fun asked =>
          match asked with
          | (.ok (), u) => startFailures run data rest u
          | (.error fault, u) =>
              (startFailures run data rest (u.reportFault (.broker fault))).andThen fun collected =>
                .finished ((name, fault) :: collected.1, collected.2)
      else
        startFailures run data rest s := by
  simp only [startFailures, Work.bind_apply, Work.get_apply, Outcome.andThen_finished]
  split
  · rw [Work.bind_apply]
    congr 1
    funext asked
    obtain ⟨answer, u⟩ := asked
    cases answer <;> rfl
  · rfl

theorem earlyEach_cons {failFast : Bool} {name : String} {rest : List String} :
    earlyEach run data failFast (name :: rest) s =
      if s.isEnrolled name then
        (earlyBy run name data s).andThen fun asked =>
          match asked with
          | (.ok (), u) => earlyEach run data failFast rest u
          | (.error fault, u) =>
              if failFast then .finished (.error fault, u)
              else earlyEach run data failFast rest (u.reportFault (.broker fault))
      else
        earlyEach run data failFast rest s := by
  simp only [earlyEach, Work.bind_apply, Work.get_apply, Outcome.andThen_finished]
  by_cases enrolled : s.isEnrolled name = true
  · have set : (s.sectionOf name).flag earlySetting true = true := enrolled
    rw [if_pos enrolled, if_pos set, Work.bind_apply]
    congr 1
    funext asked
    obtain ⟨answer, u⟩ := asked
    cases answer <;> cases failFast <;> rfl
  · have unset : ¬ (s.sectionOf name).flag earlySetting true = true := enrolled
    rw [if_neg enrolled, if_neg unset]

/-- The start that goes on after a failure does what collecting the failures does. -/
theorem earlyEach_collecting (names : List String) (s : Store) :
    earlyEach run data false names s =
      (startFailures run data names s).andThen
        fun collected => .finished (.ok (), collected.2) := by
  induction names generalizing s with
  | nil => rfl
  | cons name rest inductionHypothesis =>
      rw [earlyEach_cons, startFailures_cons]
      split
      · cases earlyBy run name data s with
        | finished asked =>
            obtain ⟨answer, u⟩ := asked
            cases answer with
            | ok _ => exact inductionHypothesis u
            | error fault =>
                simp only [Outcome.andThen_finished, Bool.false_eq_true, if_false,
                  inductionHypothesis]
                cases startFailures run data rest (u.reportFault (.broker fault)) <;> rfl
        | _ => rfl
      · exact inductionHypothesis s

/-- The start that ends with the first failure succeeds when there is no failure to collect. -/
theorem earlyEach_failFast_iff (names : List String) (s t : Store) :
    earlyEach run data true names s = .finished (.ok (), t) ↔
      startFailures run data names s = .finished ([], t) := by
  induction names generalizing s with
  | nil => simp [earlyEach, startFailures]
  | cons name rest inductionHypothesis =>
      rw [earlyEach_cons, startFailures_cons]
      split
      · cases earlyBy run name data s with
        | finished asked =>
            obtain ⟨answer, u⟩ := asked
            cases answer with
            | ok _ => exact inductionHypothesis u
            | error fault =>
                simp only [Outcome.andThen_finished, if_true]
                cases startFailures run data rest (u.reportFault (.broker fault)) <;>
                  simp [Outcome.andThen]
        | _ => simp [Outcome.andThen]
      · exact inductionHypothesis s

/-- One turn and the rest of a walk without a failure. -/
theorem startFailures_none {name : String} {rest : List String}
    (walked : startFailures run data (name :: rest) s = .finished ([], t)) :
    (s.isEnrolled name = true ∧
      ∃ u, earlyBy run name data s = .finished (.ok (), u) ∧
        startFailures run data rest u = .finished ([], t)) ∨
    (s.isEnrolled name = false ∧
      startFailures run data rest s = .finished ([], t)) := by
  rw [startFailures_cons] at walked
  split at walked
  · rename_i enrolled
    obtain ⟨⟨answer, u⟩, asked, following⟩ := Outcome.andThen_eq_finished.mp walked
    cases answer with
    | ok _ => exact .inl ⟨enrolled, u, asked, following⟩
    | error fault =>
        obtain ⟨_, _, same⟩ := Outcome.andThen_eq_finished.mp following
        cases same
  · rename_i spared
    exact .inr ⟨Bool.eq_false_iff.mpr spared, walked⟩

theorem startFailures_moves {depth : Nat} {names : List String}
    {failures : List (String × BrokerFault)}
    (walked : startFailures (runPhase depth) data names s = .finished (failures, t)) :
    Moves ⟨[], s⟩ ⟨[], t⟩ ∧ ∀ asked, Deeds data asked s t := by
  have started : earlyEach (runPhase depth) data false names s = .finished (.ok (), t) := by
    rw [earlyEach_collecting, walked]
    rfl
  exact ⟨earlyEach_moves (runPhase_faithful depth) started,
    fun _ => earlyEach_deeds (runPhase_accountable data depth) started⟩

end Failures

section Walk

variable {data : StartupData} {depth : Nat} {s t : Store} {name : String}

/-- A service that takes part after a while without shutdowns takes part now: a provider that
serves something goes on serving it, and one that serves nothing has no service opt out. -/
theorem enrolled_of_later (holds : s.HoldsProvider) (moves : Moves ⟨[], s⟩ ⟨[], t⟩)
    (arrangement : t.arrangement = s.arrangement) (spared : t.shutdowns = s.shutdowns)
    (enrolled : t.isEnrolled name = true) :
    s.isEnrolled name = true := by
  have registry : t.registry = s.registry := congrArg Arrangement.registry arrangement
  have provider : t.provider = s.provider := congrArg Arrangement.provider arrangement
  by_cases serving : ∀ id, s.provider = some (.component id) → s.isReady id = true
  · rw [Store.isEnrolled, Store.sectionOf_eq registry provider ?served] at enrolled
    · exact enrolled
    case served =>
      intro id provided
      have kept := (Moves.isReady_eq moves (serving id provided) (by rw [spared])).1
      rw [Store.deploymentOf?, kept, Store.deploymentOf?]
  · obtain ⟨id, rest⟩ := Classical.not_forall.mp serving
    obtain ⟨provided, unready⟩ := Classical.not_imp.mp rest
    obtain ⟨component, held, serves⟩ := holds id provided
    have idle : component.deployment? = none := by
      refine serves.resolve_left fun initialized => unready ?_
      simp [Store.isReady, held, initialized]
    have bare : s.sectionOf name = [] := by
      rw [Store.sectionOf, provided]
      cases s.registry.capability with
      | component => rfl
      | service => simp [Provider.configuration, deployment?_of_held held, idle]
    rw [Store.isEnrolled, bare]
    rfl

theorem Store.HoldsProvider.later {given : StartupData} {asked : String → Prop}
    (holds : s.HoldsProvider) (deeds : Deeds given asked s t) : t.HoldsProvider := by
  intro id provided
  have same : s.provider = some (.component id) :=
    (congrArg Arrangement.provider deeds.arrangement).symm.trans provided
  obtain ⟨component, held, serves⟩ := holds id same
  exact deeds.servesReady held serves

/-- After a walk without a failure and without a shutdown, the services that take part in it are
initialized. -/
theorem startFailures_initialized {names : List String} (holds : s.HoldsProvider)
    (walked : startFailures (runPhase depth) data names s = .finished ([], t))
    (spared : t.shutdowns = s.shutdowns) (member : name ∈ names)
    (enrolled : t.isEnrolled name = true) :
    t.isInitialized name = true := by
  induction names generalizing s with
  | nil => cases member
  | cons first rest inductionHypothesis =>
      have whole := startFailures_moves walked
      rcases startFailures_none walked with ⟨-, u, asked, following⟩ | ⟨opted, following⟩
      · have turn : Moves ⟨[], s⟩ ⟨[], u⟩ := earlyBy_moves (runPhase_faithful depth) asked
        have done : Deeds data (fun _ => False) s u :=
          earlyBy_deeds (runPhase_accountable data depth) (.inl rfl) asked
        obtain ⟨remaining, deeds⟩ := startFailures_moves following
        have still : t.shutdowns = u.shutdowns := (Moves.shutdowns_eq turn remaining spared).2
        rcases List.mem_cons.mp member with rfl | later
        · obtain ⟨id, present, ready⟩ := earlyBy_ready asked
          have kept := (Moves.isReady_eq remaining ready (by rw [still])).2
          exact Store.isInitialized_iff.mpr
            ⟨id, (deeds fun _ => False).cachedId? present, kept⟩
        · exact inductionHypothesis (holds.later done) following still later
      · rcases List.mem_cons.mp member with rfl | later
        · have taking := enrolled_of_later holds whole.1 (whole.2 fun _ => False).arrangement spared
            enrolled
          rw [opted] at taking
          cases taking
        · exact inductionHypothesis holds following spared later

end Walk

section Again

variable {run : PhaseRunner} {data : StartupData} {failFast : Bool} {s : Store}

/-- The notice at the turn of a service. -/
def startNotice (name : String) : String := "Start initializing service (early): " ++ name

/-- The services that take part in the common start. -/
def Store.enrolled (s : Store) : List String :=
  s.serviceNames.filter s.isEnrolled

theorem announce_service {name : String} (service : s.registry.capability = .service) :
    announce s name = s.notice (startNotice name) :=
  if_pos service

/-- A walk over services that are up only announces them. -/
theorem earlyEach_initialized {names : List String} (service : s.registry.capability = .service)
    (up : ∀ name ∈ names, s.isEnrolled name = true →
      s.isInitialized name = true) :
    earlyEach run data failFast names s = .finished (.ok (), s.notices
      ((names.filter s.isEnrolled).map startNotice)) := by
  induction names generalizing s with
  | nil => rfl
  | cons name rest inductionHypothesis =>
      have remaining : ∀ other ∈ rest, s.isEnrolled other = true →
          s.isInitialized other = true :=
        fun other member => up other (List.mem_cons_of_mem _ member)
      rw [earlyEach_cons]
      by_cases enrolled : s.isEnrolled name = true
      · rw [if_pos enrolled, earlyBy_initialized (up name List.mem_cons_self enrolled),
          announce_service service, List.filter_cons_of_pos enrolled, List.map_cons,
          Store.notices_cons]
        exact @inductionHypothesis (s.notice (startNotice name)) service remaining
      · rw [if_neg enrolled, List.filter_cons_of_neg enrolled]
        exact inductionHypothesis service remaining

/-- When all services that take part are up, the common start says so and does nothing else. -/
theorem earlyAllBy_complete (service : s.registry.capability = .service)
    (up : ∀ name ∈ s.serviceNames, s.isEnrolled name = true →
      s.isInitialized name = true) :
    earlyAllBy run data failFast s = .finished (.ok (),
      s.notices (s.enrolled.map startNotice ++ ["Finished initializing all services"])) := by
  rw [earlyAllBy_apply, earlyEach_initialized service up, Store.notices_append, Store.notices_cons]
  rfl

end Again

theorem earlyAllBy_ok {run : PhaseRunner} {data : StartupData} {failFast : Bool} {s t : Store}
    (finished : earlyAllBy run data failFast s = .finished (.ok (), t)) :
    ∃ u, earlyEach run data failFast s.serviceNames s = .finished (.ok (), u) ∧
      t = u.notice "Finished initializing all services" := by
  rw [earlyAllBy_apply, Outcome.andThen_eq_finished] at finished
  obtain ⟨⟨answer, u⟩, walked, rest⟩ := finished
  cases answer with
  | error fault => cases rest
  | ok _ =>
      cases rest
      exact ⟨u, walked, rfl⟩

/-- When the common start has succeeded without a failure at the turn of any service, and no
component has had anything shut down in the meantime, every registered service that does not opt
out is initialized.  Another common start right after it runs no phase, succeeds, and does nothing
but report that. -/
theorem bulk_start_lasts {s t : Store} {depth : Nat} {data : StartupData} {failFast : Bool}
    (service : s.registry.capability = .service) (holds : s.HoldsProvider)
    (finished : earlyAllBy (runPhase depth) data failFast s = .finished (.ok (), t))
    (faultless : failFast = true ∨
      ∃ u, startFailures (runPhase depth) data s.serviceNames s = .finished ([], u))
    (spared : s.IsGentle ∨ t.shutdowns = s.shutdowns) :
    t.mapping = s.mapping ∧
    (∀ name ∈ t.serviceNames, t.isEnrolled name = true → t.isInitialized name = true) ∧
    ∀ run again hasty, earlyAllBy run again hasty t = .finished (.ok (),
      t.notices (t.enrolled.map startNotice ++ ["Finished initializing all services"])) := by
  obtain ⟨u, walked, rfl⟩ := earlyAllBy_ok finished
  have collected : startFailures (runPhase depth) data s.serviceNames s = .finished ([], u) := by
    cases failFast with
    | true => exact (earlyEach_failFast_iff _ s u).mp walked
    | false =>
        obtain ⟨v, none⟩ := faultless.resolve_left (by simp)
        rw [earlyEach_collecting, none] at walked
        cases walked
        exact none
  have deeds : Deeds data (fun _ => False) s u := (startFailures_moves collected).2 _
  have unshut : u.shutdowns = s.shutdowns := by
    rcases spared with gentle | same
    · exact (deeds.shutdowns_eq (fun _ => id) gentle).2
    · exact same
  have registry : u.registry = s.registry := congrArg Arrangement.registry deeds.arrangement
  have mapping : u.mapping = s.mapping := congrArg Arrangement.mapping deeds.arrangement
  have services : u.registry.capability = .service := registry ▸ service
  have up : ∀ name ∈ u.serviceNames, u.isEnrolled name = true → u.isInitialized name = true := by
    intro name member enrolled
    rw [Store.serviceNames, mapping] at member
    exact startFailures_initialized holds collected unshut member enrolled
  refine ⟨mapping, up, fun run again hasty => earlyAllBy_complete ?_ ?_⟩
  · exact services
  · exact up

/-- Three services: the first has the second made ready while it changes its own status back and
forth, and the third opts out. -/
def Store.staggered : Store :=
  { registry :=
      { capability := .service
        recipes :=
          [("A", .build (.scripted
              { early := some (.straight [.mark, .unmark, .resolve "b" .propagate, .mark]) })),
            ("B", .build (.scripted { late := some (.straight [.mark, .early "a" .ignore]) })),
            ("C", .build .plain)] }
    mapping := { entries := [("a", "A"), ("b", "B"), ("c", "C")] }
    provider := some (.inMemory
      (({} : InMemory).settings "c" (.table [(earlySetting, .bool false)]))) }

/-- The first two are initialized, and starting all of them again only reports that. -/
theorem bulk_start_lasts_staggered :
    ∃ t, earlyAllBy (runPhase 2) {} true Store.staggered = .finished (.ok (), t) ∧
      t.isInitialized "a" = true ∧ t.isInitialized "b" = true ∧ t.isInitialized "c" = false ∧
      earlyAllBy (runPhase 0) {} false t = .finished (.ok (), t.notices
        [startNotice "a", startNotice "b", "Finished initializing all services"]) := by
  have succeeds : (earlyAllBy (runPhase 2) {} true Store.staggered).success?.any (fun t =>
      t.enrolled = ["a", "b"] ∧ t.shutdowns = [] ∧ t.isInitialized "c" = false) = true := by
    decide +kernel
  obtain ⟨t, success, outcome⟩ := (Option.any_eq_true _ _).mp succeeds
  obtain ⟨⟨⟩, finished⟩ := Outcome.success?_eq_some.mp success
  obtain ⟨enrolled, spared, opted⟩ := of_decide_eq_true outcome
  have holds : Store.staggered.HoldsProvider := fun _ provided => by cases provided
  obtain ⟨-, up, again⟩ := bulk_start_lasts rfl holds finished (.inl rfl) (.inr spared)
  have taking : ∀ name ∈ ["a", "b"], t.isInitialized name = true := by
    intro name member
    obtain ⟨registered, taking⟩ := List.mem_filter.mp (enrolled ▸ member)
    exact up name registered taking
  have reported := again (runPhase 0) {} false
  rw [enrolled] at reported
  exact ⟨t, finished, taking "a" (by simp), taking "b" (by simp), opted, reported⟩

end ServiceLifecycle
