/-
Module: ServiceLifecycle.Proofs.Locality.Twins
Purpose: The same call on brokers that agree on what it refers to has the same outcome in both.
Main exports: Alike, SameInstance, SameAnswer, Broker.Parallel, Broker.request_alike,
  Broker.runPhase_parallel
-/
import ServiceLifecycle.Proofs.Locality.Agreement

namespace ServiceLifecycle

/-!
The two runs are followed side by side.  Whatever the broker or a component looks at is the same
in both, so that they take the same way: they end in results that are the same up to the numbers
of instances, or both block for the same key, stop the program, or nest too deep.
-/

open Broker

/-- Two computations end in the same way, and if they finish, with related results. -/
inductive Alike {α β : Type} (R : α → β → Prop) : Outcome α → Outcome β → Prop where
  | finished {a : α} {b : β} (related : R a b) : Alike R (.finished a) (.finished b)
  | blocked (key : String) : Alike R (.blocked key) (.blocked key)
  | stopped : Alike R .stopped .stopped
  | exhausted : Alike R .exhausted .exhausted

section Alike

variable {α β γ δ : Type} {R : α → β → Prop} {Q : γ → δ → Prop} {first : Outcome α}
  {second : Outcome β}

theorem Alike.andThen {next : α → Outcome γ} {again : β → Outcome δ} (alike : Alike R first second)
    (follows : ∀ a b, first = .finished a → second = .finished b → R a b →
      Alike Q (next a) (again b)) :
    Alike Q (first.andThen next) (second.andThen again) := by
  cases alike with
  | finished related => exact follows _ _ rfl rfl related
  | blocked key => exact .blocked key
  | stopped => exact .stopped
  | exhausted => exact .exhausted

theorem Alike.mono {P : α → β → Prop} (alike : Alike R first second)
    (weaker : ∀ a b, R a b → P a b) : Alike P first second := by
  cases alike with
  | finished related => exact .finished (weaker _ _ related)
  | blocked key => exact .blocked key
  | stopped => exact .stopped
  | exhausted => exact .exhausted

end Alike

/-- The results are equal and the stores still twins. -/
def Same (S : String → Prop) {α : Type} (a b : α × Store) : Prop :=
  b.1 = a.1 ∧ Twin S a.2 b.2

/-- The same fault, or the instances that the key has in both. -/
inductive SameInstance (key : String) (s t : Store) :
    Except BrokerFault Nat → Except BrokerFault Nat → Prop where
  | fault (fault : BrokerFault) : SameInstance key s t (.error fault) (.error fault)
  | found {id other : Nat} (first : s.cachedId? key = some id)
      (second : t.cachedId? key = some other) : SameInstance key s t (.ok id) (.ok other)

/-- The same answer, up to the number of the instance that the key has. -/
inductive SameAnswer (key : String) (s t : Store) :
    Except BrokerFault Answer → Except BrokerFault Answer → Prop where
  | fault (fault : BrokerFault) : SameAnswer key s t (.error fault) (.error fault)
  | done : SameAnswer key s t (.ok .done) (.ok .done)
  | found {id other : Nat} (first : s.cachedId? key = some id)
      (second : t.cachedId? key = some other) :
      SameAnswer key s t (.ok (.instance id)) (.ok (.instance other))
  | shut (ran : Bool) : SameAnswer key s t (.ok (.shut ran)) (.ok (.shut ran))

theorem SameInstance.toAnswer {key : String} {s t : Store} {result again : Except BrokerFault Nat}
    (same : SameInstance key s t result again) :
    SameAnswer key s t (result.map .instance) (again.map .instance) := by
  cases same with
  | fault fault => exact .fault fault
  | found first second => exact .found first second

/-- A component makes the same of answers that are the same. -/
theorem SameAnswer.heed {key : String} {s t : Store} {answer again : Except BrokerFault Answer}
    (same : SameAnswer key s t answer again) (action : Action) :
    action.heed again = action.heed answer := by
  cases same with
  | fault fault => rfl
  | done => rfl
  | found first second => cases action <;> rfl
  | shut ran => rfl

namespace Broker

/-- What comes of building an instance for a key that has none. -/
def buildFor (s : Store) (key implementation : String) (name : Option String) :
    Except BrokerFault Nat × Store :=
  let capability := s.registry.capability.name
  match s.registry.find implementation with
  | .nothing => (.error (.ofReason key .unavailable implementation capability), s)
  | .unfit =>
      (.error (.ofConstruction key implementation capability (.mismatch capability)), s)
  | .recipe (.refuse fault) =>
      (.error (.ofConstruction key implementation capability fault),
        s.note (.refused implementation))
  | .recipe (.build body) | .entry body =>
      (.ok s.instances.length, s.construct key implementation name body)

theorem constructAs_absent {key : String} {s : Store} (absent : s.cachedId? key = none)
    (implementation : String) (name : Option String) :
    constructAs key implementation name s = .finished (buildFor s key implementation name) := by
  cases finding : s.registry.find implementation with
  | nothing => simp [constructAs, build, absent, buildFor, finding]
  | unfit => simp [constructAs, build, absent, buildFor, finding]
  | entry body =>
      simp [constructAs, build, absent, buildFor, finding]
      exact ⟨rfl, rfl⟩
  | recipe recipe =>
      cases recipe with
      | build body =>
          simp [constructAs, build, absent, buildFor, finding]
          exact ⟨rfl, rfl⟩
      | refuse fault => simp [constructAs, build, absent, buildFor, finding]

/-- How the search for the instance of a key that has none ends, with everything that it depends
on. -/
theorem instanceFor_absent {key : String} {s : Store} (absent : s.cachedId? key = none) :
    (∀ implementation name, s.assigned? key = some (implementation, name) →
      instanceFor key s = .finished (buildFor s key implementation name)) ∧
    (s.assigned? key = none → instanceFor key s = .finished (.error (.unknownService key), s)) := by
  constructor
  · intro implementation name assigned
    rw [instanceFor_assigned assigned, constructAs_absent absent]
  · intro unassigned
    rw [instanceFor_unassigned unassigned, absent]

/-- Phases of instances that a key of a closed set has in twins end alike. -/
def Parallel (run : PhaseRunner) : Prop :=
  ∀ (S : String → Prop) s t, Twin S s t → ∀ key id other, S key → s.cachedId? key = some id →
    t.cachedId? key = some other → ∀ phase data,
      Alike (Same S) (run id phase data s) (run other phase data t)

section Walk

variable {run : PhaseRunner} {S : String → Prop} {key : String} {id other : Nat} {s t : Store}
  {data : StartupData}

theorem instanceFor_alike (twin : Twin S s t) (own : S key) :
    Alike (fun a b => SameInstance key a.2 b.2 a.1 b.1 ∧ Twin S a.2 b.2) (instanceFor key s)
      (instanceFor key t) := by
  have both := twin.cachedId?_isSome own
  cases first : s.cachedId? key with
  | some id =>
      rw [first] at both
      obtain ⟨other, second⟩ := Option.isSome_iff_exists.mp both
      rw [instanceFor_cached first, instanceFor_cached second]
      exact .finished ⟨.found first second, twin⟩
  | none =>
      rw [first] at both
      have second : t.cachedId? key = none := Option.isNone_iff_eq_none.mp (by simpa using both)
      obtain ⟨assigns, unknown⟩ := instanceFor_absent first
      obtain ⟨assignsToo, unknownToo⟩ := instanceFor_absent second
      cases assigned : s.assigned? key with
      | none =>
          rw [unknown assigned, unknownToo ((twin.assigned key own).trans assigned)]
          exact .finished ⟨.fault _, twin⟩
      | some pair =>
          obtain ⟨implementation, name⟩ := pair
          rw [assigns implementation name assigned,
            assignsToo implementation name ((twin.assigned key own).trans assigned)]
          have findings := twin.findings key own implementation name assigned
          have built : ∀ body, s.registry.bodyFor? implementation = some body →
              Alike (fun a b => SameInstance key a.2 b.2 a.1 b.1 ∧ Twin S a.2 b.2)
                (.finished (.ok s.instances.length, s.construct key implementation name body))
                (.finished (.ok t.instances.length,
                  t.construct key implementation name body)) := by
            intro body found
            refine .finished ⟨.found ?_ ?_, twin.construct own first second assigned found⟩
            · rw [Store.cachedId?_construct, if_pos rfl]
            · rw [Store.cachedId?_construct, if_pos rfl]
          simp only [buildFor, findings, twin.capability]
          cases finding : s.registry.find implementation with
          | nothing => exact .finished ⟨.fault _, twin⟩
          | unfit => exact .finished ⟨.fault _, twin⟩
          | entry body => exact built body (by rw [Registry.bodyFor?, finding])
          | recipe recipe =>
              cases recipe with
              | build body => exact built body (by rw [Registry.bodyFor?, finding])
              | refuse fault => exact .finished ⟨.fault _, twin.note _ _⟩

/-- What happens inside a phase that the broker has handed over to. -/
theorem phase_alike (confined : Local run) (parallel : Parallel run) (twin : Twin S s t)
    (own : S key) (first : s.cachedId? key = some id) (second : t.cachedId? key = some other)
    (phase : Phase) (data : StartupData) :
    Alike (fun a b => b.1 = a.1 ∧ Twin S a.2 b.2 ∧ a.2.cachedId? key = some id ∧
        b.2.cachedId? key = some other)
      (run id phase data (s.openPhase key id phase))
      (run other phase data (t.openPhase key other phase)) := by
  have opened := twin.openPhase key id other phase
  have one : (s.openPhase key id phase).cachedId? key = some id := by
    cases phase <;> exact first
  have two : (t.openPhase key other phase).cachedId? key = some other := by
    cases phase <;> exact second
  have alike := parallel S _ _ opened key id other own one two phase data
  generalize ran : run id phase data (s.openPhase key id phase) = outcome at alike
  generalize again : run other phase data (t.openPhase key other phase) = outcomeAgain at alike
  cases alike with
  | @finished a b same =>
      have keptFirst : a.2.cachedId? key = some id :=
        (confined _ _ _ _ _ _ ran S key opened.left.1 opened.left.2.1 own one).kept one
      have keptSecond : b.2.cachedId? key = some other :=
        (confined _ _ _ _ _ _ again S key opened.right.1 opened.right.2.1 own two).kept two
      exact .finished ⟨same.1, same.2, keptFirst, keptSecond⟩
  | blocked key => exact .blocked key
  | stopped => exact .stopped
  | exhausted => exact .exhausted

/-- Both brokers judge a phase in the same way. -/
theorem verdict_eq (twin : Twin S s t) (own : S key) (first : s.cachedId? key = some id)
    (second : t.cachedId? key = some other) (phase : Phase) (raw : Except PhaseFault Unit) :
    verdict t key other phase raw = verdict s key id phase raw := by
  rw [verdict.eq_def, verdict.eq_def, twin.isReady own first second]

theorem earlyFrom_alike (confined : Local run) (parallel : Parallel run) (twin : Twin S s t)
    (own : S key) :
    Alike (Same S) (earlyFrom run (instanceFor key) key data s)
      (earlyFrom run (instanceFor key) key data t) := by
  -- The rest of the call begins where the instance has been found.
  have rest : ∀ u : Store, earlyFrom run (instanceFor key) key data u =
      (instanceFor key u).andThen fun built =>
        earlyFrom run (pure built.1) key data built.2 := fun _ => rfl
  rw [rest, rest]
  refine (instanceFor_alike twin own).andThen ?_
  rintro ⟨_, u⟩ ⟨_, v⟩ - - ⟨found, twin⟩
  cases found with
  | fault fault => exact .finished ⟨rfl, twin⟩
  | @found id other first second =>
      have ready := twin.isReady own first second
      cases unready : u.isReady id with
      | true =>
          rw [earlyFrom_finished.mpr (.already rfl unready),
            earlyFrom_finished.mpr (.already rfl (ready.trans unready))]
          exact .finished ⟨rfl, twin⟩
      | false =>
          by_cases again : key ∈ u.stack
          · have also : key ∈ v.stack := twin.stack ▸ again
            rw [earlyFrom_finished.mpr (.circle rfl unready again),
              earlyFrom_finished.mpr (.circle rfl (ready.trans unready) also)]
            exact .finished ⟨by rw [twin.stack], twin⟩
          · have admits : u.Admits key id .early := ⟨unready, again⟩
            have also : v.Admits key other .early :=
              ⟨ready.trans unready, twin.stack ▸ again⟩
            rw [earlyFrom_admitted rfl admits, earlyFrom_admitted rfl also]
            refine (phase_alike confined parallel twin own first second .early data).andThen ?_
            rintro ⟨_, a⟩ ⟨raw, b⟩ - - ⟨rfl, inner, one, two⟩
            have same := verdict_eq inner own one two .early raw
            refine .finished ⟨congrArg (Except.mapError (PhaseFault.about key)) same, ?_⟩
            exact inner.closePhase own one two .early _ _ fun _ => same

theorem lateFrom_waits {construct : Work (Except BrokerFault Nat)} {u : Store}
    (construction : construct s = .finished (.ok id, u)) (unready : u.isReady id = false)
    (clean : u.poisoned.get? key = none) (again : key ∈ u.settling) :
    lateFrom run construct key s = .blocked key := by
  simp [lateFrom, construction, unready, clean, again]

theorem lateFrom_alike (confined : Local run) (parallel : Parallel run) (twin : Twin S s t)
    (own : S key) :
    Alike (fun a b => SameInstance key a.2 b.2 a.1 b.1 ∧ Twin S a.2 b.2)
      (lateFrom run (instanceFor key) key s) (lateFrom run (instanceFor key) key t) := by
  have rest : ∀ u : Store, lateFrom run (instanceFor key) key u =
      (instanceFor key u).andThen fun built => lateFrom run (pure built.1) key built.2 :=
    fun _ => rfl
  rw [rest, rest]
  refine (instanceFor_alike twin own).andThen ?_
  rintro ⟨_, u⟩ ⟨_, v⟩ - - ⟨found, twin⟩
  cases found with
  | fault fault => exact .finished ⟨.fault fault, twin⟩
  | @found id other first second =>
      have ready := twin.isReady own first second
      cases unready : u.isReady id with
      | true =>
          rw [lateFrom_finished.mpr (.already rfl unready),
            lateFrom_finished.mpr (.already rfl (ready.trans unready))]
          exact .finished ⟨.found first second, twin⟩
      | false =>
          have unreadyAgain : v.isReady other = false := ready.trans unready
          cases record : u.poisoned.get? key with
          | some reason =>
              have recordAgain := (twin.poisoned key own).trans record
              rw [lateFrom_finished.mpr (.poisoned rfl unready record),
                lateFrom_finished.mpr (.poisoned rfl unreadyAgain recordAgain)]
              exact .finished ⟨.fault _, twin⟩
          | none =>
              have clean := (twin.poisoned key own).trans record
              by_cases waits : key ∈ u.settling
              · rw [lateFrom_waits rfl unready record waits,
                  lateFrom_waits rfl unreadyAgain clean (twin.settling ▸ waits)]
                exact .blocked key
              · have admits : u.Admits key id .late := ⟨unready, record, waits⟩
                have also : v.Admits key other .late :=
                  ⟨unreadyAgain, clean, twin.settling ▸ waits⟩
                rw [lateFrom_admitted rfl admits, lateFrom_admitted rfl also]
                refine (phase_alike confined parallel twin own first second .late {}).andThen ?_
                rintro ⟨raw, a⟩ ⟨_, b⟩ - - ⟨again, inner, one, two⟩
                have same := verdict_eq inner own one two .late raw
                rw [again, same]
                refine .finished ⟨?_, inner.closePhase own one two .late _ _ fun _ => rfl⟩
                cases verdict a key id .late raw with
                | error fault => exact .fault _
                | ok _ => exact .found one two

theorem shutdownInstanceBy_ready (present : s.cachedId? key = some id)
    (ready : s.isReady id = true) :
    shutdownInstanceBy run key s =
      (run id .shutdown {} (s.openPhase key id .shutdown)).andThen fun ended =>
        .finished (true, ended.2.closePhase key id .shutdown ended.1) := by
  simp only [shutdownInstanceBy, Work.bind_apply, Work.get_apply, Outcome.andThen_finished,
    present, ready, if_true, Work.set_apply]
  rfl

theorem shutdownBy_apply (run : PhaseRunner) (key : String) (s : Store) :
    shutdownBy run key s =
      if isKnown s key = true then shutdownInstanceBy run key s
      else .finished (false, s.errorMessage (unknownShutdown s.registry.capability key)) := by
  by_cases known : isKnown s key = true <;> simp [shutdownBy, known]

theorem shutdownBy_alike (confined : Local run) (parallel : Parallel run) (twin : Twin S s t)
    (own : S key) : Alike (Same S) (shutdownBy run key s) (shutdownBy run key t) := by
  rw [shutdownBy_apply, shutdownBy_apply, twin.isKnown own, twin.capability]
  split
  · have both := twin.cachedId?_isSome own
    cases first : s.cachedId? key with
    | none =>
        rw [first] at both
        have second : t.cachedId? key = none := Option.isNone_iff_eq_none.mp (by simpa using both)
        rw [shutdownInstanceBy_finished.mpr (.absent first),
          shutdownInstanceBy_finished.mpr (.absent second)]
        exact .finished ⟨rfl, twin⟩
    | some id =>
        rw [first] at both
        obtain ⟨other, second⟩ := Option.isSome_iff_exists.mp both
        have same := twin.isReady own first second
        cases ready : s.isReady id with
        | false =>
            rw [shutdownInstanceBy_finished.mpr (.idle first ready),
              shutdownInstanceBy_finished.mpr (.idle second (same.trans ready))]
            exact .finished ⟨rfl, twin⟩
        | true =>
            rw [shutdownInstanceBy_ready first ready,
              shutdownInstanceBy_ready second (same.trans ready)]
            refine (phase_alike confined parallel twin own first second .shutdown {}).andThen ?_
            rintro ⟨raw, a⟩ ⟨_, b⟩ - - ⟨rfl, inner, one, two⟩
            exact .finished ⟨rfl, inner.closePhase own one two .shutdown _ _ fun _ => rfl⟩
  · exact .finished ⟨rfl, twin.remarked (.reported _) (.reported _)⟩

theorem resolveAsBy_alike (confined : Local run) (parallel : Parallel run) (twin : Twin S s t)
    (own : S key) (wanted : Wanted) :
    Alike (fun a b => SameInstance key a.2 b.2 a.1 b.1 ∧ Twin S a.2 b.2)
      (resolveAsBy run key wanted s) (resolveAsBy run key wanted t) := by
  rw [resolveAsBy, Work.bind_apply, Work.bind_apply]
  refine (lateFrom_alike confined parallel twin own).andThen ?_
  rintro ⟨_, u⟩ ⟨_, v⟩ - - ⟨found, twin⟩
  cases found with
  | fault fault => exact .finished ⟨.fault fault, twin⟩
  | @found id other first second =>
      obtain ⟨component, label, one, two⟩ := twin.components own first second
      have fits : (v.instance? other).any (·.has wanted) = (u.instance? id).any (·.has wanted) := by
        rw [one, two]
        rfl
      simp only [Work.bind_apply, Work.get_apply, Outcome.andThen_finished, fits]
      split
      · exact .finished ⟨.found first second, twin⟩
      · exact .finished ⟨.fault _, twin⟩

/-- Twins that are asked for the same about a key of a closed set answer alike. -/
theorem request_alike (confined : Local run) (parallel : Parallel run) (twin : Twin S s t)
    (own : S key) {action : Action} (names : action.named? = some key) (data : StartupData) :
    Alike (fun a b => SameAnswer key a.2 b.2 a.1 b.1 ∧ Twin S a.2 b.2)
      (action.request run data s) (action.request run data t) := by
  cases action with
  | early about onFailure =>
      cases names
      have announced := twin.remarked (announce_remarks s key) (announce_remarks t key)
      simp only [Action.request, Work.bind_apply, earlyBy_apply]
      refine (earlyFrom_alike confined parallel announced own).andThen ?_
      rintro ⟨_, u⟩ ⟨result, v⟩ - - ⟨rfl, twin⟩
      refine .finished ⟨?_, twin⟩
      cases result with
      | error fault => exact .fault fault
      | ok _ => exact .done
  | resolve about onFailure =>
      cases names
      simp only [Action.request, Work.bind_apply]
      refine (lateFrom_alike confined parallel twin own).andThen ?_
      rintro ⟨result, u⟩ ⟨again, v⟩ - - ⟨found, twin⟩
      exact .finished ⟨found.toAnswer, twin⟩
  | resolveAs about wanted onFailure =>
      cases names
      simp only [Action.request, Work.bind_apply]
      refine (resolveAsBy_alike confined parallel twin own wanted).andThen ?_
      rintro ⟨result, u⟩ ⟨again, v⟩ - - ⟨found, twin⟩
      exact .finished ⟨found.toAnswer, twin⟩
  | shutdown about =>
      cases names
      simp only [Action.request, Work.bind_apply]
      refine (shutdownBy_alike confined parallel twin own).andThen ?_
      rintro ⟨ran, u⟩ ⟨_, v⟩ - - ⟨rfl, twin⟩
      exact .finished ⟨.shut _, twin⟩
  | _ => cases names

/-- The phases of two components in the midst of which the same has happened. -/
structure SameSituation (key : String) (s t : Store) (now again : Situation) : Prop where
  first : s.cachedId? key = some now.id
  second : t.cachedId? key = some again.id
  run : again.run = now.run
  data : again.data = now.data

/-- An action that asks nothing of the broker does the same in both. -/
theorem act_silent_alike (twin : Twin S s t) (own : S key) {now again : Situation}
    (same : SameSituation key s t now again) {action : Action} (silent : action.named? = none) :
    Alike (Same S) (act run now action s) (act run again action t) := by
  obtain ⟨result, u, acts⟩ := act_silent silent now s
  obtain ⟨other, v, actsAgain⟩ := act_silent silent again t
  obtain ⟨acted, ends⟩ := acts run
  obtain ⟨actedAgain, endsAgain⟩ := actsAgain run
  rw [acted, actedAgain]
  cases ends with
  | marked =>
      cases endsAgain with
      | marked => exact .finished ⟨rfl, twin.mark own same.first same.second⟩
      | remarked silent marking => exact absurd rfl marking
      | requested names => cases names
      | unowned names => cases names
  | unmarked =>
      cases endsAgain with
      | unmarked => exact .finished ⟨rfl, twin.unmark own same.first same.second⟩
      | remarked silent marking unmarking => exact absurd rfl unmarking
      | requested names => cases names
      | unowned names => cases names
  | requested names =>
      rw [silent] at names
      cases names
  | unowned names =>
      rw [silent] at names
      cases names
  | remarked silent marking unmarking remarked =>
      cases endsAgain with
      | marked => exact absurd rfl marking
      | unmarked => exact absurd rfl unmarking
      | requested names =>
          rw [silent] at names
          cases names
      | unowned names =>
          rw [silent] at names
          cases names
      | remarked _ _ _ remarkedAgain =>
          exact .finished ⟨by rw [same.run], twin.remarked remarked remarkedAgain⟩

theorem act_alike (confined : Local run) (parallel : Parallel run) (twin : Twin S s t)
    (own : S key) {now again : Situation} (same : SameSituation key s t now again)
    {action : Action} (named : ∀ other, action.named? = some other → S other) :
    Alike (Same S) (act run now action s) (act run again action t) := by
  cases names : action.named? with
  | none => exact act_silent_alike twin own same names
  | some about =>
      have owner := twin.hasOwner own same.first same.second
      cases owned : hasOwner s now.id with
      | false =>
          have calls := callsOwner_of_named? names
          obtain ⟨u, logged, acted⟩ := act_unowned calls owned
          obtain ⟨v, loggedAgain, actedAgain⟩ := act_unowned calls (owner.trans owned)
          rw [acted, actedAgain]
          exact .finished ⟨rfl, twin.remarked logged.remarked loggedAgain.remarked⟩
      | true =>
          rw [act_request names owned, act_request names (owner.trans owned), same.data]
          refine (request_alike confined parallel twin (named about names) names now.data).andThen
            ?_
          rintro ⟨answer, u⟩ ⟨other, v⟩ - - ⟨answers, twin⟩
          obtain ⟨w, followed, logged⟩ := follow_logs now action answer u
          obtain ⟨x, followedAgain, loggedAgain⟩ := follow_logs again action other v
          rw [followed, followedAgain]
          exact .finished ⟨answers.heed action,
            twin.remarked logged.remarked loggedAgain.remarked⟩

theorem perform_alike (confined : Local run) (parallel : Parallel run) (twin : Twin S s t)
    (own : S key) {now again : Situation} (same : SameSituation key s t now again)
    {course : Course}
    (named : ∀ action ∈ course, ∀ other, action.named? = some other → S other) :
    Alike (Same S) (perform run now course s) (perform run again course t) := by
  induction course generalizing s t with
  | finish => exact .finished ⟨rfl, twin⟩
  | act action next inductionHypothesis =>
      rw [perform, perform, Work.bind_apply, Work.bind_apply]
      have namedFirst := named action Course.mem_act_self
      refine (act_alike confined parallel twin own same namedFirst).andThen ?_
      rintro ⟨_, u⟩ ⟨done, v⟩ acted actedAgain ⟨rfl, after⟩
      have one := act_spares confined twin.left.1 twin.left.2.1 own same.first namedFirst acted
      have two := act_spares confined twin.right.1 twin.right.2.1 own same.second namedFirst
        actedAgain
      cases done with
      | error fault => exact .finished ⟨rfl, after⟩
      | ok heard =>
          -- Both components have heard the same, so they go on alike.
          refine inductionHypothesis heard after ?_ ?_
          · exact ⟨one.kept same.first, two.kept same.second, same.run, same.data⟩
          · exact fun other member => named other (Course.mem_act_of_mem member)

/-- A script is followed from the entrance on. -/
theorem enter_alike (confined : Local run) (parallel : Parallel run) (twin : Twin S s t)
    (own : S key) (first : s.cachedId? key = some id) (second : t.cachedId? key = some other)
    {script : Script} (scripted : (s.instance? id).map Component.body = some (.scripted script))
    {phase seen : Phase} {seenData : StartupData} {course : Course}
    (planned : script.plan data phase = (seen, seenData, course)) :
    Alike (Same S) (perform run (s.situation id seen seenData) course (s.enter id seen))
      (perform run (t.situation other seen seenData) course (t.enter other seen)) := by
  refine perform_alike confined parallel (twin.enter own first second seen) own ?_
    (named_of_closed twin.left.2.1 own first scripted planned)
  exact ⟨first, second, twin.situation own first second seen seenData, rfl⟩

/-- A failure in a shutdown phase only shows in the log. -/
def remarkFailure (id : Nat) (s : Store) : Except PhaseFault Unit → Store
  | .ok () => s
  | .error fault =>
      s.note (.said (s.labelOf? id) ("shutdown error: " ++ (Fault.phase fault).chain))

theorem remarkFailure_logs (id : Nat) (s : Store) (result : Except PhaseFault Unit) :
    s.Logged (remarkFailure id s result) := by
  cases result with
  | ok _ => exact .nothing
  | error fault => exact .said _ _

/-- The shutdown of a script performs its actions, and then there is at most something to log. -/
theorem runBody_shutdown (run : PhaseRunner) (data : StartupData) {script : Script}
    (scripted : (s.instance? id).map Component.body = some (.scripted script)) :
    runBody run id .shutdown data s =
      (perform run (s.situation id .shutdown {}) script.shutdownCourse
        (s.enter id .shutdown)).andThen fun done =>
          .finished (.ok (), remarkFailure id done.2 done.1) := by
  simp only [runBody, Work.bind_apply, Work.get_apply, Outcome.andThen_finished, scripted,
    runShutdownScript, enterPhase_apply]
  cases perform run (s.situation id .shutdown {}) script.shutdownCourse
    (s.enter id .shutdown) with
  | finished done =>
      obtain ⟨result, u⟩ := done
      cases result <;> rfl
  | _ => rfl

theorem startConfiguration_alike (twin : Twin S s t) (own : S key)
    (first : s.cachedId? key = some id) (second : t.cachedId? key = some other)
    {loaded : Option Deployment}
    (held : (s.instance? id).map Component.body = some (.configuration loaded))
    (given : StartupData) :
    Alike (Same S) (startConfiguration id given s) (startConfiguration other given t) := by
  cases load : loadDeployment s.surroundings given with
  | error fault =>
      simp only [startConfiguration, Work.bind_apply, Work.get_apply, Outcome.andThen_finished,
        twin.surroundings, load]
      exact .finished ⟨rfl, twin⟩
  | ok deployment =>
      simp only [startConfiguration, Work.bind_apply, Work.get_apply, Outcome.andThen_finished,
        twin.surroundings, load]
      refine .finished ⟨rfl, Twin.mark ?_ own first second⟩
      refine twin.update own first second _ (fun _ _ => rfl) fun component found => ?_
      rw [found] at held
      rw [Option.some.inj held]
      rfl

theorem startLogging_alike (twin : Twin S s t) (own : S key)
    (first : s.cachedId? key = some id) (second : t.cachedId? key = some other)
    {settings : Option LogSettings}
    (held : (s.instance? id).map Component.body = some (.logging settings)) :
    Alike (Same S) (startLogging id s) (startLogging other t) := by
  have sections : ownSection t other = ownSection s id := by
    rw [ownSection, ownSection, twin.hasOwner own first second, twin.nameOf own first second,
      twin.sections]
  have name := twin.nameOf own first second
  cases read : readLogSettings (ownSection s id) with
  | error fault =>
      simp only [startLogging, Work.bind_apply, Work.get_apply, Outcome.andThen_finished,
        sections, read, name]
      exact .finished ⟨rfl, twin⟩
  | ok settings =>
      simp only [startLogging, Work.bind_apply, Work.get_apply, Outcome.andThen_finished,
        sections, read, twin.surroundings]
      cases usable : ({ settings } : LogSetup).isUsable s.surroundings with
      | false => exact .stopped
      | true =>
          have surrounded := twin.surround (({ settings } : LogSetup).leave s.surroundings)
          refine .finished ⟨rfl, Twin.mark ?_ own first second⟩
          refine surrounded.update own first second _ (fun _ _ => rfl) fun component found => ?_
          rw [show s.instance? id = some component from found] at held
          rw [Option.some.inj held]
          rfl

theorem runBody_parallel (confined : Local run) (parallel : Parallel run) :
    Parallel (runBody run) := by
  intro S s t twin key id other own first second phase data
  have same := twin.body own first second
  cases held : (s.instance? id).map Component.body with
  | none =>
      rw [held] at same
      simp only [runBody, Work.bind_apply, Work.get_apply, Outcome.andThen_finished, held, same]
      exact .finished ⟨rfl, twin⟩
  | some body =>
      rw [held] at same
      cases body with
      | plain =>
          simp only [runBody, Work.bind_apply, Work.get_apply, Outcome.andThen_finished, held, same]
          cases phase with
          | early => exact .finished ⟨rfl, twin.mark own first second⟩
          | late => exact .finished ⟨rfl, twin.mark own first second⟩
          | shutdown => exact .finished ⟨rfl, twin.unmark own first second⟩
      | scripted script =>
          by_cases initializing : phase = .shutdown
          · subst initializing
            have planned := script.plan_shutdown data
            rw [runBody_shutdown run data held, runBody_shutdown run data same]
            refine (enter_alike confined parallel twin own first second held planned).andThen ?_
            rintro ⟨done, u⟩ ⟨_, v⟩ - - ⟨rfl, after⟩
            exact .finished ⟨rfl, after.remarked (remarkFailure_logs _ _ _).remarked
              (remarkFailure_logs _ _ _).remarked⟩
          · have planned : script.plan data phase = (_, _, _) := rfl
            rw [runBody_scripted initializing held planned,
              runBody_scripted initializing same planned]
            exact enter_alike confined parallel twin own first second held planned
      | configuration loaded =>
          simp only [runBody, Work.bind_apply, Work.get_apply, Outcome.andThen_finished, held, same]
          cases phase with
          | early => exact startConfiguration_alike twin own first second held data
          | late => exact startConfiguration_alike twin own first second held {}
          | shutdown =>
              refine .finished ⟨rfl, Twin.unmark ?_ own first second⟩
              refine twin.update own first second _ (fun _ _ => rfl) fun component found => ?_
              rw [found] at held
              rw [Option.some.inj held]
              rfl
      | logging settings =>
          simp only [runBody, Work.bind_apply, Work.get_apply, Outcome.andThen_finished, held, same]
          cases phase with
          | early => exact startLogging_alike twin own first second held
          | late => exact startLogging_alike twin own first second held
          | shutdown => exact .finished ⟨rfl, twin.unmark own first second⟩

/-- However deep phases may nest, those of twins end alike. -/
theorem runPhase_parallel (depth : Nat) : Parallel (runPhase depth) := by
  induction depth with
  | zero =>
      intro S s t twin key id other own first second phase data
      exact .exhausted
  | succ depth inductionHypothesis =>
      exact runBody_parallel (runPhase_local depth) inductionHypothesis

end Walk

end Broker

end ServiceLifecycle
