/-
Module: ServiceLifecycle.Proofs.Startup.FirstFailure
Purpose: The two ways of starting all services agree up to the first failure.
Main exports: Broker.FailsFirst, Broker.TakesTurn, Broker.InReach,
  Broker.startFailures_eq_cons_iff, Broker.earlyEach_eq_error_iff, startup_modes_agree
-/
import ServiceLifecycle.Proofs.Locality.Operations
import ServiceLifecycle.Proofs.Startup.Notices

namespace ServiceLifecycle

/-!
A walk through the services that ends with the first failure and one that goes on after it do the
same until then.  So the first one is told from the second: it is cut off where the second reports
a failure for the first time.  The services before are those of a walk without a failure, and what
such a walk does, it does whatever comes behind it.

What has become of the other services by then, they owe to those that have had their turn.
-/

open Broker

/-- What is reported when all services have had their turn. -/
def finishNotice : String := "Finished initializing all services"

/-- Texts that begin differently are different. -/
theorem ne_append_of_head? {text front back : String} {first other : Char}
    (begins : text.toList.head? = some first) (starts : front.toList.head? = some other)
    (different : first ≠ other) : text ≠ front ++ back := by
  rintro rfl
  rw [String.toList_append, List.head?_append, starts] at begins
  exact different (Option.some.inj begins).symm

theorem finishNotice_ne_startNotice (name : String) : finishNotice ≠ startNotice name :=
  ne_append_of_head? (show _ = some 'F' by decide +kernel) (show _ = some 'S' by decide +kernel)
    (by decide)

namespace Broker

/-- The first service that fails in a walk: all before it have passed, it takes part, and its turn
fails. -/
structure FailsFirst (run : PhaseRunner) (data : StartupData) (s : Store) (before : List String)
    (reached : Store) (name : String) (fault : BrokerFault) (left : Store) : Prop where
  passed : startFailures run data before s = .finished ([], reached)
  enrolled : reached.isEnrolled name = true
  failed : earlyBy run name data reached = .finished (.error fault, left)

/-- A service takes part in a walk, and its turn comes before there has been a failure. -/
def TakesTurn (run : PhaseRunner) (data : StartupData) (s : Store) (names : List String)
    (name : String) : Prop :=
  ∃ before after reached, names = before ++ name :: after ∧
    startFailures run data before s = .finished ([], reached) ∧ reached.isEnrolled name = true

/-- A key is reached by references from a service whose turn comes before there has been a
failure. -/
def InReach (run : PhaseRunner) (data : StartupData) (s : Store) (names : List String)
    (key : String) : Prop :=
  ∃ name, TakesTurn run data s names name ∧ s.Reaches name key

section Walk

variable {run : PhaseRunner} {data : StartupData} {s t reached left : Store} {name : String}
  {before after names : List String} {fault : BrokerFault}

/-- A service that passes has its turn, and then the others have theirs. -/
theorem startFailures_passed (enrolled : s.isEnrolled name = true)
    (asked : earlyBy run name data s = .finished (.ok (), t)) (rest : List String) :
    startFailures run data (name :: rest) s = startFailures run data rest t := by
  rw [startFailures_cons, if_pos enrolled, asked]
  rfl

theorem startFailures_opted (opted : s.isEnrolled name = false) (rest : List String) :
    startFailures run data (name :: rest) s = startFailures run data rest s := by
  rw [startFailures_cons, if_neg (by simp [opted])]

/-- A walk without a failure is one turn that passes, or none where a service opts out, and a
shorter walk without a failure. -/
@[elab_as_elim]
theorem startFailures_none_induction {motive : List String → Store → Prop}
    (done : motive [] reached)
    (passed : ∀ {name rest s u}, s.isEnrolled name = true →
      earlyBy run name data s = .finished (.ok (), u) → motive rest u → motive (name :: rest) s)
    (opted : ∀ {name rest s}, s.isEnrolled name = false → motive rest s → motive (name :: rest) s)
    (walked : startFailures run data before s = .finished ([], reached)) : motive before s := by
  induction before generalizing s with
  | nil =>
      cases walked
      exact done
  | cons name rest inductionHypothesis =>
      rcases startFailures_none walked with ⟨enrolled, u, asked, following⟩ | ⟨out, following⟩
      · exact passed enrolled asked (inductionHypothesis following)
      · exact opted out (inductionHypothesis following)

/-- After services that have passed, a walk goes on as if it began there. -/
theorem startFailures_append
    (passed : startFailures run data before s = .finished ([], reached)) :
    startFailures run data (before ++ after) s = startFailures run data after reached := by
  refine startFailures_none_induction ?done ?passed ?opted passed
  case done => rfl
  case passed =>
    intro name rest s u enrolled asked following
    rw [List.cons_append, startFailures_passed enrolled asked, following]
  case opted =>
    intro name rest s out following
    rw [List.cons_append, startFailures_opted out, following]

theorem earlyEach_append (failFast : Bool)
    (passed : startFailures run data before s = .finished ([], reached)) :
    earlyEach run data failFast (before ++ after) s =
      earlyEach run data failFast after reached := by
  refine startFailures_none_induction ?done ?passed ?opted passed
  case done => rfl
  case passed =>
    intro name rest s u enrolled asked following
    rw [List.cons_append, earlyEach_cons, if_pos enrolled, asked, ← following]
    rfl
  case opted =>
    intro name rest s out following
    rw [List.cons_append, earlyEach_cons, if_neg (by simp [out]), following]

/-- The first failure stays the first one when a service has passed or opted out before. -/
theorem FailsFirst.cons {head : String}
    (goesOn : ∀ rest, startFailures run data (head :: rest) s = startFailures run data rest t)
    (first : FailsFirst run data t before reached name fault left) :
    FailsFirst run data s (head :: before) reached name fault left :=
  { first with passed := (goesOn before).trans first.passed }

theorem TakesTurn.cons {head : String}
    (goesOn : ∀ rest, startFailures run data (head :: rest) s = startFailures run data rest t)
    (turn : TakesTurn run data t names name) : TakesTurn run data s (head :: names) name := by
  obtain ⟨before, after, reached, rfl, passed, enrolled⟩ := turn
  exact ⟨head :: before, after, reached, rfl, (goesOn before).trans passed, enrolled⟩

theorem TakesTurn.append (turn : TakesTurn run data s before name) :
    TakesTurn run data s (before ++ after) name := by
  obtain ⟨front, rest, reached, rfl, passed, enrolled⟩ := turn
  exact ⟨front, rest ++ after, reached, by simp, passed, enrolled⟩

theorem FailsFirst.takesTurn (first : FailsFirst run data s before reached name fault left) :
    TakesTurn run data s (before ++ name :: after) name :=
  ⟨before, after, reached, rfl, first.passed, first.enrolled⟩

/-- No service behind the first failure has its turn before there has been a failure. -/
theorem FailsFirst.mem_of_takesTurn (first : FailsFirst run data s before reached name fault left)
    {other : String} (turn : TakesTurn run data s (before ++ name :: after) other) :
    other ∈ before ++ [name] := by
  obtain ⟨front, rest, u, split, passed, -⟩ := turn
  rcases List.append_eq_append_iff.mp split with ⟨more, rfl, within⟩ | ⟨more, rfl, within⟩
  · cases more with
    | nil =>
        obtain ⟨rfl, -⟩ := List.cons.inj within
        simp
    | cons again more =>
        -- The walk would have passed the service that fails.
        obtain ⟨rfl, -⟩ := List.cons.inj within
        rw [startFailures_append first.passed, startFailures_cons, if_pos first.enrolled,
          first.failed, Outcome.andThen_finished, Outcome.andThen_eq_finished] at passed
        obtain ⟨collected, -, same⟩ := passed
        cases same
  · cases more with
    | nil =>
        obtain ⟨rfl, -⟩ := List.cons.inj within
        simp
    | cons again more =>
        obtain ⟨rfl, -⟩ := List.cons.inj within
        simp

/-- A walk that goes on after a failure reports the first one when the turn of that service has
ended, and goes on from there. -/
theorem startFailures_eq_cons_iff {later : List (String × BrokerFault)} :
    startFailures run data names s = .finished ((name, fault) :: later, t) ↔
      ∃ before after reached left, names = before ++ name :: after ∧
        FailsFirst run data s before reached name fault left ∧
        startFailures run data after (left.reportFault (.broker fault)) =
          .finished (later, t) := by
  constructor
  · intro walked
    induction names generalizing s with
    | nil => cases walked
    | cons head rest inductionHypothesis =>
        cases enrolled : s.isEnrolled head with
        | false =>
            rw [startFailures_opted enrolled] at walked
            obtain ⟨before, after, reached, left, rfl, first, following⟩ :=
              inductionHypothesis walked
            exact ⟨head :: before, after, reached, left, rfl,
              first.cons (startFailures_opted enrolled), following⟩
        | true =>
            have turn := walked
            rw [startFailures_cons, if_pos enrolled, Outcome.andThen_eq_finished] at turn
            obtain ⟨⟨answer, u⟩, asked, following⟩ := turn
            cases answer with
            | ok _ =>
                obtain ⟨before, after, reached, left, rfl, first, others⟩ :=
                  inductionHypothesis following
                exact ⟨head :: before, after, reached, left, rfl,
                  first.cons (startFailures_passed enrolled asked), others⟩
            | error answer =>
                obtain ⟨⟨collected, v⟩, others, same⟩ := Outcome.andThen_eq_finished.mp following
                cases same
                exact ⟨[], rest, s, u, rfl, ⟨rfl, enrolled, asked⟩, others⟩
  · rintro ⟨before, after, reached, left, rfl, first, following⟩
    rw [startFailures_append first.passed, startFailures_cons, if_pos first.enrolled, first.failed,
      Outcome.andThen_finished]
    simp only [following, Outcome.andThen_finished]

/-- A walk that ends with the first failure leaves things as the turn of that service has left
them. -/
theorem earlyEach_eq_error_iff :
    earlyEach run data true names s = .finished (.error fault, left) ↔
      ∃ before name after reached, names = before ++ name :: after ∧
        FailsFirst run data s before reached name fault left := by
  constructor
  · intro walked
    induction names generalizing s with
    | nil => cases walked
    | cons head rest inductionHypothesis =>
        rw [earlyEach_cons] at walked
        cases enrolled : s.isEnrolled head with
        | false =>
            rw [if_neg (by simp [enrolled])] at walked
            obtain ⟨before, name, after, reached, rfl, first⟩ := inductionHypothesis walked
            exact ⟨head :: before, name, after, reached, rfl,
              first.cons (startFailures_opted enrolled)⟩
        | true =>
            rw [if_pos enrolled, Outcome.andThen_eq_finished] at walked
            obtain ⟨⟨answer, u⟩, asked, following⟩ := walked
            cases answer with
            | ok _ =>
                obtain ⟨before, name, after, reached, rfl, first⟩ := inductionHypothesis following
                exact ⟨head :: before, name, after, reached, rfl,
                  first.cons (startFailures_passed enrolled asked)⟩
            | error answer =>
                cases following
                exact ⟨[], head, rest, s, rfl, ⟨rfl, enrolled, asked⟩⟩
  · rintro ⟨before, name, after, reached, rfl, first⟩
    rw [earlyEach_append true first.passed, earlyEach_cons, if_pos first.enrolled, first.failed]
    rfl

end Walk

section Others

variable {S : String → Prop} {depth : Nat} {data : StartupData} {s t reached left : Store}
  {before after names : List String} {name : String} {fault : BrokerFault}

/-- Services that pass leave everything alone that none of them leads to. -/
theorem startFailures_spares (holds : s.HoldsOwn) (closed : s.Closed S)
    (own : ∀ name, TakesTurn (runPhase depth) data s names name → S name)
    (passed : startFailures (runPhase depth) data names s = .finished ([], t)) :
    Spares S s t := by
  revert holds closed own
  refine startFailures_none_induction ?done ?passed ?opted passed
  case done => exact fun _ _ _ => .refl S t
  case passed =>
    intro first rest s u enrolled asked following holds closed own
    have turn : TakesTurn (runPhase depth) data s (first :: rest) first :=
      ⟨[], rest, s, rfl, rfl, enrolled⟩
    have step : Spares S s u := earlyBy_spares holds closed (own first turn) asked
    refine step.trans (following (step.holdsOwn holds) (step.closed closed) ?_)
    exact fun name later => own name (later.cons (startFailures_passed enrolled asked))
  case opted =>
    intro first rest s out following holds closed own
    exact following holds closed fun name later => own name (later.cons (startFailures_opted out))

theorem closed_inReach (run : PhaseRunner) (data : StartupData) (s : Store)
    (names : List String) : s.Closed (InReach run data s names) := by
  rintro key next ⟨name, turn, reaches⟩ refers
  exact ⟨name, turn, reaches.tail refers⟩

/-- Up to and with its first failure, a walk leaves everything alone that is out of its reach. -/
theorem FailsFirst.untouched (holds : s.HoldsOwn)
    (first : FailsFirst (runPhase depth) data s before reached name fault left) {key : String}
    (unreached : ¬ InReach (runPhase depth) data s (before ++ name :: after) key) :
    Store.Untouched key s left := by
  have closed := closed_inReach (runPhase depth) data s (before ++ name :: after)
  have passing : Spares _ s reached :=
    startFailures_spares holds closed (fun other turn => ⟨other, turn.append, .refl⟩) first.passed
  have failing : Spares _ reached left :=
    earlyBy_spares (passing.holdsOwn holds) (passing.closed closed)
      ⟨name, first.takesTurn, .refl⟩ first.failed
  exact (passing.trans failing).untouched holds unreached

end Others

end Broker

/-- Let the common start that goes on after a failure come to its end.  It succeeds whatever has
failed, and says in the end that it has finished.

If nothing has failed, the one that ends with the first failure does the same.

Otherwise that one comes to the fault that the first service has failed with, and it leaves
everything, the diagnostics included, as it was right before the other one has reported that fault
and has gone on.  No service behind that one has had its turn by then.  A key that is not reached
from a service that has had its turn has been left alone, and it has not been reported that the
start has finished, unless a component reports such a text itself. -/
theorem startup_modes_agree {s w : Store} {depth : Nat} {data : StartupData}
    {result : Except BrokerFault Unit}
    (finished : earlyAllBy (runPhase depth) data false s = .finished (result, w)) :
    ∃ failed t, startFailures (runPhase depth) data s.serviceNames s = .finished (failed, t) ∧
      result = .ok () ∧ w = t.notice finishNotice ∧
      (failed = [] → earlyAllBy (runPhase depth) data true s = .finished (.ok (), w)) ∧
      ∀ name fault later, failed = (name, fault) :: later →
        ∃ before after reached left, s.serviceNames = before ++ name :: after ∧
          FailsFirst (runPhase depth) data s before reached name fault left ∧
          startFailures (runPhase depth) data after (left.reportFault (.broker fault)) =
            .finished (later, t) ∧
          earlyAllBy (runPhase depth) data true s = .finished (.error fault, left) ∧
          (∀ other, TakesTurn (runPhase depth) data s s.serviceNames other →
            other ∈ before ++ [name]) ∧
          (s.HoldsOwn → ∀ key, ¬ InReach (runPhase depth) data s s.serviceNames key →
            Store.Untouched key s left) ∧
          ∃ events, left.journal = events ++ s.journal ∧
            (.reported (.ofNotice finishNotice) ∈ events → left.Voices finishNotice) := by
  rw [earlyAllBy_apply, earlyEach_collecting, Outcome.andThen_eq_finished] at finished
  obtain ⟨walked, collecting, ended⟩ := finished
  obtain ⟨⟨failed, t⟩, collected, same⟩ := Outcome.andThen_eq_finished.mp collecting
  cases same
  cases ended
  refine ⟨failed, t, collected, rfl, rfl, ?none, ?some⟩
  case none =>
    rintro rfl
    rw [earlyAllBy_apply, (earlyEach_failFast_iff _ s t).mpr collected]
    rfl
  case some =>
    rintro name fault later rfl
    obtain ⟨before, after, reached, left, split, first, following⟩ :=
      startFailures_eq_cons_iff.mp collected
    have hasty : earlyEach (runPhase depth) data true s.serviceNames s =
        .finished (.error fault, left) :=
      earlyEach_eq_error_iff.mpr ⟨before, name, after, reached, split, first⟩
    refine ⟨before, after, reached, left, split, first, following, ?error, ?turns, ?others,
      ?unsaid⟩
    case error =>
      rw [earlyAllBy_apply, hasty]
      rfl
    case turns =>
      intro other turn
      rw [split] at turn
      exact first.mem_of_takesTurn turn
    case others =>
      intro holds key unreached
      rw [split] at unreached
      exact first.untouched holds unreached
    case unsaid =>
      obtain ⟨events, grown, spoken⟩ := (earlyEach_voiced hasty).spoken
      refine ⟨events, grown, fun member => (spoken finishNotice member).resolve_left ?_⟩
      rintro ⟨other, announced⟩
      exact finishNotice_ne_startNotice other announced

/-- The second of four services fails when it has had the last one initialized. -/
def Store.stumbling : Store :=
  { registry :=
      { capability := .service
        recipes :=
          [("Sound", .build .plain),
            ("Broken", .build (.scripted
              { early := some
                  (.straight [.early "helper" .propagate, .fail "refused to start" none]) }))] }
    mapping :=
      { entries :=
          [("front", "Sound"), ("middle", "Broken"), ("back", "Sound"), ("helper", "Sound")] } }

/-- The first two services refer to no others than the last one. -/
theorem stumbling_closed : Store.stumbling.Closed fun key =>
    key = "front" ∨ key = "middle" ∨ key = "helper" := by
  rintro key other (rfl | rfl | rfl) ⟨body, found, refers⟩
  · obtain rfl : Body.plain = body := Option.some.inj found
    exact refers.elim
  · obtain rfl := Option.some.inj found
    have helps : other = "helper" := by
      simpa [Body.refersTo_scripted, Course.refersTo_straight, Action.named?, eq_comm] using refers
    exact .inr (.inr helps)
  · obtain rfl : Body.plain = body := Option.some.inj found
    exact refers.elim

/-- The walk that goes on reaches all services and comes to one failure.  The other one ends with
it: the last service is initialized because the second has asked for it, and the third is left
alone. -/
theorem startup_modes_agree_stumbling :
    ∃ w fault left, earlyAllBy (runPhase 2) {} false Store.stumbling = .finished (.ok (), w) ∧
      w.isInitialized "back" = true ∧
      earlyAllBy (runPhase 2) {} true Store.stumbling = .finished (.error fault, left) ∧
      left.isInitialized "helper" = true ∧ Store.Untouched "back" Store.stumbling left := by
  have collects : (startFailures (runPhase 2) {} Store.stumbling.serviceNames
      Store.stumbling).result?.any (fun done =>
        done.1.map Prod.fst = ["middle"] ∧ done.2.isInitialized "back" = true) = true := by
    decide +kernel
  obtain ⟨⟨failed, t⟩, collected, outcome⟩ := (Option.any_eq_true _ _).mp collects
  obtain ⟨names, up⟩ := of_decide_eq_true outcome
  have walked := Outcome.result?_eq_some.mp collected
  have finished : earlyAllBy (runPhase 2) {} false Store.stumbling =
      .finished (.ok (), t.notice finishNotice) := by
    rw [earlyAllBy_apply, earlyEach_collecting, walked]
    rfl
  obtain ⟨_, _, again, -, -, -, agree⟩ := startup_modes_agree finished
  rw [walked] at again
  cases again
  obtain ⟨⟨name, fault⟩, rfl, rfl⟩ := List.map_eq_singleton_iff.mp names
  obtain ⟨before, after, reached, left, split, -, -, hasty, turns, others, -⟩ :=
    agree "middle" fault [] rfl
  have helps : (earlyAllBy (runPhase 2) {} true Store.stumbling).result?.any (fun done =>
      done.2.isInitialized "helper") = true := by
    decide +kernel
  rw [hasty] at helps
  have holds : Store.stumbling.HoldsOwn :=
    (Underway.fresh ⟨rfl, rfl, rfl, rfl, rfl, rfl⟩ : Underway .idle [] _).arises.1.holdsOwn
  refine ⟨_, fault, left, finished, up, hasty, helps, others holds "back" ?_⟩
  rintro ⟨other, turn, reaches⟩
  have begun : other = "front" ∨ other = "middle" := by
    have listed : ["front", "middle", "back", "helper"] = before ++ "middle" :: after := split
    have early := turns other turn
    rcases before with _ | ⟨a, _ | ⟨b, _ | ⟨c, _ | ⟨d, rest⟩⟩⟩⟩ <;> simp at listed
    obtain ⟨rfl, -⟩ := listed
    simpa using early
  have within := stumbling_closed.of_reaches (begun.imp_right .inl) reaches
  revert within
  decide

end ServiceLifecycle
