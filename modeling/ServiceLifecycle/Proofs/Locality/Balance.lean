/-
Module: ServiceLifecycle.Proofs.Locality.Balance
Purpose: Phases of components whose references do not run in circles keep the balance.
Main exports: Body.MarksLast, Store.IsOrderly, Spares.isOrderly_iff, Broker.Steady,
  Broker.runPhase_steady
-/
import ServiceLifecycle.Proofs.Locality.Turns

namespace ServiceLifecycle

/-!
While a phase of an instance is in progress, what it has the broker do is about other keys, from
which references do not lead back.  So the instance is left as it is until it acts itself, and
nothing is noted about its phases.  All other instances keep their balance in the meantime.

A component that marks itself at the very end of its initializing phases does so only when all else
has succeeded.  So its phase succeeds exactly if it leaves the component initialized.
-/

open Broker

section Orderly

/-- In its initializing phases the component does not unmark itself, and marks itself as the last
thing it does, if at all. -/
def Body.MarksLast : Body → Prop
  | .scripted script =>
      ∀ data phase, phase ≠ .shutdown →
        .unmark ∉ (script.plan data phase).2.2 ∧ (script.plan data phase).2.2.MarksLast
  | _ => True

theorem Body.marksLast_kind (body : Body) : body.kind.MarksLast ↔ body.MarksLast := by
  cases body <;> rfl

/-- The components that the keys have, or would get, mark themselves last, and their references do
not run in circles. -/
structure Store.IsOrderly (s : Store) : Prop where
  marksLast : ∀ {key body}, s.bodyAt? key = some body → body.MarksLast
  acyclic : ∀ key, ¬ Relation.TransGen s.Names key key

/-- What components are decides whether they are orderly. -/
theorem Spares.isOrderly_iff {S : String → Prop} {s t : Store} (spares : Spares S s t) :
    t.IsOrderly ↔ s.IsOrderly := by
  constructor
  · intro orderly
    constructor
    case marksLast =>
      exact Store.forall_bodies Body.marksLast_kind (fun key => (spares.kinds key).symm)
        fun _ _ => orderly.marksLast
    case acyclic =>
      rw [← spares.names_eq]
      exact orderly.acyclic
  · intro orderly
    constructor
    case marksLast =>
      exact Store.forall_bodies Body.marksLast_kind spares.kinds fun _ _ => orderly.marksLast
    case acyclic =>
      rw [spares.names_eq]
      exact orderly.acyclic

end Orderly

/-- A phase keeps the balance of all other instances and, if it initializes, does not leave its
instance initialized when it fails. -/
structure Steadies (id : Nat) (phase : Phase) (s : Store) (result : Except PhaseFault Unit)
    (t : Store) : Prop where
  within : Within (id = ·) s t
  unready : phase ≠ .shutdown → s.isReady id = false → result ≠ .ok () → t.isReady id = false

namespace Broker

/-- Phases of orderly components keep the balance. -/
def Steady (run : PhaseRunner) : Prop :=
  ∀ id phase data s result t, run id phase data s = .finished (result, t) →
    ∀ key, s.HoldsOwn → s.IsOrderly → s.cachedId? key = some id → Steadies id phase s result t

section Walk

variable {run : PhaseRunner} {E : Nat → Prop} {key : String} {s t : Store} {id : Nat}

/-- The broker's part of a phase changes nothing about who components are. -/
theorem opened (holds : s.HoldsOwn) (orderly : s.IsOrderly) (present : s.cachedId? key = some id)
    (phase : Phase) :
    (s.openPhase key id phase).HoldsOwn ∧ (s.openPhase key id phase).IsOrderly ∧
      (s.openPhase key id phase).cachedId? key = some id := by
  cases phase <;>
    exact ⟨⟨holds.held, holds.distinct⟩, ⟨orderly.marksLast, orderly.acyclic⟩, present⟩

/-- A phase of one instance keeps the balance of all instances, this one included. -/
theorem served_settled (steady : Steady run) (holds : s.HoldsOwn) (orderly : s.IsOrderly)
    (served : Served run key s t) {number : Nat} (settled : s.Settled number) :
    t.Settled number := by
  cases served with
  | left => exact settled
  | @ran id phase data raw result u present admits ran judged =>
      obtain ⟨holdsThen, orderlyThen, presentThen⟩ := opened holds orderly present phase
      obtain ⟨within, unready⟩ := steady _ _ _ _ _ _ ran key holdsThen orderlyThen presentThen
      rw [Store.Settled, isReady_closePhase, journal_closePhase]
      by_cases own : number = id
      · subst own
        obtain ⟨events, grown, silent⟩ := within.silent
        have begun : Balanced number false u.journal := by
          rw [grown]
          exact (settled.openPhase admits).append fun event member => silent event member _ rfl
        by_cases initializing : phase = .shutdown
        · subst initializing
          simp only [true_and, if_true]
          exact .silent rfl begun
        · have before : (s.openPhase key number phase).isReady number = false := by
            rw [isReady_openPhase]
            cases phase with
            | early => exact admits.1
            | late => exact admits.1
            | shutdown => exact absurd rfl initializing
          rw [if_neg fun both => initializing both.1, judged initializing]
          cases ready : u.isReady number with
          | true =>
              cases raw with
              | ok _ =>
                  rw [show verdict u key number phase (.ok ()) = .ok () by simp [verdict, ready]]
                  exact .succeeded initializing begun
              | error fault =>
                  have failed := unready initializing before (by simp)
                  rw [ready] at failed
                  cases failed
          | false =>
              have refused : (verdict u key number phase raw).isOk = false := by
                cases raw <;> simp [verdict, ready, Except.isOk, Except.toBool]
              rw [refused]
              refine .silent ?_ begun
              cases phase <;> rfl
      · have inner : u.Settled number :=
          within.others number (Ne.symm own) (settled.openPhase_of_ne (Ne.symm own) phase)
        rw [if_neg fun both => own both.2]
        refine .silent ?_ inner
        have apart : (id == number) = false := by simpa using Ne.symm own
        cases phase <;> cases result.isOk <;> simp [Event.isTurnOf, Event.succeeds, apart]

/-- Whatever the broker is asked to do about a key keeps the balance. -/
theorem request_settled (steady : Steady run) (holds : s.HoldsOwn) (orderly : s.IsOrderly)
    {action : Action} {data : StartupData} {answer : Except BrokerFault Answer}
    (names : action.named? = some key)
    (finished : action.request run data s = .finished (answer, t)) {number : Nat}
    (settled : s.Settled number) : t.Settled number := by
  obtain ⟨u, v, prefaced, found, served⟩ := request_serves names finished
  have first : Spares (fun _ => True) s u := .of_remarked prefaced.remarked
  have second : Spares (fun _ => True) u v := by
    rcases found with rfl | ⟨built, ending⟩
    · exact .refl _ _
    · exact .of_instanceEnd (first.holdsOwn holds) trivial ending
  have both : Spares (fun _ => True) s v := first.trans second
  have middle : v.Settled number := by
    have soon := settled.of_remarked prefaced.remarked
    rcases found with rfl | ⟨built, ending⟩
    · exact soon
    · exact soon.of_instanceEnd ending
  exact served_settled steady (both.holdsOwn holds) (both.isOrderly_iff.mpr orderly) served middle

/-- What the broker is asked to do about a key leaves instances alone from whose keys references
lead to the key, because references do not lead back. -/
theorem request_apart (confined : Local run) (holds : s.HoldsOwn) (orderly : s.IsOrderly)
    (leads : s.LeadsTo E key) {action : Action} {data : StartupData}
    {answer : Except BrokerFault Answer} (names : action.named? = some key)
    (finished : action.request run data s = .finished (answer, t)) :
    (∃ events, t.journal = events ++ s.journal ∧
      ∀ event ∈ events, ∀ id, E id → event.isTurnOf id = false) ∧
    ∀ id, E id → t.isReady id = s.isReady id := by
  have spares : Spares (s.Reaches key) s t :=
    request_spares confined holds (s.closed_reaches key) .refl names finished
  have unreached : ∀ {origin}, Relation.TransGen s.Names origin key → ¬ s.Reaches key origin :=
    fun path back => orderly.acyclic _ (path.trans_left back)
  constructor
  · obtain ⟨events, grown, concerned⟩ := spares.ran
    refine ⟨events, grown, fun event member id engaged => ?_⟩
    obtain ⟨origin, present, path⟩ := leads id engaged
    have foreign : ∀ about number, event.about? = some (about, number) →
        (number == id) = false := by
      intro about number concerns
      obtain ⟨within, there⟩ := concerned event member about number concerns
      have different : number ≠ id := by
        rintro rfl
        exact unreached path
          ((spares.holdsOwn holds).distinct there (spares.kept present) ▸ within)
      simpa using different
    cases event with
    | started about number phase => exact foreign about number rfl
    | ended about number phase succeeded =>
        have different := foreign about number rfl
        cases phase <;> cases succeeded <;> simp [Event.isTurnOf, Event.succeeds, different]
    | _ => rfl
  · intro id engaged
    obtain ⟨origin, present, path⟩ := leads id engaged
    rw [Store.isReady, spares.instance? holds (unreached path) present, Store.isReady]

/-- An action of a component keeps the balance of all instances that are not in progress. -/
theorem act_within (steady : Steady run) (confined : Local run) (holds : s.HoldsOwn)
    (orderly : s.IsOrderly) {now : Situation} (engaged : E now.id) {action : Action}
    (leads : ∀ other, action.named? = some other → s.LeadsTo E other)
    {result : Except PhaseFault Heard}
    (finished : act run now action s = .finished (result, t)) :
    Within E s t ∧
      (action ≠ .mark → action ≠ .unmark → t.isReady now.id = s.isReady now.id) := by
  cases act_ends finished with
  | marked => exact ⟨.mark engaged _, fun marking => absurd rfl marking⟩
  | unmarked => exact ⟨.unmark engaged _, fun _ unmarking => absurd rfl unmarking⟩
  | @requested _ other answer u _ names owned answered remarked =>
      obtain ⟨silent, same⟩ :=
        request_apart confined holds orderly (leads other names) names answered
      have asked : Within E s u :=
        ⟨silent, fun number _ => request_settled steady holds orderly names answered⟩
      refine ⟨asked.trans (.of_remarked remarked), fun _ _ => ?_⟩
      exact (Store.isReady_of_remarked remarked).trans (same now.id engaged)
  | unowned names unowned remarked =>
      exact ⟨.of_remarked remarked, fun _ _ => Store.isReady_of_remarked remarked⟩
  | remarked silent marking unmarking remarked =>
      exact ⟨.of_remarked remarked, fun _ _ => Store.isReady_of_remarked remarked⟩

/-- Actions keep the balance of all instances that are not in progress.  If they mark the component
last, a failure among them leaves it unmarked. -/
theorem perform_within (steady : Steady run) (confined : Local run) (holds : s.HoldsOwn)
    (orderly : s.IsOrderly) {now : Situation} (present : s.cachedId? key = some now.id)
    (engaged : E now.id) {course : Course}
    (leads : ∀ action ∈ course, ∀ other, action.named? = some other → s.LeadsTo E other)
    {result : Except PhaseFault Unit}
    (finished : perform run now course s = .finished (result, t)) :
    Within E s t ∧ (.unmark ∉ course → course.MarksLast → s.isReady now.id = false →
      result ≠ .ok () → t.isReady now.id = false) := by
  induction course generalizing s with
  | finish =>
      cases finished
      exact ⟨.refl E _, fun _ _ _ failed => absurd rfl failed⟩
  | act action next inductionHypothesis =>
      rw [perform, Work.bind_finished] at finished
      obtain ⟨done, u, first, following⟩ := finished
      obtain ⟨step, same⟩ := act_within steady confined holds orderly engaged
        (leads action Course.mem_act_self) first
      have spares : Spares (fun _ => True) s u :=
        act_spares confined holds s.closed_all trivial present (fun _ _ => trivial) first
      cases done with
      | error fault =>
          cases following
          refine ⟨step, fun unmarks _ unready _ => ?_⟩
          -- Marking cannot fail.
          have marking : action ≠ .mark := by
            rintro rfl
            cases act_ends first
          have unmarking : action ≠ .unmark := by
            rintro rfl
            exact unmarks Course.mem_act_self
          exact (same marking unmarking).trans unready
      | ok heard =>
          obtain ⟨later, unreadyLater⟩ := inductionHypothesis heard (spares.holdsOwn holds)
            (spares.isOrderly_iff.mpr orderly) (spares.kept present)
            (fun other member about names =>
              spares.leadsTo (leads other (Course.mem_act_of_mem member) about names)) following
          refine ⟨step.trans later, fun unmarks marksLast unready failed => ?_⟩
          have unmarking : action ≠ .unmark := by
            rintro rfl
            exact unmarks Course.mem_act_self
          -- After marking the course is over, and so it has not failed.
          have marking : action ≠ .mark := by
            rintro rfl
            cases first
            have onward : perform run now (next none) _ = .finished (result, t) := following
            rw [marksLast.1 rfl] at onward
            cases onward
            exact failed rfl
          exact unreadyLater (fun member => unmarks (Course.mem_act_of_mem member))
            (marksLast.2 heard) ((same marking unmarking).trans unready) failed

/-- The course of a script names keys that the key of the component refers to. -/
theorem names_of_planned (present : s.cachedId? key = some id) {script : Script}
    (scripted : (s.instance? id).map Component.body = some (.scripted script))
    {data seenData : StartupData} {phase seen : Phase} {course : Course}
    (planned : script.plan data phase = (seen, seenData, course)) :
    ∀ action ∈ course, ∀ other, action.named? = some other → s.Names key other := by
  intro action member other names
  exact ⟨_, s.bodyAt?_eq present scripted, data, phase, action, by rwa [planned], names⟩

theorem runBody_steady (steady : Steady run) (confined : Local run) : Steady (runBody run) := by
  intro id phase data s result t finished key holds orderly present
  -- A script is followed from the store on in which its phase has been entered.
  have follow : ∀ {script : Script} {phase seen : Phase} {seenData : StartupData}
      {course : Course} {u : Store} {done : Except PhaseFault Unit},
      (s.instance? id).map Component.body = some (.scripted script) →
      script.plan data phase = (seen, seenData, course) →
      perform run (s.situation id seen seenData) course (s.enter id seen) = .finished (done, u) →
      Within (id = ·) s u ∧ (.unmark ∉ course → course.MarksLast → s.isReady id = false →
        done ≠ .ok () → u.isReady id = false) := by
    intro script phase seen seenData course u done scripted planned performing
    have entered : Spares (fun _ => True) s (s.enter id seen) := .enter trivial present seen
    have leads : ∀ action ∈ course, ∀ other, action.named? = some other →
        (s.enter id seen).LeadsTo (id = ·) other := by
      rintro action member other names _ rfl
      have refers := names_of_planned present scripted planned action member other names
      exact ⟨key, entered.kept present, .single ((entered.names_iff key other).mpr refers)⟩
    obtain ⟨within, unready⟩ := perform_within steady confined (entered.holdsOwn holds)
      (entered.isOrderly_iff.mpr orderly) (entered.kept present) rfl leads performing
    refine ⟨(Within.enter rfl seen s).trans within, fun unmarks marksLast before => ?_⟩
    exact unready unmarks marksLast ((s.isReady_enter id seen).trans before)
  cases runBody_ends finished with
  | absent missing => exact ⟨.refl _ s, fun _ _ failed => absurd rfl failed⟩
  | @performed _ seen _ seenData script course _ _ initializing scripted planned performing =>
      obtain ⟨within, unready⟩ := follow scripted planned performing
      have marksLast := orderly.marksLast (s.bodyAt?_eq present scripted) data phase initializing
      rw [planned] at marksLast
      exact ⟨within, fun _ => unready marksLast.1 marksLast.2⟩
  | closed scripted performing remarked =>
      obtain ⟨within, -⟩ := follow scripted (Script.plan_shutdown _ data) performing
      exact ⟨within.trans (.of_remarked remarked), fun initializing => absurd rfl initializing⟩
  | marked initializing held => exact ⟨.mark rfl s, fun _ _ failed => absurd rfl failed⟩
  | refused initializing => exact ⟨.refl _ s, fun _ before _ => before⟩
  | @started _ _ body surroundings initializing held =>
      refine ⟨?_, fun _ _ failed => absurd rfl failed⟩
      have changed : Within (id = ·) s
          ({ s with surroundings }.update id fun component => { component with body }) :=
        .updateNoting rfl (fun component => { component with body }) []
          (fun _ member => absurd member List.not_mem_nil) (fun _ _ => rfl) rfl
      exact changed.trans (.mark rfl _)
  | unmarked => exact ⟨.unmark rfl s, fun initializing => absurd rfl initializing⟩
  | unloaded held =>
      refine ⟨?_, fun initializing => absurd rfl initializing⟩
      have changed : Within (id = ·) s
          (s.update id fun component => { component with body := .configuration none }) :=
        .updateNoting rfl (fun component => { component with body := .configuration none }) []
          (fun _ member => absurd member List.not_mem_nil) (fun _ _ => rfl) rfl
      exact changed.trans (.unmark rfl _)

/-- However deep phases may nest, those of orderly components keep the balance. -/
theorem runPhase_steady (depth : Nat) : Steady (runPhase depth) := by
  induction depth with
  | zero =>
      intro id phase data s result t finished
      cases finished
  | succ depth inductionHypothesis =>
      exact runBody_steady inductionHypothesis (runPhase_local depth)

end Walk

end Broker

end ServiceLifecycle
