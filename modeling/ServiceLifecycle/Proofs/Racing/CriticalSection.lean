/-
Module: ServiceLifecycle.Proofs.Racing.CriticalSection
Purpose: What a thread knows at each stage of its call, and that its own steps bear it out.
Main exports: Stage.Knows, Stage.Holds, Kept, Racing.work_kept
-/
import ServiceLifecycle.Proofs.Racing.Accounts

namespace ServiceLifecycle

/-!
The store tells what has been tried while nobody holds the lock of the key.  This is what the
threads may rely on that get the lock, and what they have to restore before they give it back.  In
between they know more than that, and as no other thread changes the store meanwhile, they still
know it at their next step.

What a thread knows without the lock is little: which instance it is concerned with, and whether it
has seen that instance ready.  Both stay true whatever the others do.
-/

open Broker

/-- The instance that an errand is about. -/
def Errand.subject? : Errand → Option Nat
  | build => none
  | settle id => some id

namespace Stage

/-- The instance that a thread is concerned with. -/
def subject? : Stage → Option Nat
  | fetches errand | waits errand _ => errand.subject?
  | checks id | consults id | rechecks _ id | reconsults _ id | begins _ id | enters _ id
  | judges _ id _ | records _ id _ => some id
  | performs _ now _ => some now.id
  | releases _ next => next.subject?
  | returned (.ok id) => some id
  | _ => none

/-- The instance that a thread has seen to be ready. -/
def seenReady? : Stage → Option Nat
  | releases _ next => next.seenReady?
  | returned (.ok id) => some id
  | _ => none

/-- What a thread knows whether it holds the lock or not. -/
structure Knows (key : String) (s : Store) (stage : Stage) : Prop where
  subject : ∀ id, stage.subject? = some id → s.cachedId? key = some id
  seenReady : ∀ id, stage.seenReady? = some id → s.isReady id = true

/-- What a thread knows besides while it holds the lock. -/
def Holds (key : String) (origin : Tally) (s : Store) : Stage → Prop
  | looksAgain _ | rechecks _ _ => s.Guarded key origin
  | builds _ => s.Guarded key origin ∧ s.cachedId? key = none
  | publishes _ id =>
      s.cachedId? key = none ∧ s.isReady id = false ∧ s.IsFit id ∧
        (tally key s.journal).begun = origin.begun ∧ (tally key s.journal).failed = origin.failed
  | reconsults _ id => s.Guarded key origin ∧ s.isReady id = false
  | begins _ id =>
      s.isReady id = false ∧
        (tally key s.journal).begun = origin.begun ∧ (tally key s.journal).failed = origin.failed
  | enters _ id => s.isReady id = false ∧ (tally key s.journal).failed = origin.failed
  | performs _ now course =>
      (tally key s.journal).failed = origin.failed ∧ (course ≠ .finish → s.isReady now.id = false) ∧
        (∀ action ∈ course, ¬ action.CallsOwner) ∧ course.MarksLast
  | judges _ id result => ∀ fault, result = .error fault → s.isReady id = false
  | records _ id _ => s.isReady id = false
  | releases _ next => next.lock? = none ∧ s.Guarded key origin
  | _ => True

theorem Knows.later {key : String} {s t : Store} {stage : Stage} (knows : stage.Knows key s)
    (precedes : s.Precedes key t) : stage.Knows key t :=
  ⟨fun id about => precedes.cached id (knows.subject id about),
    fun id seen => precedes.ready id (knows.seenReady id seen)⟩

theorem holds_of_free {key : String} {origin : Tally} {s : Store} {stage : Stage}
    (free : stage.held? = none) : stage.Holds key origin s := by
  cases stage <;> trivial

/-- A thread is concerned with the instance that is cached, and has not seen it ready. -/
theorem knows_cached {key : String} {s : Store} {stage : Stage} {id : Nat}
    (cached : s.cachedId? key = some id) (subject : stage.subject? = some id)
    (unseen : stage.seenReady? = none) : stage.Knows key s := by
  constructor
  case subject =>
    intro other about
    rw [subject] at about
    cases about
    exact cached
  case seenReady =>
    intro other seen
    rw [unseen] at seen
    cases seen

/-- A thread has seen the cached instance ready. -/
theorem knows_ready {key : String} {s : Store} {stage : Stage} {id : Nat}
    (cached : s.cachedId? key = some id) (ready : s.isReady id = true)
    (subject : stage.subject? = some id) (seen : stage.seenReady? = some id) :
    stage.Knows key s := by
  constructor
  case subject =>
    intro other about
    rw [subject] at about
    cases about
    exact cached
  case seenReady =>
    intro other same
    rw [seen] at same
    cases same
    exact ready

/-- A thread that is concerned with no instance knows nothing. -/
theorem knows_nothing {key : String} {s : Store} {stage : Stage} (subject : stage.subject? = none)
    (unseen : stage.seenReady? = none) : stage.Knows key s := by
  constructor
  case subject =>
    intro id about
    rw [subject] at about
    cases about
  case seenReady =>
    intro id seen
    rw [unseen] at seen
    cases seen

/-- A late phase has reported no fault. -/
theorem holds_judges_ok {key : String} {origin : Tally} {s : Store} {lock id : Nat} :
    (judges lock id (.ok ())).Holds key origin s :=
  fun _ failure => by cases failure

/-- What a thread knows of a course that it has still to take. -/
theorem holds_performs_act {key : String} {origin : Tally} {s : Store} {lock : Nat}
    {now : Situation} {action : Action} {next : Heard → Course}
    (holds : (performs lock now (.act action next)).Holds key origin s) :
    s.isReady now.id = false ∧ action.named? = none ∧ (action = .mark → next none = .finish) ∧
      (∀ heard, ∀ other ∈ next heard, ¬ other.CallsOwner) ∧ ∀ heard, (next heard).MarksLast := by
  obtain ⟨-, unready, callsNobody, last, marksLater⟩ := holds
  refine ⟨unready (by simp), ?silent, last, ?later, marksLater⟩
  case silent =>
    cases names : action.named? with
    | none => rfl
    | some about =>
        exact absurd (callsOwner_of_named? names) (callsNobody action Course.mem_act_self)
  case later =>
    exact fun heard other member => callsNobody other (Course.mem_act_of_mem member)

end Stage

/-- A step of a thread that leaves everything in order, and what the thread knows after it. -/
structure Kept (key implementation : String) (origin : Tally) (s t : Store) (next : Stage) :
    Prop where
  precedes : s.Precedes key t
  inOrder : t.InOrder key implementation origin
  knows : next.Knows key t
  holds : next.Holds key origin t

/-- An instance that is cached gets its owner and perhaps a name, and that is all. -/
theorem Store.adopt_eq (s : Store) (key : String) (name : Option String) (id : Nat) :
    ∃ change : Component → Component,
      (∀ component, (change component).initialized = component.initialized) ∧
      (∀ component, (change component).body.kind = component.body.kind) ∧
      s.adopt key name id =
        { s.update id change with cached := s.cached.put key id }.note (.cached key id) := by
  refine ⟨_, ?status, ?kept, rfl⟩
  case status =>
    intro component
    cases name with
    | none => rfl
    | some given => cases component.name <;> rfl
  case kept =>
    intro component
    cases name with
    | none => rfl
    | some given => cases component.name <;> rfl

namespace Racing

section Work

variable {key implementation : String} {name : Option String} {origin : Tally} {s t : Store}
  {next : Stage} {lock id : Nat}

/-- A thread that has only looked knows what it has seen. -/
theorem kept_looked (inOrder : s.InOrder key implementation origin) (knows : next.Knows key s)
    (holds : next.Holds key origin s) : Kept key implementation origin s s next :=
  ⟨.refl s, inOrder, knows, holds⟩

theorem kept_resembling (inOrder : s.InOrder key implementation origin)
    (resembles : s.Resembles key t) (knows : next.Knows key s)
    (holds : next.Holds key origin t) : Kept key implementation origin s t next :=
  ⟨resembles.precedes, inOrder.resembling resembles, knows.later resembles.precedes, holds⟩

/-- The first instance is built where nothing has been tried. -/
theorem kept_added (inOrder : s.InOrder key implementation origin)
    (absent : s.cachedId? key = none) (untried : tally key s.journal = origin) {body : Body}
    (found : s.registry.bodyFor? implementation = some body) :
    Kept key implementation origin s (s.add implementation body (some key)).2
      (.publishes lock s.instances.length) := by
  have still : (s.add implementation body (some key)).2.cachedId? key = none := absent
  have ready := s.isReady_add implementation body (some key)
  have counted : tally key (s.add implementation body (some key)).2.journal =
      ⟨origin.built + 1, origin.begun, origin.failed⟩ := by
    rw [← untried]
    exact tally_built key s.journal _ _ _ _
  have fresh : s.isReady s.instances.length = false := by
    rw [Store.isReady, Store.instance?, List.getElem?_eq_none (Nat.le_refl _)]
    rfl
  have last : (s.add implementation body (some key)).2.instance? s.instances.length =
      some { implementation, body, label := s.nextLabel body } := by
    simp [Store.add, Store.note, Store.instance?]
  refine ⟨?precedes, ?inOrder, Stage.knows_nothing rfl rfl, still, ?fresh, ?fits, ?counts⟩
  case precedes =>
    exact ⟨List.suffix_cons _ _, fun _ cached => cached, fun id seen => (ready id).trans seen⟩
  case inOrder =>
    constructor
    case built => exact counted ▸ Nat.le_refl _
    case begun => exact counted ▸ Nat.le_succ _
    case unfailed => exact fun _ _ _ => by rw [counted]
    case fits =>
      intro id cached
      rw [still] at cached
      cases cached
    case recipe => exact inOrder.recipe
  case fresh => exact (ready _).trans fresh
  case fits =>
    intro other held
    rw [last] at held
    cases held
    exact inOrder.recipe body found
  case counts =>
    rw [counted]
    exact ⟨rfl, rfl⟩

theorem kept_builds (inOrder : s.InOrder key implementation origin)
    (holds : (Stage.builds lock).Holds key origin s)
    (done : work key implementation name s (.builds lock) = some (t, next)) :
    Kept key implementation origin s t next := by
  obtain ⟨guarded, absent⟩ := holds
  -- An attempt that comes to nothing may leave a note, which nobody looks at.
  have given_up : ∀ {fault : BrokerFault} {u : Store},
      (u = s ∨ u = s.note (.refused implementation)) →
      Kept key implementation origin s u (.releases lock (.returned (.error fault))) := by
    intro fault u remark
    have resembles : s.Resembles key u := by
      rcases remark with same | same
      · rw [same]
        exact .refl s
      · rw [same]
        exact .note s rfl rfl rfl
    exact kept_resembling inOrder resembles (Stage.knows_nothing rfl rfl)
      ⟨rfl, guarded.resembling resembles⟩
  simp only [work] at done
  cases finished : build implementation (some key) s with
  | finished ended =>
      obtain ⟨built, u⟩ := ended
      rw [finished] at done
      cases build_finished finished with
      | unknown nothing =>
          cases done
          exact given_up (.inl rfl)
      | refused nothing remark =>
          cases done
          exact given_up remark
      | made found =>
          cases done
          exact kept_added inOrder absent (guarded.absent absent) found
  | _ =>
      rw [finished] at done
      cases done

theorem kept_publishes (inOrder : s.InOrder key implementation origin)
    (holds : (Stage.publishes lock id).Holds key origin s)
    (done : work key implementation name s (.publishes lock id) = some (t, next)) :
    Kept key implementation origin s t next := by
  obtain ⟨absent, fresh, isFit, unbegun, unfailed⟩ := holds
  cases done
  obtain ⟨change, status, kept, adopted⟩ := s.adopt_eq key name id
  have ready : ∀ other, (s.adopt key name id).isReady other = s.isReady other := by
    rw [adopted]
    exact s.isReady_update id status
  have kinds : ∀ other, (s.adopt key name id).kindOf? other = s.kindOf? other := by
    rw [adopted]
    exact s.kindOf?_update id kept
  have cached : (s.adopt key name id).cachedId? key = some id := by
    have put : (s.adopt key name id).cachedId? key = (s.cached.put key id).get? key := rfl
    rw [put, Entries.get?_put, if_pos rfl]
  have counted : tally key (s.adopt key name id).journal = tally key s.journal :=
    tally_silent key _ rfl rfl rfl
  have unready : (s.adopt key name id).isReady id = false := (ready id).trans fresh
  refine ⟨⟨List.suffix_cons _ _, ?_, fun other seen => (ready other).trans seen⟩, ?_,
    Stage.knows_cached cached rfl rfl, rfl, ?_⟩
  · intro other present
    rw [absent] at present
    cases present
  · constructor
    case built => exact counted ▸ inOrder.built
    case begun => exact counted ▸ inOrder.begun
    case unfailed => exact fun _ _ _ => counted ▸ unfailed
    case fits =>
      intro other present
      rw [cached] at present
      cases present
      exact Store.isFit_of_kindOf? (kinds id) isFit
    case recipe => exact inOrder.recipe
  · constructor
    case absent =>
      intro missing
      rw [cached] at missing
      cases missing
    case pending => exact fun _ _ _ _ => counted ▸ ⟨unbegun, unfailed⟩

theorem kept_begins (inOrder : s.InOrder key implementation origin)
    (knows : (Stage.begins lock id).Knows key s) (holds : (Stage.begins lock id).Holds key origin s)
    (done : work key implementation name s (.begins lock id) = some (t, next)) :
    Kept key implementation origin s t next := by
  obtain ⟨unready, unbegun, unfailed⟩ := holds
  cases done
  have counted : tally key (s.openPhase key id .late).journal =
      ⟨(tally key s.journal).built, (tally key s.journal).begun + 1,
        (tally key s.journal).failed⟩ := tally_started key _ id
  have precedes : s.Precedes key (s.openPhase key id .late) :=
    ⟨List.suffix_cons _ _, fun _ cached => cached, fun _ ready => ready⟩
  have started : (s.openPhase key id .late).InOrder key implementation origin := by
    constructor
    case built => exact counted ▸ inOrder.built
    case begun => exact counted ▸ unbegun ▸ Nat.le_refl _
    case unfailed => exact fun _ _ _ => counted ▸ unfailed
    case fits => exact inOrder.fits
    case recipe => exact inOrder.recipe
  exact ⟨precedes, started, Stage.knows_cached (knows.subject id rfl) rfl rfl, unready,
    counted ▸ unfailed⟩

/-- The late phase of an instance may make it ready as long as none has failed. -/
theorem inOrder_mark (inOrder : s.InOrder key implementation origin)
    (unfailed : (tally key s.journal).failed = origin.failed) (id : Nat) :
    (s.mark id).InOrder key implementation origin := by
  have counted : tally key (s.mark id).journal = tally key s.journal :=
    tally_silent key _ rfl rfl rfl
  constructor
  case built => exact counted ▸ inOrder.built
  case begun => exact counted ▸ inOrder.begun
  case unfailed => exact fun _ _ _ => counted ▸ unfailed
  case fits =>
    intro other cached
    exact Store.isFit_of_kindOf? (s.kindOf?_mark id other) (inOrder.fits other cached)
  case recipe => exact inOrder.recipe

theorem precedes_mark (s : Store) (id : Nat) : s.Precedes key (s.mark id) := by
  refine ⟨List.suffix_cons _ _, fun _ cached => cached, ?_⟩
  intro other ready
  rw [Store.isReady_mark]
  by_cases same : other = id
  · rw [Store.isReady, same, Option.any_eq_true] at ready
    obtain ⟨component, held, -⟩ := ready
    rw [if_pos same, held]
    rfl
  · rw [if_neg same]
    exact ready

/-- The instance of the key becomes ready at the end of its late phase. -/
theorem kept_mark (inOrder : s.InOrder key implementation origin)
    (unfailed : (tally key s.journal).failed = origin.failed) (id : Nat) (knows : next.Knows key s)
    (holds : (tally key (s.mark id).journal).failed = origin.failed →
      next.Holds key origin (s.mark id)) :
    Kept key implementation origin s (s.mark id) next := by
  have counted : tally key (s.mark id).journal = tally key s.journal :=
    tally_silent key _ rfl rfl rfl
  exact ⟨precedes_mark s id, inOrder_mark inOrder unfailed id, knows.later (precedes_mark s id),
    holds (counted ▸ unfailed)⟩

/-- A built-in service, or a component that only keeps its status, is done with its late phase in
one step. -/
theorem kept_built_in (inOrder : s.InOrder key implementation origin)
    (cached : s.cachedId? key = some id) (unready : s.isReady id = false)
    (unfailed : (tally key s.journal).failed = origin.failed)
    (unscripted : ∀ script, (s.instance? id).map Component.body ≠ some (.scripted script))
    {result : Except PhaseFault Unit} (ran : runPhase 1 id .late {} s = .finished (result, t)) :
    Kept key implementation origin s t (.judges lock id result) := by
  have known : (Stage.judges lock id result).Knows key s :=
    Stage.knows_cached cached rfl rfl
  cases runBody_ends ran with
  | absent missing =>
      exact kept_looked inOrder known Stage.holds_judges_ok
  | performed initializing scripted planned performing => exact absurd scripted (unscripted _)
  | marked initializing held =>
      exact kept_mark inOrder unfailed id known fun _ => Stage.holds_judges_ok
  | refused initializing => exact kept_looked inOrder known fun _ _ => unready
  | @started _ _ body surroundings initializing held =>
      have kind : s.kindOf? id = some body.kind := by
        rw [← held, Option.map_map]
        rfl
      have loads : s.Resembles key
          ({ s with surroundings }.update id fun component => { component with body }) :=
        Store.resembles_load kind
      have marks := kept_mark (inOrder.resembling loads) (loads.tally ▸ unfailed) id
        (known.later loads.precedes) fun _ => Stage.holds_judges_ok
      exact ⟨loads.precedes.trans marks.precedes, marks.inOrder, marks.knows, marks.holds⟩

theorem kept_enters (inOrder : s.InOrder key implementation origin)
    (knows : (Stage.enters lock id).Knows key s) (holds : (Stage.enters lock id).Holds key origin s)
    (done : work key implementation name s (.enters lock id) = some (t, next)) :
    Kept key implementation origin s t next := by
  obtain ⟨unready, unfailed⟩ := holds
  have cached : s.cachedId? key = some id := knows.subject id rfl
  simp only [work] at done
  split at done
  case h_1 script held =>
    cases done
    have resembles : s.Resembles key (s.enter id .late) := s.resembles_enter id .late
    obtain ⟨component, present, follows⟩ := Option.map_eq_some_iff.mp held
    obtain ⟨callsNobody, marksLast⟩ : (Body.scripted script).SettlesLast :=
      follows ▸ inOrder.fits id cached component present
    exact kept_resembling inOrder resembles
      (Stage.knows_cached cached rfl rfl)
      ⟨resembles.tally ▸ unfailed, fun _ => (resembles.ready id).trans unready, callsNobody,
        marksLast⟩
  case h_2 unscripted =>
    split at done
    case h_1 result u ran =>
      cases done
      exact kept_built_in inOrder cached unready unfailed unscripted ran
    case h_2 => cases done

/-- An action that is not for the broker marks or unmarks its component, or leaves a remark. -/
theorem act_cases {now : Situation} {action : Action} {result : Except PhaseFault Heard}
    (silent : action.named? = none)
    (finished : act (runPhase 0) now action s = .finished (result, t)) :
    (action = .mark ∧ result = .ok none ∧ t = s.mark now.id) ∨
      (action = .unmark ∧ result = .ok none ∧ t = s.unmark now.id) ∨ s.Remarked t := by
  cases act_ends finished with
  | marked => exact .inl ⟨rfl, rfl, rfl⟩
  | unmarked => exact .inr (.inl ⟨rfl, rfl, rfl⟩)
  | requested names owned answered remarked =>
      rw [silent] at names
      cases names
  | unowned names unowned remarked => exact .inr (.inr remarked)
  | remarked silent marking unmarking remarked => exact .inr (.inr remarked)

/-- Unless a component marks itself, nobody sees a difference. -/
theorem act_unseen {now : Situation} {action : Action} {result : Except PhaseFault Heard}
    (silent : action.named? = none) (unready : s.isReady now.id = false)
    (different : action ≠ .mark)
    (finished : act (runPhase 0) now action s = .finished (result, t)) : s.Resembles key t := by
  rcases act_cases silent finished with ⟨marks, -⟩ | ⟨-, -, rfl⟩ | remarked
  · exact absurd marks different
  · exact Store.resembles_unmark unready
  · exact remarked.resembles

theorem kept_performs (inOrder : s.InOrder key implementation origin) {now : Situation}
    {course : Course} (knows : (Stage.performs lock now course).Knows key s)
    (holds : (Stage.performs lock now course).Holds key origin s)
    (done : work key implementation name s (.performs lock now course) = some (t, next)) :
    Kept key implementation origin s t next := by
  have cached : s.cachedId? key = some now.id := knows.subject now.id rfl
  have unfailed : (tally key s.journal).failed = origin.failed := holds.1
  cases course with
  | finish =>
      cases done
      exact kept_looked inOrder (Stage.knows_cached cached rfl rfl) Stage.holds_judges_ok
  | act action further =>
      obtain ⟨unready, silent, last, later, marksLater⟩ := Stage.holds_performs_act holds
      simp only [work] at done
      split at done
      case h_1 heard u ran =>
        cases done
        by_cases marks : action = .mark
        · -- The component marks itself, and nothing is left to be done.
          have finished : further none = .finish := last marks
          subst marks
          cases ran
          exact kept_mark inOrder unfailed now.id (Stage.knows_cached cached rfl rfl) fun still =>
            ⟨still, fun left => absurd finished left, later none, marksLater none⟩
        · have resembles : s.Resembles key t := act_unseen silent unready marks ran
          exact kept_resembling inOrder resembles (Stage.knows_cached cached rfl rfl)
            ⟨resembles.tally ▸ unfailed, fun _ => (resembles.ready now.id).trans unready,
              later heard, marksLater heard⟩
      case h_2 fault u ran =>
        cases done
        have different : action ≠ .mark := by
          rintro rfl
          cases ran
        have resembles : s.Resembles key t := act_unseen silent unready different ran
        exact kept_resembling inOrder resembles (Stage.knows_cached cached rfl rfl)
          fun _ _ => (resembles.ready now.id).trans unready
      case h_3 => cases done

/-- A late phase that is rejected has left the instance as it was. -/
theorem unready_of_rejected {result : Except PhaseFault Unit} {fault : PhaseFault}
    (unready : ∀ failure, result = .error failure → s.isReady id = false)
    (bad : verdict s key id .late result = .error fault) : s.isReady id = false := by
  cases result with
  | error failure => exact unready failure rfl
  | ok _ =>
      rw [verdict] at bad
      split at bad
      · cases bad
      · rename_i idle
        exact Bool.not_eq_true _ ▸ idle

/-- The late phase of an instance that is not ready has failed. -/
theorem inOrder_failed (inOrder : s.InOrder key implementation origin)
    (cached : s.cachedId? key = some id) (unready : s.isReady id = false) :
    (s.endLate key id false).InOrder key implementation origin := by
  have counted : tally key (s.endLate key id false).journal =
      ⟨(tally key s.journal).built, (tally key s.journal).begun,
        (tally key s.journal).failed + 1⟩ := tally_failed key _ id
  constructor
  case built => exact counted ▸ inOrder.built
  case begun => exact counted ▸ inOrder.begun
  case unfailed =>
    intro other present ready
    have same : some id = some other := cached.symm.trans present
    cases same
    have status : s.isReady id = true := ready
    rw [unready] at status
    cases status
  case fits => exact inOrder.fits
  case recipe => exact inOrder.recipe

theorem kept_judges (inOrder : s.InOrder key implementation origin)
    {result : Except PhaseFault Unit} (knows : (Stage.judges lock id result).Knows key s)
    (holds : (Stage.judges lock id result).Holds key origin s)
    (done : work key implementation name s (.judges lock id result) = some (t, next)) :
    Kept key implementation origin s t next := by
  have cached : s.cachedId? key = some id := knows.subject id rfl
  simp only [work] at done
  split at done
  case h_1 good =>
    cases done
    have ready : s.isReady id = true := isReady_of_verdict_ok good
    have resembles : s.Resembles key (s.endLate key id true) :=
      ⟨List.suffix_cons _ _, tally_silent key _ rfl rfl rfl, rfl, rfl, fun _ => rfl, rfl,
        fun _ => rfl⟩
    exact kept_resembling inOrder resembles (Stage.knows_ready cached ready rfl rfl)
      ⟨rfl, Store.guarded_of_ready cached ready⟩
  case h_2 fault bad =>
    cases done
    have status : s.isReady id = false := unready_of_rejected holds bad
    have precedes : s.Precedes key (s.endLate key id false) :=
      ⟨List.suffix_cons _ _, fun _ present => present, fun _ ready => ready⟩
    exact ⟨precedes, inOrder_failed inOrder cached status, Stage.knows_cached cached rfl rfl,
      status⟩

theorem kept_records (inOrder : s.InOrder key implementation origin) {fault : PhaseFault}
    (knows : (Stage.records lock id fault).Knows key s)
    (done : work key implementation name s (.records lock id fault) = some (t, next)) :
    Kept key implementation origin s t next := by
  have cached : s.cachedId? key = some id := knows.subject id rfl
  cases done
  have poisoned : (s.poison key (Fault.phase fault).chain).isPoisoned key = true := by
    rw [Store.isPoisoned, Entries.contains, Store.poison, Entries.get?_put, if_pos rfl]
    rfl
  have precedes : s.Precedes key (s.poison key (Fault.phase fault).chain) :=
    ⟨List.suffix_refl _, fun _ present => present, fun _ ready => ready⟩
  refine ⟨precedes, ?inOrder, Stage.knows_nothing rfl rfl, rfl, ?guarded⟩
  case inOrder =>
    exact ⟨inOrder.built, inOrder.begun, inOrder.unfailed, inOrder.fits, inOrder.recipe⟩
  case guarded => exact Store.guarded_of_poisoned cached poisoned

/-- Whatever step a thread takes, it keeps the store in order and leaves the thread with what it
needs to know at its next stage. -/
theorem work_kept {stage : Stage} (inOrder : s.InOrder key implementation origin)
    (knows : stage.Knows key s) (holds : stage.Holds key origin s)
    (done : work key implementation name s stage = some (t, next)) :
    Kept key implementation origin s t next := by
  cases stage with
  | peeks =>
      simp only [work] at done
      split at done
      case h_1 id cached =>
        cases done
        exact kept_looked inOrder (Stage.knows_cached cached rfl rfl) trivial
      case h_2 absent =>
        cases done
        exact kept_looked inOrder (Stage.knows_nothing rfl rfl) trivial
  | fetches errand => cases done
  | waits errand lock => cases done
  | looksAgain lock =>
      simp only [work] at done
      split at done
      case h_1 id cached =>
        cases done
        exact kept_looked inOrder (Stage.knows_cached cached rfl rfl) ⟨rfl, holds⟩
      case h_2 absent =>
        cases done
        exact kept_looked inOrder (Stage.knows_nothing rfl rfl) ⟨holds, absent⟩
  | builds lock => exact kept_builds inOrder holds done
  | publishes lock id => exact kept_publishes inOrder holds done
  | checks id =>
      have cached : s.cachedId? key = some id := knows.subject id rfl
      cases done
      by_cases ready : s.isReady id = true
      · rw [if_pos ready]
        exact kept_looked inOrder (Stage.knows_ready cached ready rfl rfl) trivial
      · rw [if_neg ready]
        exact kept_looked inOrder (Stage.knows_cached cached rfl rfl) trivial
  | consults id =>
      have cached : s.cachedId? key = some id := knows.subject id rfl
      simp only [work] at done
      split at done
      case h_1 reason record =>
        cases done
        exact kept_looked inOrder (Stage.knows_nothing rfl rfl) trivial
      case h_2 clean =>
        cases done
        exact kept_looked inOrder (Stage.knows_cached cached rfl rfl) trivial
  | rechecks lock id =>
      have cached : s.cachedId? key = some id := knows.subject id rfl
      cases done
      by_cases ready : s.isReady id = true
      · rw [if_pos ready]
        exact kept_looked inOrder (Stage.knows_ready cached ready rfl rfl) ⟨rfl, holds⟩
      · rw [if_neg ready]
        exact kept_looked inOrder (Stage.knows_cached cached rfl rfl)
          ⟨holds, Bool.not_eq_true _ ▸ ready⟩
  | reconsults lock id =>
      have cached : s.cachedId? key = some id := knows.subject id rfl
      obtain ⟨guarded, unready⟩ := holds
      simp only [work] at done
      split at done
      case h_1 reason record =>
        cases done
        exact kept_looked inOrder (Stage.knows_nothing rfl rfl) ⟨rfl, guarded⟩
      case h_2 clean =>
        cases done
        exact kept_looked inOrder (Stage.knows_cached cached rfl rfl)
          ⟨unready, guarded.pending id cached unready (Store.isPoisoned_eq_false clean)⟩
  | begins lock id => exact kept_begins inOrder knows holds done
  | enters lock id => exact kept_enters inOrder knows holds done
  | performs lock now course => exact kept_performs inOrder knows holds done
  | judges lock id result => exact kept_judges inOrder knows holds done
  | records lock id fault => exact kept_records inOrder knows done
  | releases lock next => cases done
  | returned result => cases done

end Work

end Racing

end ServiceLifecycle
