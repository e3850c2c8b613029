/-
Module: ServiceLifecycle.Proofs.Broker.Readiness
Purpose: What a caller gets of an instance whose last initialization failed.
Main exports: lastInit, hasMarked, Moment.Arises.marked, Withholds, resolve_withholds_iff
-/
import ServiceLifecycle.Proofs.Broker.FailureRecord

namespace ServiceLifecycle

/-!
A call for a ready instance asks for the status of the instance first, and for the
record of failures only when the status is false.  A phase may set the status and fail
afterwards.  So it is the status alone that decides whether a failed initialization
keeps an instance from being handed out, and the record matters only behind it.
-/

open Broker

/-- What an event says about the end of an initializing phase of an instance. -/
def Event.initOutcome? (id : Nat) : Event → Option Bool
  | .ended _ about .early succeeded | .ended _ about .late succeeded =>
      if about = id then some succeeded else none
  | _ => none

/-- How the initializing phase of an instance that ended last came to its end. -/
def lastInit (id : Nat) (journal : List Event) : Option Bool :=
  journal.findSome? (Event.initOutcome? id)

/-- An instance marks itself, or starts over. -/
def Event.marking? (id : Nat) : Event → Option Bool
  | .marked about => if about = id then some true else none
  | .started _ about .early | .started _ about .late => if about = id then some false else none
  | _ => none

/-- An instance has marked itself since an initializing phase of it was started last. -/
def hasMarked (id : Nat) (journal : List Event) : Bool :=
  (journal.findSome? (Event.marking? id)).getD false

theorem hasMarked_cons (id : Nat) (event : Event) (journal : List Event) :
    hasMarked id (event :: journal) = (event.marking? id).getD (hasMarked id journal) :=
  findSome?_getD_cons (Event.marking? id) event journal

section Steps

variable {id : Nat} {s t : Store}

/-- Among remarks, only marks say something, and they all say the same. -/
theorem hasMarked_remarks {owner : Option Nat} {remarks : List Event}
    (quiet : ∀ event ∈ remarks, event.IsRemark owner) (journal : List Event) :
    hasMarked id (remarks ++ journal) =
      (decide (.marked id ∈ remarks) || hasMarked id journal) := by
  induction remarks with
  | nil => rfl
  | cons event rest inductionHypothesis =>
      have remaining := inductionHypothesis fun other member =>
        quiet other (List.mem_cons_of_mem _ member)
      have remark := quiet event List.mem_cons_self
      rw [List.cons_append, hasMarked_cons, remaining]
      cases event with
      | marked about =>
          by_cases same : about = id
          · simp [Event.marking?, same]
          · simp [Event.marking?, same, Ne.symm same]
      | refused implementation => simp [Event.marking?]
      | entered label phase => simp [Event.marking?]
      | said label text => simp [Event.marking?]
      | reported entry => simp [Event.marking?]
      | _ => exact remark.elim

/-- A new instance is not initialized. -/
theorem Store.isReady_add (s : Store) (implementation : String) (body : Body)
    (key : Option String) (id : Nat) :
    (s.add implementation body key).2.isReady id = s.isReady id := by
  simp only [Store.add, Store.isReady, Store.instance?, Store.note]
  by_cases last : id = s.instances.length
  · subst last
    simp
  · by_cases within : id < s.instances.length
    · rw [List.getElem?_append_left within]
    · rw [List.getElem?_eq_none (by simp; omega), List.getElem?_eq_none (by omega)]

/-- The host does not change the status of an instance. -/
theorem HostChange.isReady (change : HostChange s t) (id : Nat) : t.isReady id = s.isReady id := by
  cases change using HostChange.byEffect with
  | create found => exact s.isReady_add _ _ none id
  | _ => rfl

/-- Whoever is initialized has marked itself. -/
def Store.MarksAreOwn (s : Store) : Prop :=
  ∀ id, s.isReady id = true → hasMarked id s.journal = true

theorem HostChange.marksAreOwn (change : HostChange s t) (own : s.MarksAreOwn) :
    t.MarksAreOwn := by
  intro id ready
  rw [change.isReady] at ready
  have marked := own id ready
  cases change using HostChange.byEffect with
  | _ => exact marked

theorem isReady_openPhase (s : Store) (key : String) (id other : Nat) (phase : Phase) :
    (s.openPhase key id phase).isReady other = s.isReady other := by
  cases phase <;> rfl

theorem isReady_closePhase (s : Store) (key : String) (id other : Nat) (phase : Phase)
    (result : Except PhaseFault Unit) :
    (s.closePhase key id phase result).isReady other =
      if phase = .shutdown ∧ other = id then false else s.isReady other := by
  cases phase with
  | early => cases result <;> rfl
  | late => cases result <;> rfl
  | shutdown =>
      simp only [true_and]
      exact Store.isReady_unmark _ id other

theorem Move.marksAreOwn {before after : Moment} (move : Move before after)
    (own : before.store.MarksAreOwn) : after.store.MarksAreOwn := by
  intro id ready
  cases move with
  | @quiet frames s t change =>
      obtain ⟨remarks, grown, quiet⟩ := change.journal
      rw [grown, hasMarked_remarks quiet]
      rcases change.marked id ready with earlier | ⟨others, same, member⟩
      · rw [own id earlier, Bool.or_true]
      · have equal : others = remarks := List.append_cancel_right (same.symm.trans grown)
        subst equal
        rw [decide_eq_true member, Bool.true_or]
  | build absent assigned found =>
      rw [Store.isReady_construct] at ready
      rw [Store.journal_construct, hasMarked_cons, hasMarked_cons]
      exact own id ready
  | @enter frames s key started phase present admits =>
      rw [isReady_openPhase] at ready
      rw [journal_openPhase, hasMarked_cons]
      have other : Event.marking? id (.started key started phase) = none := by
        cases phase with
        | shutdown => rfl
        | early =>
            have different : started ≠ id := by
              rintro rfl
              exact absurd ready (by simp [admits.1])
            simp [Event.marking?, different]
        | late =>
            have different : started ≠ id := by
              rintro rfl
              exact absurd ready (by simp [admits.1])
            simp [Event.marking?, different]
      rw [other]
      exact own id ready
  | leave honest =>
      rw [isReady_closePhase] at ready
      split at ready
      · exact absurd ready Bool.false_ne_true
      · rw [journal_closePhase, hasMarked_cons]
        exact own id ready
  | host change => exact change.marksAreOwn own id ready

end Steps

/-- At every moment an initialized instance has marked itself since its last initializing
phase was started. -/
theorem Moment.Arises.marksAreOwn {moment : Moment} (arises : moment.Arises) :
    moment.store.MarksAreOwn := by
  refine Moment.Arises.induction ?fresh (fun _ _ move => move.marksAreOwn) arises
  intro s isFresh id ready
  rw [Store.isReady, Store.instance?, isFresh.instances] at ready
  exact absurd ready Bool.false_ne_true

/-- A call for a ready instance reports a fault, or it has run an initializing phase of the
instance that succeeded. -/
def Withholds (key : String) (id : Nat) (s : Store) (result : Except BrokerFault Nat)
    (t : Store) : Prop :=
  (∃ fault, result = .error fault) ∨
    ∃ phase events, phase ≠ Phase.shutdown ∧ t.journal = events ++ s.journal ∧
      .ended key id phase true ∈ events

section Calls

variable {run : PhaseRunner} {key : String} {id : Nat} {s t : Store}
  {result : Except BrokerFault Nat}

theorem instanceFor_cached (present : s.cachedId? key = some id) :
    instanceFor key s = .finished (.ok id, s) := by
  obtain ⟨found, t, finished, ending⟩ := instanceFor_ends key s
  cases ending with
  | cached other =>
      rw [present] at other
      cases other
      exact finished
  | unbuildable absent nothing unresolved remark => rw [present] at absent; cases absent
  | built absent assigned found => rw [present] at absent; cases absent

/-- An initialized instance is handed out as it is, whatever happened to it before. -/
theorem resolveBy_ready (present : s.cachedId? key = some id) (ready : s.isReady id = true) :
    resolveBy run key s = .finished (.ok id, s) :=
  lateFrom_finished.mpr (.already (instanceFor_cached present) ready)

/-- Nothing is done about a key that is initialized. -/
theorem earlyBy_initialized {data : StartupData} (initialized : s.isInitialized key = true) :
    earlyBy run key data s = .finished (.ok (), announce s key) := by
  obtain ⟨id, present, ready⟩ := Store.isInitialized_iff.mp initialized
  have same : (announce s key).cachedId? key = s.cachedId? key ∧
      (announce s key).isReady id = s.isReady id := by
    rw [announce]
    split <;> exact ⟨rfl, rfl⟩
  rw [earlyBy_apply]
  exact earlyFrom_finished.mpr
    (.already (instanceFor_cached (same.1.trans present)) (same.2.trans ready))

/-- An uninitialized instance of a poisoned key is refused with the recorded reason. -/
theorem resolveBy_poisoned {reason : String} (present : s.cachedId? key = some id)
    (unready : s.isReady id = false) (record : s.poisoned.get? key = some reason) :
    resolveBy run key s =
      .finished (.error (.uninitialized key (.failed reason none)), s) :=
  lateFrom_finished.mpr (.poisoned (instanceFor_cached present) unready record)

/-- An uninitialized instance is not handed out without another try. -/
theorem resolveBy_withholds (faithful : Faithful run) (present : s.cachedId? key = some id)
    (unready : s.isReady id = false) (finished : resolveBy run key s = .finished (result, t)) :
    Withholds key id s result t := by
  cases lateFrom_finished.mp finished with
  | unbuilt construction => exact .inl ⟨_, rfl⟩
  | already construction ready =>
      rw [instanceFor_cached present] at construction
      cases construction
      exact absurd ready (by simp [unready])
  | poisoned construction unready record => exact .inl ⟨_, rfl⟩
  | @ran other u v raw construction admits phase =>
      rw [instanceFor_cached present] at construction
      cases construction
      cases answer : verdict v key id .late raw with
      | error fault => exact .inl ⟨_, rfl⟩
      | ok _ =>
          obtain ⟨events, grown⟩ := (faithful _ _ _ _ _ _ phase key []).journal_suffix
          refine .inr ⟨.late, .ended key id .late true :: events ++ [.started key id .late],
            by decide, ?_, by simp⟩
          rw [journal_closePhase, ← grown, journal_openPhase]
          simp [Except.isOk, Except.toBool]

theorem not_withholds_self (s : Store) (key : String) (id other : Nat) :
    ¬ Withholds key id s (.ok other) s := by
  rintro (⟨fault, equal⟩ | ⟨phase, events, _, grown, member⟩)
  · cases equal
  · have none : events = [] := List.self_eq_append_left.mp grown
    rw [none] at member
    cases member

end Calls

/-- At every point of every history, whether a call for a ready instance withholds a cached
instance, unless it first initializes it anew, depends on nothing but the status of the
instance.  An initialized one is handed out at once, even if its last initialization
failed: all that is certain is that it has marked itself since that was started.  An
uninitialized one is refused with the recorded reason once its late phase has failed, and
otherwise it is not handed out before another phase has succeeded. -/
theorem resolve_withholds_iff {task : Task} {frames : List Frame} {s : Store} {key : String}
    {id : Nat} (underway : Underway task frames s) (present : s.cachedId? key = some id) :
    (s.isReady id = true → hasMarked id s.journal = true ∧
      ∀ depth, resolveBy (runPhase depth) key s = .finished (.ok id, s)) ∧
    (s.isReady id = false → lateFailed key s.journal = true →
      ∃ reason, s.poisoned.get? key = some reason ∧
        ∀ depth, resolveBy (runPhase depth) key s =
          .finished (.error (.uninitialized key (.failed reason none)), s)) ∧
    (∀ depth result t, resolveBy (runPhase depth) key s = .finished (result, t) →
      (Withholds key id s result t ↔ s.isReady id = false)) ∧
    ∀ depth wanted result t,
      resolveAsBy (runPhase depth) key wanted s = .finished (result, t) →
        (Withholds key id s result t ↔
          s.isReady id = false ∨ (s.instance? id).any (·.has wanted) = false) := by
  obtain ⟨arises, -⟩ := underway.arises
  have records : s.RecordsFailures := arises.recordsFailures
  have own : s.MarksAreOwn := arises.marksAreOwn
  refine ⟨fun ready => ⟨own id ready, fun depth => resolveBy_ready present ready⟩, ?_, ?_, ?_⟩
  · intro unready failed
    have poisoned : (s.poisoned.get? key).isSome = true := (records key).trans failed
    obtain ⟨reason, record⟩ := Option.isSome_iff_exists.mp poisoned
    exact ⟨reason, record, fun depth => resolveBy_poisoned present unready record⟩
  · intro depth result t finished
    constructor
    · intro withholds
      cases ready : s.isReady id with
      | false => rfl
      | true =>
          rw [resolveBy_ready present ready] at finished
          cases finished
          exact absurd withholds (not_withholds_self s key id id)
    · intro unready
      exact resolveBy_withholds (runPhase_faithful depth) present unready finished
  · intro depth wanted result t finished
    cases ready : s.isReady id with
    | false =>
        have withholds : Withholds key id s result t := by
          obtain ⟨resolved, resolution, rfl | rfl⟩ := resolveBy_of_resolveAsBy finished
          · exact resolveBy_withholds (runPhase_faithful depth) present ready resolution
          · exact .inl ⟨_, rfl⟩
        exact ⟨fun _ => .inl rfl, fun _ => withholds⟩
    | true =>
        rw [resolveAsBy, Work.bind_apply, resolveBy_ready present ready] at finished
        cases fits : (s.instance? id).any (·.has wanted) with
        | true =>
            obtain ⟨rfl, rfl⟩ : .ok id = result ∧ s = t := by simpa [fits] using finished
            have kept := not_withholds_self s key id id
            exact ⟨fun withholds => absurd withholds kept, by simp⟩
        | false =>
            obtain ⟨rfl, rfl⟩ : .error (.typeMismatch key wanted.typeName) = result ∧ s = t := by
              simpa [fits] using finished
            exact ⟨fun _ => .inr rfl, fun _ => .inl ⟨_, rfl⟩⟩

/-- The body of a component that becomes initialized late and then fails. -/
def Body.markingThenFailing : Body :=
  .scripted { late := some (.straight [.mark, .fail "after mark" none]) }

/-- A broker of one such component. -/
def Store.premature : Store :=
  { registry := { recipes := [("K", .build .markingThenFailing)] } }

/-- The component has been asked for once, and its late phase has failed. -/
def Store.prematurelyMarked : Store :=
  let begun := (Store.premature.construct "K" "K" none .markingThenFailing).openPhase "K" 0 .late
  let acting := (begun.update 0 fun component => { component with calls := { late := 1 } }).note
    (.entered (some 1) .late)
  (acting.mark 0).closePhase "K" 0 .late (.error (.failed "after mark" none))

theorem underway_prematurelyMarked : Underway .idle [] Store.prematurelyMarked := by
  have fresh : Underway .idle [] Store.premature := .fresh ⟨rfl, rfl, rfl, rfl, rfl, rfl⟩
  exact @Underway.answered _ _ (.resolve "K") 1 fresh trivial rfl

/-- The late phase of the component has failed, and the next call hands it out. -/
theorem prematurelyMarked_handed_out :
    Underway .idle [] Store.prematurelyMarked ∧
    Store.prematurelyMarked.cachedId? "K" = some 0 ∧
    lastInit 0 Store.prematurelyMarked.journal = some false ∧
    lateFailed "K" Store.prematurelyMarked.journal = true ∧
    resolve "K" Store.prematurelyMarked = .finished (.ok 0, Store.prematurelyMarked) ∧
    ¬ Withholds "K" 0 Store.prematurelyMarked (.ok 0) Store.prematurelyMarked :=
  ⟨underway_prematurelyMarked, rfl, rfl, rfl, rfl, not_withholds_self _ "K" 0 0⟩

/-- The component is handed out because it has marked itself. -/
theorem resolve_withholds_iff_prematurelyMarked :
    Store.prematurelyMarked.cachedId? "K" = some 0 ∧
    hasMarked 0 Store.prematurelyMarked.journal = true ∧
    resolveBy (runPhase 1) "K" Store.prematurelyMarked =
      .finished (.ok 0, Store.prematurelyMarked) := by
  obtain ⟨handedOut, -⟩ := resolve_withholds_iff underway_prematurelyMarked
    (show Store.prematurelyMarked.cachedId? "K" = some 0 from rfl)
  have ready : Store.prematurelyMarked.isReady 0 = true := rfl
  exact ⟨rfl, (handedOut ready).1, (handedOut ready).2 1⟩

end ServiceLifecycle
