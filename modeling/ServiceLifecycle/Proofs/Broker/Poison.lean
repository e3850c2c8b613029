/-
Module: ServiceLifecycle.Proofs.Broker.Poison
Purpose: When a key is poisoned, told from what has happened to it.
Main exports: FailedLast, lateFailed_iff, Move.grown_cases, Moves.started,
  Moment.Arises.poisonsHeld, poison_exact
-/
import ServiceLifecycle.Proofs.Broker.Instances

namespace ServiceLifecycle

/-!
The record of failures is written at the end of a late phase that fails, and cleared at the end
of an early phase that succeeds and when the key is evicted.  These may be nested in each other,
as an early phase of a key may run within a late phase of it, so the order in which they come to
their ends decides.

Nothing else writes the record, and a late phase is started only while the key has none.
-/

open Broker

/-- Of the events that decide about the poison of a key, the latest is a late phase of the key
that failed.  The events are given newest first. -/
def FailedLast (key : String) (journal : List Event) : Prop :=
  ∃ id later earlier, journal = later ++ .ended key id .late false :: earlier ∧
    (∀ other, .ended key other .early true ∉ later) ∧ .evicted key ∉ later

section Journal

variable {key : String} {event : Event} {journal : List Event}

theorem poisons?_eq_true :
    event.poisons? key = some true ↔ ∃ id, event = .ended key id .late false := by
  constructor
  · intro decided
    rw [Event.poisons?.eq_def] at decided
    split at decided <;> simp at decided
    subst decided
    exact ⟨_, rfl⟩
  · rintro ⟨id, rfl⟩
    simp [Event.poisons?]

theorem poisons?_eq_false :
    event.poisons? key = some false ↔
      (∃ id, event = .ended key id .early true) ∨ event = .evicted key := by
  constructor
  · intro decided
    rw [Event.poisons?.eq_def] at decided
    split at decided <;> simp at decided
    · subst decided
      exact .inl ⟨_, rfl⟩
    · subst decided
      exact .inr rfl
  · rintro (⟨id, rfl⟩ | rfl) <;> simp [Event.poisons?]

theorem not_failedLast_nil (key : String) : ¬ FailedLast key [] := by
  rintro ⟨id, later, earlier, split, -⟩
  simp at split

theorem failedLast_cons :
    FailedLast key (event :: journal) ↔
      event.poisons? key = some true ∨
        event.poisons? key ≠ some false ∧ FailedLast key journal := by
  rw [Ne, poisons?_eq_true, poisons?_eq_false, not_or]
  constructor
  · rintro ⟨id, later, earlier, split, cleared, evicted⟩
    cases later with
    | nil =>
        cases split
        exact .inl ⟨id, rfl⟩
    | cons first rest =>
        cases split
        refine .inr ⟨⟨?_, ?_⟩, id, rest, earlier, rfl, ?_, ?_⟩
        · rintro ⟨other, rfl⟩
          exact cleared other List.mem_cons_self
        · rintro rfl
          exact evicted List.mem_cons_self
        · exact fun other member => cleared other (List.mem_cons_of_mem _ member)
        · exact fun member => evicted (List.mem_cons_of_mem _ member)
  · rintro (⟨id, rfl⟩ | ⟨⟨notCleared, notEvicted⟩, id, later, earlier, rfl, cleared, evicted⟩)
    · refine ⟨id, [], journal, rfl, ?_, List.not_mem_nil⟩
      exact fun other => List.not_mem_nil
    · refine ⟨id, event :: later, earlier, rfl, ?_, ?_⟩
      · intro other member
        rcases List.mem_cons.mp member with same | inner
        · exact notCleared ⟨other, same.symm⟩
        · exact cleared other inner
      · intro member
        rcases List.mem_cons.mp member with same | inner
        · exact notEvicted same.symm
        · exact evicted inner

/-- What is computed from the journal is what it says. -/
theorem lateFailed_iff : lateFailed key journal = true ↔ FailedLast key journal := by
  induction journal with
  | nil => simp [lateFailed, not_failedLast_nil]
  | cons event rest inductionHypothesis =>
      rw [lateFailed_cons, failedLast_cons, ← inductionHypothesis]
      cases event.poisons? key with
      | none => simp
      | some decided => cases decided <;> simp

end Journal

section Steps

variable {before after moment : Moment} {key : String} {id : Nat} {phase : Phase}

/-- A step starts one phase, and that was not refused, or it starts none. -/
theorem Move.grown_cases (move : Move before after) :
    (∃ more, after.store.journal = more ++ before.store.journal ∧
      ∀ key id phase, .started key id phase ∉ more) ∨
    ∃ key id phase, after.store.journal = .started key id phase :: before.store.journal ∧
      before.store.cachedId? key = some id ∧ before.store.Admits key id phase := by
  cases move with
  | quiet change =>
      obtain ⟨remarks, grown, quiet⟩ := change.journal
      exact .inl ⟨remarks, grown, fun _ _ _ member => (quiet _ member).elim⟩
  | build absent assigned found =>
      exact .inl ⟨[_, _], Store.journal_construct _ _ _ _ _, by simp⟩
  | enter present admits => exact .inr ⟨_, _, _, journal_openPhase _ _ _ _, present, admits⟩
  | leave honest => exact .inl ⟨[_], journal_closePhase _ _ _ _ _, by simp⟩
  | @host s t change =>
      left
      have none : t.journal = s.journal → ∃ more, t.journal = more ++ s.journal ∧
          ∀ key id phase, .started key id phase ∉ more :=
        fun same => ⟨[], same, fun _ _ _ => List.not_mem_nil⟩
      have one : ∀ event, t.journal = event :: s.journal →
          (∀ key id phase, event ≠ .started key id phase) →
          ∃ more, t.journal = more ++ s.journal ∧
            ∀ key id phase, .started key id phase ∉ more := by
        intro event grown other
        refine ⟨[event], grown, fun key id phase member => ?_⟩
        exact other key id phase (List.mem_singleton.mp member).symm
      cases change using HostChange.byEffect with
      | unregister name => exact one _ rfl (by simp)
      | evict name component => exact one _ rfl (by simp)
      | create found => exact one _ rfl (by simp)
      | refuse implementation => exact one _ rfl (by simp)
      | report entry change => exact one _ rfl (by simp)
      | _ => exact none rfl

theorem suffix_of_notMem {event : Event} {earlier more journal : List Event}
    (part : event :: earlier <:+ more ++ journal) (other : event ∉ more) :
    event :: earlier <:+ journal := by
  induction more with
  | nil => exact part
  | cons first rest inductionHypothesis =>
      rw [List.mem_cons, not_or] at other
      rcases List.suffix_cons_iff.mp part with whole | inner
      · exact absurd (List.cons.inj whole).1 other.1
      · exact inductionHypothesis inner other.2

/-- Every start of a phase that some moves have noted was at a moment at which the broker did not
refuse it. -/
theorem Moves.started {start : Moment} (moves : Moves start moment) {earlier : List Event}
    (part : .started key id phase :: earlier <:+ moment.store.journal) :
    .started key id phase :: earlier <:+ start.store.journal ∨
      ∃ before : Moment, Moves start before ∧ Moves before moment ∧
        before.store.journal = earlier ∧ before.store.cachedId? key = some id ∧
        before.store.Admits key id phase := by
  induction moves with
  | refl => exact .inl part
  | @tail middle final moves last inductionHypothesis =>
      have further : .started key id phase :: earlier <:+ middle.store.journal →
          .started key id phase :: earlier <:+ start.store.journal ∨
            ∃ before : Moment, Moves start before ∧ Moves before final ∧
              before.store.journal = earlier ∧ before.store.cachedId? key = some id ∧
              before.store.Admits key id phase := by
        intro inner
        rcases inductionHypothesis inner with old | ⟨before, soon, late, rest⟩
        · exact .inl old
        · exact .inr ⟨before, soon, late.tail last, rest⟩
      rcases last.grown_cases with ⟨more, grown, silent⟩ | ⟨about, held, entered, grown, rest⟩
      · rw [grown] at part
        exact further (suffix_of_notMem part (silent key id phase))
      · rw [grown] at part
        rcases List.suffix_cons_iff.mp part with whole | inner
        · cases whole
          exact .inr ⟨middle, moves, .single last, rfl, rest⟩
        · exact further inner

/-- Every start of a phase in the journal was at a moment at which the broker did not refuse it. -/
theorem Moment.Arises.started (arises : moment.Arises) {earlier : List Event}
    (part : .started key id phase :: earlier <:+ moment.store.journal) :
    ∃ before : Moment, before.Arises ∧ before.store.journal = earlier ∧
      before.store.cachedId? key = some id ∧ before.store.Admits key id phase := by
  obtain ⟨s, isFresh, moves⟩ := arises
  rcases moves.started part with old | ⟨before, soon, -, rest⟩
  · rw [isFresh.journal] at old
    exact absurd old.length_le (by simp)
  · exact ⟨before, ⟨s, isFresh, soon⟩, rest⟩

/-- A poisoned key has an instance. -/
def Store.PoisonsHeld (s : Store) : Prop :=
  ∀ key, s.isPoisoned key = true → ∃ id, s.cachedId? key = some id

theorem Store.PoisonsHeld.evict {s : Store} (held : s.PoisonsHeld) (name : String)
    (mapping : Mapping) : ({ s with mapping }.evict name).PoisonsHeld := by
  intro key poisoned
  have record : (if key = name then none else s.poisoned.get? key).isSome = true :=
    (congrArg Option.isSome (Entries.get?_erase name key s.poisoned)).symm.trans poisoned
  have search : ({ s with mapping }.evict name).cachedId? key =
      if key = name then none else s.cachedId? key := Entries.get?_erase name key s.cached
  by_cases same : key = name
  · simp [same] at record
  · rw [if_neg same] at record
    rw [search, if_neg same]
    exact held key record

theorem Move.poisonsHeld (move : Move before after) (holds : before.HoldsInstances)
    (held : before.store.PoisonsHeld) : after.store.PoisonsHeld := by
  cases move with
  | quiet change =>
      intro other poisoned
      rw [Store.isPoisoned, change.poisoned] at poisoned
      rw [Store.cachedId?, change.cached]
      exact held other poisoned
  | @build frames s key implementation name body absent assigned found =>
      intro other poisoned
      rw [Store.cachedId?_construct]
      split
      · exact ⟨_, rfl⟩
      · exact held other poisoned
  | enter present admits =>
      intro other poisoned
      rw [Store.isPoisoned, poisoned_openPhase] at poisoned
      rw [Store.cachedId?, cached_openPhase]
      exact held other poisoned
  | @leave frames s key id phase result honest =>
      intro other poisoned
      rw [Store.cachedId?, cached_closePhase]
      by_cases same : other = key
      · subst same
        exact ⟨id, holds _ List.mem_cons_self⟩
      · -- The end of a phase decides about no other key.
        have silent : (Event.ended key id phase result.isOk).poisons? other = none := by
          cases phase <;> cases result.isOk <;> simp [Event.poisons?, Ne.symm same]
        rw [isPoisoned_closePhase, silent] at poisoned
        exact held other poisoned
  | @host s t change =>
      cases change using HostChange.byEffect with
      | unregister name => exact Store.PoisonsHeld.evict held name _
      | evict name component => exact Store.PoisonsHeld.evict held name s.mapping
      | _ => exact held

/-- At every moment a poisoned key has an instance. -/
theorem Moment.Arises.poisonsHeld (arises : moment.Arises) : moment.store.PoisonsHeld := by
  have both : moment.HoldsInstances ∧ moment.store.PoisonsHeld := by
    refine Moment.Arises.induction (motive := fun moment =>
      moment.HoldsInstances ∧ moment.store.PoisonsHeld) ?fresh ?move arises
    case fresh =>
      intro s isFresh
      refine ⟨fun frame member => absurd member List.not_mem_nil, fun key poisoned => ?_⟩
      rw [Store.isPoisoned, isFresh.poisoned] at poisoned
      exact absurd poisoned Bool.false_ne_true
    case move =>
      rintro before after move ⟨holds, held⟩
      exact ⟨move.holdsInstances holds, move.poisonsHeld holds held⟩
  exact both.2

end Steps

section Calls

variable {run : PhaseRunner} {construct : Work (Except BrokerFault Nat)} {key : String}
  {s t : Store}

/-- Coming by an instance does not touch the record. -/
theorem Broker.ComesBy.poisoned (comes : Broker.ComesBy construct key)
    {result : Except BrokerFault Nat} (finished : construct s = .finished (result, t)) :
    t.poisoned = s.poisoned := by
  rcases comes with rfl | ⟨implementation, rfl⟩
  · cases instanceFor_finished finished with
    | cached present => rfl
    | unbuildable absent nothing unresolved remark => rcases remark with rfl | ⟨_, rfl⟩ <;> rfl
    | built absent assigned found => rfl
  · cases constructAs_finished finished with
    | cached present => rfl
    | unbuildable absent nothing unresolved remark => rcases remark with rfl | rfl <;> rfl
    | built absent found => rfl

theorem Broker.isOk_verdict_iff {id : Nat} {phase : Phase} {raw : Except PhaseFault Unit} :
    (verdict s key id phase raw).isOk = true ↔ raw = .ok () ∧ s.isReady id = true := by
  cases raw with
  | error fault => simp [verdict, Except.isOk, Except.toBool]
  | ok _ => cases ready : s.isReady id <;> simp [verdict, ready, Except.isOk, Except.toBool]

/-- A fault that is put in other words is still a fault. -/
theorem isOk_mapError {α : Type} (about : PhaseFault → BrokerFault) (result : Except PhaseFault α) :
    (result.mapError about).isOk = result.isOk := by
  cases result <;> rfl

theorem isOk_map {α β : Type} (f : α → β) (result : Except PhaseFault α) :
    (result.map f).isOk = result.isOk := by
  cases result <;> rfl

/-- An early call clears the record of its key if it has run the early phase and that succeeded,
and does nothing else to it. -/
theorem Broker.EarlyEnd.record {data : StartupData} {result : Except BrokerFault Unit}
    (ending : EarlyEnd run construct key data s result t) (comes : Broker.ComesBy construct key) :
    t.poisoned = s.poisoned ∨ ∃ id u raw v,
      construct s = .finished (.ok id, u) ∧ u.poisoned = s.poisoned ∧
      run id .early data (u.openPhase key id .early) = .finished (raw, v) ∧
      t.journal = .ended key id .early result.isOk :: v.journal ∧
      (result.isOk = true ↔ raw = .ok () ∧ v.isReady id = true) ∧
      t.poisoned = if result.isOk then v.poisoned.erase key else v.poisoned := by
  cases ending with
  | unbuilt construction => exact .inl (comes.poisoned construction)
  | already construction ready => exact .inl (comes.poisoned construction)
  | circle construction unready again => exact .inl (comes.poisoned construction)
  | @ran id u v raw construction admits phase =>
      refine .inr ⟨id, u, raw, v, construction, comes.poisoned construction, phase, ?_⟩
      rw [isOk_mapError, journal_closePhase]
      refine ⟨rfl, isOk_verdict_iff, ?_⟩
      cases verdict v key id .early raw <;> rfl

/-- A late call writes the record of its key if it has run the late phase and that failed, and
does nothing else to it.  It runs no phase of a poisoned key. -/
theorem Broker.LateEnd.record {result : Except BrokerFault Nat}
    (ending : LateEnd run construct key s result t) (comes : Broker.ComesBy construct key) :
    t.poisoned = s.poisoned ∨ s.isPoisoned key = false ∧ ∃ id u raw v,
      construct s = .finished (.ok id, u) ∧ u.poisoned = s.poisoned ∧
      run id .late {} (u.openPhase key id .late) = .finished (raw, v) ∧
      t.journal = .ended key id .late result.isOk :: v.journal ∧
      (result.isOk = true ↔ raw = .ok () ∧ v.isReady id = true) ∧
      ∃ reason, t.poisoned = if result.isOk then v.poisoned else v.poisoned.put key reason := by
  cases ending with
  | unbuilt construction => exact .inl (comes.poisoned construction)
  | already construction ready => exact .inl (comes.poisoned construction)
  | poisoned construction unready record => exact .inl (comes.poisoned construction)
  | @ran id u v raw construction admits phase =>
      have unchanged : u.poisoned = s.poisoned := comes.poisoned construction
      have clean : s.isPoisoned key = false := by
        obtain ⟨-, record, -⟩ := admits
        rw [Store.isPoisoned, ← unchanged, Entries.contains, record]
        rfl
      refine .inr ⟨clean, id, u, raw, v, construction, unchanged, phase, ?_⟩
      rw [isOk_mapError, isOk_map, journal_closePhase]
      refine ⟨rfl, isOk_verdict_iff, ?_⟩
      cases verdict v key id .late raw with
      | ok _ => exact ⟨"", rfl⟩
      | error fault => exact ⟨(Fault.phase fault).chain, rfl⟩

/-- A shutdown does nothing to the record. -/
theorem Broker.ShutdownEnd.record {result : Bool} (ending : ShutdownEnd run key s result t) :
    t.poisoned = s.poisoned ∨ ∃ id raw v,
      run id .shutdown {} (s.openPhase key id .shutdown) = .finished (raw, v) ∧
      t.poisoned = v.poisoned := by
  cases ending with
  | absent missing => exact .inl rfl
  | idle present unready => exact .inl rfl
  | ran present ready phase => exact .inr ⟨_, _, _, phase, rfl⟩

end Calls

/-- At every point of every history, whatever the components do, a key is poisoned exactly if the
latest of the following events about it is of the first kind: a late phase that the broker had
started failed or left the instance uninitialized; an early phase that the broker had started
succeeded and left the instance initialized; the key was evicted.  A poisoned key has an
instance, and no late phase of a key was ever started while it was poisoned.

The events are what the calls come to.  A call on a key leaves the record as it is, or it has run
a phase, and then it goes on from the record that the phase has left: an early call drops the
entry of the key if the phase reported no fault and left the instance initialized, a late one
makes an entry otherwise, and a shutdown does neither. -/
theorem poison_exact {task : Task} {frames : List Frame} {s : Store}
    (underway : Underway task frames s) :
    (∀ key, s.isPoisoned key = true ↔ FailedLast key s.journal) ∧
    (∀ key, s.isPoisoned key = true → ∃ id, s.cachedId? key = some id) ∧
    (∀ key id earlier, .started key id .late :: earlier <:+ s.journal → ¬ FailedLast key earlier) ∧
    (∀ construct key data, task = .early construct key data → ∀ depth result t,
      earlyFrom (runPhase depth) construct key data s = .finished (result, t) →
        t.poisoned = s.poisoned ∨ ∃ id u raw v,
          construct s = .finished (.ok id, u) ∧ u.poisoned = s.poisoned ∧
          runPhase depth id .early data (u.openPhase key id .early) = .finished (raw, v) ∧
          t.journal = .ended key id .early result.isOk :: v.journal ∧
          (result.isOk = true ↔ raw = .ok () ∧ v.isReady id = true) ∧
          t.poisoned = if result.isOk then v.poisoned.erase key else v.poisoned) ∧
    (∀ construct key, task = .late construct key → ∀ depth result t,
      lateFrom (runPhase depth) construct key s = .finished (result, t) →
        t.poisoned = s.poisoned ∨ s.isPoisoned key = false ∧ ∃ id u raw v,
          construct s = .finished (.ok id, u) ∧ u.poisoned = s.poisoned ∧
          runPhase depth id .late {} (u.openPhase key id .late) = .finished (raw, v) ∧
          t.journal = .ended key id .late result.isOk :: v.journal ∧
          (result.isOk = true ↔ raw = .ok () ∧ v.isReady id = true) ∧
          ∃ reason, t.poisoned =
            if result.isOk then v.poisoned else v.poisoned.put key reason) ∧
    (∀ key, task = .shutdown key → ∀ depth result t,
      shutdownInstanceBy (runPhase depth) key s = .finished (result, t) →
        t.poisoned = s.poisoned ∨ ∃ id raw v,
          runPhase depth id .shutdown {} (s.openPhase key id .shutdown) = .finished (raw, v) ∧
          t.poisoned = v.poisoned) := by
  obtain ⟨arises, -⟩ := underway.arises
  have comes : task.ComesBy := underway.comesBy
  refine ⟨?exact, arises.poisonsHeld, ?clean, ?early, ?late, ?shutdown⟩
  case exact =>
    intro key
    rw [arises.recordsFailures key]
    exact lateFailed_iff
  case clean =>
    intro key id earlier part failed
    obtain ⟨before, earlierArises, same, -, -, clean, -⟩ := arises.started part
    rw [← same, ← lateFailed_iff, ← earlierArises.recordsFailures key, Store.isPoisoned,
      Entries.contains, clean] at failed
    exact Bool.false_ne_true failed
  case early =>
    rintro construct key data rfl depth result t finished
    exact (earlyFrom_finished.mp finished).record comes
  case late =>
    rintro construct key rfl depth result t finished
    exact (lateFrom_finished.mp finished).record comes
  case shutdown =>
    rintro key rfl depth result t finished
    exact (shutdownInstanceBy_finished.mp finished).record

/-- The body of a component whose late phase has it initialized early and then fails. -/
def Body.detouring : Body :=
  .scripted
    { early := some (.straight [.mark])
      late := some (.straight [.early "K" .propagate, .fail "too late" none]) }

/-- A broker of one such component. -/
def Store.detour : Store :=
  { registry := { recipes := [("K", .build .detouring)] } }

/-- The component has been asked for once. -/
def Store.detoured : Store :=
  Store.detour.afterCall (.resolve "K")

theorem underway_detoured : Underway .idle [] Store.detoured := by
  have fresh : Underway .idle [] Store.detour := .fresh ⟨rfl, rfl, rfl, rfl, rfl, rfl⟩
  exact fresh.afterCall (.resolve "K") trivial rfl

/-- The early phase has succeeded within the late one, and yet the key is poisoned, because the
late phase was the last to end. -/
theorem poison_exact_detoured :
    Store.detoured.journal.take 2 =
      [.ended "K" 0 .late false, .ended "K" 0 .early true] ∧
    Store.detoured.isPoisoned "K" = true ∧ Store.detoured.isInitialized "K" = true ∧
    FailedLast "K" Store.detoured.journal := by
  obtain ⟨exact, -⟩ := poison_exact underway_detoured
  have poisoned : Store.detoured.isPoisoned "K" = true := rfl
  exact ⟨rfl, poisoned, rfl, (exact "K").mp poisoned⟩

end ServiceLifecycle
