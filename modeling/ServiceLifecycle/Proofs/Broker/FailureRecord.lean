/-
Module: ServiceLifecycle.Proofs.Broker.FailureRecord
Purpose: The record of failed late phases, read off the journal.
Main exports: Event.poisons?, lateFailed, Move.journal_suffix, Store.RecordsFailures,
  Moment.Arises.recordsFailures
-/
import ServiceLifecycle.Proofs.Broker.Underway

namespace ServiceLifecycle

/-!
Three kinds of events decide whether a key is poisoned: a late phase of the key that
fails, an early phase of it that succeeds, and its eviction.  The latest of them counts,
and nothing else does.
-/

open Broker

/-- What an event says about the poison of a key, if it says anything. -/
def Event.poisons? (key : String) : Event → Option Bool
  | .ended about _ .late false => if about = key then some true else none
  | .ended about _ .early true => if about = key then some false else none
  | .evicted about => if about = key then some false else none
  | _ => none

/-- The latest event that says anything about the poison of a key is a failed late phase. -/
def lateFailed (key : String) (journal : List Event) : Bool :=
  (journal.findSome? (Event.poisons? key)).getD false

/-- The latest event decides if it says anything. -/
theorem findSome?_getD_cons (verdict : Event → Option Bool) (event : Event) (journal : List Event) :
    ((event :: journal).findSome? verdict).getD false =
      (verdict event).getD ((journal.findSome? verdict).getD false) := by
  rw [List.findSome?_cons]
  cases verdict event <;> rfl

theorem lateFailed_cons (key : String) (event : Event) (journal : List Event) :
    lateFailed key (event :: journal) = (event.poisons? key).getD (lateFailed key journal) :=
  findSome?_getD_cons (Event.poisons? key) event journal

theorem lateFailed_remarks {key : String} {owner : Option Nat} {remarks : List Event}
    (quiet : ∀ event ∈ remarks, event.IsRemark owner) (journal : List Event) :
    lateFailed key (remarks ++ journal) = lateFailed key journal := by
  induction remarks with
  | nil => rfl
  | cons event rest inductionHypothesis =>
      have silent : event.poisons? key = none := by
        have remark := quiet event List.mem_cons_self
        cases event <;> first | rfl | exact remark.elim
      rw [List.cons_append, lateFailed_cons, silent]
      exact inductionHypothesis fun other member => quiet other (List.mem_cons_of_mem _ member)

section Steps

variable {s t : Store}

theorem HostChange.journal_suffix (change : HostChange s t) : s.journal <:+ t.journal := by
  cases change using HostChange.byEffect with
  | registry same => exact List.suffix_refl _
  | remap mapping change => exact List.suffix_refl _
  | unregister name => exact List.suffix_cons _ _
  | evict key component => exact List.suffix_cons _ _
  | create found => exact List.suffix_cons _ _
  | refuse implementation => exact List.suffix_cons _ _
  | report entry change => exact List.suffix_cons _ _
  | enable sink => exact List.suffix_refl _
  | furnish provider applicationRoot objects surroundings => exact List.suffix_refl _

theorem journal_openPhase (s : Store) (key : String) (id : Nat) (phase : Phase) :
    (s.openPhase key id phase).journal = .started key id phase :: s.journal := by
  cases phase <;> rfl

theorem journal_closePhase (s : Store) (key : String) (id : Nat) (phase : Phase)
    (result : Except PhaseFault Unit) :
    (s.closePhase key id phase result).journal = .ended key id phase result.isOk :: s.journal := by
  cases phase <;> cases result <;> rfl

/-- The journal only grows. -/
theorem Move.journal_suffix {before after : Moment} (move : Move before after) :
    before.store.journal <:+ after.store.journal := by
  cases move with
  | quiet change =>
      obtain ⟨remarks, grown, -⟩ := change.journal
      exact ⟨remarks, grown.symm⟩
  | build absent assigned found => exact (List.suffix_cons _ _).trans (List.suffix_cons _ _)
  | enter present admits =>
      rw [journal_openPhase]
      exact List.suffix_cons _ _
  | leave honest =>
      rw [journal_closePhase]
      exact List.suffix_cons _ _
  | host change => exact change.journal_suffix

theorem Moves.journal_suffix {before after : Moment} (moves : Moves before after) :
    before.store.journal <:+ after.store.journal := by
  induction moves with
  | refl => exact List.suffix_refl _
  | tail _ last inductionHypothesis => exact inductionHypothesis.trans last.journal_suffix

theorem poisoned_openPhase (s : Store) (key : String) (id : Nat) (phase : Phase) :
    (s.openPhase key id phase).poisoned = s.poisoned := by
  cases phase <;> rfl

/-- The record says what the journal says. -/
def Store.RecordsFailures (s : Store) : Prop :=
  ∀ key, s.isPoisoned key = lateFailed key s.journal

theorem Store.RecordsFailures.note {event : Event} (records : s.RecordsFailures)
    (silent : ∀ key, event.poisons? key = none) : (s.note event).RecordsFailures := by
  intro key
  rw [Store.note, lateFailed_cons, silent key]
  exact records key

theorem isPoisoned_closePhase (s : Store) (key other : String) (id : Nat) (phase : Phase)
    (result : Except PhaseFault Unit) :
    (s.closePhase key id phase result).isPoisoned other =
      ((Event.ended key id phase result.isOk).poisons? other).getD (s.isPoisoned other) := by
  cases phase with
  | shutdown => rfl
  | early =>
      cases result with
      | error fault => rfl
      | ok _ =>
          have erased : (s.closePhase key id .early (.ok ())).isPoisoned other =
              (if other = key then none else s.poisoned.get? other).isSome :=
            congrArg Option.isSome (Entries.get?_erase key other s.poisoned)
          rw [erased]
          by_cases same : key = other
          · simp [Event.poisons?, Except.isOk, Except.toBool, same]
          · simp [Event.poisons?, Except.isOk, Except.toBool, same, Ne.symm same]
            rfl
  | late =>
      cases result with
      | ok _ => rfl
      | error fault =>
          have put : (s.closePhase key id .late (.error fault)).isPoisoned other =
              (if other = key then some (Fault.phase fault).chain
                else s.poisoned.get? other).isSome :=
            congrArg Option.isSome (Entries.get?_put key other _ s.poisoned)
          rw [put]
          by_cases same : key = other
          · simp [Event.poisons?, Except.isOk, Except.toBool, same]
          · simp [Event.poisons?, Except.isOk, Except.toBool, same, Ne.symm same]
            rfl

theorem Store.RecordsFailures.evicted {name : String} (records : s.RecordsFailures)
    (mapping : Mapping) : ({ s with mapping }.evict name).RecordsFailures := by
  intro key
  have erased : ({ s with mapping }.evict name).isPoisoned key =
      (if key = name then none else s.poisoned.get? key).isSome :=
    congrArg Option.isSome (Entries.get?_erase name key s.poisoned)
  rw [erased, Store.evict, Store.note, lateFailed_cons, Event.poisons?]
  by_cases same : name = key
  · simp [same]
  · simp only [Ne.symm same, same, if_false, Option.getD_none]
    exact records key

theorem HostChange.recordsFailures (change : HostChange s t) (records : s.RecordsFailures) :
    t.RecordsFailures := by
  cases change using HostChange.byEffect with
  | registry same => exact records
  | remap mapping change => exact records
  | unregister name => exact records.evicted _
  | evict key component => exact records.evicted s.mapping
  | create found => exact records.note fun _ => rfl
  | refuse implementation => exact records.note fun _ => rfl
  | report entry change => exact records.note fun _ => rfl
  | enable sink => exact records
  | furnish provider applicationRoot objects surroundings => exact records

theorem Move.recordsFailures {before after : Moment} (move : Move before after)
    (records : before.store.RecordsFailures) : after.store.RecordsFailures := by
  cases move with
  | quiet change =>
      intro key
      obtain ⟨remarks, grown, quiet⟩ := change.journal
      rw [grown, lateFailed_remarks quiet, ← records key, Store.isPoisoned, change.poisoned]
      rfl
  | build absent assigned found =>
      intro key
      rw [Store.journal_construct, lateFailed_cons, lateFailed_cons]
      exact records key
  | enter present admits =>
      intro key
      rw [journal_openPhase, lateFailed_cons, Store.isPoisoned, poisoned_openPhase]
      exact records key
  | leave honest =>
      intro key
      rw [journal_closePhase, lateFailed_cons, isPoisoned_closePhase]
      rw [records key]
  | host change => exact change.recordsFailures records

end Steps

/-- At every moment a key is poisoned when the latest event that decides about it is a failed
late phase. -/
theorem Moment.Arises.recordsFailures {moment : Moment} (arises : moment.Arises) :
    moment.store.RecordsFailures := by
  refine Moment.Arises.induction ?fresh (fun _ _ move => move.recordsFailures) arises
  intro s isFresh key
  rw [Store.isPoisoned, isFresh.poisoned, isFresh.journal]
  rfl

end ServiceLifecycle
