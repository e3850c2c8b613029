/-
Module: ServiceLifecycle.Proofs.Broker.InProgress
Purpose: What a broker records about the initializing phases in progress.
Main exports: phaseFrames, Store.keysIn, Moment.Recorded, Moment.Arises.recorded
-/
import ServiceLifecycle.Proofs.Broker.Moves
import Mathlib.Data.List.Nodup

namespace ServiceLifecycle

/-!
The broker has a list of keys for each of the two initializing phases.  A key goes onto the
list when the broker hands over to the phase, and comes off when the phase ends, however it
ends.  Since a key on the list is refused, no key is on it twice.
-/

/-- The frames of one phase, innermost first. -/
def phaseFrames (phase : Phase) (frames : List Frame) : List Frame :=
  frames.filter fun frame => frame.phase = phase

theorem phaseFrames_cons (phase : Phase) (frame : Frame) (frames : List Frame) :
    phaseFrames phase (frame :: frames) =
      if frame.phase = phase then frame :: phaseFrames phase frames
      else phaseFrames phase frames := by
  by_cases same : frame.phase = phase <;> simp [phaseFrames, same]

theorem mem_phaseFrames {phase : Phase} {frame : Frame} {frames : List Frame} :
    frame ∈ phaseFrames phase frames ↔ frame ∈ frames ∧ frame.phase = phase := by
  simp [phaseFrames]

/-- The keys that the broker has recorded for an initializing phase, innermost first. -/
def Store.keysIn (s : Store) : Phase → List String
  | .early => s.stack
  | .late => s.settling
  | .shutdown => []

section Steps

variable {s t : Store} {phase : Phase}

theorem keysIn_openPhase (initializing : phase ≠ .shutdown) (s : Store) (key : String) (id : Nat)
    (opened : Phase) :
    (s.openPhase key id opened).keysIn phase =
      if opened = phase then key :: s.keysIn phase else s.keysIn phase := by
  cases phase with
  | shutdown => exact absurd rfl initializing
  | early => cases opened <;> rfl
  | late => cases opened <;> rfl

theorem keysIn_closePhase (initializing : phase ≠ .shutdown) (s : Store) (key : String) (id : Nat)
    (closed : Phase) (result : Except PhaseFault Unit) :
    (s.closePhase key id closed result).keysIn phase =
      if closed = phase then (s.keysIn phase).tail else s.keysIn phase := by
  cases phase with
  | shutdown => exact absurd rfl initializing
  | early => cases closed <;> cases result <;> rfl
  | late => cases closed <;> cases result <;> rfl

theorem Quiet.keysIn {owner : Option Nat} (change : Quiet owner s t) (phase : Phase) :
    t.keysIn phase = s.keysIn phase := by
  cases phase with
  | early => exact change.stack
  | late => exact change.settling
  | shutdown => rfl

theorem HostChange.keysIn (change : HostChange s t) (phase : Phase) :
    t.keysIn phase = s.keysIn phase := by
  cases change using HostChange.byEffect with
  | _ => cases phase <;> rfl

/-- A phase of a recorded key is not started. -/
theorem Store.Admits.not_mem_keysIn {key : String} {id : Nat} (admits : s.Admits key id phase) :
    key ∉ s.keysIn phase := by
  cases phase with
  | early => exact admits.2
  | late => exact admits.2.2
  | shutdown => exact List.not_mem_nil

/-- The broker's record of a phase has the keys of the frames of that phase, none of them twice. -/
structure Moment.Recorded (phase : Phase) (moment : Moment) : Prop where
  keys : moment.store.keysIn phase = (phaseFrames phase moment.frames).map Frame.key
  distinct : (moment.store.keysIn phase).Nodup

theorem Move.recorded {before after : Moment} (move : Move before after)
    (initializing : phase ≠ .shutdown) (recorded : before.Recorded phase) :
    after.Recorded phase := by
  obtain ⟨keys, distinct⟩ := recorded
  cases move with
  | quiet change =>
      have kept := change.keysIn phase
      exact ⟨kept.trans keys, kept.symm ▸ distinct⟩
  | build absent assigned found =>
      cases phase <;> exact ⟨keys, distinct⟩
  | @enter frames s key id opened present admits =>
      have before : s.keysIn phase = (phaseFrames phase frames).map Frame.key := keys
      constructor
      · rw [keysIn_openPhase initializing, phaseFrames_cons, before]
        split <;> rfl
      · rw [keysIn_openPhase initializing]
        split
        · rename_i same
          subst same
          exact List.nodup_cons.mpr ⟨admits.not_mem_keysIn, distinct⟩
        · exact distinct
  | @leave frames s key id closed result honest =>
      rw [phaseFrames_cons] at keys
      constructor
      · rw [keysIn_closePhase initializing, keys]
        split <;> rfl
      · rw [keysIn_closePhase initializing]
        split
        · exact distinct.tail
        · exact distinct
  | host change =>
      have kept := change.keysIn phase
      exact ⟨kept.trans keys, kept.symm ▸ distinct⟩

end Steps

/-- At every moment the broker's records have the keys of the phases in progress. -/
theorem Moment.Arises.recorded {moment : Moment} (arises : moment.Arises) {phase : Phase}
    (initializing : phase ≠ .shutdown) : moment.Recorded phase := by
  refine Moment.Arises.induction ?fresh (fun _ _ move => move.recorded initializing) arises
  intro s isFresh
  have empty : s.keysIn phase = [] := by
    cases phase with
    | early => exact isFresh.stack
    | late => exact isFresh.settling
    | shutdown => rfl
  exact ⟨empty, empty ▸ List.nodup_nil⟩

end ServiceLifecycle
