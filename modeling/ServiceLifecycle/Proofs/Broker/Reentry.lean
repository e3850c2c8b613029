/-
Module: ServiceLifecycle.Proofs.Broker.Reentry
Purpose: Which initializing phases of one instance can be in progress at the same time.
Main exports: Moment.Arises.nodup_phaseFrames, reentry_guarded, initializing_phases_overlap
-/
import ServiceLifecycle.Proofs.Broker.Instances
import ServiceLifecycle.Proofs.Broker.DependencyStack

namespace ServiceLifecycle

/-!
Two mechanisms keep a phase from being started again while it is in progress.  The stack has
the keys whose early phase is in progress, and an early call on one of them reports a circle.
The keys whose late phase is in progress are kept apart from the stack, and a call for a ready
instance of one of them blocks.

Neither mechanism knows of the other.  So an instance may be in its early and in its late
phase at once, but never twice in the same one.
-/

open Broker

section Moments

variable {frames : List Frame} {s : Store} {key : String} {id : Nat} {phase : Phase}

/-- An initializing phase of the instance of a key is in progress when the key is recorded for
the phase. -/
theorem Moment.Arises.mem_frames (arises : Moment.Arises ⟨frames, s⟩)
    (initializing : phase ≠ .shutdown) (present : s.cachedId? key = some id) :
    ⟨key, id, phase⟩ ∈ frames ↔ key ∈ s.keysIn phase := by
  have keys : s.keysIn phase = (phaseFrames phase frames).map Frame.key :=
    (arises.recorded initializing).keys
  rw [keys]
  constructor
  · intro member
    exact List.mem_map.mpr ⟨_, mem_phaseFrames.mpr ⟨member, rfl⟩, rfl⟩
  · intro member
    obtain ⟨⟨about, held, seen⟩, inside, same⟩ := List.mem_map.mp member
    obtain ⟨listed, phaseEq⟩ := mem_phaseFrames.mp inside
    have current : s.cachedId? about = some held := arises.holdsInstances _ listed
    cases same
    cases phaseEq
    rw [present] at current
    cases current
    exact listed

/-- No instance is twice in the same initializing phase. -/
theorem Moment.Arises.nodup_phaseFrames (arises : Moment.Arises ⟨frames, s⟩)
    (initializing : phase ≠ .shutdown) : ((phaseFrames phase frames).map Frame.id).Nodup := by
  obtain ⟨recorded, distinct⟩ := arises.recorded initializing
  have keys : ((phaseFrames phase frames).map Frame.key).Nodup := recorded ▸ distinct
  -- An instance belongs to one key, so that distinct keys have distinct instances.
  refine List.Nodup.map_on ?_ keys.of_map
  intro first member second again same
  refine List.inj_on_of_nodup_map keys member again ?_
  have held := arises.holdsInstances first (mem_phaseFrames.mp member).1
  have other := arises.holdsInstances second (mem_phaseFrames.mp again).1
  rw [same] at held
  exact arises.knowsInstances.distinct held other

end Moments

/-- At every point of every history no instance is twice in its early phase, nor twice in its
late phase, whatever the components do.

An early call on an instance that is not initialized reports the circle from its key back to
it, and starts no phase, if the early phase of the instance is in progress; otherwise the broker
hands over to the early phase, and it makes no difference to it whether the late phase is in
progress.  A call for a ready instance blocks if the late phase is in progress; otherwise the
broker hands over to the late phase, unless an earlier one failed, and it makes no difference to
it whether the early phase is in progress. -/
theorem reentry_guarded {task : Task} {frames : List Frame} {s : Store}
    (underway : Underway task frames s) :
    (∀ phase, phase ≠ .shutdown → ((phaseFrames phase frames).map Frame.id).Nodup) ∧
    (∀ construct key data id, task = .early construct key data →
      s.cachedId? key = some id → s.isReady id = false →
      if ⟨key, id, .early⟩ ∈ frames then
        ∃ chain, IsCircle key s.stack chain ∧ ∀ depth,
          earlyFrom (runPhase depth) construct key data s =
            .finished (.error (.circular key chain), s)
      else
        Underway (.phase id .early data) (⟨key, id, .early⟩ :: frames)
          (s.openPhase key id .early)) ∧
    (∀ construct key id, task = .late construct key →
      s.cachedId? key = some id → s.isReady id = false → s.poisoned.get? key = none →
      if ⟨key, id, .late⟩ ∈ frames then
        ∀ depth, lateFrom (runPhase depth) construct key s = .blocked key
      else
        Underway (.phase id .late {}) (⟨key, id, .late⟩ :: frames)
          (s.openPhase key id .late)) := by
  obtain ⟨arises, -⟩ := underway.arises
  refine ⟨fun phase => arises.nodup_phaseFrames, ?_, ?_⟩
  · rintro construct key data id rfl present unready
    have comes : Broker.ComesBy construct key := underway.comesBy
    have construction := comes.cached present
    have stacked := arises.mem_frames (show Phase.early ≠ .shutdown by decide) present
    split
    · rename_i inProgress
      have again : key ∈ s.stack := stacked.mp inProgress
      refine ⟨_, isCircle_circleThrough again arises.disciplined.distinct, fun depth => ?_⟩
      exact earlyFrom_finished.mpr (.circle construction unready again)
    · rename_i notInProgress
      have admits : s.Admits key id .early :=
        ⟨unready, fun again => notInProgress (stacked.mpr again)⟩
      exact .early underway construction admits
  · rintro construct key id rfl present unready clean
    have comes : Broker.ComesBy construct key := underway.comesBy
    have construction := comes.cached present
    have settled := arises.mem_frames (show Phase.late ≠ .shutdown by decide) present
    split
    · rename_i inProgress
      have again : key ∈ s.settling := settled.mp inProgress
      intro depth
      simp [lateFrom, construction, unready, clean, again]
    · rename_i notInProgress
      have admits : s.Admits key id .late :=
        ⟨unready, clean, fun again => notInProgress (settled.mpr again)⟩
      exact .late underway construction admits

/-- The body of a component that needs itself ready in its early phase. -/
def Body.selfResolving (late : Option Course) : Body :=
  .scripted { early := some (.straight [.resolve "A" .propagate, .mark]), late }

/-- A broker of one such component. -/
def Store.selfResolving (late : Option Course) : Store :=
  { registry := { recipes := [("A", .build (.selfResolving late))] } }

/-- The component is in its early phase, has asked for itself, and its late phase begins. -/
def Store.doublyEngaged (late : Option Course) : Store :=
  let begun := ((Store.selfResolving late).construct "A" "A" none (.selfResolving late)).openPhase
    "A" 0 .early
  let asking := (begun.update 0 fun component => { component with calls := { early := 1 } }).note
    (.entered (some 1) .early)
  asking.openPhase "A" 0 .late

theorem underway_doublyEngaged (late : Option Course) :
    Underway (.phase 0 .late {}) [⟨"A", 0, .late⟩, ⟨"A", 0, .early⟩]
      (Store.doublyEngaged late) := by
  have fresh : Underway .idle [] (Store.selfResolving late) :=
    .fresh ⟨rfl, rfl, rfl, rfl, rfl, rfl⟩
  have asked := @Underway.asked _ _ (.early "A" {}) _ fresh trivial rfl
  have admits : ((Store.selfResolving late).construct "A" "A" none (.selfResolving late)).Admits
      "A" 0 .early := ⟨rfl, List.not_mem_nil⟩
  have phase := Underway.early asked rfl admits
  have acting := Underway.entered phase rfl rfl rfl
  have resolving := Underway.called acting rfl rfl rfl
  exact Underway.late resolving rfl ⟨rfl, rfl, List.not_mem_nil⟩

/-- The late phase asks for an early initialization in turn, and is told of the circle. -/
theorem reentry_guarded_doublyEngaged :
    ∃ s chain,
      Underway (.early (instanceFor "A") "A" {}) [⟨"A", 0, .late⟩, ⟨"A", 0, .early⟩] s ∧
      s.cachedId? "A" = some 0 ∧ s.isReady 0 = false ∧ IsCircle "A" s.stack chain ∧
      earlyFrom (runPhase 1) (instanceFor "A") "A" {} s =
        .finished (.error (.circular "A" chain), s) := by
  have acting := Underway.entered
    (underway_doublyEngaged (some (.straight [.early "A" .propagate, .mark]))) rfl rfl rfl
  have asked := Underway.called acting rfl rfl rfl
  obtain ⟨-, early, -⟩ := reentry_guarded asked
  have answer := early _ _ _ 0 rfl rfl rfl
  rw [if_pos (by decide)] at answer
  obtain ⟨chain, circle, finished⟩ := answer
  exact ⟨_, chain, asked, rfl, rfl, circle, finished 1⟩

/-- The early phase of a component resolves the component itself.  The broker runs the late phase
inside the early one, and the call succeeds. -/
theorem initializing_phases_overlap :
    (¬ ∀ task frames s, Underway task frames s →
      ((frames.filter fun frame => frame.phase ≠ .shutdown).map Frame.id).Nodup) ∧
    ∃ t, early "A" {} (Store.selfResolving none) = .finished (.ok (), t) ∧
      t.journal = [.ended "A" 0 .early true, .marked 0, .ended "A" 0 .late true, .marked 0,
        .entered (some 1) .late, .started "A" 0 .late, .entered (some 1) .early,
        .started "A" 0 .early, .cached "A" 0, .built 0 "A" (some 1) (some "A")] := by
  refine ⟨fun never => ?_, _, rfl, rfl⟩
  exact absurd (never _ _ _ (underway_doublyEngaged none)) (by decide)

end ServiceLifecycle
