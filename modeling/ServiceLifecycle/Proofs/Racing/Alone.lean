/-
Module: ServiceLifecycle.Proofs.Racing.Alone
Purpose: A thread that is left alone does what the call does as a whole.
Main exports: Racing.Alone, Racing.constructs_alone, Racing.performs_alone, Racing.lateFrom_alone,
  resolve_alone
-/
import ServiceLifecycle.Proofs.Racing.FirstAccess

namespace ServiceLifecycle

/-!
The steps of a thread are those of the call that it makes: when no other thread steps in, they lead
to the store that the call leaves, and to its result.  The locks, which the call as a whole has no
need of, are all free again then.
-/

open Broker

/-- The threads share a store, and nobody holds a lock. -/
def Ground.resting (s : Store) (lock : Option Nat) (made : Nat) : Ground :=
  { store := s, lock, made }

/-- A thread holds the lock in the table, and nobody another one. -/
def Ground.locked (s : Store) (lock made thread : Nat) : Ground :=
  { store := s
    lock := some lock
    made
    holder := Function.update (fun _ => none) lock (some thread) }

theorem Ground.IsIdle.eq_resting {ground : Ground} (idle : ground.IsIdle) :
    ground = .resting ground.store ground.lock ground.made := by
  have nobody : ground.holder = fun _ => none := funext idle
  rw [resting, ← nobody]

namespace Racing

/-- One thread takes its steps while the others rest. -/
def Alone (key implementation : String) (name : Option String) (thread : Nat) :
    Ground × Stage → Ground × Stage → Prop :=
  Relation.ReflTransGen fun before after =>
    advance key implementation name thread before.1 before.2 = some after

/-- What a thread does by itself is something that can happen in a race. -/
theorem Alone.reaches {key implementation : String} {name : Option String} {thread : Nat}
    (race : Race) {after : Ground × Stage}
    (alone : Alone key implementation name thread (race.ground, race.stages thread) after) :
    Relation.ReflTransGen (Race.Step key implementation name) race
      { ground := after.1, stages := Function.update race.stages thread after.2 } := by
  induction alone with
  | refl => rw [Function.update_eq_self]
  | @tail between after _ moved inductionHypothesis =>
      have here : Function.update race.stages thread between.2 thread = between.2 :=
        Function.update_self thread between.2 race.stages
      have overwritten : Function.update
          (Function.update race.stages thread between.2) thread after.2 =
          Function.update race.stages thread after.2 := Function.update_idem _ _ _
      rw [← here] at moved
      rw [← overwritten]
      exact inductionHypothesis.tail (.advanced thread moved)

/-- What is known of a thread that has got so far in a race is known of one that is left alone. -/
theorem Alone.isFit {key implementation : String} {name : Option String} {thread id : Nat}
    {ground after : Ground} {stage : Stage} (idle : ground.IsIdle)
    (recipe : ground.store.registry.IsFit implementation)
    (fits : ∀ id, ground.store.cachedId? key = some id → ground.store.IsFit id)
    (alone : Alone key implementation name thread (ground, .peeks) (after, stage))
    (about : stage.subject? = some id) : after.store.IsFit id := by
  have orderly := (Race.orderly_start idle recipe fits).reached
    (Alone.reaches (.start ground) alone)
  have knows : (Function.update (Race.start ground).stages thread stage thread).Knows key
      after.store := (orderly.threads thread).knows
  rw [Function.update_self] at knows
  exact orderly.inOrder.fits id (knows.subject id about)

instance (key implementation : String) (name : Option String) (thread : Nat) :
    Trans (Alone key implementation name thread) (Alone key implementation name thread)
      (Alone key implementation name thread) :=
  ⟨Relation.ReflTransGen.trans⟩

section Alone

variable {key implementation : String} {name : Option String} {thread : Nat} {s t : Store}
  {stage next : Stage}

theorem advance_of_work {ground : Ground}
    (done : work key implementation name ground.store stage = some (t, next)) :
    advance key implementation name thread ground stage =
      some ({ ground with store := t }, next) := by
  have mapped : ((work key implementation name ground.store stage).map fun done =>
      (({ ground with store := done.1 } : Ground), done.2)) =
        some ({ ground with store := t }, next) := by
    rw [done]
    rfl
  cases stage with
  | fetches errand => cases done
  | waits errand lock => cases done
  | releases lock next => cases done
  | _ => exact mapped

theorem rests_alone {lock : Option Nat} {made : Nat}
    (done : work key implementation name s stage = some (t, next)) :
    Alone key implementation name thread (.resting s lock made, stage)
      (.resting t lock made, next) :=
  .single (advance_of_work done)

theorem works_alone {lock made : Nat}
    (done : work key implementation name s stage = some (t, next)) :
    Alone key implementation name thread (.locked s lock made thread, stage)
      (.locked t lock made thread, next) :=
  .single (advance_of_work done)

/-- The lock of a key that nobody holds can be had at once. -/
theorem acquires_alone (errand : Errand) (s : Store) (lock : Option Nat) (made : Nat) :
    ∃ got count, Alone key implementation name thread
      (.resting s lock made, .fetches errand)
      (.locked s got count thread, errand.start got) := by
  have waits : ∀ got count, Alone key implementation name thread
      (.resting s (some got) count, .waits errand got)
      (.locked s got count thread, errand.start got) := fun got count => .single rfl
  cases lock with
  | some got => exact ⟨got, made, .head rfl (waits got made)⟩
  | none => exact ⟨made, made + 1, .head rfl (waits made (made + 1))⟩

theorem releases_alone (s : Store) (lock made : Nat) (next : Stage) :
    Alone key implementation name thread
      (.locked s lock made thread, .releases lock next) (.resting s (some lock) made, next) := by
  have free : Function.update (Ground.locked s lock made thread).holder lock none =
      fun _ => none := by
    rw [Ground.locked, Function.update_idem]
    exact Function.update_eq_self lock fun _ => none
  apply Relation.ReflTransGen.single
  change some (({ Ground.locked s lock made thread with holder := _ } : Ground), next) = _
  rw [free]
  rfl

/-- What a thread does next when it has found an instance or failed to. -/
def onward : Except BrokerFault Nat → Stage
  | .ok id => .checks id
  | .error fault => .returned (.error fault)

/-- The instance is found, or built under the lock. -/
theorem constructs_alone {built : Except BrokerFault Nat}
    (finished : constructAs key implementation name s = .finished (built, t))
    (lock : Option Nat) (made : Nat) :
    ∃ last count, Alone key implementation name thread (.resting s lock made, .peeks)
      (.resting t last count, onward built) := by
  simp only [constructAs, Work.bind_apply, Work.get_apply, Outcome.andThen_finished] at finished
  cases present : s.cachedId? key with
  | some id =>
      rw [present] at finished
      cases finished
      exact ⟨lock, made, rests_alone (by rw [work, present]; rfl)⟩
  | none =>
      rw [present] at finished
      obtain ⟨outcome, u, building, rest⟩ := Work.bind_finished.mp finished
      have peeks : work key implementation name s .peeks = some (s, .fetches .build) := by
        rw [work, present]
      obtain ⟨got, count, acquires⟩ := acquires_alone .build s lock made
      have looks : work key implementation name s (.looksAgain got) = some (s, .builds got) := by
        rw [work, present]
      have begins : Alone key implementation name thread (.resting s lock made, .peeks)
          (.locked s got count thread, .builds got) :=
        ((rests_alone peeks).trans acquires).trans (works_alone looks)
      refine ⟨some got, count, begins.trans ?_⟩
      cases outcome with
      | unknown =>
          cases rest
          exact (works_alone (by rw [work, building]; rfl)).trans (releases_alone t got count _)
      | refused fault =>
          cases rest
          exact (works_alone (by rw [work, building]; rfl)).trans (releases_alone t got count _)
      | «instance» id =>
          cases rest
          have builds : work key implementation name s (.builds got) =
              some (u, .publishes got id) := by
            rw [work, building]
          exact ((works_alone builds).trans (works_alone rfl)).trans
            (releases_alone (u.adopt key name id) got count _)

/-- How deep phases may nest does not matter to an action that has the broker do nothing. -/
theorem act_unnested {run : PhaseRunner} {now : Situation} {action : Action}
    {result : Except PhaseFault Heard} (silent : action.named? = none)
    (finished : act run now action s = .finished (result, t)) :
    act (runPhase 0) now action s = .finished (result, t) := by
  obtain ⟨other, u, ends⟩ := act_silent silent now s
  rw [(ends run).1] at finished
  rw [(ends (runPhase 0)).1, finished]

/-- A course is taken action by action. -/
theorem performs_alone {run : PhaseRunner} {now : Situation} {course : Course}
    {result : Except PhaseFault Unit} (silent : ∀ action ∈ course, action.named? = none)
    (finished : perform run now course s = .finished (result, t)) (lock made : Nat) :
    Alone key implementation name thread
      (.locked s lock made thread, .performs lock now course)
      (.locked t lock made thread, .judges lock now.id result) := by
  induction course generalizing s with
  | finish =>
      cases finished
      exact works_alone rfl
  | act action next inductionHypothesis =>
      obtain ⟨done, u, ran, following⟩ := Work.bind_finished.mp finished
      have alike := act_unnested (silent action Course.mem_act_self) ran
      cases done with
      | error fault =>
          cases following
          exact works_alone (by rw [work, alike])
      | ok heard =>
          have performed : work key implementation name s (.performs lock now (.act action next)) =
              some (u, .performs lock now (next heard)) := by
            rw [work, alike]
          have later : ∀ other ∈ next heard, other.named? = none :=
            fun other member => silent other (Course.mem_act_of_mem member)
          exact (works_alone performed).trans (inductionHypothesis heard later following)

/-- How deep phases may nest does not matter to a component without a script. -/
theorem runBody_unscripted {id : Nat} (run other : PhaseRunner)
    (unscripted : ∀ script, (s.instance? id).map Component.body ≠ some (.scripted script))
    (phase : Phase) (data : StartupData) :
    runBody run id phase data s = runBody other id phase data s := by
  simp only [runBody, Work.bind_apply, Work.get_apply, Outcome.andThen_finished]
  cases held : (s.instance? id).map Component.body with
  | none => rfl
  | some body =>
      cases body with
      | scripted script => exact absurd held (unscripted script)
      | _ => cases phase <;> rfl

/-- The late phase of a component that does not call its owner. -/
theorem late_alone {depth id : Nat} {result : Except PhaseFault Unit} (isFit : s.IsFit id)
    (ran : runPhase (depth + 1) id .late {} s = .finished (result, t)) (lock made : Nat) :
    Alone key implementation name thread (.locked s lock made thread, .enters lock id)
      (.locked t lock made thread, .judges lock id result) := by
  by_cases follows : ∃ script, (s.instance? id).map Component.body = some (.scripted script)
  · obtain ⟨script, held⟩ := follows
    obtain ⟨component, present, same⟩ := Option.map_eq_some_iff.mp held
    have settles : component.body.SettlesLast := isFit component present
    rw [same] at settles
    have silent : ∀ action ∈ script.lateCourse, action.named? = none := by
      intro action member
      cases names : action.named? with
      | none => rfl
      | some about => exact absurd (callsOwner_of_named? names) (settles.1 action member)
    have enters : work key implementation name s (.enters lock id) =
        some (s.enter id .late,
          .performs lock (s.situation id .late {}) script.lateCourse) := by
      rw [work, held]
    have performing := ran
    rw [runPhase, runBody_scripted (by simp) held rfl] at performing
    exact (works_alone enters).trans (performs_alone silent performing lock made)
  · have unscripted : ∀ script, (s.instance? id).map Component.body ≠ some (.scripted script) :=
      fun script held => follows ⟨script, held⟩
    have shallow : runPhase 1 id .late {} s = .finished (result, t) :=
      (runBody_unscripted (runPhase 0) (runPhase depth) unscripted .late {}).trans ran
    apply works_alone
    simp only [work, shallow]

/-- An instance that is neither ready nor poisoned gets its late phase, under the lock. -/
theorem settles_alone {depth id : Nat} {result : Except PhaseFault Unit}
    (admits : s.Admits key id .late) (isFit : s.IsFit id)
    (ran : runPhase (depth + 1) id .late {} (s.openPhase key id .late) = .finished (result, t))
    (lock : Option Nat) (made : Nat) :
    ∃ last count, Alone key implementation name thread (.resting s lock made, .checks id)
      (.resting (t.closePhase key id .late (verdict t key id .late result)) last count,
        .returned (((verdict t key id .late result).map fun _ => id).mapError
          (PhaseFault.about key))) := by
  obtain ⟨unready, clean, -⟩ := admits
  have checks : work key implementation name s (.checks id) = some (s, .consults id) := by
    rw [work, unready]
    rfl
  have consults : work key implementation name s (.consults id) =
      some (s, .fetches (.settle id)) := by
    rw [work, clean]
  obtain ⟨got, count, acquires⟩ := acquires_alone (.settle id) s lock made
  have rechecks : work key implementation name s (.rechecks got id) =
      some (s, .reconsults got id) := by
    rw [work, unready]
    rfl
  have reconsults : work key implementation name s (.reconsults got id) =
      some (s, .begins got id) := by
    rw [work, clean]
  have opened : (s.openPhase key id .late).IsFit id := isFit
  have ends : Alone key implementation name thread (.resting s lock made, .checks id)
      (.locked t got count thread, .judges got id result) :=
    calc Alone key implementation name thread (.resting s lock made, .checks id)
          (.resting s lock made, .consults id) := rests_alone checks
      Alone key implementation name thread _ (.resting s lock made, .fetches (.settle id)) :=
        rests_alone consults
      Alone key implementation name thread _ (.locked s got count thread, .rechecks got id) :=
        acquires
      Alone key implementation name thread _ (.locked s got count thread, .reconsults got id) :=
        works_alone rechecks
      Alone key implementation name thread _ (.locked s got count thread, .begins got id) :=
        works_alone reconsults
      Alone key implementation name thread _
          (.locked (s.openPhase key id .late) got count thread, .enters got id) := works_alone rfl
      Alone key implementation name thread _ (.locked t got count thread, .judges got id result) :=
        late_alone opened ran got count
  refine ⟨some got, count, ends.trans ?_⟩
  cases judged : verdict t key id .late result with
  | ok _ =>
      have judges : work key implementation name t (.judges got id result) =
          some (t.endLate key id true, .releases got (.returned (.ok id))) := by
        rw [work, judged]
      exact (works_alone judges).trans (releases_alone _ got count _)
  | error fault =>
      have judges : work key implementation name t (.judges got id result) =
          some (t.endLate key id false, .records got id fault) := by
        rw [work, judged]
      exact ((works_alone judges).trans (works_alone rfl)).trans (releases_alone _ got count _)

/-- A thread that is left alone comes to the result of its call, and leaves the store as the call
does. -/
theorem lateFrom_alone {depth : Nat} {result : Except BrokerFault Nat} {ground : Ground}
    (idle : ground.IsIdle) (recipe : ground.store.registry.IsFit implementation)
    (fits : ∀ id, ground.store.cachedId? key = some id → ground.store.IsFit id)
    (finished : lateFrom (runPhase (depth + 1)) (constructAs key implementation name) key
      ground.store = .finished (result, t)) (thread : Nat) :
    ∃ last count, Alone key implementation name thread (ground, .peeks)
      (.resting t last count, .returned result) := by
  have constructs : ∀ {built u}, constructAs key implementation name ground.store =
      .finished (built, u) → ∃ last count,
        Alone key implementation name thread (ground, .peeks)
          (.resting u last count, onward built) := by
    intro built u construction
    rw [idle.eq_resting]
    exact constructs_alone construction ground.lock ground.made
  cases lateFrom_finished.mp finished with
  | unbuilt construction => exact constructs construction
  | @already id _ construction ready =>
      obtain ⟨last, count, begins⟩ := constructs construction
      have checks : work key implementation name t (.checks id) =
          some (t, .returned (.ok id)) := by
        rw [work, if_pos ready]
      exact ⟨last, count, begins.trans (rests_alone checks)⟩
  | @poisoned id _ reason construction unready record =>
      obtain ⟨last, count, begins⟩ := constructs construction
      have checks : work key implementation name t (.checks id) = some (t, .consults id) := by
        rw [work, unready]
        rfl
      have consults : work key implementation name t (.consults id) =
          some (t, .returned (.error (.uninitialized key (.failed reason none)))) := by
        rw [work, record]
      exact ⟨last, count, (begins.trans (rests_alone checks)).trans (rests_alone consults)⟩
  | @ran id u v raw construction admits phase =>
      obtain ⟨last, count, begins⟩ := constructs construction
      have isFit : u.IsFit id := begins.isFit idle recipe fits rfl
      obtain ⟨final, made, settles⟩ := settles_alone admits isFit phase last count
      exact ⟨final, made, begins.trans settles⟩

end Alone

end Racing

/-- A thread that is left alone does what the broker does when it is to make a key ready. -/
theorem resolve_alone {key implementation : String} {name : Option String} {ground : Ground}
    {t : Store} {result : Except BrokerFault Nat} (idle : ground.IsIdle)
    (assigned : ground.store.assigned? key = some (implementation, name))
    (recipe : ground.store.registry.IsFit implementation)
    (fits : ∀ id, ground.store.cachedId? key = some id → ground.store.IsFit id)
    (finished : resolve key ground.store = .finished (result, t)) (thread : Nat) :
    ∃ last count, Racing.Alone key implementation name thread (ground, .peeks)
      (.resting t last count, .returned result) := by
  have direct := instanceFor_assigned assigned
  have settles : lateFrom (runPhase (depthAllowance ground.store))
      (constructAs key implementation name) key ground.store = .finished (result, t) := by
    rw [resolve, carryOut_apply, resolveBy, lateFrom, Work.bind_apply, direct] at finished
    exact finished
  obtain ⟨depth, allowance⟩ := depthAllowance_succ ground.store
  rw [allowance] at settles
  exact Racing.lateFrom_alone idle recipe fits settles thread

end ServiceLifecycle
