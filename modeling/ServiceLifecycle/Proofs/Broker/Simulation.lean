/-
Module: ServiceLifecycle.Proofs.Broker.Simulation
Purpose: Everything that a broker and its components do is a sequence of moves.
Main exports: Broker.Faithful, Broker.earlyBy_moves, Broker.resolveBy_moves,
  Broker.shutdownBy_moves, Broker.act_moves, Broker.perform_moves, Broker.runPhase_faithful
-/
import ServiceLifecycle.Proofs.Broker.Moves

namespace ServiceLifecycle

/-!
A computation that finishes takes a moment to a later one with the same phases in
progress.  The broker's part is a hand-over to a phase and its end; between the two
lies what the phase does, and that is known by induction on how deep phases may nest.
-/

/-- The action is one for the broker. -/
def Action.CallsOwner : Action → Prop
  | .early _ _ | .resolve _ _ | .resolveAs _ _ _ | .shutdown _ | .notice _ | .report _
  | .ownerConfig _ => True
  | _ => False

namespace Broker

/-- Whatever a phase does, it does by moves. -/
def Faithful (run : PhaseRunner) : Prop :=
  ∀ id phase data s result t, run id phase data s = .finished (result, t) →
    ∀ key frames, Moves ⟨⟨key, id, phase⟩ :: frames, s⟩ ⟨⟨key, id, phase⟩ :: frames, t⟩

section Construction

variable {key implementation : String} {name : Option String} {s t : Store}
  {result : Except BrokerFault Nat} {frames : List Frame}

theorem ConstructEnd.moves (assigned : s.Assigns key implementation name)
    (ending : ConstructEnd key implementation name s result t) :
    Moves ⟨frames, s⟩ ⟨frames, t⟩ := by
  cases ending with
  | cached present => exact .refl
  | unbuildable absent nothing unresolved remark =>
      rcases remark with rfl | rfl
      · exact .refl
      · exact Moves.quiet (Quiet.refused _ s)
  | built absent found => exact .single (.build absent assigned found)

theorem ConstructEnd.cachedId? {id : Nat}
    (ending : ConstructEnd key implementation name s (.ok id) t) : t.cachedId? key = some id := by
  cases ending with
  | cached present => exact present
  | built absent found => rw [Store.cachedId?_construct, if_pos rfl]

theorem ConstructEnd.isUnresolved {fault : BrokerFault}
    (ending : ConstructEnd key implementation name s (.error fault) t) :
    fault.IsUnresolved key := by
  cases ending with
  | unbuildable absent nothing unresolved remark => exact unresolved

theorem InstanceEnd.moves (ending : InstanceEnd key s result t) :
    Moves ⟨frames, s⟩ ⟨frames, t⟩ := by
  cases ending with
  | cached present => exact .refl
  | unbuildable absent nothing unresolved remark =>
      rcases remark with rfl | ⟨implementation, rfl⟩
      · exact .refl
      · exact Moves.quiet (Quiet.refused _ s)
  | built absent assigned found =>
      exact .single (.build absent (Store.assigns_of_assigned? assigned) found)

theorem InstanceEnd.cachedId? {id : Nat} (ending : InstanceEnd key s (.ok id) t) :
    t.cachedId? key = some id := by
  cases ending with
  | cached present => exact present
  | built absent assigned found => rw [Store.cachedId?_construct, if_pos rfl]

theorem InstanceEnd.isUnresolved {fault : BrokerFault}
    (ending : InstanceEnd key s (.error fault) t) : fault.IsUnresolved key := by
  cases ending with
  | unbuildable absent nothing unresolved remark => exact unresolved

end Construction

/-- A computation comes by the instance of a key, from a given store on, or reports that
the key cannot be resolved. -/
structure Supplies (construct : Work (Except BrokerFault Nat)) (key : String) (s : Store) :
    Prop where
  moves : ∀ {result t}, construct s = .finished (result, t) →
    ∀ frames, Moves ⟨frames, s⟩ ⟨frames, t⟩
  present : ∀ {id t}, construct s = .finished (.ok id, t) → t.cachedId? key = some id
  unresolved : ∀ {fault t}, construct s = .finished (.error fault, t) → fault.IsUnresolved key

theorem supplies_instanceFor (key : String) (s : Store) : Supplies (instanceFor key) key s := by
  constructor
  case moves => exact fun finished frames => (instanceFor_finished finished).moves
  case present => exact fun finished => (instanceFor_finished finished).cachedId?
  case unresolved => exact fun finished => (instanceFor_finished finished).isUnresolved

theorem supplies_constructAs {key implementation : String} {name : Option String} {s : Store}
    (assigned : s.Assigns key implementation name) :
    Supplies (constructAs key implementation name) key s := by
  constructor
  case moves => exact fun finished frames => (constructAs_finished finished).moves assigned
  case present => exact fun finished => (constructAs_finished finished).cachedId?
  case unresolved => exact fun finished => (constructAs_finished finished).isUnresolved

theorem supplies_given {key implementation : String} {s : Store}
    (component : s.registry.capability = .component) :
    Supplies (constructAs key implementation none) key s := by
  have assigned : s.Assigns key implementation none := component
  exact supplies_constructAs assigned

section Calls

variable {run : PhaseRunner} {construct : Work (Except BrokerFault Nat)} {key : String}
  {data : StartupData} {s t : Store} {frames : List Frame}

/-- Hand-over, phase and end together. -/
theorem phase_moves (faithful : Faithful run) {id : Nat} {phase : Phase}
    {raw result : Except PhaseFault Unit} (present : s.cachedId? key = some id)
    (admits : s.Admits key id phase)
    (ran : run id phase data (s.openPhase key id phase) = .finished (raw, t))
    (honest : phase ≠ .shutdown → result = .ok () → t.isReady id = true) :
    Moves ⟨frames, s⟩ ⟨frames, t.closePhase key id phase result⟩ := by
  have inside := faithful id phase data _ raw t ran key frames
  have outside : Moves ⟨frames, s⟩ ⟨⟨key, id, phase⟩ :: frames, t⟩ :=
    inside.head (.enter present admits)
  exact outside.tail (.leave honest)

theorem EarlyEnd.moves (faithful : Faithful run) (supplies : Supplies construct key s)
    {result : Except BrokerFault Unit} (ending : EarlyEnd run construct key data s result t) :
    Moves ⟨frames, s⟩ ⟨frames, t⟩ := by
  cases ending with
  | unbuilt construction => exact supplies.moves construction frames
  | already construction ready => exact supplies.moves construction frames
  | circle construction unready again => exact supplies.moves construction frames
  | ran construction admits phase =>
      exact (supplies.moves construction frames).trans (phase_moves faithful
        (supplies.present construction) admits phase fun _ => isReady_of_verdict_ok)

theorem LateEnd.moves (faithful : Faithful run) (supplies : Supplies construct key s)
    {result : Except BrokerFault Nat} (ending : LateEnd run construct key s result t) :
    Moves ⟨frames, s⟩ ⟨frames, t⟩ := by
  cases ending with
  | unbuilt construction => exact supplies.moves construction frames
  | already construction ready => exact supplies.moves construction frames
  | poisoned construction unready record => exact supplies.moves construction frames
  | ran construction admits phase =>
      exact (supplies.moves construction frames).trans (phase_moves faithful
        (supplies.present construction) admits phase fun _ => isReady_of_verdict_ok)

theorem ShutdownEnd.moves (faithful : Faithful run) {result : Bool}
    (ending : ShutdownEnd run key s result t) : Moves ⟨frames, s⟩ ⟨frames, t⟩ := by
  cases ending with
  | absent missing => exact .refl
  | idle present unready => exact .refl
  | ran present ready phase =>
      exact phase_moves faithful present ready phase fun other => absurd rfl other

theorem announce_moves (s : Store) (key : String) :
    Moves ⟨frames, s⟩ ⟨frames, announce s key⟩ := by
  rw [announce]
  split
  · exact Moves.quiet (Quiet.report _ s)
  · exact .refl

theorem earlyBy_moves (faithful : Faithful run) {result : Except BrokerFault Unit}
    (finished : earlyBy run key data s = .finished (result, t)) :
    Moves ⟨frames, s⟩ ⟨frames, t⟩ := by
  rw [earlyBy_apply] at finished
  exact (announce_moves s key).trans
    ((earlyFrom_finished.mp finished).moves faithful (supplies_instanceFor key _))

theorem resolveBy_moves (faithful : Faithful run) {result : Except BrokerFault Nat}
    (finished : resolveBy run key s = .finished (result, t)) :
    Moves ⟨frames, s⟩ ⟨frames, t⟩ :=
  (lateFrom_finished.mp finished).moves faithful (supplies_instanceFor key s)

theorem resolveAsBy_moves (faithful : Faithful run) {wanted : Wanted}
    {result : Except BrokerFault Nat}
    (finished : resolveAsBy run key wanted s = .finished (result, t)) :
    Moves ⟨frames, s⟩ ⟨frames, t⟩ := by
  obtain ⟨resolved, resolution, _⟩ := resolveBy_of_resolveAsBy finished
  exact resolveBy_moves faithful resolution

theorem shutdownBy_moves (faithful : Faithful run) {result : Bool}
    (finished : shutdownBy run key s = .finished (result, t)) :
    Moves ⟨frames, s⟩ ⟨frames, t⟩ := by
  by_cases known : isKnown s key = true
  · have inner : shutdownInstanceBy run key s = .finished (result, t) := by
      simpa [shutdownBy, known] using finished
    exact (shutdownInstanceBy_finished.mp inner).moves faithful
  · obtain ⟨rfl, rfl⟩ : false = result ∧ s.errorMessage _ = t := by
      simpa [shutdownBy, known] using finished
    exact Moves.quiet (Quiet.report _ s)

end Calls

section Actions

variable {run : PhaseRunner} {now : Situation} {s t : Store} {frames : List Frame}
  {result : Except PhaseFault Heard}

theorem say_quiet {owner : Option Nat} {id : Nat} {text : String}
    (finished : say id text s = .finished ((), t)) : Quiet owner s t := by
  cases finished
  exact Quiet.said _ text s

theorem afterCall_quiet {α : Type} {owner : Option Nat} {id : Nat} {onFailure : OnFailure}
    {answer : Except BrokerFault α}
    (finished : afterCall id onFailure answer s = .finished (result, t)) : Quiet owner s t := by
  cases answer with
  | ok value =>
      cases finished
      exact Quiet.refl owner s
  | error fault =>
      cases onFailure with
      | propagate =>
          cases finished
          exact Quiet.refl owner s
      | wrap =>
          cases finished
          exact Quiet.refl owner s
      | ignore =>
          cases finished
          exact Quiet.said _ _ s

theorem callOwner_moves (faithful : Faithful run) {action : Action}
    (finished : callOwner run now action s = .finished (result, t)) :
    Moves ⟨frames, s⟩ ⟨frames, t⟩ := by
  cases action with
  | early key onFailure =>
      obtain ⟨answer, u, called, rest⟩ := Work.bind_finished.mp finished
      exact (earlyBy_moves faithful called).trans (Moves.quiet (afterCall_quiet rest))
  | resolve key onFailure =>
      obtain ⟨answer, u, called, rest⟩ := Work.bind_finished.mp finished
      exact (resolveBy_moves faithful called).trans (Moves.quiet (afterCall_quiet rest))
  | resolveAs key wanted onFailure =>
      obtain ⟨answer, u, called, rest⟩ := Work.bind_finished.mp finished
      refine (resolveAsBy_moves faithful called).trans (Moves.quiet ?_)
      cases answer with
      | error fault => exact afterCall_quiet rest
      | ok id =>
          simp only [Work.bind_apply, Work.get_apply, Outcome.andThen_finished] at rest
          cases label : u.labelOf? id with
          | none => exact afterCall_quiet (by simpa [label] using rest)
          | some number =>
              simp only [label] at rest
              obtain ⟨_, v, spoken, rest⟩ := Work.bind_finished.mp rest
              exact (say_quiet spoken).trans (afterCall_quiet rest)
  | shutdown key =>
      obtain ⟨answer, u, called, rest⟩ := Work.bind_finished.mp finished
      cases rest
      exact shutdownBy_moves faithful called
  | notice text =>
      cases finished
      exact Moves.quiet (Quiet.report _ s)
  | report text =>
      cases finished
      exact Moves.quiet (Quiet.report _ s)
  | ownerConfig key =>
      cases finished
      exact Moves.quiet (Quiet.said _ _ s)
  | _ =>
      cases finished
      exact .refl

/-- An action that calls the broker is carried out by it, if the broker can be reached. -/
theorem act_call {action : Action} (calls : action.CallsOwner) (s : Store) :
    act run now action s =
      if hasOwner s now.id = true then callOwner run now action s
      else .finished (.ok none, s.note
        (.said (s.labelOf? now.id) (action.label ++ ": no owner"))) := by
  cases action <;> first | exact calls.elim | skip
  all_goals
    by_cases owned : hasOwner s now.id = true
    · simp [act, owned]
    · simp [act, owned, say]

theorem act_moves (faithful : Faithful run) (charge : frames.head?.map Frame.id = some now.id)
    {action : Action} (finished : act run now action s = .finished (result, t)) :
    Moves ⟨frames, s⟩ ⟨frames, t⟩ := by
  by_cases calls : action.CallsOwner
  · rw [act_call calls] at finished
    split at finished
    · exact callOwner_moves faithful finished
    · cases finished
      exact Moves.quiet (Quiet.said _ _ s)
  · apply Moves.quiet
    rw [charge]
    cases action with
    | mark =>
        cases finished
        exact Quiet.mark now.id s
    | unmark =>
        cases finished
        exact Quiet.unmark now.id s
    | failFirst count message =>
        rw [act] at finished
        split at finished <;> cases finished <;> exact Quiet.refl _ s
    | failAfter count message =>
        rw [act] at finished
        split at finished <;> cases finished <;> exact Quiet.refl _ s
    | log text =>
        cases finished
        exact Quiet.said _ _ s
    | name =>
        cases finished
        exact Quiet.said _ _ s
    | owner =>
        cases finished
        exact Quiet.said _ _ s
    | data =>
        cases finished
        exact Quiet.said _ _ s
    | config path =>
        cases finished
        exact Quiet.said _ _ s
    | fail message cause =>
        cases finished
        exact Quiet.refl _ s
    | failBroker fault =>
        cases finished
        exact Quiet.refl _ s
    | _ => exact absurd trivial calls

/-- What each action of a course keeps is kept by the whole course. -/
theorem perform_walk {P : Store → Prop} {course : Course}
    (acted : ∀ action ∈ course, ∀ u v done, P u → act run now action u = .finished (done, v) → P v)
    (start : P s) {result : Except PhaseFault Unit}
    (finished : perform run now course s = .finished (result, t)) : P t := by
  induction course generalizing s with
  | finish =>
      cases finished
      exact start
  | act action next inductionHypothesis =>
      rw [perform, Work.bind_finished] at finished
      obtain ⟨done, u, first, following⟩ := finished
      have step : P u := acted action Course.mem_act_self s u done start first
      cases done with
      | error fault =>
          cases following
          exact step
      | ok heard =>
          exact inductionHypothesis heard
            (fun other member => acted other (Course.mem_act_of_mem member)) step following

theorem perform_moves (faithful : Faithful run)
    (charge : frames.head?.map Frame.id = some now.id) {course : Course}
    {result : Except PhaseFault Unit}
    (finished : perform run now course s = .finished (result, t)) :
    Moves ⟨frames, s⟩ ⟨frames, t⟩ := by
  refine perform_walk (P := fun u => Moves ⟨frames, s⟩ ⟨frames, u⟩) ?_ .refl finished
  exact fun action _ u v done before acted => before.trans (act_moves faithful charge acted)

end Actions

section Phases

variable {run : PhaseRunner} {key : String} {id : Nat} {phase : Phase} {frames : List Frame}
  {s t : Store} {result : Except PhaseFault Unit}

theorem enterPhase_quiet {entered : Phase} {data : StartupData} {now : Situation}
    (finished : enterPhase id entered data s = .finished (now, t)) :
    Quiet (some id) s t ∧ now.id = id := by
  cases finished
  refine ⟨(Quiet.update s ?same ?honest).trans (Quiet.entered _ _ _), rfl⟩
  case same => exact fun _ => rfl
  case honest => exact fun _ ready => ready

theorem performIn_moves (faithful : Faithful run) {entered : Phase} {data : StartupData}
    {course : Course}
    (finished : (enterPhase id entered data >>= fun now => perform run now course) s =
      .finished (result, t)) :
    Moves ⟨⟨key, id, phase⟩ :: frames, s⟩ ⟨⟨key, id, phase⟩ :: frames, t⟩ := by
  obtain ⟨now, u, entering, performing⟩ := Work.bind_finished.mp finished
  obtain ⟨quiet, same⟩ := enterPhase_quiet entering
  have begun : Moves ⟨⟨key, id, phase⟩ :: frames, s⟩ ⟨⟨key, id, phase⟩ :: frames, u⟩ :=
    Moves.quiet quiet
  exact begun.trans (perform_moves faithful (by rw [same]; rfl) performing)

theorem runShutdownScript_moves (faithful : Faithful run) {script : Script}
    (finished : runShutdownScript run id script s = .finished (result, t)) :
    Moves ⟨⟨key, id, phase⟩ :: frames, s⟩ ⟨⟨key, id, phase⟩ :: frames, t⟩ := by
  rw [runShutdownScript, Work.bind_finished] at finished
  obtain ⟨now, u, entering, following⟩ := finished
  rw [Work.bind_finished] at following
  obtain ⟨done, v, performing, rest⟩ := following
  have begun : Moves ⟨⟨key, id, phase⟩ :: frames, s⟩ ⟨⟨key, id, phase⟩ :: frames, v⟩ :=
    performIn_moves faithful (Work.bind_finished.mpr ⟨now, u, entering, performing⟩)
  cases done with
  | ok _ =>
      cases rest
      exact begun
  | error fault =>
      cases rest
      exact begun.trans (Moves.quiet (Quiet.said _ _ v))

theorem startConfiguration_quiet {data : StartupData}
    (finished : startConfiguration id data s = .finished (result, t)) :
    Quiet (some id) s t := by
  cases loaded : loadDeployment s.surroundings data with
  | error fault =>
      simp [startConfiguration, loaded] at finished
      rw [← finished.2]
      exact Quiet.refl _ s
  | ok deployment =>
      simp [startConfiguration, loaded] at finished
      rw [← finished.2]
      exact (Quiet.rebody id (.configuration (some deployment)) s).trans (Quiet.mark id _)

theorem startLogging_quiet (finished : startLogging id s = .finished (result, t)) :
    Quiet (some id) s t := by
  cases read : readLogSettings (ownSection s id) with
  | error fault =>
      simp [startLogging, read] at finished
      rw [← finished.2]
      exact Quiet.refl _ s
  | ok settings =>
      by_cases usable : ({ settings } : LogSetup).isUsable s.surroundings = true
      · simp [startLogging, read, usable] at finished
        rw [← finished.2]
        exact ((Quiet.surround _ s).trans (Quiet.rebody id (.logging (some settings)) _)).trans
          (Quiet.mark id _)
      · simp [startLogging, read, usable] at finished

theorem runBody_faithful (faithful : Faithful run) : Faithful (runBody run) := by
  intro id phase data s result t finished key frames
  simp only [runBody, Work.bind_apply, Work.get_apply, Outcome.andThen_finished] at finished
  cases held : (s.instance? id).map Component.body with
  | none =>
      rw [held] at finished
      cases finished
      exact .refl
  | some body =>
      rw [held] at finished
      cases body with
      | plain =>
          cases phase <;> cases finished
          · exact Moves.quiet (Quiet.mark id s)
          · exact Moves.quiet (Quiet.mark id s)
          · exact Moves.quiet (Quiet.unmark id s)
      | scripted script =>
          cases phase with
          | early =>
              cases early : script.early with
              | none =>
                  simp only [runEarlyScript, early] at finished
                  exact performIn_moves faithful finished
              | some course =>
                  simp only [runEarlyScript, early] at finished
                  exact performIn_moves faithful finished
          | late => exact performIn_moves faithful finished
          | shutdown => exact runShutdownScript_moves faithful finished
      | configuration loaded =>
          cases phase with
          | early => exact Moves.quiet (startConfiguration_quiet finished)
          | late => exact Moves.quiet (startConfiguration_quiet finished)
          | shutdown =>
              cases finished
              exact Moves.quiet
                ((Quiet.rebody id (.configuration none) s).trans (Quiet.unmark id _))
      | logging settings =>
          cases phase with
          | early => exact Moves.quiet (startLogging_quiet finished)
          | late => exact Moves.quiet (startLogging_quiet finished)
          | shutdown =>
              cases finished
              exact Moves.quiet (Quiet.unmark id s)

/-- However deep phases may nest, they do what they do by moves. -/
theorem runPhase_faithful (depth : Nat) : Faithful (runPhase depth) := by
  induction depth with
  | zero =>
      intro id phase data s result t finished
      cases finished
  | succ depth inductionHypothesis => exact runBody_faithful inductionHypothesis

end Phases

end Broker

end ServiceLifecycle
