/-
Module: ServiceLifecycle.Proofs.Broker.Underway
Purpose: The moments that the code goes through in the history of a broker.
Main exports: Call, Call.carry, Call.begin, Task, Underway, earlyEach_walk, Underway.arises,
  Store.afterCall, Follows, Pursues
-/
import ServiceLifecycle.Proofs.Broker.Simulation

namespace ServiceLifecycle

/-!
A history starts with a broker of which nothing has been asked yet.  The host changes
things and makes calls, and while the broker carries one of them out, components make
calls of their own.  `Underway` has every point of such a history at which the host or
a component acts or the broker takes up a call: what is about to be done there, the
phases in progress and the store.  It is put together from the functions that carry the
calls out, so a call that never comes to its end has its moments too.

All of these are moments in the sense of moves, which is how facts about them are proved.
-/

open Broker

/-- What a host asks of a broker. -/
inductive Call where
  | early (key : String) (data : StartupData)
  | earlyAs (key implementation : String) (data : StartupData)
  | resolve (key : String)
  | resolveFrom (key implementation : String)
  | resolveAs (key : String) (wanted : Wanted)
  | shutdown (key : String)
  | shutdownInstance (key : String)
  | construct (key : String)
  | constructAs (key implementation : String)
  | earlyAll (data : StartupData) (failFast : Bool)
  | shutdownAll

namespace Call

/-- Carry a call out. -/
def carry (run : PhaseRunner) : Call → Work Unit
  | early key data => do let _ ← earlyBy run key data
  | earlyAs key implementation data => do
      let _ ← earlyFrom run (Broker.constructAs key implementation none) key data
  | resolve key => do let _ ← resolveBy run key
  | resolveFrom key implementation => do
      let _ ← lateFrom run (Broker.constructAs key implementation none) key
  | resolveAs key wanted => do let _ ← resolveAsBy run key wanted
  | shutdown key => do let _ ← shutdownBy run key
  | shutdownInstance key => do let _ ← shutdownInstanceBy run key
  | construct key => do let _ ← instanceFor key
  | constructAs key implementation => do let _ ← Broker.constructAs key implementation none
  | earlyAll data failFast => do let _ ← earlyAllBy run data failFast
  | shutdownAll => shutdownAllBy run

/-- Only a broker of components is told which implementation to use. -/
def IsPermitted (s : Store) : Call → Prop
  | earlyAs _ _ _ | resolveFrom _ _ | constructAs _ _ => s.registry.capability = .component
  | _ => True

end Call

/-- What is about to be done. -/
inductive Task where
  /-- Nothing is in progress. -/
  | idle
  | early (construct : Work (Except BrokerFault Nat)) (key : String) (data : StartupData)
  | late (construct : Work (Except BrokerFault Nat)) (key : String)
  | shutdown (key : String)
  | phase (id : Nat) (phase : Phase) (data : StartupData)
  | perform (now : Situation) (course : Course)

/-- The task that the broker takes up for a call, and the store in which it does. -/
def Call.begin (s : Store) : Call → Option (Task × Store)
  | .early key data => some (.early (instanceFor key) key data, announce s key)
  | .earlyAs key implementation data =>
      some (.early (Broker.constructAs key implementation none) key data, s)
  | .resolve key | .resolveAs key _ => some (.late (instanceFor key) key, s)
  | .resolveFrom key implementation =>
      some (.late (Broker.constructAs key implementation none) key, s)
  | .shutdown key => if isKnown s key then some (.shutdown key, s) else none
  | .shutdownInstance key => some (.shutdown key, s)
  | _ => none

/-- The call that an action makes, with the startup data at hand. -/
def Action.call? (data : StartupData) : Action → Option Call
  | .early key _ => some (.early key data)
  | .resolve key _ => some (.resolve key)
  | .resolveAs key wanted _ => some (.resolveAs key wanted)
  | .shutdown key => some (.shutdown key)
  | _ => none

/-- The course of a script in a phase, and the phase and the data that its actions see. -/
def Script.plan (script : Script) (data : StartupData) : Phase → Phase × StartupData × Course
  | .early =>
      match script.early with
      | some course => (.early, data, course)
      | none => (.late, {}, script.lateCourse)
  | .late => (.late, {}, script.lateCourse)
  | .shutdown => (.shutdown, {}, script.shutdownCourse)

theorem Script.plan_shutdown (script : Script) (data : StartupData) :
    script.plan data .shutdown = (.shutdown, {}, script.shutdownCourse) :=
  rfl

/-- A point in the history of a broker: what is about to be done, the phases in
progress, innermost first, and the store. -/
inductive Underway : Task → List Frame → Store → Prop where
  | fresh {s : Store} (isFresh : s.IsFresh) : Underway .idle [] s
  | changed {s t : Store} (before : Underway .idle [] s) (change : HostChange s t) :
      Underway .idle [] t
  | answered {s t : Store} {call : Call} {depth : Nat} (before : Underway .idle [] s)
      (permitted : call.IsPermitted s)
      (finished : call.carry (runPhase depth) s = .finished ((), t)) : Underway .idle [] t
  | asked {s t : Store} {call : Call} {task : Task} (before : Underway .idle [] s)
      (permitted : call.IsPermitted s) (begun : call.begin s = some (task, t)) :
      Underway task [] t
  | called {now : Situation} {action : Action} {next : Heard → Course} {frames : List Frame}
      {s t : Store} {call : Call} {task : Task}
      (before : Underway (.perform now (.act action next)) frames s)
      (owned : hasOwner s now.id = true) (calls : action.call? now.data = some call)
      (begun : call.begin s = some (task, t)) : Underway task frames t
  | early {construct : Work (Except BrokerFault Nat)} {key : String} {data : StartupData}
      {frames : List Frame} {s t : Store} {id : Nat}
      (before : Underway (.early construct key data) frames s)
      (construction : construct s = .finished (.ok id, t)) (admits : t.Admits key id .early) :
      Underway (.phase id .early data) (⟨key, id, .early⟩ :: frames) (t.openPhase key id .early)
  | late {construct : Work (Except BrokerFault Nat)} {key : String} {frames : List Frame}
      {s t : Store} {id : Nat} (before : Underway (.late construct key) frames s)
      (construction : construct s = .finished (.ok id, t)) (admits : t.Admits key id .late) :
      Underway (.phase id .late {}) (⟨key, id, .late⟩ :: frames) (t.openPhase key id .late)
  | shutdown {key : String} {frames : List Frame} {s : Store} {id : Nat}
      (before : Underway (.shutdown key) frames s) (present : s.cachedId? key = some id)
      (admits : s.Admits key id .shutdown) :
      Underway (.phase id .shutdown {}) (⟨key, id, .shutdown⟩ :: frames)
        (s.openPhase key id .shutdown)
  | entered {id : Nat} {phase : Phase} {data : StartupData} {frames : List Frame}
      {s t : Store} {script : Script} {seen : Phase} {seenData : StartupData}
      {course : Course} {now : Situation}
      (before : Underway (.phase id phase data) frames s)
      (scripted : (s.instance? id).map Component.body = some (.scripted script))
      (planned : script.plan data phase = (seen, seenData, course))
      (entering : enterPhase id seen seenData s = .finished (now, t)) :
      Underway (.perform now course) frames t
  | proceeded {now : Situation} {action : Action} {next : Heard → Course} {heard : Heard}
      {frames : List Frame} {s t : Store} {depth : Nat}
      (before : Underway (.perform now (.act action next)) frames s)
      (done : act (runPhase depth) now action s = .finished (.ok heard, t)) :
      Underway (.perform now (next heard)) frames t

section BulkCalls

variable {run : PhaseRunner} {data : StartupData} {failFast : Bool} {frames : List Frame}
  {s t : Store}

/-- What calls on the services that take part and reports of their failures keep is kept by the
whole walk. -/
theorem earlyEach_walk {P : Store → Prop} {names : List String}
    (called : ∀ name ∈ names, ∀ u v answer, P u → (u.sectionOf name).flag earlySetting true = true →
      earlyBy run name data u = .finished (answer, v) → P v)
    (reported : ∀ u fault, P u → P (u.reportFault (.broker fault))) (start : P s)
    {result : Except BrokerFault Unit}
    (finished : earlyEach run data failFast names s = .finished (result, t)) : P t := by
  induction names generalizing s with
  | nil =>
      cases finished
      exact start
  | cons name rest inductionHypothesis =>
      have walk : ∀ {u : Store}, P u →
          earlyEach run data failFast rest u = .finished (result, t) → P t :=
        fun before following => inductionHypothesis
          (fun other member => called other (List.mem_cons_of_mem _ member)) before following
      simp only [earlyEach, Work.bind_apply, Work.get_apply, Outcome.andThen_finished] at finished
      split at finished
      · rename_i enrolled
        obtain ⟨answer, u, asked, following⟩ := Work.bind_finished.mp finished
        have turn : P u := called name List.mem_cons_self s u answer start enrolled asked
        cases answer with
        | ok _ => exact walk turn following
        | error fault =>
            cases failFast with
            | true =>
                cases following
                exact turn
            | false => exact walk (reported u fault turn) following
      · exact walk start finished

theorem earlyEach_moves (faithful : Faithful run) {names : List String}
    {result : Except BrokerFault Unit}
    (finished : earlyEach run data failFast names s = .finished (result, t)) :
    Moves ⟨[], s⟩ ⟨[], t⟩ := by
  refine earlyEach_walk (P := fun u => Moves ⟨[], s⟩ ⟨[], u⟩) ?called ?reported .refl finished
  case called =>
    exact fun name _ u v answer before _ asked => before.trans (earlyBy_moves faithful asked)
  case reported => exact fun u fault before => before.trans (Moves.quiet (Quiet.report _ u))

/-- The common start ends as the walk through the services does, and says so if that has not ended
with a failure. -/
theorem earlyAllBy_apply (run : PhaseRunner) (data : StartupData) (failFast : Bool) (s : Store) :
    earlyAllBy run data failFast s =
      (earlyEach run data failFast s.serviceNames s).andThen fun walked =>
        match walked with
        | (.ok (), u) => .finished (.ok (), u.notice "Finished initializing all services")
        | (.error fault, u) => .finished (.error fault, u) := by
  simp only [earlyAllBy, Work.bind_apply, Work.get_apply, Outcome.andThen_finished]
  congr 1
  funext walked
  obtain ⟨answer, u⟩ := walked
  cases answer <;> rfl

theorem earlyAllBy_moves (faithful : Faithful run) {result : Except BrokerFault Unit}
    (finished : earlyAllBy run data failFast s = .finished (result, t)) :
    Moves ⟨[], s⟩ ⟨[], t⟩ := by
  rw [earlyAllBy_apply, Outcome.andThen_eq_finished] at finished
  obtain ⟨⟨answer, u⟩, walked, rest⟩ := finished
  have walk : Moves ⟨[], s⟩ ⟨[], u⟩ := earlyEach_moves faithful walked
  cases answer with
  | error fault =>
      cases rest
      exact walk
  | ok _ =>
      cases rest
      exact walk.trans (Moves.quiet (Quiet.report _ u))

/-- An initialized service is told of its shutdown. -/
def Store.forewarn (s : Store) (name : String) : Store :=
  if s.isInitialized name then s.notice ("Shutting down service: " ++ name) else s

theorem shutdownEach_cons (name : String) (rest : List String) (s : Store) :
    shutdownEach run (name :: rest) s =
      (shutdownBy run name (s.forewarn name)).andThen fun done =>
        shutdownEach run rest done.2 := by
  simp only [shutdownEach, Work.bind_apply, Work.get_apply, Outcome.andThen_finished,
    Store.forewarn]
  split <;> rfl

theorem forewarn_moves (s : Store) (name : String) :
    Moves ⟨frames, s⟩ ⟨frames, s.forewarn name⟩ := by
  rw [Store.forewarn]
  split
  · exact Moves.quiet (Quiet.report _ s)
  · exact .refl

/-- What the notices and the shutdowns of the services keep is kept by the whole walk. -/
theorem shutdownEach_walk {P : Store → Prop} {names : List String}
    (forewarned : ∀ u name, P u → P (u.forewarn name))
    (called : ∀ name ∈ names, ∀ u v ran, P u → shutdownBy run name u = .finished (ran, v) → P v)
    (start : P s) (finished : shutdownEach run names s = .finished ((), t)) : P t := by
  induction names generalizing s with
  | nil =>
      cases finished
      exact start
  | cons name rest inductionHypothesis =>
      rw [shutdownEach_cons, Outcome.andThen_eq_finished] at finished
      obtain ⟨⟨ran, u⟩, shut, remaining⟩ := finished
      have turn : P u := called name List.mem_cons_self _ u ran (forewarned s name start) shut
      exact inductionHypothesis (fun other member => called other (List.mem_cons_of_mem _ member))
        turn remaining

theorem shutdownEach_moves (faithful : Faithful run) {names : List String}
    (finished : shutdownEach run names s = .finished ((), t)) : Moves ⟨frames, s⟩ ⟨frames, t⟩ := by
  refine shutdownEach_walk (P := fun u => Moves ⟨frames, s⟩ ⟨frames, u⟩) ?forewarned ?called .refl
    finished
  case forewarned => exact fun u name before => before.trans (forewarn_moves u name)
  case called =>
    exact fun name _ u v ran before shut => before.trans (shutdownBy_moves faithful shut)

theorem shutdownAllBy_moves (faithful : Faithful run)
    (finished : shutdownAllBy run s = .finished ((), t)) : Moves ⟨frames, s⟩ ⟨frames, t⟩ := by
  have noticed : Moves ⟨frames, s⟩ ⟨frames, s.notice "Shutting down all services"⟩ :=
    Moves.quiet (Quiet.report _ s)
  exact noticed.trans (shutdownEach_moves faithful finished)

end BulkCalls

/-- What a host asks for is carried out by moves. -/
theorem Call.carry_moves {run : PhaseRunner} (faithful : Faithful run) {call : Call} {s t : Store}
    (permitted : call.IsPermitted s) (finished : call.carry run s = .finished ((), t)) :
    Moves ⟨[], s⟩ ⟨[], t⟩ := by
  cases call with
  | early key data =>
      obtain ⟨_, called⟩ := Work.finished_of_dropped finished
      exact earlyBy_moves faithful called
  | earlyAs key implementation data =>
      obtain ⟨_, called⟩ := Work.finished_of_dropped finished
      exact (earlyFrom_finished.mp called).moves faithful (supplies_given permitted)
  | resolve key =>
      obtain ⟨_, called⟩ := Work.finished_of_dropped finished
      exact resolveBy_moves faithful called
  | resolveFrom key implementation =>
      obtain ⟨_, called⟩ := Work.finished_of_dropped finished
      exact (lateFrom_finished.mp called).moves faithful (supplies_given permitted)
  | resolveAs key wanted =>
      obtain ⟨_, called⟩ := Work.finished_of_dropped finished
      exact resolveAsBy_moves faithful called
  | shutdown key =>
      obtain ⟨_, called⟩ := Work.finished_of_dropped finished
      exact shutdownBy_moves faithful called
  | shutdownInstance key =>
      obtain ⟨_, called⟩ := Work.finished_of_dropped finished
      exact (shutdownInstanceBy_finished.mp called).moves faithful
  | construct key =>
      obtain ⟨_, called⟩ := Work.finished_of_dropped finished
      exact (instanceFor_finished called).moves
  | constructAs key implementation =>
      obtain ⟨_, called⟩ := Work.finished_of_dropped finished
      have assigned : s.Assigns key implementation none := permitted
      exact (constructAs_finished called).moves assigned
  | earlyAll data failFast =>
      obtain ⟨_, called⟩ := Work.finished_of_dropped finished
      exact earlyAllBy_moves faithful called
  | shutdownAll => exact shutdownAllBy_moves faithful finished

/-- What a task relies on: a call has a way to come by its instance, and the actions of a
phase are those of the innermost component. -/
def Task.IsSound (frames : List Frame) (s : Store) : Task → Prop
  | .early construct key _ | .late construct key => Supplies construct key s
  | .phase id _ _ => frames.head?.map Frame.id = some id
  | .perform now _ => frames.head?.map Frame.id = some now.id
  | _ => True

theorem Call.begin_spec {call : Call} {s t : Store} {task : Task} {frames : List Frame}
    (permitted : call.IsPermitted s) (begun : call.begin s = some (task, t)) :
    Moves ⟨frames, s⟩ ⟨frames, t⟩ ∧ task.IsSound frames t := by
  cases call with
  | early key data =>
      cases begun
      exact ⟨announce_moves s key, supplies_instanceFor key _⟩
  | earlyAs key implementation data =>
      cases begun
      exact ⟨.refl, supplies_given permitted⟩
  | resolve key =>
      cases begun
      exact ⟨.refl, supplies_instanceFor key s⟩
  | resolveFrom key implementation =>
      cases begun
      exact ⟨.refl, supplies_given permitted⟩
  | resolveAs key wanted =>
      cases begun
      exact ⟨.refl, supplies_instanceFor key s⟩
  | shutdown key =>
      rw [Call.begin] at begun
      split at begun
      · cases begun
        exact ⟨.refl, trivial⟩
      · cases begun
  | shutdownInstance key =>
      cases begun
      exact ⟨.refl, trivial⟩
  | construct key => cases begun
  | constructAs key implementation => cases begun
  | earlyAll data failFast => cases begun
  | shutdownAll => cases begun

/-- Components have no say in the implementation. -/
theorem Action.isPermitted_of_call? {action : Action} {data : StartupData} {call : Call}
    (calls : action.call? data = some call) (s : Store) : call.IsPermitted s := by
  cases action <;> cases calls <;> trivial

/-- The moments that the code goes through are moments in the sense of moves. -/
theorem Underway.arises {task : Task} {frames : List Frame} {s : Store}
    (underway : Underway task frames s) :
    Moment.Arises ⟨frames, s⟩ ∧ task.IsSound frames s := by
  induction underway with
  | fresh isFresh => exact ⟨⟨_, isFresh, .refl⟩, trivial⟩
  | changed before change inductionHypothesis =>
      exact ⟨inductionHypothesis.1.trans (.single (.host change)), trivial⟩
  | answered before permitted finished inductionHypothesis =>
      have moves := Call.carry_moves (runPhase_faithful _) permitted finished
      exact ⟨inductionHypothesis.1.trans moves, trivial⟩
  | asked before permitted begun inductionHypothesis =>
      obtain ⟨moves, sound⟩ := Call.begin_spec permitted begun
      exact ⟨inductionHypothesis.1.trans moves, sound⟩
  | called before owned calls begun inductionHypothesis =>
      obtain ⟨moves, sound⟩ := Call.begin_spec (Action.isPermitted_of_call? calls _) begun
      exact ⟨inductionHypothesis.1.trans moves, sound⟩
  | early before construction admits inductionHypothesis =>
      obtain ⟨arises, supplies⟩ := inductionHypothesis
      exact ⟨(arises.trans (supplies.moves construction _)).trans
        (.single (.enter (supplies.present construction) admits)), rfl⟩
  | late before construction admits inductionHypothesis =>
      obtain ⟨arises, supplies⟩ := inductionHypothesis
      exact ⟨(arises.trans (supplies.moves construction _)).trans
        (.single (.enter (supplies.present construction) admits)), rfl⟩
  | shutdown before present admits inductionHypothesis =>
      exact ⟨inductionHypothesis.1.trans (.single (.enter present admits)), rfl⟩
  | entered before scripted planned entering inductionHypothesis =>
      obtain ⟨arises, charge⟩ := inductionHypothesis
      obtain ⟨quiet, same⟩ := enterPhase_quiet entering
      exact ⟨arises.trans (Moves.quiet (charge ▸ quiet)), charge.trans (by rw [same])⟩
  | proceeded before done inductionHypothesis =>
      obtain ⟨arises, charge⟩ := inductionHypothesis
      exact ⟨arises.trans (act_moves (runPhase_faithful _) charge done), charge⟩

/-- What a call leaves behind if it comes to its end. -/
def Store.afterCall (s : Store) (call : Call) : Store :=
  match call.carry (runPhase 2) s with
  | .finished ((), t) => t
  | _ => s

theorem Underway.afterCall {s : Store} (before : Underway .idle [] s) (call : Call)
    (permitted : call.IsPermitted s)
    (finished : call.carry (runPhase 2) s = .finished ((), s.afterCall call)) :
    Underway .idle [] (s.afterCall call) :=
  .answered before permitted finished

/-- From one point to the next while a call is carried out: the broker takes up a call that a
component makes, hands over to a phase, or enters it, or a component is done with an action. -/
inductive Follows : Task → List Frame → Store → Task → List Frame → Store → Prop where
  | called {now : Situation} {action : Action} {next : Heard → Course} {frames : List Frame}
      {s t : Store} {call : Call} {task : Task} (owned : hasOwner s now.id = true)
      (calls : action.call? now.data = some call) (begun : call.begin s = some (task, t)) :
      Follows (.perform now (.act action next)) frames s task frames t
  | early {construct : Work (Except BrokerFault Nat)} {key : String} {data : StartupData}
      {frames : List Frame} {s t : Store} {id : Nat}
      (construction : construct s = .finished (.ok id, t)) (admits : t.Admits key id .early) :
      Follows (.early construct key data) frames s
        (.phase id .early data) (⟨key, id, .early⟩ :: frames) (t.openPhase key id .early)
  | late {construct : Work (Except BrokerFault Nat)} {key : String} {frames : List Frame}
      {s t : Store} {id : Nat} (construction : construct s = .finished (.ok id, t))
      (admits : t.Admits key id .late) :
      Follows (.late construct key) frames s
        (.phase id .late {}) (⟨key, id, .late⟩ :: frames) (t.openPhase key id .late)
  | shutdown {key : String} {frames : List Frame} {s : Store} {id : Nat}
      (present : s.cachedId? key = some id) (admits : s.Admits key id .shutdown) :
      Follows (.shutdown key) frames s
        (.phase id .shutdown {}) (⟨key, id, .shutdown⟩ :: frames) (s.openPhase key id .shutdown)
  | entered {id : Nat} {phase : Phase} {data : StartupData} {frames : List Frame}
      {s t : Store} {script : Script} {seen : Phase} {seenData : StartupData}
      {course : Course} {now : Situation}
      (scripted : (s.instance? id).map Component.body = some (.scripted script))
      (planned : script.plan data phase = (seen, seenData, course))
      (entering : enterPhase id seen seenData s = .finished (now, t)) :
      Follows (.phase id phase data) frames s (.perform now course) frames t
  | proceeded {now : Situation} {action : Action} {next : Heard → Course} {heard : Heard}
      {frames : List Frame} {s t : Store} {depth : Nat}
      (done : act (runPhase depth) now action s = .finished (.ok heard, t)) :
      Follows (.perform now (.act action next)) frames s (.perform now (next heard)) frames t

theorem Underway.follow {task next : Task} {frames inside : List Frame} {s t : Store}
    (before : Underway task frames s) (follows : Follows task frames s next inside t) :
    Underway next inside t := by
  cases follows with
  | called owned calls begun => exact .called before owned calls begun
  | early construction admits => exact .early before construction admits
  | late construction admits => exact .late before construction admits
  | shutdown present admits => exact .shutdown before present admits
  | entered scripted planned entering => exact .entered before scripted planned entering
  | proceeded done => exact .proceeded before done

/-- One comes from one point to another by steps of a call. -/
inductive Pursues (task : Task) (frames : List Frame) (s : Store) :
    Task → List Frame → Store → Prop where
  | here : Pursues task frames s task frames s
  | step {next last : Task} {inside deeper : List Frame} {t u : Store}
      (before : Pursues task frames s next inside t)
      (follows : Follows next inside t last deeper u) : Pursues task frames s last deeper u

end ServiceLifecycle
