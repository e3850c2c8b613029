/-
Module: ServiceLifecycle.Proofs.Locality.Past
Purpose: What has been noted and reported has no say in what happens next.
Main exports: Store.withoutPast, Store.after, Oblivious, Oblivious.bind,
  Broker.instanceFor_oblivious,
  Broker.earlyFrom_oblivious, Broker.lateFrom_oblivious, Broker.runPhase_oblivious,
  Action.request_oblivious
-/
import ServiceLifecycle.Proofs.Locality.Twins

namespace ServiceLifecycle

/-!
A broker writes its journal and reports to its channel, but reads neither.  Put an arbitrary past in
front of a store, that is, earlier events and a channel that has seen earlier reports: every
computation then ends as it would without that past, and leaves what it would leave, with the same
past in front.

The new reports go to the channel in the order in which the journal has them, so that the channel
can be had from the journal.
-/

open Broker

/-- What an event does to the channel. -/
def Event.replay : Event → Channel → Channel
  | .reported entry, channel => channel.record entry
  | _, channel => channel

namespace Store

/-- The store as if nothing had been noted or reported yet. -/
def withoutPast (s : Store) : Store :=
  { s with journal := [], channel := {} }

/-- The store with events in front of its journal, all of whose reports went to a channel. -/
def after (s : Store) (journal : List Event) (channel : Channel) : Store :=
  { s with
    journal := s.journal ++ journal
    channel := s.journal.foldr Event.replay channel }

theorem withoutPast_after (s : Store) : s.withoutPast.after s.journal s.channel = s := rfl

theorem eq_after_of_withoutPast {s t : Store} (same : t.withoutPast = s.withoutPast) :
    t = s.withoutPast.after t.journal t.channel := by
  rw [← same]
  rfl

end Store

/-- The computation ends as it would without any past, and leaves what it would leave. -/
def Oblivious {α : Type} (work : Work α) : Prop :=
  ∀ s journal channel, work (s.after journal channel) =
    (work s).andThen fun done => .finished (done.1, done.2.after journal channel)

namespace Oblivious

variable {α β : Type}

theorem answer (a : α) : Oblivious (pure a : Work α) := fun _ _ _ => rfl

theorem bind {work : Work α} {next : α → Work β} (first : Oblivious work)
    (rest : ∀ a, Oblivious (next a)) : Oblivious (work >>= next) := by
  intro s journal channel
  rw [Work.bind_apply, Work.bind_apply, first s journal channel]
  cases work s with
  | finished done => exact rest done.1 done.2 journal channel
  | blocked key => rfl
  | stopped => rfl
  | exhausted => rfl

theorem map {work : Work α} (first : Oblivious work) (f : α → β) : Oblivious (f <$> work) := by
  intro s journal channel
  rw [Work.map_apply, Work.map_apply, first s journal channel]
  cases work s <;> rfl

/-- A change of the store that does not depend on the past. -/
theorem change {change : Store → Store}
    (commutes : ∀ s journal channel, change (s.after journal channel) =
      (change s).after journal channel) :
    Oblivious (modify change : Work PUnit) := by
  intro s journal channel
  rw [Work.modify_apply, Work.modify_apply, commutes]
  rfl

/-- What is read of the store is not its past. -/
theorem read {next : Store → Work β}
    (blind : ∀ s journal channel, next (s.after journal channel) = next s)
    (rest : ∀ s, Oblivious (next s)) : Oblivious (get >>= next) := by
  intro s journal channel
  have step : (get >>= next) (s.after journal channel) = next s (s.after journal channel) :=
    congrFun (blind s journal channel) _
  rw [step]
  exact rest s s journal channel

/-- A computation that goes different ways in different stores. -/
theorem branch {work other : Work α} {condition : Store → Bool}
    (blind : ∀ s journal channel, condition (s.after journal channel) = condition s)
    (one : Oblivious work) (two : Oblivious other) :
    Oblivious (get >>= fun s => if condition s then work else other) := by
  refine read (fun s journal channel => by rw [blind]) fun s => ?_
  split
  · exact one
  · exact two

end Oblivious

section Steps

variable (s : Store) (journal : List Event) (channel : Channel)

theorem Store.construct_after (key implementation : String) (name : Option String) (body : Body) :
    (s.after journal channel).construct key implementation name body =
      (s.construct key implementation name body).after journal channel := by
  cases name <;> rfl

theorem Store.openPhase_after (key : String) (id : Nat) (phase : Phase) :
    (s.after journal channel).openPhase key id phase =
      (s.openPhase key id phase).after journal channel := by
  cases phase <;> rfl

theorem Store.closePhase_after (key : String) (id : Nat) (phase : Phase)
    (result : Except PhaseFault Unit) :
    (s.after journal channel).closePhase key id phase result =
      (s.closePhase key id phase result).after journal channel := by
  cases phase <;> cases result <;> rfl

theorem Broker.announce_after (key : String) :
    announce (s.after journal channel) key = (announce s key).after journal channel := by
  have same : (s.after journal channel).registry = s.registry := rfl
  rw [announce, announce, same]
  split <;> rfl

theorem Broker.buildFor_after (key implementation : String) (name : Option String) :
    buildFor (s.after journal channel) key implementation name =
      ((buildFor s key implementation name).1,
        (buildFor s key implementation name).2.after journal channel) := by
  have same : (s.after journal channel).registry = s.registry := rfl
  have built := s.construct_after journal channel key implementation name
  simp only [buildFor, same, built]
  cases s.registry.find implementation with
  | recipe recipe => cases recipe <;> rfl
  | _ => rfl

end Steps

namespace Broker

theorem instanceFor_oblivious (key : String) : Oblivious (instanceFor key) := by
  intro s journal channel
  cases present : s.cachedId? key with
  | some id =>
      have still : (s.after journal channel).cachedId? key = some id := present
      rw [instanceFor_cached present, instanceFor_cached still]
      rfl
  | none =>
      have still : (s.after journal channel).cachedId? key = none := present
      obtain ⟨assigns, unknown⟩ := instanceFor_absent present
      obtain ⟨assignsStill, unknownStill⟩ := instanceFor_absent still
      cases assigned : s.assigned? key with
      | some pair =>
          rw [assigns pair.1 pair.2 assigned, assignsStill pair.1 pair.2 assigned, buildFor_after]
          rfl
      | none =>
          rw [unknown assigned, unknownStill assigned]
          rfl

section Calls

variable {run : PhaseRunner} (oblivious : ∀ id phase data, Oblivious (run id phase data))
  (key : String)

include oblivious

theorem earlyFrom_oblivious (data : StartupData) :
    Oblivious (earlyFrom run (instanceFor key) key data) := by
  refine (instanceFor_oblivious key).bind fun built => ?_
  -- The rest of the call begins where the instance has been found.
  suffices rest : Oblivious (earlyFrom run (pure built) key data) from rest
  intro s journal channel
  cases built with
  | error fault => rfl
  | ok id =>
      have found := Work.pure_apply (Except.ok id : Except BrokerFault Nat)
      cases ready : s.isReady id with
      | true =>
          have still : (s.after journal channel).isReady id = true := ready
          rw [earlyFrom_finished.mpr (.already (found _) ready),
            earlyFrom_finished.mpr (.already (found _) still)]
          rfl
      | false =>
          have still : (s.after journal channel).isReady id = false := ready
          by_cases again : key ∈ s.stack
          · have also : key ∈ (s.after journal channel).stack := again
            rw [earlyFrom_finished.mpr (.circle (found _) ready again),
              earlyFrom_finished.mpr (.circle (found _) still also)]
            rfl
          · have also : key ∉ (s.after journal channel).stack := again
            rw [earlyFrom_admitted (found _) ⟨ready, again⟩,
              earlyFrom_admitted (found _) ⟨still, also⟩, Store.openPhase_after,
              oblivious id .early data]
            cases run id .early data (s.openPhase key id .early) with
            | finished ended =>
                simp only [Outcome.andThen_finished, Store.closePhase_after]
                rfl
            | _ => rfl

theorem lateFrom_oblivious : Oblivious (lateFrom run (instanceFor key) key) := by
  refine (instanceFor_oblivious key).bind fun built => ?_
  suffices rest : Oblivious (lateFrom run (pure built) key) from rest
  intro s journal channel
  cases built with
  | error fault => rfl
  | ok id =>
      have found := Work.pure_apply (Except.ok id : Except BrokerFault Nat)
      cases ready : s.isReady id with
      | true =>
          have still : (s.after journal channel).isReady id = true := ready
          rw [lateFrom_finished.mpr (.already (found _) ready),
            lateFrom_finished.mpr (.already (found _) still)]
          rfl
      | false =>
          have still : (s.after journal channel).isReady id = false := ready
          cases record : s.poisoned.get? key with
          | some reason =>
              have kept : (s.after journal channel).poisoned.get? key = some reason := record
              rw [lateFrom_finished.mpr (.poisoned (found _) ready record),
                lateFrom_finished.mpr (.poisoned (found _) still kept)]
              rfl
          | none =>
              have clean : (s.after journal channel).poisoned.get? key = none := record
              by_cases waits : key ∈ s.settling
              · have also : key ∈ (s.after journal channel).settling := waits
                rw [lateFrom_waits (found _) ready record waits,
                  lateFrom_waits (found _) still clean also]
                rfl
              · have also : key ∉ (s.after journal channel).settling := waits
                rw [lateFrom_admitted (found _) ⟨ready, record, waits⟩,
                  lateFrom_admitted (found _) ⟨still, clean, also⟩, Store.openPhase_after,
                  oblivious id .late {}]
                cases run id .late {} (s.openPhase key id .late) with
                | finished ended =>
                    simp only [Outcome.andThen_finished, Store.closePhase_after]
                    rfl
                | _ => rfl

theorem earlyBy_oblivious (data : StartupData) : Oblivious (earlyBy run key data) := by
  intro s journal channel
  rw [earlyBy_apply, earlyBy_apply, announce_after]
  exact earlyFrom_oblivious oblivious key data _ _ _

theorem resolveAsBy_oblivious (wanted : Wanted) : Oblivious (resolveAsBy run key wanted) := by
  refine (lateFrom_oblivious oblivious key).bind fun result => ?_
  cases result with
  | error fault => exact .answer _
  | ok id => exact .branch (fun _ _ _ => rfl) (.answer _) (.answer _)

theorem shutdownInstanceBy_oblivious : Oblivious (shutdownInstanceBy run key) := by
  intro s journal channel
  cases present : s.cachedId? key with
  | none =>
      have still : (s.after journal channel).cachedId? key = none := present
      rw [shutdownInstanceBy_finished.mpr (.absent present),
        shutdownInstanceBy_finished.mpr (.absent still)]
      rfl
  | some id =>
      have still : (s.after journal channel).cachedId? key = some id := present
      cases ready : s.isReady id with
      | false =>
          have also : (s.after journal channel).isReady id = false := ready
          rw [shutdownInstanceBy_finished.mpr (.idle present ready),
            shutdownInstanceBy_finished.mpr (.idle still also)]
          rfl
      | true =>
          have also : (s.after journal channel).isReady id = true := ready
          rw [shutdownInstanceBy_ready present ready, shutdownInstanceBy_ready still also,
            Store.openPhase_after, oblivious id .shutdown {}]
          cases run id .shutdown {} (s.openPhase key id .shutdown) <;> rfl

theorem shutdownBy_oblivious : Oblivious (shutdownBy run key) := by
  intro s journal channel
  have same : isKnown (s.after journal channel) key = isKnown s key := rfl
  rw [shutdownBy_apply, shutdownBy_apply, same]
  split
  · exact shutdownInstanceBy_oblivious oblivious key s journal channel
  · rfl

omit key in
theorem request_oblivious (action : Action) (data : StartupData) :
    Oblivious (action.request run data) := by
  cases action with
  | early about onFailure =>
      exact (earlyBy_oblivious oblivious about data).bind fun _ => .answer _
  | resolve about onFailure =>
      exact (lateFrom_oblivious oblivious about).bind fun _ => .answer _
  | resolveAs about wanted onFailure =>
      exact (resolveAsBy_oblivious oblivious about wanted).bind fun _ => .answer _
  | shutdown about => exact (shutdownBy_oblivious oblivious about).bind fun _ => .answer _
  | _ => exact .answer _

end Calls

theorem say_oblivious (id : Nat) (text : String) : Oblivious (say id text) :=
  .change fun _ _ _ => rfl

theorem afterCall_oblivious {α : Type} (id : Nat) (onFailure : OnFailure)
    (result : Except BrokerFault α) : Oblivious (afterCall id onFailure result) := by
  cases result with
  | ok _ => exact .answer _
  | error fault =>
      cases onFailure with
      | propagate => exact .answer _
      | wrap => exact .answer _
      | ignore => exact (say_oblivious id _).bind fun _ => .answer _

theorem follow_oblivious (now : Situation) (action : Action)
    (answer : Except BrokerFault Answer) : Oblivious (action.follow now answer) := by
  cases action with
  | early key onFailure => exact afterCall_oblivious now.id onFailure answer
  | resolve key onFailure => exact afterCall_oblivious now.id onFailure answer
  | resolveAs key wanted onFailure =>
      cases answer with
      | error fault => exact afterCall_oblivious now.id onFailure _
      | ok found =>
          cases found with
          | «instance» id =>
              intro s journal channel
              have same : (s.after journal channel).labelOf? id = s.labelOf? id := rfl
              cases label : s.labelOf? id with
              | none =>
                  simp only [Action.follow, Work.bind_apply, Work.get_apply,
                    Outcome.andThen_finished, same, label]
                  rfl
              | some number =>
                  simp only [Action.follow, Work.bind_apply, Work.get_apply,
                    Outcome.andThen_finished, same, label]
                  rfl
          | _ => exact .answer _
  | _ => exact .answer _

theorem enterPhase_oblivious (id : Nat) (phase : Phase) (data : StartupData) :
    Oblivious (enterPhase id phase data) := fun _ _ _ => rfl

theorem startConfiguration_oblivious (id : Nat) (data : StartupData) :
    Oblivious (startConfiguration id data) := by
  intro s journal channel
  have same : (s.after journal channel).surroundings = s.surroundings := rfl
  simp only [startConfiguration, Work.bind_apply, Work.get_apply, Outcome.andThen_finished, same]
  cases loadDeployment s.surroundings data <;> rfl

theorem startLogging_oblivious (id : Nat) : Oblivious (startLogging id) := by
  intro s journal channel
  have sections : ownSection (s.after journal channel) id = ownSection s id := rfl
  have same : (s.after journal channel).surroundings = s.surroundings := rfl
  cases read : readLogSettings (ownSection s id) with
  | error fault =>
      simp [startLogging, sections, read]
      rfl
  | ok settings =>
      cases usable : ({ settings } : LogSetup).isUsable s.surroundings <;>
        simp [startLogging, sections, read, same, usable]
      rfl

section Phases

variable {run : PhaseRunner} (oblivious : ∀ id phase data, Oblivious (run id phase data))

include oblivious

theorem callOwner_oblivious (now : Situation) (action : Action) :
    Oblivious (callOwner run now action) := by
  cases names : action.named? with
  | some key =>
      intro s journal channel
      rw [callOwner_request names, callOwner_request names]
      have asks := (request_oblivious oblivious action now.data).bind
        (follow_oblivious now action)
      exact asks s journal channel
  | none =>
      cases action with
      | notice text => exact .bind (.change fun _ _ _ => rfl) fun _ => .answer _
      | report text => exact .bind (.change fun _ _ _ => rfl) fun _ => .answer _
      | ownerConfig key =>
          exact .read (fun _ _ _ => rfl) fun _ => (say_oblivious now.id _).bind fun _ => .answer _
      | _ => first | exact .answer _ | cases names

theorem act_oblivious (now : Situation) (action : Action) : Oblivious (act run now action) := by
  by_cases calls : action.CallsOwner
  · intro s journal channel
    have same : hasOwner (s.after journal channel) now.id = hasOwner s now.id := rfl
    rw [act_call calls, act_call calls, same]
    split
    · exact callOwner_oblivious oblivious now action s journal channel
    · rfl
  · -- A component that keeps to itself at most looks at what it has been given.
    have remarks : ∀ text, Oblivious (say now.id text >>= fun _ =>
        (pure (.ok none) : Work (Except PhaseFault Heard))) :=
      fun text => (say_oblivious now.id text).bind fun _ => .answer _
    cases action with
    | mark => exact .bind (.change fun _ _ _ => rfl) fun _ => .answer _
    | unmark => exact .bind (.change fun _ _ _ => rfl) fun _ => .answer _
    | log text => exact remarks text
    | name => exact .read (fun _ _ _ => rfl) fun _ => remarks _
    | owner => exact .read (fun _ _ _ => rfl) fun _ => remarks _
    | data => exact remarks _
    | config path => exact .read (fun _ _ _ => rfl) fun _ => remarks _
    | fail message cause => exact .answer _
    | failFirst count message =>
        simp only [act]
        split <;> exact .answer _
    | failAfter count message =>
        simp only [act]
        split <;> exact .answer _
    | failBroker fault => exact .answer _
    | _ => exact absurd trivial calls

theorem perform_oblivious (now : Situation) (course : Course) :
    Oblivious (perform run now course) := by
  induction course with
  | finish => exact .answer _
  | act action next inductionHypothesis =>
      refine (act_oblivious oblivious now action).bind fun result => ?_
      cases result with
      | error fault => exact .answer _
      | ok heard => exact inductionHypothesis heard

theorem runLateScript_oblivious (id : Nat) (script : Script) :
    Oblivious (runLateScript run id script) :=
  (enterPhase_oblivious id .late {}).bind fun now => perform_oblivious oblivious now _

theorem runEarlyScript_oblivious (id : Nat) (script : Script) (data : StartupData) :
    Oblivious (runEarlyScript run id script data) := by
  rw [runEarlyScript]
  split
  · exact runLateScript_oblivious oblivious id script
  · exact (enterPhase_oblivious id .early data).bind fun now => perform_oblivious oblivious now _

theorem runShutdownScript_oblivious (id : Nat) (script : Script) :
    Oblivious (runShutdownScript run id script) := by
  refine (enterPhase_oblivious id .shutdown {}).bind fun now => ?_
  refine (perform_oblivious oblivious now _).bind fun result => ?_
  cases result with
  | ok _ => exact .answer _
  | error fault => exact (say_oblivious id _).bind fun _ => .answer _

theorem runBody_oblivious (id : Nat) (phase : Phase) (data : StartupData) :
    Oblivious (runBody run id phase data) := by
  intro s journal channel
  have same : (s.after journal channel).instance? id = s.instance? id := rfl
  simp only [runBody, Work.bind_apply, Work.get_apply, Outcome.andThen_finished, same]
  cases (s.instance? id).map Component.body with
  | none => rfl
  | some body =>
      cases body with
      | plain => cases phase <;> rfl
      | scripted script =>
          cases phase with
          | early => exact runEarlyScript_oblivious oblivious id script data s journal channel
          | late => exact runLateScript_oblivious oblivious id script s journal channel
          | shutdown => exact runShutdownScript_oblivious oblivious id script s journal channel
      | configuration loaded =>
          cases phase with
          | early => exact startConfiguration_oblivious id data s journal channel
          | late => exact startConfiguration_oblivious id {} s journal channel
          | shutdown => rfl
      | logging settings =>
          cases phase with
          | early => exact startLogging_oblivious id s journal channel
          | late => exact startLogging_oblivious id s journal channel
          | shutdown => rfl

end Phases

/-- However deep phases may nest, none depends on the past. -/
theorem runPhase_oblivious (depth : Nat) (id : Nat) (phase : Phase) (data : StartupData) :
    Oblivious (runPhase depth id phase data) := by
  induction depth generalizing id phase data with
  | zero => exact fun _ _ _ => rfl
  | succ depth inductionHypothesis =>
      exact runBody_oblivious (fun id phase data => inductionHypothesis id phase data) id phase data

theorem carryOut_oblivious {α : Type} {operation : PhaseRunner → Work α}
    (oblivious : ∀ depth, Oblivious (operation (runPhase depth))) :
    Oblivious (carryOut operation) :=
  .read (fun _ _ _ => rfl) fun s => oblivious (depthAllowance s)

end Broker

end ServiceLifecycle
