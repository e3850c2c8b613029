/-
Module: ServiceLifecycle.Proofs.Broker.Actions
Purpose: What a single action and a whole phase of a component can do.
Main exports: Store.Remarked, Store.Logged, Store.Prefaced, Answer, Action.named?,
  Action.request, Served, request_serves, ActEnd, act_ends, Store.enter, PhaseEnd, runBody_ends
-/
import ServiceLifecycle.Proofs.Broker.Underway

namespace ServiceLifecycle

/-!
An action changes the status of its component, or it has the broker do something about a key, or
it does no more than log or report.  The fault that it may come to is read off the action, and
off the answer of the broker if that was asked.

A phase enters, performs actions and is over, unless the component is a built-in one.
-/

open Broker

/-- Something may have been logged or reported. -/
inductive Store.Remarked (s : Store) : Store → Prop where
  | nothing : Remarked s s
  | said (label : Option Nat) (text : String) : Remarked s (s.note (.said label text))
  | reported (entry : Diagnostic) : Remarked s (s.report entry)

/-- Something may have been logged. -/
inductive Store.Logged (s : Store) : Store → Prop where
  | nothing : Logged s s
  | said (label : Option Nat) (text : String) : Logged s (s.note (.said label text))

theorem Store.Logged.remarked {s t : Store} (logged : s.Logged t) : s.Remarked t := by
  cases logged with
  | nothing => exact .nothing
  | said label text => exact .said label text

/-- What the broker may report before it does something about a key. -/
inductive Store.Prefaced (key : String) (s : Store) : Store → Prop where
  | nothing : Prefaced key s s
  | announced : Prefaced key s (s.notice ("Start initializing service (early): " ++ key))
  | unknown (text : String) : Prefaced key s (s.errorMessage text)

theorem Store.Prefaced.remarked {key : String} {s t : Store} (prefaced : s.Prefaced key t) :
    s.Remarked t := by
  cases prefaced with
  | nothing => exact .nothing
  | announced => exact .reported _
  | unknown text => exact .reported _

/-- What a body is, without what a built-in service has loaded. -/
def Body.kind : Body → Body
  | .configuration _ => .configuration none
  | .logging _ => .logging none
  | body => body

/-- The key that an action has the broker do something about. -/
def Action.named? : Action → Option String
  | .early key _ | .resolve key _ | .resolveAs key _ _ | .shutdown key => some key
  | _ => none

/-- When a component has become initialized, its course is over. -/
def Course.MarksLast : Course → Prop
  | .finish => True
  | .act action next =>
      (action = .mark → next none = .finish) ∧ ∀ heard, (next heard).MarksLast

theorem Course.marksLast_straight {actions : List Action} :
    (straight actions).MarksLast ↔ .mark ∉ actions.dropLast := by
  induction actions with
  | nil => simp [straight, MarksLast]
  | cons action rest inductionHypothesis =>
      cases rest with
      | nil => simp [straight, MarksLast]
      | cons second others =>
          rw [straight, MarksLast, inductionHypothesis, List.dropLast_cons_cons, List.mem_cons,
            not_or]
          simp [straight, eq_comm]

/-- What the broker answers when it has done what it was asked for. -/
inductive Answer where
  | done
  /-- The instance that was asked for. -/
  | instance (id : Nat)
  /-- Whether something was shut down. -/
  | shut (ran : Bool)
deriving Repr, Inhabited, DecidableEq

/-- What an action has the broker do, with the startup data at hand. -/
def Action.request (run : PhaseRunner) (data : StartupData) :
    Action → Work (Except BrokerFault Answer)
  | .early key _ => do
      let answer ← earlyBy run key data
      pure (answer.map fun _ => .done)
  | .resolve key _ => do
      let answer ← resolveBy run key
      pure (answer.map .instance)
  | .resolveAs key wanted _ => do
      let answer ← resolveAsBy run key wanted
      pure (answer.map .instance)
  | .shutdown key => do
      let ran ← shutdownBy run key
      pure (.ok (.shut ran))
  | _ => pure (.ok .done)

/-- What a component makes of a broker's answer. -/
def OnFailure.heed {α : Type} (onFailure : OnFailure) (answer : Except BrokerFault α) :
    Except PhaseFault Heard :=
  match answer, onFailure with
  | .ok _, _ => .ok none
  | .error fault, .propagate => .error (.nested fault)
  | .error fault, .wrap => .error (.failed "dependency failed" (some (.broker fault)))
  | .error fault, .ignore => .ok (some fault)

/-- What an action makes of the broker's answer. -/
def Action.heed {α : Type} (answer : Except BrokerFault α) : Action → Except PhaseFault Heard
  | .early _ onFailure | .resolve _ onFailure | .resolveAs _ _ onFailure => onFailure.heed answer
  | _ => .ok none

/-- What an action comes to that asks nothing of the broker, in the `run`-th run of its phase. -/
def Action.outcome (run : Nat) : Action → Except PhaseFault Heard
  | .fail message cause => .error (.failed message cause)
  | .failFirst count message => if run ≤ count then .error (.failed message none) else .ok none
  | .failAfter count message => if count < run then .error (.failed message none) else .ok none
  | .failBroker fault => .error (.nested fault)
  | _ => .ok none

section Actions

variable {run : PhaseRunner} {now : Situation} {s t u : Store} {action : Action}
  {result : Except PhaseFault Heard}

theorem afterCall_logs {α : Type} (id : Nat) (onFailure : OnFailure)
    (answer : Except BrokerFault α) (s : Store) :
    ∃ t, afterCall id onFailure answer s = .finished (onFailure.heed answer, t) ∧
      s.Logged t := by
  cases answer with
  | ok value => exact ⟨s, rfl, .nothing⟩
  | error fault =>
      cases onFailure with
      | propagate => exact ⟨s, rfl, .nothing⟩
      | wrap => exact ⟨s, rfl, .nothing⟩
      | ignore => exact ⟨_, rfl, .said _ _⟩

/-- What a component goes on with when it has its broker's answer. -/
def Action.follow (now : Situation) (action : Action) (answer : Except BrokerFault Answer) :
    Work (Except PhaseFault Heard) := do
  match action with
  | .early _ onFailure | .resolve _ onFailure => afterCall now.id onFailure answer
  | .resolveAs _ _ onFailure =>
      if let .ok (.instance id) := answer then
        if let some label := (← get).labelOf? id then
          say now.id ("got #" ++ toString label)
      afterCall now.id onFailure answer
  | _ => pure (.ok none)

theorem follow_logs (now : Situation) (action : Action)
    (answer : Except BrokerFault Answer) (s : Store) :
    ∃ t, action.follow now answer s = .finished (action.heed answer, t) ∧ s.Logged t := by
  cases action with
  | early key onFailure => exact afterCall_logs now.id onFailure answer s
  | resolve key onFailure => exact afterCall_logs now.id onFailure answer s
  | resolveAs key wanted onFailure =>
      cases answer with
      | error fault => exact afterCall_logs now.id onFailure (.error fault) s
      | ok found =>
          cases found with
          | done => exact ⟨s, rfl, .nothing⟩
          | shut ran => exact ⟨s, rfl, .nothing⟩
          | «instance» id =>
              cases label : s.labelOf? id with
              | none =>
                  refine ⟨s, ?_, .nothing⟩
                  simp [Action.follow, label, afterCall, Action.heed, OnFailure.heed]
              | some number =>
                  refine ⟨s.note (.said (s.labelOf? now.id) ("got #" ++ toString number)), ?_,
                    .said _ _⟩
                  simp [Action.follow, label, afterCall, Action.heed, OnFailure.heed, say]
  | _ => exact ⟨s, rfl, .nothing⟩

/-- The broker is asked first, and then the component hears the answer. -/
theorem callOwner_request {key : String} (names : action.named? = some key) (s : Store) :
    callOwner run now action s =
      (action.request run now.data s).andThen fun answered =>
        action.follow now answered.1 answered.2 := by
  cases action with
  | early key onFailure =>
      simp only [callOwner, Action.request, Work.bind_apply]
      cases earlyBy run key now.data s with
      | finished answered =>
          obtain ⟨answer, u⟩ := answered
          cases answer <;> cases onFailure <;> rfl
      | _ => rfl
  | resolve key onFailure =>
      simp only [callOwner, Action.request, Work.bind_apply]
      cases resolveBy run key s with
      | finished answered =>
          obtain ⟨answer, u⟩ := answered
          cases answer <;> cases onFailure <;> rfl
      | _ => rfl
  | resolveAs key wanted onFailure =>
      simp only [callOwner, Action.request, Work.bind_apply]
      cases resolveAsBy run key wanted s with
      | finished answered =>
          obtain ⟨answer, u⟩ := answered
          cases answer <;> cases onFailure <;> rfl
      | _ => rfl
  | shutdown key =>
      simp only [callOwner, Action.request, Work.bind_apply]
      cases shutdownBy run key s <;> rfl
  | _ => cases names

/-- What one action does. -/
inductive ActEnd (run : PhaseRunner) (now : Situation) (s : Store) :
    Action → Except PhaseFault Heard → Store → Prop where
  | marked : ActEnd run now s .mark (.ok none) (s.mark now.id)
  | unmarked : ActEnd run now s .unmark (.ok none) (s.unmark now.id)
  /-- The broker has been asked. -/
  | requested {action : Action} {key : String} {answer : Except BrokerFault Answer}
      {u t : Store} (names : action.named? = some key) (owned : hasOwner s now.id = true)
      (answered : action.request run now.data s = .finished (answer, u))
      (remarked : u.Remarked t) : ActEnd run now s action (action.heed answer) t
  /-- The broker cannot be reached. -/
  | unowned {action : Action} {key : String} {t : Store} (names : action.named? = some key)
      (unowned : hasOwner s now.id = false) (remarked : s.Remarked t) :
      ActEnd run now s action (.ok none) t
  | remarked {action : Action} {t : Store} (silent : action.named? = none)
      (marking : action ≠ .mark) (unmarking : action ≠ .unmark) (remarked : s.Remarked t) :
      ActEnd run now s action (action.outcome now.run) t

/-- A component that cannot reach its broker says so in place of asking it. -/
theorem act_unowned (calls : action.CallsOwner) (unowned : hasOwner s now.id = false) :
    ∃ t, s.Logged t ∧ ∀ run, act run now action s = .finished (.ok none, t) := by
  refine ⟨_, .said (s.labelOf? now.id) (action.label ++ ": no owner"), fun run => ?_⟩
  rw [act_call calls, if_neg (by simp [unowned])]

/-- An action that only has the broker report or show something comes to its end. -/
theorem act_telling (calls : action.CallsOwner) (silent : action.named? = none)
    (faultless : action.outcome now.run = .ok none)
    (tells : ∃ t, s.Remarked t ∧ ∀ run, callOwner run now action s = .finished (.ok none, t)) :
    ∃ result t, ∀ run, act run now action s = .finished (result, t) ∧
      ActEnd run now s action result t := by
  have marking : action ≠ .mark := by
    rintro rfl
    exact calls
  have unmarking : action ≠ .unmark := by
    rintro rfl
    exact calls
  cases owned : hasOwner s now.id with
  | true =>
      obtain ⟨t, remarked, told⟩ := tells
      refine ⟨.ok none, t, fun run => ⟨?_, faultless ▸ .remarked silent marking unmarking remarked⟩⟩
      rw [act_call calls, if_pos owned]
      exact told run
  | false =>
      obtain ⟨t, logged, told⟩ := act_unowned calls owned
      exact ⟨.ok none, t, fun run =>
        ⟨told run, faultless ▸ .remarked silent marking unmarking logged.remarked⟩⟩

/-- An action that asks nothing of the broker always comes to its end. -/
theorem act_silent (silent : action.named? = none) (now : Situation) (s : Store) :
    ∃ result t, ∀ run, act run now action s = .finished (result, t) ∧
      ActEnd run now s action result t := by
  cases action with
  | mark => exact ⟨_, _, fun run => ⟨rfl, .marked⟩⟩
  | unmark => exact ⟨_, _, fun run => ⟨rfl, .unmarked⟩⟩
  | log text =>
      exact ⟨_, _, fun run => ⟨rfl, .remarked rfl (by simp) (by simp) (.said _ _)⟩⟩
  | name => exact ⟨_, _, fun run => ⟨rfl, .remarked rfl (by simp) (by simp) (.said _ _)⟩⟩
  | owner => exact ⟨_, _, fun run => ⟨rfl, .remarked rfl (by simp) (by simp) (.said _ _)⟩⟩
  | data => exact ⟨_, _, fun run => ⟨rfl, .remarked rfl (by simp) (by simp) (.said _ _)⟩⟩
  | config path =>
      exact ⟨_, _, fun run => ⟨rfl, .remarked rfl (by simp) (by simp) (.said _ _)⟩⟩
  | fail message cause =>
      exact ⟨_, _, fun run => ⟨rfl, .remarked rfl (by simp) (by simp) .nothing⟩⟩
  | failFirst count message =>
      refine ⟨_, s, fun run => ⟨?_, .remarked rfl (by simp) (by simp) .nothing⟩⟩
      simp only [act, Action.outcome]
      split <;> rfl
  | failAfter count message =>
      refine ⟨_, s, fun run => ⟨?_, .remarked rfl (by simp) (by simp) .nothing⟩⟩
      simp only [act, Action.outcome]
      split <;> rfl
  | failBroker fault =>
      exact ⟨_, _, fun run => ⟨rfl, .remarked rfl (by simp) (by simp) .nothing⟩⟩
  | notice text => exact act_telling trivial rfl rfl ⟨_, .reported _, fun run => rfl⟩
  | report text => exact act_telling trivial rfl rfl ⟨_, .reported _, fun run => rfl⟩
  | ownerConfig key => exact act_telling trivial rfl rfl ⟨_, .said _ _, fun run => rfl⟩
  | _ => cases silent

theorem callsOwner_of_named? {key : String} (names : action.named? = some key) :
    action.CallsOwner := by
  cases action <;> first | exact trivial | cases names

/-- An action that has the broker do something waits for the answer. -/
theorem act_request {key : String} (names : action.named? = some key)
    (owned : hasOwner s now.id = true) :
    act run now action s = (action.request run now.data s).andThen fun answered =>
      action.follow now answered.1 answered.2 := by
  rw [act_call (callsOwner_of_named? names), if_pos owned]
  exact callOwner_request names s

/-- When an action has come to its end, it has done one of these things. -/
theorem act_ends (finished : act run now action s = .finished (result, t)) :
    ActEnd run now s action result t := by
  cases names : action.named? with
  | none =>
      obtain ⟨other, u, ends⟩ := act_silent names now s
      obtain ⟨same, ending⟩ := ends run
      rw [finished] at same
      cases same
      exact ending
  | some key =>
      cases owned : hasOwner s now.id with
      | true =>
          rw [act_request names owned, Outcome.andThen_eq_finished] at finished
          obtain ⟨⟨answer, u⟩, answered, following⟩ := finished
          obtain ⟨v, followed, logged⟩ := follow_logs now action answer u
          rw [followed] at following
          cases following
          exact .requested names owned answered logged.remarked
      | false =>
          obtain ⟨u, logged, same⟩ := act_unowned (callsOwner_of_named? names) owned
          rw [same run] at finished
          cases finished
          exact .unowned names owned logged.remarked

end Actions

section Requests

variable {run : PhaseRunner} {construct : Work (Except BrokerFault Nat)} {key : String}
  {data : StartupData} {s t : Store}

/-- What the broker does about a key when it has looked for the instance: it leaves everything as
it is, or it runs one phase. -/
inductive Served (run : PhaseRunner) (key : String) (s : Store) : Store → Prop where
  | left : Served run key s s
  | ran {id : Nat} {phase : Phase} {data : StartupData} {raw result : Except PhaseFault Unit}
      {t : Store} (present : s.cachedId? key = some id) (admits : s.Admits key id phase)
      (ran : run id phase data (s.openPhase key id phase) = .finished (raw, t))
      (judged : phase ≠ .shutdown → result = verdict t key id phase raw) :
      Served run key s (t.closePhase key id phase result)

theorem Broker.EarlyEnd.served {result : Except BrokerFault Unit}
    (ending : EarlyEnd run construct key data s result t)
    (supplies : Supplies construct key s) :
    ∃ built u, construct s = .finished (built, u) ∧ Served run key u t := by
  cases ending with
  | unbuilt construction => exact ⟨_, _, construction, .left⟩
  | already construction ready => exact ⟨_, _, construction, .left⟩
  | circle construction unready again => exact ⟨_, _, construction, .left⟩
  | ran construction admits phase =>
      exact ⟨_, _, construction, .ran (supplies.present construction) admits phase fun _ => rfl⟩

theorem Broker.LateEnd.served {result : Except BrokerFault Nat}
    (ending : LateEnd run construct key s result t) (supplies : Supplies construct key s) :
    ∃ built u, construct s = .finished (built, u) ∧ Served run key u t := by
  cases ending with
  | unbuilt construction => exact ⟨_, _, construction, .left⟩
  | already construction ready => exact ⟨_, _, construction, .left⟩
  | poisoned construction unready record => exact ⟨_, _, construction, .left⟩
  | ran construction admits phase =>
      exact ⟨_, _, construction, .ran (supplies.present construction) admits phase fun _ => rfl⟩

theorem Broker.ShutdownEnd.served {ran : Bool} (ending : ShutdownEnd run key s ran t) :
    Served run key s t := by
  cases ending with
  | absent missing => exact .left
  | idle present unready => exact .left
  | ran present ready phase => exact .ran present ready phase fun other => absurd rfl other

theorem shutdownBy_serves {ran : Bool} (finished : shutdownBy run key s = .finished (ran, t)) :
    ∃ u, s.Prefaced key u ∧ Served run key u t := by
  by_cases known : isKnown s key = true
  · have inner : shutdownInstanceBy run key s = .finished (ran, t) := by
      simpa [shutdownBy, known] using finished
    exact ⟨s, .nothing, (shutdownInstanceBy_finished.mp inner).served⟩
  · obtain ⟨rfl, rfl⟩ : false = ran ∧ s.errorMessage _ = t := by
      simpa [shutdownBy, known] using finished
    exact ⟨_, .unknown _, .left⟩

theorem announce_prefaces (s : Store) (key : String) : s.Prefaced key (announce s key) := by
  rw [announce]
  split
  · exact .announced
  · exact .nothing

theorem announce_remarks (s : Store) (key : String) : s.Remarked (announce s key) :=
  (announce_prefaces s key).remarked

/-- Whatever the broker is asked to do about a key, it may report something and look for the
instance, and then it serves the key. -/
theorem request_serves {action : Action} {answer : Except BrokerFault Answer}
    (names : action.named? = some key)
    (finished : action.request run data s = .finished (answer, t)) :
    ∃ u v, s.Prefaced key u ∧ (v = u ∨ ∃ built, InstanceEnd key u built v) ∧
      Served run key v t := by
  cases action with
  | early about onFailure =>
      cases names
      obtain ⟨result, u, called, rest⟩ := Work.bind_finished.mp finished
      cases rest
      rw [earlyBy_apply] at called
      obtain ⟨built, v, construction, served⟩ :=
        (earlyFrom_finished.mp called).served (supplies_instanceFor key _)
      exact ⟨_, v, announce_prefaces s key, .inr ⟨built, instanceFor_finished construction⟩, served⟩
  | resolve about onFailure =>
      cases names
      obtain ⟨result, u, called, rest⟩ := Work.bind_finished.mp finished
      cases rest
      obtain ⟨built, v, construction, served⟩ :=
        (lateFrom_finished.mp called).served (supplies_instanceFor key _)
      exact ⟨s, v, .nothing, .inr ⟨built, instanceFor_finished construction⟩, served⟩
  | resolveAs about wanted onFailure =>
      cases names
      obtain ⟨result, u, called, rest⟩ := Work.bind_finished.mp finished
      cases rest
      obtain ⟨resolved, resolution, -⟩ := resolveBy_of_resolveAsBy called
      obtain ⟨built, v, construction, served⟩ :=
        (lateFrom_finished.mp resolution).served (supplies_instanceFor key _)
      exact ⟨s, v, .nothing, .inr ⟨built, instanceFor_finished construction⟩, served⟩
  | shutdown about =>
      cases names
      obtain ⟨ran, u, called, rest⟩ := Work.bind_finished.mp finished
      cases rest
      obtain ⟨v, prefaced, served⟩ := shutdownBy_serves called
      exact ⟨v, v, prefaced, .inl rfl, served⟩
  | _ => cases names

/-- A host's early call is answered as that of a component would be. -/
theorem request_early (onFailure : OnFailure) {result : Except BrokerFault Unit}
    (called : earlyBy run key data s = .finished (result, t)) :
    (Action.early key onFailure).request run data s =
      .finished (result.map fun _ => .done, t) :=
  Work.bind_finished.mpr ⟨result, t, called, rfl⟩

/-- The common start ends as the walk through the services does. -/
theorem earlyAllBy_ends {failFast : Bool} {result : Except BrokerFault Unit}
    (finished : earlyAllBy run data failFast s = .finished (result, t)) :
    ∃ u, earlyEach run data failFast s.serviceNames s = .finished (result, u) ∧
      u.Remarked t := by
  rw [earlyAllBy_apply, Outcome.andThen_eq_finished] at finished
  obtain ⟨⟨answer, u⟩, walked, rest⟩ := finished
  cases answer with
  | error fault =>
      cases rest
      exact ⟨_, walked, .nothing⟩
  | ok _ =>
      cases rest
      exact ⟨_, walked, .reported _⟩

end Requests

section Phases

variable {run : PhaseRunner} {id : Nat} {phase : Phase} {data : StartupData} {s t : Store}
  {result : Except PhaseFault Unit}

/-- The store in which a scripted component that enters a phase has counted and logged it. -/
def Store.enter (s : Store) (id : Nat) (phase : Phase) : Store :=
  let counted := s.update id fun component =>
    { component with calls := component.calls.next phase }
  counted.note (.entered ((counted.instance? id).getD {}).label phase)

/-- The situation of a scripted component that has entered a phase. -/
def Store.situation (s : Store) (id : Nat) (phase : Phase) (data : StartupData) : Situation :=
  { id, phase, run := (((s.enter id phase).instance? id).getD {}).calls.of phase, data }

theorem enterPhase_apply (id : Nat) (phase : Phase) (data : StartupData) (s : Store) :
    enterPhase id phase data s = .finished (s.situation id phase data, s.enter id phase) := rfl

/-- What a phase that has come to its end has done. -/
inductive PhaseEnd (run : PhaseRunner) (id : Nat) (s : Store) :
    Phase → StartupData → Except PhaseFault Unit → Store → Prop where
  /-- There is no such instance. -/
  | absent {phase : Phase} {data : StartupData} (missing : s.instance? id = none) :
      PhaseEnd run id s phase data (.ok ()) s
  /-- A script has been followed in an initializing phase. -/
  | performed {phase seen : Phase} {data seenData : StartupData} {script : Script}
      {course : Course} {result : Except PhaseFault Unit} {t : Store}
      (initializing : phase ≠ .shutdown)
      (scripted : (s.instance? id).map Component.body = some (.scripted script))
      (planned : script.plan data phase = (seen, seenData, course))
      (performing : perform run (s.situation id seen seenData) course (s.enter id seen) =
        .finished (result, t)) :
      PhaseEnd run id s phase data result t
  /-- A script has been followed in a shutdown phase, whatever came of it. -/
  | closed {data : StartupData} {script : Script} {result : Except PhaseFault Unit} {t u : Store}
      (scripted : (s.instance? id).map Component.body = some (.scripted script))
      (performing : perform run (s.situation id .shutdown {}) script.shutdownCourse
        (s.enter id .shutdown) = .finished (result, u))
      (remarked : u.Remarked t) :
      PhaseEnd run id s .shutdown data (.ok ()) t
  /-- A component that only keeps its status has been initialized. -/
  | marked {phase : Phase} {data : StartupData} (initializing : phase ≠ .shutdown)
      (held : (s.instance? id).map Component.body = some .plain) :
      PhaseEnd run id s phase data (.ok ()) (s.mark id)
  /-- A built-in service has not found what it needs. -/
  | refused {phase : Phase} {data : StartupData} {fault : PhaseFault}
      (initializing : phase ≠ .shutdown) : PhaseEnd run id s phase data (.error fault) s
  /-- A built-in service has found what it needs. -/
  | started {phase : Phase} {data : StartupData} {body : Body} {surroundings : Surroundings}
      (initializing : phase ≠ .shutdown)
      (held : ((s.instance? id).map Component.body).map Body.kind = some body.kind) :
      PhaseEnd run id s phase data (.ok ())
        (({ s with surroundings }.update id fun component => { component with body }).mark id)
  /-- A component without a script has been shut down. -/
  | unmarked {data : StartupData} : PhaseEnd run id s .shutdown data (.ok ()) (s.unmark id)
  /-- The configuration service has forgotten what it served. -/
  | unloaded {data : StartupData} {loaded : Option Deployment}
      (held : (s.instance? id).map Component.body = some (.configuration loaded)) :
      PhaseEnd run id s .shutdown data (.ok ())
        ((s.update id fun component => { component with body := .configuration none }).unmark id)

/-- A script that is followed enters the phase and performs its actions. -/
theorem runBody_scripted {script : Script} {seen : Phase} {seenData : StartupData}
    {course : Course} (initializing : phase ≠ .shutdown)
    (scripted : (s.instance? id).map Component.body = some (.scripted script))
    (planned : script.plan data phase = (seen, seenData, course)) :
    runBody run id phase data s =
      perform run (s.situation id seen seenData) course (s.enter id seen) := by
  simp only [runBody, Work.bind_apply, Work.get_apply, Outcome.andThen_finished, scripted]
  cases phase with
  | shutdown => exact absurd rfl initializing
  | late =>
      cases planned
      rfl
  | early =>
      cases early : script.early with
      | none =>
          simp only [Script.plan, early] at planned
          cases planned
          simp only [runEarlyScript, early]
          rfl
      | some course =>
          simp only [Script.plan, early] at planned
          cases planned
          simp only [runEarlyScript, early]
          rfl

theorem startConfiguration_ends {loaded : Option Deployment} (initializing : phase ≠ .shutdown)
    (held : (s.instance? id).map Component.body = some (.configuration loaded))
    {given : StartupData} (finished : startConfiguration id given s = .finished (result, t)) :
    PhaseEnd run id s phase data result t := by
  cases load : loadDeployment s.surroundings given with
  | error fault =>
      simp [startConfiguration, load] at finished
      obtain ⟨rfl, rfl⟩ := finished
      exact .refused initializing
  | ok deployment =>
      simp [startConfiguration, load] at finished
      obtain ⟨rfl, rfl⟩ := finished
      exact @PhaseEnd.started run id s phase data _ s.surroundings initializing
        (by rw [held]; rfl)

theorem startLogging_ends {settings : Option LogSettings} (initializing : phase ≠ .shutdown)
    (held : (s.instance? id).map Component.body = some (.logging settings))
    (finished : startLogging id s = .finished (result, t)) :
    PhaseEnd run id s phase data result t := by
  cases read : readLogSettings (ownSection s id) with
  | error fault =>
      simp [startLogging, read] at finished
      obtain ⟨rfl, rfl⟩ := finished
      exact .refused initializing
  | ok settings =>
      by_cases usable : ({ settings } : LogSetup).isUsable s.surroundings = true
      · simp [startLogging, read, usable] at finished
        obtain ⟨rfl, rfl⟩ := finished
        exact .started initializing (by rw [held]; rfl)
      · simp [startLogging, read, usable] at finished

theorem runShutdownScript_ends {script : Script}
    (scripted : (s.instance? id).map Component.body = some (.scripted script))
    (finished : runShutdownScript run id script s = .finished (result, t)) :
    PhaseEnd run id s .shutdown data result t := by
  rw [runShutdownScript, Work.bind_finished] at finished
  obtain ⟨now, u, entering, following⟩ := finished
  rw [enterPhase_apply] at entering
  cases entering
  rw [Work.bind_finished] at following
  obtain ⟨done, v, performing, rest⟩ := following
  cases done with
  | ok _ =>
      cases rest
      exact .closed scripted performing .nothing
  | error fault =>
      cases rest
      exact .closed scripted performing (.said _ _)

/-- When a phase has come to its end, it has done one of these things. -/
theorem runBody_ends (finished : runBody run id phase data s = .finished (result, t)) :
    PhaseEnd run id s phase data result t := by
  have block := finished
  simp only [runBody, Work.bind_apply, Work.get_apply, Outcome.andThen_finished] at block
  cases held : (s.instance? id).map Component.body with
  | none =>
      rw [held] at block
      cases block
      exact .absent (Option.map_eq_none_iff.mp held)
  | some body =>
      rw [held] at block
      cases body with
      | plain =>
          cases phase with
          | early =>
              cases block
              exact .marked (by simp) held
          | late =>
              cases block
              exact .marked (by simp) held
          | shutdown =>
              cases block
              exact .unmarked
      | scripted script =>
          by_cases initializing : phase = .shutdown
          · subst initializing
            exact runShutdownScript_ends held block
          · have planned : script.plan data phase = (_, _, _) := rfl
            rw [runBody_scripted initializing held planned] at finished
            exact .performed initializing held planned finished
      | configuration loaded =>
          cases phase with
          | early => exact startConfiguration_ends (by simp) held block
          | late => exact startConfiguration_ends (by simp) held block
          | shutdown =>
              cases block
              exact .unloaded held
      | logging settings =>
          cases phase with
          | early => exact startLogging_ends (by simp) held block
          | late => exact startLogging_ends (by simp) held block
          | shutdown =>
              cases block
              exact .unmarked

end Phases

end ServiceLifecycle
