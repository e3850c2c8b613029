/-
Module: ServiceLifecycle.Proofs.Startup.Notices
Purpose: Who has reported a notice: the broker, when it starts a key early, or a script.
Main exports: Script.Tells, Store.Voices, Voiced, Broker.Candid, Broker.runPhase_candid,
  Broker.earlyEach_voiced
-/
import ServiceLifecycle.Proofs.Startup.Completion
import ServiceLifecycle.Proofs.Locality.Twins

namespace ServiceLifecycle

/-!
Whatever it is asked to do about a key, the only notices of the broker itself say that an early
start begins.  Every other notice comes from a script, and the component that follows the script is
still there when the call is over.

As in other places, what holds between two stores is stated once, in `Voiced`.  It is put together
along a run: a script that has told something before goes on being what it is.
-/

open Broker

/-- A script has its component report a text as a notice in one of its phases. -/
def Script.Tells (script : Script) (text : String) : Prop :=
  ∃ phase data, Action.notice text ∈ (script.plan data phase).2.2

/-- A component may want a text to be reported as a notice. -/
def Store.Voices (s : Store) (text : String) : Prop :=
  ∃ id script, (s.instance? id).map Component.body = some (.scripted script) ∧ script.Tells text

/-- The event is not a notice. -/
def Event.IsNoNotice (event : Event) : Prop :=
  ∀ text, event ≠ .reported (.ofNotice text)

/-- From one store to another, scripts have stayed as they are, and each notice that has been
reported says that an early start begins, or is one that a component may want to be reported. -/
structure Voiced (s t : Store) : Prop where
  scripted : ∀ {id script}, (s.instance? id).map Component.body = some (.scripted script) →
    (t.instance? id).map Component.body = some (.scripted script)
  spoken : ∃ events, t.journal = events ++ s.journal ∧
    ∀ text, .reported (.ofNotice text) ∈ events →
      (∃ key, text = startNotice key) ∨ t.Voices text

namespace Voiced

variable {s t u : Store} {key : String} {id : Nat}

/-- Nothing but events that are no notices has been written into the journal. -/
theorem of_silent (events : List Event) (grown : t.journal = events ++ s.journal)
    (silent : ∀ event ∈ events, event.IsNoNotice)
    (scripted : ∀ {id script}, (s.instance? id).map Component.body = some (.scripted script) →
      (t.instance? id).map Component.body = some (.scripted script)) : Voiced s t :=
  ⟨scripted, events, grown, fun text member => absurd rfl (silent _ member text)⟩

theorem refl (s : Store) : Voiced s s :=
  of_silent [] rfl (by simp) fun held => held

theorem voices (voiced : Voiced s t) {text : String} (before : s.Voices text) :
    t.Voices text := by
  obtain ⟨id, script, held, tells⟩ := before
  exact ⟨id, script, voiced.scripted held, tells⟩

theorem trans (first : Voiced s t) (second : Voiced t u) : Voiced s u := by
  obtain ⟨soon, grown, spoken⟩ := first.spoken
  obtain ⟨late, grownMore, spokenMore⟩ := second.spoken
  refine ⟨fun held => second.scripted (first.scripted held), late ++ soon, ?_, ?_⟩
  · rw [grownMore, grown, List.append_assoc]
  · intro text member
    rcases List.mem_append.mp member with after | before
    · exact spokenMore text after
    · exact (spoken text before).imp_right second.voices

theorem note {event : Event} (silent : event.IsNoNotice) (s : Store) :
    Voiced s (s.note event) :=
  of_silent [event] rfl (by simpa using silent) fun held => held

theorem of_logged (logged : s.Logged t) : Voiced s t := by
  cases logged with
  | nothing => exact .refl s
  | said label text => exact note (fun _ => Event.noConfusion) s

theorem errorMessage (text : String) (s : Store) : Voiced s (s.errorMessage text) := by
  apply of_silent [.reported (.ofError text)] rfl
  · simp [Event.IsNoNotice, Diagnostic.ofError, Diagnostic.ofNotice]
  · exact fun held => held

/-- A notice is reported on good grounds. -/
theorem notice {text : String} (s : Store)
    (grounds : (∃ key, text = startNotice key) ∨ s.Voices text) : Voiced s (s.notice text) := by
  refine ⟨fun held => held, [.reported (.ofNotice text)], rfl, fun other member => ?_⟩
  obtain rfl : other = text := by simpa [Diagnostic.ofNotice] using member
  exact grounds

theorem of_prefaced (prefaced : s.Prefaced key t) : Voiced s t := by
  cases prefaced with
  | nothing => exact .refl s
  | announced => exact notice s (.inl ⟨key, rfl⟩)
  | unknown text => exact errorMessage text s

/-- An instance changes, but not the script that it follows. -/
theorem update (change : Component → Component)
    (same : ∀ component script, s.instance? id = some component →
      component.body = .scripted script → (change component).body = .scripted script) :
    Voiced s (s.update id change) := by
  refine of_silent [] rfl (by simp) ?_
  intro other script held
  obtain ⟨component, found, body⟩ := Option.map_eq_some_iff.mp held
  rw [Store.instance?_update]
  split
  · rename_i equal
    subst equal
    rw [found, Option.map_some, Option.map_some, same component script found body]
  · exact held

theorem mark (id : Nat) (s : Store) : Voiced s (s.mark id) :=
  (update (fun component => { component with initialized := true }) fun _ _ _ body => body).trans
    (note (fun _ => Event.noConfusion) _)

theorem unmark (id : Nat) (s : Store) : Voiced s (s.unmark id) :=
  update _ fun _ _ _ body => body

theorem enter (id : Nat) (phase : Phase) (s : Store) : Voiced s (s.enter id phase) :=
  (update (fun component => { component with calls := component.calls.next phase })
    fun _ _ _ body => body).trans (note (fun _ => Event.noConfusion) _)

theorem construct (key implementation : String) (name : Option String) (body : Body) (s : Store) :
    Voiced s (s.construct key implementation name body) := by
  refine of_silent [_, _] (Store.journal_construct s key implementation name body) ?_ ?_
  · simp [Event.IsNoNotice]
  · intro id script held
    have old : id ≠ s.instances.length := by
      rintro rfl
      simp [Store.instance?] at held
    rw [Store.instance?_construct, if_neg old]
    exact held

theorem of_instanceEnd {result : Except BrokerFault Nat} (ending : InstanceEnd key s result t) :
    Voiced s t := by
  cases ending with
  | cached present => exact .refl s
  | unbuildable absent nothing unresolved remark =>
      rcases remark with rfl | ⟨implementation, rfl⟩
      · exact .refl _
      · exact note (fun _ => Event.noConfusion) s
  | built absent assigned found => exact construct _ _ _ _ s

theorem openPhase (key : String) (id : Nat) (phase : Phase) (s : Store) :
    Voiced s (s.openPhase key id phase) := by
  refine of_silent [_] (journal_openPhase s key id phase) ?_ ?_
  · simp [Event.IsNoNotice]
  · cases phase <;> exact fun held => held

theorem closePhase (key : String) (id : Nat) (phase : Phase) (result : Except PhaseFault Unit)
    (s : Store) : Voiced s (s.closePhase key id phase result) := by
  refine of_silent [_] (journal_closePhase s key id phase result) ?_ ?_
  · simp [Event.IsNoNotice]
  · intro other script held
    rw [instance?_closePhase]
    split
    · exact (unmark id s).scripted held
    · exact held

end Voiced

namespace Broker

/-- In the phases that it runs, nobody reports a notice that is not accounted for. -/
def Candid (run : PhaseRunner) : Prop :=
  ∀ id phase data s result t, run id phase data s = .finished (result, t) → Voiced s t

section Calls

variable {run : PhaseRunner} {key : String} {data : StartupData} {s t : Store}

theorem request_voiced (candid : Candid run) {action : Action} {answer : Except BrokerFault Answer}
    (names : action.named? = some key)
    (finished : action.request run data s = .finished (answer, t)) : Voiced s t := by
  obtain ⟨u, v, prefaced, found, served⟩ := request_serves names finished
  have first : Voiced s u := .of_prefaced prefaced
  have second : Voiced u v := by
    rcases found with rfl | ⟨built, ending⟩
    · exact .refl _
    · exact .of_instanceEnd ending
  refine (first.trans second).trans ?_
  cases served with
  | left => exact .refl _
  | @ran id phase _ _ _ w present admits ran judged =>
      have opened : Voiced v (v.openPhase key id phase) := .openPhase key id phase v
      exact (opened.trans (candid _ _ _ _ _ w ran)).trans (.closePhase key id phase _ w)

theorem earlyBy_voiced (candid : Candid run) {result : Except BrokerFault Unit}
    (finished : earlyBy run key data s = .finished (result, t)) : Voiced s t :=
  request_voiced candid rfl (request_early .ignore finished)

end Calls

section Phases

variable {run : PhaseRunner} {now : Situation} {s t : Store} {script : Script}

/-- Without the broker, a component reports nothing. -/
theorem act_alone_voiced {action : Action} {result : Except PhaseFault Heard}
    (alone : ¬ action.CallsOwner)
    (finished : act run now action s = .finished (result, t)) : Voiced s t := by
  have said : ∀ text, Voiced s (s.note (.said (s.labelOf? now.id) text)) :=
    fun _ => .of_logged (.said _ _)
  cases action with
  | mark =>
      cases finished
      exact .mark now.id s
  | unmark =>
      cases finished
      exact .unmark now.id s
  | log _ | name | owner | data | config _ =>
      cases finished
      exact said _
  | fail _ _ | failBroker _ =>
      cases finished
      exact .refl s
  | failFirst _ _ | failAfter _ _ =>
      simp only [act] at finished
      split at finished <;> cases finished <;> exact .refl s
  | _ => exact absurd trivial alone

/-- What the broker reports for a component is what the action says. -/
theorem act_voiced (candid : Candid run)
    (scripted : (s.instance? now.id).map Component.body = some (.scripted script))
    {action : Action} (told : ∀ text, action = .notice text → script.Tells text)
    {result : Except PhaseFault Heard}
    (finished : act run now action s = .finished (result, t)) : Voiced s t := by
  by_cases calls : action.CallsOwner
  · cases owned : hasOwner s now.id with
    | false =>
        obtain ⟨u, logged, same⟩ := act_unowned calls owned
        rw [same run] at finished
        cases finished
        exact .of_logged logged
    | true =>
        cases names : action.named? with
        | some key =>
            rw [act_request names owned, Outcome.andThen_eq_finished] at finished
            obtain ⟨⟨answer, u⟩, answered, following⟩ := finished
            obtain ⟨v, followed, logged⟩ := follow_logs now action answer u
            rw [followed] at following
            cases following
            exact (request_voiced candid names answered).trans (.of_logged logged)
        | none =>
            rw [act_call calls, if_pos owned] at finished
            cases action with
            | notice text =>
                cases finished
                exact .notice s (.inr ⟨now.id, script, scripted, told text rfl⟩)
            | report text =>
                cases finished
                exact .errorMessage text s
            | ownerConfig key =>
                cases finished
                exact .of_logged (.said _ _)
            | _ => first | exact calls.elim | cases names
  · exact act_alone_voiced calls finished

theorem perform_voiced (candid : Candid run)
    (scripted : (s.instance? now.id).map Component.body = some (.scripted script))
    {course : Course} (told : ∀ text, .notice text ∈ course → script.Tells text)
    {result : Except PhaseFault Unit}
    (finished : perform run now course s = .finished (result, t)) : Voiced s t := by
  refine perform_walk (P := Voiced s) ?_ (.refl s) finished
  intro action member u v done before acted
  exact before.trans (act_voiced candid (before.scripted scripted)
    (fun text same => told text (same ▸ member)) acted)

/-- A script that is followed in a phase tells what it plans to tell. -/
theorem planned_voiced (candid : Candid run) {id : Nat} {phase seen : Phase}
    {data seenData : StartupData} {course : Course}
    (scripted : (s.instance? id).map Component.body = some (.scripted script))
    (planned : script.plan data phase = (seen, seenData, course))
    {result : Except PhaseFault Unit}
    (performing : perform run (s.situation id seen seenData) course (s.enter id seen) =
      .finished (result, t)) : Voiced s t := by
  have entered : Voiced s (s.enter id seen) := .enter id seen s
  have told : ∀ text, .notice text ∈ course → script.Tells text :=
    fun text member => ⟨phase, data, by rwa [planned]⟩
  exact entered.trans (perform_voiced candid (entered.scripted scripted) told performing)

theorem runBody_candid (candid : Candid run) : Candid (runBody run) := by
  intro id phase data s result t finished
  cases runBody_ends finished with
  | absent missing => exact .refl _
  | performed initializing scripted planned performing =>
      exact planned_voiced candid scripted planned performing
  | @closed data script raw u v scripted performing remarked =>
      -- The cases of a phase's end leave open what is remarked; the code only logs.
      rw [runBody_shutdown run data scripted, Outcome.andThen_eq_finished] at finished
      obtain ⟨done, performed, same⟩ := finished
      cases same
      exact (planned_voiced candid scripted (script.plan_shutdown data) performed).trans
        (.of_logged (remarkFailure_logs id _ _))
  | marked initializing held => exact .mark id s
  | refused initializing => exact .refl _
  | @started _ _ body surroundings initializing held =>
      have surrounded : Voiced s { s with surroundings } :=
        .of_silent [] rfl (by simp) fun held => held
      refine (surrounded.trans (.update _ fun component script found old => ?_)).trans (.mark id _)
      rw [show s.instance? id = some component from found, Option.map_some, Option.map_some,
        old] at held
      exact Body.eq_scripted_of_kind (Option.some.inj held).symm
  | unmarked => exact .unmark id s
  | @unloaded _ loaded held =>
      refine Voiced.trans (.update _ fun component script found old => ?_) (.unmark id _)
      rw [found, Option.map_some, old] at held
      cases held

/-- However deep phases may nest, every notice is accounted for. -/
theorem runPhase_candid (depth : Nat) : Candid (runPhase depth) := by
  induction depth with
  | zero =>
      intro id phase data s result t finished
      cases finished
  | succ depth inductionHypothesis => exact runBody_candid inductionHypothesis

/-- Neither the services that a walk starts nor the failures that it reports bring up a notice
that is not accounted for. -/
theorem earlyEach_voiced {depth : Nat} {data : StartupData} {failFast : Bool} {names : List String}
    {answer : Except BrokerFault Unit}
    (walked : earlyEach (runPhase depth) data failFast names s = .finished (answer, t)) :
    Voiced s t := by
  refine earlyEach_walk (P := Voiced s) ?called ?reported (.refl s) walked
  case called =>
    exact fun name _ u v answer before _ called =>
      before.trans (earlyBy_voiced (runPhase_candid depth) called)
  case reported => exact fun u fault before => before.trans (.errorMessage _ u)

end Phases

end Broker

end ServiceLifecycle
