/-
Module: ServiceLifecycle.Proofs.Locality.Turns
Purpose: Initializing phases that succeed and shutdown phases take turns.
Main exports: successes, shutdowns, sinceShutdown, Balanced, Balanced.count, Balanced.countSince,
  Store.Settled, Store.LeadsTo, Within
-/
import ServiceLifecycle.Proofs.Broker.Poison
import ServiceLifecycle.Proofs.Locality.Footprint

namespace ServiceLifecycle

/-!
An instance acquires something when an initializing phase of it succeeds, and releases it in its
shutdown phase.  Whether the two take turns can be read off the journal, where the start of a
shutdown phase and the end of a successful initializing phase count.

An instance is settled if its status agrees with whose turn it is.  While a phase of an instance is
in progress it need not be settled.  What matters in the meantime is that nothing is noted about its
phases, and that all other instances stay settled.
-/

open Broker

section Turns

/-- An initializing phase of an instance has succeeded. -/
def Event.succeeds (id : Nat) : Event → Bool
  | .ended _ other .early true | .ended _ other .late true => other == id
  | _ => false

/-- A shutdown phase of an instance has been started. -/
def Event.shutsDown (id : Nat) : Event → Bool
  | .started _ other .shutdown => other == id
  | _ => false

/-- A phase of an instance has been started, or an initializing one has succeeded. -/
def Event.isTurnOf (id : Nat) : Event → Bool
  | .started _ other _ => other == id
  | event => event.succeeds id

/-- How many initializing phases of an instance have succeeded. -/
def successes (id : Nat) (journal : List Event) : Nat :=
  journal.countP (Event.succeeds id)

/-- How many shutdown phases of an instance have been started. -/
def shutdowns (id : Nat) (journal : List Event) : Nat :=
  journal.countP (Event.shutsDown id)

/-- What has happened since a shutdown phase of an instance was started last, newest first. -/
def sinceShutdown (id : Nat) (journal : List Event) : List Event :=
  journal.takeWhile fun event => !event.shutsDown id

/-- Successful initializing phases of an instance and its shutdown phases have taken turns, and no
initializing phase was started after a success and before a shutdown.  The flag is `true` when it
is the turn of a shutdown. -/
inductive Balanced (id : Nat) : Bool → List Event → Prop where
  | start : Balanced id false []
  | silent {event : Event} {journal : List Event} {ready : Bool}
      (other : event.isTurnOf id = false) (before : Balanced id ready journal) :
      Balanced id ready (event :: journal)
  | began {key : String} {phase : Phase} {journal : List Event} (initializing : phase ≠ .shutdown)
      (before : Balanced id false journal) : Balanced id false (.started key id phase :: journal)
  | succeeded {key : String} {phase : Phase} {journal : List Event}
      (initializing : phase ≠ .shutdown) (before : Balanced id false journal) :
      Balanced id true (.ended key id phase true :: journal)
  | shut {key : String} {journal : List Event} (before : Balanced id true journal) :
      Balanced id false (.started key id .shutdown :: journal)

variable {id : Nat} {ready : Bool} {journal : List Event} {event : Event}

theorem Event.silent_of_isTurnOf (other : event.isTurnOf id = false) :
    event.succeeds id = false ∧ event.shutsDown id = false := by
  cases event with
  | started key number phase =>
      cases phase with
      | shutdown => exact ⟨rfl, other⟩
      | _ => exact ⟨rfl, rfl⟩
  | ended key number phase succeeded => exact ⟨other, rfl⟩
  | _ => exact ⟨rfl, rfl⟩

/-- An event that is not about a phase is nobody's turn. -/
theorem Event.isTurnOf_of_about (silent : event.about? = none) : event.isTurnOf id = false := by
  cases event <;> first | rfl | cases silent

theorem Balanced.append {events : List Event} (before : Balanced id ready journal)
    (silent : ∀ event ∈ events, event.isTurnOf id = false) :
    Balanced id ready (events ++ journal) := by
  induction events with
  | nil => exact before
  | cons event rest inductionHypothesis =>
      refine .silent (silent event List.mem_cons_self) (inductionHypothesis ?_)
      exact fun other member => silent other (List.mem_cons_of_mem _ member)

theorem Event.succeeds_ended (key : String) (id : Nat) {phase : Phase}
    (initializing : phase ≠ .shutdown) :
    (Event.ended key id phase true).succeeds id = true := by
  cases phase with
  | shutdown => exact absurd rfl initializing
  | _ => exact beq_self_eq_true id

theorem Event.shutsDown_started (key : String) (id : Nat) {phase : Phase}
    (initializing : phase ≠ .shutdown) :
    (Event.started key id phase).shutsDown id = false := by
  cases phase with
  | shutdown => exact absurd rfl initializing
  | _ => rfl

theorem Balanced.count (balanced : Balanced id ready journal) :
    successes id journal = shutdowns id journal + if ready then 1 else 0 := by
  induction balanced with
  | start => rfl
  | silent other before inductionHypothesis =>
      obtain ⟨success, shutdown⟩ := Event.silent_of_isTurnOf other
      simpa [successes, shutdowns, List.countP_cons, success, shutdown] using inductionHypothesis
  | @began key phase journal initializing before inductionHypothesis =>
      have silent := Event.shutsDown_started key id initializing
      simpa [successes, shutdowns, List.countP_cons, silent, Event.succeeds]
        using inductionHypothesis
  | @succeeded key phase journal initializing before inductionHypothesis =>
      have success := Event.succeeds_ended key id initializing
      simpa [successes, shutdowns, List.countP_cons, success, Event.shutsDown]
        using inductionHypothesis
  | shut before inductionHypothesis =>
      simpa [successes, shutdowns, List.countP_cons, Event.succeeds, Event.shutsDown]
        using inductionHypothesis

/-- Since the last shutdown there has been one success or none. -/
theorem Balanced.countSince (balanced : Balanced id ready journal) :
    successes id (sinceShutdown id journal) = if ready then 1 else 0 := by
  induction balanced with
  | start => rfl
  | silent other before inductionHypothesis =>
      obtain ⟨success, shutdown⟩ := Event.silent_of_isTurnOf other
      simpa [successes, sinceShutdown, List.takeWhile_cons, List.countP_cons, success, shutdown]
        using inductionHypothesis
  | @began key phase journal initializing before inductionHypothesis =>
      have silent := Event.shutsDown_started key id initializing
      simpa [successes, sinceShutdown, List.takeWhile_cons, List.countP_cons, silent,
        Event.succeeds] using inductionHypothesis
  | @succeeded key phase journal initializing before inductionHypothesis =>
      have success := Event.succeeds_ended key id initializing
      simpa [successes, sinceShutdown, List.takeWhile_cons, List.countP_cons, success,
        Event.shutsDown] using inductionHypothesis
  | shut before inductionHypothesis =>
      simp [successes, sinceShutdown, Event.shutsDown]

/-- When a phase was started, it was its turn. -/
theorem Balanced.before_started {key : String} {phase : Phase} {earlier : List Event}
    (balanced : Balanced id ready journal) (part : .started key id phase :: earlier <:+ journal) :
    Balanced id (decide (phase = .shutdown)) earlier := by
  induction balanced with
  | start => exact absurd part.length_le (by simp)
  | silent other before inductionHypothesis =>
      rcases List.suffix_cons_iff.mp part with whole | inner
      · cases whole
        simp [Event.isTurnOf] at other
      · exact inductionHypothesis inner
  | began initializing before inductionHypothesis =>
      rcases List.suffix_cons_iff.mp part with whole | inner
      · cases whole
        rw [decide_eq_false initializing]
        exact before
      · exact inductionHypothesis inner
  | succeeded initializing before inductionHypothesis =>
      rcases List.suffix_cons_iff.mp part with whole | inner
      · cases whole
      · exact inductionHypothesis inner
  | shut before inductionHypothesis =>
      rcases List.suffix_cons_iff.mp part with whole | inner
      · cases whole
        exact before
      · exact inductionHypothesis inner

end Turns

/-- An instance is initialized exactly if it is its turn to be shut down. -/
def Store.Settled (s : Store) (id : Nat) : Prop :=
  Balanced id (s.isReady id) s.journal

/-- References lead from the keys of all the instances to a key. -/
def Store.LeadsTo (s : Store) (E : Nat → Prop) (key : String) : Prop :=
  ∀ id, E id → ∃ origin, s.cachedId? origin = some id ∧ Relation.TransGen s.Names origin key

/-- While phases of some instances are in progress, nothing is noted about phases of these, and all
other instances keep their balance. -/
structure Within (E : Nat → Prop) (s t : Store) : Prop where
  silent : ∃ events, t.journal = events ++ s.journal ∧
    ∀ event ∈ events, ∀ id, E id → event.isTurnOf id = false
  others : ∀ id, ¬ E id → s.Settled id → t.Settled id

section Steps

variable {E : Nat → Prop} {s t u : Store} {id : Nat} {key : String}

theorem Store.Settled.of_remarked (settled : s.Settled id) (remarked : s.Remarked t) :
    t.Settled id := by
  cases remarked with
  | nothing => exact settled
  | said label text => exact .silent rfl settled
  | reported entry => exact .silent rfl settled

theorem Store.Settled.construct (settled : s.Settled id) (key implementation : String)
    (name : Option String) (body : Body) :
    (s.construct key implementation name body).Settled id := by
  rw [Store.Settled, Store.isReady_construct, Store.journal_construct]
  exact .silent rfl (.silent rfl settled)

theorem Store.Settled.of_instanceEnd {result : Except BrokerFault Nat} (settled : s.Settled id)
    (ending : InstanceEnd key s result t) : t.Settled id := by
  cases ending with
  | cached present => exact settled
  | unbuildable absent nothing unresolved remark =>
      rcases remark with rfl | ⟨implementation, rfl⟩
      · exact settled
      · exact .silent rfl settled
  | built absent assigned found => exact settled.construct _ _ _ _

theorem Store.Settled.of_constructEnd {implementation : String} {name : Option String}
    {result : Except BrokerFault Nat} (settled : s.Settled id)
    (ending : ConstructEnd key implementation name s result t) : t.Settled id := by
  cases ending with
  | cached present => exact settled
  | unbuildable absent nothing unresolved remark =>
      rcases remark with rfl | rfl
      · exact settled
      · exact .silent rfl settled
  | built absent found => exact settled.construct _ _ _ _

theorem Store.HoldsOwn.of_constructEnd {implementation : String} {name : Option String}
    {result : Except BrokerFault Nat} (holds : s.HoldsOwn)
    (ending : ConstructEnd key implementation name s result t) : t.HoldsOwn := by
  cases ending with
  | cached present => exact holds
  | unbuildable absent nothing unresolved remark => rcases remark with rfl | rfl <;> exact holds
  | built absent found => exact holds.construct _ _ _ _

theorem Store.Settled.of_hostChange (settled : s.Settled id) (change : HostChange s t) :
    t.Settled id := by
  rw [Store.Settled, change.isReady]
  cases change using HostChange.byEffect with
  | unregister name => exact .silent rfl settled
  | evict key component => exact .silent rfl settled
  | create found => exact .silent rfl settled
  | refuse implementation => exact .silent rfl settled
  | report entry change => exact .silent rfl settled
  | _ => exact settled

/-- Where references lead stays the same. -/
theorem Spares.leadsTo {S : String → Prop} (spares : Spares S s t) (leads : s.LeadsTo E key) :
    t.LeadsTo E key := by
  intro id engaged
  obtain ⟨origin, present, path⟩ := leads id engaged
  exact ⟨origin, spares.kept present, spares.names_eq.symm ▸ path⟩

namespace Within

theorem refl (E : Nat → Prop) (s : Store) : Within E s s :=
  ⟨⟨[], rfl, fun _ member => absurd member List.not_mem_nil⟩, fun _ _ settled => settled⟩

theorem trans (first : Within E s t) (second : Within E t u) : Within E s u := by
  obtain ⟨before, grown, silent⟩ := first.silent
  obtain ⟨after, grownMore, silentMore⟩ := second.silent
  constructor
  case silent =>
    refine ⟨after ++ before, by rw [grownMore, grown, List.append_assoc], ?_⟩
    intro event member
    rcases List.mem_append.mp member with late | soon
    · exact silentMore event late
    · exact silent event soon
  case others =>
    exact fun other apart settled => second.others other apart (first.others other apart settled)

/-- An instance in progress changes, and something may be noted that is not about phases. -/
theorem updateNoting (engaged : E id) (change : Component → Component) (events : List Event)
    (silent : ∀ event ∈ events, event.about? = none)
    (same : ∀ number, number ≠ id → t.isReady number = (s.update id change).isReady number)
    (grown : t.journal = events ++ s.journal) : Within E s t := by
  have quiet : ∀ event ∈ events, ∀ number, event.isTurnOf number = false :=
    fun event member number => Event.isTurnOf_of_about (silent event member)
  constructor
  case silent => exact ⟨events, grown, fun event member number _ => quiet event member number⟩
  case others =>
    intro other apart settled
    have different : other ≠ id := by
      rintro rfl
      exact apart engaged
    rw [Store.Settled, same other different, Store.isReady_update_of_ne (Ne.symm different), grown]
    exact settled.append fun event member => quiet event member other

theorem mark (engaged : E id) (s : Store) : Within E s (s.mark id) :=
  updateNoting engaged (fun component => { component with initialized := true }) [.marked id]
    (by simp [Event.about?]) (fun _ _ => rfl) rfl

theorem unmark (engaged : E id) (s : Store) : Within E s (s.unmark id) :=
  updateNoting engaged (fun component => { component with initialized := false }) []
    (fun _ member => absurd member List.not_mem_nil) (fun _ _ => rfl) rfl

theorem enter (engaged : E id) (phase : Phase) (s : Store) : Within E s (s.enter id phase) :=
  updateNoting engaged (fun component => { component with calls := component.calls.next phase })
    [_] (by simp [Event.about?]) (fun _ _ => rfl) rfl

theorem of_remarked (remarked : s.Remarked t) : Within E s t := by
  constructor
  case silent =>
    cases remarked with
    | nothing => exact ⟨[], rfl, fun _ member => absurd member List.not_mem_nil⟩
    | said label text => exact ⟨[.said label text], rfl, by simp [Event.isTurnOf, Event.succeeds]⟩
    | reported entry =>
        exact ⟨[.reported entry], rfl, by simp [Event.isTurnOf, Event.succeeds]⟩
  case others => exact fun other _ settled => settled.of_remarked remarked

theorem of_instanceEnd {result : Except BrokerFault Nat} (ending : InstanceEnd key s result t) :
    Within E s t := by
  constructor
  case silent =>
    cases ending with
    | cached present => exact ⟨[], rfl, fun _ member => absurd member List.not_mem_nil⟩
    | unbuildable absent nothing unresolved remark =>
        rcases remark with rfl | ⟨implementation, rfl⟩
        · exact ⟨[], rfl, fun _ member => absurd member List.not_mem_nil⟩
        · exact ⟨[_], rfl, by simp [Event.isTurnOf, Event.succeeds]⟩
    | built absent assigned found =>
        exact ⟨[_, _], Store.journal_construct _ _ _ _ _, by simp [Event.isTurnOf, Event.succeeds]⟩
  case others => exact fun other _ settled => settled.of_instanceEnd ending

end Within

theorem Store.isReady_enter (s : Store) (id : Nat) (phase : Phase) :
    (s.enter id phase).isReady id = s.isReady id := by
  have same : (s.enter id phase).isReady id =
      (s.update id fun component =>
        { component with calls := component.calls.next phase }).isReady id := rfl
  rw [same, Store.isReady, Store.instance?_update, if_pos rfl, Store.isReady]
  cases s.instance? id <;> rfl

theorem Store.isReady_of_remarked (remarked : s.Remarked t) : t.isReady id = s.isReady id := by
  cases remarked <;> rfl

/-- A phase that the broker does not refuse is the next turn of its instance. -/
theorem Store.Settled.openPhase (settled : s.Settled id) {phase : Phase}
    (admits : s.Admits key id phase) : Balanced id false (s.openPhase key id phase).journal := by
  rw [journal_openPhase]
  cases phase with
  | early =>
      rw [Store.Settled, show s.isReady id = false from admits.1] at settled
      exact .began (by decide) settled
  | late =>
      rw [Store.Settled, show s.isReady id = false from admits.1] at settled
      exact .began (by decide) settled
  | shutdown =>
      rw [Store.Settled, show s.isReady id = true from admits] at settled
      exact .shut settled

/-- It is not the turn of any other instance. -/
theorem Store.Settled.openPhase_of_ne {other : Nat} (settled : s.Settled other)
    (apart : id ≠ other) (phase : Phase) : (s.openPhase key id phase).Settled other := by
  rw [Store.Settled, isReady_openPhase, journal_openPhase]
  exact .silent (by simpa [Event.isTurnOf] using apart) settled

end Steps

end ServiceLifecycle
