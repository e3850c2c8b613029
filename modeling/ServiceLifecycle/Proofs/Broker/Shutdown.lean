/-
Module: ServiceLifecycle.Proofs.Broker.Shutdown
Purpose: What a shutdown of all services leaves behind.
Main exports: WokenIn, Moves.wakesOnly, Moves.mapping_eq, Broker.shutdownBy_unready,
  shutdown_leaves_woken, shutdown_revives
-/
import ServiceLifecycle.Proofs.Broker.Instances
import Mathlib.Data.Finset.Basic
import Mathlib.Data.Fintype.EquivFin

namespace ServiceLifecycle

/-!
All services are shut down in one walk, in the reverse of the order in which they were
registered, and each has one turn.  After its turn a service is not initialized, whatever its
shutdown phase did.  It may become initialized again, though, because the shutdown phase of a
service whose turn comes later may have the broker initialize it.

That is the only way: an instance that is not initialized stays so until the broker starts an
initializing phase of it, and the walk does not come back.
-/

open Broker

/-- An initializing phase of an instance has been started, and the instance has marked itself
since.  The events are given newest first. -/
def WokenIn (id : Nat) (events : List Event) : Prop :=
  ∃ key phase, phase ≠ Phase.shutdown ∧ [.marked id, .started key id phase].Sublist events

theorem WokenIn.append {id : Nat} {events : List Event} (woken : WokenIn id events)
    (more : List Event) : WokenIn id (more ++ events) := by
  obtain ⟨key, phase, initializing, part⟩ := woken
  exact ⟨key, phase, initializing, part.trans (List.sublist_append_right _ _)⟩

section Steps

variable {id : Nat} {events : List Event} {before after later : Moment} {s t : Store}

/-- Every phase in progress is one that has been started among the events, and the instance is
neither initialized nor being shut down unless it has been woken. -/
structure Moment.WakesOnly (id : Nat) (events : List Event) (moment : Moment) : Prop where
  started : ∀ frame ∈ moment.frames, .started frame.key frame.id frame.phase ∈ events
  ready : moment.store.isReady id = true → WokenIn id events
  ending : ∀ key, ⟨key, id, .shutdown⟩ ∈ moment.frames → WokenIn id events

theorem Move.wakesOnly (move : Move before after) (wakes : before.WakesOnly id events) :
    ∃ more, after.store.journal = more ++ before.store.journal ∧
      after.WakesOnly id (more ++ events) := by
  obtain ⟨more, grown⟩ := move.journal_suffix
  refine ⟨more, grown.symm, ?_⟩
  obtain ⟨started, ready, ending⟩ := wakes
  have earlier : ∀ frame ∈ before.frames,
      .started frame.key frame.id frame.phase ∈ more ++ events :=
    fun frame member => List.mem_append_right _ (started frame member)
  have ended : ∀ key, ⟨key, id, .shutdown⟩ ∈ before.frames → WokenIn id (more ++ events) :=
    fun key member => (ending key member).append more
  cases move with
  | @quiet frames s t change =>
      obtain ⟨remarks, extended, quiet⟩ := change.journal
      have same : remarks = more := List.append_cancel_right (extended.symm.trans grown.symm)
      subst same
      refine ⟨earlier, fun now => ?_, ended⟩
      rcases change.marked id now with still | ⟨others, otherwise, marked⟩
      · exact (ready still).append remarks
      · -- The instance has marked itself, so it is in charge.
        have same : others = remarks := List.append_cancel_right (otherwise.symm.trans extended)
        subst same
        have charge : frames.head?.map Frame.id = some id := quiet _ marked
        obtain ⟨⟨key, held, phase⟩, first, rfl⟩ := Option.map_eq_some_iff.mp charge
        have inside := List.mem_of_head? first
        by_cases shutdown : phase = .shutdown
        · subst shutdown
          exact ended key inside
        · refine ⟨key, phase, shutdown, ?_⟩
          have mark : [Event.marked held].Sublist others := List.singleton_sublist.mpr marked
          have start : [Event.started key held phase].Sublist events :=
            List.singleton_sublist.mpr (started _ inside)
          exact mark.append start
  | build absent assigned found =>
      refine ⟨earlier, fun now => ?_, ended⟩
      rw [Store.isReady_construct] at now
      exact (ready now).append more
  | @enter frames s key held phase present admits =>
      rw [journal_openPhase] at grown
      have one : more = [.started key held phase] :=
        List.append_cancel_right (grown.trans (List.singleton_append).symm)
      subst one
      constructor
      case started =>
        intro frame member
        rcases List.mem_cons.mp member with rfl | outer
        · exact List.mem_cons_self
        · exact earlier frame outer
      case ready =>
        intro now
        rw [isReady_openPhase] at now
        exact (ready now).append _
      case ending =>
        intro other member
        rcases List.mem_cons.mp member with same | outer
        · cases same
          exact (ready admits).append _
        · exact ended other outer
  | @leave frames s key held phase result honest =>
      constructor
      case started => exact fun frame member => earlier frame (List.mem_cons_of_mem _ member)
      case ready =>
        intro now
        rw [isReady_closePhase] at now
        split at now
        · exact absurd now Bool.false_ne_true
        · exact (ready now).append more
      case ending => exact fun other member => ended other (List.mem_cons_of_mem _ member)
  | host change =>
      refine ⟨earlier, fun now => ?_, ended⟩
      rw [change.isReady] at now
      exact (ready now).append more

/-- An instance that is not initialized, and not in a phase, stays so until it is woken. -/
theorem Moves.wakesOnly (moves : Moves ⟨[], s⟩ later) (unready : s.isReady id = false) :
    ∃ events, later.store.journal = events ++ s.journal ∧ later.WakesOnly id events := by
  induction moves with
  | refl =>
      refine ⟨[], rfl, ?_, ?_, ?_⟩
      · exact fun frame member => absurd member List.not_mem_nil
      · exact fun ready => absurd ready (by simp [unready])
      · exact fun key member => absurd member List.not_mem_nil
  | tail moves last inductionHypothesis =>
      obtain ⟨events, grown, wakes⟩ := inductionHypothesis
      obtain ⟨more, moreGrown, woken⟩ := last.wakesOnly wakes
      exact ⟨more ++ events, by rw [moreGrown, grown, List.append_assoc], woken⟩

end Steps

section Mapping

variable {before after later : Moment} {s t : Store}

/-- Until the outermost phase in progress ends, the mapping stays as it is. -/
theorem Move.within {inner : List Frame} {outer : Frame} (move : Move before after)
    (inside : before.frames = inner ++ [outer]) :
    ((∃ inner, after.frames = inner ++ [outer]) ∧ after.store.mapping = before.store.mapping) ∨
      ∃ succeeded, .ended outer.key outer.id outer.phase succeeded ∈ after.store.journal := by
  cases move with
  | quiet change => exact .inl ⟨⟨inner, inside⟩, change.mapping⟩
  | build absent assigned found => exact .inl ⟨⟨inner, inside⟩, rfl⟩
  | @enter frames s key id phase present admits =>
      refine .inl ⟨⟨⟨key, id, phase⟩ :: inner, congrArg _ inside⟩, ?_⟩
      cases phase <;> rfl
  | @leave frames s key id phase result honest =>
      cases inner with
      | nil =>
          cases inside
          refine .inr ⟨result.isOk, ?_⟩
          rw [journal_closePhase]
          exact List.mem_cons_self
      | cons first rest =>
          cases inside
          refine .inl ⟨⟨rest, rfl⟩, ?_⟩
          cases phase <;> cases result <;> rfl
  | host change => exact absurd inside (by simp)

theorem Moves.within {outer : Frame} (moves : Moves ⟨[outer], s⟩ later) :
    ((∃ inner, later.frames = inner ++ [outer]) ∧ later.store.mapping = s.mapping) ∨
      ∃ succeeded, .ended outer.key outer.id outer.phase succeeded ∈ later.store.journal := by
  induction moves with
  | refl => exact .inl ⟨⟨[], rfl⟩, rfl⟩
  | tail moves last inductionHypothesis =>
      rcases inductionHypothesis with ⟨⟨inner, inside⟩, kept⟩ | ⟨succeeded, closed⟩
      · rcases last.within inside with ⟨still, same⟩ | closed
        · exact .inl ⟨still, same.trans kept⟩
        · exact .inr closed
      · exact .inr ⟨succeeded, last.journal_suffix.subset closed⟩

/-- The number of the instance whose phase an event ends. -/
def Event.endedId : Event → Nat
  | .ended _ id _ _ => id
  | _ => 0

/-- What is done by moves whichever phases are in progress leaves the mapping as it is, because
the host changes nothing before the outermost of them has ended. -/
theorem Moves.mapping_eq (moves : ∀ frames, Moves ⟨frames, s⟩ ⟨frames, t⟩) :
    t.mapping = s.mapping := by
  -- A phase whose end the journal does not have is in progress throughout.
  obtain ⟨id, fresh⟩ := Infinite.exists_notMem_finset (t.journal.map Event.endedId).toFinset
  rcases (moves [⟨"", id, .shutdown⟩]).within with ⟨-, kept⟩ | ⟨succeeded, closed⟩
  · exact kept
  · have listed : id ∈ t.journal.map Event.endedId := List.mem_map.mpr ⟨_, closed, rfl⟩
    exact absurd (List.mem_toFinset.mpr listed) fresh

end Mapping

section Calls

variable {run : PhaseRunner} {key : String} {frames : List Frame} {s t : Store}

/-- Whoever has been shut down is not initialized, whatever its phase did. -/
theorem Broker.shutdownBy_unready {depth : Nat} {result : Bool}
    (arises : Moment.Arises ⟨frames, s⟩)
    (finished : shutdownBy (runPhase depth) key s = .finished (result, t)) :
    t.isInitialized key = false := by
  by_cases known : isKnown s key = true
  · have inner : shutdownInstanceBy (runPhase depth) key s = .finished (result, t) := by
      simpa [shutdownBy, known] using finished
    cases shutdownInstanceBy_finished.mp inner with
    | absent missing => simp [Store.isInitialized, missing]
    | idle present unready => simp [Store.isInitialized, present, unready]
    | @ran id u raw present ready phase =>
        have inside : Moment.Arises ⟨⟨key, id, .shutdown⟩ :: frames, u⟩ :=
          arises.trans (.head (.enter present (show s.Admits key id .shutdown from ready))
            (runPhase_faithful depth _ _ _ _ _ _ phase key frames))
        have held : u.cachedId? key = some id :=
          inside.holdsInstances ⟨key, id, .shutdown⟩ List.mem_cons_self
        rw [Store.isInitialized, Store.cachedId?, cached_closePhase]
        rw [show u.cached.get? key = some id from held, Option.any_some, isReady_closePhase]
        simp
  · obtain ⟨rfl, rfl⟩ : false = result ∧ s.errorMessage _ = t := by
      simpa [shutdownBy, known] using finished
    have absent : s.cachedId? key = none := by
      rw [Bool.not_eq_true, isKnown, Bool.or_eq_false_iff] at known
      exact Option.isSome_eq_false_iff.mp known.1 |> Option.isNone_iff_eq_none.mp
    rw [Store.isInitialized, show (s.errorMessage _).cachedId? key = none from absent]
    rfl

/-- A walk over two lists is one over the first and then one over the second. -/
theorem Broker.shutdownEach_append (names more : List String) (s : Store) :
    shutdownEach run (names ++ more) s =
      (shutdownEach run names s).andThen fun walked => shutdownEach run more walked.2 := by
  induction names generalizing s with
  | nil => rfl
  | cons name rest inductionHypothesis =>
      rw [List.cons_append, shutdownEach_cons, shutdownEach_cons]
      cases shutdownBy run name (s.forewarn name) with
      | finished done => exact inductionHypothesis done.2
      | _ => rfl

/-- The last service of a walk is not initialized at its end. -/
theorem Broker.shutdownEach_last {depth : Nat} {names : List String} {name : String}
    (arises : Moment.Arises ⟨[], s⟩)
    (finished : shutdownEach (runPhase depth) (names ++ [name]) s = .finished ((), t)) :
    t.isInitialized name = false := by
  rw [shutdownEach_append, Outcome.andThen_eq_finished] at finished
  obtain ⟨⟨_, u⟩, walked, turn⟩ := finished
  have before : Moment.Arises ⟨[], u⟩ :=
    arises.trans (shutdownEach_moves (runPhase_faithful depth) walked)
  rw [shutdownEach_cons, Outcome.andThen_eq_finished] at turn
  obtain ⟨⟨result, v⟩, stopped, rest⟩ := turn
  cases rest
  exact shutdownBy_unready (before.trans (forewarn_moves u name)) stopped

end Calls

section Waking

variable {before after later : Moment} {s t : Store} {key : String} {id : Nat}

/-- Instances are there for good. -/
theorem Move.instance?_eq_none (move : Move before after)
    (absent : after.store.instance? id = none) : before.store.instance? id = none := by
  rcases move.identity_cases id with same | ⟨absent, -⟩
  · rw [absent, Option.map_none] at same
    exact Option.map_eq_none_iff.mp same.symm
  · exact absent

theorem Moves.instance?_eq_none (moves : Moves before later)
    (absent : later.store.instance? id = none) : before.store.instance? id = none := by
  induction moves with
  | refl => exact absent
  | tail moves last inductionHypothesis =>
      exact inductionHypothesis (last.instance?_eq_none absent)

/-- The instance that a key has later is the one that it has now or one that is not there yet. -/
theorem Moves.cachedId?_cases (moves : Moves before later)
    (present : later.store.cachedId? key = some id) :
    before.store.cachedId? key = some id ∨ before.store.instance? id = none := by
  induction moves with
  | refl => exact .inl present
  | @tail middle final moves last inductionHypothesis =>
      cases last.cacheStep key with
      | kept grown silent unevicted same => exact inductionHypothesis (same ▸ present)
      | built absent now grown adopted mapped =>
          rw [now] at present
          cases present
          have fresh : middle.store.instance? middle.store.instances.length = none :=
            List.getElem?_eq_none (Nat.le_refl _)
          exact .inr (Moves.instance?_eq_none moves fresh)
      | evicted grown absent =>
          rw [absent] at present
          cases present

/-- A key that is initialized later on, although it is not now, has been woken in between. -/
theorem Moves.woken_of_isInitialized (arises : Moment.Arises ⟨[], s⟩)
    (moves : Moves ⟨[], s⟩ ⟨[], t⟩) (unready : s.isInitialized key = false) :
    ∃ events, t.journal = events ++ s.journal ∧
      (t.isInitialized key = true → ∃ id phase, t.cachedId? key = some id ∧ phase ≠ .shutdown ∧
        [.marked id, .started key id phase].Sublist events) := by
  obtain ⟨events, grown⟩ := moves.journal_suffix
  refine ⟨events, grown.symm, fun initialized => ?_⟩
  have later : Moment.Arises ⟨[], t⟩ := arises.trans moves
  obtain ⟨id, present, ready⟩ := Store.isInitialized_iff.mp initialized
  have asleep : s.isReady id = false := by
    rcases Moves.cachedId?_cases moves present with same | absent
    · rw [← Store.isInitialized_of_cachedId? same]
      exact unready
    · rw [Store.isReady, absent]
      rfl
  obtain ⟨others, same, wakes⟩ := Moves.wakesOnly moves asleep
  have equal : others = events := List.append_cancel_right (same.symm.trans grown.symm)
  subst equal
  obtain ⟨about, phase, initializing, part⟩ := wakes.ready ready
  -- The instance has been cached for one key only.
  have start : .started about id phase ∈ t.journal := by
    rw [same]
    exact List.mem_append_left _ (part.subset (by simp))
  have cached : .cached about id ∈ t.journal :=
    (later.startsCached about id phase start).subset (by simp)
  obtain rfl : about = key :=
    later.knowsInstances.once _ _ id cached (later.knowsInstances.mem_journal present)
  exact ⟨id, phase, present, initializing, part⟩

end Waking

/-- At the end of its own turn, `u`, a service is not initialized, and if it is at the end of the
walk, it has been woken in between. -/
theorem Broker.shutdownAllBy_turn {s t : Store} {depth : Nat} {before after : List String}
    {name : String} (arises : Moment.Arises ⟨[], s⟩)
    (finished : shutdownAllBy (runPhase depth) s = .finished ((), t))
    (split : s.serviceNames = before ++ name :: after) :
    ∃ u events,
      shutdownEach (runPhase depth) (after.reverse ++ [name])
        (s.notice "Shutting down all services") = .finished ((), u) ∧
      u.isInitialized name = false ∧
      shutdownEach (runPhase depth) before.reverse u = .finished ((), t) ∧
      t.journal = events ++ u.journal ∧
      (t.isInitialized name = true → ∃ id phase, t.cachedId? name = some id ∧
        phase ≠ .shutdown ∧ [.marked id, .started name id phase].Sublist events) := by
  have walk : shutdownEach (runPhase depth) (after.reverse ++ [name] ++ before.reverse)
      (s.notice "Shutting down all services") = .finished ((), t) := by
    have order : s.serviceNames.reverse = after.reverse ++ [name] ++ before.reverse := by
      simp [split]
    rw [← order]
    exact finished
  rw [shutdownEach_append, Outcome.andThen_eq_finished] at walk
  obtain ⟨⟨_, u⟩, first, second⟩ := walk
  have noticed : Moment.Arises ⟨[], s.notice "Shutting down all services"⟩ :=
    arises.trans (Moves.quiet (Quiet.report _ s))
  have unready : u.isInitialized name = false := shutdownEach_last noticed first
  have middle : Moment.Arises ⟨[], u⟩ :=
    noticed.trans (shutdownEach_moves (runPhase_faithful depth) first)
  obtain ⟨events, grown, woken⟩ := Moves.woken_of_isInitialized middle
    (shutdownEach_moves (runPhase_faithful depth) second) unready
  exact ⟨u, events, first, unready, second, grown, woken⟩

/-- After all services have been shut down, the same services are registered, and one is
initialized only if it has been woken after its own turn: at the end of its turn, `u`, it is not
initialized, and between `u` and the end the broker has started an initializing phase of its
instance, which has marked itself since.

So the service that was registered first never is initialized, and none is if no initializing
phase has been started throughout the walk. -/
theorem shutdown_leaves_woken {s t : Store} {depth : Nat} (underway : Underway .idle [] s)
    (finished : shutdownAllBy (runPhase depth) s = .finished ((), t)) :
    t.mapping = s.mapping ∧
    (∀ before name after, s.serviceNames = before ++ name :: after →
      ∃ u events,
        shutdownEach (runPhase depth) (after.reverse ++ [name])
          (s.notice "Shutting down all services") = .finished ((), u) ∧
        u.isInitialized name = false ∧
        shutdownEach (runPhase depth) before.reverse u = .finished ((), t) ∧
        t.journal = events ++ u.journal ∧
        (t.isInitialized name = true → ∃ id phase, t.cachedId? name = some id ∧
          phase ≠ .shutdown ∧ [.marked id, .started name id phase].Sublist events)) ∧
    (∀ name, s.serviceNames.head? = some name → t.isInitialized name = false) ∧
    (∀ events, t.journal = events ++ s.journal →
      (∀ name id phase, .started name id phase ∈ events → phase = .shutdown) →
      ∀ name ∈ s.serviceNames, t.isInitialized name = false) := by
  obtain ⟨arises, -⟩ := underway.arises
  have faithful := runPhase_faithful depth
  refine ⟨?mapping, ?turns, ?first, ?none⟩
  case mapping => exact Moves.mapping_eq fun _ => shutdownAllBy_moves faithful finished
  case turns => exact fun before name after split => shutdownAllBy_turn arises finished split
  case first =>
    intro name first
    obtain ⟨after, split⟩ := List.head?_eq_some_iff.mp first
    have front : s.serviceNames = [] ++ name :: after := split
    obtain ⟨u, events, -, unready, rest, -⟩ := shutdownAllBy_turn arises finished front
    cases rest
    exact unready
  case none =>
    intro total grown silent name member
    obtain ⟨before, after, split⟩ := List.append_of_mem member
    obtain ⟨u, events, walked, -, -, since, woken⟩ := shutdownAllBy_turn arises finished split
    rw [← Bool.not_eq_true]
    intro initialized
    obtain ⟨id, phase, -, initializing, part⟩ := woken initialized
    have turn : Moves ⟨[], s.notice "Shutting down all services"⟩ ⟨[], u⟩ :=
      shutdownEach_moves faithful walked
    have start : .started name id phase ∈ total := by
      obtain ⟨earlier, extended⟩ := (List.suffix_cons _ s.journal).trans turn.journal_suffix
      have whole : total ++ s.journal = (events ++ earlier) ++ s.journal := by
        rw [← grown, since, List.append_assoc, extended]
      rw [List.append_cancel_right whole]
      exact List.mem_append_left _ (part.subset (by simp))
    exact initializing (silent name id phase start)

/-- A broker of services, of which one kind needs a service of the other kind to shut down. -/
def Store.clinging : Store :=
  let body : Body := .scripted { shutdown := some (.straight [.resolve "y" .propagate, .unmark]) }
  { registry :=
      { capability := .service, recipes := [("X", .build body), ("Y", .build .plain)] } }

/-- A service of each kind is in use. -/
def Store.entangled : Store :=
  let registered := (Store.clinging.registerAll [("x", "X"), ("y", "Y")]).2
  (registered.afterCall (.resolve "x")).afterCall (.resolve "y")

theorem underway_entangled : Underway .idle [] Store.entangled := by
  have fresh : Underway .idle [] Store.clinging := .fresh ⟨rfl, rfl, rfl, rfl, rfl, rfl⟩
  have registered := fresh.registerAll [("x", "X"), ("y", "Y")]
  have first := registered.afterCall (.resolve "x") trivial rfl
  exact first.afterCall (.resolve "y") trivial rfl

/-- The service whose turn comes last stays down, and the other one has been woken since its
turn. -/
theorem shutdown_leaves_woken_entangled :
    ∃ t, shutdownAllBy (runPhase 2) Store.entangled = .finished ((), t) ∧
      t.isInitialized "x" = false ∧ t.isInitialized "y" = true ∧
      ∃ events phase, phase ≠ .shutdown ∧ t.cachedId? "y" = some 1 ∧
        [.marked 1, .started "y" 1 phase].Sublist events ∧ events <+: t.journal := by
  have finished : shutdownAllBy (runPhase 2) Store.entangled =
      .finished ((), Store.entangled.afterCall .shutdownAll) := rfl
  obtain ⟨-, turns, first, -⟩ := shutdown_leaves_woken underway_entangled finished
  obtain ⟨u, events, -, -, -, grown, woken⟩ := turns ["x"] "y" [] rfl
  obtain ⟨id, phase, present, initializing, part⟩ := woken rfl
  cases present
  exact ⟨_, finished, first "x" rfl, rfl, events, phase, initializing, rfl, part, ⟨_, grown.symm⟩⟩

/-- All services are shut down, and yet one of them is initialized afterwards. -/
theorem shutdown_revives :
    Underway .idle [] Store.entangled ∧
    ∃ t, shutdownAll Store.entangled = .finished ((), t) ∧
      t.serviceNames = ["x", "y"] ∧ t.isInitialized "x" = false ∧ t.isInitialized "y" = true :=
  ⟨underway_entangled, _, rfl, rfl, rfl, rfl⟩

end ServiceLifecycle
