/-
Module: ServiceLifecycle.Proofs.Broker.ShutdownOrder
Purpose: What a shutdown of all services does, when the services keep to themselves.
Main exports: Component.ShutsDownAlone, Store.farewell, KeepsBooks, ShutInTurn,
  shutdown_turn, shutdownEach_inTurn, shutdownAll_orderly
-/
import ServiceLifecycle.Proofs.Broker.Solitude
import ServiceLifecycle.Proofs.Locality.Twins
import Mathlib.Data.List.Nodup
import Mathlib.Logic.Function.Basic

namespace ServiceLifecycle

/-!
The walk through the services asks for the status of each twice, once for the notice and once for
the phase, and nothing happens in between.  When the shutdown phases do not call the broker, the
turn of one service does not touch the others, so each of them is found at its turn as it was at
the start.  What is noted of the walk can then be told from the start: one farewell for each
initialized service.
-/

open Broker

/-- The next shutdown phase of the component does not call the broker. -/
def Component.ShutsDownAlone (component : Component) : Prop :=
  ∀ script, component.body = .scripted script →
    ∀ action ∈ script.shutdownCourse.reached (component.nextRun .shutdown),
      ¬ action.CallsOwner

/-- What is logged when the component enters a phase: only one that follows a script does. -/
def Component.entry (component : Component) (phase : Phase) : List Event :=
  match component.body with
  | .scripted _ => [.entered component.label phase]
  | _ => []

/-- What is noted when an initialized service is shut down, in order: the notice, and the phase
with what the component itself does in it. -/
def Store.farewell (s : Store) (own : List Event) (name : String) : List Event :=
  match s.cachedId? name, s.cachedInstance? name with
  | some id, some component =>
      [.reported (.ofNotice ("Shutting down service: " ++ name)), .started name id .shutdown] ++
        component.entry .shutdown ++ own ++ [.ended name id .shutdown true]
  | _, _ => []

/-- The broker has the same keys and records as before, and no new instance has been built. -/
structure KeepsBooks (s t : Store) : Prop where
  registry : t.registry = s.registry
  mapping : t.mapping = s.mapping
  cached : t.cached = s.cached
  poisoned : t.poisoned = s.poisoned
  length : t.instances.length = s.instances.length

namespace KeepsBooks

variable {s t u : Store}

theorem refl (s : Store) : KeepsBooks s s := ⟨rfl, rfl, rfl, rfl, rfl⟩

theorem trans (first : KeepsBooks s t) (second : KeepsBooks t u) : KeepsBooks s u where
  registry := second.registry.trans first.registry
  mapping := second.mapping.trans first.mapping
  cached := second.cached.trans first.cached
  poisoned := second.poisoned.trans first.poisoned
  length := second.length.trans first.length

theorem of_quiet {owner : Option Nat} (change : Quiet owner s t) : KeepsBooks s t :=
  ⟨change.registry, change.mapping, change.cached, change.poisoned, change.length⟩

theorem closePhase (s : Store) (key : String) (id : Nat) (result : Except PhaseFault Unit) :
    KeepsBooks s (s.closePhase key id .shutdown result) := by
  have noted : KeepsBooks s (s.note (.ended key id .shutdown result.isOk)) :=
    ⟨rfl, rfl, rfl, rfl, rfl⟩
  exact noted.trans (of_quiet (Quiet.unmark id _))

theorem holdsOwn (books : KeepsBooks s t) (holds : s.HoldsOwn) : t.HoldsOwn := by
  rw [Store.HoldsOwn, books.cached, books.length]
  exact holds

end KeepsBooks

section Phases

variable {id : Nat} {s : Store} {component : Component}

/-- A component that does not call its broker comes to the end of its shutdown phase, whatever
happens in the phases of others. -/
theorem runBody_shutdown_alone (held : s.instance? id = some component)
    (alone : component.ShutsDownAlone) :
    ∃ t own, (∀ run data, runBody run id .shutdown data s = .finished (.ok (), t)) ∧
      Quiet (some id) s t ∧
      t.journal = own ++ (component.entry .shutdown ++ s.journal) ∧
      ∀ event ∈ own, event.IsOwn id := by
  have body : (s.instance? id).map Component.body = some component.body := by
    rw [held, Option.map_some]
  cases found : component.body with
  | scripted script =>
      rw [found] at body
      rw [Component.entry, found]
      have number : (s.situation id .shutdown {}).run = component.nextRun .shutdown :=
        Store.situation_run held .shutdown {}
      have silent := alone script found
      rw [← number] at silent
      obtain ⟨result, u, performs, acted⟩ := perform_alone silent (s.enter id .shutdown)
      have remarked : ActsAlone id True u (remarkFailure id u result) := by
        cases result with
        | ok _ => exact .refl id True u
        | error fault => exact .said _ _ u
      have whole := acted.trans remarked
      obtain ⟨own, grown, isOwn⟩ := whole.journal
      have label : ((s.update id fun component =>
          { component with calls := component.calls.next .shutdown }).instance? id).getD {} =
            { component with calls := component.calls.next .shutdown } := by
        rw [Store.instance?_update, if_pos rfl, held]
        rfl
      refine ⟨remarkFailure id u result, own, fun run data => ?_, ?_, ?_, isOwn⟩
      · rw [runBody_shutdown run data body, performs run, Outcome.andThen_finished]
      · exact (enterPhase_quiet (enterPhase_apply id .shutdown {} s)).1.trans whole.quiet
      · rw [grown, Store.enter, Store.note, label]
        rfl
  | plain | logging settings =>
      rw [found] at body
      rw [Component.entry, found]
      refine ⟨s.unmark id, [], fun run data => ?_, Quiet.unmark id s, rfl, by simp⟩
      simp only [runBody, Work.bind_apply, Work.get_apply, Outcome.andThen_finished, body]
      rfl
  | configuration loaded =>
      rw [found] at body
      rw [Component.entry, found]
      refine ⟨_, [], fun run data => ?_,
        (Quiet.rebody id (.configuration none) s).trans (Quiet.unmark id _), rfl, by simp⟩
      simp only [runBody, Work.bind_apply, Work.get_apply, Outcome.andThen_finished, body]
      rfl

end Phases

/-- A key that is not disturbed gets the same farewell. -/
theorem Undisturbed.farewell {s t : Store} {key : String} (same : Undisturbed key s t)
    (own : List Event) : t.farewell own key = s.farewell own key := by
  rw [Store.farewell, Store.farewell, same.cachedId?, same.cachedInstance?]

/-- From one store to another, the services of a list have had their turns: those of them that were
initialized have got one farewell each, in order, with what their components did in it, and nothing
has happened to any other key. -/
structure ShutInTurn (names : List String) (own : String → List Event) (s t : Store) : Prop where
  books : KeepsBooks s t
  others : ∀ key, key ∉ names ∨ s.isInitialized key = false → Undisturbed key s t
  unready : ∀ name ∈ names, t.isInitialized name = false
  isOwn : ∀ name id, s.cachedId? name = some id → ∀ event ∈ own name, event.IsOwn id
  journal : t.journal.reverse = s.journal.reverse ++
    (names.filter s.isInitialized).flatMap fun name => s.farewell (own name) name

namespace ShutInTurn

variable {names rest : List String} {own later : String → List Event} {s t u : Store}

theorem nil (s : Store) : ShutInTurn [] (fun _ => []) s s where
  books := .refl s
  others key _ := .refl key s
  unready _ member := absurd member List.not_mem_nil
  isOwn _ _ _ _ member := absurd member List.not_mem_nil
  journal := (List.append_nil _).symm

/-- The turns of other services follow. -/
theorem append (one : ShutInTurn names own s u) (two : ShutInTurn rest later u t)
    (apart : ∀ name ∈ rest, name ∉ names) :
    ShutInTurn (names ++ rest) (fun name => if name ∈ names then own name else later name) s t where
  books := one.books.trans two.books
  others := by
    intro key away
    have first : Undisturbed key s u :=
      one.others key (away.imp_left fun absent member => absent (List.mem_append_left rest member))
    refine first.trans (two.others key ?_)
    rw [first.isInitialized]
    exact away.imp_left fun absent member => absent (List.mem_append_right names member)
  unready := by
    intro name member
    rcases List.mem_append.mp member with before | after
    · have asleep : u.isInitialized name = false := one.unready name before
      exact (two.others name (.inr asleep)).isInitialized.trans asleep
    · exact two.unready name after
  isOwn := by
    intro name id present event member
    split at member
    · exact one.isOwn name id present event member
    · have still : u.cachedId? name = some id :=
        (congrArg (Entries.get? name) one.books.cached).trans present
      exact two.isOwn name id still event member
  journal := by
    -- The services whose turn is still to come are as they were at the start.
    have waiting : ∀ name ∈ rest, Undisturbed name s u :=
      fun name member => one.others name (.inl (apart name member))
    have remaining : rest.filter u.isInitialized = rest.filter s.isInitialized :=
      List.filter_congr fun name member => (waiting name member).isInitialized
    rw [two.journal, one.journal, remaining, List.filter_append, List.flatMap_append,
      List.append_assoc]
    refine congrArg _ (congrArg₂ _ ?_ ?_)
    · refine List.flatMap_congr fun name member => ?_
      rw [if_pos (List.mem_of_mem_filter member)]
    · refine List.flatMap_congr fun name member => ?_
      have among : name ∈ rest := List.mem_of_mem_filter member
      rw [if_neg (apart name among), (waiting name among).farewell]

end ShutInTurn

section Turns

variable {name : String} {s : Store}

theorem Component.reverse_entry (component : Component) (phase : Phase) :
    (component.entry phase).reverse = component.entry phase := by
  rw [entry]
  split <;> rfl

/-- The turn of a service that is not initialized is over at once. -/
theorem shutdown_turn_idle (run : PhaseRunner) (known : isKnown s name = true)
    (uninitialized : s.isInitialized name = false) :
    shutdownBy run name (s.forewarn name) = .finished (false, s) := by
  have unwarned : s.forewarn name = s := if_neg (by simp [uninitialized])
  have idle : ShutdownEnd run name s false s := by
    cases present : s.cachedId? name with
    | none => exact .absent present
    | some id =>
        rw [Store.isInitialized_of_cachedId? present] at uninitialized
        exact .idle present uninitialized
  rw [unwarned, shutdownBy_apply, if_pos known]
  exact shutdownInstanceBy_finished.mpr idle

/-- In its turn an initialized service gets its farewell, and is not initialized afterwards. -/
theorem shutdown_turn_ready {id : Nat} {component : Component} (known : isKnown s name = true)
    (holds : s.HoldsOwn) (present : s.cachedId? name = some id)
    (held : s.cachedInstance? name = some component) (ready : component.initialized = true)
    (alone : component.ShutsDownAlone) :
    ∃ t own, (∀ depth, shutdownBy (runPhase (depth + 1)) name (s.forewarn name) =
        .finished (true, t)) ∧
      KeepsBooks s t ∧ (∀ key, key ≠ name → Undisturbed key s t) ∧
      t.isInitialized name = false ∧ (∀ event ∈ own, event.IsOwn id) ∧
      t.journal.reverse = s.journal.reverse ++ s.farewell own name := by
  have found : s.instance? id = some component :=
    (s.cachedInstance?_eq present).symm.trans held
  have initialized : s.isInitialized name = true := by
    rw [Store.isInitialized_eq, held, Option.any_some, ready]
  let warned : Store := s.notice ("Shutting down service: " ++ name)
  have forewarned : s.forewarn name = warned := if_pos initialized
  let opened : Store := warned.openPhase name id .shutdown
  obtain ⟨u, own, runs, quiet, grown, isOwn⟩ :=
    runBody_shutdown_alone (show opened.instance? id = some component from found) alone
  have before : KeepsBooks s opened := ⟨rfl, rfl, rfl, rfl, rfl⟩
  have inside : KeepsBooks s u := before.trans (.of_quiet quiet)
  have still : u.cachedId? name = some id :=
    (congrArg (Entries.get? name) inside.cached).trans present
  refine ⟨u.closePhase name id .shutdown (.ok ()), own.reverse, fun depth => ?runs,
    inside.trans (.closePhase u name id _), fun key different => ?others, ?unready, ?own, ?journal⟩
  case runs =>
    have status : warned.isReady id = true := by
      rw [← Store.isInitialized_of_cachedId? (show warned.cachedId? name = some id from present)]
      exact initialized
    have knownStill : isKnown warned name = true := known
    have phase : runPhase (depth + 1) id .shutdown {} opened = .finished (.ok (), u) :=
      runs (runPhase depth) {}
    rw [forewarned, shutdownBy_apply, if_pos knownStill]
    exact shutdownInstanceBy_finished.mpr (.ran present status phase)
  case others =>
    have noted : Undisturbed key s opened := ⟨rfl, rfl, rfl⟩
    have acted : Undisturbed key opened u :=
      .of_quiet quiet (before.holdsOwn holds) present different
    exact (noted.trans acted).trans
      (.closePhase (inside.holdsOwn holds) still different .shutdown (.ok ()))
  case unready =>
    have after : (u.closePhase name id .shutdown (.ok ())).cachedId? name = some id := still
    rw [Store.isInitialized_of_cachedId? after, isReady_closePhase, if_pos ⟨rfl, rfl⟩]
  case own => exact fun event member => isOwn event (List.mem_reverse.mp member)
  case journal =>
    have opening : opened.journal = .started name id .shutdown ::
        .reported (.ofNotice ("Shutting down service: " ++ name)) :: s.journal := rfl
    rw [journal_closePhase, grown, opening, Store.farewell, present, held]
    simp [component.reverse_entry, Except.isOk, Except.toBool]

/-- In its turn a service gets its farewell if it is initialized, and nothing is done about it
otherwise. -/
theorem shutdown_turn (known : isKnown s name = true) (holds : s.HoldsOwn)
    (alone : ∀ component, s.cachedInstance? name = some component → component.ShutsDownAlone) :
    ∃ done t own, (∀ depth, shutdownBy (runPhase (depth + 1)) name (s.forewarn name) =
        .finished (done, t)) ∧ ShutInTurn [name] own s t := by
  cases initialized : s.isInitialized name with
  | false =>
      refine ⟨false, s, fun _ => [], fun depth => shutdown_turn_idle _ known initialized, .refl s,
        fun key _ => .refl key s, fun other member => ?_,
        fun _ _ _ _ member => absurd member List.not_mem_nil, ?_⟩
      · exact List.mem_singleton.mp member ▸ initialized
      · simp [initialized]
  | true =>
      obtain ⟨id, present, ready⟩ := Store.isInitialized_iff.mp initialized
      obtain ⟨component, found⟩ := holds.instance? present
      have held : s.cachedInstance? name = some component :=
        (s.cachedInstance?_eq present).trans found
      rw [Store.isReady, found, Option.any_some] at ready
      obtain ⟨t, own, stops, books, others, unready, isOwn, grown⟩ :=
        shutdown_turn_ready known holds present held ready (alone component held)
      refine ⟨true, t, Function.update (fun _ => []) name own, stops, books,
        fun key apart => others key ?_, fun other member => ?_,
        fun other number again event member => ?_, ?_⟩
      · rintro rfl
        exact apart.elim (fun absent => absent (List.mem_singleton_self _)) (by simp [initialized])
      · exact List.mem_singleton.mp member ▸ unready
      · by_cases same : other = name
        · subst same
          rw [present] at again
          cases again
          rw [Function.update_self] at member
          exact isOwn event member
        · rw [Function.update_of_ne same] at member
          cases member
      · simp [grown, initialized]

end Turns

/-- Registered services are shut down in the order given. -/
theorem shutdownEach_inTurn {names : List String} {s : Store} (distinct : names.Nodup)
    (known : ∀ name ∈ names, isKnown s name = true) (holds : s.HoldsOwn)
    (alone : ∀ name ∈ names, ∀ component, s.cachedInstance? name = some component →
      component.ShutsDownAlone) :
    ∃ (t : Store) (own : String → List Event),
      (∀ depth, shutdownEach (runPhase (depth + 1)) names s = .finished ((), t)) ∧
      ShutInTurn names own s t := by
  induction names generalizing s with
  | nil => exact ⟨s, fun _ => [], fun depth => rfl, .nil s⟩
  | cons name rest inductionHypothesis =>
      obtain ⟨fresh, distinct⟩ := List.nodup_cons.mp distinct
      have apart : ∀ other ∈ rest, other ∉ [name] := by
        intro other member same
        exact fresh (List.mem_singleton.mp same ▸ member)
      obtain ⟨done, u, own, stops, turn⟩ :=
        shutdown_turn (known name List.mem_cons_self) holds (alone name List.mem_cons_self)
      have knownStill : ∀ other ∈ rest, isKnown u other = true := by
        intro other member
        have before := known other (List.mem_cons_of_mem _ member)
        rw [isKnown, Store.isConstructed, turn.books.cached, turn.books.registry,
          turn.books.mapping]
        exact before
      have aloneStill : ∀ other ∈ rest, ∀ component, u.cachedInstance? other = some component →
          component.ShutsDownAlone := by
        intro other member component held
        rw [(turn.others other (.inl (apart other member))).cachedInstance?] at held
        exact alone other (List.mem_cons_of_mem _ member) component held
      obtain ⟨t, later, walks, turns⟩ :=
        inductionHypothesis distinct knownStill (turn.books.holdsOwn holds) aloneStill
      refine ⟨t, _, fun depth => ?_, turn.append turns apart⟩
      rw [shutdownEach_cons, stops depth, Outcome.andThen_finished]
      exact walks depth

/-- A shutdown of all services always comes to its end when the shutdown phases that are to be run
do not call the broker, whatever else they do.

What is noted of it is, in order: the notice that it begins, and then, in the reverse of the order
in which the services were registered, one farewell for each service that was initialized at the
start, which is the notice that names it and right behind it its shutdown phase, with nothing in it
but what the component itself marks and logs.  Nothing is noted about the other services, and
nothing happens to them.  Afterwards no registered service is initialized.  The mapping, the
instances of the keys and the records of failures are the same as before, and no instance has been
built. -/
theorem shutdownAll_orderly {task : Task} {frames : List Frame} {s : Store}
    (underway : Underway task frames s) (services : s.registry.capability = .service)
    (alone : ∀ name component, s.cachedInstance? name = some component →
      component.ShutsDownAlone) :
    ∃ (t : Store) (own : String → List Event), shutdownAll s = .finished ((), t) ∧
      (∀ name id, s.cachedId? name = some id → ∀ event ∈ own name, event.IsOwn id) ∧
      t.journal.reverse = s.journal.reverse ++
        .reported (.ofNotice "Shutting down all services") ::
          (s.serviceNames.reverse.filter s.isInitialized).flatMap
            (fun name => s.farewell (own name) name) ∧
      (∀ name, s.isInitialized name = false → Undisturbed name s t) ∧
      (∀ name ∈ s.serviceNames, t.isInitialized name = false) ∧
      t.mapping = s.mapping ∧ t.cached = s.cached ∧ t.poisoned = s.poisoned ∧
      t.instances.length = s.instances.length := by
  obtain ⟨arises, -⟩ := underway.arises
  let noticed : Store := s.notice "Shutting down all services"
  have registered : ∀ name ∈ s.serviceNames.reverse, isKnown noticed name = true := by
    intro name member
    have mapped : s.mapping.contains name = true := by
      rw [Mapping.contains, Entries.contains, Option.isSome_iff_ne_none, Ne,
        Entries.get?_eq_none_iff, not_not]
      exact List.mem_reverse.mp member
    have same : noticed.registry.capability = .service := services
    rw [isKnown, same]
    exact Bool.or_eq_true_iff.mpr (.inr mapped)
  obtain ⟨t, own, walks, books, others, unready, isOwn, grown⟩ :=
    shutdownEach_inTurn (List.nodup_reverse.mpr s.mapping.distinct) registered arises.holdsOwn
      fun name _ => alone name
  obtain ⟨depth, allowance⟩ := depthAllowance_succ s
  refine ⟨t, own, ?finished, isOwn, ?journal, fun name asleep => ?idle, ?unready, books.mapping,
    books.cached, books.poisoned, books.length⟩
  case finished =>
    rw [shutdownAll, carryOut_apply, allowance]
    exact walks depth
  case journal =>
    have opening : noticed.journal =
        .reported (.ofNotice "Shutting down all services") :: s.journal := rfl
    rw [grown, opening, List.reverse_cons, List.append_assoc]
    rfl
  case idle =>
    have noted : Undisturbed name s noticed := ⟨rfl, rfl, rfl⟩
    exact noted.trans (others name (.inr asleep))
  case unready => exact fun name member => unready name (List.mem_reverse.mpr member)

/-- The body of a component that is not willing to shut down, and would call on its broker if it
came to that. -/
def Body.stubborn : Body :=
  .scripted { shutdown := some (.straight [.mark, .fail "not now" none, .resolve "y" .propagate]) }

/-- A broker of services of three kinds, one of which always fails. -/
def Store.lodge : Store :=
  { registry := { capability := .service
                  recipes := [("X", .build .stubborn), ("Y", .build .plain),
                    ("Z", .build (.scripted { late := some (.straight [.fail "down" none]) }))] } }

/-- Each of the services has been asked for once. -/
def Store.lodged : Store :=
  let registered := (Store.lodge.registerAll [("x", "X"), ("y", "Y"), ("z", "Z")]).2
  ((registered.afterCall (.resolve "x")).afterCall (.resolve "y")).afterCall (.resolve "z")

theorem underway_lodged : Underway .idle [] Store.lodged := by
  have fresh : Underway .idle [] Store.lodge := .fresh ⟨rfl, rfl, rfl, rfl, rfl, rfl⟩
  have registered := fresh.registerAll [("x", "X"), ("y", "Y"), ("z", "Z")]
  have first := registered.afterCall (.resolve "x") trivial rfl
  have second := first.afterCall (.resolve "y") trivial rfl
  exact second.afterCall (.resolve "z") trivial rfl

/-- The service that marks itself and fails when it is shut down is shut down all the same, after
the one that was registered later, and the one that always fails is left alone. -/
theorem shutdownAll_orderly_lodged :
    ∃ (t : Store) (own : String → List Event), shutdownAll Store.lodged = .finished ((), t) ∧
      t.journal.reverse = Store.lodged.journal.reverse ++
        .reported (.ofNotice "Shutting down all services") ::
          (Store.lodged.farewell (own "y") "y" ++ Store.lodged.farewell (own "x") "x") ∧
      t.isInitialized "x" = false ∧ t.isInitialized "y" = false ∧
      t.poisoned.get? "z" = Store.lodged.poisoned.get? "z" := by
  have alone : ∀ name component, Store.lodged.cachedInstance? name = some component →
      component.ShutsDownAlone := by
    intro name component held script scripted
    obtain ⟨id, present, found⟩ := Option.bind_eq_some_iff.mp held
    have member : (name, id) ∈ [("x", 0), ("y", 1), ("z", 2)] := Entries.mem_of_get? present
    simp only [List.mem_cons, List.not_mem_nil, or_false, Prod.mk.injEq] at member
    rcases member with ⟨rfl, rfl⟩ | ⟨rfl, rfl⟩ | ⟨rfl, rfl⟩ <;> cases found <;> cases scripted
    · rintro action (_ | ⟨_, _ | ⟨_, member⟩⟩)
      · exact id
      · exact id
      · cases member
    · rintro action (_ | ⟨_, member⟩)
      · exact id
      · cases member
  obtain ⟨t, own, finished, -, grown, idle, unready, -⟩ :=
    shutdownAll_orderly underway_lodged rfl alone
  refine ⟨t, own, finished, ?_, unready "x" (by decide), unready "y" (by decide), ?_⟩
  · have walked : Store.lodged.serviceNames.reverse.filter Store.lodged.isInitialized =
        ["y", "x"] := rfl
    rw [grown, walked, List.flatMap_cons, List.flatMap_singleton]
  · exact (idle "z" rfl).record

end ServiceLifecycle
