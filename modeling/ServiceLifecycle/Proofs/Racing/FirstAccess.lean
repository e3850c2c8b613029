/-
Module: ServiceLifecycle.Proofs.Racing.FirstAccess
Purpose: However many threads race for an instance, it is built and initialized at most once.
Main exports: Race.Orderly, Race.Orderly.step, Race.Orderly.reached, first_access_once
-/
import ServiceLifecycle.Proofs.Racing.CriticalSection

namespace ServiceLifecycle

/-!
The lock of a key is with one thread at a time.  So while a thread has it, the others are at stages
where they know only what stays true whatever it does, and what it knows beyond that is its own
doing.  When it gives the lock back, the store tells again what has been tried, for the next thread
that gets the lock.
-/

/-- What the store tells does not depend on what can be built. -/
theorem Store.Guarded.refitted {key : String} {origin : Tally} {s : Store}
    (guarded : s.Guarded key origin) (registry : Registry) :
    Store.Guarded key origin { s with registry } :=
  ⟨guarded.absent, guarded.pending⟩

theorem Stage.Holds.refitted {key : String} {origin : Tally} {s : Store} {stage : Stage}
    (holds : stage.Holds key origin s) (registry : Registry) :
    stage.Holds key origin { s with registry } := by
  cases stage with
  | looksAgain lock => exact Store.Guarded.refitted holds registry
  | rechecks lock id => exact Store.Guarded.refitted holds registry
  | builds lock => exact ⟨holds.1.refitted registry, holds.2⟩
  | reconsults lock id => exact ⟨holds.1.refitted registry, holds.2⟩
  | releases lock next => exact ⟨holds.1, holds.2.refitted registry⟩
  | _ => exact holds

/-- What is true of a thread at a stage: it knows what the stage needs, and the locks are with it
as the stage says. -/
structure Ground.Supports (key : String) (origin : Tally) (ground : Ground) (thread : Nat)
    (stage : Stage) : Prop where
  knows : stage.Knows key ground.store
  holds : stage.Holds key origin ground.store
  /-- There is no other lock to hold or to wait for than the one in the table. -/
  lock : ∀ lock, stage.lock? = some lock → ground.lock = some lock
  holder : ∀ lock, stage.held? = some lock → ground.holder lock = some thread

namespace Race

variable {key implementation : String} {name : Option String} {origin : Store} {race : Race}

/-- What holds of a race at every moment. -/
structure Orderly (key implementation : String) (origin : Store) (race : Race) : Prop where
  journal : origin.journal <:+ race.ground.store.journal
  inOrder : race.ground.store.InOrder key implementation (tally key origin.journal)
  threads : ∀ thread,
    race.ground.Supports key (tally key origin.journal) thread (race.stages thread)
  /-- Before the lock is made, nobody holds any. -/
  unmade : race.ground.lock = none → race.ground.IsIdle
  guarded : (∀ lock, race.ground.lock = some lock → race.ground.holder lock = none) →
    race.ground.store.Guarded key (tally key origin.journal)

theorem orderly_start {ground : Ground} (idle : ground.IsIdle)
    (recipe : ground.store.registry.IsFit implementation)
    (fits : ∀ id, ground.store.cachedId? key = some id → ground.store.IsFit id) :
    (start ground).Orderly key implementation ground.store := by
  constructor
  case journal => exact List.suffix_refl _
  case inOrder => exact ⟨Nat.le_succ _, Nat.le_succ _, fun _ _ _ => rfl, fits, recipe⟩
  case threads =>
    intro thread
    refine ⟨Stage.knows_nothing rfl rfl, trivial, ?_, ?_⟩
    · intro lock wanted
      cases wanted
    · intro lock held
      cases held
  case unmade => exact fun _ => idle
  case guarded => exact fun _ => ⟨fun _ => rfl, fun _ _ _ _ => ⟨rfl, rfl⟩⟩

section Exclusion

variable {thread other lock : Nat}

/-- While a thread has the lock, no other thread has one. -/
theorem Orderly.alone (orderly : race.Orderly key implementation origin)
    (held : (race.stages thread).held? = some lock) (different : other ≠ thread) :
    (race.stages other).held? = none := by
  cases otherHeld : (race.stages other).held? with
  | none => rfl
  | some otherLock =>
      have mine := (orderly.threads thread).lock lock (Stage.lock?_of_held? held)
      have theirs := (orderly.threads other).lock otherLock (Stage.lock?_of_held? otherHeld)
      have same : some lock = some otherLock := mine.symm.trans theirs
      cases same
      have holder : some thread = some other :=
        ((orderly.threads thread).holder lock held).symm.trans
          ((orderly.threads other).holder lock otherHeld)
      exact absurd (Option.some.inj holder).symm different

/-- While nobody holds the lock in the table, no thread has one. -/
theorem Orderly.free (orderly : race.Orderly key implementation origin)
    (present : race.ground.lock = some lock) (free : race.ground.holder lock = none)
    (thread : Nat) : (race.stages thread).held? = none := by
  cases held : (race.stages thread).held? with
  | none => rfl
  | some other =>
      have same : some lock = some other :=
        present.symm.trans ((orderly.threads thread).lock other (Stage.lock?_of_held? held))
      cases same
      have holder := (orderly.threads thread).holder lock held
      rw [free] at holder
      cases holder

end Exclusion

/-- What is true of the stage that a thread comes to, and was true of those of the others. -/
theorem forall_update {P : Nat → Stage → Prop} {stages : Nat → Stage} {thread : Nat}
    {stage : Stage} (here : P thread stage)
    (elsewhere : ∀ other, other ≠ thread → P other (stages other)) (other : Nat) :
    P other (Function.update stages thread stage other) := by
  by_cases same : other = thread
  · rw [same, Function.update_self]
    exact here
  · rw [Function.update_of_ne same]
    exact elsewhere other same

section Steps

variable {thread lock : Nat} {errand : Errand} {next : Stage}

/-- A step that looks at the store or changes it. -/
theorem Orderly.worked (orderly : race.Orderly key implementation origin) {t : Store}
    (done : Racing.work key implementation name race.ground.store (race.stages thread) =
      some (t, next)) :
    Orderly key implementation origin
      { ground := { race.ground with store := t }
        stages := Function.update race.stages thread next } := by
  have mine := orderly.threads thread
  have kept := Racing.work_kept orderly.inOrder mine.knows mine.holds done
  obtain ⟨sameHeld, sameLock⟩ := Racing.locks_of_work done
  -- The store is the same if the thread has no lock, and the others have none if it has one.
  have still : (race.stages thread).held? = none → t = race.ground.store :=
    fun free => Racing.eq_of_work free done
  constructor
  case journal => exact orderly.journal.trans kept.precedes.journal
  case inOrder => exact kept.inOrder
  case threads =>
    refine forall_update ⟨kept.knows, kept.holds, ?lock, ?holder⟩ ?others
    case lock =>
      intro lock wanted
      exact mine.lock lock (Stage.lock?_of_held? (sameLock.symm.trans wanted))
    case holder => exact fun lock held => mine.holder lock (sameHeld.symm.trans held)
    case others =>
      intro other different
      have theirs := orderly.threads other
      refine ⟨theirs.knows.later kept.precedes, ?_, theirs.lock, theirs.holder⟩
      cases held : (race.stages thread).held? with
      | none => exact still held ▸ theirs.holds
      | some lock => exact Stage.holds_of_free (orderly.alone held different)
  case unmade => exact orderly.unmade
  case guarded =>
    intro free
    cases held : (race.stages thread).held? with
    | none => exact still held ▸ orderly.guarded free
    | some lock =>
        have holder := mine.holder lock held
        rw [free lock (mine.lock lock (Stage.lock?_of_held? held))] at holder
        cases holder

/-- A thread fetches the lock, which is in the table. -/
theorem Orderly.found (orderly : race.Orderly key implementation origin)
    (fetches : race.stages thread = .fetches errand) (present : race.ground.lock = some lock) :
    Orderly key implementation origin
      { race with stages := Function.update race.stages thread (.waits errand lock) } := by
  have mine := orderly.threads thread
  rw [fetches] at mine
  constructor
  case journal => exact orderly.journal
  case inOrder => exact orderly.inOrder
  case threads =>
    refine forall_update ⟨⟨mine.knows.subject, mine.knows.seenReady⟩, trivial, ?lock, ?holder⟩
      fun other _ => orderly.threads other
    case lock =>
      intro other wanted
      cases wanted
      exact present
    case holder => exact fun other held => by cases held
  case unmade => exact orderly.unmade
  case guarded => exact orderly.guarded

/-- The lock is made and put into the table. -/
theorem Orderly.made (orderly : race.Orderly key implementation origin)
    (absent : race.ground.lock = none) :
    Orderly key implementation origin
      { race with
        ground := { race.ground with
          lock := some race.ground.made
          made := race.ground.made + 1 } } := by
  constructor
  case journal => exact orderly.journal
  case inOrder => exact orderly.inOrder
  case threads =>
    intro thread
    have mine := orderly.threads thread
    refine ⟨mine.knows, mine.holds, fun lock wanted => ?_, mine.holder⟩
    have present := mine.lock lock wanted
    rw [absent] at present
    cases present
  case unmade => exact fun missing => by cases missing
  case guarded =>
    intro _
    refine orderly.guarded fun lock present => ?_
    rw [absent] at present
    cases present

/-- A thread gets the lock, and with it what the store tells while nobody has it. -/
theorem Orderly.acquired (orderly : race.Orderly key implementation origin)
    (waits : race.stages thread = .waits errand lock) (free : race.ground.holder lock = none) :
    Orderly key implementation origin
      { ground := { race.ground with
          holder := Function.update race.ground.holder lock (some thread) }
        stages := Function.update race.stages thread (errand.start lock) } := by
  have mine := orderly.threads thread
  rw [waits] at mine
  have present : race.ground.lock = some lock := mine.lock lock rfl
  have guarded : race.ground.store.Guarded key (tally key origin.journal) := by
    refine orderly.guarded fun other same => ?_
    rw [present] at same
    cases same
    exact free
  have taken : Function.update race.ground.holder lock (some thread) lock = some thread :=
    Function.update_self _ _ _
  constructor
  case journal => exact orderly.journal
  case inOrder => exact orderly.inOrder
  case threads =>
    refine forall_update ⟨?knows, ?holds, ?lock, ?holder⟩ ?others
    case knows =>
      cases errand with
      | build => exact Stage.knows_nothing rfl rfl
      | settle id => exact Stage.knows_cached (mine.knows.subject id rfl) rfl rfl
    case holds => cases errand <;> exact guarded
    case lock =>
      intro other wanted
      have started := Stage.lock?_of_held? (Stage.held?_start errand lock)
      exact present.trans (started.symm.trans wanted)
    case holder =>
      intro other held
      rw [Stage.held?_start] at held
      cases held
      exact taken
    case others =>
      intro other _
      have theirs := orderly.threads other
      refine ⟨theirs.knows, theirs.holds, theirs.lock, fun stage held => ?_⟩
      rw [orderly.free present free other] at held
      cases held
  case unmade =>
    intro missing
    have absent : race.ground.lock = none := missing
    rw [present] at absent
    cases absent
  case guarded =>
    intro idle
    have untaken := idle lock present
    have same : some thread = none := taken.symm.trans untaken
    cases same

/-- A thread gives the lock back, when the store tells what has been tried. -/
theorem Orderly.released (orderly : race.Orderly key implementation origin)
    (releases : race.stages thread = .releases lock next) :
    Orderly key implementation origin
      { ground := { race.ground with holder := Function.update race.ground.holder lock none }
        stages := Function.update race.stages thread next } := by
  have held : (race.stages thread).held? = some lock := by
    rw [releases]
    rfl
  have mine := orderly.threads thread
  rw [releases] at mine
  obtain ⟨free, guarded⟩ := mine.holds
  have unheld : next.held? = none := Stage.held?_of_lock? free
  constructor
  case journal => exact orderly.journal
  case inOrder => exact orderly.inOrder
  case threads =>
    refine forall_update
      ⟨⟨mine.knows.subject, mine.knows.seenReady⟩, Stage.holds_of_free unheld, ?lock, ?holder⟩
      ?others
    case lock =>
      intro other wanted
      rw [free] at wanted
      cases wanted
    case holder =>
      intro other holding
      rw [unheld] at holding
      cases holding
    case others =>
      intro other different
      have theirs := orderly.threads other
      refine ⟨theirs.knows, theirs.holds, theirs.lock, fun stage holding => ?_⟩
      rw [orderly.alone held different] at holding
      cases holding
  case unmade =>
    intro missing
    have absent : race.ground.lock = none := missing
    rw [mine.lock lock rfl] at absent
    cases absent
  case guarded => exact fun _ => guarded

theorem Orderly.step (orderly : race.Orderly key implementation origin) {after : Race}
    (step : Step key implementation name race after) : after.Orderly key implementation origin := by
  cases step with
  | advanced thread moved =>
      have ending := Racing.advance_ends moved
      generalize before : race.stages thread = current at ending
      cases ending with
      | found present => exact orderly.found before present
      | made absent => exact (orderly.made absent).found before rfl
      | acquired free => exact orderly.acquired before free
      | released => exact orderly.released before
      | worked done => exact orderly.worked (before ▸ done)
  | refitted registry isFit =>
      have inOrder := orderly.inOrder
      constructor
      case journal => exact orderly.journal
      case inOrder =>
        exact ⟨inOrder.built, inOrder.begun, inOrder.unfailed, inOrder.fits, isFit⟩
      case threads =>
        intro thread
        have mine := orderly.threads thread
        exact ⟨⟨mine.knows.subject, mine.knows.seenReady⟩, mine.holds.refitted registry, mine.lock,
          mine.holder⟩
      case unmade => exact orderly.unmade
      case guarded => exact fun free => (orderly.guarded free).refitted registry

theorem Orderly.reached (orderly : race.Orderly key implementation origin) {after : Race}
    (reached : Relation.ReflTransGen (Step key implementation name) race after) :
    after.Orderly key implementation origin := by
  induction reached with
  | refl => exact orderly
  | tail _ step inductionHypothesis => exact inductionHypothesis.step step

end Steps

end Race

theorem tally_append (key : String) (events journal : List Event) :
    tally key (events ++ journal) =
      ⟨events.countP Event.isBuilt + (tally key journal).built,
        events.countP (Event.beginsLate key) + (tally key journal).begun,
        events.countP (Event.failsLate key) + (tally key journal).failed⟩ := by
  simp [tally]

/-- Any number of threads call for the ready instance of a key, while what can be built may change
as long as it settles last.  Whatever steps they have taken, no more than one instance has been
built and no more than one late phase has been started.  Every call that has ended well has come to
the instance that is cached, which is initialized.  Once the late phase has failed, no call ends
well. -/
theorem first_access_once {key implementation : String} {name : Option String} {ground : Ground}
    {race : Race} (idle : ground.IsIdle) (recipe : ground.store.registry.IsFit implementation)
    (fits : ∀ id, ground.store.cachedId? key = some id → ground.store.IsFit id)
    (reached : Relation.ReflTransGen (Race.Step key implementation name) (Race.start ground) race) :
    ∃ events, race.ground.store.journal = events ++ ground.store.journal ∧
      events.countP Event.isBuilt ≤ 1 ∧
      events.countP (Event.beginsLate key) ≤ 1 ∧
      (∀ thread id, race.stages thread = .returned (.ok id) →
        race.ground.store.cachedId? key = some id ∧ race.ground.store.isReady id = true) ∧
      ((∃ event ∈ events, event.failsLate key = true) →
        ∀ thread id, race.stages thread ≠ .returned (.ok id)) := by
  have orderly : race.Orderly key implementation ground.store :=
    (Race.orderly_start idle recipe fits).reached reached
  obtain ⟨events, journal⟩ := orderly.journal
  have counted := tally_append key events ground.store.journal
  rw [journal] at counted
  have answered : ∀ thread id, race.stages thread = .returned (.ok id) →
      race.ground.store.cachedId? key = some id ∧ race.ground.store.isReady id = true := by
    intro thread id returned
    have knows := (orderly.threads thread).knows
    rw [returned] at knows
    exact ⟨knows.subject id rfl, knows.seenReady id rfl⟩
  refine ⟨events, journal.symm, ?built, ?begun, answered, ?failed⟩
  case built =>
    have bound := orderly.inOrder.built
    rw [counted] at bound
    simp only at bound
    omega
  case begun =>
    have bound := orderly.inOrder.begun
    rw [counted] at bound
    simp only at bound
    omega
  case failed =>
    rintro ⟨event, member, fails⟩ thread id returned
    obtain ⟨cached, ready⟩ := answered thread id returned
    have none_failed := orderly.inOrder.unfailed id cached ready
    rw [counted] at none_failed
    simp only at none_failed
    have some_failed : 0 < events.countP (Event.failsLate key) :=
      List.countP_pos_iff.mpr ⟨event, member, fails⟩
    omega

/-- A broker that can build a gadget with the given late phase. -/
def Race.workshop (late : Course) : Ground :=
  { store := { registry := { recipes := [("gadget", .build (.scripted { late := some late }))] } } }

/-- Two threads that need the gadget take turns. -/
def Race.rush (late : Course) : Race :=
  follow "gadget" "gadget" none (List.replicate 24 [0, 1]).flatten (start (workshop late))

theorem first_access_once_rush :
    let race := Race.rush (.straight [.log "warm", .mark])
    ((race.stages 0).answer? = some 0 ∧ (race.stages 1).answer? = some 0) ∧
      ∃ events, race.ground.store.journal = events ++ [] ∧
        events.countP Event.isBuilt ≤ 1 ∧
        events.countP (Event.beginsLate "gadget") ≤ 1 ∧
        (∀ thread id, race.stages thread = .returned (.ok id) →
          race.ground.store.cachedId? "gadget" = some id ∧
            race.ground.store.isReady id = true) ∧
        ((∃ event ∈ events, event.failsLate "gadget" = true) →
          ∀ thread id, race.stages thread ≠ .returned (.ok id)) := by
  intro race
  have recipe : (Race.workshop (.straight [.log "warm", .mark])).store.registry.IsFit "gadget" := by
    intro body found
    cases found
    simp [Body.SettlesLast, Script.lateCourse, Action.CallsOwner, Course.marksLast_straight]
  refine ⟨by decide +kernel, ?_⟩
  exact first_access_once (fun _ => rfl) recipe (fun _ cached => by cases cached)
    (Race.follow_reaches _ _)

/-- When the late phase fails, neither thread gets the gadget. -/
example :
    let race := Race.rush (.straight [.log "warm", .fail "cold" none])
    (race.stages 0).answer? = none ∧ (race.stages 1).answer? = none ∧
      race.ground.store.isPoisoned "gadget" = true := by
  decide +kernel

end ServiceLifecycle
