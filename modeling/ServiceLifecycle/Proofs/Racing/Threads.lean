/-
Module: ServiceLifecycle.Proofs.Racing.Threads
Purpose: Threads that need the instance of one key at the same time, step by step.
Main exports: Ground, Stage, Racing.work, Racing.advance, Race, Race.Step, Race.follow
-/
import Mathlib.Logic.Function.Basic
import Mathlib.Logic.Relation
import ServiceLifecycle.Proofs.Broker.Actions

namespace ServiceLifecycle

/-!
A call for a ready instance is made of small steps, between which other threads take theirs: each
look at the instances, at the status of an instance or at the record of failures is one, and so is
each change of these.  The instance is built, and its late phase is run, under the lock of its key.
Locks are objects in a table, where the one of a key is made when it is first asked for.

A thread looks for the instance first without the lock and then, if there is none, once more with
it, before it builds one.  In the same way it looks at the status and at the record of failures
before it asks for the lock, and once more when it has it, before it starts the late phase.

A component that calls its owner would have the broker do other things within one of these steps,
so the steps of a late phase are meant for components that do not.
-/

open Broker

/-- What the threads share: the store of the broker, the lock of the key in the table, how many
locks have been made, and which thread holds each of them. -/
structure Ground where
  store : Store
  lock : Option Nat := none
  made : Nat := 0
  holder : Nat → Option Nat := fun _ => none

/-- Nobody holds a lock. -/
def Ground.IsIdle (ground : Ground) : Prop :=
  ∀ lock, ground.holder lock = none

/-- What a thread wants the lock of the key for. -/
inductive Errand where
  /-- To build the instance. -/
  | build
  /-- To make an instance ready. -/
  | settle (id : Nat)
deriving Repr, Inhabited, DecidableEq

/-- What a thread does next, and what it has found out so far. -/
inductive Stage where
  /-- Look for the instance, without the lock. -/
  | peeks
  /-- Fetch the lock of the key from the table. -/
  | fetches (errand : Errand)
  /-- Wait for a lock. -/
  | waits (errand : Errand) (lock : Nat)
  /-- Look for the instance again, with the lock. -/
  | looksAgain (lock : Nat)
  /-- Have the registry build an instance. -/
  | builds (lock : Nat)
  /-- Make the instance ready for use by others and cache it. -/
  | publishes (lock id : Nat)
  /-- Look at the status, without the lock. -/
  | checks (id : Nat)
  /-- Look at the record of failures, without the lock. -/
  | consults (id : Nat)
  /-- Look at the status again, with the lock. -/
  | rechecks (lock id : Nat)
  /-- Look at the record of failures again, with the lock. -/
  | reconsults (lock id : Nat)
  /-- Start the late phase. -/
  | begins (lock id : Nat)
  /-- Enter the late phase of the component. -/
  | enters (lock id : Nat)
  /-- Perform the actions that are left of a course. -/
  | performs (lock : Nat) (now : Situation) (course : Course)
  /-- Look what the late phase has come to. -/
  | judges (lock id : Nat) (result : Except PhaseFault Unit)
  /-- Record that the late phase has failed. -/
  | records (lock id : Nat) (fault : PhaseFault)
  /-- Give the lock back and go on. -/
  | releases (lock : Nat) (next : Stage)
  /-- The call is over. -/
  | returned (result : Except BrokerFault Nat)
deriving Inhabited

/-- What a thread does first when it has got the lock. -/
def Errand.start (lock : Nat) : Errand → Stage
  | build => .looksAgain lock
  | settle id => .rechecks lock id

namespace Stage

/-- The lock that a thread holds. -/
def held? : Stage → Option Nat
  | looksAgain lock | builds lock | publishes lock _ | rechecks lock _ | reconsults lock _
  | begins lock _ | enters lock _ | performs lock _ _ | judges lock _ _ | records lock _ _
  | releases lock _ => some lock
  | _ => none

/-- The lock that a thread holds or waits for. -/
def lock? : Stage → Option Nat
  | waits _ lock => some lock
  | stage => stage.held?

/-- The instance that a call has come to. -/
def answer? : Stage → Option Nat
  | returned (.ok id) => some id
  | _ => none

theorem held?_of_lock? {stage : Stage} (free : stage.lock? = none) : stage.held? = none := by
  cases stage <;> first | rfl | exact free

theorem lock?_of_held? {stage : Stage} {lock : Nat} (held : stage.held? = some lock) :
    stage.lock? = some lock := by
  cases stage <;> first | exact held | cases held

theorem held?_start (errand : Errand) (lock : Nat) : (errand.start lock).held? = some lock := by
  cases errand <;> rfl

end Stage

namespace Store

/-- The store in which the broker has noted how a late phase ended. -/
def endLate (s : Store) (key : String) (id : Nat) (succeeded : Bool) : Store :=
  { s.note (.ended key id .late succeeded) with settling := s.settling.tail }

end Store

namespace Racing

section Steps

variable (key implementation : String) (name : Option String)

/-- A step that looks at the store or changes it. -/
def work (s : Store) : Stage → Option (Store × Stage)
  | .peeks =>
      match s.cachedId? key with
      | some id => some (s, .checks id)
      | none => some (s, .fetches .build)
  | .looksAgain lock =>
      match s.cachedId? key with
      | some id => some (s, .releases lock (.checks id))
      | none => some (s, .builds lock)
  | .builds lock =>
      let capability := s.registry.capability.name
      match build implementation (some key) s with
      | .finished (.unknown, t) =>
          some (t, .releases lock
            (.returned (.error (.ofReason key .unavailable implementation capability))))
      | .finished (.refused fault, t) =>
          some (t, .releases lock
            (.returned (.error (.ofConstruction key implementation capability fault))))
      | .finished (.instance id, t) => some (t, .publishes lock id)
      | _ => none
  | .publishes lock id => some (s.adopt key name id, .releases lock (.checks id))
  | .checks id => some (s, if s.isReady id then .returned (.ok id) else .consults id)
  | .consults id =>
      match s.poisoned.get? key with
      | some reason => some (s, .returned (.error (.uninitialized key (.failed reason none))))
      | none => some (s, .fetches (.settle id))
  | .rechecks lock id =>
      some (s, if s.isReady id then .releases lock (.returned (.ok id)) else .reconsults lock id)
  | .reconsults lock id =>
      match s.poisoned.get? key with
      | some reason =>
          some (s, .releases lock (.returned (.error (.uninitialized key (.failed reason none)))))
      | none => some (s, .begins lock id)
  | .begins lock id => some (s.openPhase key id .late, .enters lock id)
  | .enters lock id =>
      match (s.instance? id).map Component.body with
      | some (.scripted script) =>
          some (s.enter id .late,
            .performs lock (s.situation id .late {}) script.lateCourse)
      | _ =>
          match runPhase 1 id .late {} s with
          | .finished (result, t) => some (t, .judges lock id result)
          | _ => none
  | .performs lock now .finish => some (s, .judges lock now.id (.ok ()))
  | .performs lock now (.act action next) =>
      match act (runPhase 0) now action s with
      | .finished (.ok heard, t) => some (t, .performs lock now (next heard))
      | .finished (.error fault, t) => some (t, .judges lock now.id (.error fault))
      | _ => none
  | .judges lock id result =>
      match verdict s key id .late result with
      | .ok () => some (s.endLate key id true, .releases lock (.returned (.ok id)))
      | .error fault => some (s.endLate key id false, .records lock id fault)
  | .records lock _ fault =>
      some (s.poison key (Fault.phase fault).chain,
        .releases lock (.returned (.error (fault.about key))))
  | _ => none

/-- A step of a thread.  One that waits for a lock takes it when nobody holds it. -/
def advance (thread : Nat) (ground : Ground) : Stage → Option (Ground × Stage)
  | .fetches errand =>
      match ground.lock with
      | some lock => some (ground, .waits errand lock)
      | none =>
          some ({ ground with lock := some ground.made, made := ground.made + 1 },
            .waits errand ground.made)
  | .waits errand lock =>
      match ground.holder lock with
      | some _ => none
      | none =>
          some ({ ground with holder := Function.update ground.holder lock (some thread) },
            errand.start lock)
  | .releases lock next =>
      some ({ ground with holder := Function.update ground.holder lock none }, next)
  | stage =>
      (work key implementation name ground.store stage).map fun done =>
        ({ ground with store := done.1 }, done.2)

/-- How a thread takes a step. -/
inductive Advance (thread : Nat) (ground : Ground) : Stage → Ground → Stage → Prop where
  /-- The lock of the key is in the table. -/
  | found {errand : Errand} {lock : Nat} (present : ground.lock = some lock) :
      Advance thread ground (.fetches errand) ground (.waits errand lock)
  /-- It is made and put there. -/
  | made {errand : Errand} (absent : ground.lock = none) :
      Advance thread ground (.fetches errand)
        { ground with lock := some ground.made, made := ground.made + 1 }
        (.waits errand ground.made)
  | acquired {errand : Errand} {lock : Nat} (free : ground.holder lock = none) :
      Advance thread ground (.waits errand lock)
        { ground with holder := Function.update ground.holder lock (some thread) }
        (errand.start lock)
  | released {lock : Nat} {next : Stage} :
      Advance thread ground (.releases lock next)
        { ground with holder := Function.update ground.holder lock none } next
  | worked {stage next : Stage} {t : Store}
      (done : work key implementation name ground.store stage = some (t, next)) :
      Advance thread ground stage { ground with store := t } next

variable {key implementation name}

theorem advance_ends {thread : Nat} {ground after : Ground} {stage next : Stage}
    (moved : advance key implementation name thread ground stage = some (after, next)) :
    Advance key implementation name thread ground stage after next := by
  have worked : ((work key implementation name ground.store stage).map fun done =>
        (({ ground with store := done.1 } : Ground), done.2)) = some (after, next) →
      Advance key implementation name thread ground stage after next := by
    intro mapped
    obtain ⟨⟨t, other⟩, done, same⟩ := Option.map_eq_some_iff.mp mapped
    cases same
    exact .worked done
  cases stage with
  | fetches errand =>
      cases present : ground.lock with
      | some lock =>
          simp only [advance, present] at moved
          cases moved
          exact .found present
      | none =>
          simp only [advance, present] at moved
          cases moved
          exact .made present
  | waits errand lock =>
      cases free : ground.holder lock with
      | some other =>
          simp only [advance, free] at moved
          cases moved
      | none =>
          simp only [advance, free] at moved
          cases moved
          exact .acquired free
  | releases lock next =>
      cases moved
      exact .released
  | _ => exact worked moved

/-- Work leaves the locks alone: a thread holds after it what it held before, and waits for none. -/
theorem locks_of_work {s t : Store} {stage next : Stage}
    (done : work key implementation name s stage = some (t, next)) :
    next.held? = stage.held? ∧ next.lock? = stage.held? := by
  cases stage with
  | performs lock now course =>
      cases course with
      | finish =>
          cases done
          exact ⟨rfl, rfl⟩
      | act action next =>
          simp only [work] at done
          split at done <;> cases done <;> exact ⟨rfl, rfl⟩
  | checks id =>
      simp only [work] at done
      split at done <;> cases done <;> exact ⟨rfl, rfl⟩
  | rechecks lock id =>
      simp only [work] at done
      split at done <;> cases done <;> exact ⟨rfl, rfl⟩
  | enters lock id =>
      simp only [work] at done
      split at done
      · cases done
        exact ⟨rfl, rfl⟩
      · split at done <;> cases done
        exact ⟨rfl, rfl⟩
  | publishes lock id =>
      cases done
      exact ⟨rfl, rfl⟩
  | begins lock id =>
      cases done
      exact ⟨rfl, rfl⟩
  | records lock id fault =>
      cases done
      exact ⟨rfl, rfl⟩
  | fetches errand => cases done
  | waits errand lock => cases done
  | releases lock next => cases done
  | returned result => cases done
  | _ =>
      simp only [work] at done
      split at done <;> cases done <;> exact ⟨rfl, rfl⟩

/-- Without the lock, a thread only looks. -/
theorem eq_of_work {s t : Store} {stage next : Stage} (free : stage.held? = none)
    (done : work key implementation name s stage = some (t, next)) : t = s := by
  cases stage with
  | peeks =>
      simp only [work] at done
      split at done <;> cases done <;> rfl
  | checks id =>
      cases done
      rfl
  | consults id =>
      simp only [work] at done
      split at done <;> cases done <;> rfl
  | fetches errand => cases done
  | waits errand lock => cases done
  | returned result => cases done
  | _ => cases free

end Steps

end Racing

/-- The late phase of the component marks it as the last thing it does, if at all, and does not
call its owner.  The logging service reads its settings through its owner. -/
def Body.SettlesLast : Body → Prop
  | .scripted script =>
      (∀ action ∈ script.lateCourse, ¬ action.CallsOwner) ∧ script.lateCourse.MarksLast
  | .logging _ => False
  | _ => True

/-- What is built from an implementation settles last. -/
def Registry.IsFit (registry : Registry) (implementation : String) : Prop :=
  ∀ body, registry.bodyFor? implementation = some body → body.SettlesLast

/-- An instance, if it is there, settles last. -/
def Store.IsFit (s : Store) (id : Nat) : Prop :=
  ∀ component, s.instance? id = some component → component.body.SettlesLast

/-- Threads, by number, that all call for the ready instance of one key. -/
structure Race where
  ground : Ground
  stages : Nat → Stage

namespace Race

/-- No thread has taken a step yet. -/
def start (ground : Ground) : Race :=
  { ground, stages := fun _ => .peeks }

/-- One thread takes a step, or what can be built changes, so that one attempt to build an instance
may end differently from the next. -/
inductive Step (key implementation : String) (name : Option String) : Race → Race → Prop where
  | advanced {race : Race} {ground : Ground} {stage : Stage} (thread : Nat)
      (moved : Racing.advance key implementation name thread race.ground (race.stages thread) =
        some (ground, stage)) :
      Step key implementation name race
        { ground, stages := Function.update race.stages thread stage }
  | refitted {race : Race} (registry : Registry) (isFit : registry.IsFit implementation) :
      Step key implementation name race
        { race with
          ground := { race.ground with store := { race.ground.store with registry } } }

/-- The threads take their steps in a given order, as long as they can. -/
def follow (key implementation : String) (name : Option String) : List Nat → Race → Race
  | [], race => race
  | thread :: rest, race =>
      match Racing.advance key implementation name thread race.ground (race.stages thread) with
      | some (ground, stage) =>
          follow key implementation name rest
            { ground, stages := Function.update race.stages thread stage }
      | none => follow key implementation name rest race

theorem follow_reaches {key implementation : String} {name : Option String} (threads : List Nat)
    (race : Race) :
    Relation.ReflTransGen (Step key implementation name) race
      (follow key implementation name threads race) := by
  induction threads generalizing race with
  | nil => exact .refl
  | cons thread rest inductionHypothesis =>
      rw [follow]
      split
      · rename_i ground stage moved
        exact .head (.advanced thread moved) (inductionHypothesis _)
      · exact inductionHypothesis race

end Race

end ServiceLifecycle
