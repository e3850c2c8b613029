/-
Module: ServiceLifecycle.Proofs.Broker.RegistrationHistory
Purpose: What a history of registrations and removals makes of the mapping of a broker.
Main exports: Registration.Step, Registration.standing, Registration.conflicts,
  Registration.Request, Registration.Request.answer, Registration.carryOutAll,
  Registration.mapping_follows_history
-/
import Mathlib.Data.List.Induction
import ServiceLifecycle.Proofs.Broker.Registration

namespace ServiceLifecycle

/-!
The mapping of a broker of services can be read off the registrations and removals that there have
been.  A registration stands when its name has not been registered before, since the last removal
of it, and is not removed afterwards.  The mapping holds the registrations that stand, in the order
in which they were made.

The broker does not look at its past: it appends to the mapping, and filters it.  The two agree
because a further removal takes its name from those that stand, and a further registration adds to
them at the end or not at all.
-/

namespace Registration

/-- A change of the mapping that a host asks for. -/
inductive Step where
  | register (name implementation : String)
  | unregister (name : String)
deriving Repr, Inhabited, DecidableEq

/-- The step that makes an entry of the mapping. -/
def Step.ofEntry (entry : String × String) : Step :=
  .register entry.1 entry.2

/-- The step registers a name. -/
def Step.registers (name : String) : Step → Bool
  | register other _ => other = name
  | unregister _ => false

/-- A name has been registered since its last removal.  The steps come newest first. -/
def isHeld (name : String) (past : List Step) : Bool :=
  (past.takeWhile fun step => step ≠ .unregister name).any (Step.registers name)

/-- The registrations of some steps that stand, each with its implementation, after a past that
comes newest first: the first ones since the last removal of their name that no removal follows. -/
def standing (past : List Step) : List Step → Entries String
  | [] => []
  | .unregister name :: later => standing (.unregister name :: past) later
  | .register name implementation :: later =>
      if isHeld name past = true ∨ .unregister name ∈ later then
        standing (.register name implementation :: past) later
      else
        (name, implementation) :: standing (.register name implementation :: past) later

section Standing

variable {name other implementation : String} {past steps : List Step}

@[simp] theorem isHeld_nil (name : String) : isHeld name [] = false := rfl

@[simp] theorem isHeld_register :
    isHeld name (.register other implementation :: past) =
      (decide (other = name) || isHeld name past) := by
  simp [isHeld, Step.registers]

@[simp] theorem isHeld_unregister :
    isHeld name (.unregister other :: past) = (!decide (other = name) && isHeld name past) := by
  by_cases same : other = name <;> simp [isHeld, Step.registers, same]

/-- A further removal takes away what stands under its name. -/
theorem standing_unregister (past steps : List Step) (name : String) :
    standing past (steps ++ [.unregister name]) = (standing past steps).erase name := by
  induction steps generalizing past with
  | nil => rfl
  | cons step later inductionHypothesis =>
      cases step with
      | unregister other => exact inductionHypothesis _
      | register other implementation =>
          simp only [List.cons_append, standing, inductionHypothesis, List.mem_append,
            List.mem_singleton, Step.unregister.injEq]
          by_cases same : other = name
          · subst same
            split <;> split <;> simp_all [Entries.erase_cons_self]
          · split <;> split <;> simp_all [Entries.erase_cons_of_ne]

/-- A further registration stands, unless the name is held already. -/
theorem standing_register (past steps : List Step) (name implementation : String) :
    standing past (steps ++ [.register name implementation]) =
      standing past steps ++
        if isHeld name (steps.reverse ++ past) = true then [] else [(name, implementation)] := by
  induction steps generalizing past with
  | nil => cases held : isHeld name past <;> simp [standing, held]
  | cons step later inductionHypothesis =>
      cases step with
      | unregister other => simp [standing, inductionHypothesis]
      | register other given =>
          simp only [List.cons_append, standing, inductionHypothesis, List.mem_append,
            List.mem_singleton, reduceCtorEq, or_false, List.reverse_cons, List.append_assoc]
          split <;> rfl

/-- A name is held when a registration of it stands. -/
theorem contains_standing (steps : List Step) (name : String) :
    (standing [] steps).contains name = isHeld name steps.reverse := by
  induction steps using List.reverseRecOn with
  | nil => rfl
  | append_singleton steps step inductionHypothesis =>
      rw [Entries.contains] at inductionHypothesis ⊢
      rw [List.reverse_append, List.reverse_singleton, List.singleton_append]
      cases step with
      | unregister other =>
          rw [standing_unregister, Entries.get?_erase, isHeld_unregister, ← inductionHypothesis]
          by_cases same : name = other <;> simp [same, eq_comm]
      | register other implementation =>
          rw [standing_register, Entries.get?_append, isHeld_register, ← inductionHypothesis,
            List.append_nil]
          by_cases same : other = name
          · subst same
            cases held : isHeld other steps.reverse <;>
              simp [held, Entries.get?_cons, inductionHypothesis]
          · cases held : isHeld other steps.reverse <;> simp [Entries.get?_cons, same]

theorem standing_register_fresh {steps : List Step} {name : String}
    (fresh : (standing [] steps).get? name = none) (implementation : String) :
    standing [] (steps ++ [.register name implementation]) =
      standing [] steps ++ [(name, implementation)] := by
  have free : isHeld name steps.reverse = false := by
    rw [← contains_standing, Entries.contains, fresh]
    rfl
  rw [standing_register, List.append_nil, free]
  rfl

theorem standing_register_held {steps : List Step} {name present : String}
    (found : (standing [] steps).get? name = some present) (implementation : String) :
    standing [] (steps ++ [.register name implementation]) = standing [] steps := by
  have held : isHeld name steps.reverse = true := by
    rw [← contains_standing, Entries.contains, found]
    rfl
  rw [standing_register, List.append_nil, if_pos held, List.append_nil]

/-- A registration stands where it is the first since the last removal, and the last removal too. -/
theorem mem_standing_iff :
    (name, implementation) ∈ standing past steps ↔
      ∃ before after, steps = before ++ .register name implementation :: after ∧
        isHeld name (before.reverse ++ past) = false ∧ .unregister name ∉ after := by
  induction steps generalizing past with
  | nil => simp [standing]
  | cons step later inductionHypothesis =>
      -- A step in front does not matter for the registrations behind it but as part of their past.
      have behind : (∃ before after,
          step :: later = (step :: before) ++ .register name implementation :: after ∧
            isHeld name ((step :: before).reverse ++ past) = false ∧
            .unregister name ∉ after) ↔ (name, implementation) ∈ standing (step :: past) later := by
        simp [inductionHypothesis]
      constructor
      · intro member
        have split : (name, implementation) ∈ standing (step :: past) later ∨
            step = .register name implementation ∧ isHeld name past = false ∧
              .unregister name ∉ later := by
          cases step with
          | unregister other => exact .inl member
          | register other given =>
              rw [standing] at member
              split at member
              · exact .inl member
              · rename_i free
                rcases List.mem_cons.mp member with same | more
                · cases same
                  exact .inr ⟨rfl, by simpa using free⟩
                · exact .inl more
        rcases split with more | ⟨rfl, free, lasting⟩
        · obtain ⟨before, after, found⟩ := behind.mpr more
          exact ⟨step :: before, after, found⟩
        · exact ⟨[], later, rfl, free, lasting⟩
      · rintro ⟨before, after, split, free, lasting⟩
        cases before with
        | nil =>
            cases split
            have stands : ¬ (isHeld name past = true ∨ .unregister name ∈ later) := by
              simpa using And.intro free lasting
            rw [standing, if_neg stands]
            exact List.mem_cons_self
        | cons first before =>
            cases split
            have more := behind.mp ⟨before, after, rfl, free, lasting⟩
            cases step with
            | unregister other => exact more
            | register other given =>
                rw [standing]
                split
                · exact more
                · exact List.mem_cons_of_mem _ more

/-- Registrations of distinct names all stand. -/
theorem standing_ofEntry {entries : Entries String} (distinct : entries.keys.Nodup) :
    standing [] (entries.map Step.ofEntry) = entries := by
  induction entries using List.reverseRecOn with
  | nil => rfl
  | append_singleton entries entry inductionHypothesis =>
      obtain ⟨name, implementation⟩ := entry
      rw [Entries.keys, List.map_append] at distinct
      obtain ⟨front, -, apart⟩ := List.nodup_append.mp distinct
      have kept : standing [] (entries.map Step.ofEntry) = entries := inductionHypothesis front
      have fresh : (standing [] (entries.map Step.ofEntry)).get? name = none := by
        rw [kept, Entries.get?_eq_none_iff]
        intro member
        exact apart name member name List.mem_cons_self rfl
      rw [List.map_append, List.map_singleton]
      exact (standing_register_fresh fresh implementation).trans (by rw [kept])

end Standing

section Run

variable {s : Store} {steps : List Step}

/-- Change the mapping. -/
def Step.carryOut (s : Store) : Step → Store
  | register name implementation => (s.register name implementation).2
  | unregister name => (s.unregister name).2

/-- What is reported of a step when the mapping is as given: a registration that asks for another
implementation than its name has, and nothing else. -/
def Step.conflict? (mapping : Entries String) : Step → Option String
  | register name implementation => ServiceLifecycle.conflict? mapping (name, implementation)
  | unregister _ => none

/-- What is reported of steps after a past that comes oldest first, in order. -/
def conflicts (past : List Step) : List Step → List String
  | [] => []
  | step :: later => (step.conflict? (standing [] past)).toList ++ conflicts (past ++ [step]) later

theorem mapping_carryOut {past : List Step} (follows : s.mapping.entries = standing [] past)
    (step : Step) : (step.carryOut s).mapping.entries = standing [] (past ++ [step]) := by
  cases step with
  | unregister name =>
      rw [standing_unregister, ← follows]
      rfl
  | register name implementation =>
      rw [Step.carryOut, Store.register_eq]
      cases found : s.mapping.get? name with
      | none =>
          have fresh : Entries.get? name (standing [] past) = none := follows ▸ found
          rw [standing_register_fresh fresh, ← follows]
          exact Mapping.entries_put found implementation
      | some present =>
          have held : Entries.get? name (standing [] past) = some present := follows ▸ found
          rw [standing_register_held held, ← follows]
          by_cases same : present = implementation
          · simp [same]
          · simp [same, Store.notice, Store.report, Store.note]

theorem channel_carryOut (s : Store) (step : Step) :
    (step.carryOut s).channel =
      (step.conflict? s.mapping.entries).toList.foldl Channel.notice s.channel := by
  cases step with
  | unregister name => rfl
  | register name implementation =>
      rw [Step.carryOut, Store.register_eq, Step.conflict?, ServiceLifecycle.conflict?,
        show Entries.get? name s.mapping.entries = s.mapping.get? name from rfl]
      cases s.mapping.get? name with
      | none => rfl
      | some present =>
          by_cases same : present = implementation
          · simp [same]
          · simp only [same, if_false]
            rfl

/-- What a run of steps makes of the mapping, and what it reports. -/
theorem carryOut_steps {past : List Step} (follows : s.mapping.entries = standing [] past)
    (steps : List Step) :
    (steps.foldl Step.carryOut s).mapping.entries = standing [] (past ++ steps) ∧
    (steps.foldl Step.carryOut s).channel =
      (conflicts past steps).foldl Channel.notice s.channel := by
  induction steps generalizing s past with
  | nil => exact ⟨by rw [List.append_nil]; exact follows, rfl⟩
  | cons step later inductionHypothesis =>
      obtain ⟨mapping, channel⟩ := inductionHypothesis (mapping_carryOut follows step)
      rw [List.foldl_cons]
      refine ⟨?_, ?_⟩
      · rw [mapping, List.append_assoc, List.singleton_append]
      · rw [channel, channel_carryOut, conflicts, List.foldl_append, follows]

end Run

/-- What a host asks of the mapping. -/
inductive Request where
  | register (name implementation : String)
  | registerAll (pairs : List (String × String))
  | unregister (name : String)
deriving Repr, Inhabited, DecidableEq

/-- What a host is answered. -/
inductive Answer where
  | flag (value : Bool)
  | count (number : Nat)
deriving Repr, Inhabited, DecidableEq

namespace Request

/-- The steps that are asked for, in order. -/
def steps : Request → List Step
  | register name implementation => [.register name implementation]
  | registerAll pairs => pairs.map Step.ofEntry
  | unregister name => [.unregister name]

/-- Do what is asked. -/
def carryOut (s : Store) : Request → Answer × Store
  | register name implementation =>
      let (mapped, t) := s.register name implementation
      (.flag mapped, t)
  | registerAll pairs =>
      let (mapped, t) := s.registerAll pairs
      (.count mapped, t)
  | unregister name =>
      let (removed, t) := s.unregister name
      (.flag removed, t)

/-- What is to be answered when the mapping is one before and another one afterwards: whether the
name is mapped as asked afterwards, how many of the pairs are, or whether the name was registered
before. -/
def answer (before after : Entries String) : Request → Answer
  | register name implementation => .flag (after.get? name = some implementation)
  | registerAll pairs => .count (pairs.countP fun pair => after.get? pair.1 = some pair.2)
  | unregister name => .flag (before.contains name)

theorem carryOut_steps (s : Store) (request : Request) :
    (request.carryOut s).2 = request.steps.foldl Step.carryOut s := by
  cases request with
  | register name implementation => rfl
  | unregister name => rfl
  | registerAll pairs =>
      show (s.registerAll pairs).2 = (pairs.map Step.ofEntry).foldl Step.carryOut s
      induction pairs generalizing s with
      | nil => rfl
      | cons pair rest inductionHypothesis => exact inductionHypothesis _

end Request

section Answers

variable {s : Store} {name implementation : String}

theorem register_answers (s : Store) (name implementation : String) :
    (s.register name implementation).1 =
      decide ((s.register name implementation).2.mapping.get? name = some implementation) := by
  rw [Store.register_eq, Store.register]
  cases found : s.mapping.get? name with
  | none => simp
  | some present =>
      by_cases same : present = implementation
      · simp [same, found]
      · simp [same, found, Store.notice, Store.report, Store.note]

/-- What a name is mapped to does not change while further pairs are registered. -/
theorem get?_registerAll {present : String} (found : s.mapping.get? name = some present)
    (pairs : List (String × String)) :
    (s.registerAll pairs).2.mapping.get? name = some present := by
  obtain ⟨mapping, channel, journal, ⟨more, longer⟩, same⟩ := s.registerAll_only pairs
  rw [same]
  show Entries.get? name mapping.entries = some present
  have before : Entries.get? name s.mapping.entries = some present := found
  rw [← longer, Entries.get?_append, before, Option.some_or]

theorem get?_register (s : Store) (name implementation : String) :
    ∃ present, (s.register name implementation).2.mapping.get? name = some present := by
  rw [Store.register_eq]
  cases found : s.mapping.get? name with
  | none => exact ⟨implementation, by simp⟩
  | some present =>
      refine ⟨present, ?_⟩
      by_cases same : present = implementation
      · simp [same, found]
      · simp [same, found, Store.notice, Store.report, Store.note]

/-- The pairs that are mapped as asked when each is registered are those that are in the end. -/
theorem registerAll_answers (s : Store) (pairs : List (String × String)) :
    (s.registerAll pairs).1 =
      pairs.countP fun pair => (s.registerAll pairs).2.mapping.get? pair.1 = some pair.2 := by
  induction pairs generalizing s with
  | nil => rfl
  | cons pair rest inductionHypothesis =>
      obtain ⟨name, implementation⟩ := pair
      have first : (s.registerAll ((name, implementation) :: rest)).1 =
          (if (s.register name implementation).1 then 1 else 0) +
            ((s.register name implementation).2.registerAll rest).1 := rfl
      have whole : (s.registerAll ((name, implementation) :: rest)).2 =
          ((s.register name implementation).2.registerAll rest).2 := rfl
      obtain ⟨present, found⟩ := get?_register s name implementation
      rw [first, whole, inductionHypothesis, List.countP_cons, register_answers, found,
        get?_registerAll found, Nat.add_comm]

end Answers

/-- Do what is asked, in order, and collect the answers. -/
def carryOutAll (s : Store) : List Request → List Answer × Store
  | [] => ([], s)
  | request :: rest =>
      let (answer, t) := request.carryOut s
      let (answers, u) := carryOutAll t rest
      (answer :: answers, u)

/-- What requests are to be answered after a past that comes oldest first: each with regard to the
mapping that the steps up to it and those up to its end come to. -/
def answers (past : List Step) : List Request → List Answer
  | [] => []
  | request :: later =>
      request.answer (standing [] past) (standing [] (past ++ request.steps)) ::
        answers (past ++ request.steps) later

section History

variable {s : Store} {past : List Step}

theorem Request.carryOut_answer (s : Store) (request : Request) :
    (request.carryOut s).1 =
      request.answer s.mapping.entries (request.carryOut s).2.mapping.entries := by
  cases request with
  | register name implementation =>
      exact congrArg Answer.flag (register_answers s name implementation)
  | registerAll pairs => exact congrArg Answer.count (registerAll_answers s pairs)
  | unregister name => rfl

theorem conflicts_append (past steps more : List Step) :
    conflicts past (steps ++ more) = conflicts past steps ++ conflicts (past ++ steps) more := by
  induction steps generalizing past with
  | nil => rw [List.append_nil]; rfl
  | cons step later inductionHypothesis =>
      rw [List.cons_append, conflicts, conflicts, inductionHypothesis, List.append_assoc,
        List.append_assoc, List.singleton_append]

/-- What requests come to when the mapping holds the registrations of the past that stand. -/
theorem carryOutAll_follows (follows : s.mapping.entries = standing [] past)
    (requests : List Request) :
    (carryOutAll s requests).1 = answers past requests ∧
    (carryOutAll s requests).2.mapping.entries =
        standing [] (past ++ requests.flatMap Request.steps) ∧
    (carryOutAll s requests).2.channel =
      (conflicts past (requests.flatMap Request.steps)).foldl Channel.notice s.channel := by
  induction requests generalizing s past with
  | nil => exact ⟨rfl, by rw [List.flatMap_nil, List.append_nil]; exact follows, rfl⟩
  | cons request later inductionHypothesis =>
      obtain ⟨mapping, channel⟩ := carryOut_steps follows request.steps
      rw [← Request.carryOut_steps] at mapping channel
      obtain ⟨answered, mappedLater, reported⟩ := inductionHypothesis mapping
      refine ⟨?_, ?_, ?_⟩
      · have first : (request.carryOut s).1 =
            request.answer (standing [] past) (standing [] (past ++ request.steps)) := by
          rw [request.carryOut_answer, mapping, follows]
        show (request.carryOut s).1 :: (carryOutAll (request.carryOut s).2 later).1 = _
        rw [first, answered, answers]
      · show (carryOutAll (request.carryOut s).2 later).2.mapping.entries = _
        rw [mappedLater, List.flatMap_cons, List.append_assoc]
      · show (carryOutAll (request.carryOut s).2 later).2.channel = _
        rw [reported, channel, List.flatMap_cons, conflicts_append, List.foldl_append]

end History

/-- Let a host register and unregister services, one by one and in lists, with a broker whose
mapping has some entries at first, and let these count as the oldest registrations.

Then the mapping has each name at most once.  Its entries are the registrations that stand, in the
order in which they were made: the first registration of each name since the last removal of it,
unless it has been removed since.  A registration is answered by whether its name is mapped as
asked afterwards, and a list of them by how many of its pairs are mapped as asked in the end.  A
notice is recorded for each registration that asks for another implementation than its name has,
with both implementations, and for nothing else. -/
theorem mapping_follows_history (s : Store) (requests : List Request) :
    let past := s.mapping.entries.map Step.ofEntry
    let steps := requests.flatMap Request.steps
    let outcome := carryOutAll s requests
    outcome.2.mapping.entries = standing [] (past ++ steps) ∧
    outcome.2.mapping.keys.Nodup ∧
    (∀ name implementation, outcome.2.mapping.get? name = some implementation ↔
      ∃ before after, past ++ steps = before ++ .register name implementation :: after ∧
        isHeld name before.reverse = false ∧ .unregister name ∉ after) ∧
    outcome.1 = answers past requests ∧
    outcome.2.channel = (conflicts past steps).foldl Channel.notice s.channel := by
  intro past steps outcome
  have follows : s.mapping.entries = standing [] past :=
    (standing_ofEntry s.mapping.distinct).symm
  obtain ⟨answered, mapped, reported⟩ := carryOutAll_follows follows requests
  have apart : outcome.2.mapping.keys.Nodup := outcome.2.mapping.distinct
  refine ⟨mapped, apart, ?_, answered, reported⟩
  intro name implementation
  have member : outcome.2.mapping.get? name = some implementation ↔
      (name, implementation) ∈ standing [] (past ++ steps) := by
    rw [← mapped]
    exact ⟨Entries.mem_of_get?, Entries.get?_of_mem apart⟩
  rw [member, mem_standing_iff]
  simp only [List.append_nil]

/-- A broker with one service. -/
def oneService : Store :=
  { registry := { capability := .service }, mapping := { entries := [("clock", "Old")] } }

/-- A conflict, a list that names one service twice, and a service that is removed and comes back
last. -/
def reshuffle : List Request :=
  [.register "clock" "New", .registerAll [("timer", "T"), ("timer", "U"), ("clock", "Old")],
    .unregister "clock", .register "clock" "New"]

theorem mapping_follows_history_reshuffle :
    let outcome := carryOutAll oneService reshuffle
    outcome.2.mapping.entries = [("timer", "T"), ("clock", "New")] ∧
    outcome.1 = [.flag false, .count 2, .flag true, .flag true] ∧
    outcome.2.channel = [conflictNotice "clock" "Old" "New", conflictNotice "timer" "T" "U"].foldl
      Channel.notice oneService.channel := by
  obtain ⟨mapped, -, -, answered, reported⟩ := mapping_follows_history oneService reshuffle
  refine ⟨mapped.trans ?_, answered.trans ?_, reported.trans ?_⟩
  · decide
  · decide
  · rfl

end Registration

end ServiceLifecycle
