/-
Module: ServiceLifecycle.Proofs.Computation
Purpose: Running computations over a store by rewriting, and what the store's own
  operations change.
Main exports: Outcome.success?, Work.bind_apply, Work.bind_finished, Store.instance?_update,
  Store.isReady_update_of_ne
-/
import ServiceLifecycle.Broker.Services

namespace ServiceLifecycle

/-!
A computation is a function of the store, so that it can be run by rewriting: each
part of a block is applied to the store that the parts before it leave.  A finished
block is one whose parts are all finished.
-/

namespace Outcome

variable {α β : Type}

@[simp] theorem andThen_finished (a : α) (next : α → Outcome β) :
    (finished a).andThen next = next a := rfl

@[simp] theorem andThen_stopped (next : α → Outcome β) :
    (stopped : Outcome α).andThen next = stopped := rfl

theorem andThen_eq_finished {outcome : Outcome α} {next : α → Outcome β} {b : β} :
    outcome.andThen next = finished b ↔ ∃ a, outcome = finished a ∧ next a = finished b := by
  cases outcome <;> simp [andThen]

/-- What a computation comes to if it finishes. -/
def result? : Outcome α → Option α
  | finished a => some a
  | _ => none

theorem result?_eq_some {outcome : Outcome α} {a : α} :
    outcome.result? = some a ↔ outcome = finished a := by
  cases outcome <;> simp [result?]

/-- The store that a computation leaves if it succeeds. -/
def success? {ε : Type} : Outcome (Except ε α × Store) → Option Store
  | finished (.ok _, s) => some s
  | _ => none

theorem success?_eq_some {ε : Type} {outcome : Outcome (Except ε α × Store)} {s : Store} :
    outcome.success? = some s ↔ ∃ a, outcome = finished (.ok a, s) := by
  constructor
  · intro found
    cases outcome with
    | finished done =>
        obtain ⟨result, t⟩ := done
        cases result with
        | ok a =>
            cases found
            exact ⟨a, rfl⟩
        | error fault => cases found
    | _ => cases found
  · rintro ⟨a, rfl⟩
    rfl

end Outcome

namespace Work

variable {α β : Type}

@[simp] theorem bind_apply (work : Work α) (next : α → Work β) (s : Store) :
    (work >>= next) s = (work s).andThen fun result => next result.1 result.2 := rfl

@[simp] theorem map_apply (f : α → β) (work : Work α) (s : Store) :
    (f <$> work) s = (work s).andThen fun result => .finished (f result.1, result.2) := rfl

@[simp] theorem pure_apply (a : α) (s : Store) : (pure a : Work α) s = .finished (a, s) := rfl

@[simp] theorem get_apply (s : Store) : (get : Work Store) s = .finished (s, s) := rfl

@[simp] theorem set_apply (s t : Store) : (set t : Work PUnit) s = .finished (⟨⟩, t) := rfl

@[simp] theorem modify_apply (change : Store → Store) (s : Store) :
    (modify change : Work PUnit) s = .finished (⟨⟩, change s) := rfl

@[simp] theorem blocked_apply (key : String) (s : Store) :
    (Work.blocked key : Work α) s = .blocked key := rfl

@[simp] theorem stopped_apply (s : Store) : (Work.stopped : Work α) s = .stopped := rfl

/-- A block is finished when its first part is, and then the rest. -/
theorem bind_finished {work : Work α} {next : α → Work β} {s t : Store} {b : β} :
    (work >>= next) s = .finished (b, t) ↔
      ∃ a u, work s = .finished (a, u) ∧ next a u = .finished (b, t) := by
  rw [bind_apply, Outcome.andThen_eq_finished]
  constructor
  · rintro ⟨⟨a, u⟩, first, rest⟩
    exact ⟨a, u, first, rest⟩
  · rintro ⟨a, u, first, rest⟩
    exact ⟨(a, u), first, rest⟩

/-- A block that drops a result is finished when the part with the result is. -/
theorem finished_of_dropped {work : Work α} {s t : Store}
    (finished : (work >>= fun _ => pure ()) s = .finished ((), t)) :
    ∃ a, work s = .finished (a, t) := by
  obtain ⟨a, u, first, rest⟩ := bind_finished.mp finished
  cases rest
  exact ⟨a, first⟩

end Work

theorem Broker.carryOut_apply {α : Type} (operation : PhaseRunner → Work α) (s : Store) :
    carryOut operation s = operation (runPhase (depthAllowance s)) s := rfl

theorem Broker.depthAllowance_succ (s : Store) : ∃ depth, depthAllowance s = depth + 1 :=
  ⟨_, Nat.add_right_comm 65535 1 _⟩

namespace Store

theorem instance?_update (s : Store) (id other : Nat) (change : Component → Component) :
    (s.update id change).instance? other =
      if id = other then (s.instance? other).map change else s.instance? other := by
  simp only [update, instance?, List.getElem?_modify]
  split <;> simp

/-- A change that leaves something about each component alone. -/
theorem map_instance?_update {β : Type} (s : Store) (id : Nat) {change : Component → Component}
    {view : Component → β} (kept : ∀ component, view (change component) = view component)
    (other : Nat) :
    ((s.update id change).instance? other).map view = (s.instance? other).map view := by
  rw [instance?_update]
  split
  · rw [Option.map_map]
    exact congrArg (fun look => (s.instance? other).map look) (funext kept)
  · rfl

theorem isReady_update (s : Store) (id : Nat) {change : Component → Component}
    (status : ∀ component, (change component).initialized = component.initialized) (other : Nat) :
    (s.update id change).isReady other = s.isReady other := by
  rw [isReady, instance?_update, isReady]
  split
  · rw [Option.any_map]
    exact congrArg (fun test => (s.instance? other).any test) (funext status)
  · rfl

theorem isReady_update_of_ne {s : Store} {id other : Nat} (different : id ≠ other)
    (change : Component → Component) : (s.update id change).isReady other = s.isReady other := by
  rw [isReady, isReady, instance?_update, if_neg different]

theorem isReady_mark (s : Store) (id other : Nat) :
    (s.mark id).isReady other =
      if other = id then (s.instance? id).isSome else s.isReady other := by
  by_cases same : other = id
  · subst same
    have changed := instance?_update s other other fun component =>
      { component with initialized := true }
    rw [if_pos rfl] at changed
    rw [if_pos rfl, mark, isReady, note, instance?]
    rw [instance?] at changed
    rw [changed]
    cases s.instance? other <;> rfl
  · rw [if_neg same]
    exact isReady_update_of_ne (Ne.symm same) _

theorem isReady_unmark (s : Store) (id other : Nat) :
    (s.unmark id).isReady other = if other = id then false else s.isReady other := by
  by_cases same : other = id
  · subst same
    rw [if_pos rfl, unmark, isReady, instance?_update, if_pos rfl]
    cases s.instance? other <;> rfl
  · rw [if_neg same]
    exact isReady_update_of_ne (Ne.symm same) _

theorem isInitialized_of_cachedId? {s : Store} {key : String} {id : Nat}
    (present : s.cachedId? key = some id) : s.isInitialized key = s.isReady id := by
  rw [isInitialized, present, Option.any_some]

theorem isInitialized_iff {s : Store} {key : String} :
    s.isInitialized key = true ↔ ∃ id, s.cachedId? key = some id ∧ s.isReady id = true := by
  cases present : s.cachedId? key with
  | none => simp [isInitialized, present]
  | some id => simp [isInitialized, present]

/-- A change that leaves the status of an instance alone. -/
theorem isInitialized_update {s : Store} {id : Nat} {change : Component → Component}
    (status : ∀ component, (change component).initialized = component.initialized) (key : String) :
    (s.update id change).isInitialized key = s.isInitialized key := by
  have ready : (s.update id change).isReady = s.isReady :=
    funext fun other => isReady_update s id status other
  exact congrArg (fun test => (s.cachedId? key).any test) ready

/-- When the instance of a key marks itself, this key becomes initialized and no other. -/
theorem isInitialized_mark {s : Store} {key : String} {id : Nat}
    (present : s.cachedId? key = some id) (held : (s.instance? id).isSome = true)
    (own : ∀ other, s.cachedId? other = some id → other = key) (other : String) :
    (s.mark id).isInitialized other = true ↔ other = key ∨ s.isInitialized other = true := by
  have same : (s.mark id).cachedId? other = s.cachedId? other := rfl
  cases found : s.cachedId? other with
  | none =>
      have different : other ≠ key := by
        rintro rfl
        rw [present] at found
        cases found
      simp [isInitialized, same, found, different]
  | some number =>
      rw [isInitialized_of_cachedId? (same.trans found), isInitialized_of_cachedId? found,
        isReady_mark]
      by_cases equal : number = id
      · subst equal
        simp [own other found, held]
      · have different : other ≠ key := by
          rintro rfl
          rw [present] at found
          exact equal (Option.some.inj found).symm
        simp [equal, different]

end Store

end ServiceLifecycle
