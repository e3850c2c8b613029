/-
Module: ServiceLifecycle.Proofs.Broker.Replay
Purpose: What is reported about a key after its late phase has failed.
Main exports: Move.record_cases, Moves.record, BrokerFault.Repeats, replay_exact
-/
import ServiceLifecycle.Proofs.Broker.Poison
import ServiceLifecycle.Proofs.Fault.Chain

namespace ServiceLifecycle

/-!
When a late phase fails, the broker answers with a fault and keeps a text.  What later callers
are told is made from the text: a fault about the key, with the text as the component's own
words.

The text is the line for what the phase reported.  As long as that was a failure of the
component, it is what stands behind the key in the first answer, and the answers agree.  A
nested fault, however, was answered unchanged, and the text is already the whole line for it.
Later callers find the key in front of that line.
-/

open Broker

section Record

variable {before after : Moment} {key : String}

/-- The end of a phase keeps the record of a key, or drops it, or a late phase of the key has
failed. -/
theorem Store.record_closePhase (s : Store) (about : String) (id : Nat) (phase : Phase)
    (result : Except PhaseFault Unit) (key : String) :
    (s.closePhase about id phase result).poisoned.get? key = s.poisoned.get? key ∨
      (s.closePhase about id phase result).poisoned.get? key = none ∨
      about = key ∧ phase = .late ∧ result.isOk = false := by
  cases phase with
  | shutdown => exact .inl rfl
  | early =>
      cases result with
      | error fault => exact .inl rfl
      | ok _ =>
          have erased := Entries.get?_erase about key s.poisoned
          by_cases same : key = about
          · exact .inr (.inl (erased.trans (if_pos same)))
          · exact .inl (erased.trans (if_neg same))
  | late =>
      cases result with
      | ok _ => exact .inl rfl
      | error fault =>
          by_cases same : about = key
          · exact .inr (.inr ⟨same, rfl, rfl⟩)
          · have put := Entries.get?_put about key (Fault.phase fault).chain s.poisoned
            exact .inl (put.trans (if_neg (Ne.symm same)))

theorem Store.record_evict (s : Store) (name : String) (mapping : Mapping) (key : String) :
    ({ s with mapping }.evict name).poisoned.get? key = s.poisoned.get? key ∨
      ({ s with mapping }.evict name).poisoned.get? key = none := by
  have erased := Entries.get?_erase name key s.poisoned
  by_cases same : key = name
  · exact .inr (erased.trans (if_pos same))
  · exact .inl (erased.trans (if_neg same))

/-- A step keeps the record of a key, or drops it, or it ends a late phase of the key that has
failed. -/
theorem Move.record_cases (move : Move before after) (key : String) :
    after.store.poisoned.get? key = before.store.poisoned.get? key ∨
      after.store.poisoned.get? key = none ∨
      ∃ id, after.store.journal = .ended key id .late false :: before.store.journal := by
  cases move with
  | quiet change => exact .inl (congrArg (Entries.get? key) change.poisoned)
  | build absent assigned found => exact .inl rfl
  | enter present admits => exact .inl (congrArg (Entries.get? key) (poisoned_openPhase _ _ _ _))
  | @leave frames s about id phase result honest =>
      rcases s.record_closePhase about id phase result key with same | gone | ⟨rfl, rfl, failed⟩
      · exact .inl same
      · exact .inr (.inl gone)
      · refine .inr (.inr ⟨id, ?_⟩)
        rw [journal_closePhase, failed]
  | @host s t change =>
      cases change using HostChange.byEffect with
      | unregister name => exact (s.record_evict name _ key).imp_right .inl
      | evict name component => exact (s.record_evict name s.mapping key).imp_right .inl
      | _ => exact .inl rfl

/-- A record is as old as the latest failure of a late phase of the key. -/
theorem Moves.record (moves : Moves before after) {events : List Event} {reason : String}
    (grown : after.store.journal = events ++ before.store.journal)
    (spared : ∀ id, .ended key id .late false ∉ events)
    (record : after.store.poisoned.get? key = some reason) :
    before.store.poisoned.get? key = some reason := by
  induction moves generalizing events with
  | refl => exact record
  | @tail middle final moves last inductionHypothesis =>
      obtain ⟨soon, soonEq⟩ := Moves.journal_suffix moves
      obtain ⟨late, lateEq⟩ := last.journal_suffix
      have split : events = late ++ soon := by
        have same : events ++ before.store.journal = late ++ soon ++ before.store.journal := by
          rw [List.append_assoc, soonEq, lateEq, grown]
        exact List.append_cancel_right same
      subst split
      have earlier : middle.store.poisoned.get? key = some reason := by
        rcases last.record_cases key with same | gone | ⟨id, ended⟩
        · exact same.symm.trans record
        · rw [gone] at record
          cases record
        · have one : late = [.ended key id .late false] :=
            List.append_cancel_right (lateEq.trans ended)
          exact absurd (List.mem_append_left soon (one ▸ List.mem_singleton_self _)) (spared id)
      refine inductionHypothesis soonEq.symm ?_ earlier
      exact fun id member => spared id (List.mem_append_right late member)

end Record

/-- The fault that later callers are told, made from the record. -/
def BrokerFault.replay (key reason : String) : BrokerFault :=
  .uninitialized key (.failed reason none)

/-- Callers are told of the same failure: it is about the same key, and it reads the same. -/
def BrokerFault.Repeats (replay first : BrokerFault) : Prop :=
  replay.key = first.key ∧ (Fault.broker replay).chain = (Fault.broker first).chain

theorem BrokerFault.chain_replay (key reason : String) :
    (Fault.broker (.replay key reason)).chain = key ++ " failed to initialize: " ++ reason := by
  rw [replay, Fault.chain_uninitialized, Fault.chain_of_root rfl]
  rfl

/-- A fault of the component itself is repeated by what is made from its record. -/
theorem BrokerFault.replay_repeats_own (key message : String) (cause : Option Fault) :
    (BrokerFault.replay key (Fault.phase (.failed message cause)).chain).Repeats
      (.uninitialized key (.failed message cause)) := by
  refine ⟨rfl, ?_⟩
  rw [chain_replay, Fault.chain_uninitialized]

/-- A nested fault gets the key in front. -/
theorem BrokerFault.chain_replay_nested (key : String) (inner : BrokerFault) :
    (Fault.broker (.replay key (Fault.phase (.nested inner)).chain)).chain =
      key ++ " failed to initialize: " ++ (Fault.broker inner).chain := by
  rw [chain_replay, Fault.chain_nested]

theorem BrokerFault.not_replay_repeats_nested (key : String) (inner : BrokerFault) :
    ¬ (BrokerFault.replay key (Fault.phase (.nested inner)).chain).Repeats inner := by
  rintro ⟨-, same⟩
  rw [chain_replay_nested] at same
  have lengths := congrArg String.length same
  simp only [String.length_append] at lengths
  have words : " failed to initialize: ".length = 23 := rfl
  omega

/-- A phase passes a broker's fault on only if it has reported it. -/
theorem Broker.verdict_nested_iff {s : Store} {key : String} {id : Nat} {phase : Phase}
    {raw : Except PhaseFault Unit} {inner : BrokerFault} :
    verdict s key id phase raw = .error (.nested inner) ↔ raw = .error (.nested inner) := by
  cases raw with
  | error fault => exact Iff.rfl
  | ok _ => cases ready : s.isReady id <;> simp [verdict, ready, unmarkedFault]

/-- A late call that ends with a fault after its phase has left the line for what it made of the
phase in the record. -/
theorem Broker.lateFrom_records {run : PhaseRunner} {construct : Work (Except BrokerFault Nat)}
    {key : String} {s t u v : Store} {id : Nat} {raw : Except PhaseFault Unit}
    {first : BrokerFault} (construction : construct s = .finished (.ok id, u))
    (admits : u.Admits key id .late)
    (phase : run id .late {} (u.openPhase key id .late) = .finished (raw, v))
    (failed : lateFrom run construct key s = .finished (.error first, t)) :
    ∃ fault, verdict v key id .late raw = .error fault ∧ first = fault.about key ∧
      t.poisoned.get? key = some (Fault.phase fault).chain := by
  rw [lateFrom_admitted construction admits, phase, Outcome.andThen_finished] at failed
  cases judged : verdict v key id .late raw with
  | ok _ =>
      rw [judged] at failed
      cases failed
  | error fault =>
      rw [judged] at failed
      cases failed
      exact ⟨fault, rfl, rfl, (Entries.get?_put key key _ v.poisoned).trans (if_pos rfl)⟩

/-- When a late phase has failed, everyone who asks for the key from then on is told the same, at
whatever later moment and by whichever kind of call for a ready instance: as long as the key is
poisoned and no other late phase of it has failed, and unless the instance is initialized, the
call answers with one and the same fault about the key and runs nothing.

It is the failure that the first caller was told of, with the same key and the same line of
messages, exactly if the phase did not pass on the fault of a nested call.  If it did, then the
first caller was told that fault unchanged, and the later ones find the key and its failure to
initialize in front of the line. -/
theorem replay_exact {construct : Work (Except BrokerFault Nat)} {key : String}
    {frames : List Frame} {s t u v : Store} {id depth : Nat} {raw : Except PhaseFault Unit}
    {first : BrokerFault} (underway : Underway (.late construct key) frames s)
    (construction : construct s = .finished (.ok id, u)) (admits : u.Admits key id .late)
    (phase : runPhase depth id .late {} (u.openPhase key id .late) = .finished (raw, v))
    (failed : lateFrom (runPhase depth) construct key s = .finished (.error first, t)) :
    ∃ replay : BrokerFault,
      (∀ later events, Moves ⟨frames, t⟩ later → later.store.journal = events ++ t.journal →
        (∀ other, .ended key other .late false ∉ events) →
        later.store.isPoisoned key = true → later.store.isInitialized key = false →
        ∀ again, Broker.ComesBy again key → ∀ depth,
          lateFrom (runPhase depth) again key later.store =
            .finished (.error replay, later.store)) ∧
      replay.key = key ∧
      (replay.Repeats first ↔ ∀ inner, raw ≠ .error (.nested inner)) ∧
      ∀ inner, raw = .error (.nested inner) → first = inner ∧
        (Fault.broker replay).chain =
          key ++ " failed to initialize: " ++ (Fault.broker first).chain := by
  obtain ⟨fault, judged, told, record⟩ := lateFrom_records construction admits phase failed
  have arises : Moment.Arises ⟨frames, t⟩ := by
    obtain ⟨arises, supplies⟩ := underway.arises
    have moves : Moves ⟨frames, s⟩ ⟨frames, t⟩ :=
      (lateFrom_finished.mp failed).moves (runPhase_faithful depth) supplies
    exact arises.trans moves
  refine ⟨.replay key (Fault.phase fault).chain, ?answers, rfl, ?same, ?nested⟩
  case answers =>
    intro later events moves grown spared poisoned uninitialized again comes depth
    obtain ⟨reason, now⟩ := Option.isSome_iff_exists.mp poisoned
    have old : t.poisoned.get? key = some reason := Moves.record moves grown spared now
    obtain rfl : reason = (Fault.phase fault).chain := Option.some.inj (old.symm.trans record)
    obtain ⟨held, present⟩ := (arises.trans moves).poisonsHeld key poisoned
    have unready : later.store.isReady held = false :=
      (Store.isInitialized_of_cachedId? present).symm.trans uninitialized
    exact lateFrom_finished.mpr (.poisoned (comes.cached present) unready now)
  case same =>
    cases fault with
    | failed message cause =>
        refine ⟨fun _ inner nested => ?_, fun _ => ?_⟩
        · rw [verdict_nested_iff.mpr nested] at judged
          cases judged
        · rw [told]
          exact BrokerFault.replay_repeats_own key message cause
    | nested inner =>
        have nested : raw = .error (.nested inner) := verdict_nested_iff.mp judged
        refine ⟨fun repeated => ?_, fun other => absurd nested (other inner)⟩
        rw [told] at repeated
        exact absurd repeated (BrokerFault.not_replay_repeats_nested key inner)
  case nested =>
    intro inner nested
    rw [verdict_nested_iff.mpr nested] at judged
    cases judged
    rw [told]
    exact ⟨rfl, BrokerFault.chain_replay_nested key inner⟩

/-- The body of a component that needs another one to be ready and passes its failure on. -/
def Body.relying : Body :=
  .scripted { late := some (.straight [.resolve "B" .propagate]) }

/-- The body of a component that always fails. -/
def Body.down : Body :=
  .scripted { late := some (.straight [.fail "down" none]) }

/-- A broker of a component that fails and one that relies on it. -/
def Store.relying : Store :=
  { registry := { recipes := [("A", .build .relying), ("B", .build .down)] } }

/-- The one that relies on the other has been asked for once. -/
def Store.letDown : Store :=
  Store.relying.afterCall (.resolve "A")

/-- The fault of the component that fails. -/
def BrokerFault.down : BrokerFault :=
  .uninitialized "B" (.failed "down" none)

theorem chain_down : (Fault.broker .down).chain = "B failed to initialize: down" := by
  rw [BrokerFault.down, Fault.chain_uninitialized, Fault.chain_of_root rfl]
  rfl

/-- The first caller is told that the one component failed, and the second that the other did. -/
theorem letDown_misreported :
    resolve "A" Store.relying = .finished (.error .down, Store.letDown) ∧
    resolve "A" Store.letDown =
      .finished (.error (.replay "A" (Fault.phase (.nested .down)).chain), Store.letDown) ∧
    BrokerFault.down.key = "B" ∧
    (Fault.broker .down).chain = "B failed to initialize: down" ∧
    (BrokerFault.replay "A" (Fault.phase (.nested .down)).chain).key = "A" ∧
    (Fault.broker (.replay "A" (Fault.phase (.nested .down)).chain)).chain =
      "A failed to initialize: B failed to initialize: down" := by
  refine ⟨rfl, rfl, rfl, chain_down, rfl, ?_⟩
  rw [BrokerFault.chain_replay_nested, chain_down]
  rfl

/-- The failure of the other component is passed on, so it is not what the later callers are
told. -/
theorem replay_exact_letDown :
    ∃ replay, (∀ depth, resolveBy (runPhase depth) "A" Store.letDown =
        .finished (.error replay, Store.letDown)) ∧
      replay.key = "A" ∧ ¬ replay.Repeats .down := by
  have fresh : Underway .idle [] Store.relying := .fresh ⟨rfl, rfl, rfl, rfl, rfl, rfl⟩
  have asked : Underway (.late (instanceFor "A") "A") [] Store.relying :=
    @Underway.asked _ _ (.resolve "A") _ fresh trivial rfl
  have construction : instanceFor "A" Store.relying =
      .finished (.ok 0, Store.relying.construct "A" "A" none .relying) := rfl
  have phase : runPhase 2 0 .late {}
      ((Store.relying.construct "A" "A" none .relying).openPhase "A" 0 .late) =
        .finished (.error (.nested .down), _) := rfl
  have failed : lateFrom (runPhase 2) (instanceFor "A") "A" Store.relying =
      .finished (.error .down, Store.letDown) := rfl
  obtain ⟨replay, answers, about, same, -⟩ :=
    replay_exact asked construction ⟨rfl, rfl, List.not_mem_nil⟩ phase failed
  refine ⟨replay, ?_, about, fun repeated => same.mp repeated .down rfl⟩
  exact answers ⟨[], Store.letDown⟩ [] .refl rfl (fun _ => List.not_mem_nil) rfl rfl
    (instanceFor "A") (.inl rfl)

end ServiceLifecycle
