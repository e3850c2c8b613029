/-
Module: ServiceLifecycle.Proofs.Broker.Refusal
Purpose: Why no instance can be built for a key, and what is left of the attempt.
Main exports: BrokerFault.reason?, Store.Refuses, Store.refuses_iff, Need, Need.call, Repair,
  SameSince, refusal_forgotten
-/
import ServiceLifecycle.Proofs.Locality.Past

namespace ServiceLifecycle

/-!
There are four reasons for which no instance can be built for a key, in this order: the name is
not mapped; the registry has nothing for the implementation; it has only a fixed entry that is no
service where one is wanted; its recipe refuses.

Whoever asks for the instance of such a key is told the reason, and that is all.  The broker goes
on as if it had not been asked, so that the same question may have another answer as soon as the
host has repaired the registry or the mapping.
-/

open Broker

/-- Why a key could not be turned into a component, if that is what the fault is about. -/
def BrokerFault.reason? : BrokerFault → Option Reason
  | .unresolved _ reason _ _ => some reason
  | _ => none

@[simp] theorem BrokerFault.reason?_ofReason (key : String) (reason : Reason)
    (implementation capability : String) :
    (ofReason key reason implementation capability).reason? = some reason := rfl

@[simp] theorem BrokerFault.reason?_unknownService (name : String) :
    (unknownService name).reason? = some .unknownService := rfl

@[simp] theorem BrokerFault.reason?_ofConstruction (key implementation capability : String)
    (fault : ConstructionFault) :
    (ofConstruction key implementation capability fault).reason? = some fault.reason := rfl

@[simp] theorem ConstructionFault.reason_mismatch (capability : String) :
    (mismatch capability).reason = .typeMismatch := rfl

/-- No instance can be built for the key, and this is what is reported about it. -/
inductive Store.Refuses (s : Store) (key : String) : BrokerFault → Prop where
  /-- No implementation is mapped to the name of a service. -/
  | unmapped (services : s.registry.capability = .service) (missing : s.mapping.get? key = none) :
      s.Refuses key (.unknownService key)
  /-- The registry has neither a recipe nor a fixed entry for the implementation. -/
  | unavailable {implementation : String} {name : Option String}
      (assigned : s.assigned? key = some (implementation, name))
      (missing : s.registry.contains implementation = false) :
      s.Refuses key (.ofReason key .unavailable implementation s.registry.capability.name)
  /-- There is only a fixed entry, which is no service where one is wanted. -/
  | unfit {implementation : String} {name : Option String} {entry : StaticEntry}
      (assigned : s.assigned? key = some (implementation, name))
      (missing : s.registry.recipes.get? implementation = none)
      (fixed : s.registry.static? implementation = some entry)
      (services : s.registry.capability = .service) (lacking : entry.isService = false) :
      s.Refuses key
        (.ofConstruction key implementation s.registry.capability.name
          (.mismatch s.registry.capability.name))
  /-- The recipe refuses. -/
  | refused {implementation : String} {name : Option String} {fault : ConstructionFault}
      (assigned : s.assigned? key = some (implementation, name))
      (recipe : s.registry.recipes.get? implementation = some (.refuse fault)) :
      s.Refuses key
        (.ofConstruction key implementation s.registry.capability.name fault)

namespace Registry

variable {registry : Registry} {implementation : String}

theorem find_eq_nothing_iff :
    registry.find implementation = .nothing ↔ registry.contains implementation = false := by
  rw [contains_eq]
  cases registry.find implementation <;> simp [Finding.isSomething]

theorem find_eq_unfit_iff :
    registry.find implementation = .unfit ↔
      registry.recipes.get? implementation = none ∧ registry.capability = .service ∧
        ∃ entry, registry.static? implementation = some entry ∧ entry.isService = false := by
  rw [find]
  cases registry.recipes.get? implementation with
  | some recipe => simp
  | none =>
      cases registry.static? implementation with
      | none => simp
      | some entry => simp

theorem find_eq_recipe_iff {recipe : Recipe} :
    registry.find implementation = .recipe recipe ↔
      registry.recipes.get? implementation = some recipe := by
  rw [find]
  cases registry.recipes.get? implementation with
  | some recipe => simp
  | none =>
      cases registry.static? implementation with
      | none => simp
      | some entry =>
          simp only [reduceCtorEq, iff_false]
          split <;> simp

end Registry

section Refusals

variable {s t : Store} {key : String} {fault : BrokerFault}

theorem Store.assigned?_eq_none_iff : s.assigned? key = none ↔
    s.registry.capability = .service ∧ s.mapping.get? key = none := by
  rw [Store.assigned?]
  cases s.registry.capability <;> simp

/-- An attempt to build an instance that fails has one of the four reasons, and nothing but a
remark is left of it. -/
theorem Broker.instanceFor_refused (absent : s.cachedId? key = none)
    (fails : instanceFor key s = .finished (.error fault, t)) :
    s.Refuses key fault ∧ t.withoutPast = s.withoutPast := by
  obtain ⟨assigns, unknown⟩ := instanceFor_absent absent
  cases assigned : s.assigned? key with
  | none =>
      rw [unknown assigned] at fails
      cases fails
      obtain ⟨services, missing⟩ := Store.assigned?_eq_none_iff.mp assigned
      exact ⟨.unmapped services missing, rfl⟩
  | some pair =>
      obtain ⟨implementation, name⟩ := pair
      rw [assigns implementation name assigned, buildFor] at fails
      cases finding : s.registry.find implementation with
      | nothing =>
          rw [finding] at fails
          cases fails
          exact ⟨.unavailable assigned (Registry.find_eq_nothing_iff.mp finding), rfl⟩
      | unfit =>
          rw [finding] at fails
          cases fails
          obtain ⟨missing, services, entry, fixed, lacking⟩ :=
            Registry.find_eq_unfit_iff.mp finding
          exact ⟨.unfit assigned missing fixed services lacking, rfl⟩
      | entry body =>
          rw [finding] at fails
          cases fails
      | recipe recipe =>
          rw [finding] at fails
          cases recipe with
          | build body => cases fails
          | refuse refusal =>
              cases fails
              exact ⟨.refused assigned (Registry.find_eq_recipe_iff.mp finding), rfl⟩

/-- Whoever has one of the four reasons to fail does. -/
theorem Store.Refuses.instanceFor_fails (refuses : s.Refuses key fault)
    (absent : s.cachedId? key = none) : ∃ t, instanceFor key s = .finished (.error fault, t) := by
  obtain ⟨assigns, unknown⟩ := instanceFor_absent absent
  cases refuses with
  | unmapped services missing =>
      exact ⟨s, unknown (Store.assigned?_eq_none_iff.mpr ⟨services, missing⟩)⟩
  | unavailable assigned missing =>
      refine ⟨s, ?_⟩
      rw [assigns _ _ assigned, buildFor, Registry.find_eq_nothing_iff.mpr missing]
  | unfit assigned missing fixed services lacking =>
      refine ⟨s, ?_⟩
      rw [assigns _ _ assigned, buildFor,
        Registry.find_eq_unfit_iff.mpr ⟨missing, services, _, fixed, lacking⟩]
  | @refused implementation name refusal assigned recipe =>
      refine ⟨s.note (.refused implementation), ?_⟩
      rw [assigns _ _ assigned, buildFor, Registry.find_eq_recipe_iff.mpr recipe]

/-- No instance can be built exactly if there is one of the four reasons, and the fault tells
which. -/
theorem Broker.instanceFor_fails_iff (absent : s.cachedId? key = none) :
    (∃ t, instanceFor key s = .finished (.error fault, t)) ↔ s.Refuses key fault :=
  ⟨fun ⟨_, fails⟩ => (instanceFor_refused absent fails).1,
    fun refuses => refuses.instanceFor_fails absent⟩

/-- The reasons depend on the registry and the mapping only. -/
theorem Store.Refuses.congr (refuses : s.Refuses key fault) (registry : t.registry = s.registry)
    (mapping : t.mapping = s.mapping) : t.Refuses key fault := by
  have assigned : t.assigned? key = s.assigned? key := by
    rw [Store.assigned?, Store.assigned?, registry, mapping]
  cases refuses with
  | unmapped services missing =>
      exact .unmapped (registry ▸ services) (mapping ▸ missing)
  | unavailable given missing =>
      rw [← registry] at missing ⊢
      exact .unavailable (assigned.trans given) missing
  | unfit given missing fixed services lacking =>
      rw [← registry] at missing fixed services ⊢
      exact .unfit (assigned.trans given) missing fixed services lacking
  | refused given recipe =>
      rw [← registry] at recipe ⊢
      exact .refused (assigned.trans given) recipe

/-- A factory's fault never has a reason that the broker finds without a factory. -/
theorem ConstructionFault.reason_ne (fault : ConstructionFault) :
    fault.reason ≠ .unknownService ∧ fault.reason ≠ .unavailable := by
  cases fault <;> exact ⟨Reason.noConfusion, Reason.noConfusion⟩

theorem Store.Refuses.key_eq (refuses : s.Refuses key fault) : fault.key = key := by
  cases refuses <;> rfl

theorem Store.Refuses.unknownService_iff (refuses : s.Refuses key fault) :
    fault.reason? = some .unknownService ↔
      s.registry.capability = .service ∧ s.mapping.get? key = none := by
  rw [← Store.assigned?_eq_none_iff]
  cases refuses with
  | unmapped services missing =>
      exact iff_of_true rfl (Store.assigned?_eq_none_iff.mpr ⟨services, missing⟩)
  | unavailable assigned missing => simp [assigned]
  | unfit assigned missing fixed services lacking => simp [assigned]
  | @refused implementation name refusal assigned recipe =>
      simp [assigned, refusal.reason_ne]

theorem Store.Refuses.unavailable_iff (refuses : s.Refuses key fault) :
    fault.reason? = some .unavailable ↔
      ∃ implementation name, s.assigned? key = some (implementation, name) ∧
        s.registry.contains implementation = false := by
  cases refuses with
  | unmapped services missing =>
      simp [Store.assigned?_eq_none_iff.mpr ⟨services, missing⟩]
  | unavailable assigned missing => exact iff_of_true rfl ⟨_, _, assigned, missing⟩
  | unfit assigned missing fixed services lacking =>
      simp [assigned, Registry.contains, fixed]
  | @refused implementation name refusal assigned recipe =>
      simp [assigned, refusal.reason_ne, Registry.contains, Entries.contains, recipe]

end Refusals

/-- What a host may ask of the instance of a key: to be initialized early, or to be ready for use,
and perhaps of some type. -/
inductive Need where
  | early (data : StartupData)
  | ready
  | readyAs (wanted : Wanted)

/-- The call for it. -/
def Need.call (key : String) : Need → Work (Except BrokerFault Answer)
  | .early data => Except.map (fun _ => .done) <$> Broker.early key data
  | .ready => Except.map .instance <$> Broker.resolve key
  | .readyAs wanted => Except.map .instance <$> Broker.resolveAs key wanted

/-- What a host can do to have an instance of a key built after all, or no longer. -/
inductive Repair where
  /-- It registers a factory. -/
  | register (implementation : String) (recipe : Recipe)
  /-- It removes a factory, which may expose a fixed entry. -/
  | unregister (implementation : String)
  /-- It maps a name. -/
  | map (name implementation : String)
  /-- It removes a name. -/
  | unmap (name : String)

/-- Do the repair. -/
def Repair.make (s : Store) : Repair → Store
  | .register implementation recipe =>
      { s with registry := s.registry.register implementation recipe }
  | .unregister implementation => { s with registry := s.registry.unregister implementation }
  | .map name implementation => (s.register name implementation).2
  | .unmap name => (s.unregister name).2

theorem Repair.make_after (repair : Repair) (s : Store) (journal : List Event)
    (channel : Channel) :
    repair.make (s.after journal channel) = (repair.make s).after journal channel := by
  cases repair with
  | register implementation recipe => rfl
  | unregister implementation => rfl
  | unmap name => rfl
  | map name implementation =>
      have same : (s.after journal channel).mapping = s.mapping := rfl
      simp only [make, Store.register, same]
      cases s.mapping.get? name with
      | none => rfl
      | some present =>
          by_cases equal : present = implementation
          · simp only [equal, if_true]
          · simp only [equal, if_false]
            rfl

section Needs

variable {s t : Store} {key : String} {fault : BrokerFault}

theorem Need.call_oblivious (need : Need) (key : String) : Oblivious (need.call key) := by
  cases need with
  | early data =>
      exact (carryOut_oblivious fun depth =>
        earlyBy_oblivious (runPhase_oblivious depth) key data).map _
  | ready =>
      exact (carryOut_oblivious fun depth =>
        lateFrom_oblivious (runPhase_oblivious depth) key).map _
  | readyAs wanted =>
      exact (carryOut_oblivious fun depth =>
        resolveAsBy_oblivious (runPhase_oblivious depth) key wanted).map _

/-- Whatever has been noted or reported since, there is still no instance to be had. -/
theorem Store.Refuses.again (refuses : s.Refuses key fault) (absent : s.cachedId? key = none)
    (same : t.withoutPast = s.withoutPast) :
    t.Refuses key fault ∧ t.cachedId? key = none := by
  have registry : t.registry = s.registry :=
    (congrArg Store.registry same : t.withoutPast.registry = s.withoutPast.registry)
  have mapping : t.mapping = s.mapping :=
    (congrArg Store.mapping same : t.withoutPast.mapping = s.withoutPast.mapping)
  have cached : t.cached = s.cached :=
    (congrArg Store.cached same : t.withoutPast.cached = s.withoutPast.cached)
  exact ⟨refuses.congr registry mapping, (congrArg (Entries.get? key) cached).trans absent⟩

/-- Whatever is needed of the instance, the caller is told why there is none, and the broker goes
on as if it had not been asked. -/
theorem Need.call_refused (need : Need) (refuses : s.Refuses key fault)
    (absent : s.cachedId? key = none) :
    ∃ t, need.call key s = .finished (.error fault, t) ∧ t.withoutPast = s.withoutPast := by
  have ends : ∀ u : Store, u.withoutPast = s.withoutPast →
      ∃ t, instanceFor key u = .finished (.error fault, t) ∧ t.withoutPast = s.withoutPast := by
    intro u same
    obtain ⟨refuses, absent⟩ := refuses.again absent same
    obtain ⟨t, fails⟩ := refuses.instanceFor_fails absent
    exact ⟨t, fails, (instanceFor_refused absent fails).2.trans same⟩
  cases need with
  | early data =>
      have announced : (announce s key).withoutPast = s.withoutPast := by
        rw [announce]
        split <;> rfl
      obtain ⟨t, fails, same⟩ := ends _ announced
      refine ⟨t, ?_, same⟩
      rw [Need.call, Work.map_apply, Broker.early, carryOut_apply, earlyBy_apply,
        earlyFrom_finished.mpr (.unbuilt fails)]
      rfl
  | ready =>
      obtain ⟨t, fails, same⟩ := ends s rfl
      refine ⟨t, ?_, same⟩
      rw [Need.call, Work.map_apply, Broker.resolve, carryOut_apply, resolveBy,
        lateFrom_finished.mpr (.unbuilt fails)]
      rfl
  | readyAs wanted =>
      obtain ⟨t, fails, same⟩ := ends s rfl
      refine ⟨t, ?_, same⟩
      rw [Need.call, Work.map_apply, Broker.resolveAs, carryOut_apply, resolveAsBy,
        Work.bind_apply, resolveBy, lateFrom_finished.mpr (.unbuilt fails)]
      rfl

/-- However often it is tried, and with whatever needs. -/
theorem Need.calls_refused (attempts : List Need) (refuses : s.Refuses key fault)
    (absent : s.cachedId? key = none) :
    ∃ t, attempts.mapM (Need.call key) s = .finished (attempts.map fun _ => .error fault, t) ∧
      t.withoutPast = s.withoutPast := by
  induction attempts generalizing s with
  | nil => exact ⟨s, rfl, rfl⟩
  | cons need rest inductionHypothesis =>
      obtain ⟨u, first, same⟩ := need.call_refused refuses absent
      obtain ⟨stillRefuses, stillAbsent⟩ := refuses.again absent same
      obtain ⟨t, others, unchanged⟩ := inductionHypothesis stillRefuses stillAbsent
      refine ⟨t, ?_, unchanged.trans same⟩
      rw [List.mapM_cons, Work.bind_apply, first, Outcome.andThen_finished, Work.bind_apply, others]
      rfl

end Needs

/-- Since two brokers were in the first stores, the same has happened to both: they differ in
nothing but what had been noted and reported before. -/
def SameSince (s t u v : Store) : Prop :=
  ∃ w : Store, u = w.after s.journal s.channel ∧ v = w.after t.journal t.channel

/-- Brokers that differ only in their past end every call alike. -/
theorem Oblivious.alike {α : Type} {work : Work α} (oblivious : Oblivious work) {s t : Store}
    (same : t.withoutPast = s.withoutPast) :
    Alike (fun one two => two.1 = one.1 ∧ SameSince s t one.2 two.2) (work s) (work t) := by
  have first := oblivious s.withoutPast s.journal s.channel
  have second := oblivious s.withoutPast t.journal t.channel
  rw [← Store.eq_after_of_withoutPast same] at second
  rw [s.withoutPast_after] at first
  rw [first, second]
  cases work s.withoutPast with
  | finished done => exact .finished ⟨rfl, done.2, rfl, rfl⟩
  | blocked key => exact .blocked key
  | stopped => exact .stopped
  | exhausted => exact .exhausted

/-- Brokers that differ only in their past still do when both have been repaired. -/
theorem Repair.withoutPast_make (repairs : List Repair) {s t : Store}
    (same : t.withoutPast = s.withoutPast) :
    (repairs.foldl Repair.make t).withoutPast = (repairs.foldl Repair.make s).withoutPast := by
  induction repairs generalizing s t with
  | nil => exact same
  | cons repair rest inductionHypothesis =>
      refine inductionHypothesis ?_
      have fromNothing : ∀ u : Store, u.withoutPast = s.withoutPast →
          (repair.make u).withoutPast = (repair.make s.withoutPast).withoutPast := by
        intro u equal
        rw [Store.eq_after_of_withoutPast equal, repair.make_after]
        rfl
      exact (fromNothing t same).trans (fromNothing s rfl).symm

/-- A failure to build an instance is told by its reason, and forgotten.

Let a key have no instance, and let none be built for it.  Then one of the four reasons is there,
and no other, and the fault is the one for it.  It is about the key.  It says that the service is
unknown exactly if no implementation is mapped to its name, and that the implementation is
unavailable exactly if there is one but the registry has nothing for it, neither a recipe nor a
fixed entry; otherwise a fixed entry lacks the capability, or the recipe refuses, and the factory's
fault is the cause.

Any number of calls for the instance, of whatever kinds, fail with this fault, and leave the broker
as it was but for its journal and its channel: the instances with their statuses, the records of
failures, the mapping and the stack of keys are the same.  So when the host then makes any repairs,
each call for the instance ends as it does if the same repairs are made to the broker that has not
been called. -/
theorem refusal_forgotten {s u : Store} {key : String} {fault : BrokerFault}
    (absent : s.cachedId? key = none)
    (fails : instanceFor key s = .finished (.error fault, u)) :
    (∀ other, s.Refuses key other ↔ other = fault) ∧ fault.key = key ∧
      (fault.reason? = some .unknownService ↔
        s.registry.capability = .service ∧ s.mapping.get? key = none) ∧
      (fault.reason? = some .unavailable ↔
        ∃ implementation name, s.assigned? key = some (implementation, name) ∧
          s.registry.contains implementation = false) ∧
      ∀ attempts : List Need, ∃ t,
        attempts.mapM (Need.call key) s = .finished (attempts.map fun _ => .error fault, t) ∧
        t.withoutPast = s.withoutPast ∧
        ∀ (repairs : List Repair) (need : Need),
          Alike (fun one two => two.1 = one.1 ∧
              SameSince (repairs.foldl Repair.make s) (repairs.foldl Repair.make t) one.2 two.2)
            (need.call key (repairs.foldl Repair.make s))
            (need.call key (repairs.foldl Repair.make t)) := by
  have refuses : s.Refuses key fault := (instanceFor_refused absent fails).1
  refine ⟨fun other => ?_, refuses.key_eq, refuses.unknownService_iff, refuses.unavailable_iff,
    fun attempts => ?_⟩
  · rw [← instanceFor_fails_iff absent, fails]
    constructor
    · rintro ⟨_, same⟩
      cases same
      rfl
    · rintro rfl
      exact ⟨u, rfl⟩
  · obtain ⟨t, failed, same⟩ := Need.calls_refused attempts refuses absent
    refine ⟨t, failed, same, fun repairs need => ?_⟩
    exact (need.call_oblivious key).alike (Repair.withoutPast_make repairs same)

/-- A broker of services in which a name is mapped to a fixed entry that is no service. -/
def Store.misfit : Store :=
  { registry :=
      { capability := .service, statics := some [{ key := "acme.clock", isService := false }] }
    mapping := { entries := [("clock", "acme.clock")] } }

/-- Two calls fail alike, and after a factory has been registered, which comes before the entry, the
next call ends as if they had not been made. -/
theorem refusal_forgotten_misfit :
    ∃ fault t, fault.reason? = some .typeMismatch ∧
      [Need.ready, .early {}].mapM (Need.call "clock") Store.misfit =
        .finished ([.error fault, .error fault], t) ∧
      Alike (fun one two => two.1 = one.1 ∧
          SameSince (Repair.make .misfit (.register "acme.clock" (.build .plain)))
            (Repair.make t (.register "acme.clock" (.build .plain))) one.2 two.2)
        (Need.ready.call "clock" (Repair.make .misfit (.register "acme.clock" (.build .plain))))
        (Need.ready.call "clock" (Repair.make t (.register "acme.clock" (.build .plain)))) := by
  have fails : instanceFor "clock" Store.misfit = .finished (.error (.ofConstruction "clock"
      "acme.clock" "Service" (.mismatch "Service")), Store.misfit) := rfl
  obtain ⟨-, -, -, -, tried⟩ := refusal_forgotten rfl fails
  obtain ⟨t, failed, -, repaired⟩ := tried [.ready, .early {}]
  exact ⟨_, t, rfl, failed, repaired [.register "acme.clock" (.build .plain)] .ready⟩

end ServiceLifecycle
