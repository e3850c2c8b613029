/-
Module: ServiceLifecycle.Proofs.Startup.BulkStart
Purpose: What starting all services comes to, whatever their order.
Main exports: earlyEach_tracks, bulk_start, bulk_start_confluent
-/
import ServiceLifecycle.Proofs.Startup.DepthFirst

namespace ServiceLifecycle

/-!
The services are started one after the other, and a failure is only reported.  Each turn
is a search that begins with an empty stack, so it succeeds for sound services and fails
for the others, no matter what earlier turns have left behind: those can only have made
sound services ready.
-/

open Broker

section Walk

variable {graph : Graph} {base s : Store} {p : Progress}

/-- The section of a service does not change while services start. -/
theorem Tracks.sectionOf_eq (tracks : Tracks graph base s p) (name : String) :
    s.sectionOf name = base.sectionOf name := by
  have planned := tracks.planned
  have served : ∀ (provider : Provider) path,
      provider.configuration s path = provider.configuration base path := by
    intro provider path
    cases provider with
    | inMemory provider => rfl
    | component id =>
        rw [Provider.configuration, Provider.configuration, planned.deployments id]
  rw [Store.sectionOf, Store.sectionOf, planned.registry, planned.provider]
  simp only [served]

/-- A fault is reported. -/
theorem Tracks.reportFault (fault : BrokerFault) (tracks : Tracks graph base s p) :
    Tracks graph base (s.reportFault (.broker fault))
      { p with errors := .ofError (Fault.broker fault).chain :: p.errors } :=
  tracks.report (.ofError (Fault.broker fault).chain)

theorem Progress.IsCoherent.of_errors {errors : List Diagnostic} (coherent : p.IsCoherent graph) :
    ({ p with errors } : Progress).IsCoherent graph :=
  ⟨coherent.path, coherent.distinct, coherent.unready, coherent.ordered⟩

/-- A walk over services makes the sound ones ready and reports one error for each of the
others. -/
theorem earlyEach_tracks {depth : Nat} (realizes : base.Realizes graph)
    (room : base.knownKeys.length ≤ depth) (data : StartupData) (names : List String)
    (enrolled : ∀ name ∈ names, (base.sectionOf name).flag earlySetting true = true)
    (tracks : Tracks graph base s p) (coherent : p.IsCoherent graph) (empty : p.stack = []) :
    ∃ t q, ∃ reports : List (String × BrokerFault),
      earlyEach (runPhase depth) data false names s = .finished (.ok (), t) ∧
      Tracks graph base t q ∧ q.IsCoherent graph ∧ q.stack = [] ∧ p.ready <:+ q.ready ∧
      (∀ name ∈ names, graph.IsSound name → name ∈ q.ready) ∧
      reports.map Prod.fst = names.filter (fun name => name ∉ q.ready) ∧
      q.errors = (reports.map fun report =>
        Diagnostic.ofError (Fault.broker report.2).chain).reverse ++ p.errors := by
  induction names generalizing s p with
  | nil =>
      exact ⟨s, p, [], rfl, tracks, coherent, empty, List.suffix_refl _,
        fun _ member => absurd member List.not_mem_nil, rfl, rfl⟩
  | cons name rest inductionHypothesis =>
      have remaining : ∀ other ∈ rest, (base.sectionOf other).flag earlySetting true = true :=
        fun other member => enrolled other (List.mem_cons_of_mem _ member)
      have flag : (s.sectionOf name).flag earlySetting true = true := by
        rw [tracks.sectionOf_eq]
        exact enrolled name List.mem_cons_self
      have space : base.knownKeys.length ≤ depth + p.stack.length := by
        rw [empty]
        exact room
      obtain ⟨result, t, q, search, after, -, called⟩ :=
        @searches graph base realizes depth name s p tracks (empty ▸ List.nodup_nil) space
      have leads : p.Leads graph [name] := Progress.leads_of_empty empty _
      have later : q.IsCoherent graph := search.coherent coherent leads
      have bare : q.stack = [] := search.stack.trans empty
      cases result with
      | ok _ =>
          obtain ⟨u, r, reports, walked, tracked, ordered, stack, suffix, sound, failed, errors⟩ :=
            inductionHypothesis remaining after later bare
          have ready : name ∈ r.ready :=
            suffix.subset (search.ready_of_ok rfl name List.mem_cons_self)
          refine ⟨u, r, reports, ?_, tracked, ordered, stack, search.ready_suffix.trans suffix,
            ?_, ?_, ?_⟩
          · simp only [earlyEach, Work.bind_apply, Work.get_apply, Outcome.andThen_finished, flag,
              if_true, called data]
            exact walked
          · intro other member isSound
            rcases List.mem_cons.mp member with rfl | member
            · exact ready
            · exact sound other member isSound
          · rw [failed, List.filter_cons_of_neg (by simpa using ready)]
          · rw [errors, search.errors]
      | error fault =>
          obtain ⟨u, r, reports, walked, tracked, ordered, stack, suffix, sound, failed, errors⟩ :=
            inductionHypothesis remaining (after.reportFault fault) later.of_errors bare
          have unsound : ¬ graph.IsSound name := by
            rw [← search.ok_iff_isSound coherent empty]
            exact fun ok => by cases ok
          have unready : name ∉ r.ready := fun ready => unsound (ordered.ordered.isSound name ready)
          refine ⟨u, r, (name, fault) :: reports, ?_, tracked, ordered, stack,
            search.ready_suffix.trans suffix, ?_, ?_, ?_⟩
          · simp only [earlyEach, Work.bind_apply, Work.get_apply, Outcome.andThen_finished, flag,
              if_true, called data]
            exact walked
          · intro other member isSound
            rcases List.mem_cons.mp member with rfl | member
            · exact absurd isSound unsound
            · exact sound other member isSound
          · rw [List.map_cons, failed, List.filter_cons_of_pos (by simpa using unready)]
          · rw [errors, List.map_cons, List.reverse_cons, List.append_assoc, search.errors]
            rfl

end Walk

/-- A name stands for a sound component only when it is registered. -/
theorem mem_serviceNames_of_isSound {graph : Graph} {s : Store} {name : String}
    (service : s.registry.capability = .service) (realizes : s.Realizes graph)
    (sound : graph.IsSound name) : name ∈ s.serviceNames := by
  obtain ⟨needs, known⟩ := (sound name .refl).1
  obtain ⟨body, found, -⟩ := realizes.of_known known
  obtain ⟨assigned, mapped, -⟩ := Option.bind_eq_some_iff.mp found
  rw [Store.assigned?, service] at mapped
  obtain ⟨implementation, registered, -⟩ := Option.map_eq_some_iff.mp mapped
  exact Entries.mem_keys_of_get? registered

/-- Starting all services succeeds, and it initializes the sound ones.  For each of the
others exactly one error has been reported, in the order of registration. -/
theorem bulk_start {graph : Graph} {s : Store} (service : s.registry.capability = .service)
    (realizes : s.Realizes graph) (bare : s.IsBare)
    (enrolled : ∀ name ∈ s.serviceNames, (s.sectionOf name).flag earlySetting true = true)
    (data : StartupData) :
    ∃ t events, ∃ reports : List (String × BrokerFault),
      earlyAll data false s = .finished (.ok (), t) ∧ t.journal = events ++ s.journal ∧
      t.channel = (events.filterMap Event.diagnostic?).reverse.foldl Channel.record s.channel ∧
      (∀ name, t.isInitialized name = true ↔ graph.IsSound name) ∧
      (∀ name, graph.IsSound name → name ∈ s.serviceNames) ∧
      reports.map Prod.fst = s.serviceNames.filter (fun name => !t.isInitialized name) ∧
      (errorsIn events).reverse = reports.map fun report =>
        Diagnostic.ofError (Fault.broker report.2).chain := by
  obtain ⟨u, q, reports, walked, tracks, coherent, -, -, sound, failed, errors⟩ :=
    earlyEach_tracks realizes (length_knownKeys_le s) data s.serviceNames enrolled
      (Tracks.start bare) Progress.isCoherent_start rfl
  have done := tracks.notice "Finished initializing all services"
  obtain ⟨events, records⟩ := done.journal
  have registered : ∀ name, graph.IsSound name → name ∈ s.serviceNames :=
    fun name => mem_serviceNames_of_isSound service realizes
  refine ⟨u.notice "Finished initializing all services", events, reports, ?_, records.grown, ?_, ?_,
    registered, ?_, ?_⟩
  · rw [earlyAll, carryOut_apply, earlyAllBy_apply, walked]
    rfl
  · rw [records.channel, List.foldl_reverse]
  · intro name
    rw [done.initialized]
    constructor
    · exact coherent.ordered.isSound name
    · exact fun isSound => sound name (registered name isSound) isSound
  · have status : ∀ name, decide (name ∉ q.ready) =
        !(u.notice "Finished initializing all services").isInitialized name := by
      intro name
      rw [Bool.eq_iff_iff, decide_eq_true_iff, Bool.not_eq_true', Bool.eq_false_iff, ne_eq,
        done.initialized]
    rw [failed]
    exact List.filter_congr fun name _ => status name
  · rw [records.errors, errors, List.append_nil, List.reverse_reverse]

/-- Starting all services that have what they need initialized in order, pass failures on and
then mark themselves or fail, on a broker with nothing constructed, succeeds.  Afterwards a
service is initialized if and only if it reaches neither a failing service nor one that is
unknown or cannot be built nor a circle, and for each registered one that is not, exactly
one error has been recorded.  The order of registration makes no difference to which ones
are initialized. -/
theorem bulk_start_confluent {graph : Graph} {s : Store}
    (service : s.registry.capability = .service)
    (realizes : s.Realizes graph) (bare : s.IsBare)
    (enrolled : ∀ name ∈ s.serviceNames, (s.sectionOf name).flag earlySetting true = true)
    (data : StartupData) :
    ∃ t events, ∃ reports : List (String × BrokerFault),
      earlyAll data false s = .finished (.ok (), t) ∧ t.journal = events ++ s.journal ∧
      t.channel = (events.filterMap Event.diagnostic?).reverse.foldl Channel.record s.channel ∧
      (∀ name, t.isInitialized name = true ↔ name ∈ s.serviceNames ∧ graph.IsSound name) ∧
      reports.map Prod.fst = s.serviceNames.filter (fun name => !t.isInitialized name) ∧
      (errorsIn events).reverse = (reports.map fun report =>
        Diagnostic.ofError (Fault.broker report.2).chain) ∧
      ∀ mapping : Mapping, mapping.entries.Perm s.mapping.entries →
        ∃ u, earlyAll data false { s with mapping } = .finished (.ok (), u) ∧
          ∀ name, u.isInitialized name = t.isInitialized name := by
  obtain ⟨t, events, reports, started, grown, channel, initialized, registered, failed, errors⟩ :=
    bulk_start service realizes bare enrolled data
  refine ⟨t, events, reports, started, grown, channel, ?_, failed, errors, ?_⟩
  · intro name
    rw [initialized]
    exact ⟨fun sound => ⟨registered name sound, sound⟩, fun both => both.2⟩
  · intro mapping perm
    have body : ∀ name, ({ s with mapping } : Store).bodyOf? name = s.bodyOf? name := by
      intro name
      rw [Store.bodyOf?, Store.assigned?, Store.bodyOf?, Store.assigned?]
      simp only [Mapping.get?_perm perm]
    have realized : ({ s with mapping } : Store).Realizes graph := by
      intro name
      rw [body]
      exact realizes name
    have opted : ∀ name ∈ ({ s with mapping } : Store).serviceNames,
        (({ s with mapping } : Store).sectionOf name).flag earlySetting true = true := by
      intro name member
      exact enrolled name ((perm.map Prod.fst).mem_iff.mp member)
    have empty : ({ s with mapping } : Store).IsBare := ⟨bare.cached, bare.stack, bare.reachable⟩
    have services : ({ s with mapping } : Store).registry.capability = .service := service
    obtain ⟨u, _, _, again, -, -, same, -⟩ := bulk_start services realized empty opted data
    refine ⟨u, again, fun name => ?_⟩
    rw [Bool.eq_iff_iff, same, initialized]

/-- A service that needs another one, which nobody provides, and one that needs nothing. -/
def Graph.halfProvided : Graph := fun key =>
  if key = "user" then some ⟨["missing"], none⟩
  else if key = "clock" then some ⟨[], none⟩
  else none

/-- A broker of these services. -/
def Store.halfProvided : Store :=
  { registry :=
      { capability := .service
        recipes :=
          [("User", .build (.scripted
              { early := some (.straight [.early "missing" .propagate, .mark]) })),
            ("Clock", .build .plain)] }
    mapping := { entries := [("user", "User"), ("clock", "Clock")] } }

theorem halfProvided_realizes : Store.halfProvided.Realizes Graph.halfProvided := by
  intro key
  by_cases user : key = "user"
  · subst user
    exact ⟨_, rfl, rfl⟩
  · by_cases clock : key = "clock"
    · subst clock
      exact ⟨_, rfl, rfl⟩
    · have unmapped : Store.halfProvided.mapping.get? key = none := by
        simp [Store.halfProvided, Mapping.get?, Entries.get?, Ne.symm user, Ne.symm clock]
      have absent : Graph.halfProvided key = none := by simp [Graph.halfProvided, user, clock]
      have unassigned : Store.halfProvided.assigned? key =
          (Store.halfProvided.mapping.get? key).map fun implementation =>
            (implementation, some key) := rfl
      rw [absent, Store.bodyOf?, unassigned, unmapped]
      rfl

/-- Only the service that needs nothing is initialized. -/
theorem bulk_start_confluent_halfProvided :
    ∃ t, earlyAll {} false Store.halfProvided = .finished (.ok (), t) ∧
      t.isInitialized "user" = false ∧ t.isInitialized "clock" = true := by
  have enrolled : ∀ name ∈ Store.halfProvided.serviceNames,
      (Store.halfProvided.sectionOf name).flag earlySetting true = true := fun _ _ => rfl
  obtain ⟨t, _, _, started, -, -, initialized, -⟩ := bulk_start_confluent rfl
    halfProvided_realizes ⟨rfl, rfl, rfl⟩ enrolled {}
  refine ⟨t, started, ?_, ?_⟩
  · rw [Bool.eq_false_iff, ne_eq, initialized]
    rintro ⟨-, sound⟩
    have need : Graph.halfProvided.Needs "user" "missing" := ⟨_, rfl, by simp⟩
    obtain ⟨_, known⟩ := (sound "missing" (.single need)).1
    cases known
  · rw [initialized]
    refine ⟨by decide, Graph.IsSound.of_needs ⟨[], rfl⟩ ?_⟩
    rintro other ⟨node, known, need⟩
    cases known
    cases need

end ServiceLifecycle
