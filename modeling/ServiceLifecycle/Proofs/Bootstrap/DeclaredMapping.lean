/-
Module: ServiceLifecycle.Proofs.Bootstrap.DeclaredMapping
Purpose: An application that has come up has exactly the services that it declares.
Main exports: Bootstrap.chooseLogging_eq, Bootstrap.ConfigurationEnd.declarations_eq,
  build_maps_declarations
-/
import ServiceLifecycle.Proofs.Bootstrap.Stages
import ServiceLifecycle.Proofs.Broker.Registration

namespace ServiceLifecycle

/-!
The mapping is put together in three steps.  The configuration service is registered before there
are any declarations, and the logging service with the implementation that the declarations have
for it, which are registered last and as a whole.  The declarations are read three times; they are
the same each time, because a configuration service that serves them stays initialized as long as
nothing is shut down.
-/

open Broker

theorem Registry.bodyFor?_provide {registry : Registry} {key implementation : String}
    {body found : Body}
    (provided : (registry.provide key body).bodyFor? implementation = some found) :
    found = body ∨ registry.bodyFor? implementation = some found := by
  rw [provide] at provided
  split at provided
  · exact .inr provided
  · by_cases same : implementation = key
    · left
      simp only [bodyFor?, find, register, Entries.get?_put, same, if_true] at provided
      exact (Option.some.inj provided).symm
    · right
      simp only [bodyFor?, find, register, Entries.get?_put, same, if_false] at provided
      exact provided

/-- The built-in services shut nothing down. -/
theorem Registry.bodyFor?_withBuiltin {registry : Registry} {implementation : String}
    {script : Script}
    (found : registry.withBuiltin.bodyFor? implementation = some (.scripted script)) :
    registry.bodyFor? implementation = some (.scripted script) := by
  rcases bodyFor?_provide found with same | found
  · cases same
  · rcases bodyFor?_provide found with same | found
    · cases same
    · exact found

namespace Bootstrap

/-- The logging service is the first one that is declared. -/
theorem chooseLogging_eq (declarations : List (String × String)) (default : String) :
    chooseLogging declarations default =
      (Entries.get? loggingName declarations).getD default := by
  rw [chooseLogging]
  congr 1
  induction declarations with
  | nil => rfl
  | cons declaration rest inductionHypothesis =>
      obtain ⟨name, implementation⟩ := declaration
      rw [Entries.get?_cons]
      by_cases same : name = loggingName
      · simp [same]
      · simpa [same] using inductionHypothesis

section Stages

variable {plan : Plan} {provider : Provider} {registry : Registry} {surroundings : Surroundings}
  {data : StartupData} {s t u : Store}

theorem mapping_admitted {key : String} (mapping : s.mapping.entries = [(configurationName, key)]) :
    (admitted plan provider s).mapping.entries =
      [(configurationName, key),
        (loggingName, chooseLogging (provider.declarations s) plan.loggingKey)] := by
  have absent : s.mapping.get? loggingName = none := by
    rw [Mapping.get?, mapping, Entries.get?_cons, if_neg (by decide)]
    rfl
  rw [admitted, Store.register_eq, absent]
  exact (Mapping.entries_put absent _).trans (by rw [mapping]; rfl)

/-- The registration of the logging service changes the mapping, or else it is a report. -/
theorem admitted_keeps (plan : Plan) (provider : Provider) (s : Store) :
    (admitted plan provider s).registry = s.registry ∧
      (admitted plan provider s).provider = s.provider ∧
      (admitted plan provider s).instances = s.instances ∧
      (admitted plan provider s).shutdowns = s.shutdowns := by
  rw [admitted]
  rcases s.register_ends loggingName
    (chooseLogging (provider.declarations s) plan.loggingKey) with ⟨_, same⟩ | ⟨_, same⟩
  · rw [same]
    exact ⟨rfl, rfl, rfl, rfl⟩
  · rw [same]
    exact ⟨rfl, rfl, rfl, rfl⟩

theorem offeredProvider?_component {id other : Nat}
    (offers : offeredProvider? s id = some (.component other)) : other = id := by
  rw [offeredProvider?] at offers
  split at offers
  · cases offers
    rfl
  · rename_i script held
    cases provided : script.provider <;> rw [provided] at offers <;> cases offers
  · cases offers

/-- The declarations stay the same until something is shut down. -/
theorem ConfigurationEnd.declarations_eq (configuration : ConfigurationEnd data s (.ok provider) u)
    (moves : Moves ⟨[], u⟩ ⟨[], t⟩) (spared : t.shutdowns = u.shutdowns) :
    provider.declarations t = provider.declarations u := by
  cases configuration with
  | provides ending offers =>
      refine Provider.declarations_eq ?_
      rintro id rfl
      cases ending with
      | started called present ready =>
          rw [← offeredProvider?_component offers] at ready
          have kept := (Moves.isReady_eq moves ready (by rw [spared])).1
          rw [Store.deploymentOf?, kept, Store.deploymentOf?]

theorem isGentle_prepared (plan : Plan)
    (gentle : (Store.forServices registry surroundings).IsGentle) :
    (prepared plan (Store.forServices registry surroundings)).IsGentle := by
  constructor
  case held => exact gentle.held
  case known =>
    exact fun implementation script key found =>
      gentle.known implementation script key (Registry.bodyFor?_withBuiltin found)

theorem isGentle_admitted (plan : Plan) (provider : Provider) (gentle : s.IsGentle) :
    (admitted plan provider (furnished provider s)).IsGentle := by
  obtain ⟨registry, -, instances, -⟩ := admitted_keeps plan provider (furnished provider s)
  constructor
  case held =>
    intro id component script key held
    rw [Store.instance?, instances] at held
    exact gentle.held id component script key held
  case known => exact registry ▸ gentle.known

end Stages

section BothUp

variable {plan : Plan} {registry : Registry} {surroundings : Surroundings} {provider : Provider}
  {id : Nat} {u t : Store}
  (configuration : ConfigurationEnd (Plan.startupData plan)
    (prepared plan (Store.forServices registry surroundings)) (.ok provider) u)
  (logging : ServiceEnd loggingName (Plan.startupData plan)
    (admitted plan provider (furnished provider u)) (.ok id) t)

include configuration logging

/-- What is registered when both services are up.  Their components cannot register anything. -/
theorem mapping_bothUp :
    t.mapping.entries = [(configurationName, plan.configurationKey),
      (loggingName, (Entries.get? loggingName
        (provider.declarations (furnished provider u))).getD plan.loggingKey)] := by
  obtain ⟨_, started⟩ := configuration.serviceEnd
  have first : Deeds (Plan.startupData plan) (fun _ => False) _ u := started.deeds
  have second : Deeds (Plan.startupData plan) (fun _ => False) _ t := logging.deeds
  have registered : u.mapping.entries = [(configurationName, plan.configurationKey)] :=
    congrArg (fun arrangement => arrangement.mapping.entries) first.arrangement
  rw [← chooseLogging_eq]
  have same : t.mapping = _ := congrArg Arrangement.mapping second.arrangement
  exact (congrArg Mapping.entries same).trans (mapping_admitted registered)

omit configuration in
theorem provider_bothUp : t.provider = some provider := by
  have second : Deeds (Plan.startupData plan) (fun _ => False) _ t := logging.deeds
  obtain ⟨-, furnishing, -, -⟩ := admitted_keeps plan provider (furnished provider u)
  exact (congrArg Arrangement.provider second.arrangement).trans furnishing

/-- Nothing has been shut down while the two services were started, because no component has
anything shut down or because none has. -/
theorem unshut_of_spared
    (spared : (Store.forServices registry surroundings).IsGentle ∨ t.shutdowns = []) :
    t.shutdowns = u.shutdowns := by
  have moves : Moves ⟨[], u⟩ ⟨[], t⟩ := (admitted_moves plan provider u).trans logging.moves
  rcases spared with gentle | none
  · obtain ⟨answer, started⟩ := configuration.serviceEnd
    have first : Deeds (Plan.startupData plan) (fun _ => False) _ u := started.deeds
    obtain ⟨still, -⟩ := first.shutdowns_eq (fun _ asked => asked) (isGentle_prepared plan gentle)
    have second : Deeds (Plan.startupData plan) (fun _ => False) _ t := logging.deeds
    obtain ⟨-, -, -, unshut⟩ := admitted_keeps plan provider (furnished provider u)
    exact (second.shutdowns_eq (fun _ asked => asked)
      (isGentle_admitted plan provider still)).2.trans unshut
  · have before : u.shutdowns <:+ t.shutdowns := Moves.shutdowns_suffix moves
    rw [none] at before ⊢
    exact (List.suffix_nil.mp before).symm

/-- The declarations that are registered as a whole are those that were searched for a logging
service. -/
theorem declarations_bothUp
    (spared : (Store.forServices registry surroundings).IsGentle ∨ t.shutdowns = []) :
    provider.declarations (connected id t) = provider.declarations (furnished provider u) := by
  have moves : Moves ⟨[], u⟩ ⟨[], t⟩ := (admitted_moves plan provider u).trans logging.moves
  calc provider.declarations (connected id t)
    _ = provider.declarations t := Provider.declarations_eq fun _ _ => rfl
    _ = provider.declarations u :=
      configuration.declarations_eq moves (unshut_of_spared configuration logging spared)
    _ = provider.declarations (furnished provider u) := Provider.declarations_eq fun _ _ => rfl

end BothUp

end Bootstrap

open Bootstrap

theorem shutdowns_notices (s : Store) (texts : List String) :
    (s.notices texts).shutdowns = s.shutdowns := by
  have silent : ∀ text, Event.shutdownOf? (.reported (.ofNotice text)) = none := fun _ => rfl
  simp [Store.shutdowns, Store.notices, List.filterMap_append, List.filterMap_reverse,
    List.filterMap_map, silent]

/-- An application that has come up while nothing was shut down has the configuration service, the
logging service with the implementation that is declared first for it, and then the first
declaration of each other name, in order.  One notice has been reported for each declaration whose
implementation is not the one in force, and nothing else has been done with the declarations.  So no
name is mapped twice, and everything that is mapped has been declared, in this order. -/
theorem build_maps_declarations {registry : Registry} {surroundings : Surroundings} {plan : Plan}
    {t : Store}
    (built : build plan (Store.forServices registry surroundings) = .finished (.ok (), t))
    (spared : (Store.forServices registry surroundings).IsGentle ∨ t.shutdowns = []) :
    ∃ provider id v, Launched plan (Store.forServices registry surroundings) provider id v ∧
      v.mapping.entries = [(configurationName, plan.configurationKey),
        (loggingName,
          (Entries.get? loggingName (provider.declarations t)).getD plan.loggingKey)] ∧
      t.provider = some provider ∧
      t.mapping.entries = Entries.firstOfEach (v.mapping.entries ++ provider.declarations t) ∧
      t.mapping.keys.Nodup ∧
      t.mapping.entries.Sublist (v.mapping.entries ++ provider.declarations t) ∧
      t.mapping.get? configurationName = some plan.configurationKey ∧
      t = ({ connected id v with mapping := t.mapping } : Store).notices
        ((provider.declarations t).filterMap (conflict? t.mapping.entries)) := by
  generalize answer : Except.ok () = result at built
  cases build_ends built with
  | unconfigured configuration => cases answer
  | unlogged configuration logging => cases answer
  | @up provider id u v configuration logging =>
      have mapping := mapping_bothUp configuration logging
      have provided : v.provider = some provider := provider_bothUp logging
      have final : populated provider (connected id v) =
          ({ connected id v with
              mapping := v.mapping.extend (provider.declarations (connected id v)) } :
            Store).notices _ :=
        (connected id v).registerAll_eq (provider.declarations (connected id v))
      have unshut : (Store.forServices registry surroundings).IsGentle ∨ v.shutdowns = [] := by
        refine spared.imp_right fun none => ?_
        rw [final, shutdowns_notices] at none
        exact none
      have declared : provider.declarations (populated provider (connected id v)) =
          provider.declarations (connected id v) := by
        rw [final]
        exact Provider.declarations_eq fun _ _ => rfl
      have listed : (populated provider (connected id v)).mapping =
          v.mapping.extend (provider.declarations (connected id v)) := by
        rw [final]
        rfl
      refine ⟨provider, id, v, ⟨u, configuration, logging⟩, ?_, ?_, ?_, Mapping.distinct _, ?_, ?_,
        ?_⟩
      · rw [declared, declarations_bothUp configuration logging unshut]
        exact mapping
      · rw [final]
        exact provided
      · rw [declared, listed]
        rfl
      · rw [declared, listed]
        exact Entries.firstOfEach_sublist _
      · rw [listed, Mapping.get?_extend, Mapping.get?, mapping]
        rfl
      · rw [declared, listed]
        exact final

/-- Declarations of a logging service, of one name twice and of the configuration service. -/
def InMemory.repetitive : InMemory :=
  { declarations :=
      [("a", "A"), (loggingName, "Log"), ("a", "B"), (configurationName, "Other"), ("b", "B")] }

/-- A configuration service that provides them. -/
def Registry.repetitive : Registry :=
  { recipes :=
      [("Conf", .build (.scripted { provider := some .repetitive })), ("Log", .build .plain)] }

/-- What the host decides on to have it. -/
def Plan.repetitive : Plan := { loader := {}, configurationKey := "Conf" }

/-- The declarations that come too late are left out, and each of them is reported. -/
theorem build_maps_declarations_repetitive :
    ∃ t, build Plan.repetitive (Store.forServices Registry.repetitive {}) =
        .finished (.ok (), t) ∧
      t.mapping.entries =
        [(configurationName, "Conf"), (loggingName, "Log"), ("a", "A"), ("b", "B")] ∧
      t.journal.take 2 =
        [.reported (.ofNotice (conflictNotice configurationName "Conf" "Other")),
          .reported (.ofNotice (conflictNotice "a" "A" "B"))] := by
  have succeeds : (build Plan.repetitive
      (Store.forServices Registry.repetitive {})).success?.any (fun t => t.shutdowns = [] ∧
        (t.provider.map fun provider => provider.declarations t) = some [("a", "A"),
          (loggingName, "Log"), ("a", "B"), (configurationName, "Other"), ("b", "B")]) = true := by
    decide +kernel
  obtain ⟨t, success, outcome⟩ := (Option.any_eq_true _ _).mp succeeds
  obtain ⟨⟨⟩, built⟩ := Outcome.success?_eq_some.mp success
  obtain ⟨spared, declared⟩ := of_decide_eq_true outcome
  obtain ⟨provider, id, v, -, early, provided, mapping, -, -, -, final⟩ :=
    build_maps_declarations built (.inr spared)
  rw [provided] at declared
  have declarations : provider.declarations t = _ := Option.some.inj declared
  rw [early, declarations] at mapping
  have listed : t.mapping.entries =
      [(configurationName, "Conf"), (loggingName, "Log"), ("a", "A"), ("b", "B")] := mapping
  refine ⟨t, built, listed, ?_⟩
  rw [declarations, listed] at final
  rw [final]
  rfl

end ServiceLifecycle
