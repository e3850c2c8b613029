/-
Module: ServiceLifecycle.Proofs.Deployment.Reading
Purpose: What a declaration or a deployment that is read from a table owes to each entry of it.
Main exports: bind_eq_ok_iff, mapM_eq_ok_iff, foldlM_field, foldlM_keeps, foldlM_succeeds,
  TextRead, Declaration.decode_table_iff, Deployment.ServicesRead, Deployment.decode_table_iff
-/
import Mathlib.Data.List.Forall2
import ServiceLifecycle.Deployment.Codec
import ServiceLifecycle.Proofs.Entries.Ascending

namespace ServiceLifecycle

/-!
A record is read from a table entry by entry.  No key is there twice, so the order does not matter,
and each field is what is read of one entry.  What remains of the table of a declaration are its
settings; what remains of the table of a deployment says nothing.
-/

section Steps

variable {α β ε : Type}

/-- A computation in two steps succeeds if both do. -/
theorem bind_eq_ok_iff {first : Except ε α} {next : α → Except ε β} {result : β} :
    first >>= next = .ok result ↔ ∃ value, first = .ok value ∧ next value = .ok result := by
  cases first with
  | error fault => exact iff_of_false (fun same => nomatch same) (fun ⟨_, same, _⟩ => nomatch same)
  | ok value =>
      constructor
      · exact fun following => ⟨value, rfl, following⟩
      · rintro ⟨other, same, following⟩
        rw [Except.ok.inj same]
        exact following

/-- The items of a list are read one by one. -/
theorem mapM_eq_ok_iff {read : α → Except ε β} {items : List α} {found : List β} :
    items.mapM read = .ok found ↔
      List.Forall₂ (fun item value => read item = .ok value) items found := by
  induction items generalizing found with
  | nil =>
      rw [List.mapM_nil, List.forall₂_nil_left_iff]
      exact ⟨fun same => (Except.ok.inj same).symm, fun same => congrArg Except.ok same.symm⟩
  | cons item rest inductionHypothesis =>
      rw [List.mapM_cons, List.forall₂_cons_left_iff, bind_eq_ok_iff]
      constructor
      · rintro ⟨value, first, others⟩
        obtain ⟨values, each, same⟩ := bind_eq_ok_iff.mp others
        exact ⟨value, values, first, inductionHypothesis.mp each, (Except.ok.inj same).symm⟩
      · rintro ⟨value, values, first, each, rfl⟩
        exact ⟨value, first, bind_eq_ok_iff.mpr ⟨values, inductionHypothesis.mpr each, rfl⟩⟩

end Steps

section Records

variable {ρ φ ε : Type} {assign : ρ → String × Value → Except ε ρ} {sofar final : ρ}
  {entries : Table}

/-- A field stays as it is if its key is not there. -/
theorem foldlM_untouched (field : ρ → φ) {key : String}
    (others : ∀ {sofar other value next}, other ≠ key → assign sofar (other, value) = .ok next →
      field next = field sofar)
    (absent : key ∉ entries.keys) (done : entries.foldlM assign sofar = .ok final) :
    field final = field sofar := by
  induction entries generalizing sofar with
  | nil =>
      cases done
      rfl
  | cons entry rest inductionHypothesis =>
      obtain ⟨different, later⟩ := not_or.mp (absent ∘ List.mem_cons.mpr)
      rw [List.foldlM_cons] at done
      obtain ⟨next, assigned, following⟩ := bind_eq_ok_iff.mp done
      rw [inductionHypothesis later following, others (Ne.symm different) assigned]

/-- A field is what is read of its entry, if there is one, where one key is read into it and no
other touches it. -/
theorem foldlM_field (field : ρ → φ) (read : Option Value → φ → Prop) {key : String}
    (start : read none (field sofar))
    (own : ∀ {sofar value next}, assign sofar (key, value) = .ok next →
      read (some value) (field next))
    (others : ∀ {sofar other value next}, other ≠ key → assign sofar (other, value) = .ok next →
      field next = field sofar)
    (distinct : entries.keys.Nodup) (done : entries.foldlM assign sofar = .ok final) :
    read (entries.get? key) (field final) := by
  induction entries generalizing sofar with
  | nil =>
      cases done
      exact start
  | cons entry rest inductionHypothesis =>
      obtain ⟨k, v⟩ := entry
      obtain ⟨fresh, later⟩ := List.nodup_cons.mp distinct
      rw [List.foldlM_cons] at done
      obtain ⟨next, assigned, following⟩ := bind_eq_ok_iff.mp done
      rw [Entries.get?_cons]
      by_cases same : k = key
      · subst same
        -- The key does not come again, so no later entry changes the field.
        rw [if_pos rfl, foldlM_untouched field others fresh following]
        exact own assigned
      · rw [if_neg same]
        exact inductionHypothesis (others same assigned ▸ start) later following

/-- What each entry keeps, all entries keep. -/
theorem foldlM_keeps (holds : ρ → Prop)
    (step : ∀ {sofar entry next}, assign sofar entry = .ok next → holds sofar → holds next)
    (start : holds sofar) (done : entries.foldlM assign sofar = .ok final) : holds final := by
  induction entries generalizing sofar with
  | nil =>
      cases done
      exact start
  | cons entry rest inductionHypothesis =>
      rw [List.foldlM_cons] at done
      obtain ⟨next, assigned, following⟩ := bind_eq_ok_iff.mp done
      exact inductionHypothesis (step assigned start) following

/-- A table is read if each of its entries can be read at any time. -/
theorem foldlM_succeeds
    (each : ∀ entry ∈ entries, ∀ sofar, ∃ next, assign sofar entry = .ok next) (sofar : ρ) :
    ∃ final, entries.foldlM assign sofar = .ok final := by
  induction entries generalizing sofar with
  | nil => exact ⟨sofar, rfl⟩
  | cons entry rest inductionHypothesis =>
      obtain ⟨first, others⟩ := List.forall_mem_cons.mp each
      obtain ⟨next, assigned⟩ := first sofar
      obtain ⟨final, following⟩ := inductionHypothesis others next
      rw [List.foldlM_cons]
      exact ⟨final, bind_eq_ok_iff.mpr ⟨next, assigned, following⟩⟩

end Records

/-- What is read of the entry for a text that may be left out, if there is one. -/
inductive TextRead : Option Value → Option String → Prop where
  | absent : TextRead none none
  | null : TextRead (some .null) none
  | text (text : String) : TextRead (some (.text text)) (some text)

theorem TextRead.unique {entry : Option Value} {found other : Option String}
    (read : TextRead entry found) (again : TextRead entry other) : found = other := by
  cases read <;> cases again <;> rfl

theorem decodeOptional_text_iff {wanted : String} {value : Value} {found : Option String} :
    decodeOptional (decodeText wanted) value = .ok found ↔ TextRead (some value) found := by
  constructor
  · intro read
    cases value with
    | null => cases read; exact .null
    | text text => cases read; exact .text text
    | _ => cases read
  · intro read
    cases read <;> rfl

namespace Declaration

variable {sofar final : Partial} {value : Value} {key : String}

theorem assign_name_iff : sofar.assign ("name", value) = .ok final ↔
    ∃ name, value = .text name ∧ final = { sofar with name := some name } := by
  have step : sofar.assign ("name", value) =
      decodeText "a string" value >>= fun name => .ok { sofar with name := some name } := rfl
  rw [step, bind_eq_ok_iff]
  constructor
  · rintro ⟨name, read, ⟨⟩⟩
    cases value with
    | text name => cases read; exact ⟨name, rfl, rfl⟩
    | _ => cases read
  · rintro ⟨name, rfl, rfl⟩
    exact ⟨name, rfl, rfl⟩

theorem assign_implementation_iff : sofar.assign ("implementation", value) = .ok final ↔
    ∃ implementation, TextRead (some value) implementation ∧
      final = { sofar with implementation } := by
  have step : sofar.assign ("implementation", value) =
      decodeOptional (decodeText "a string") value >>= fun implementation =>
        .ok { sofar with implementation } := rfl
  rw [step, bind_eq_ok_iff]
  constructor
  · rintro ⟨implementation, read, ⟨⟩⟩
    exact ⟨implementation, decodeOptional_text_iff.mp read, rfl⟩
  · rintro ⟨implementation, read, rfl⟩
    exact ⟨implementation, decodeOptional_text_iff.mpr read, rfl⟩

theorem assign_setting (name : key ≠ "name") (implementation : key ≠ "implementation") :
    sofar.assign (key, value) =
      .ok { sofar with settings := sofar.settings.putSorted key value.settled } := by
  rw [Partial.assign]
  split
  · exact absurd ‹_› name
  · exact absurd ‹_› implementation
  · rfl

/-- The entries of a table that are settings, as they are kept. -/
def settingsOf (entries : Table) : List (String × Value) :=
  (entries.filter fun entry => entry.1 != "name" && entry.1 != "implementation").map
    fun entry => (entry.1, entry.2.settled)

theorem settingsOf_cons_field {rest : Table} (field : key = "name" ∨ key = "implementation") :
    settingsOf ((key, value) :: rest) = settingsOf rest := by
  rcases field with rfl | rfl <;> rfl

theorem settingsOf_cons_setting {rest : Table} (name : key ≠ "name")
    (implementation : key ≠ "implementation") :
    settingsOf ((key, value) :: rest) = (key, value.settled) :: settingsOf rest := by
  rw [settingsOf, List.filter_cons_of_pos (by simp [name, implementation]), List.map_cons]
  rfl

theorem get?_settingsOf (entries : Table) (key : String) :
    Entries.get? key (settingsOf entries) =
      if key = "name" ∨ key = "implementation" then none
      else (entries.get? key).map Value.settled := by
  induction entries with
  | nil => simp [settingsOf]
  | cons entry rest inductionHypothesis =>
      obtain ⟨k, v⟩ := entry
      by_cases field : k = "name" ∨ k = "implementation"
      · rw [settingsOf_cons_field field, inductionHypothesis, Entries.get?_cons]
        by_cases same : k = key
        · rw [if_pos (same ▸ field), if_pos (same ▸ field)]
        · rw [if_neg same]
      · obtain ⟨name, implementation⟩ := not_or.mp field
        rw [settingsOf_cons_setting name implementation, Entries.get?_cons, Entries.get?_cons,
          inductionHypothesis]
        by_cases same : k = key
        · rw [if_pos same, if_pos same, if_neg (same ▸ field), Option.map_some]
        · rw [if_neg same, if_neg same]

theorem mem_settingsOf {entries : Table} : (key, value) ∈ settingsOf entries ↔
    key ≠ "name" ∧ key ≠ "implementation" ∧ ∃ given, (key, given) ∈ entries ∧
      value = given.settled := by
  rw [settingsOf, List.mem_map]
  constructor
  · rintro ⟨⟨k, given⟩, member, same⟩
    obtain ⟨present, other⟩ := List.mem_filter.mp member
    cases same
    have apart : k ≠ "name" ∧ k ≠ "implementation" := by simpa using other
    exact ⟨apart.1, apart.2, given, present, rfl⟩
  · rintro ⟨name, implementation, given, present, rfl⟩
    exact ⟨(key, given), List.mem_filter.mpr ⟨present, by simp [name, implementation]⟩, rfl⟩

theorem nodup_keys_settingsOf {entries : Table} (distinct : entries.keys.Nodup) :
    (Entries.keys (settingsOf entries)).Nodup := by
  have kept : Entries.keys (settingsOf entries) = (entries.filter fun entry =>
      entry.1 != "name" && entry.1 != "implementation").map Prod.fst := by
    rw [settingsOf, Entries.keys, List.map_map]
    rfl
  rw [kept]
  exact distinct.sublist (List.filter_sublist.map Prod.fst)

/-- Whatever is read of the fields, the settings are kept. -/
theorem foldlM_assign_settings {entries : Table}
    (read : entries.foldlM Partial.assign sofar = .ok final) :
    final.settings = sofar.settings.putAll (settingsOf entries) := by
  induction entries generalizing sofar with
  | nil =>
      cases read
      rfl
  | cons entry rest inductionHypothesis =>
      obtain ⟨key, value⟩ := entry
      rw [List.foldlM_cons] at read
      obtain ⟨next, assigned, following⟩ := bind_eq_ok_iff.mp read
      rw [inductionHypothesis following]
      by_cases named : key = "name"
      · subst named
        obtain ⟨name, -, rfl⟩ := assign_name_iff.mp assigned
        rw [settingsOf_cons_field (.inl rfl)]
      · by_cases built : key = "implementation"
        · subst built
          obtain ⟨implementation, -, rfl⟩ := assign_implementation_iff.mp assigned
          rw [settingsOf_cons_field (.inr rfl)]
        · rw [assign_setting named built] at assigned
          cases assigned
          rw [settingsOf_cons_setting named built]
          rfl

theorem assign_keeps_name {next : Partial} (other : key ≠ "name")
    (assigned : sofar.assign (key, value) = .ok next) : next.name = sofar.name := by
  by_cases built : key = "implementation"
  · subst built
    obtain ⟨implementation, -, rfl⟩ := assign_implementation_iff.mp assigned
    rfl
  · rw [assign_setting other built] at assigned
    cases assigned
    rfl

theorem assign_keeps_implementation {next : Partial} (other : key ≠ "implementation")
    (assigned : sofar.assign (key, value) = .ok next) :
    next.implementation = sofar.implementation := by
  by_cases named : key = "name"
  · subst named
    obtain ⟨name, -, rfl⟩ := assign_name_iff.mp assigned
    rfl
  · rw [assign_setting named other] at assigned
    cases assigned
    rfl

/-- What a whole table leaves of a declaration. -/
theorem foldlM_assign_fields {entries : Table} (distinct : entries.keys.Nodup)
    (read : entries.foldlM Partial.assign {} = .ok final) :
    entries.get? "name" = final.name.map Value.text ∧
      TextRead (entries.get? "implementation") final.implementation ∧
      final.settings = Entries.sorted (settingsOf entries) := by
  refine ⟨?name, ?implementation, foldlM_assign_settings read⟩
  case name =>
    refine foldlM_field Partial.name (fun entry name => entry = name.map Value.text) rfl ?_
      assign_keeps_name distinct read
    intro sofar value next assigned
    obtain ⟨name, rfl, rfl⟩ := assign_name_iff.mp assigned
    rfl
  case implementation =>
    refine foldlM_field Partial.implementation TextRead .absent ?_ assign_keeps_implementation
      distinct read
    intro sofar value next assigned
    obtain ⟨implementation, read, rfl⟩ := assign_implementation_iff.mp assigned
    exact read

/-- A declaration is what its fields have come to, if there is a name among them. -/
theorem decode_table_eq_ok_iff {entries : Table} {declaration : Declaration} :
    decode (.table entries) = .ok declaration ↔
      ∃ final : Partial, entries.foldlM Partial.assign {} = .ok final ∧
        final.name = some declaration.name ∧ final.implementation = declaration.implementation ∧
        final.settings = declaration.settings := by
  rw [decode, bind_eq_ok_iff]
  refine exists_congr fun final => and_congr_right fun _ => ?_
  obtain ⟨name, implementation, settings⟩ := final
  cases name with
  | none => exact iff_of_false (fun same => nomatch same) (fun named => nomatch named.1)
  | some text =>
      constructor
      · rintro ⟨⟩
        exact ⟨rfl, rfl, rfl⟩
      · rintro ⟨⟨⟩, rfl, rfl⟩
        rfl

/-- A declaration is read from a table if there is a text for its name and its implementation can
be read; all else are its settings. -/
theorem decode_table_iff {entries : Table} (distinct : entries.keys.Nodup)
    {declaration : Declaration} :
    decode (.table entries) = .ok declaration ↔
      entries.get? "name" = some (.text declaration.name) ∧
      TextRead (entries.get? "implementation") declaration.implementation ∧
      declaration.settings = Entries.sorted (settingsOf entries) := by
  rw [decode_table_eq_ok_iff]
  constructor
  · rintro ⟨final, read, named, built, kept⟩
    obtain ⟨name, implementation, settings⟩ := foldlM_assign_fields distinct read
    rw [named] at name
    rw [built] at implementation
    rw [kept] at settings
    exact ⟨name, implementation, settings⟩
  · rintro ⟨name, implementation, settings⟩
    obtain ⟨final, read⟩ : ∃ final : Partial, entries.foldlM Partial.assign {} = .ok final := by
      apply foldlM_succeeds
      rintro ⟨key, value⟩ member sofar
      have found := Entries.get?_of_mem distinct member
      by_cases named : key = "name"
      · subst named
        rw [name] at found
        exact ⟨_, assign_name_iff.mpr ⟨_, (Option.some.inj found).symm, rfl⟩⟩
      · by_cases built : key = "implementation"
        · subst built
          rw [found] at implementation
          exact ⟨_, assign_implementation_iff.mpr ⟨_, implementation, rfl⟩⟩
        · exact ⟨_, assign_setting named built⟩
    obtain ⟨named, built, kept⟩ := foldlM_assign_fields distinct read
    refine ⟨final, read, ?_, built.unique implementation, kept.trans settings.symm⟩
    rw [name] at named
    cases present : final.name with
    | none =>
        rw [present] at named
        cases named
    | some text =>
        rw [present] at named
        cases named
        rfl

end Declaration

namespace Deployment

/-- What is read of the entry for the services, if there is one. -/
inductive ServicesRead : Option Value → List Declaration → Prop where
  | absent : ServicesRead none []
  | listed {items : List Value} {services : List Declaration}
      (each : List.Forall₂ (fun item declaration => Declaration.decode item = .ok declaration)
        items services) : ServicesRead (some (.list items)) services

variable {deployment initial : Deployment} {value : Value} {key : String}

theorem decode_services_iff {services : List Declaration} :
    decodeList Declaration.decode value = .ok services ↔ ServicesRead (some value) services := by
  constructor
  · intro read
    cases value with
    | list items => exact .listed (mapM_eq_ok_iff.mp read)
    | _ => cases read
  · intro read
    cases read with
    | listed each => exact mapM_eq_ok_iff.mpr each

theorem ServicesRead.unique {entry : Option Value} {services others : List Declaration}
    (read : ServicesRead entry services) (again : ServicesRead entry others) :
    services = others := by
  cases entry with
  | none =>
      cases read
      cases again
      rfl
  | some value =>
      have first := decode_services_iff.mpr read
      rw [decode_services_iff.mpr again] at first
      exact (Except.ok.inj first).symm

theorem assign_root_iff : initial.assign ("application_root", value) = .ok deployment ↔
    ∃ applicationRoot, TextRead (some value) applicationRoot ∧
      deployment = { initial with applicationRoot } := by
  have step : initial.assign ("application_root", value) =
      decodeOptional (decodeText "path string") value >>= fun applicationRoot =>
        .ok { initial with applicationRoot } := rfl
  rw [step, bind_eq_ok_iff]
  constructor
  · rintro ⟨root, read, ⟨⟩⟩
    exact ⟨root, decodeOptional_text_iff.mp read, rfl⟩
  · rintro ⟨root, read, rfl⟩
    exact ⟨root, decodeOptional_text_iff.mpr read, rfl⟩

theorem assign_services_iff : initial.assign ("services", value) = .ok deployment ↔
    ∃ services, ServicesRead (some value) services ∧ deployment = { initial with services } := by
  have step : initial.assign ("services", value) =
      decodeList Declaration.decode value >>= fun services => .ok { initial with services } := rfl
  rw [step, bind_eq_ok_iff]
  constructor
  · rintro ⟨services, read, ⟨⟩⟩
    exact ⟨services, decode_services_iff.mp read, rfl⟩
  · rintro ⟨services, read, rfl⟩
    exact ⟨services, decode_services_iff.mpr read, rfl⟩

theorem assign_other (root : key ≠ "application_root") (services : key ≠ "services") :
    initial.assign (key, value) = .ok initial := by
  rw [assign]
  split
  · exact absurd ‹_› root
  · exact absurd ‹_› services
  · rfl

theorem assign_keeps_root {next : Deployment} (other : key ≠ "application_root")
    (assigned : initial.assign (key, value) = .ok next) :
    next.applicationRoot = initial.applicationRoot := by
  by_cases listed : key = "services"
  · subst listed
    obtain ⟨services, -, rfl⟩ := assign_services_iff.mp assigned
    rfl
  · rw [assign_other other listed] at assigned
    cases assigned
    rfl

theorem assign_keeps_services {next : Deployment} (other : key ≠ "services")
    (assigned : initial.assign (key, value) = .ok next) : next.services = initial.services := by
  by_cases root : key = "application_root"
  · subst root
    obtain ⟨applicationRoot, -, rfl⟩ := assign_root_iff.mp assigned
    rfl
  · rw [assign_other root other] at assigned
    cases assigned
    rfl

/-- What a whole table leaves of a deployment. -/
theorem foldlM_assign_fields {entries : Table} (distinct : entries.keys.Nodup)
    (read : entries.foldlM assign {} = .ok deployment) :
    TextRead (entries.get? "application_root") deployment.applicationRoot ∧
      ServicesRead (entries.get? "services") deployment.services := by
  refine ⟨?root, ?services⟩
  case root =>
    refine foldlM_field applicationRoot TextRead .absent ?_ assign_keeps_root distinct read
    intro initial value next assigned
    obtain ⟨root, read, rfl⟩ := assign_root_iff.mp assigned
    exact read
  case services =>
    refine foldlM_field services ServicesRead .absent ?_ assign_keeps_services distinct read
    intro initial value next assigned
    obtain ⟨services, read, rfl⟩ := assign_services_iff.mp assigned
    exact read

/-- A deployment is read from a table if its entries for the root directory and the services can
be read. -/
theorem decode_table_iff {entries : Table} (distinct : entries.keys.Nodup) :
    decode (.table entries) = .ok deployment ↔
      TextRead (entries.get? "application_root") deployment.applicationRoot ∧
      ServicesRead (entries.get? "services") deployment.services := by
  have step : decode (.table entries) = entries.foldlM assign {} := rfl
  rw [step]
  constructor
  · exact foldlM_assign_fields distinct
  · rintro ⟨root, services⟩
    obtain ⟨final, read⟩ : ∃ final : Deployment, entries.foldlM assign {} = .ok final := by
      apply foldlM_succeeds
      rintro ⟨key, value⟩ member initial
      have found := Entries.get?_of_mem distinct member
      by_cases rooted : key = "application_root"
      · subst rooted
        rw [found] at root
        exact ⟨_, assign_root_iff.mpr ⟨_, root, rfl⟩⟩
      · by_cases listed : key = "services"
        · subst listed
          rw [found] at services
          exact ⟨_, assign_services_iff.mpr ⟨_, services, rfl⟩⟩
        · exact ⟨_, assign_other rooted listed⟩
    obtain ⟨same, equal⟩ := foldlM_assign_fields distinct read
    have result : final = deployment := by
      cases final
      cases deployment
      congr
      · exact same.unique root
      · exact equal.unique services
    rw [read, result]

end Deployment

end ServiceLifecycle
