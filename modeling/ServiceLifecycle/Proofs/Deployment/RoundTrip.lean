/-
Module: ServiceLifecycle.Proofs.Deployment.RoundTrip
Purpose: What has been read is read again from its written form.
Main exports: Value.settled_settled, Declaration.IsPlain, Declaration.encode_eq,
  Declaration.decode_encode, Deployment.encode_eq, Deployment.decode_encode,
  Deployment.isPlain_of_decode, read_again
-/
import ServiceLifecycle.Proofs.Deployment.SettingsReading

namespace ServiceLifecycle

/-!
The settings of a declaration are written beside its own fields.  Reading puts every entry with the
name of a field into that field, so settings that have been read hold none of these names, and
nothing is written over anything else.  Settings are settled while they are read, and to settle
them again changes nothing.
-/

namespace Value

mutual

/-- Settled values stay as they are. -/
theorem settled_settled : (value : Value) → value.settled.settled = value.settled
  | .null => rfl
  | .bool _ => rfl
  | .int _ => rfl
  | .float x => by
      by_cases finite : x.isFinite
      · rw [settled, if_pos finite, settled, if_pos finite]
      · rw [settled, if_neg finite, settled]
        exact fun x same => nomatch same
        exact fun items same => nomatch same
        exact fun entries same => nomatch same
  | .text _ => rfl
  | .list items => by
      rw [settled, settled, settledItems_settledItems items]
  | .table entries => by
      rw [settled, settled, settledEntries_settledEntries entries]

theorem settledItems_settledItems :
    (items : List Value) → settledItems (settledItems items) = settledItems items
  | [] => rfl
  | item :: rest => by
      rw [settledItems, settledItems, settled_settled item, settledItems_settledItems rest]

theorem settledEntries_settledEntries :
    (entries : List (String × Value)) →
      settledEntries (settledEntries entries) = settledEntries entries
  | [] => rfl
  | (key, value) :: rest => by
      rw [settledEntries, settledEntries, settled_settled value,
        settledEntries_settledEntries rest]
end

end Value

theorem textRead_map (text : Option String) : TextRead (text.map Value.text) text := by
  cases text with
  | none => exact .absent
  | some text => exact .text text

namespace Declaration

variable {declaration : Declaration} {value : Value}

/-- The settings of a declaration are a table of settled values without the names of its fields. -/
structure IsPlain (declaration : Declaration) : Prop where
  ascends : declaration.settings.Ascends
  nameless : declaration.settings.get? "name" = none
  keyless : declaration.settings.get? "implementation" = none
  settled : ∀ key value, declaration.settings.get? key = some value → value.settled = value

/-- What is read from a value of any kind is plain. -/
theorem isPlain_of_decode (read : decode value = .ok declaration) : declaration.IsPlain := by
  obtain ⟨entries, rfl⟩ : ∃ entries, value = .table entries := by
    cases value with
    | table entries => exact ⟨entries, rfl⟩
    | _ => cases read
  obtain ⟨final, assigned, -, -, same⟩ := decode_table_eq_ok_iff.mp read
  have kept : declaration.settings = Entries.sorted (settingsOf entries) :=
    same.symm.trans (foldlM_assign_settings assigned)
  -- Keys may come twice in a value of any kind, so settings are traced to entries, not looked up.
  have origin : ∀ {key value}, declaration.settings.get? key = some value →
      (key, value) ∈ settingsOf entries := by
    intro key value found
    rw [kept, Entries.get?_sorted_eq] at found
    exact List.mem_reverse.mp (Entries.mem_of_get? found)
  refine ⟨kept ▸ Entries.ascends_sorted _, ?nameless, ?keyless, ?settled⟩
  case nameless =>
    refine Option.eq_none_iff_forall_ne_some.mpr fun value found => ?_
    exact (mem_settingsOf.mp (origin found)).1 rfl
  case keyless =>
    refine Option.eq_none_iff_forall_ne_some.mpr fun value found => ?_
    exact (mem_settingsOf.mp (origin found)).2.1 rfl
  case settled =>
    intro key value found
    obtain ⟨-, -, given, -, rfl⟩ := mem_settingsOf.mp (origin found)
    exact given.settled_settled

/-- The settings are written into a table that holds the fields and nothing else. -/
theorem encode_fields (declaration : Declaration) : ∃ fields : Table,
    declaration.encode = .table (fields.putAll declaration.settings) ∧ fields.Ascends ∧
      fields.get? "name" = some (.text declaration.name) ∧
      fields.get? "implementation" = declaration.implementation.map Value.text ∧
      ∀ key, key ≠ "name" → key ≠ "implementation" → fields.get? key = none := by
  have first : Entries.Ascends [("name", Value.text declaration.name)] :=
    List.pairwise_singleton _ _
  rw [encode]
  cases declaration.implementation with
  | none =>
      refine ⟨_, rfl, first, rfl, rfl, fun key named _ => ?_⟩
      rw [Entries.get?_cons, if_neg (Ne.symm named), Entries.get?_nil]
  | some key =>
      refine ⟨_, rfl, first.putSorted _ _, rfl, rfl, fun key named built => ?_⟩
      rw [Entries.get?_putSorted, if_neg built, Entries.get?_cons, if_neg (Ne.symm named),
        Entries.get?_nil]

/-- The written form of a plain declaration is a table with its fields and its settings. -/
theorem encode_eq (plain : declaration.IsPlain) :
    ∃ entries : Table, declaration.encode = .table entries ∧ entries.Ascends ∧
      entries.get? "name" = some (.text declaration.name) ∧
      entries.get? "implementation" = declaration.implementation.map Value.text ∧
      ∀ key, key ≠ "name" → key ≠ "implementation" →
        entries.get? key = declaration.settings.get? key := by
  obtain ⟨fields, written, ascends, named, built, none⟩ := declaration.encode_fields
  have order (key : String) :
      Entries.get? key declaration.settings.reverse = declaration.settings.get? key :=
    Entries.get?_perm (List.reverse_perm _) plain.ascends.nodup key
  refine ⟨_, written, ascends.putAll _, ?name, ?implementation, ?settings⟩
  case name => rw [Entries.get?_putAll, order, plain.nameless, Option.none_or, named]
  case implementation => rw [Entries.get?_putAll, order, plain.keyless, Option.none_or, built]
  case settings =>
    intro key other another
    rw [Entries.get?_putAll, order, none key other another, Option.or_none]

/-- A plain declaration is read again from its written form. -/
theorem decode_encode (plain : declaration.IsPlain) :
    decode declaration.encode = .ok declaration := by
  obtain ⟨entries, written, ascends, name, implementation, others⟩ := encode_eq plain
  rw [written, decode_table_iff ascends.nodup]
  refine ⟨name, implementation ▸ textRead_map _, ?settings⟩
  refine plain.ascends.ext (Entries.ascends_sorted _) fun key => ?_
  rw [Entries.get?_sorted (nodup_keys_settingsOf ascends.nodup), get?_settingsOf]
  split
  · rename_i field
    rcases field with rfl | rfl
    · exact plain.nameless
    · exact plain.keyless
  · rename_i setting
    obtain ⟨named, built⟩ := not_or.mp setting
    rw [others key named built]
    cases found : declaration.settings.get? key with
    | none => rfl
    | some value => rw [Option.map_some, plain.settled key value found]

end Declaration

namespace Deployment

variable {deployment : Deployment} {value : Value}

/-- The written form of a deployment says what there is, and is silent about what there is not. -/
theorem encode_eq (deployment : Deployment) :
    ∃ entries : Table, deployment.encode = .table entries ∧ entries.Ascends ∧
      entries.get? "application_root" = deployment.applicationRoot.map Value.text ∧
      entries.get? "services" =
        if deployment.services = [] then none
        else some (.list (deployment.services.map Declaration.encode)) := by
  obtain ⟨root, services⟩ := deployment
  obtain ⟨listed, same, ascends, absent⟩ : ∃ listed : Table,
      (if services.isEmpty then []
        else [("services", Value.list (services.map Declaration.encode))]) = listed ∧
      listed.Ascends ∧ listed.get? "application_root" = none := by
    cases services with
    | nil => exact ⟨_, rfl, Entries.ascends_nil, rfl⟩
    | cons first rest => exact ⟨_, rfl, List.pairwise_singleton _ _, rfl⟩
  have found : listed.get? "services" =
      if services = [] then none else some (.list (services.map Declaration.encode)) := by
    rw [← same]
    cases services <;> rfl
  rw [encode]
  dsimp only
  rw [same]
  cases root with
  | none => exact ⟨listed, rfl, ascends, absent, found⟩
  | some path =>
      refine ⟨_, rfl, ascends.putSorted _ _, ?_, ?_⟩
      · rw [Entries.get?_putSorted, if_pos rfl]
        rfl
      · rw [Entries.get?_putSorted, if_neg (by decide), found]

/-- Plain declarations are read again from their written forms, in their order. -/
theorem servicesRead_encode {services : List Declaration}
    (plain : ∀ declaration ∈ services, declaration.IsPlain) :
    ServicesRead (some (.list (services.map Declaration.encode))) services := by
  refine .listed (List.forall₂_map_left_iff.mpr (List.forall₂_same.mpr ?_))
  exact fun declaration member => Declaration.decode_encode (plain declaration member)

/-- A deployment with plain declarations is read again from its written form. -/
theorem decode_encode (plain : ∀ declaration ∈ deployment.services, declaration.IsPlain) :
    decode deployment.encode = .ok deployment := by
  obtain ⟨entries, written, ascends, root, services⟩ := encode_eq deployment
  rw [written, decode_table_iff ascends.nodup, root, services]
  refine ⟨textRead_map _, ?_⟩
  split
  · rename_i none
    rw [none]
    exact .absent
  · exact servicesRead_encode plain

theorem ServicesRead.isPlain {entry : Option Value} {services : List Declaration}
    (read : ServicesRead entry services) : ∀ declaration ∈ services, declaration.IsPlain := by
  cases read with
  | absent => exact List.forall_mem_nil _
  | listed each =>
      induction each with
      | nil => exact List.forall_mem_nil _
      | cons read _ inductionHypothesis =>
          exact List.forall_mem_cons.mpr
            ⟨Declaration.isPlain_of_decode read, inductionHypothesis⟩

theorem assign_isPlain {sofar next : Deployment} {entry : String × Value}
    (assigned : sofar.assign entry = .ok next)
    (plain : ∀ declaration ∈ sofar.services, declaration.IsPlain) :
    ∀ declaration ∈ next.services, declaration.IsPlain := by
  obtain ⟨key, value⟩ := entry
  by_cases listed : key = "services"
  · subst listed
    obtain ⟨services, read, rfl⟩ := assign_services_iff.mp assigned
    exact read.isPlain
  · rw [assign_keeps_services listed assigned]
    exact plain

/-- The declarations of a deployment that is read from a value of any kind are plain. -/
theorem isPlain_of_decode (read : decode value = .ok deployment) :
    ∀ declaration ∈ deployment.services, declaration.IsPlain := by
  have none : ∀ declaration ∈ ({} : Deployment).services, declaration.IsPlain :=
    List.forall_mem_nil _
  cases value with
  | table entries => exact foldlM_keeps _ assign_isPlain none read
  | list items =>
      obtain ⟨final, assigned, sized⟩ := bind_eq_ok_iff.mp read
      split at sized
      · cases sized
        exact foldlM_keeps _ assign_isPlain none assigned
      · cases sized
  | _ => cases read

end Deployment

/-- What is read is read again from its written form, whatever it has been read from.  Of a
deployment, the written form of each declaration holds each of its fields and each of its settings,
since no setting has the name of a field.

Settings of the logging service are read entry by entry, from a table or from a list of the fields:
each field is what is read of the entry of its name, and a default where there is none; the filters
are those of their entry, in its order.  Their written form has an entry for each field. -/
theorem read_again (value : Value) :
    (∀ deployment, Deployment.decode value = .ok deployment →
      Deployment.decode deployment.encode = .ok deployment ∧
      ∀ declaration ∈ deployment.services,
        "name" ∉ declaration.settings.keys ∧ "implementation" ∉ declaration.settings.keys ∧
        ∃ entries : Table, declaration.encode = .table entries ∧ entries.Ascends ∧
          entries.get? "name" = some (.text declaration.name) ∧
          entries.get? "implementation" = declaration.implementation.map Value.text ∧
          ∀ key, key ≠ "name" → key ≠ "implementation" →
            entries.get? key = declaration.settings.get? key) ∧
    ∀ settings, LogSettings.decode value = .ok settings →
      LogSettings.decode settings.encode = .ok settings ∧
      (∀ entries, RecordEntries LogSettings.fields value entries → settings.ReadsFrom entries) ∧
      (∀ targets, LogSettings.decodeFilters targets = .ok settings.filters ↔
        ∃ entries : Table, targets = .table entries ∧
          List.Forall₂ (fun entry filter => filter.1 = entry.1 ∧
            decodeVariant Level.variants entry.2 = .ok filter.2) entries settings.filters) ∧
      ∃ entries : Table, settings.encode = .table entries ∧ entries.Ascends ∧
        entries.keys.Perm LogSettings.fields ∧ settings.ReadsFrom entries ∧
        entries.get? "filters" = some (.table (LogSettings.writtenFilters settings.filters)) := by
  refine ⟨?deployments, ?logging⟩
  case deployments =>
    intro deployment read
    have plain := Deployment.isPlain_of_decode read
    refine ⟨Deployment.decode_encode plain, ?_⟩
    intro declaration member
    have given := plain declaration member
    exact ⟨Entries.get?_eq_none_iff.mp given.nameless, Entries.get?_eq_none_iff.mp given.keyless,
      Declaration.encode_eq given⟩
  case logging =>
    intro settings read
    exact ⟨settings.decode_encode, fun _ given => LogSettings.decode_readsFrom given read,
      fun _ => LogSettings.decodeFilters_iff, settings.encode_eq⟩

/-- A deployment as a list of its fields: no root directory, and one service without
implementation, one of whose settings holds a name. -/
def fieldList : Value :=
  .list [.null, .list [.table
    [("implementation", .null), ("name", .text "Mailer"),
     ("pool", .table [("name", .text "spare"), ("sizes", .list [.int 2, .null])])]]]

/-- The deployment itself. -/
def mailing : Deployment :=
  { services := [{ name := "Mailer", settings :=
      [("pool", .table [("name", .text "spare"), ("sizes", .list [.int 2, .null])])] }] }

/-- Settings of the logging service as a list of its first fields, with names given in two forms. -/
def shortList : Value :=
  .list [.table [("debug", .null)], .text "full"]

/-- Settings of the logging service as a table, with filters whose levels are named in two forms. -/
def filtered : Table :=
  [("filters", .table [("acme", .text "debug"), ("acme.pool", .table [("warn", .null)])])]

/-- They are read again from tables, with what the lists have left out, and with their filters. -/
theorem read_again_listed :
    Deployment.decode fieldList = .ok mailing ∧
    Deployment.decode mailing.encode = .ok mailing ∧
    LogSettings.decode shortList = .ok { level := .debug, format := .full } ∧
    LogSettings.decode (LogSettings.encode { level := .debug, format := .full }) =
      .ok { level := .debug, format := .full } ∧
    ∃ settings, LogSettings.decode (.table filtered) = .ok settings ∧
      LogSettings.decode settings.encode = .ok settings ∧
      settings.filters = [("acme", .debug), ("acme.pool", .warn)] ∧ settings.level = .info ∧
      ∃ entries : Table, settings.encode = .table entries ∧ entries.get? "filters" =
        some (.table [("acme", .text "debug"), ("acme.pool", .text "warn")]) := by
  have deployment : Deployment.decode fieldList = .ok mailing := by rfl
  have settings : LogSettings.decode shortList = .ok { level := .debug, format := .full } := by rfl
  obtain ⟨again, -⟩ := (read_again fieldList).1 mailing deployment
  obtain ⟨twice, -⟩ := (read_again shortList).2 _ settings
  refine ⟨deployment, again, settings, twice, ?_⟩
  have decoded : ∃ settings, LogSettings.decode (.table filtered) = .ok settings := ⟨_, rfl⟩
  obtain ⟨found, read⟩ := decoded
  obtain ⟨readAgain, fromEntries, -, entries, written, -, -, -, listed⟩ :=
    (read_again (.table filtered)).2 found read
  have fields := fromEntries filtered (.table (by decide))
  have filters : found.filters = [("acme", .debug), ("acme.pool", .warn)] :=
    Except.ok.inj (fields.filters.read_eq.symm.trans rfl)
  have level : found.level = .info := fields.level.eq_default
  refine ⟨found, read, readAgain, filters, level, entries, written, ?_⟩
  rw [listed, filters]
  rfl

end ServiceLifecycle
