/-
Module: ServiceLifecycle.Proofs.Deployment.SettingsReading
Purpose: What the settings of the logging service owe to each entry that they are read from, and
  what is written of them.
Main exports: FieldRead, FieldStep, foldlM_fieldRead, LogSettings.ReadsFrom,
  LogSettings.decode_readsFrom, LogSettings.decodeFilters_iff, LogSettings.decode_encode,
  LogSettings.encode_eq
-/
import ServiceLifecycle.Logging.Settings
import ServiceLifecycle.Proofs.Deployment.Reading

namespace ServiceLifecycle

/-!
Each field of the settings has a name and a way to be read, and one entry is read into one field.
What an entry does to all the fields is stated once, in `LogSettings.Assigned`; what a whole table
does to a field follows from it field by field.
-/

section Fields

variable {ρ φ : Type} {read : Value → Decoded φ} {default : φ}

/-- What is read of an entry, if there is one, and a default otherwise. -/
inductive FieldRead (read : Value → Decoded φ) (default : φ) : Option Value → φ → Prop where
  | absent : FieldRead read default none default
  | given {value : Value} {found : φ} (same : read value = .ok found) :
      FieldRead read default (some value) found

theorem FieldRead.eq_default {found : φ} (field : FieldRead read default none found) :
    found = default := by
  cases field
  rfl

theorem FieldRead.read_eq {value : Value} {found : φ}
    (field : FieldRead read default (some value) found) : read value = .ok found := by
  cases field
  assumption

/-- An entry is read into the field of its name, and the others stay as they are. -/
def FieldStep (read : Value → Decoded φ) (name key : String) (value : Value)
    (before after : φ) : Prop :=
  if key = name then read value = .ok after else after = before

/-- When no name comes twice, a field is what is read of the entry of its name. -/
theorem foldlM_fieldRead {assign : ρ → String × Value → Decoded ρ} {sofar final : ρ}
    {entries : Table} {name : String} (field : ρ → φ)
    (step : ∀ {sofar key value next}, assign sofar (key, value) = .ok next →
      FieldStep read name key value (field sofar) (field next))
    (distinct : entries.keys.Nodup) (done : entries.foldlM assign sofar = .ok final) :
    FieldRead read (field sofar) (entries.get? name) (field final) := by
  refine foldlM_field field (FieldRead read (field sofar)) .absent ?own ?others distinct done
  case own =>
    intro sofar value next assigned
    have stepped := step assigned
    rw [FieldStep, if_pos rfl] at stepped
    exact .given stepped
  case others =>
    intro sofar other value next different assigned
    have stepped := step assigned
    rwa [FieldStep, if_neg different] at stepped

theorem keys_zip_sublist (names : List String) (items : List Value) :
    (Entries.keys (names.zip items)).Sublist names := by
  induction names generalizing items with
  | nil => exact .slnil
  | cons name rest inductionHypothesis =>
      cases items with
      | nil => exact List.nil_sublist _
      | cons item others => exact (inductionHypothesis others).cons_cons name

/-- The entries that a record is read from: those of a table, or the items of a list one by one. -/
inductive RecordEntries (fields : List String) : Value → Table → Prop where
  | table {entries : Table} (distinct : entries.keys.Nodup) :
      RecordEntries fields (.table entries) entries
  | list (items : List Value) : RecordEntries fields (.list items) (fields.zip items)

/-- No name comes twice among them. -/
theorem RecordEntries.nodup {fields : List String} {value : Value} {entries : Table}
    (given : RecordEntries fields value entries) (distinct : fields.Nodup) :
    entries.keys.Nodup := by
  cases given with
  | table apart => exact apart
  | list items => exact distinct.sublist (keys_zip_sublist fields items)

theorem RecordEntries.foldlM_of_decode {fields : List String} {value : Value} {entries : Table}
    {wanted : String} {assign : ρ → String × Value → Decoded ρ} {initial record : ρ}
    (given : RecordEntries fields value entries)
    (decoded : decodeRecord wanted fields assign initial value = .ok record) :
    entries.foldlM assign initial = .ok record := by
  cases given with
  | table apart => exact decoded
  | list items =>
      obtain ⟨final, assigned, sized⟩ := bind_eq_ok_iff.mp decoded
      split at sized
      · cases sized
        exact assigned
      · cases sized

end Fields

namespace LogSettings

variable {settings sofar next : LogSettings} {value : Value} {entries : Table} {key : String}

/-- What an entry does to the fields. -/
structure Assigned (key : String) (value : Value) (sofar next : LogSettings) : Prop where
  level : FieldStep (decodeVariant Level.variants) "level" key value sofar.level next.level
  format : FieldStep (decodeVariant Format.variants) "format" key value sofar.format next.format
  output : FieldStep (decodeVariant Output.variants) "output" key value sofar.output next.output
  filePath : FieldStep (decodeOptional (decodeText "path string")) "file_path" key value
    sofar.filePath next.filePath
  threadIds : FieldStep decodeFlag "thread_ids" key value sofar.threadIds next.threadIds
  fileLocation : FieldStep decodeFlag "file_location" key value sofar.fileLocation
    next.fileLocation
  filters : FieldStep decodeFilters "filters" key value sofar.filters next.filters
  spanEvents : FieldStep SpanEvents.decode "span_events" key value sofar.spanEvents
    next.spanEvents

theorem assigned_of_assign (done : sofar.assign (key, value) = .ok next) :
    Assigned key value sofar next := by
  rw [assign] at done
  split at done
  case h_9 =>
    -- Nothing is read of an entry with another name.
    cases done
    constructor <;> rw [FieldStep, if_neg] <;> assumption
  all_goals
    rename_i named
    obtain ⟨found, read, same⟩ := bind_eq_ok_iff.mp done
    cases same
    cases named
    constructor <;> first | exact (if_pos rfl).mpr read | exact (if_neg (by decide)).mpr rfl

/-- What the settings owe to the entries that they are read from. -/
structure ReadsFrom (entries : Table) (settings : LogSettings) : Prop where
  level : FieldRead (decodeVariant Level.variants) .info (entries.get? "level") settings.level
  format : FieldRead (decodeVariant Format.variants) .compact (entries.get? "format")
    settings.format
  output : FieldRead (decodeVariant Output.variants) .stdout (entries.get? "output")
    settings.output
  filePath : FieldRead (decodeOptional (decodeText "path string")) none
    (entries.get? "file_path") settings.filePath
  threadIds : FieldRead decodeFlag false (entries.get? "thread_ids") settings.threadIds
  fileLocation : FieldRead decodeFlag false (entries.get? "file_location") settings.fileLocation
  filters : FieldRead decodeFilters [] (entries.get? "filters") settings.filters
  spanEvents : FieldRead SpanEvents.decode {} (entries.get? "span_events") settings.spanEvents

/-- Every field is read of the entry of its name. -/
theorem decode_readsFrom (given : RecordEntries fields value entries)
    (decoded : decode value = .ok settings) : settings.ReadsFrom entries := by
  have done : entries.foldlM assign {} = .ok settings := given.foldlM_of_decode decoded
  have distinct : entries.keys.Nodup := given.nodup (by decide)
  constructor
  case level => exact foldlM_fieldRead level (assigned_of_assign · |>.level) distinct done
  case format => exact foldlM_fieldRead format (assigned_of_assign · |>.format) distinct done
  case output => exact foldlM_fieldRead output (assigned_of_assign · |>.output) distinct done
  case filePath =>
    exact foldlM_fieldRead filePath (assigned_of_assign · |>.filePath) distinct done
  case threadIds =>
    exact foldlM_fieldRead threadIds (assigned_of_assign · |>.threadIds) distinct done
  case fileLocation =>
    exact foldlM_fieldRead fileLocation (assigned_of_assign · |>.fileLocation) distinct done
  case filters => exact foldlM_fieldRead filters (assigned_of_assign · |>.filters) distinct done
  case spanEvents =>
    exact foldlM_fieldRead spanEvents (assigned_of_assign · |>.spanEvents) distinct done

/-- Filters are read of a table, one of each entry and in the same order. -/
theorem decodeFilters_iff {filters : Entries Level} : decodeFilters value = .ok filters ↔
    ∃ targets : Table, value = .table targets ∧
      List.Forall₂ (fun target filter => filter.1 = target.1 ∧
        decodeVariant Level.variants target.2 = .ok filter.2) targets filters := by
  constructor
  · intro read
    cases value with
    | table targets =>
        refine ⟨targets, rfl, (mapM_eq_ok_iff.mp read).imp fun target filter one => ?_⟩
        obtain ⟨level, found, same⟩ := bind_eq_ok_iff.mp one
        cases same
        exact ⟨rfl, found⟩
    | _ => cases read
  · rintro ⟨targets, rfl, each⟩
    refine mapM_eq_ok_iff.mpr (each.imp fun target filter one => ?_)
    obtain ⟨named, found⟩ := one
    exact bind_eq_ok_iff.mpr ⟨filter.2, found, by rw [← named]; rfl⟩

theorem decode_level (level : Level) :
    decodeVariant Level.variants (.text level.name) = .ok level := by
  cases level <;> rfl

/-- The written form of filters. -/
def writtenFilters (filters : Entries Level) : Table :=
  filters.map fun filter => (filter.1, .text filter.2.name)

theorem decodeFilters_written (filters : Entries Level) :
    decodeFilters (.table (writtenFilters filters)) = .ok filters := by
  refine decodeFilters_iff.mpr ⟨_, rfl, List.forall₂_map_left_iff.mpr (List.forall₂_same.mpr ?_)⟩
  exact fun filter _ => ⟨rfl, decode_level filter.2⟩

/-- Settings of the logging service are read again from their written form. -/
theorem decode_encode (settings : LogSettings) : decode settings.encode = .ok settings := by
  have format :
      decodeVariant Format.variants (.text settings.format.name) = .ok settings.format := by
    cases settings.format <;> rfl
  have output :
      decodeVariant Output.variants (.text settings.output.name) = .ok settings.output := by
    cases settings.output <;> rfl
  have path : decodeOptional (decodeText "path string")
      ((settings.filePath.map Value.text).getD .null) = .ok settings.filePath := by
    cases settings.filePath <;> rfl
  have events : SpanEvents.decode settings.spanEvents.encode = .ok settings.spanEvents := rfl
  have filters : decodeFilters
      (.table (settings.filters.map fun entry => (entry.1, .text entry.2.name))) =
        .ok settings.filters := decodeFilters_written settings.filters
  simp only [decode, encode, decodeRecord, List.foldlM_cons, List.foldlM_nil, assign, decodeFlag,
    decode_level, format, output, path, events, filters]
  rfl

/-- The written form has an entry for every field and nothing else, and the field is what is read
of it. -/
theorem encode_eq (settings : LogSettings) :
    ∃ entries : Table, settings.encode = .table entries ∧ entries.Ascends ∧
      entries.keys.Perm fields ∧ settings.ReadsFrom entries ∧
      entries.get? "filters" = some (.table (writtenFilters settings.filters)) := by
  let names := ["file_location", "file_path", "filters", "format", "level", "output",
    "span_events", "thread_ids"]
  have ascends : names.Pairwise (· < ·) := by decide
  have listed : names.Perm fields := by decide
  have distinct : names.Nodup := by decide
  refine ⟨_, rfl, ascends, listed, ?_, rfl⟩
  exact decode_readsFrom (.table distinct) settings.decode_encode

end LogSettings

end ServiceLifecycle
