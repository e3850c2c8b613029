/-
Module: ServiceLifecycle.Proofs.Configuration.FlatProperties
Purpose: The flat properties of a section are what dotted paths find in it.
Main exports: intercalate_pathParts, pathParts_intercalate, Value.propertyText?, Value.mem_flatten,
  Configuration.mem_flattenEntries, Configuration.properties_agree
-/
import ServiceLifecycle.Configuration.Properties
import ServiceLifecycle.Proofs.Configuration.DistinctKeys
import ServiceLifecycle.Proofs.Configuration.DottedPaths
import ServiceLifecycle.Proofs.Configuration.JsonText

namespace ServiceLifecycle

/-!
A section is flattened by joining the keys on the way to each value with dots, and a path is looked
up by cutting it at its dots.  A key with a dot in it makes the two disagree.  Where there is none,
joined keys are cut into the same keys again, so that each property stands under the path of its
value, and no two values share one.  Empty keys do no harm: the path of one is the empty text.
-/

section Paths

/-- A path is its parts with dots between them. -/
theorem intercalate_pathParts (path : String) : ".".intercalate (pathParts path) = path := by
  have joined (chars : List Char) : List.intercalate ['.'] (splitAtDots chars) = chars := by
    induction chars with
    | nil => rfl
    | cons c rest inductionHypothesis =>
        rw [splitAtDots]
        cases parts : splitAtDots rest with
        | nil => exact absurd parts (splitAtDots_ne_nil rest)
        | cons part more =>
            rw [parts] at inductionHypothesis
            by_cases dot : c = '.'
            · rw [if_pos dot, List.intercalate_cons_cons, inductionHypothesis, dot]
              rfl
            · rw [if_neg dot]
              -- The separator comes behind the first part, which alone has grown.
              cases more with
              | nil =>
                  rw [List.intercalate_singleton] at inductionHypothesis ⊢
                  rw [inductionHypothesis]
              | cons next others =>
                  rw [List.intercalate_cons_cons] at inductionHypothesis ⊢
                  rw [← inductionHypothesis]
                  rfl
  apply String.toList_injective
  rw [String.toList_intercalate, pathParts, List.map_map]
  have same : String.toList ∘ String.ofList = id := funext fun _ => String.toList_ofList
  rw [same, List.map_id]
  exact joined path.toList

/-- Parts without dots are found again. -/
theorem pathParts_intercalate {parts : List String} (some : parts ≠ [])
    (dotless : ∀ part ∈ parts, '.' ∉ part.toList) :
    pathParts (".".intercalate parts) = parts := by
  induction parts with
  | nil => exact absurd rfl some
  | cons part rest inductionHypothesis =>
      obtain ⟨here, later⟩ := List.forall_mem_cons.mp dotless
      cases rest with
      | nil => rw [String.intercalate_singleton, pathParts_dotless here]
      | cons next more =>
          rw [String.intercalate_cons_cons, pathParts_concat, pathParts_dotless here,
            inductionHypothesis (List.cons_ne_nil _ _) later, List.singleton_append]

/-- Two parts may be joined first. -/
theorem intercalate_joined (first second : String) (rest : List String) :
    ".".intercalate ((first ++ "." ++ second) :: rest) =
      ".".intercalate (first :: second :: rest) := by
  rw [String.intercalate_cons_cons]
  cases rest with
  | nil => rw [String.intercalate_singleton, String.intercalate_singleton]
  | cons next more =>
      rw [String.intercalate_cons_cons, String.intercalate_cons_cons]
      simp only [String.append_assoc]

end Paths

namespace Value

/-- The text of a property: a text as it is, nothing for null, the items of a list with commas
between them, texts among them as they are, and the JSON text of all else.  A table is no
property. -/
def propertyText? : Value → Option String
  | .table _ => none
  | .text value => some value
  | .null => some ""
  | .list items => some (",".intercalate (items.map fun item => (item.text?).getD item.render))
  | value => some value.render

variable {key path text : String} {value leaf : Value}

theorem flatten_of_tableless (key : String) (tableless : value.table? = none) :
    ∃ text, value.propertyText? = some text ∧ value.flatten key = [(key, text)] := by
  cases value with
  | table entries => cases tableless
  | list items =>
      have shown : items.map itemText = items.map fun item => (item.text?).getD item.render :=
        List.map_congr_left fun item _ => by cases item <;> rfl
      exact ⟨_, rfl, by rw [flatten, shown]⟩
  | _ => exact ⟨_, rfl, by simp only [flatten]⟩

theorem mem_flattenEntries {stem : String} {entries : Table} :
    (path, text) ∈ flattenEntries stem entries ↔
      ∃ entry ∈ entries, (path, text) ∈ entry.2.flatten (stem ++ entry.1) := by
  induction entries with
  | nil => simp [flattenEntries]
  | cons entry rest inductionHypothesis =>
      rw [flattenEntries, List.mem_append, inductionHypothesis, List.exists_mem_cons_iff]

/-- Through a table a path leads to where the rest of it leads from one of the entries. -/
theorem follow?_cons {entries : Table} {part : String} {parts : List String} :
    follow? (part :: parts) (.table entries) = (entries.get? part).bind (follow? parts) := by
  rw [follow?, child?]

/-- The entries of a table contribute what the paths into it lead to, if each of their values does
so. -/
theorem mem_flattenEntries_of_distinct {stem : String} {entries : Table}
    (distinct : entries.keys.Nodup)
    (inside : ∀ entry ∈ entries, ∀ key, (path, text) ∈ entry.2.flatten key ↔
      ∃ parts leaf, follow? parts entry.2 = some leaf ∧ leaf.propertyText? = some text ∧
        path = ".".intercalate (key :: parts)) :
    (path, text) ∈ flattenEntries stem entries ↔ ∃ part parts leaf,
      follow? (part :: parts) (.table entries) = some leaf ∧ leaf.propertyText? = some text ∧
        path = ".".intercalate ((stem ++ part) :: parts) := by
  rw [mem_flattenEntries]
  constructor
  · rintro ⟨entry, member, flat⟩
    obtain ⟨parts, leaf, followed, said, same⟩ := (inside entry member _).mp flat
    refine ⟨entry.1, parts, leaf, ?_, said, same⟩
    rw [follow?_cons, Entries.get?_of_mem distinct member]
    exact followed
  · rintro ⟨part, parts, leaf, followed, said, same⟩
    rw [follow?_cons] at followed
    obtain ⟨child, found, followed⟩ := Option.bind_eq_some_iff.mp followed
    have member : (part, child) ∈ entries := Entries.mem_of_get? found
    exact ⟨_, member, (inside _ member _).mpr ⟨parts, leaf, followed, said, same⟩⟩

/-- A value contributes what the paths from it lead to, each under the path itself. -/
theorem mem_flatten (keyed : value.IsKeyed) :
    (path, text) ∈ value.flatten key ↔ ∃ parts leaf, follow? parts value = some leaf ∧
      leaf.propertyText? = some text ∧ path = ".".intercalate (key :: parts) := by
  induction keyed generalizing key with
  | @other value tableless =>
      obtain ⟨own, shown, flat⟩ := flatten_of_tableless key tableless
      rw [flat, List.mem_singleton, Prod.mk.injEq]
      constructor
      · rintro ⟨rfl, rfl⟩
        exact ⟨[], value, rfl, shown, String.intercalate_singleton.symm⟩
      · rintro ⟨parts, leaf, followed, said, rfl⟩
        cases parts with
        | nil =>
            obtain rfl := Option.some.inj followed
            rw [shown] at said
            exact ⟨String.intercalate_singleton, (Option.some.inj said).symm⟩
        | cons part parts =>
            -- Only tables have children.
            have childless : value.child? part = none := by
              cases value with
              | table entries => cases tableless
              | _ => rfl
            rw [follow?, childless] at followed
            cases followed
  | @table entries distinct below inductionHypothesis =>
      rw [flatten, mem_flattenEntries_of_distinct distinct fun entry member _ =>
        inductionHypothesis entry member]
      constructor
      · rintro ⟨part, parts, leaf, followed, said, rfl⟩
        exact ⟨part :: parts, leaf, followed, said, intercalate_joined key part parts⟩
      · rintro ⟨parts, leaf, followed, said, rfl⟩
        cases parts with
        | nil =>
            obtain rfl := Option.some.inj followed
            cases said
        | cons part parts =>
            exact ⟨part, parts, leaf, followed, said, (intercalate_joined key part parts).symm⟩

/-- A path that leads somewhere has only keys for its parts. -/
theorem dotless_of_follow? (dotless : value.IsDotless) {parts : List String}
    (followed : follow? parts value = some leaf) : ∀ part ∈ parts, '.' ∉ part.toList := by
  induction parts generalizing value with
  | nil => exact List.forall_mem_nil _
  | cons part parts inductionHypothesis =>
      cases dotless with
      | other tableless =>
          cases value with
          | table entries => cases tableless
          | _ => cases followed
      | table here below =>
          rw [follow?_cons] at followed
          obtain ⟨child, found, followed⟩ := Option.bind_eq_some_iff.mp followed
          refine List.forall_mem_cons.mpr ⟨here part (Entries.mem_keys_of_get? found), ?_⟩
          exact inductionHypothesis (below _ (Entries.mem_of_get? found)) followed

end Value

namespace Configuration

variable {config : Configuration}

/-- The properties of a section are what the paths in it lead to. -/
theorem mem_flattenEntries (keyed : (Value.table config).IsKeyed) {path text : String} :
    (path, text) ∈ Value.flattenEntries "" config ↔ ∃ parts leaf, parts ≠ [] ∧
      Value.follow? parts (.table config) = some leaf ∧ leaf.propertyText? = some text ∧
      path = ".".intercalate parts := by
  cases keyed with
  | other tableless => cases tableless
  | table distinct below =>
      rw [Value.mem_flattenEntries_of_distinct distinct fun entry member _ =>
        Value.mem_flatten (below entry member)]
      constructor
      · rintro ⟨part, parts, leaf, followed, said, rfl⟩
        rw [String.empty_append]
        exact ⟨part :: parts, leaf, List.cons_ne_nil _ _, followed, said, rfl⟩
      · rintro ⟨parts, leaf, nonempty, followed, said, rfl⟩
        cases parts with
        | nil => exact absurd rfl nonempty
        | cons part parts => exact ⟨part, parts, leaf, followed, said, by rw [String.empty_append]⟩

/-- In a section without dots in its keys, the flat properties are what dotted paths find.  A path
has a property if and only if it leads to something else than a table, and the text is that of
what it leads to.  The properties are listed by ascending path, each once.  Whatever keys lead to a
value, joined with dots they are a path that is cut into these keys again, so that no two values
share a property, and the property of that path is the text of the value.

The text of a value that is no text, and of an item of a list that is none, is JSON, from which the
value is read again: its integers have 64 bits, and its floats the digits that determine them. -/
theorem properties_agree (keyed : (Value.table config).IsKeyed)
    (dotless : (Value.table config).IsDotless) :
    (∀ path, config.properties.get? path = (config.lookup path).bind Value.propertyText?) ∧
    config.properties.Ascends ∧
    (∀ parts leaf, parts ≠ [] → Value.follow? parts (.table config) = some leaf →
      pathParts (".".intercalate parts) = parts ∧
      config.properties.get? (".".intercalate parts) = leaf.propertyText?) ∧
    ∀ value : Value, value.IsLegible → Value.read? value.render = some value := by
  have cut : ∀ parts leaf, parts ≠ [] → Value.follow? parts (.table config) = some leaf →
      pathParts (".".intercalate parts) = parts := fun parts leaf nonempty followed =>
    pathParts_intercalate nonempty (Value.dotless_of_follow? dotless followed)
  have agree : ∀ path,
      config.properties.get? path = (config.lookup path).bind Value.propertyText? := by
    intro path
    apply Entries.get?_sorted_of_mem_iff
    intro text
    rw [mem_flattenEntries keyed, Option.bind_eq_some_iff]
    constructor
    · rintro ⟨parts, leaf, nonempty, followed, said, rfl⟩
      exact ⟨leaf, by rw [lookup, cut parts leaf nonempty followed, followed], said⟩
    · rintro ⟨leaf, found, said⟩
      exact ⟨pathParts path, leaf, pathParts_ne_nil path, found, said,
        (intercalate_pathParts path).symm⟩
  refine ⟨agree, Entries.ascends_sorted _, ?_, fun _ legible => Value.read?_render legible⟩
  intro parts leaf nonempty followed
  have parted := cut parts leaf nonempty followed
  refine ⟨parted, ?_⟩
  rw [agree, lookup, parted, followed, Option.bind_some]

/-- A section with empty keys, an empty table, a float, and a list of a text and a table. -/
def nested : Configuration :=
  [("", .table [("", .null)]),
   ("hosts", .list [.text "a\n", .table [("b.c", .text "\"x\"\n\x01")]]),
   ("none", .table []),
   ("pool", .table [("rate", .float 0.25), ("spare", .table [("on", .bool true)])])]

/-- The section as a text. -/
def nestedSource : String :=
  "\x7b\"\":\x7b\"\":null\x7d,\"hosts\":[\"a\\n\",\x7b\"b.c\":\"\\\"x\\\"\\n\\u0001\"\x7d]," ++
    "\"none\":\x7b\x7d,\"pool\":\x7b\"rate\":0.25,\"spare\":\x7b\"on\":true\x7d\x7d\x7d"

/-- The section is read from its text, and what is found in it at any depth is among its flat
properties, under the empty keys too.  The text in the list stands there as it is, and the one in
the table of the list with its quotation marks and controls escaped. -/
theorem properties_agree_nested :
    Value.render (.table nested) = nestedSource ∧
    Value.read? nestedSource = some (.table nested) ∧
    (Value.table nested).IsKeyed ∧ (Value.table nested).IsDotless ∧
    nested.properties.get? "pool.spare.on" = some "true" ∧
    nested.properties.get? "pool.rate" = some "0.25" ∧
    nested.properties.get? "." = some "" ∧
    nested.properties.get? "hosts" =
      some "a\n,\x7b\"b.c\":\"\\\"x\\\"\\n\\u0001\"\x7d" ∧
    nested.properties.get? "none" = none := by
  have legible : (Value.table nested).IsLegible := by
    refine .table (by decide) ?_
    simp only [nested, List.forall_mem_cons, List.not_mem_nil, false_imp_iff, implies_true,
      and_true]
    refine ⟨.table (by decide) ?_, .list ?_, .table (by decide) ?_, .table (by decide) ?_⟩
    · exact List.forall_mem_cons.mpr ⟨.null, List.forall_mem_nil _⟩
    · refine List.forall_mem_cons.mpr ⟨.text _,
        List.forall_mem_cons.mpr ⟨?_, List.forall_mem_nil _⟩⟩
      exact .table (by decide) (List.forall_mem_cons.mpr ⟨.text _, List.forall_mem_nil _⟩)
    · exact List.forall_mem_nil _
    · refine List.forall_mem_cons.mpr ⟨.float (by decide +kernel),
        List.forall_mem_cons.mpr ⟨?_, List.forall_mem_nil _⟩⟩
      exact .table (by decide) (List.forall_mem_cons.mpr ⟨.bool true, List.forall_mem_nil _⟩)
  have keyed : (Value.table nested).IsKeyed := Value.isKeyed_of_read? (Value.read?_render legible)
  have dotless : (Value.table nested).IsDotless := by
    have spare : (Value.table [("on", .bool true)]).IsDotless := by
      exact .table (by decide) (List.forall_mem_cons.mpr ⟨.other rfl, List.forall_mem_nil _⟩)
    refine .table (by decide) ?_
    simp only [nested, List.forall_mem_cons, List.not_mem_nil, false_imp_iff, implies_true,
      and_true]
    refine ⟨.table (by decide) ?_, .other rfl, .table (by decide) ?_, .table (by decide) ?_⟩
    · exact List.forall_mem_cons.mpr ⟨.other rfl, List.forall_mem_nil _⟩
    · exact List.forall_mem_nil _
    · exact List.forall_mem_cons.mpr ⟨.other rfl, List.forall_mem_cons.mpr
        ⟨spare, List.forall_mem_nil _⟩⟩
  obtain ⟨agree, -, -, back⟩ := properties_agree keyed dotless
  have written : Value.render (.table nested) = nestedSource := by decide +kernel
  refine ⟨written, written ▸ back _ legible, keyed, dotless, ?_, ?_, ?_, ?_, ?_⟩
  · rw [agree]
    decide +kernel
  · rw [agree]
    decide +kernel
  · rw [agree]
    decide +kernel
  · rw [agree]
    decide +kernel
  · rw [agree]
    decide +kernel

end Configuration

end ServiceLifecycle
