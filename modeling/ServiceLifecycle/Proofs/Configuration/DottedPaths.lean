/-
Module: ServiceLifecycle.Proofs.Configuration.DottedPaths
Purpose: A path that is put together of two leads where the second leads from the first.
Main exports: splitAtDots_concat, pathParts_concat, pathParts_dotless, withoutTrailingDots_concat,
  Value.follow?_append, Configuration.lookup_concat, Configuration.subset?_eq,
  Configuration.lookup_subset, Configuration.subset_subset, Configuration.dotted_lookup_composes
-/
import Mathlib.Data.List.DropRight
import ServiceLifecycle.Configuration.Basic

namespace ServiceLifecycle

/-!
A path is cut at every dot, so a dot between two paths is one of the cuts, and the parts of the
whole are those of the first path followed by those of the second.  Following them means to
follow the second from where the first has led, which must be a table.

A nested section is found under its path less the dots at its end.  What is looked up in it is
therefore what is looked up under that path, a dot and the rest.  For a nested section of a nested
section this takes a rest that is not all dots: of such a rest nothing is left, and the whole path
leads to the first section.
-/

section Parts

theorem splitAtDots_ne_nil (chars : List Char) : splitAtDots chars ≠ [] := by
  cases chars with
  | nil => exact List.cons_ne_nil _ _
  | cons c rest =>
      rw [splitAtDots]
      split
      · exact List.cons_ne_nil _ _
      · split <;> exact List.cons_ne_nil _ _

/-- A dot is a cut, whatever stands before it. -/
theorem splitAtDots_concat (front rest : List Char) :
    splitAtDots (front ++ '.' :: rest) = splitAtDots front ++ splitAtDots rest := by
  induction front with
  | nil => simp only [List.nil_append, splitAtDots, if_true, List.singleton_append]
  | cons c front inductionHypothesis =>
      rw [List.cons_append, splitAtDots, splitAtDots, inductionHypothesis]
      by_cases dot : c = '.'
      · rw [if_pos dot, if_pos dot, List.cons_append]
      · rw [if_neg dot, if_neg dot]
        cases parts : splitAtDots front with
        | nil => exact absurd parts (splitAtDots_ne_nil front)
        | cons part more => rfl

theorem splitAtDots_of_not_mem {chars : List Char} (dotless : '.' ∉ chars) :
    splitAtDots chars = [chars] := by
  induction chars with
  | nil => rfl
  | cons c rest inductionHypothesis =>
      have different : c ≠ '.' := (List.ne_of_not_mem_cons dotless).symm
      have others := inductionHypothesis (List.not_mem_of_not_mem_cons dotless)
      rw [splitAtDots, if_neg different, others]

theorem pathParts_dotless {path : String} (dotless : '.' ∉ path.toList) :
    pathParts path = [path] := by
  rw [pathParts, splitAtDots_of_not_mem dotless, List.map_singleton, String.ofList_toList]

theorem pathParts_ne_nil (path : String) : pathParts path ≠ [] := by
  rw [pathParts, ne_eq, List.map_eq_nil_iff]
  exact splitAtDots_ne_nil path.toList

theorem toList_concat (path rest : String) :
    (path ++ "." ++ rest).toList = path.toList ++ '.' :: rest.toList := by
  rw [String.toList_append, String.toList_append, List.append_assoc]
  rfl

theorem pathParts_concat (path rest : String) :
    pathParts (path ++ "." ++ rest) = pathParts path ++ pathParts rest := by
  rw [pathParts, toList_concat, splitAtDots_concat, List.map_append, pathParts, pathParts]

end Parts

section TrailingDots

theorem toList_withoutTrailingDots (path : String) :
    (withoutTrailingDots path).toList = path.toList.rdropWhile (· == '.') :=
  String.toList_ofList

/-- What is taken from a path are dots at its end. -/
theorem withoutTrailingDots_append_dots (path : String) :
    ∃ n, path = withoutTrailingDots path ++ String.ofList (List.replicate n '.') := by
  have dots : ∀ c ∈ path.toList.rtakeWhile (· == '.'), c = '.' := by
    intro c member
    simpa using List.mem_rtakeWhile_imp member
  refine ⟨(path.toList.rtakeWhile (· == '.')).length, String.toList_injective ?_⟩
  rw [String.toList_append, toList_withoutTrailingDots, String.toList_ofList,
    ← List.eq_replicate_of_mem dots, List.rdropWhile_append_rtakeWhile]

/-- No dot at the end is left. -/
theorem getLast?_withoutTrailingDots (path : String) :
    (withoutTrailingDots path).toList.getLast? ≠ some '.' := by
  rw [toList_withoutTrailingDots]
  by_cases nothing : path.toList.rdropWhile (· == '.') = []
  · rw [nothing]
    exact Option.some_ne_none _ ∘ Eq.symm
  · have other := List.rdropWhile_last_not (· == '.') path.toList nothing
    rw [List.getLast?_eq_some_getLast nothing]
    simpa using other

theorem withoutTrailingDots_dotless {path : String} (dotless : '.' ∉ path.toList) :
    withoutTrailingDots path = path := by
  apply String.toList_injective
  rw [toList_withoutTrailingDots, List.rdropWhile_eq_self_iff]
  intro nonempty dot
  exact dotless (beq_iff_eq.mp dot ▸ List.getLast_mem nonempty)

/-- Nothing is left of a path of nothing but dots, and of no other. -/
theorem withoutTrailingDots_eq_empty_iff {path : String} :
    withoutTrailingDots path = "" ↔ ∀ c ∈ path.toList, c = '.' := by
  rw [← String.toList_inj, toList_withoutTrailingDots, String.toList_empty,
    List.rdropWhile_eq_nil_iff]
  simp

theorem withoutTrailingDots_idem (path : String) :
    withoutTrailingDots (withoutTrailingDots path) = withoutTrailingDots path := by
  apply String.toList_injective
  rw [toList_withoutTrailingDots, toList_withoutTrailingDots, List.rdropWhile_idempotent]

/-- The dots at the end of a path that is put together are those of its second part, unless there
is nothing else in that. -/
theorem withoutTrailingDots_concat (path rest : String) :
    withoutTrailingDots (path ++ "." ++ rest) =
      if withoutTrailingDots rest = "" then withoutTrailingDots path
      else path ++ "." ++ withoutTrailingDots rest := by
  have kept : (withoutTrailingDots rest).toList.reverse =
      rest.toList.reverse.dropWhile (· == '.') := by
    rw [toList_withoutTrailingDots, List.rdropWhile, List.reverse_reverse]
  apply String.toList_injective
  rw [toList_withoutTrailingDots, toList_concat, List.rdropWhile, List.reverse_append,
    List.reverse_cons, List.append_assoc, List.dropWhile_append, ← kept]
  by_cases nothing : withoutTrailingDots rest = ""
  · rw [if_pos nothing, nothing, if_pos (by rfl), toList_withoutTrailingDots]
    rfl
  · rw [if_neg nothing, if_neg (by simpa using nothing), toList_concat, List.reverse_append,
      List.reverse_append, List.reverse_reverse, List.reverse_reverse]
    simp

end TrailingDots

namespace Value

theorem follow?_append (parts more : List String) (value : Value) :
    follow? (parts ++ more) value = (follow? parts value).bind (follow? more) := by
  induction parts generalizing value with
  | nil => rfl
  | cons part parts inductionHypothesis =>
      rw [List.cons_append, follow?, follow?]
      cases value.child? part with
      | none => rfl
      | some child => exact inductionHypothesis child

/-- A path leads somewhere from a table only. -/
theorem follow?_pathParts (path : String) (value : Value) :
    follow? (pathParts path) value =
      value.table?.bind fun entries => Configuration.lookup entries path := by
  cases value with
  | table entries => rfl
  | _ =>
      cases parts : pathParts path with
      | nil => exact absurd parts (pathParts_ne_nil path)
      | cons part more => rfl

end Value

namespace Configuration

variable (config : Configuration) (path rest : String)

/-- A path without a dot is a key, and leads to what is stored under it. -/
theorem lookup_dotless {path : String} (dotless : '.' ∉ path.toList) :
    config.lookup path = Entries.get? path config := by
  rw [lookup, pathParts_dotless dotless]
  exact Option.bind_fun_some (Entries.get? path config)

/-- A longer path is looked up in the table that its beginning leads to. -/
theorem lookup_concat : config.lookup (path ++ "." ++ rest) =
    ((config.lookup path).bind Value.table?).bind fun entries => lookup entries rest := by
  rw [lookup, pathParts_concat, Value.follow?_append, Option.bind_assoc]
  congr 1
  funext value
  exact Value.follow?_pathParts rest value

theorem subset_eq : config.subset path =
    ((config.lookup (withoutTrailingDots path)).bind Value.table?).getD [] := by
  rw [subset]
  cases config.lookup (withoutTrailingDots path) with
  | none => rfl
  | some value => cases value <;> rfl

/-- A section is the table that its path leads to, if it holds anything. -/
theorem subset?_eq : config.subset? path =
    ((config.lookup (withoutTrailingDots path)).bind Value.table?).filter (!·.isEmpty) := by
  rw [subset?, subset_eq]
  cases (config.lookup (withoutTrailingDots path)).bind Value.table? with
  | none => rfl
  | some entries =>
      by_cases empty : entries.isEmpty = true <;> simp [Option.filter, empty]

theorem getD_subset? : (config.subset? path).getD [] = config.subset path := by
  rw [subset?]
  cases config.subset path <;> rfl

theorem lookup_empty : lookup [] path = none := by
  rw [lookup]
  cases parts : pathParts path with
  | nil => exact absurd parts (pathParts_ne_nil path)
  | cons part more => rfl

/-- What is found in a nested section is found under the longer path. -/
theorem lookup_subset : (config.subset path).lookup rest =
    config.lookup (withoutTrailingDots path ++ "." ++ rest) := by
  rw [lookup_concat, subset_eq]
  cases (config.lookup (withoutTrailingDots path)).bind Value.table? with
  | none => exact lookup_empty rest
  | some entries => rfl

/-- A section of a nested section is found under the longer path, unless its own path is all
dots: then the longer path leads to the nested section. -/
theorem subset_subset : config.subset (withoutTrailingDots path ++ "." ++ rest) =
    if withoutTrailingDots rest = "" then config.subset path
    else (config.subset path).subset rest := by
  rw [subset_eq, withoutTrailingDots_concat]
  by_cases nothing : withoutTrailingDots rest = ""
  · rw [if_pos nothing, if_pos nothing, withoutTrailingDots_idem, subset_eq]
  · rw [if_neg nothing, if_neg nothing, ← lookup_subset, ← subset_eq]

/-- Dotted lookup composes, in any configuration and for any two texts.  A path without a dot leads
to what is stored under it as a key.  What a path leads to that has a dot between its parts is what
the second part leads to in the table that the first leads to, and nothing where that is no table.

Less the dots at its end, the path of a nested section has no dot at its end.  With a dot and
another path behind it, it leads to what the other path leads to in the nested section, and to the
section that the other path has there, if that path holds anything but dots.  Otherwise it leads to
the nested section itself. -/
theorem dotted_lookup_composes :
    ('.' ∉ path.toList → config.lookup path = Entries.get? path config) ∧
    config.lookup (path ++ "." ++ rest) =
      (match config.lookup path with
      | some (.table entries) => lookup entries rest
      | _ => none) ∧
    (∃ n, path = withoutTrailingDots path ++ String.ofList (List.replicate n '.')) ∧
    (withoutTrailingDots path).toList.getLast? ≠ some '.' ∧
    (config.subset path).lookup rest = config.lookup (withoutTrailingDots path ++ "." ++ rest) ∧
    ((∃ c ∈ rest.toList, c ≠ '.') →
      config.subset (withoutTrailingDots path ++ "." ++ rest) =
        (config.subset path).subset rest) ∧
    ((∀ c ∈ rest.toList, c = '.') →
      config.subset (withoutTrailingDots path ++ "." ++ rest) = config.subset path) := by
  refine ⟨config.lookup_dotless, ?through, withoutTrailingDots_append_dots path,
    getLast?_withoutTrailingDots path,
    config.lookup_subset path rest, ?nested, ?dots⟩
  case through =>
    rw [lookup_concat]
    cases config.lookup path with
    | none => rfl
    | some value => cases value <;> rfl
  case nested =>
    rintro ⟨c, member, other⟩
    rw [subset_subset, if_neg]
    intro nothing
    exact other (withoutTrailingDots_eq_empty_iff.mp nothing c member)
  case dots =>
    intro dots
    rw [subset_subset, if_pos (withoutTrailingDots_eq_empty_iff.mpr dots)]

/-- A pool with a size, and with spare parts that have one too. -/
def pooled : Configuration :=
  [("pool", .table [("size", .int 8), ("spare", .table [("size", .int 2)])])]

/-- The pool is found under its name, its size and the size of the spare parts in it, and nothing
is found below a number. -/
theorem dotted_lookup_composes_pooled :
    pooled.lookup "pool.size" = some (.int 8) ∧ pooled.lookup "pool.size.unit" = none ∧
    (pooled.subset "pool..").lookup "spare.size" = some (.int 2) ∧
    (pooled.subset "pool").subset "spare" = [("size", .int 2)] ∧
    pooled.subset "pool..." = pooled.subset "pool" := by
  obtain ⟨anchor, through, -, -, -, nested, dots⟩ := pooled.dotted_lookup_composes "pool" "size"
  obtain ⟨-, beyond, -⟩ := pooled.dotted_lookup_composes "pool.size" "unit"
  obtain ⟨-, -, -, -, inside, -⟩ := pooled.dotted_lookup_composes "pool.." "spare.size"
  obtain ⟨-, -, -, -, -, section_eq, -⟩ := pooled.dotted_lookup_composes "pool" "spare"
  obtain ⟨-, -, -, -, -, -, ended⟩ := pooled.dotted_lookup_composes "pool" ".."
  have found := anchor (by decide)
  rw [found] at through
  have size : pooled.lookup "pool.size" = some (.int 8) := through
  refine ⟨size, ?_, ?_, ?_, ?_⟩
  · rw [size] at beyond
    exact beyond
  · exact inside
  · exact (section_eq ⟨'s', by decide, by decide⟩).symm
  · exact ended (by simp)

end Configuration

end ServiceLifecycle
