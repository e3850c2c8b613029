/-
Module: ServiceLifecycle.Proofs.Source.Overlay
Purpose: What stands in a tree that has been merged from a stack of trees.
Main exports: AlikeOrTables, Table.get?_overlay, Entries.Ascends.overlay, Loader.highest?,
  Loader.highest?_eq_some_iff, Loader.ascends_merged, Loader.merged_alike,
  Value.keys_carriedEntries?
-/
import Mathlib.Data.List.Induction
import ServiceLifecycle.Proofs.Entries.Ascending
import ServiceLifecycle.Source.Loader

namespace ServiceLifecycle

/-!
Where trees are merged, the highest of those that have a key decides what stands under it.  Only a
table that meets a table below it does not replace it.  What is read as a text or as a list is no
table, so that such a field is what the highest tree says, or it cannot be read at all.
-/

/-- The same, or two tables. -/
inductive AlikeOrTables : Option Value → Option Value → Prop where
  | alike (entry : Option Value) : AlikeOrTables entry entry
  | tables (entries others : Table) : AlikeOrTables (some (.table entries)) (some (.table others))

theorem Value.overlay_alike (low high : Value) :
    AlikeOrTables (some (low.overlay high)) (some high) := by
  cases high with
  | table others =>
      cases low with
      | table entries => exact .tables (overlayEntries entries others) others
      | _ => exact .alike (some (.table others))
  | _ => exact .alike _

namespace Table

/-- Under a key of the upper table stands its value, laid over what has been there. -/
theorem get?_overlay {high : Table} (distinct : high.keys.Nodup) (low : Table) (key : String) :
    Entries.get? key (low.overlay high) =
      match high.get? key with
      | some above => some (((low.get? key).map fun below => below.overlay above).getD above)
      | none => low.get? key := by
  induction high generalizing low with
  | nil => rfl
  | cons entry rest inductionHypothesis =>
      obtain ⟨k, above⟩ := entry
      obtain ⟨fresh, later⟩ := List.nodup_cons.mp distinct
      have step : low.overlay ((k, above) :: rest) = overlay (Entries.putSorted k
          (((low.get? k).map fun below => below.overlay above).getD above) low) rest := by
        rw [overlay, Value.overlayEntries]
        cases low.get? k <;> rfl
      rw [step, inductionHypothesis later, Entries.get?_cons]
      by_cases same : k = key
      · subst same
        -- The key does not come again, so what has been stored under it stays.
        rw [Entries.get?_eq_none_iff.mpr fresh, if_pos rfl, Entries.get?_putSorted, if_pos rfl]
      · rw [if_neg same, Entries.get?_putSorted, if_neg (Ne.symm same)]

theorem overlay_nil (low : Table) : low.overlay [] = low := rfl

end Table

theorem Entries.Ascends.overlay {low : Table} (ascends : low.Ascends) (high : Table) :
    (low.overlay high).Ascends := by
  induction high generalizing low with
  | nil => exact ascends
  | cons entry rest inductionHypothesis =>
      rw [Table.overlay, Value.overlayEntries]
      exact inductionHypothesis (ascends.putSorted _ _)

theorem Variables.ascends_tree (environment : Variables) : environment.tree.Ascends := by
  have fold : ∀ tree : Table, tree.Ascends → (environment.foldl
      (fun tree binding => tree.overlay (Source.variableTree binding)) tree).Ascends := by
    induction environment with
    | nil => exact fun _ ascends => ascends
    | cons binding rest inductionHypothesis =>
        intro tree ascends
        rw [List.foldl_cons]
        exact inductionHypothesis _ (Entries.Ascends.overlay ascends _)
  rw [tree]
  exact fold [] Entries.ascends_nil

namespace Loader

/-- What the highest of a stack says, if any says something. -/
def highest? {α : Type} (said : α → Option Value) (stack : List α) : Option Value :=
  stack.reverse.findSome? said

/-- The highest that says something is above all others that do. -/
theorem highest?_eq_some_iff {α : Type} {said : α → Option Value} {stack : List α}
    {value : Value} : highest? said stack = some value ↔ ∃ below top above,
      stack = below ++ top :: above ∧ said top = some value ∧
        ∀ higher ∈ above, said higher = none := by
  rw [highest?, List.findSome?_eq_some_iff]
  constructor
  · rintro ⟨above, top, below, split, found, silent⟩
    refine ⟨below.reverse, top, above.reverse, ?_, found, ?_⟩
    · rw [← List.reverse_inj, split]
      simp
    · exact fun higher member => silent higher (List.mem_reverse.mp member)
  · rintro ⟨below, top, above, rfl, found, silent⟩
    refine ⟨above.reverse, top, below.reverse, by simp, found, ?_⟩
    exact fun higher member => silent higher (List.mem_reverse.mp member)

theorem highest?_concat {α : Type} (said : α → Option Value) (stack : List α) (top : α) :
    highest? said (stack ++ [top]) = (said top).or (highest? said stack) := by
  rw [highest?, List.reverse_concat, List.findSome?_cons]
  cases said top <;> rfl

theorem merged_concat (trees : List Table) (top : Table) :
    merged (trees ++ [top]) = (merged trees).overlay top :=
  List.foldl_concat _ _ _ _

theorem ascends_merged (trees : List Table) : Entries.Ascends (merged trees) := by
  induction trees using List.reverseRecOn with
  | nil => exact Entries.ascends_nil
  | append_singleton trees top inductionHypothesis =>
      rw [merged_concat]
      exact inductionHypothesis.overlay top

/-- Under each key stands what the highest tree says that has the key. -/
theorem merged_alike {trees : List Table} (distinct : ∀ tree ∈ trees, tree.keys.Nodup)
    (key : String) :
    AlikeOrTables (Entries.get? key (merged trees)) (highest? (Entries.get? key) trees) := by
  induction trees using List.reverseRecOn with
  | nil => exact .alike _
  | append_singleton trees top inductionHypothesis =>
      obtain ⟨lower, upper⟩ := List.forall_mem_append.mp distinct
      have keyed : top.keys.Nodup := upper top (List.mem_singleton_self top)
      rw [merged_concat, highest?_concat, Table.get?_overlay keyed]
      -- The topmost tree decides unless it keeps silent.
      cases top.get? key with
      | none => exact inductionHypothesis lower
      | some above =>
          cases Entries.get? key (merged trees) with
          | none => exact .alike _
          | some below => exact below.overlay_alike above

/-- A tree without entries changes nothing, wherever it stands in the stack. -/
theorem merged_nil_between (before after : List Table) :
    merged (before ++ [] :: after) = merged (before ++ after) := by
  rw [merged, List.foldl_append, List.foldl_cons, Table.overlay_nil, merged, List.foldl_append]

end Loader

theorem Value.keys_carriedEntries? {entries others : Table}
    (carried : Value.carriedEntries? entries = some others) : others.keys = entries.keys := by
  induction entries generalizing others with
  | nil =>
      cases carried
      rfl
  | cons entry rest inductionHypothesis =>
      obtain ⟨key, value⟩ := entry
      obtain ⟨content, -, following⟩ := Option.bind_eq_some_iff.mp carried
      obtain ⟨more, rests, same⟩ := Option.bind_eq_some_iff.mp following
      cases same
      exact congrArg (key :: ·) (inductionHypothesis rests)

end ServiceLifecycle
