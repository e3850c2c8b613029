/-
Module: ServiceLifecycle.Proofs.Configuration.DistinctKeys
Purpose: Tables inside tables, and that no table that is read has a key twice.
Main exports: Value.EveryTable, Value.IsKeyed, Value.IsDotless, Value.isKeyed_of_read?
-/
import ServiceLifecycle.Proofs.Entries.Ascending
import ServiceLifecycle.Value.Reader

namespace ServiceLifecycle.Value

/-!
A dotted path leads from a table into the tables among its values, but not into lists.  What it
can meet on its way are the tables that are reached through tables only.  What holds of all of them
is therefore what a path can rely on: that a key is not there twice, say, which the reader sees to.
-/

/-- Something holds of the value, if it is a table, and of every table that is reached from it
through tables. -/
inductive EveryTable (holds : Table → Prop) : Value → Prop where
  | other {value : Value} (tableless : value.table? = none) : EveryTable holds value
  | table {entries : Table} (here : holds entries)
      (below : ∀ entry ∈ entries, EveryTable holds entry.2) : EveryTable holds (.table entries)

/-- No table has a key twice. -/
def IsKeyed (value : Value) : Prop :=
  value.EveryTable fun entries => entries.keys.Nodup

/-- No key holds a dot. -/
def IsDotless (value : Value) : Prop :=
  value.EveryTable fun entries => ∀ key ∈ entries.keys, '.' ∉ key.toList

theorem isKeyed_sorted {list : List (String × Value)}
    (keyed : ∀ entry ∈ list, entry.2.IsKeyed) : IsKeyed (.table (Entries.sorted list)) :=
  .table (Entries.ascends_sorted list).nodup fun entry member =>
    keyed entry (Entries.mem_of_mem_sorted member)

theorem table?_number? {chars : List Char} {value : Value} (read : number? chars = some value) :
    value.table? = none := by
  have float : ∀ {digits : List Char}, (Decimal.parse? digits).map Value.float = some value →
      value.table? = none := by
    intro digits parsed
    obtain ⟨x, -, rfl⟩ := Option.map_eq_some_iff.mp parsed
    rfl
  have integer : ∀ {n : Int}, some (Value.int n) = some value → value.table? = none := by
    rintro n ⟨⟩
    rfl
  simp only [number?] at read
  split_ifs at read
  · exact float read
  · exact integer read
  · exact float read
  · exact integer read
  · exact float read

/-- The reader keeps the entries of a table sorted, at every depth. -/
theorem isKeyed_of_readers (fuel : Nat) :
    (∀ chars value rest, readValue? fuel chars = some (value, rest) → value.IsKeyed) ∧
    ∀ chars entries rest, readEntries? fuel chars = some (entries, rest) →
      ∀ entry ∈ entries, entry.2.IsKeyed := by
  induction fuel with
  | zero =>
      refine ⟨fun chars value rest read => ?_, fun chars entries rest read => ?_⟩
      · rw [readValue?] at read
        cases read
      · rw [readEntries?] at read
        cases read
  | succ fuel inductionHypothesis =>
      obtain ⟨values, tables⟩ := inductionHypothesis
      refine ⟨?value, ?entries⟩
      case value =>
        intro chars value rest read
        rw [readValue?] at read
        split at read
        · cases read
          exact .other rfl
        · cases read
          exact .other rfl
        · cases read
          exact .other rfl
        · obtain ⟨⟨content, after⟩, -, read⟩ := Option.bind_eq_some_iff.mp read
          cases read
          exact .other rfl
        · split at read
          · cases read
            exact .other rfl
          · obtain ⟨⟨items, after⟩, -, read⟩ := Option.bind_eq_some_iff.mp read
            cases read
            exact .other rfl
        · split at read
          · cases read
            exact isKeyed_sorted (List.forall_mem_nil _)
          · obtain ⟨⟨entries, after⟩, inside, read⟩ := Option.bind_eq_some_iff.mp read
            cases read
            exact isKeyed_sorted (tables _ entries _ inside)
        · obtain ⟨number, digits, read⟩ := Option.bind_eq_some_iff.mp read
          cases read
          exact .other (table?_number? digits)
      case entries =>
        intro chars entries rest read
        rw [readEntries?] at read
        split at read
        · obtain ⟨⟨key, behind⟩, -, read⟩ := Option.bind_eq_some_iff.mp read
          dsimp only at read
          split at read
          · obtain ⟨⟨value, after⟩, inside, read⟩ := Option.bind_eq_some_iff.mp read
            have keyed : value.IsKeyed := values _ value after inside
            dsimp only at read
            split at read
            · obtain ⟨⟨more, last⟩, others, read⟩ := Option.bind_eq_some_iff.mp read
              cases read
              exact List.forall_mem_cons.mpr ⟨keyed, tables _ more last others⟩
            · cases read
              exact List.forall_mem_cons.mpr ⟨keyed, List.forall_mem_nil _⟩
            · cases read
          · cases read
        · cases read

/-- No table that is read has a key twice. -/
theorem isKeyed_of_read? {source : String} {value : Value} (read : read? source = some value) :
    value.IsKeyed := by
  obtain ⟨⟨found, rest⟩, inside, read⟩ := Option.bind_eq_some_iff.mp read
  dsimp only at read
  split at read
  · cases read
    exact (isKeyed_of_readers _).1 _ _ rest inside
  · cases read

end ServiceLifecycle.Value
