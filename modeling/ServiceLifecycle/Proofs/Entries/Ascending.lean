/-
Module: ServiceLifecycle.Proofs.Entries.Ascending
Purpose: Maps whose keys ascend: what makes them, and when two of them are the same.
Main exports: Entries.Ascends, Entries.Ascends.nodup, Entries.Ascends.putSorted,
  Entries.ascends_sorted, Entries.mem_of_mem_sorted, Entries.get?_sorted_of_mem_iff,
  Entries.Ascends.ext, Entries.Ascends.sorted_eq
-/
import Mathlib.Data.String.Basic
import ServiceLifecycle.Entries

namespace ServiceLifecycle.Entries

/-!
A table is stored by ascending key.  Then it is determined by what is found in it: two ascending
maps that hold the same under every key are the same list.
-/

variable {α : Type} {key other : String} {value : α} {entries others : Entries α}

/-- The keys ascend strictly. -/
def Ascends (entries : Entries α) : Prop :=
  entries.keys.Pairwise (· < ·)

instance (entries : Entries α) : Decidable entries.Ascends :=
  inferInstanceAs (Decidable (entries.keys.Pairwise (· < ·)))

theorem ascends_nil : Ascends ([] : Entries α) :=
  List.Pairwise.nil

theorem ascends_cons : Ascends ((key, value) :: entries) ↔
    (∀ other ∈ entries.keys, key < other) ∧ entries.Ascends :=
  List.pairwise_cons

theorem Ascends.nodup (ascends : entries.Ascends) : entries.keys.Nodup :=
  List.Pairwise.imp ne_of_lt ascends

theorem mem_keys_iff : key ∈ entries.keys ↔ ∃ value, entries.get? key = some value := by
  rw [← Option.ne_none_iff_exists', ne_eq, get?_eq_none_iff, not_not]

theorem mem_keys_putSorted :
    other ∈ keys (putSorted key value entries) ↔ other = key ∨ other ∈ entries.keys := by
  rw [mem_keys_iff, mem_keys_iff, get?_putSorted]
  by_cases same : other = key <;> simp [same]

theorem Ascends.putSorted (ascends : entries.Ascends) (key : String) (value : α) :
    Ascends (putSorted key value entries) := by
  induction entries with
  | nil => exact List.pairwise_singleton _ _
  | cons entry rest inductionHypothesis =>
      obtain ⟨k, v⟩ := entry
      obtain ⟨least, later⟩ := ascends_cons.mp ascends
      rw [Entries.putSorted]
      split
      · rename_i same
        exact ascends_cons.mpr ⟨same ▸ least, later⟩
      · rename_i different
        split
        · rename_i below
          refine ascends_cons.mpr ⟨?_, inductionHypothesis later⟩
          intro other member
          rcases mem_keys_putSorted.mp member with rfl | old
          · exact below
          · exact least other old
        · rename_i notBelow
          have above : key < k := lt_of_le_of_ne (not_lt.mp notBelow) (Ne.symm different)
          refine ascends_cons.mpr ⟨?_, ascends⟩
          intro other member
          rcases List.mem_cons.mp member with rfl | old
          · exact above
          · exact above.trans (least other old)

theorem Ascends.putAll (ascends : entries.Ascends) (more : Entries α) :
    (putAll entries more).Ascends := by
  induction more generalizing entries with
  | nil => exact ascends
  | cons entry rest inductionHypothesis =>
      exact inductionHypothesis (ascends.putSorted entry.1 entry.2)

theorem ascends_sorted (list : List (String × α)) : (sorted list).Ascends :=
  ascends_nil.putAll list

/-- What is found in the sorted map is the last of its key in the list. -/
theorem get?_sorted_eq (key : String) (list : List (String × α)) :
    get? key (sorted list) = get? key list.reverse := by
  rw [sorted, get?_putAll, get?_nil, Option.or_none]

/-- Sorting adds no entry. -/
theorem mem_of_mem_sorted {list : List (String × α)} {entry : String × α}
    (member : entry ∈ sorted list) : entry ∈ list := by
  have found := get?_of_mem (ascends_sorted list).nodup member
  rw [get?_sorted_eq] at found
  exact List.mem_reverse.mp (mem_of_get? found)

/-- Where a list has one value at most for a key, the sorted map has it. -/
theorem get?_sorted_of_mem_iff {list : List (String × α)} {found : Option α}
    (members : ∀ value, (key, value) ∈ list ↔ found = some value) :
    get? key (sorted list) = found := by
  rw [get?_sorted_eq]
  cases held : get? key list.reverse with
  | some value => exact ((members value).mp (List.mem_reverse.mp (mem_of_get? held))).symm
  | none =>
      have absent : key ∉ keys list.reverse := get?_eq_none_iff.mp held
      refine (Option.eq_none_iff_forall_ne_some.mpr ?_).symm
      intro value present
      have member : (key, value) ∈ list.reverse :=
        List.mem_reverse.mpr ((members value).mpr present)
      exact absent (List.mem_map_of_mem member)

/-- Two ascending maps in which the same is found are the same. -/
theorem Ascends.ext (ascends : entries.Ascends) (rising : others.Ascends)
    (same : ∀ key, entries.get? key = others.get? key) : entries = others := by
  induction entries generalizing others with
  | nil =>
      cases others with
      | nil => rfl
      | cons entry rest =>
          have found := same entry.1
          rw [get?_nil, get?_cons, if_pos rfl] at found
          cases found
  | cons entry rest inductionHypothesis =>
      obtain ⟨k, v⟩ := entry
      obtain ⟨least, later⟩ := ascends_cons.mp ascends
      cases others with
      | nil =>
          have found := same k
          rw [get?_nil, get?_cons, if_pos rfl] at found
          cases found
      | cons entry more =>
          obtain ⟨k', v'⟩ := entry
          obtain ⟨lowest, further⟩ := ascends_cons.mp rising
          -- Each first key is found in the other map, so neither is below the other.
          have first : k = k' := by
            have here : k ∈ keys ((k', v') :: more) :=
              mem_keys_iff.mpr ⟨v, by rw [← same, get?_cons, if_pos rfl]⟩
            have there : k' ∈ keys ((k, v) :: rest) :=
              mem_keys_iff.mpr ⟨v', by rw [same, get?_cons, if_pos rfl]⟩
            rcases List.mem_cons.mp here with equal | above
            · exact equal
            · rcases List.mem_cons.mp there with equal | below
              · exact equal.symm
              · exact absurd (lowest k above) (least k' below).asymm
          subst first
          have value : v = v' := by
            have found := same k
            rw [get?_cons, get?_cons, if_pos rfl, if_pos rfl] at found
            exact Option.some.inj found
          subst value
          refine congrArg _ (inductionHypothesis later further ?_)
          intro key
          by_cases equal : k = key
          · have fresh : get? k rest = none :=
              get?_eq_none_iff.mpr fun member => lt_irrefl k (least k member)
            have other : get? k more = none :=
              get?_eq_none_iff.mpr fun member => lt_irrefl k (lowest k member)
            rw [← equal, fresh, other]
          · have found := same key
            rwa [get?_cons, get?_cons, if_neg equal, if_neg equal] at found

/-- A map whose keys ascend is sorted. -/
theorem Ascends.sorted_eq (ascends : entries.Ascends) : sorted entries = entries :=
  (ascends_sorted entries).ext ascends fun _ =>
    get?_sorted_of_mem_iff fun _ => ⟨get?_of_mem ascends.nodup, mem_of_get?⟩

end ServiceLifecycle.Entries
