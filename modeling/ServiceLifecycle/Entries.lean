/-
Module: ServiceLifecycle.Entries
Purpose: Finite maps from text keys, kept as lists of entries.
Main exports: Entries, Entries.get?, Entries.put, Entries.putSorted, Entries.erase
-/

namespace ServiceLifecycle

/-!
A map is a list of entries whose keys are distinct.  Two orders occur.  `put`
keeps the order in which keys were first added, which is what a mapping of
services needs: it decides the order of startup.  `putSorted` keeps the keys in
ascending order of their characters, which is how configuration tables are
stored and listed.
-/

/-- A list of entries; maps have at most one entry per key. -/
abbrev Entries (α : Type) := List (String × α)

namespace Entries

variable {α β : Type}

/-- The value stored under a key. -/
def get? (key : String) : Entries α → Option α
  | [] => none
  | (k, v) :: rest => if k = key then some v else get? key rest

/-- The key has an entry. -/
def contains (key : String) (entries : Entries α) : Bool :=
  (entries.get? key).isSome

/-- The keys in stored order. -/
def keys (entries : Entries α) : List String :=
  entries.map Prod.fst

/-- Store a value: in place of the old one, or as the last entry. -/
def put (key : String) (value : α) : Entries α → Entries α
  | [] => [(key, value)]
  | (k, v) :: rest => if k = key then (key, value) :: rest else (k, v) :: put key value rest

/-- Store a value, keeping ascending keys ascending. -/
def putSorted (key : String) (value : α) : Entries α → Entries α
  | [] => [(key, value)]
  | (k, v) :: rest =>
      if k = key then (key, value) :: rest
      else if k < key then (k, v) :: putSorted key value rest
      else (key, value) :: (k, v) :: rest

/-- Drop what is stored under a key; the others keep their places. -/
def erase (key : String) (entries : Entries α) : Entries α :=
  entries.filter fun entry => entry.1 != key

/-- Store the entries of the second map into the first, in order. -/
def putAll (entries more : Entries α) : Entries α :=
  more.foldl (fun acc entry => acc.putSorted entry.1 entry.2) entries

/-- The ascending map that holds, for every key, its last value in the list. -/
def sorted (entries : List (String × α)) : Entries α :=
  putAll [] entries

/-- The keys in ascending order. -/
def sortedKeys (entries : Entries α) : List String :=
  (sorted entries).keys

@[simp] theorem get?_nil (key : String) : get? key ([] : Entries α) = none := rfl

theorem get?_cons (key k : String) (v : α) (rest : Entries α) :
    get? key ((k, v) :: rest) = if k = key then some v else get? key rest := rfl

theorem get?_put (key other : String) (value : α) (entries : Entries α) :
    get? other (put key value entries) =
      if other = key then some value else get? other entries := by
  induction entries with
  | nil => simp [put, get?, eq_comm]
  | cons entry rest ih =>
      obtain ⟨k, v⟩ := entry
      simp only [put]
      split
      · rename_i hk
        subst hk
        simp only [get?]
        by_cases h : k = other
        · simp [h]
        · simp [h, Ne.symm h]
      · rename_i hk
        simp only [get?, ih]
        by_cases h : k = other
        · subst h
          simp [hk]
        · simp [h]

theorem get?_putSorted (key other : String) (value : α) (entries : Entries α) :
    get? other (putSorted key value entries) =
      if other = key then some value else get? other entries := by
  induction entries with
  | nil => simp [putSorted, get?, eq_comm]
  | cons entry rest ih =>
      obtain ⟨k, v⟩ := entry
      simp only [putSorted]
      split
      · rename_i hk
        subst hk
        simp only [get?]
        by_cases h : k = other
        · simp [h]
        · simp [h, Ne.symm h]
      · rename_i hk
        split
        · simp only [get?, ih]
          by_cases h : k = other
          · subst h
            simp [hk]
          · simp [h]
        · simp only [get?]
          by_cases h : key = other
          · simp [h]
          · simp [h, Ne.symm h]

theorem get?_erase (key other : String) (entries : Entries α) :
    get? other (erase key entries) = if other = key then none else get? other entries := by
  induction entries with
  | nil => simp [erase, get?]
  | cons entry rest ih =>
      obtain ⟨k, v⟩ := entry
      by_cases hk : k = key
      · subst hk
        have hrest : erase k ((k, v) :: rest) = erase k rest := by simp [erase]
        rw [hrest, ih, get?_cons]
        by_cases h : other = k
        · simp [h]
        · simp [h, Ne.symm h]
      · have hrest : erase key ((k, v) :: rest) = (k, v) :: erase key rest := by simp [erase, hk]
        rw [hrest, get?_cons, ih, get?_cons]
        by_cases h : k = other
        · subst h
          simp [hk]
        · simp [h]

theorem mem_of_get? {key : String} {value : α} {entries : Entries α}
    (found : entries.get? key = some value) : (key, value) ∈ entries := by
  induction entries with
  | nil => cases found
  | cons entry rest ih =>
      obtain ⟨k, v⟩ := entry
      rw [get?_cons] at found
      split at found
      · rename_i same
        cases found
        subst same
        exact List.mem_cons_self
      · exact List.mem_cons_of_mem _ (ih found)

theorem mem_keys_of_get? {key : String} {value : α} {entries : Entries α}
    (found : entries.get? key = some value) : key ∈ entries.keys :=
  List.mem_map_of_mem (mem_of_get? found)

theorem get?_of_mem {key : String} {value : α} {entries : Entries α}
    (distinct : entries.keys.Nodup) (member : (key, value) ∈ entries) :
    entries.get? key = some value := by
  induction entries with
  | nil => cases member
  | cons entry rest ih =>
      obtain ⟨k, v⟩ := entry
      have split : k ∉ keys rest ∧ (keys rest).Nodup := List.nodup_cons.mp distinct
      rw [get?_cons]
      rcases List.mem_cons.mp member with same | later
      · cases same
        rw [if_pos rfl]
      · have different : k ≠ key := by
          rintro rfl
          exact split.1 (List.mem_map.mpr ⟨_, later, rfl⟩)
        rw [if_neg different]
        exact ih split.2 later

/-- The order of the entries does not matter for what is found. -/
theorem get?_perm {entries others : Entries α} (perm : others.Perm entries)
    (distinct : entries.keys.Nodup) (key : String) : others.get? key = entries.get? key := by
  have apart : others.keys.Nodup := (perm.map Prod.fst).nodup_iff.mpr distinct
  apply Option.ext
  intro value
  constructor
  · exact fun found => get?_of_mem distinct (perm.mem_iff.mp (mem_of_get? found))
  · exact fun found => get?_of_mem apart (perm.mem_iff.mpr (mem_of_get? found))

theorem erase_cons_of_ne {key other : String} (different : other ≠ key) (value : α)
    (entries : Entries α) : erase key ((other, value) :: entries) =
      (other, value) :: erase key entries := by
  simp [erase, different]

theorem erase_cons_self (key : String) (value : α) (entries : Entries α) :
    erase key ((key, value) :: entries) = erase key entries := by
  simp [erase]

theorem erase_idem (key : String) (entries : Entries α) :
    erase key (erase key entries) = erase key entries := by
  simp [erase, List.filter_filter]

theorem erase_comm (key other : String) (entries : Entries α) :
    erase key (erase other entries) = erase other (erase key entries) := by
  simp [erase, List.filter_filter, Bool.and_comm]

theorem get?_append (key : String) (entries more : Entries α) :
    get? key (entries ++ more) = (get? key entries).or (get? key more) := by
  induction entries with
  | nil => rfl
  | cons entry rest inductionHypothesis =>
      obtain ⟨k, v⟩ := entry
      rw [List.cons_append, get?_cons, get?_cons]
      split
      · rfl
      · exact inductionHypothesis

theorem put_of_absent {key : String} {entries : Entries α} (absent : get? key entries = none)
    (value : α) : put key value entries = entries ++ [(key, value)] := by
  induction entries with
  | nil => rfl
  | cons entry rest inductionHypothesis =>
      obtain ⟨k, v⟩ := entry
      rw [get?_cons] at absent
      split at absent
      · cases absent
      · rename_i different
        rw [put, if_neg different, inductionHypothesis absent]
        rfl

theorem get?_eq_none_iff {key : String} {entries : Entries α} :
    get? key entries = none ↔ key ∉ entries.keys := by
  induction entries with
  | nil => simp [keys]
  | cons entry rest inductionHypothesis =>
      obtain ⟨k, v⟩ := entry
      rw [get?_cons, keys, List.map_cons, List.mem_cons, not_or]
      by_cases same : k = key
      · simp [same]
      · rw [if_neg same, inductionHypothesis]
        exact ⟨fun absent => ⟨Ne.symm same, absent⟩, fun both => both.2⟩

/-- The keys keep their places, and a new one comes last. -/
theorem keys_put (key : String) (value : α) (entries : Entries α) :
    (put key value entries).keys =
      if key ∈ entries.keys then entries.keys else entries.keys ++ [key] := by
  induction entries with
  | nil => rfl
  | cons entry rest inductionHypothesis =>
      obtain ⟨k, v⟩ := entry
      rw [put]
      by_cases same : k = key
      · simp [keys, same]
      · rw [if_neg same, show keys ((k, v) :: put key value rest) = k :: keys (put key value rest)
          from rfl, inductionHypothesis]
        by_cases member : key ∈ keys rest <;> simp_all [keys, Ne.symm same]

theorem nodup_keys_put {entries : Entries α} (key : String) (value : α)
    (distinct : entries.keys.Nodup) : (put key value entries).keys.Nodup := by
  rw [keys_put]
  split
  · exact distinct
  · rename_i absent
    refine List.nodup_append.mpr ⟨distinct, List.pairwise_singleton _ _, ?_⟩
    rintro one old other new rfl
    exact absent (List.mem_singleton.mp new ▸ old)

theorem nodup_keys_erase {entries : Entries α} (key : String) (distinct : entries.keys.Nodup) :
    (erase key entries).keys.Nodup :=
  distinct.sublist (List.filter_sublist.map Prod.fst)

/-- What a map has after others have been stored into it: of two for one key, the later counts. -/
theorem get?_putAll (key : String) (entries more : Entries α) :
    get? key (putAll entries more) = (get? key more.reverse).or (get? key entries) := by
  induction more generalizing entries with
  | nil => rfl
  | cons entry rest inductionHypothesis =>
      obtain ⟨k, v⟩ := entry
      have step : putAll entries ((k, v) :: rest) = putAll (entries.putSorted k v) rest := rfl
      rw [step, inductionHypothesis, List.reverse_cons, get?_append, get?_putSorted, get?_cons]
      by_cases same : k = key
      · cases get? key rest.reverse <;> simp [same]
      · cases get? key rest.reverse <;> simp [same, Ne.symm same]

/-- Sorting by distinct keys does not change what is found. -/
theorem get?_sorted {list : List (String × α)} (distinct : (keys list).Nodup) (key : String) :
    get? key (sorted list) = get? key list := by
  rw [sorted, get?_putAll, get?_nil, Option.or_none]
  exact get?_perm (List.reverse_perm list) distinct key

end Entries

end ServiceLifecycle
