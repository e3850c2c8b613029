/-
Module: ServiceLifecycle.Proofs.Broker.Registration
Purpose: What the registration of a list of services makes of the mapping, and what it reports.
Main exports: Entries.firstOfEach, Entries.get?_firstOfEach, Mapping.extend, Store.notices,
  conflictNotice, Store.registerAll_eq
-/
import ServiceLifecycle.Proofs.Computation

namespace ServiceLifecycle

/-!
Of several registrations of one name the first counts.  The mapping that comes of a list is
therefore the list without the pairs whose name occurs before, in the same order.  Each of those
pairs that names another implementation than the first is reported, and no other pair is.
-/

namespace Entries

variable {α : Type}

/-- The first entry of each key, in order. -/
def firstOfEach : List (String × α) → Entries α
  | [] => []
  | (key, value) :: rest => (key, value) :: erase key (firstOfEach rest)

/-- The first entries say what the list says. -/
theorem get?_firstOfEach (key : String) (list : List (String × α)) :
    get? key (firstOfEach list) = get? key list := by
  induction list with
  | nil => rfl
  | cons entry rest inductionHypothesis =>
      obtain ⟨k, v⟩ := entry
      rw [firstOfEach, get?_cons, get?_cons, get?_erase, inductionHypothesis]
      by_cases same : k = key
      · rw [if_pos same, if_pos same]
      · rw [if_neg same, if_neg same, if_neg (Ne.symm same)]

/-- The order is that of the list. -/
theorem firstOfEach_sublist (list : List (String × α)) : (firstOfEach list).Sublist list := by
  induction list with
  | nil => exact .slnil
  | cons entry rest inductionHypothesis =>
      obtain ⟨k, v⟩ := entry
      exact (List.filter_sublist.trans inductionHypothesis).cons_cons (k, v)

theorem nodup_keys_firstOfEach (list : List (String × α)) : (firstOfEach list).keys.Nodup := by
  induction list with
  | nil => exact List.nodup_nil
  | cons entry rest inductionHypothesis =>
      obtain ⟨k, v⟩ := entry
      refine List.nodup_cons.mpr ⟨?_, ?_⟩
      · intro member
        obtain ⟨⟨other, value⟩, kept, same⟩ := List.mem_map.mp member
        exact absurd same (by simpa using (List.mem_filter.mp kept).2)
      · exact inductionHypothesis.sublist (List.filter_sublist.map Prod.fst)

theorem firstOfEach_of_nodup {list : List (String × α)} (distinct : (keys list).Nodup) :
    firstOfEach list = list := by
  induction list with
  | nil => rfl
  | cons entry rest inductionHypothesis =>
      obtain ⟨k, v⟩ := entry
      obtain ⟨fresh, others⟩ := List.nodup_cons.mp distinct
      rw [firstOfEach, inductionHypothesis others]
      have kept : erase k rest = rest := by
        refine List.filter_eq_self.mpr fun other member => ?_
        have different : other.1 ≠ k := by
          rintro rfl
          exact fresh (List.mem_map.mpr ⟨other, member, rfl⟩)
        simpa using different
      rw [kept]

theorem erase_firstOfEach (key : String) (value : α) (list more : List (String × α)) :
    erase key (firstOfEach (list ++ (key, value) :: more)) =
      erase key (firstOfEach (list ++ more)) := by
  induction list with
  | nil => rw [List.nil_append, firstOfEach, erase_cons_self, erase_idem, List.nil_append]
  | cons entry rest inductionHypothesis =>
      obtain ⟨k, v⟩ := entry
      rw [List.cons_append, firstOfEach, List.cons_append, firstOfEach]
      by_cases same : k = key
      · subst same
        rw [erase_cons_self, erase_cons_self, erase_idem, erase_idem, inductionHypothesis]
      · rw [erase_cons_of_ne same, erase_cons_of_ne same, erase_comm key, inductionHypothesis,
          erase_comm key]

/-- An entry does not count when its key has one before. -/
theorem firstOfEach_skip {key : String} {list : List (String × α)} {present : α}
    (found : get? key list = some present) (value : α) (more : List (String × α)) :
    firstOfEach (list ++ (key, value) :: more) = firstOfEach (list ++ more) := by
  induction list with
  | nil => cases found
  | cons entry rest inductionHypothesis =>
      obtain ⟨k, v⟩ := entry
      rw [List.cons_append, firstOfEach, List.cons_append, firstOfEach]
      rw [get?_cons] at found
      split at found
      · rename_i same
        subst same
        rw [erase_firstOfEach]
      · rw [inductionHypothesis found]

end Entries

namespace Mapping

/-- The names of a list are mapped as it says first, unless they are mapped already. -/
def extend (mapping : Mapping) (list : List (String × String)) : Mapping where
  entries := Entries.firstOfEach (mapping.entries ++ list)
  distinct := Entries.nodup_keys_firstOfEach _

theorem entries_extend (mapping : Mapping) (list : List (String × String)) :
    (mapping.extend list).entries = Entries.firstOfEach (mapping.entries ++ list) := rfl

theorem extend_nil (mapping : Mapping) : mapping.extend [] = mapping := by
  ext1
  rw [entries_extend, List.append_nil, Entries.firstOfEach_of_nodup mapping.distinct]

/-- What a name is mapped to in the end is what it is mapped to first. -/
theorem get?_extend (mapping : Mapping) (list : List (String × String)) (name : String) :
    (mapping.extend list).get? name = (mapping.get? name).or (Entries.get? name list) := by
  rw [get?, entries_extend, Entries.get?_firstOfEach, Entries.get?_append]
  rfl

/-- It makes no difference whether the first declaration has been registered already. -/
theorem extend_put {mapping : Mapping} {name : String} (absent : mapping.get? name = none)
    (implementation : String) (list : List (String × String)) :
    (mapping.put name implementation).extend list =
      mapping.extend ((name, implementation) :: list) := by
  ext1
  rw [entries_extend, entries_extend, entries_put absent, List.append_assoc]
  rfl

/-- A declaration of a name that is mapped does not count. -/
theorem extend_skip {mapping : Mapping} {name present : String}
    (found : mapping.get? name = some present) (implementation : String)
    (list : List (String × String)) :
    mapping.extend ((name, implementation) :: list) = mapping.extend list := by
  ext1
  exact Entries.firstOfEach_skip found implementation list

end Mapping

section Registration

variable {s : Store}

/-- Notices are reported in order, and nothing else happens. -/
def Store.notices (s : Store) (texts : List String) : Store :=
  { s with
    channel := texts.foldl Channel.notice s.channel
    journal := (texts.map fun text => Event.reported (.ofNotice text)).reverse ++ s.journal }

theorem Store.notices_cons (s : Store) (text : String) (texts : List String) :
    s.notices (text :: texts) = (s.notice text).notices texts := by
  simp [notices, notice, report, note, Channel.notice]

theorem Store.notices_append (s : Store) (texts more : List String) :
    s.notices (texts ++ more) = (s.notices texts).notices more := by
  simp [notices]

/-- What is reported when a name that has an implementation is registered with another one. -/
def conflictNotice (name present ignored : String) : String :=
  "Service " ++ name ++ " is already mapped to " ++ present ++ ", ignoring " ++ ignored

/-- What is reported of a declaration that a mapping does not follow. -/
def conflict? (mapping : Entries String) (declaration : String × String) : Option String :=
  match mapping.get? declaration.1 with
  | none => none
  | some present =>
      if present = declaration.2 then none
      else some (conflictNotice declaration.1 present declaration.2)

theorem Store.register_eq (s : Store) (name implementation : String) :
    (s.register name implementation).2 =
      match s.mapping.get? name with
      | none => { s with mapping := s.mapping.put name implementation }
      | some present =>
          if present = implementation then s
          else s.notice (conflictNotice name present implementation) := by
  rw [register]
  cases found : s.mapping.get? name with
  | none => rfl
  | some present => by_cases same : present = implementation <;> simp [same, conflictNotice]

/-- A registration adds to the mapping, and it may report something. -/
theorem Store.register_only (s : Store) (name implementation : String) :
    ∃ mapping channel journal, s.mapping.entries <+: mapping.entries ∧
      (s.register name implementation).2 = { s with mapping, channel, journal } := by
  rw [register_eq]
  cases found : s.mapping.get? name with
  | none =>
      refine ⟨_, _, _, ?_, rfl⟩
      rw [Mapping.entries_put found]
      exact List.prefix_append _ _
  | some present =>
      by_cases same : present = implementation
      · simp only [same, if_true]
        exact ⟨_, s.channel, s.journal, List.prefix_rfl, rfl⟩
      · simp only [same, if_false]
        exact ⟨_, _, _, List.prefix_rfl, rfl⟩

theorem Store.registerAll_only (s : Store) (declarations : List (String × String)) :
    ∃ mapping channel journal, s.mapping.entries <+: mapping.entries ∧
      (s.registerAll declarations).2 = { s with mapping, channel, journal } := by
  induction declarations generalizing s with
  | nil => exact ⟨s.mapping, s.channel, s.journal, List.prefix_rfl, rfl⟩
  | cons declaration rest inductionHypothesis =>
      obtain ⟨name, implementation⟩ := declaration
      have step : (s.registerAll ((name, implementation) :: rest)).2 =
          ((s.register name implementation).2.registerAll rest).2 := rfl
      obtain ⟨first, channel, journal, longer, changed⟩ := s.register_only name implementation
      obtain ⟨last, _, _, further, after⟩ :=
        inductionHypothesis { s with mapping := first, channel, journal }
      rw [step, changed, after]
      exact ⟨last, _, _, longer.trans further, rfl⟩

/-- When a list is registered, the mapping is followed by the first declarations of further names,
and every declaration that the mapping does not follow is reported. -/
theorem Store.registerAll_eq (s : Store) (declarations : List (String × String)) :
    (s.registerAll declarations).2 =
      ({ s with mapping := s.mapping.extend declarations } : Store).notices
        (declarations.filterMap (conflict? (s.mapping.extend declarations).entries)) := by
  induction declarations generalizing s with
  | nil =>
      rw [Mapping.extend_nil]
      rfl
  | cons declaration rest inductionHypothesis =>
      obtain ⟨name, implementation⟩ := declaration
      have step : (s.registerAll ((name, implementation) :: rest)).2 =
          ((s.register name implementation).2.registerAll rest).2 := rfl
      have latest : Entries.get? name (s.mapping.extend ((name, implementation) :: rest)).entries =
          (s.mapping.get? name).or (some implementation) := by
        have search := s.mapping.get?_extend ((name, implementation) :: rest) name
        rwa [Entries.get?_cons, if_pos rfl] at search
      rw [step, register_eq]
      cases found : s.mapping.get? name with
      | none =>
          rw [inductionHypothesis]
          simp only [Mapping.extend_put found]
          have followed : conflict? (s.mapping.extend ((name, implementation) :: rest)).entries
              (name, implementation) = none := by
            simp [conflict?, latest, found]
          rw [List.filterMap_cons_none followed]
      | some present =>
          rw [Mapping.extend_skip found] at latest ⊢
          by_cases same : present = implementation
          · have followed : conflict? (s.mapping.extend rest).entries
                (name, implementation) = none := by
              simp [conflict?, latest, found, same]
            rw [List.filterMap_cons_none followed]
            simp only [same, if_true]
            exact inductionHypothesis s
          · have reported : conflict? (s.mapping.extend rest).entries (name, implementation) =
                some (conflictNotice name present implementation) := by
              simp [conflict?, latest, found, same]
            rw [List.filterMap_cons_some reported, notices_cons]
            simp only [same, if_false]
            exact inductionHypothesis (s.notice (conflictNotice name present implementation))

end Registration

end ServiceLifecycle
