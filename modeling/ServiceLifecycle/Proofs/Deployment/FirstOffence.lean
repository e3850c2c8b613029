/-
Module: ServiceLifecycle.Proofs.Deployment.FirstOffence
Purpose: Which deployments are accepted, and which offence is reported of the others.
Main exports: Offence, Offence.Taints, Offence.Counts, Declaration.AreWellFormed,
  Declaration.AreUnoffending, areUnoffending_iff, checkDeclarations_eq_error_iff,
  Deployment.validate_eq_ok_iff, validation_exact
-/
import ServiceLifecycle.Deployment.Validation

namespace ServiceLifecycle

/-!
A deployment is accepted if its names and implementation keys can be used: each name can be seen,
holds no dot and occurs once, and so on.  This says nothing about an order.  What is reported of a
deployment that is not accepted depends on one: the first declaration that offends counts, in the
light of those before it, and of its offences the gravest.
-/

/-- What may be wrong with a declaration, the gravest first. -/
inductive Offence where
  | blankName
  | repeatedName
  | dottedName
  | blankImplementation
deriving Repr, DecidableEq

namespace Offence

/-- The declaration offends in this way, after declarations of the given names. -/
def Taints (names : List String) (declaration : Declaration) : Offence → Prop
  | blankName => ∀ c ∈ declaration.name.toList, Text.isBlank c = true
  | repeatedName => declaration.name ∈ names
  | dottedName => '.' ∈ declaration.name.toList
  | blankImplementation => ∃ key, declaration.implementation = some key ∧
      ∀ c ∈ key.toList, Text.isBlank c = true

/-- The place in the order of gravity, from the gravest on. -/
def rank : Offence → Nat
  | blankName => 0
  | repeatedName => 1
  | dottedName => 2
  | blankImplementation => 3

/-- What is said about the offence of a declaration. -/
def fault (declaration : Declaration) : Offence → LoadFault
  | blankName => .missingField "services.name"
  | repeatedName => .duplicateService declaration.name
  | dottedName => .invalid ("Service name '" ++ declaration.name ++ "' must not contain '.'")
  | blankImplementation =>
      .invalid ("Service '" ++ declaration.name ++ "' has an empty implementation key")

/-- The offence of a declaration that counts: there is no graver one. -/
structure Counts (names : List String) (declaration : Declaration) (offence : Offence) :
    Prop where
  taints : offence.Taints names declaration
  gravest : ∀ graver : Offence, graver.rank < offence.rank → ¬ graver.Taints names declaration

variable {names : List String} {declaration : Declaration} {offence other : Offence}

theorem rank_injective (same : offence.rank = other.rank) : offence = other := by
  cases offence <;> cases other <;> first | rfl | cases same

theorem Counts.unique (counts : offence.Counts names declaration)
    (others : other.Counts names declaration) : offence = other := by
  apply rank_injective
  rcases Nat.lt_trichotomy offence.rank other.rank with graver | same | milder
  · exact absurd counts.taints (others.gravest offence graver)
  · exact same
  · exact absurd others.taints (counts.gravest other milder)

end Offence

theorem Text.isBlankText_iff {text : String} :
    Text.isBlankText text = true ↔ ∀ c ∈ text.toList, Text.isBlank c = true :=
  List.all_eq_true

namespace Declaration

/-- Names and implementation keys that can be used, whatever the order of the declarations. -/
structure AreWellFormed (declarations : List Declaration) : Prop where
  /-- Every name can be seen. -/
  named : ∀ declaration ∈ declarations, ∃ c ∈ declaration.name.toList, Text.isBlank c = false
  /-- No name holds a dot. -/
  dotless : ∀ declaration ∈ declarations, '.' ∉ declaration.name.toList
  /-- No name occurs twice. -/
  distinct : (declarations.map Declaration.name).Nodup
  /-- Every implementation key that is given can be seen. -/
  built : ∀ declaration ∈ declarations, ∀ key, declaration.implementation = some key →
    ∃ c ∈ key.toList, Text.isBlank c = false

/-- No declaration offends, in the light of the names before it. -/
def AreUnoffending (names : List String) (declarations : List Declaration) : Prop :=
  ∀ front declaration rest, declarations = front ++ declaration :: rest →
    ∀ offence : Offence, ¬ offence.Taints (names ++ front.map Declaration.name) declaration

variable {names : List String} {declaration : Declaration} {rest declarations : List Declaration}

theorem areUnoffending_nil : AreUnoffending names [] := by
  intro front declaration rest split
  exact absurd split.symm (List.append_ne_nil_of_right_ne_nil _ (List.cons_ne_nil _ _))

/-- The names before a declaration are those of the earlier ones, one by one. -/
theorem areUnoffending_cons : AreUnoffending names (declaration :: rest) ↔
    (∀ offence : Offence, ¬ offence.Taints names declaration) ∧
      AreUnoffending (names ++ [declaration.name]) rest := by
  constructor
  · intro unoffending
    refine ⟨?first, ?others⟩
    case first =>
      intro offence taints
      refine unoffending [] declaration rest rfl offence ?_
      rwa [List.map_nil, List.append_nil]
    case others =>
      rintro front later more rfl offence taints
      refine unoffending (declaration :: front) later more rfl offence ?_
      rwa [List.map_cons, ← List.singleton_append, ← List.append_assoc]
  · rintro ⟨first, others⟩ front later more split offence taints
    rcases List.cons_eq_append_iff.mp split with ⟨rfl, same⟩ | ⟨front, rfl, further⟩
    · obtain ⟨rfl, rfl⟩ := List.cons.inj same
      rw [List.map_nil, List.append_nil] at taints
      exact first offence taints
    · refine others front later more further offence ?_
      rwa [List.map_cons, ← List.singleton_append, ← List.append_assoc] at taints

/-- To be well formed is to have no declaration that offends. -/
theorem areUnoffending_iff : AreUnoffending names declarations ↔
    AreWellFormed declarations ∧ ∀ declaration ∈ declarations, declaration.name ∉ names := by
  induction declarations generalizing names with
  | nil =>
      exact iff_of_true areUnoffending_nil ⟨⟨List.forall_mem_nil _, List.forall_mem_nil _,
        List.nodup_nil, List.forall_mem_nil _⟩, List.forall_mem_nil _⟩
  | cons first rest inductionHypothesis =>
      rw [areUnoffending_cons, inductionHypothesis]
      constructor
      · rintro ⟨unoffending, wellFormed, fresh⟩
        have visible : ∃ c ∈ first.name.toList, Text.isBlank c = false := by
          simpa [Offence.Taints] using unoffending .blankName
        have built : ∀ key, first.implementation = some key →
            ∃ c ∈ key.toList, Text.isBlank c = false := by
          simpa [Offence.Taints] using unoffending .blankImplementation
        have unrepeated : first.name ∉ rest.map Declaration.name := by
          intro repeated
          obtain ⟨later, member, same⟩ := List.mem_map.mp repeated
          exact fresh later member (List.mem_append_right _ (same ▸ List.mem_singleton_self _))
        refine ⟨⟨?_, ?_, List.nodup_cons.mpr ⟨unrepeated, wellFormed.distinct⟩, ?_⟩, ?_⟩
        · exact List.forall_mem_cons.mpr ⟨visible, wellFormed.named⟩
        · exact List.forall_mem_cons.mpr ⟨unoffending .dottedName, wellFormed.dotless⟩
        · exact List.forall_mem_cons.mpr ⟨built, wellFormed.built⟩
        · refine List.forall_mem_cons.mpr ⟨unoffending .repeatedName, ?_⟩
          exact fun later member known => fresh later member (List.mem_append_left _ known)
      · rintro ⟨wellFormed, fresh⟩
        obtain ⟨unrepeated, distinct⟩ := List.nodup_cons.mp wellFormed.distinct
        obtain ⟨visible, named⟩ := List.forall_mem_cons.mp wellFormed.named
        obtain ⟨dotless, others⟩ := List.forall_mem_cons.mp wellFormed.dotless
        obtain ⟨built, rebuilt⟩ := List.forall_mem_cons.mp wellFormed.built
        obtain ⟨unknown, strangers⟩ := List.forall_mem_cons.mp fresh
        refine ⟨?_, ⟨named, others, distinct, rebuilt⟩, ?_⟩
        · intro offence
          cases offence with
          | blankName => simpa [Offence.Taints] using visible
          | repeatedName => exact unknown
          | dottedName => exact dotless
          | blankImplementation => simpa [Offence.Taints] using built
        · intro later member known
          rcases List.mem_append.mp known with earlier | same
          · exact strangers later member earlier
          · refine unrepeated ?_
            rw [← List.mem_singleton.mp same]
            exact List.mem_map_of_mem member

/-- The check of one declaration looks for the offences by gravity. -/
theorem check_cases (names : List String) (declaration : Declaration) :
    (declaration.check names.reverse = .ok () ∧
      ∀ offence : Offence, ¬ offence.Taints names declaration) ∨
    ∃ offence : Offence, declaration.check names.reverse = .error (offence.fault declaration) ∧
      offence.Counts names declaration := by
  rw [check]
  split
  · rename_i blank
    refine .inr ⟨.blankName, rfl, Text.isBlankText_iff.mp blank, ?_⟩
    exact fun graver lower => absurd lower (Nat.not_lt_zero _)
  · rename_i visible
    have named : ¬ Offence.blankName.Taints names declaration :=
      fun blank => visible (Text.isBlankText_iff.mpr blank)
    split
    · rename_i known
      refine .inr ⟨.repeatedName, rfl, List.mem_reverse.mp known, ?_⟩
      intro graver lower
      cases graver with
      | blankName => exact named
      | _ => exact absurd lower (by decide)
    · rename_i unknown
      have fresh : ¬ Offence.repeatedName.Taints names declaration :=
        fun known => unknown (List.mem_reverse.mpr known)
      split
      · rename_i dotted
        refine .inr ⟨.dottedName, rfl, dotted, ?_⟩
        intro graver lower
        cases graver with
        | blankName => exact named
        | repeatedName => exact fresh
        | _ => exact absurd lower (by decide)
      · rename_i dotless
        have implementation : declaration.implementation.any Text.isBlankText = true ↔
            Offence.blankImplementation.Taints names declaration := by
          simp only [Option.any_eq_true, Text.isBlankText_iff, Offence.Taints]
        split
        · rename_i blank
          refine .inr ⟨.blankImplementation, rfl, implementation.mp blank, ?_⟩
          intro graver lower
          cases graver with
          | blankName => exact named
          | repeatedName => exact fresh
          | dottedName => exact dotless
          | blankImplementation => exact absurd lower (by decide)
        · rename_i visible
          refine .inl ⟨rfl, ?_⟩
          intro offence
          cases offence with
          | blankName => exact named
          | repeatedName => exact fresh
          | dottedName => exact dotless
          | blankImplementation => exact fun blank => visible (implementation.mpr blank)

end Declaration

open Declaration

variable {names : List String} {declarations : List Declaration} {fault : LoadFault}

theorem checkDeclarations_eq_ok_iff :
    checkDeclarations names.reverse declarations = .ok () ↔ AreUnoffending names declarations := by
  induction declarations generalizing names with
  | nil => exact iff_of_true rfl areUnoffending_nil
  | cons declaration rest inductionHypothesis =>
      have later : checkDeclarations (declaration.name :: names.reverse) rest = .ok () ↔
          AreUnoffending (names ++ [declaration.name]) rest := by
        rw [← inductionHypothesis, List.reverse_append, List.reverse_singleton,
          List.singleton_append]
      rw [checkDeclarations, areUnoffending_cons, ← later]
      rcases check_cases names declaration with ⟨accepted, unoffending⟩ | ⟨offence, refused, counts⟩
      · rw [accepted]
        exact (and_iff_right unoffending).symm
      · rw [refused]
        refine iff_of_false (fun accepted => nomatch accepted) ?_
        exact fun both => both.1 offence counts.taints

/-- What is reported is about the first declaration that offends. -/
theorem checkDeclarations_eq_error_iff :
    checkDeclarations names.reverse declarations = .error fault ↔
      ∃ before declaration after, ∃ offence : Offence,
        declarations = before ++ declaration :: after ∧ AreUnoffending names before ∧
        offence.Counts (names ++ before.map Declaration.name) declaration ∧
        fault = offence.fault declaration := by
  induction declarations generalizing names with
  | nil =>
      refine iff_of_false (fun refused => nomatch refused) ?_
      rintro ⟨before, declaration, after, offence, split, -⟩
      exact absurd split.symm (List.append_ne_nil_of_right_ne_nil _ (List.cons_ne_nil _ _))
  | cons first rest inductionHypothesis =>
      have later := @inductionHypothesis (names ++ [first.name])
      rw [List.reverse_append, List.reverse_singleton, List.singleton_append] at later
      rw [checkDeclarations]
      rcases check_cases names first with ⟨accepted, unoffending⟩ | ⟨offence, refused, counts⟩
      · rw [accepted]
        refine Iff.trans later ⟨?further, ?nearer⟩
        case further =>
          rintro ⟨before, declaration, after, offence, rfl, passed, counts, said⟩
          refine ⟨first :: before, declaration, after, offence, rfl,
            areUnoffending_cons.mpr ⟨unoffending, passed⟩, ?_, said⟩
          rwa [List.map_cons, ← List.singleton_append, ← List.append_assoc]
        case nearer =>
          rintro ⟨before, declaration, after, offence, split, passed, counts, said⟩
          rcases List.cons_eq_append_iff.mp split with ⟨rfl, same⟩ | ⟨before, rfl, further⟩
          · obtain ⟨rfl, rfl⟩ := List.cons.inj same
            rw [List.map_nil, List.append_nil] at counts
            exact absurd counts.taints (unoffending offence)
          · refine ⟨before, declaration, after, offence, further,
              (areUnoffending_cons.mp passed).2, ?_, said⟩
            rwa [List.map_cons, ← List.singleton_append, ← List.append_assoc] at counts
      · rw [refused]
        constructor
        · intro reported
          refine ⟨[], first, rest, offence, rfl, areUnoffending_nil, ?_, ?_⟩
          · rwa [List.map_nil, List.append_nil]
          · exact (Except.error.inj reported).symm
        · rintro ⟨before, declaration, after, other, split, passed, others, rfl⟩
          rcases List.cons_eq_append_iff.mp split with ⟨rfl, same⟩ | ⟨before, rfl, -⟩
          · obtain ⟨rfl, rfl⟩ := List.cons.inj same
            rw [List.map_nil, List.append_nil] at others
            rw [counts.unique others]
            rfl
          · exact absurd counts.taints ((areUnoffending_cons.mp passed).1 offence)

theorem checkDeclarations_eq_ok_iff_areWellFormed :
    checkDeclarations [] declarations = .ok () ↔ AreWellFormed declarations := by
  have unoffending := @checkDeclarations_eq_ok_iff [] declarations
  rw [areUnoffending_iff, List.reverse_nil] at unoffending
  exact unoffending.trans (and_iff_left fun _ _ => List.not_mem_nil)

theorem Deployment.validate_eq_ok_iff {deployment : Deployment} :
    deployment.validate = .ok () ↔
      AreWellFormed deployment.services ∧ deployment.applicationRoot ≠ some "" := by
  rw [validate, ← checkDeclarations_eq_ok_iff_areWellFormed]
  cases checkDeclarations [] deployment.services with
  | error reported => exact iff_of_false (fun same => nomatch same) (fun both => nomatch both.1)
  | ok _ =>
      by_cases empty : deployment.applicationRoot = some ""
      · rw [if_pos empty]
        exact iff_of_false (fun accepted => nomatch accepted) (fun both => both.2 empty)
      · rw [if_neg empty]
        exact iff_of_true rfl ⟨rfl, empty⟩

theorem Deployment.validate_eq_error_iff {deployment : Deployment} :
    deployment.validate = .error fault ↔
      checkDeclarations [] deployment.services = .error fault ∨
      AreWellFormed deployment.services ∧ deployment.applicationRoot = some "" ∧
        fault = .invalid "application_root must not be empty" := by
  rw [validate, ← checkDeclarations_eq_ok_iff_areWellFormed]
  cases checkDeclarations [] deployment.services with
  | error reported => exact (or_iff_left fun both => nomatch both.1).symm
  | ok _ =>
      by_cases empty : deployment.applicationRoot = some ""
      · rw [if_pos empty]
        constructor
        · intro refused
          exact .inr ⟨rfl, empty, (Except.error.inj refused).symm⟩
        · rintro (refused | ⟨-, -, rfl⟩)
          · exact nomatch refused
          · rfl
      · rw [if_neg empty]
        refine iff_of_false (fun refused => nomatch refused) ?_
        rintro (refused | ⟨-, emptied, -⟩)
        · exact nomatch refused
        · exact empty emptied

/-- A deployment is accepted exactly if its declarations are well formed and its root directory,
if it has one, is not the empty path.  Otherwise the first declaration that offends, in the light
of the names before it, is reported with the gravest of its offences; the root directory is
reported only if no declaration offends.

What can be seen of a name is what is not white space: in a deployment that is accepted every name
holds such a character, and a first declaration whose name holds none is the one that is
reported. -/
theorem validation_exact (deployment : Deployment) :
    (deployment.validate = .ok () ↔
      AreWellFormed deployment.services ∧ deployment.applicationRoot ≠ some "") ∧
    (∀ fault, deployment.validate = .error fault ↔
      (∃ before declaration after, ∃ offence : Offence,
        deployment.services = before ++ declaration :: after ∧ AreUnoffending [] before ∧
        offence.Counts (before.map Declaration.name) declaration ∧
        fault = offence.fault declaration) ∨
      AreWellFormed deployment.services ∧ deployment.applicationRoot = some "" ∧
        fault = .invalid "application_root must not be empty") ∧
    (deployment.validate = .ok () → ∀ declaration ∈ deployment.services,
      ∃ c ∈ declaration.name.toList, c ∉ Text.whiteSpace ∧ c.isWhitespace = false) ∧
    ∀ declaration rest, deployment.services = declaration :: rest →
      (∀ c ∈ declaration.name.toList, c ∈ Text.whiteSpace) →
      deployment.validate = .error (.missingField "services.name") := by
  refine ⟨Deployment.validate_eq_ok_iff, ?reported, ?seen, ?unseen⟩
  case reported =>
    intro fault
    have refused := @checkDeclarations_eq_error_iff [] deployment.services fault
    simp only [List.reverse_nil, List.nil_append] at refused
    rw [Deployment.validate_eq_error_iff, refused]
  case seen =>
    intro accepted declaration member
    obtain ⟨wellFormed, -⟩ := Deployment.validate_eq_ok_iff.mp accepted
    obtain ⟨c, inside, seen⟩ := wellFormed.named declaration member
    rw [← Bool.not_eq_true] at seen
    refine ⟨c, inside, fun white => seen (Text.isBlank_iff.mpr white), ?_⟩
    exact Bool.eq_false_iff.mpr fun white => seen (Text.isBlank_of_isWhitespace white)
  case unseen =>
    intro declaration rest listed white
    refine Deployment.validate_eq_error_iff.mpr
      (.inl ((@checkDeclarations_eq_error_iff [] deployment.services _).mpr ?_))
    refine ⟨[], declaration, rest, .blankName, listed, areUnoffending_nil, ⟨?_, ?_⟩, rfl⟩
    · exact fun c inside => Text.isBlank_iff.mpr (white c inside)
    · exact fun graver less => absurd less (Nat.not_lt_zero _)

/-- A declaration whose name consists of spaces is reported, although one that is in order stands
before it and one that repeats a name behind it. -/
theorem validation_exact_blank :
    let clock : Declaration := { name := "clock" }
    let unseen : Declaration := { name := " \t\u00a0\u2003" }
    Deployment.validate { services := [clock, unseen, clock] } =
        .error (.missingField "services.name") ∧
      Deployment.validate { services := [clock] } = .ok () ∧
      Deployment.validate { services := [unseen] } = .error (.missingField "services.name") := by
  intro clock unseen
  obtain ⟨accepted, -⟩ := validation_exact { services := [clock] }
  obtain ⟨-, -, -, first⟩ := validation_exact { services := [unseen] }
  obtain ⟨-, reported, -⟩ := validation_exact { services := [clock, unseen, clock] }
  have wellFormed : AreWellFormed [clock] := by
    refine ⟨?named, by decide, by decide, ?built⟩
    case named =>
      exact List.forall_mem_singleton.mpr ⟨'c', by decide, by decide⟩
    case built =>
      intro declaration member key given
      rw [List.mem_singleton.mp member] at given
      cases given
  have unoffending : AreUnoffending [] [clock] :=
    areUnoffending_iff.mpr ⟨wellFormed, fun _ _ => List.not_mem_nil⟩
  have blank : ∀ c ∈ unseen.name.toList, Text.isBlank c = true :=
    List.all_eq_true.mp (by decide)
  refine ⟨?_, accepted.mpr ⟨wellFormed, nofun⟩,
    first unseen [] rfl fun c member => Text.isBlank_iff.mp (blank c member)⟩
  refine (reported _).mpr (.inl ⟨[clock], unseen, [clock], .blankName, rfl, unoffending, ?_, rfl⟩)
  exact ⟨blank, fun graver less => absurd less (Nat.not_lt_zero _)⟩

end ServiceLifecycle
