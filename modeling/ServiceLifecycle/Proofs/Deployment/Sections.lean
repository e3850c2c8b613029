/-
Module: ServiceLifecycle.Proofs.Deployment.Sections
Purpose: The sections that are found in the tree of a deployment are those that it declares.
Main exports: pathParts_section, Deployment.IsNamed, Deployment.isNamed_of_valid,
  Deployment.subset_tree, Deployment.subset_tree_of_mem
-/
import ServiceLifecycle.Proofs.Configuration.DottedPaths
import ServiceLifecycle.Proofs.Deployment.FirstOffence

namespace ServiceLifecycle

/-!
A broker reads the section of a service by a dotted path: `services`, a dot and the name.  Names
that hold no dot stay in one part, so the path leads to the table of that name.  A deployment that
has been accepted has only such names, each of them once, so that every section is found under the
name of its declaration, and under no other.
-/

theorem section_eq (name : String) : "services." ++ name = "services" ++ "." ++ name :=
  congrArg (· ++ name) (by decide +kernel)

/-- The path of a section begins with a part of its own. -/
theorem pathParts_section (name : String) :
    pathParts ("services." ++ name) = "services" :: pathParts name := by
  rw [section_eq, pathParts_concat, pathParts_dotless (by decide), List.singleton_append]

/-- A name of nothing but dots leaves only the first part of the path; any other name loses the dots
at its end. -/
theorem withoutTrailingDots_section (name : String) :
    withoutTrailingDots ("services." ++ name) =
      if withoutTrailingDots name = "" then "services"
      else "services." ++ withoutTrailingDots name := by
  have first : withoutTrailingDots "services" = "services" :=
    withoutTrailingDots_dotless (by decide)
  rw [section_eq, withoutTrailingDots_concat, first, section_eq]

/-- Every service has a name that can be addressed, and no two have the same. -/
structure Deployment.IsNamed (deployment : Deployment) : Prop where
  distinct : (deployment.services.map Declaration.name).Nodup
  nonempty : ∀ declaration ∈ deployment.services, declaration.name ≠ ""
  dotless : ∀ declaration ∈ deployment.services, '.' ∉ declaration.name.toList

theorem Deployment.isNamed_of_valid {deployment : Deployment}
    (valid : deployment.validate = .ok ()) : deployment.IsNamed := by
  obtain ⟨wellFormed, -⟩ := validate_eq_ok_iff.mp valid
  refine ⟨wellFormed.distinct, ?_, wellFormed.dotless⟩
  intro declaration member empty
  obtain ⟨c, present, -⟩ := wellFormed.named declaration member
  rw [empty] at present
  cases present

namespace Deployment

variable {deployment : Deployment}

theorem get?_sections (distinct : (deployment.services.map Declaration.name).Nodup)
    (name : String) :
    Entries.get? name deployment.sections =
      (deployment.find? name).map fun declaration => .table declaration.toSection := by
  have keys : Entries.keys (deployment.services.map fun declaration =>
      (declaration.name, Value.table declaration.toSection)) =
        deployment.services.map Declaration.name := by
    rw [Entries.keys, List.map_map]
    rfl
  rw [sections, Entries.get?_sorted (keys ▸ distinct), find?]
  clear distinct keys
  induction deployment.services with
  | nil => rfl
  | cons declaration rest inductionHypothesis =>
      rw [List.map_cons, Entries.get?_cons, inductionHypothesis]
      by_cases same : declaration.name = name <;> simp [same]

theorem get?_tree (deployment : Deployment) :
    Entries.get? "services" deployment.tree = some (.table deployment.sections) := by
  rw [tree]
  cases deployment.applicationRoot with
  | none => rfl
  | some path => rw [Entries.get?_putSorted, if_neg (by decide)]; rfl

/-- The section of a name is that of its declaration. -/
theorem subset_tree (distinct : (deployment.services.map Declaration.name).Nodup) {name : String}
    (nonempty : name ≠ "") (dotless : '.' ∉ name.toList) :
    deployment.tree.subset ("services." ++ name) =
      ((deployment.find? name).map Declaration.toSection).getD [] := by
  have found : Configuration.lookup deployment.tree ("services." ++ name) =
      (deployment.find? name).map fun declaration => .table declaration.toSection := by
    rw [Configuration.lookup, pathParts_section, pathParts_dotless dotless, Value.follow?,
      Value.child?, get?_tree, Option.bind_some, Value.follow?, Value.child?,
      get?_sections distinct]
    cases deployment.find? name <;> rfl
  rw [Configuration.subset, withoutTrailingDots_section, withoutTrailingDots_dotless dotless,
    if_neg nonempty, found]
  cases deployment.find? name <;> rfl

theorem find?_of_mem (distinct : (deployment.services.map Declaration.name).Nodup)
    {declaration : Declaration} (member : declaration ∈ deployment.services) :
    deployment.find? declaration.name = some declaration := by
  rw [find?]
  generalize deployment.services = services at distinct member ⊢
  induction services with
  | nil => cases member
  | cons first rest inductionHypothesis =>
      obtain ⟨fresh, others⟩ := List.nodup_cons.mp distinct
      rcases List.mem_cons.mp member with rfl | later
      · simp
      · have different : (first.name == declaration.name) = false := by
          refine beq_eq_false_iff_ne.mpr ?_
          intro same
          exact fresh (same ▸ List.mem_map_of_mem later)
        rw [List.find?_cons_of_neg (by simp [different])]
        exact inductionHypothesis others later

/-- A service finds the settings that its declaration gives it. -/
theorem subset_tree_of_mem (named : deployment.IsNamed) {declaration : Declaration}
    (member : declaration ∈ deployment.services) :
    deployment.tree.subset ("services." ++ declaration.name) = declaration.toSection := by
  rw [subset_tree named.distinct (named.nonempty declaration member)
    (named.dotless declaration member), find?_of_mem named.distinct member]
  rfl

end Deployment

end ServiceLifecycle
