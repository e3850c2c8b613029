/-
Module: ServiceLifecycle.Source.Variables
Purpose: The configuration tree that environment variables contribute.
Main exports: Variables, Variables.tree, Variables.profile?
-/
import ServiceLifecycle.Source.VariableValue
import ServiceLifecycle.Source.Merge

namespace ServiceLifecycle

/-!
A variable takes part when its name begins with `KEYSTONE_` in any case.  What
follows is lowered and cut at double underscores (and at dots); the parts lead to
the place of the value in the tree.  The variable that selects the profile is not
a setting.
-/

/-- The environment variables of the process. -/
abbrev Variables := Entries String

namespace Source

/-- The beginning of the names that take part. -/
def variableStem : String := "KEYSTONE_"

/-- Write a dot for every double underscore, from the left. -/
def dotted : List Char → List Char
  | '_' :: '_' :: rest => '.' :: dotted rest
  | c :: rest => c :: dotted rest
  | [] => []

/-- What follows the stem in a name, if the name begins with it. -/
def afterStem? (name : String) : Option String :=
  let chars := (Text.trim name).toList
  let count := variableStem.length
  if (chars.take count).map Char.toUpper = variableStem.toList then
    some (String.ofList (chars.drop count))
  else
    none

/-- The place in the tree that a name denotes. -/
def settingPath? (name : String) : Option (List String) := do
  let key ← afterStem? name
  let lowered := key.toList.map Char.toLower
  if String.ofList lowered = "profile" then none
  let parts := pathParts (Text.trim (String.ofList (dotted lowered)))
  if parts.any (·.isEmpty) then none else some parts

/-- The value at the end of a path of nested tables. -/
def nested (value : Value) : List String → Value
  | [] => value
  | part :: parts => .table [(part, nested value parts)]

/-- The tree of one variable. -/
def variableTree (binding : String × String) : Table :=
  match settingPath? binding.1 with
  | some path => ((nested (Value.ofVariable binding.2) path).table?).getD []
  | none => []

end Source

/-- The tree of all variables; of two for one place, the later counts. -/
def Variables.tree (environment : Variables) : Table :=
  environment.foldl (fun tree binding => tree.overlay (Source.variableTree binding)) []

/-- The profile that the environment selects. -/
def Variables.profile? (environment : Variables) : Option String :=
  (environment.get? "KEYSTONE_PROFILE").filter (!·.isEmpty)

end ServiceLifecycle
