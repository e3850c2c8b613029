/-
Module: ServiceLifecycle.Source.Loader
Purpose: Deployments from files, environment variables and overrides.
Main exports: Loader, Loader.new, Loader.layers, Loader.load
-/
import ServiceLifecycle.Deployment.Codec
import ServiceLifecycle.Deployment.Validation
import ServiceLifecycle.Source.Surroundings
import ServiceLifecycle.Toml.Document
import ServiceLifecycle.Value.Annotation

namespace ServiceLifecycle

/-!
A loader stacks trees, from the lowest to the highest priority: the main file, the
file of the active profile beside it, the environment variables, and the overrides
in the order in which they were added.  The trees are merged, the result is
decoded, and the deployment is validated.
-/

/-- Where to look for a deployment. -/
structure Loader where
  profile : Option String := none
  searchPaths : List String := []
  file : Option String := none
  readsVariables : Bool := true
  overrides : List Deployment := []
deriving Repr, Inhabited

namespace Loader

/-- A loader for the default places, with the profile that the environment
selects. -/
def new (surroundings : Surroundings) : Loader :=
  { profile := surroundings.environment.profile? }

/-- The directories that are searched unless others are named: the working
directory and, if the user keeps configurations somewhere, a directory there. -/
def defaultSearchPaths (surroundings : Surroundings) : List String :=
  "" :: (surroundings.userDirectory.map fun directory => Path.join directory "keystone").toList

/-- The main file in the first directory that has one. -/
def findMainFile? (loader : Loader) (surroundings : Surroundings) : Option String :=
  let directories :=
    if loader.searchPaths.isEmpty then defaultSearchPaths surroundings else loader.searchPaths
  (directories.map fun directory => Path.join directory "keystone.toml").find?
    surroundings.files.exists?

/-- The file of the active profile beside a main file. -/
def profileFile? (loader : Loader) (main : String) : Option String := do
  let profile ← loader.profile
  let stem ← Path.stem? main
  let extension ← Path.extension? main
  some (Path.withFileName main (stem ++ "." ++ profile ++ "." ++ extension))

/-- The content of a file that was found to exist.  In a directory's place a file of the
same name is read from further up, but not for the default places, whose paths are
complete. -/
def read? (loader : Loader) (files : Files) (path : String) : Option String :=
  if loader.file.isNone && loader.searchPaths.isEmpty then files.read? path
  else files.readUpwards? path

/-- The tree of a file.  Only the extension `toml` is known.  The document itself is no
value and carries none. -/
def readTree (loader : Loader) (surroundings : Surroundings) (path : String) :
    Except LoadFault Table :=
  match (Path.extension? path).getD "" with
  | "toml" =>
      match loader.read? surroundings.files path with
      | some content =>
          match (Toml.readDocument? content).bind Value.carriedEntries? with
          | some tree => .ok tree
          | none => .error (.unreadable (surroundings.sourceFault (.document path content)))
      | none => .ok []
  | extension => .error (.unsupportedFormat extension)

/-- The trees of a main file and of its profile. -/
def fileLayers (loader : Loader) (surroundings : Surroundings) (main : String) :
    Except LoadFault (List Table) := do
  let base ← loader.readTree surroundings main
  match (loader.profileFile? main).filter surroundings.files.exists? with
  | some path => return [base, ← loader.readTree surroundings path]
  | none => return [base]

/-- The trees of the files that are found. -/
def foundLayers (loader : Loader) (surroundings : Surroundings) :
    Except LoadFault (List Table) :=
  match loader.file with
  | some path =>
      if surroundings.files.exists? path then loader.fileLayers surroundings path
      else .error (.fileNotFound path)
  | none =>
      match loader.findMainFile? surroundings with
      | some path => loader.fileLayers surroundings path
      | none => .ok []

/-- The tree of an override. -/
def overrideTree (deployment : Deployment) : Table :=
  deployment.encode.table?.getD []

/-- All trees, by ascending priority. -/
def layers (loader : Loader) (surroundings : Surroundings) :
    Except LoadFault (List Table) := do
  let found ← loader.foundLayers surroundings
  let environment :=
    if loader.readsVariables then [surroundings.environment.tree] else []
  return found ++ environment ++ loader.overrides.map overrideTree

/-- The merged tree of a stack of trees. -/
def merged (layers : List Table) : Table :=
  layers.foldl Table.overlay []

/-- Load a deployment. -/
def load (loader : Loader) (surroundings : Surroundings) : Except LoadFault Deployment := do
  let layers ← loader.layers surroundings
  match Deployment.decode (.table (merged layers)) with
  | .error fault =>
      let trees := layers.filter fun tree => !tree.isEmpty
      throw (.unreadable (surroundings.sourceFault (.misfit trees fault)))
  | .ok deployment =>
      deployment.validate
      return deployment

end Loader

end ServiceLifecycle
