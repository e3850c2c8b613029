/-
Module: ServiceLifecycle.Main
Purpose: The service host as a program.
Main exports: main
-/
import ServiceLifecycle.Host.Announcement

/-!
The program looks around, lets the host answer its command line, and prints the answer.
-/

open ServiceLifecycle

/-- The variables of the environment: name, equals sign, value, with a NUL after each. -/
def readVariables : IO Variables := do
  try
    let content ← IO.FS.readFile "/proc/self/environ"
    pure ((content.splitOn "\x00").filterMap fun binding =>
      match binding.splitOn "=" with
      | name :: value :: more => some (name, "=".intercalate (value :: more))
      | _ => none)
  catch _ =>
    pure []

/-- The user's configuration directory.  A relative one is not used. -/
def userDirectoryOf (environment : Variables) : Option String :=
  ((environment.get? "XDG_CONFIG_HOME").filter fun directory => directory.startsWith "/").or
    ((environment.get? "HOME").map fun home => Path.join home ".config")

/-- Read one file, if there is one. -/
def readFileAt (path : String) : IO (Entries String) := do
  try
    pure [(path, ← IO.FS.readFile path)]
  catch _ =>
    pure []

/-- Read a main file and the file of the profile beside it. -/
def readWithProfile (loader : Loader) (path : String) : IO (Entries String) := do
  let main ← readFileAt path
  match loader.profileFile? path with
  | some beside => pure (main ++ (← readFileAt beside))
  | none => pure main

/-- The files that the host may read. -/
def readFiles (surroundings : Surroundings) (arguments : HostArguments) :
    IO (Entries String) := do
  let loader := Host.loader surroundings arguments
  match loader.file with
  | some path => readWithProfile loader path
  | none =>
      let found ← (Loader.defaultSearchPaths surroundings).mapM fun directory =>
        readWithProfile loader (Path.join directory "keystone.toml")
      pure found.flatten

/-- Run the host on the words of its command line. -/
def main (words : List String) : IO UInt32 := do
  let environment ← readVariables
  let surroundings : Surroundings :=
    { environment, userDirectory := userDirectoryOf environment }
  let contents ← match HostRequest.ofWords? words with
    | some (.run arguments) => readFiles surroundings arguments
    | _ => pure []
  let report := Host.answer { surroundings with files := { contents } } words
  IO.print report.stdout
  IO.eprint report.stderr
  pure (UInt32.ofNat report.exitCode)
