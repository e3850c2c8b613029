/-
Module: ServiceLifecycle.Source.Path
Purpose: Paths as texts, and the places that they name.
Main exports: Path.parts, Path.names, Path.fileName?, Path.stem?, Path.extension?, Path.join,
  Path.withFileName, Path.canName, Place, Place.step, Place.ofPath, Place.wayTo
-/

namespace ServiceLifecycle

/-!
A path is a text of names separated by slashes.  A place is where a path ends when every
name on it leads on: a name leads down, two dots lead up, and a single dot stays.
-/

namespace Path

/-- The text between slashes. -/
def parts (path : String) : List String :=
  (cut path.toList).map String.ofList
where
  /-- Cut a text at every slash. -/
  cut : List Char → List (List Char)
    | [] => [[]]
    | c :: rest =>
        if c = '/' then
          [] :: cut rest
        else
          match cut rest with
          | [] => [[c]]
          | part :: more => (c :: part) :: more

/-- The parts that name something. -/
def names (path : String) : List String :=
  (parts path).filter fun part => part != "" && part != "."

/-- The last name of a path, unless the path ends by going up. -/
def fileName? (path : String) : Option String :=
  match (names path).getLast? with
  | some ".." => none
  | last => last

/-- Split a file name before its last dot; a dot in front does not count. -/
def splitName (name : String) : String × Option String :=
  let reversed := name.toList.reverse
  let after := reversed.takeWhile (· != '.')
  match reversed.dropWhile (· != '.') with
  | [] => (name, none)
  | [_] => (name, none)
  | _ :: before => (String.ofList before.reverse, some (String.ofList after.reverse))

/-- The file name without its extension. -/
def stem? (path : String) : Option String :=
  (fileName? path).map fun name => (splitName name).1

/-- What follows the last dot of the file name. -/
def extension? (path : String) : Option String :=
  (fileName? path).bind fun name => (splitName name).2

/-- A name inside a directory. -/
def join (directory name : String) : String :=
  if directory = "" || directory.endsWith "/" then directory ++ name
  else directory ++ "/" ++ name

/-- The path with another name in place of the last. -/
def withFileName (path name : String) : String :=
  let above := (names path).dropLast
  let stem := if path.startsWith "/" then "/" else ""
  stem ++ "/".intercalate (above ++ [name])

/-- A file or a directory can have the name. -/
def canName (name : String) : Bool :=
  !name.toList.contains '\x00' && name.utf8ByteSize < 256

end Path

/-- A place: the names from the directory that holds the working directory, or from
the root.  The working directory itself has no name that a program could know, and
neither have the directories further up, which are reached by going up. -/
abbrev Place := List String

namespace Place

/-- The root of all directories. -/
def root : Place := ["/"]

/-- The working directory. -/
def working : Place := ["."]

/-- Where the walk along a path begins. -/
def startOf (path : String) : Place :=
  if path.startsWith "/" then root else working

/-- The place is above the working directory. -/
def isAbove (place : Place) : Bool :=
  place.all (· == "..")

/-- Go up or down by one name. -/
def step (place : Place) (name : String) : Place :=
  if name != ".." || place.isAbove then place ++ [name]
  else if place = root then place
  else place.dropLast

/-- The place that a path names. -/
def ofPath (path : String) : Place :=
  (Path.names path).foldl step (startOf path)

/-- The places on the way along names, from the first name to the last. -/
def along (place : Place) : List String → List Place
  | [] => []
  | name :: more => place.step name :: along (place.step name) more

/-- The places of the directories on the way along a path. -/
def wayTo (path : String) : List Place :=
  along (startOf path) (Path.names path).dropLast

/-- The place is inside of a directory, at any depth. -/
def isBelow (place directory : Place) : Bool :=
  directory.isPrefixOf place && directory.length < place.length

example : ofPath "a/../../b/./c" = ["b", "c"] ∧ wayTo "a/../b" = [[".", "a"], ["."]] := by
  decide +kernel

end Place

end ServiceLifecycle
