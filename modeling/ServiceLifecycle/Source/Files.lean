/-
Module: ServiceLifecycle.Source.Files
Purpose: The files that a program sees, and what opening a file for writing leaves behind.
Main exports: Files, Files.exists?, Files.read?, Files.readUpwards?, Files.canOpen, Files.opened
-/
import ServiceLifecycle.Entries
import ServiceLifecycle.Source.Path

namespace ServiceLifecycle

/-!
A path is walked from the working directory name by name, and every step but the last has
to be inside an existing directory, so `a/../b` leads nowhere unless `a` exists.  The
working directory and the directories above it exist; all others exist because there are
files below them, or because they were made on the way to a file that was opened for
writing.
-/

/-- The files and directories that there are. -/
structure Files where
  /-- The contents of the files, by path as seen from the working directory. -/
  contents : Entries String := []
  /-- The directories that were made. -/
  made : List Place := []
deriving Repr, Inhabited, DecidableEq

namespace Files

/-- The content of the file at a place. -/
def contentAt? (files : Files) (place : Place) : Option String :=
  (files.contents.find? fun file => Place.ofPath file.1 == place).map Prod.snd

/-- There is a directory at the place. -/
def isDirectory (files : Files) (place : Place) : Bool :=
  place.isAbove || place = Place.working || place = Place.root || files.made.contains place ||
    files.contents.any fun file => (Place.ofPath file.1).isBelow place

/-- The place that a path leads to, seen from a directory. -/
def walkFrom? (files : Files) (start : Place) (path : String) : Option Place :=
  if path = "" then
    none
  else
    (Path.parts path).foldlM (fun place part =>
      if !files.isDirectory place then none
      else if part = "" || part = "." then some place
      else some (place.step part)) start

/-- The place that a path leads to. -/
def walk? (files : Files) (path : String) : Option Place :=
  files.walkFrom? (Place.startOf path) path

/-- There is a file or a directory at the end of the path. -/
def exists? (files : Files) (path : String) : Bool :=
  match files.walk? path with
  | some place => (files.contentAt? place).isSome || files.isDirectory place
  | none => false

/-- The content of the file at the end of the path. -/
def read? (files : Files) (path : String) : Option String :=
  (files.walk? path).bind files.contentAt?

/-- The directories above the working directory, from the nearest to the last that has
files in it. -/
def directoriesAbove (files : Files) : List Place :=
  let heights := files.contents.map fun file =>
    ((Place.ofPath file.1).takeWhile (· == "..")).length
  (List.range (heights.foldl max 0 + 1)).map fun height => List.replicate height ".."

/-- The content of the file at the end of the path.  A path that does not begin at the
root and leads to no file is tried again from every directory above. -/
def readUpwards? (files : Files) (path : String) : Option String :=
  match files.read? path with
  | some content => some content
  | none =>
      if path.startsWith "/" then none
      else files.directoriesAbove.findSome? fun start =>
        (files.walkFrom? start path).bind files.contentAt?

/-- A file can be opened for writing at the end of the path.  Directories on the way are
made where they are missing, but a file cannot become one, nor a directory a file. -/
def canOpen (files : Files) (path : String) : Bool :=
  let target := Place.ofPath path
  let way := Place.wayTo path
  (Path.names path).all Path.canName &&
    way.all (fun place => (files.contentAt? place).isNone) &&
    !files.isDirectory target && !way.any target.isPrefixOf

/-- The directories that an attempt to open the file at the end of a path makes: those on
the way, up to a file that is in the way. -/
def makes (files : Files) (path : String) : List Place :=
  if (Path.names path).dropLast.all Path.canName then
    (Place.wayTo path).takeWhile fun place => (files.contentAt? place).isNone
  else
    []

/-- The files after an attempt to open one for writing behind what it holds.  A file that
was not there is empty. -/
def opened (files : Files) (path : String) : Files :=
  let isNew := files.canOpen path && (files.contentAt? (Place.ofPath path)).isNone
  { contents := if isNew then files.contents.put path "" else files.contents
    made := files.made ++ files.makes path }

end Files

end ServiceLifecycle
