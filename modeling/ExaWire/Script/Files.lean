/-
ExaWire/Script/Files.lean

Local files that are given by a list of places: files with their bytes, and
folders.  A path is followed part by part from the top folder; it leads nowhere
if it leaves that folder, or goes on behind a file.
-/
import ExaWire.Import.Upload
import ExaWire.Text.Cut

namespace ExaWire.Script.Files

/-- A place: the names that lead to it. -/
abbrev Place := List String

/-- Files and folders by their places; a folder has no bytes. -/
abbrev Tree := List (Place × Option Bytes)

/-- The parts of a path. -/
def parts (path : String) : List String := (Text.splitOn '/' path.toList).map String.ofList

/-- Whether a part of a path leads nowhere else. -/
def isIdle (part : String) : Bool := part = "" || part = "."

/-- The place that a path names, if the path does not step back. -/
def placeOf (path : String) : Place := (parts path).filter fun p => !isIdle p

/-- A tree from paths. -/
def ofPaths (paths : List (String × Option Bytes)) : Tree :=
  paths.map fun (path, data) => (placeOf path, data)

/-- Whether a place is a folder: it is listed as one, or something lies in it. -/
def isFolder (tree : Tree) (place : Place) : Bool :=
  place.isEmpty || tree.any fun (p, data) => place.isPrefixOf p && (p ≠ place || data.isNone)

/-- Follows the parts of a path from a place on. -/
def follow (tree : Tree) : Place → List String → Option Bytes
  | place, [] => (tree.lookup place).join
  | place, p :: ps =>
    if isFolder tree place then
      if isIdle p then follow tree place ps
      else if p = ".." then if place.isEmpty then none else follow tree place.dropLast ps
      else follow tree (place ++ [p]) ps
    else none

/-- The file of a path, if it can be opened; a path from outside the tree cannot. -/
def file? (tree : Tree) (path : String) : Option Import.LocalFile :=
  if path.toList.head? = some '/' then none
  else (follow tree [] (parts path)).map fun bs => [.bytes bs]

end ExaWire.Script.Files
