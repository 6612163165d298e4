import Restack.Intake.Selection
import Restack.Workspace.Location

/-!
# A workspace in memory

Files and folders by their places from the root. A folder is there when it has been made, or when it
leads to something that is there.
-/

namespace Restack.Workspace

open Restack.Archive Restack.Intake

/-- The files and folders around the place that work is done in. -/
structure Tree where
  /-- The place that work is done in. -/
  home : List String
  files : List (List String × ByteArray)
  folders : List (List String)

/-- What is found at a place. -/
inductive Source where
  | missing (place : List String)
  | file (place : List String) (data : ByteArray)
  | folder (place : List String) (files : List FolderFile)

/-- The place of what is found. -/
def Source.place : Source → List String
  | .missing place | .file place _ | .folder place _ => place

namespace Tree

/-- The tree with one more file, or with one more folder when the name ends with a slash. A later
file takes the place of an earlier one. -/
def add (tree : Tree) (entry : Entry) : Tree :=
  let place := (Location.ofText entry.name).absolute tree.home
  if Text.hasEnd "/" entry.name then { tree with folders := place :: tree.folders }
  else { tree with files := (place, entry.data) :: tree.files }

/-- The tree that holds some entries below the place that work is done in. -/
def ofEntries (home : List String) (entries : List Entry) : Tree :=
  entries.foldl add ⟨home, [], []⟩

/-- The octets of the file at a place. -/
def data? (tree : Tree) (place : List String) : Option ByteArray :=
  tree.files.lookup place

/-- The places that are known to lead somewhere. -/
def known (tree : Tree) : List (List String) :=
  tree.home :: (tree.folders ++ tree.files.map fun file => file.1.dropLast)

/-- Whether there is a folder at a place. -/
def isFolder (tree : Tree) (place : List String) : Bool :=
  tree.known.any place.isPrefixOf

/-- Whether there is something at a place. -/
def isThere (tree : Tree) (place : List String) : Bool :=
  (tree.data? place).isSome || tree.isFolder place

/-- Where steps lead to from a place, if each of them can be taken. -/
def walk? (tree : Tree) (here : List String) : List String → Option (List String)
  | [] => some here
  | name :: rest =>
    let next := Location.step here name
    if tree.isFolder here && tree.isThere next then walk? tree next rest else none

/-- Where a location is, if there is something. -/
def find? (tree : Tree) (location : Location) : Option (List String) :=
  tree.walk? (if location.isAbsolute then [] else tree.home) location.steps

/-- The files below a folder. -/
def filesBelow (tree : Tree) (place : List String) : List FolderFile :=
  let paths := (tree.files.map (·.1)).eraseDups
  paths.filterMap fun path =>
    if place.isPrefixOf path then
      (tree.data? path).map fun data => ⟨path.drop place.length, data⟩
    else none

/-- The parts of the paths to the folders below a folder, and of the path to itself. -/
def foldersBelow (tree : Tree) (place : List String) : List (List String) :=
  let inside := (tree.known.filter place.isPrefixOf).map (·.drop place.length)
  (inside.flatMap fun path => (List.range (path.length + 1)).map path.take).eraseDups

/-- The names of what stands in a folder. -/
def names (tree : Tree) (place : List String) : List String :=
  let paths := tree.known ++ tree.files.map (·.1)
  (paths.filterMap fun path =>
    if place.isPrefixOf path then (path.drop place.length).head? else none).eraseDups

/-- What is found where a text says. -/
def look (tree : Tree) (text : String) : Source :=
  let location := Location.ofText text
  match tree.find? location with
  | none => .missing (location.absolute tree.home)
  | some place =>
    match tree.data? place with
    | some data => .file place data
    | none => .folder place (tree.filesBelow place)

/-- The tree after a file has been written where a text says, with the folders that lead there;
nothing where a file stands in the way or a folder stands at the place itself. -/
def save? (tree : Tree) (text : String) (data : ByteArray) : Option Tree :=
  let place := (Location.ofText text).absolute tree.home
  let leading := (List.range place.length).map place.take
  if tree.isFolder place || leading.any fun folder => (tree.data? folder).isSome then none
  else some { tree with files := (place, data) :: tree.files }

end Tree

end Restack.Workspace
