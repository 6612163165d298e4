import Restack.Text.Split

/-!
# Locations

How a text names a place: from the root, or from the place that work is done in, and by which steps.
Empty steps and single dots lead nowhere.
-/

namespace Restack.Workspace

open Restack.Text

/-- A place as a text names it. -/
structure Location where
  /-- Whether the steps begin at the root. -/
  isAbsolute : Bool
  steps : List String
deriving DecidableEq, Repr

namespace Location

/-- The steps of a text. -/
def stepsOf (text : String) : List String :=
  ((splitOnChar '/' text.toList).map String.ofList).filter fun step =>
    !step.isEmpty && step != "."

/-- The place that a text names. -/
def ofText (text : String) : Location :=
  ⟨hasStart "/" text, stepsOf text⟩

/-- The shortest text that names a place. -/
def text (location : Location) : String :=
  let path := joined "/" location.steps
  if location.isAbsolute then "/" ++ path else if path.isEmpty then "." else path

/-- One step from a place whose steps from the root are known. -/
def step (here : List String) (name : String) : List String :=
  if name == ".." then here.dropLast else here ++ [name]

/-- The steps from the root, when work is done in a place `home`. -/
def absolute (home : List String) (location : Location) : List String :=
  location.steps.foldl step (if location.isAbsolute then [] else home)

end Location

/-- The last step of a place. -/
def nameOf (place : List String) : String := place.getLast?.getD ""

/-- The text of a place that is given from the root. -/
def textOf (place : List String) : String := "/" ++ joined "/" place

/-- A name cut before its last dot, unless the dot is the first or the last character. -/
def stemOf (name : String) : String :=
  let cs := name.toList
  let tail := (cs.reverse.takeWhile (· != '.')).reverse
  let front := cs.take (cs.length - tail.length - 1)
  if tail.length < cs.length && !tail.isEmpty && !front.isEmpty then String.ofList front else name

/-- The last dot of a name and what follows it, unless the dot is the first or the last
character. -/
def suffixOf (name : String) : String :=
  String.ofList (name.toList.drop (stemOf name).length)

end Restack.Workspace
