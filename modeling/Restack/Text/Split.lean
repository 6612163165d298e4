/-!
# Cutting, joining and replacing

Operations on texts as lists of characters. Occurrences are found from the left and never overlap.
-/

namespace Restack.Text

/-- What follows `part` when the text begins with it. -/
def afterPart? (part s : List Char) : Option (List Char) :=
  match part, s with
  | [], s => some s
  | _ :: _, [] => none
  | p :: part, c :: rest => if p == c then afterPart? part rest else none

/-- Whether the text begins with `part`. -/
def startsWith (part s : List Char) : Bool :=
  (afterPart? part s).isSome

/-- Whether the text ends with `part`. -/
def endsWith (part s : List Char) : Bool :=
  startsWith part.reverse s.reverse

/-- The text before the first occurrence of `part` and the text after it. -/
def cutAt (part : List Char) : List Char → Option (List Char × List Char)
  | [] => if part.isEmpty then some ([], []) else none
  | c :: rest =>
    match afterPart? part (c :: rest) with
    | some tail => some ([], tail)
    | none => (cutAt part rest).map fun halves => (c :: halves.1, halves.2)

/-- Whether `part` occurs in the text. -/
def occurs (part s : List Char) : Bool :=
  (cutAt part s).isSome

/-- The pieces between the occurrences of one character; a text without it is one piece. -/
def splitOnChar (separator : Char) : List Char → List (List Char)
  | [] => [[]]
  | c :: rest =>
    if c == separator then [] :: splitOnChar separator rest
    else
      match splitOnChar separator rest with
      | [] => [[c]]
      | piece :: pieces => (c :: piece) :: pieces

/-- The pieces joined by a separator. -/
def joinWith (separator : List Char) : List (List Char) → List Char
  | [] => []
  | [piece] => piece
  | piece :: pieces => piece ++ separator ++ joinWith separator pieces

/-- Replaces the occurrences of a part that is not empty, from the left. -/
def replace (part replacement : List Char) (s : List Char) : List Char :=
  go 0 s
where
  /-- Skips what is left of an occurrence that has been replaced. -/
  go : Nat → List Char → List Char
    | _, [] => []
    | skip + 1, _ :: rest => go skip rest
    | 0, c :: rest =>
      if !part.isEmpty && startsWith part (c :: rest) then
        replacement ++ go (part.length - 1) rest
      else c :: go 0 rest

/-- The lines of a text: its pieces between line feeds. -/
def lines (s : String) : List String :=
  (splitOnChar '\n' s.toList).map String.ofList

/-- Whether a string begins with another. -/
def hasStart (part s : String) : Bool :=
  startsWith part.toList s.toList

/-- Whether a string ends with another. -/
def hasEnd (part s : String) : Bool :=
  endsWith part.toList s.toList

/-- Whether a string occurs in another. -/
def hasPart (part s : String) : Bool :=
  occurs part.toList s.toList

/-- A string with the occurrences of a part replaced. -/
def replaced (part replacement s : String) : String :=
  String.ofList (replace part.toList replacement.toList s.toList)

/-- Strings joined by a separator. -/
def joined (separator : String) (pieces : List String) : String :=
  String.ofList (joinWith separator.toList (pieces.map String.toList))

end Restack.Text
