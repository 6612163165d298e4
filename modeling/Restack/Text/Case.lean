import Restack.Text.Ranges
import Restack.Text.CaseTable
import Restack.Text.CaseClassTable

/-!
# Upper and lower case

The case of letters of every script. Changing the case of a text may change its length, and the
lower case of a capital sigma depends on whether the letter ends a word.
-/

namespace Restack.Text

/-- A letter moved along the run that holds it. -/
def moveByRun (runs : Array (Nat × Nat × Nat × Int)) (c : Char) : Char :=
  match searchTable runs fun run => rangeOrder c.toNat run.1 run.2.1 with
  | some (first, _, stride, distance) =>
    if (c.toNat - first) % stride == 0 then Char.ofNat (Int.toNat (c.toNat + distance)) else c
  | none => c

/-- The lower case of one letter, where no neighbour matters. -/
def lowerChar (c : Char) : List Char :=
  if c.toNat < 128 then
    if 'A' ≤ c && c ≤ 'Z' then [Char.ofNat (c.toNat + 32)] else [c]
  else
    match lowerExpansions.lookup c.toNat with
    | some letters => letters.map Char.ofNat
    | none => [moveByRun lowerRuns c]

/-- The upper case of one letter. -/
def upperChar (c : Char) : List Char :=
  if c.toNat < 128 then
    if 'a' ≤ c && c ≤ 'z' then [Char.ofNat (c.toNat - 32)] else [c]
  else
    match upperExpansions.lookup c.toNat with
    | some letters => letters.map Char.ofNat
    | none => [moveByRun upperRuns c]

/-- The nearest character that is not passed over has a case. -/
def nextIsCased (s : List Char) : Bool :=
  match s.dropWhile fun c => inRanges caseIgnorableRanges c.toNat with
  | [] => false
  | c :: _ => inRanges casedRanges c.toNat

/-- The lower case of a text. A capital sigma becomes the final sigma when a cased letter stands
before it and none after it. -/
def lower (s : List Char) : List Char :=
  go [] s
where
  /-- Carries what stands before, the nearest character first. -/
  go : List Char → List Char → List Char
    | _, [] => []
    | before, c :: rest =>
      if c.toNat == 0x3A3 then
        let sigma := if nextIsCased before && !nextIsCased rest then 0x3C2 else 0x3C3
        Char.ofNat sigma :: go (c :: before) rest
      else lowerChar c ++ go (c :: before) rest

/-- The upper case of a text. -/
def upper (s : List Char) : List Char :=
  s.flatMap upperChar

/-- The upper case letters. -/
def isUpperChar (c : Char) : Bool :=
  if c.toNat < 128 then 'A' ≤ c && c ≤ 'Z' else inRanges upperRanges c.toNat

/-- The lower case letters. -/
def isLowerChar (c : Char) : Bool :=
  if c.toNat < 128 then 'a' ≤ c && c ≤ 'z' else inRanges lowerRanges c.toNat

/-- The digraphs whose first part alone is large. -/
def isTitleChar (c : Char) : Bool :=
  if c.toNat < 128 then false else inRanges titleRanges c.toNat

/-- Some letter is upper case and none is lower or title case. -/
def isUpper (s : List Char) : Bool :=
  s.any isUpperChar && !s.any fun c => isLowerChar c || isTitleChar c

/-- A text with its first character in upper case. -/
def capitalize : List Char → List Char
  | [] => []
  | c :: rest => upperChar c ++ rest

/-- The lower case of a string. -/
def lowered (s : String) : String :=
  String.ofList (lower s.toList)

/-- The upper case of a string. -/
def uppered (s : String) : String :=
  String.ofList (upper s.toList)

end Restack.Text
