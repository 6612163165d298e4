/-!
# Patterns for names

A star stands for any characters, a question mark for one, and brackets for one of a class. A
bracket that is never closed stands for itself.
-/

namespace Restack.Intake

/-- What a part of a pattern stands for. -/
inductive GlobPart where
  /-- A character itself. -/
  | one (c : Char)
  /-- Any one character. -/
  | any
  /-- Any characters, or none. -/
  | many
  /-- One character within some range, or within none of them. -/
  | within (negated : Bool) (ranges : List (Char × Char))
deriving DecidableEq, Repr

/-- A pattern for names. -/
abbrev Glob := List GlobPart

namespace Glob

/-- What stands between brackets, when what follows the opening bracket closes it. An exclamation
mark, and a closing bracket right at the beginning, belong to it. -/
def bracketed? (s : List Char) : Option (List Char) :=
  let mark := s.takeWhile (· == '!') |>.take 1
  let s := s.drop mark.length
  let first := s.takeWhile (· == ']') |>.take 1
  let s := s.drop first.length
  let inner := s.takeWhile (· != ']')
  if inner.length < s.length then some (mark ++ first ++ inner) else none

/-- The ranges that characters between brackets stand for. -/
def rangesOf : List Char → List (Char × Char)
  | low :: '-' :: high :: rest => (low, high) :: rangesOf rest
  | c :: rest => (c, c) :: rangesOf rest
  | [] => []

/-- The class that the text between brackets stands for. -/
def classOf : List Char → GlobPart
  | '!' :: rest => .within true (rangesOf rest)
  | s => .within false (rangesOf s)

/-- The parts of a pattern after some characters that have been read. -/
def partsFrom : Nat → List Char → Glob
  | _, [] => []
  | skip + 1, _ :: rest => partsFrom skip rest
  | 0, c :: rest =>
    match c with
    | '*' => .many :: partsFrom 0 rest
    | '?' => .any :: partsFrom 0 rest
    | '[' =>
      match bracketed? rest with
      | some inner => classOf inner :: partsFrom (inner.length + 1) rest
      | none => .one '[' :: partsFrom 0 rest
    | c => .one c :: partsFrom 0 rest

/-- The pattern that a text describes. -/
def ofText (s : List Char) : Glob := partsFrom 0 s

/-- The ends of a text, the longest first. -/
def ends : List Char → List (List Char)
  | [] => [[]]
  | c :: rest => (c :: rest) :: ends rest

/-- Whether a character fits a part that stands for one. -/
def fitsOne (c : Char) : GlobPart → Bool
  | .one d => c == d
  | .any => true
  | .many => false
  | .within negated ranges => negated != ranges.any fun (low, high) => low ≤ c && c ≤ high

/-- Whether a name fits a pattern. -/
def fits : Glob → List Char → Bool
  | [], s => s.isEmpty
  | .many :: rest, s => (ends s).any (fits rest)
  | part :: rest, c :: s => fitsOne c part && fits rest s
  | _ :: _, [] => false

/-- Whether a text holds a sign that stands for other characters. -/
def isPattern (s : List Char) : Bool :=
  s.any fun c => c == '*' || c == '?' || c == '['

end Glob

end Restack.Intake
