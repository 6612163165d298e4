import Restack.Text.Pattern
import Restack.Text.Split

/-!
# Blocks of lines

Where a block that begins on a line ends. Every brace counts, those in texts and comments as well,
and a block that is never closed goes on to the last line.
-/

namespace Restack.Outline

open Restack.Text

/-- How deep a scan stands within braces, and whether it has met an opening one. A scan that begins
with closing braces goes below zero. -/
structure Depth where
  count : Int
  opened : Bool
deriving DecidableEq, Repr

namespace Depth

/-- Before the first brace. -/
def start : Depth := ⟨0, false⟩

/-- The depth after a character, or nothing when it closes the block. -/
def step (depth : Depth) (c : Char) : Option Depth :=
  if c == '\x7b' then some ⟨depth.count + 1, true⟩
  else if c == '\x7d' then
    if depth.count == 1 && depth.opened then none else some ⟨depth.count - 1, depth.opened⟩
  else some depth

/-- The depth after a line, or nothing when the block is closed on it. -/
def afterLine (depth : Depth) : List Char → Option Depth
  | [] => some depth
  | c :: rest =>
    match depth.step c with
    | some depth => depth.afterLine rest
    | none => none

end Depth

/-- The opening braces on a line less the closing ones. -/
def braceBalance (line : List Char) : Int :=
  (line.count '\x7b' : Int) - line.count '\x7d'

/-- The number of the line, counted from `i`, on which the block is closed. -/
def closingLine (depth : Depth) (i : Nat) : List String → Option Nat
  | [] => none
  | line :: rest =>
    match depth.afterLine line.toList with
    | some depth => closingLine depth (i + 1) rest
    | none => some i

/-- The lines from a line on, the first of them without the characters before a column. -/
def linesFrom (lines : List String) (start column : Nat) : List String :=
  match lines.drop start with
  | [] => []
  | line :: rest => String.ofList (line.toList.drop column) :: rest

/-- The line that closes the block which is opened first at or after a place, if one does. -/
def closingLine? (lines : List String) (start column : Nat) : Option Nat :=
  closingLine .start start (linesFrom lines start column)

/-- The last line of the block that is opened first at or after a place: the line that closes it, or
the last line of all. There is none only if there are no lines. -/
def blockEnd? (lines : List String) (start column : Nat) : Option Nat :=
  (closingLine? lines start column).or
    (if lines.isEmpty then none else some (lines.length - 1))

/-- The last line of a block that is opened at or after the beginning of a line. -/
def blockEnd (lines : List String) (start : Nat) : Nat :=
  (blockEnd? lines start 0).getD start

/-- The number of characters before the last occurrence of a character. -/
def lastPlace? (c : Char) (s : List Char) : Option Nat :=
  match s.reverse.findIdx? (· == c) with
  | some i => some (s.length - 1 - i)
  | none => none

/-- The column where the body of a component can begin on the line that declares it: after the first
arrow, or else after the last closing parenthesis. -/
def bodyColumn (line : List Char) : Nat :=
  match cutAt ['=', '>'] line with
  | some (before, _) => before.length + 2
  | none =>
    match lastPlace? ')' line with
    | some place => place + 1
    | none => 0

/-- The last line of the component that is declared on a line, if there is such a line. -/
def componentEnd? (lines : List String) (start : Nat) : Option Nat :=
  match lines[start]? with
  | some line => blockEnd? lines start (bodyColumn line.toList)
  | none => none

/-- The first line from a line on that satisfies a test. -/
def firstLine? (p : String → Bool) (lines : List String) (start : Nat) : Option Nat :=
  ((lines.drop start).findIdx? p).map (start + ·)

/-- The line on which a statement ends: the first with a semicolon or a closing brace. -/
def statementEnd (lines : List String) (start : Nat) : Nat :=
  (firstLine? (fun line => line.toList.any fun c => c == ';' || c == '\x7d') lines start).getD start

/-- The first line that holds an opening tag and the first after it that holds the closing tag. -/
def sectionBounds? (lines : List String) (startTag endTag : String) : Option (Nat × Nat) := do
  let first ← firstLine? (hasPart startTag) lines 0
  let last ← firstLine? (hasPart endTag) lines (first + 1)
  return (first, last)

/-- The lines from one up to another, the last one not included. -/
def slice (lines : List String) (first last : Nat) : List String :=
  (lines.drop first).take (last - first)

/-- An entry of an object: its key, its value as it stands there, and its line. -/
structure Entry where
  key : String
  raw : String
  line : Nat
deriving Repr

/-- A key and its value: the key is the first group, and the value the second. -/
def entryPattern : Pattern :=
  .blanks ++ .maybe .quotes ++ .group 1 .word ++ .maybe .quotes ++ .blanks ++ .sign ':' ++
    .blanks ++ .group 2 (.thriftyRun1 (· != '\n')) ++ .blanks ++ .maybe (.sign ',') ++ .blanks ++
    .finish

/-- The entry on a line. -/
def entryOn? (text : String) (line : Nat) : Option Entry :=
  (entryPattern.matchStart? text).map fun m => ⟨m.group 1, m.group 2, line⟩

/-- What stands after the first opening brace; all of a line that has none. -/
def afterBrace (line : List Char) : List Char :=
  match cutAt ['\x7b'] line with
  | some (_, rest) => rest
  | none => line

/-- The entries between the braces of an object that begins and ends on one line, if it does. -/
def inlineEntries? (line : String) (number : Nat) : Option (List Entry) :=
  let inline := afterBrace line.toList
  (lastPlace? '\x7d' inline).map fun place =>
    (splitOnChar ',' (inline.take place)).filterMap fun part =>
      entryOn? (String.ofList part) number

/-- The entries at the first level on the lines after the first. -/
def entriesBelow (depth : Int) : List (String × Nat) → List Entry
  | [] => []
  | (line, number) :: rest =>
    let here :=
      if depth == 1 && !startsWith ['/', '/'] (trim line.toList) then (entryOn? line number).toList
      else []
    here ++ entriesBelow (depth + braceBalance line.toList) rest

/-- The entries at the first level of the object that begins on a line. -/
def objectEntries (lines : List String) (start : Nat) : List Entry :=
  match lines[start]? with
  | none => []
  | some first =>
    match inlineEntries? first start with
    | some entries => entries
    | none =>
      let last := blockEnd lines start
      let below := (slice lines (start + 1) (last + 1)).zipIdx (start + 1)
      entriesBelow (braceBalance first.toList) below

end Restack.Outline
