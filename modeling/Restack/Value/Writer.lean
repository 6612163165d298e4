import Restack.Value.Basic
import Restack.Number.FloatText
import Restack.Text.Quoted

/-!
# Writing data documents

A document is written on one line, or with each item on a line of its own. Strings may be kept to
ASCII: then other characters are written as UTF-16 units.
-/

namespace Restack.Value

open Restack.Text

/-- How a document is written. -/
structure Layout where
  /-- The number of spaces that each level is moved in by, or nothing for a document on one line. -/
  indent : Option Nat
  /-- What separates the items of a document on one line. -/
  separator : String
  /-- What separates a key from its value. -/
  colon : String
  /-- Whether only ASCII is written. -/
  ascii : Bool

/-- One line, with a blank after commas and colons. -/
def Layout.line : Layout := ⟨none, ", ", ": ", true⟩

/-- One line without blanks. -/
def Layout.compact : Layout := ⟨none, ",", ":", true⟩

/-- Two spaces a level, ASCII only. -/
def Layout.pretty : Layout := ⟨some 2, ",", ": ", true⟩

/-- Two spaces a level, every character as it is. -/
def Layout.readable : Layout := ⟨some 2, ",", ": ", false⟩

/-- A character by its UTF-16 units. -/
def unitEscape (c : Char) : List Char :=
  let n := c.toNat
  let unit (u : Nat) : List Char := '\\' :: 'u' :: hexDigits 4 u
  if n < 0x10000 then unit n
  else unit (0xD800 + (n - 0x10000) / 0x400) ++ unit (0xDC00 + (n - 0x10000) % 0x400)

/-- One character of a string. -/
def stringChar (ascii : Bool) (c : Char) : List Char :=
  if c == '\x22' then ['\\', '\x22']
  else if c == '\\' then ['\\', '\\']
  else if c == '\n' then ['\\', 'n']
  else if c == '\r' then ['\\', 'r']
  else if c == '\t' then ['\\', 't']
  else if c == '\x08' then ['\\', 'b']
  else if c == '\x0c' then ['\\', 'f']
  else if c.toNat < 32 || (ascii && 127 ≤ c.toNat) then unitEscape c
  else [c]

/-- A string in quotation marks. -/
def writeString (layout : Layout) (s : String) : String :=
  "\"" ++ String.ofList (s.toList.flatMap (stringChar layout.ascii)) ++ "\""

/-- A float; infinity and not-a-number are written as words. -/
def writeFloat (x : Float) : String :=
  if x.isNaN then "NaN"
  else if x.isInf then (if x < 0.0 then "-Infinity" else "Infinity")
  else Number.floatText x

/-- The line end and the blanks that begin a line at a level. -/
def Layout.lineStart (layout : Layout) (level : Nat) : String :=
  match layout.indent with
  | some width => "\n" ++ String.ofList (List.replicate (width * level) ' ')
  | none => ""

mutual

/-- A value whose items stand at a level. -/
def writeAt (layout : Layout) (level : Nat) : Value → String
  | .null => "null"
  | .bool b => if b then "true" else "false"
  | .int n => toString n
  | .float x => writeFloat x
  | .str s => writeString layout s
  | .list [] => "[]"
  | .list (item :: rest) =>
    "[" ++ layout.lineStart level ++ writeAt layout (level + 1) item ++
      writeItems layout level rest ++ layout.lineStart (level - 1) ++ "]"
  | .object [] => "\x7b\x7d"
  | .object ((key, value) :: rest) =>
    "\x7b" ++ layout.lineStart level ++ writeString layout key ++ layout.colon ++
      writeAt layout (level + 1) value ++ writeFields layout level rest ++
      layout.lineStart (level - 1) ++ "\x7d"

/-- The items after the first. -/
def writeItems (layout : Layout) (level : Nat) : List Value → String
  | [] => ""
  | item :: rest =>
    layout.separator ++ layout.lineStart level ++ writeAt layout (level + 1) item ++
      writeItems layout level rest

/-- The fields after the first. -/
def writeFields (layout : Layout) (level : Nat) : List (String × Value) → String
  | [] => ""
  | (key, value) :: rest =>
    layout.separator ++ layout.lineStart level ++ writeString layout key ++ layout.colon ++
      writeAt layout (level + 1) value ++ writeFields layout level rest

end

/-- A document. -/
def write (layout : Layout) (value : Value) : String :=
  writeAt layout 1 value

end Restack.Value
