import Restack.Text.Blank
import Restack.Text.Case
import Restack.Text.Quoted
import Restack.Text.Split
import Restack.Value.Basic

/-!
# Parts of a stack on a command line

A part of a stack is given by the name of its framework and its language, with a colon between them.
-/

namespace Restack.Command

open Restack.Text

/-- A part of a stack. -/
structure StackPart where
  name : String
  language : String
deriving DecidableEq, Repr

namespace StackPart

/-- A text that gives no part of a stack. -/
structure Flaw where
  text : String
deriving DecidableEq, Repr

/-- The wording of a flaw. -/
def Flaw.message (flaw : Flaw) : String := "Expected NAME:LANGUAGE, got " ++ quoted flaw.text

/-- The part that a text gives; an empty text gives none. The name goes up to the first colon, and
the language is taken in small letters. -/
def ofText (text : String) : Except Flaw (Option StackPart) :=
  if text.isEmpty then .ok none
  else
    match cutAt [':'] text.toList with
    | none => .error ⟨text⟩
    | some (name, language) =>
      let name := trim name
      let language := trim language
      if name.isEmpty || language.isEmpty then .error ⟨text⟩
      else .ok (some ⟨String.ofList name, String.ofList (lower language)⟩)

/-- A part as it is reported. -/
def toValue (part : StackPart) : Value :=
  .object [("name", .str part.name), ("language", .str part.language)]

end StackPart

/-- The stack whose layers are given by texts. -/
def stackOf (layers : List (String × Option String)) :
    Except StackPart.Flaw (List (String × Value)) := do
  let parts ← layers.mapM fun (layer, text?) => do
    let part? ← StackPart.ofText (text?.getD "")
    return part?.map fun part => (layer, part.toValue)
  return parts.filterMap id

end Restack.Command
