import Restack.Script.Kind

/-!
# Terminals

The units that a grammar is written in: fixed words and signs, classes of other units such as names
and numbers, and places where something ends.
-/

namespace Restack.Script

/-- A unit of a script. -/
inductive Terminal where
  /-- A word with a meaning of its own. -/
  | word (text : String)
  /-- A sign. -/
  | sign (text : String)
  | name | privateName | number
  /-- A line that names an interpreter. -/
  | interpreterLine
  /-- A name with dashes in it. -/
  | dashedName
  /-- A character of markup by its name or number. -/
  | entity
  | markupText
  /-- Part of a string between marks of this kind. -/
  | stringPart (mark : Char)
  /-- Part of the string of an attribute. -/
  | attributePart (mark : Char)
  | escape
  | templatePart
  | regexBody | regexEnd | regexFlags
  /-- The question mark of a choice between two values. -/
  | choiceMark
  /-- A place where a statement may end without a semicolon. -/
  | statementEnd
  /-- A place where the head of a function may end without a body. -/
  | signatureEnd
  /-- The end of the script. -/
  | finish
deriving DecidableEq, Repr

namespace Terminal

instance : Hashable Terminal where
  hash terminal :=
    let place := UInt64.ofNat terminal.ctorIdx
    match terminal with
    | .word text | .sign text => mixHash place (hash text)
    | .stringPart mark | .attributePart mark => mixHash place mark.val.toUInt64
    | _ => place

/-- The kind of the nodes that units of a class form. Words and signs are only tokens. -/
def kind? : Terminal → Option Kind
  | .name => some .identifier
  | .privateName => some .privatePropertyIdentifier
  | .number => some .number
  | .interpreterLine => some .interpreterLine
  | .dashedName => some .identifier
  | .entity => some .htmlCharacterReference
  | .markupText => some .jsxText
  | .stringPart _ => some .stringFragment
  | .attributePart _ => some .stringFragment
  | .escape => some .escapeSequence
  | .templatePart => some .stringFragment
  | .regexBody => some .regexPattern
  | .regexFlags => some .regexFlags
  | _ => none

/-- Units that can be told without knowing what is expected. -/
def isLoose : Terminal → Bool
  | .word _ | .sign _ | .name | .privateName | .number | .dashedName | .entity | .finish => true
  | _ => false

/-- Units that are parts of a script. The others only mark a place or stand within another unit. -/
def isShown : Terminal → Bool
  | .statementEnd | .signatureEnd | .choiceMark | .templatePart | .finish => false
  | _ => true

end Terminal

end Restack.Script
