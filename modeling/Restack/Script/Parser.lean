import Restack.Script.Tree

/-!
# Parsers of scripts

Scripts are JavaScript with the types of TypeScript. There are two dialects: one with markup between
angle brackets as an expression, and one where angle brackets in front of an expression state its
type. Which syntax tree a script has is for a parser to say, and everything that is made of scripts
is made of what a parser gives. A script with faults has a tree with faults, and is refused with the
line of the first of them.
-/

namespace Restack.Script

/-- A dialect of the language. -/
inductive Dialect where
  /-- Markup is an expression. -/
  | markup
  /-- A type in angle brackets may stand before an expression. -/
  | plain
deriving DecidableEq, Repr

/-- The dialect of a file by its name. -/
def Dialect.ofPath (path : String) : Dialect :=
  if Text.hasEnd ".ts" path then .plain else .markup

/-- The syntax tree of a script with faults. Of each node there is the line on which it begins, and
whether it is a fault: text that fits nowhere, or something that is missing. -/
inductive FaultyTree where
  | node (line : Nat) (isFault : Bool) (children : List FaultyTree)
deriving Repr

namespace FaultyTree

mutual

/-- The line of the first fault: a node stands before the nodes within it. -/
def firstFault? : FaultyTree → Option Nat
  | .node line isFault children => if isFault then some line else firstFaultOf? children

/-- The line of the first fault in a row of trees. -/
def firstFaultOf? : List FaultyTree → Option Nat
  | [] => none
  | tree :: rest => tree.firstFault?.or (firstFaultOf? rest)

end

/-- The wording for a script that has faults. -/
def message (tree : FaultyTree) : String :=
  "Unexpected token at line " ++ toString (tree.firstFault?.getD 1)

end FaultyTree

/-- What gives scripts their syntax trees. -/
abbrev Parser := Dialect → String → Except FaultyTree Tree

end Restack.Script
