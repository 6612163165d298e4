import Restack.Script.Kind

/-!
# Syntax trees

A syntax tree keeps every character of the script: signs and words as tokens, the blanks between
them, and nodes that group them. So the text of a node is the text of its leaves in order.
-/

namespace Restack.Script

/-- A part of a script. -/
inductive Tree where
  /-- A sign, a word or another unit of the text. -/
  | token (text : String)
  /-- Blanks between tokens. -/
  | blank (text : String)
  /-- A group of parts. -/
  | node (kind : Kind) (label : Option Label) (children : List Tree)
deriving Inhabited, Repr

namespace Tree

/-- Whether the part is a node. -/
def isNode : Tree → Bool
  | .node .. => true
  | _ => false

/-- The kind of a node. -/
def kind? : Tree → Option Kind
  | .node kind _ _ => some kind
  | _ => none

/-- Whether the part is a node of this kind. -/
def isKind (kind : Kind) (tree : Tree) : Bool :=
  tree.kind? == some kind

/-- Whether the part is this token. -/
def isToken (text : String) : Tree → Bool
  | .token t => t == text
  | _ => false

/-- The parts of a node. -/
def children : Tree → List Tree
  | .node _ _ children => children
  | _ => []

/-- The nodes among the parts of a node. -/
def nodes (tree : Tree) : List Tree :=
  tree.children.filter isNode

/-- The first part that plays a role. -/
def part? (label : Label) (tree : Tree) : Option Tree :=
  tree.children.find? fun child =>
    match child with
    | .node _ l _ => l == some label
    | _ => false

/-- Gives a node a role. -/
def withLabel (label : Label) : Tree → Tree
  | .node kind _ children => .node kind (some label) children
  | tree => tree

mutual

/-- The text of a part. -/
def text : Tree → String
  | .token t => t
  | .blank t => t
  | .node _ _ children => textOfList children

/-- The text of several parts. -/
def textOfList : List Tree → String
  | [] => ""
  | tree :: rest => tree.text ++ textOfList rest

end

/-- The text of a part that may be missing. -/
def textOf? : Option Tree → String
  | some tree => tree.text
  | none => ""

mutual

/-- The nodes of a tree, each before the nodes within it, together with their parents. -/
def walkUnder (parent : Option Tree) : Tree → List (Tree × Option Tree)
  | .token _ => []
  | .blank _ => []
  | .node kind label children =>
    let here := Tree.node kind label children
    (here, parent) :: walkList (some here) children

/-- The nodes of several trees with one parent. -/
def walkList (parent : Option Tree) : List Tree → List (Tree × Option Tree)
  | [] => []
  | tree :: rest => tree.walkUnder parent ++ walkList parent rest

end

/-- The nodes of a tree with their parents, in the order in which they begin. -/
def walk (tree : Tree) : List (Tree × Option Tree) :=
  tree.walkUnder none

mutual

/-- The nodes of a tree that do not lie within a function below its root, where functions among the
root's own parts are entered. -/
def ownNodesBelow (skip : Bool) : Tree → List Tree
  | .token _ => []
  | .blank _ => []
  | .node kind label children =>
    if skip && kind.isFunction then []
    else .node kind label children :: ownNodesOfList true children

/-- The nodes of several trees, functions among them being passed over. -/
def ownNodesOfList (skip : Bool) : List Tree → List Tree
  | [] => []
  | tree :: rest => tree.ownNodesBelow skip ++ ownNodesOfList skip rest

end

/-- The nodes of a block in order. Functions that stand deeper than its own parts are passed
over. -/
def ownNodes : Tree → List Tree
  | .node kind label children => .node kind label children :: ownNodesOfList false children
  | _ => []

end Tree

end Restack.Script
