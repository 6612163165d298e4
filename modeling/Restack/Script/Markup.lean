import Restack.Script.Lexeme
import Restack.Script.Tree
import Restack.Value.Basic

/-!
# Markup of a script

The shape of markup without its computed parts: elements with their attributes, texts, and
fragments. Of a computed part only the kind of its expression is kept.
-/

namespace Restack.Script

/-- What an attribute of an element is set to. -/
inductive Setting where
  /-- The attribute stands without a value. -/
  | present
  /-- A text. -/
  | text (s : String)
  /-- The value of an expression of this kind. -/
  | computed (kind : String)
deriving DecidableEq, Repr

/-- The shape of markup. -/
inductive Markup where
  /-- Parts without an element around them. -/
  | fragment (children : List Markup)
  /-- An element. -/
  | element (name : String) (settings : List (String × Setting)) (children : List Markup)
  /-- A text. -/
  | text (content : String)
  /-- A computed part: the kind of its expression. -/
  | expression (kind : String)
deriving Inhabited, Repr

namespace Setting

/-- A setting as it is reported: the kind of an expression stands in braces. -/
def toValue : Setting → Value
  | .present => .bool true
  | .text s => .str s
  | .computed kind => .str ("\x7b" ++ kind ++ "\x7d")

/-- The setting that the value of an attribute gives. -/
def ofTree : Option Tree → Setting
  | none => .present
  | some value =>
    match value.kind? with
    | some .string => .text (String.ofList (Lexeme.unquoted value.text.toList))
    | some .jsxExpression =>
      .computed (((value.nodes.head?.bind Tree.kind?).map Kind.title).getD "Expression")
    | kind => .computed ((kind.map Kind.title).getD "Expression")

end Setting

namespace Markup

/-- The attributes of a tag. One that is given twice keeps its first place and its last value. -/
def settingsOf (tag : Tree) : List (String × Setting) :=
  Value.ofEntries <| tag.nodes.filterMap fun part =>
    if part.isKind .jsxAttribute then
      part.nodes.head?.map fun name => (name.text, Setting.ofTree part.nodes[1]?)
    else none

/-- The name and the attributes in a tag, if it has a name. -/
def tagOf (tag : Tree) : Option (String × List (String × Setting)) :=
  (tag.part? .name).map fun name => (name.text, settingsOf tag)

/-- The kind of the first expression in braces. Comments do not count. -/
def expressionKind (braces : Tree) : String :=
  match braces.nodes.find? (fun part => !part.isKind .comment) with
  | some part => (part.kind?.map Kind.title).getD "Empty"
  | none => "Empty"

mutual

/-- The shape of a part of markup: none for parts that are left out. -/
def ofTree : Tree → Option Markup
  | .token _ => none
  | .blank _ => none
  | .node kind label children =>
    let tree := Tree.node kind label children
    match kind with
    | .jsxElement =>
      match (tree.part? .openTag).bind tagOf with
      | some (name, settings) => some (.element name settings (ofTrees children))
      | none => some (.fragment (ofTrees children))
    | .jsxSelfClosingElement =>
      match tagOf tree with
      | some (name, settings) => some (.element name settings [])
      | none => some (.element "" (settingsOf tree) [])
    | .jsxText =>
      let content := Text.trimmed tree.text
      if content.isEmpty then none else some (.text content)
    | .jsxExpression => some (.expression (expressionKind tree))
    | _ => none

/-- The shapes of several parts. -/
def ofTrees : List Tree → List Markup
  | [] => []
  | tree :: rest => (ofTree tree).toList ++ ofTrees rest

end

mutual

/-- Markup as it is reported. -/
def toValue : Markup → Value
  | .fragment children =>
    .object [("type", .str "Fragment"), ("children", .list (toValues children))]
  | .element name settings children =>
    .object
      [("type", .str "Element"), ("name", .str name),
        ("props", .object (settings.map fun entry => (entry.1, entry.2.toValue))),
        ("children", .list (toValues children))]
  | .text content => .object [("type", .str "Text"), ("name", .str content)]
  | .expression kind => .object [("type", .str "Expression"), ("name", .str kind)]

/-- Several parts as they are reported. -/
def toValues : List Markup → List Value
  | [] => []
  | part :: rest => part.toValue :: toValues rest

end

end Markup

end Restack.Script
