import Restack.Script.Markup
import Restack.Script.Parser

/-!
# Summaries of scripts

What a script takes in and gives out, its functions, and its components. A component is a function
with an arrow that is bound to a capitalized name.
-/

namespace Restack.Script

/-- A function that is declared by name. -/
structure Routine where
  name : String
  params : List String
  body : String
  isAsync : Bool
  isExported : Bool
deriving Repr

/-- A component: its properties, the state it keeps with the text of each first value, the hooks it
calls and the markup it returns. -/
structure Component where
  name : String
  props : List String
  state : List (String × String)
  hooks : List String
  markup : Markup
deriving Repr

/-- The summary of a script. -/
structure Summary where
  imports : List String
  importSources : List String
  «exports» : List String
  routines : List Routine
  components : List Component
  /-- The name that the script exports by default. -/
  defaultExport : Option String
deriving Repr

namespace Tree

/-- The names that parameters bind, a pattern being called `param`. -/
def paramNames (params : Tree) : List String :=
  params.nodes.map fun param =>
    let bound := (param.part? .pattern).getD param
    if bound.isKind .identifier then bound.text else "param"

/-- The name that a call calls, if it is a plain name. -/
def callee (call : Tree) : String :=
  match call.part? .function with
  | some f => if f.isKind .identifier then f.text else ""
  | none => ""

/-- The expression within any number of parentheses. -/
def withoutParens : Tree → Tree
  | .node .parenthesizedExpression label children =>
    inner (.node .parenthesizedExpression label children) children
  | tree => tree
where
  /-- The first node among the parts, without its parentheses. -/
  inner (whole : Tree) : List Tree → Tree
    | [] => whole
    | .node kind label children :: _ => withoutParens (.node kind label children)
    | _ :: rest => inner whole rest

end Tree

namespace Routine

/-- The function that a declaration declares. -/
def ofTree? (declaration : Tree) (parent : Option Tree) : Option Routine :=
  (declaration.part? .name).map fun name =>
    { name := name.text
      params := ((declaration.part? .parameters).map Tree.paramNames).getD []
      body := Tree.textOf? (declaration.part? .body)
      isAsync := declaration.children.any (Tree.isToken "async")
      isExported := parent.any (Tree.isKind .exportStatement) }

/-- A function as it is reported. -/
def toValue (routine : Routine) : Value :=
  .object
    [("name", .str routine.name), ("params", .ofStrings routine.params),
      ("body", .str routine.body), ("isAsync", .bool routine.isAsync),
      ("isExported", .bool routine.isExported)]

end Routine

namespace Component

/-- The pattern that a function binds first. -/
def firstPattern? (function : Tree) : Option Tree :=
  match function.part? .parameter with
  | some name => some name
  | none =>
    ((function.part? .parameters).bind (·.nodes.head?)).map fun param =>
      (param.part? .pattern).getD param

/-- The name of a property that a part of an object pattern takes out. -/
def propName? (part : Tree) : Option String :=
  match part.kind? with
  | some .shorthandPropertyIdentifierPattern => some part.text
  | some .pairPattern =>
    match part.part? .key with
    | some key => if key.isKind .propertyIdentifier then some key.text else none
    | none => none
  | some .objectAssignmentPattern => (part.part? .left).map Tree.text
  | _ => none

/-- The names of the properties that a component takes: those that its first pattern takes out, or
the one name that it binds. -/
def propsOf (function : Tree) : List String :=
  match firstPattern? function with
  | none => []
  | some first =>
    match first.kind? with
    | some .identifier => [first.text]
    | some .objectPattern => first.nodes.filterMap propName?
    | _ => []

/-- The text of a first value: that of a literal, and `undefined` for all else. -/
def literalText : Option Tree → String
  | none => "undefined"
  | some value =>
    match value.kind? with
    | some .string => "'" ++ String.ofList (Lexeme.unquoted value.text.toList) ++ "'"
    | some .number => value.text
    | some .trueWord => value.text
    | some .falseWord => value.text
    | _ => "undefined"

/-- The state that a node declares: a call of `useState` that is bound to a pair of names. -/
def stateEntry? (node : Tree) (parent : Option Tree) : Option (String × String) := do
  guard (node.isKind .callExpression && node.callee == "useState")
  let declarator ← parent
  guard (declarator.isKind .variableDeclarator)
  let pattern ← declarator.part? .name
  guard (pattern.isKind .arrayPattern)
  let name ← pattern.nodes[0]?
  let setter ← pattern.nodes[1]?
  guard (name.isKind .identifier && setter.isKind .identifier)
  return (name.text, literalText ((node.part? .arguments).bind (·.nodes.head?)))

/-- The state of a component with the texts of its first values. -/
def stateOf (function : Tree) : List (String × String) :=
  Value.ofEntries (function.walk.filterMap fun (node, parent) => stateEntry? node parent)

/-- Names of hooks begin with `use`. -/
def isHook (name : String) : Bool :=
  Text.hasStart "use" name && 3 < name.length

/-- The hooks that a component calls, in the order in which they are first called. -/
def hooksOf (function : Tree) : List String :=
  function.walk.foldl
    (fun hooks (node, _) =>
      if node.isKind .callExpression && isHook node.callee && !hooks.contains node.callee then
        hooks ++ [node.callee]
      else hooks)
    []

/-- What a component returns: what its first return statement names, or its body if that is an
expression. -/
def returned? (function : Tree) : Option Tree :=
  match function.part? .body with
  | none => none
  | some body =>
    if body.isKind .statementBlock then
      ((body.ownNodes.find? (Tree.isKind .returnStatement)).bind (·.nodes.head?)).map
        Tree.withoutParens
    else some body.withoutParens

/-- Whether a node is an element of markup. -/
def isElement (node : Tree) : Bool :=
  node.kind?.any Kind.isElement

/-- The markup of a component: what it returns if that is an element, otherwise its first
element. -/
def markupOf (function : Tree) : Markup :=
  let element? :=
    match returned? function with
    | some tree => if isElement tree then some tree else firstElement?
    | none => firstElement?
  (element?.bind Markup.ofTree).getD (.fragment [])
where
  /-- The first element within the function. -/
  firstElement? : Option Tree :=
    (function.walk.find? fun entry => isElement entry.1).map (·.1)

/-- The component that a declaration of a name gives, if it gives one. -/
def ofTree? (declarator : Tree) : Option Component := do
  let name ← declarator.part? .name
  guard (name.isKind .identifier)
  let function ← declarator.part? .value
  guard (function.isKind .arrowFunction)
  guard (Text.isUpper (name.text.toList.take 1))
  return {
    name := name.text
    props := propsOf function
    state := stateOf function
    hooks := hooksOf function
    markup := markupOf function }

/-- A component as it is reported. -/
def toValue (component : Component) (isDefault : Bool) : Value :=
  .object
    [("name", .str component.name), ("props", .ofStrings component.props),
      ("state", .object (component.state.map fun entry => (entry.1, .str entry.2))),
      ("hooks", .ofStrings component.hooks), ("jsx", component.markup.toValue),
      ("isDefault", .bool isDefault)]

end Component

namespace Summary

/-- The source of an import. -/
def sourceOf (statement : Tree) : String :=
  match statement.part? .source with
  | some source => String.ofList (Lexeme.unquoted source.text.toList)
  | none => ""

/-- The lines that tell what an import statement takes in. -/
def importLines (statement : Tree) : List String :=
  let source := sourceOf statement
  let line (what : String) : String := "import " ++ what ++ " from '" ++ source ++ "'"
  match statement.nodes.find? (Tree.isKind .importClause) with
  | none => ["import '" ++ source ++ "'"]
  | some clause =>
    clause.nodes.flatMap fun part =>
      match part.kind? with
      | some .identifier => [line part.text]
      | some .namespaceImport => [line part.text]
      | some .namedImports =>
        (part.nodes.filter (Tree.isKind .importSpecifier)).map fun specifier =>
          line ("\x7b " ++ Tree.textOf? (specifier.part? .name) ++ " \x7d")
      | _ => []

/-- The names that a declaration declares. -/
def declaredNames (declaration : Tree) : List String :=
  match declaration.part? .name with
  | some name => [name.text]
  | none =>
    (declaration.nodes.filter (Tree.isKind .variableDeclarator)).map fun declarator =>
      Tree.textOf? (declarator.part? .name)

/-- The names that an export statement gives out. -/
def exportNames (statement : Tree) : List String :=
  let declared :=
    match statement.part? .declaration, statement.part? .value with
    | some declaration, _ => declaredNames declaration
    | none, some value => if value.isKind .identifier then [value.text] else []
    | none, none => []
  let listed :=
    (statement.nodes.filter (Tree.isKind .exportClause)).flatMap fun clause =>
      (clause.nodes.filter (Tree.isKind .exportSpecifier)).map fun specifier =>
        Tree.textOf? ((specifier.part? .alias).or (specifier.part? .name))
  declared ++ listed

/-- What a node of the syntax tree adds to the summary. -/
def addNode (summary : Summary) (node : Tree) (parent : Option Tree) : Summary :=
  match node.kind? with
  | some .importStatement =>
    let source := sourceOf node
    { summary with
      imports := summary.imports ++ importLines node
      importSources :=
        if summary.importSources.contains source then summary.importSources
        else summary.importSources ++ [source] }
  | some .exportStatement =>
    let names := exportNames node
    { summary with
      «exports» := summary.exports ++ names
      defaultExport :=
        if node.children.any (Tree.isToken "default") then names.head?.or summary.defaultExport
        else summary.defaultExport }
  | some .functionDeclaration | some .generatorFunctionDeclaration =>
    { summary with routines := summary.routines ++ (Routine.ofTree? node parent).toList }
  | some .variableDeclarator =>
    { summary with components := summary.components ++ (Component.ofTree? node).toList }
  | _ => summary

/-- The summary of a script's syntax tree. -/
def ofTree (tree : Tree) : Summary :=
  tree.walk.foldl (fun summary (node, parent) => summary.addNode node parent)
    ⟨[], [], [], [], [], none⟩

/-- The summary of a script, whose syntax tree a parser gives. -/
def ofScript (parser : Parser) (dialect : Dialect) (code : String) : Except FaultyTree Summary :=
  (parser dialect code).map ofTree

/-- A summary as it is reported. -/
def toValue (summary : Summary) : Value :=
  .object
    [("type", .str "Program"), ("imports", .ofStrings summary.imports),
      ("importSources", .ofStrings summary.importSources), ("exports", .ofStrings summary.exports),
      ("functions", .list (summary.routines.map Routine.toValue)),
      ("components",
        .list (summary.components.map fun component =>
          component.toValue (some component.name == summary.defaultExport))),
      ("children", .list [])]

end Summary

/-- The report on a file that could not be read. -/
def failure (path reason : String) : Value :=
  .object [("type", .str "Error"), ("name", .str ("Failed to parse " ++ path ++ ": " ++ reason))]

/-- The report on a script in a file: its summary, or where its first fault is. -/
def report (parser : Parser) (path code : String) : Value :=
  match Summary.ofScript parser (Dialect.ofPath path) code with
  | .ok summary => summary.toValue
  | .error faulty => failure path faulty.message

end Restack.Script
