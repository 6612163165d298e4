import Restack.Outline.Element
import Restack.Outline.Imports
import Restack.Text.Case

/-!
# React components by line

A component is declared at the beginning of a line, by a function or a class with a capitalized
name.
-/

namespace Restack.Outline.React

open Restack.Text

/-- The words that may stand before a declaration. -/
def declarationStart : Pattern :=
  .maybe (.text "export" ++ .blanks1) ++ .maybe (.text "default" ++ .blanks1)

/-- The declaration of a function or a constant, its name being the first group. -/
def functionPattern : Pattern :=
  declarationStart ++ .anyOf ["const", "function"] ++ .blanks1 ++ .group 1 .capitalized ++ .wordEdge

/-- The declaration of a class that is a component, its name being the first group. -/
def classPattern : Pattern :=
  declarationStart ++ .text "class" ++ .blanks1 ++ .group 1 .capitalized ++ .blanks1 ++
    .text "extends" ++ .blanks1 ++ .maybe (.text "React.") ++ .maybe (.text "Pure") ++
    .text "Component"

/-- The word `function`. -/
def functionWord : Pattern := .wordEdge ++ .text "function" ++ .wordEdge

/-- Whether a line declares a constant: its name is in capitals, and its value is no function. -/
def isConstant (name line : String) : Bool :=
  2 ≤ name.length && isUpper name.toList && !hasPart "=>" line && !functionWord.occursIn line

/-- How a component is declared. -/
inductive Style where
  | functional | classBased
deriving DecidableEq, Repr

/-- The component that a line declares. -/
def declared? (line : String) : Option (String × Style) :=
  if line.toList.head?.any isBlank then none
  else
    let line := trimmed line
    match (functionPattern.matchStart? line).map (·.group 1) with
    | some name =>
      if isConstant name line then (classOn? line) else some (name, .functional)
    | none => classOn? line
where
  /-- The class component that a line declares. -/
  classOn? (line : String) : Option (String × Style) :=
    (classPattern.matchStart? line).map fun m => (m.group 1, .classBased)

/-- Properties taken apart in parentheses. -/
def takenApart : Pattern :=
  .sign '(' ++ .blanks ++ .sign '\x7b' ++ .group 1 (.run (· != '\x7d')) ++ .sign '\x7d'

/-- Access to one property. -/
def propAccess : Pattern :=
  .wordEdge ++ .maybe (.text "this.") ++ .text "props." ++ .group 1 .word

/-- Adds properties whose names are new. -/
def addNew (found : List Property) (more : List Property) : List Property :=
  more.foldl
    (fun found p => if found.any (·.name == p.name) then found else found ++ [p]) found

/-- The properties of a component: those that its first line takes apart, then those it accesses. -/
def propsOf (body : List String) (offset : Nat) : List Property :=
  let taken :=
    ((body.head?.bind takenApart.search?).map fun m => m.group 1).toList.flatMap fun params =>
      (Parameter.ofList params.toList).filterMap fun p =>
        if p.name.isEmpty then none
        else some (⟨p.name, p.type, p.isRequired, p.standard, offset + 1⟩ : Property)
  let accessed :=
    findOnLines propAccess body offset fun m line =>
      (⟨m.group 1, "any", false, none, line⟩ : Property)
  addNew (addNew [] taken) accessed

/-- A pair of names that `useState` binds, and the text of the first value. -/
def useState : Pattern :=
  .text "const" ++ .blanks1 ++ .sign '[' ++ .blanks ++ .group 1 .word ++ .blanks ++ .sign ',' ++
    .blanks ++ .group 2 .word ++ .blanks ++ .sign ']' ++ .blanks ++ .sign '=' ++ .blanks ++
    .maybe (.text "React.") ++ .text "useState" ++
    .maybe (.sign '<' ++ .run (· != '>') ++ .sign '>') ++ .sign '(' ++
    .group 3 (.run (· != ')')) ++ .sign ')'

/-- An object that state begins with. -/
def initialState : Pattern :=
  .anyOf ["initialState", "state"] ++ .blanks ++ .oneOf ":=" ++ .blanks ++ .sign '\x7b'

/-- The variables that a component keeps. -/
def stateOf (body : List String) (offset : Nat) (style : Style) : List StateVariable :=
  body.zipIdx.flatMap fun (line, i) =>
    match useState.search? line with
    | some m => [.ofText (m.group 1) (m.group 3) (offset + i + 1)]
    | none =>
      if style == .classBased && initialState.occursIn line && !hasPart "setState" line then
        stateOfEntries (objectEntries body i) offset
      else []

/-- A call of a hook. -/
def hookCall : Pattern :=
  .wordEdge ++ .group 1 (.text "use" ++ .capital ++ .run isWordChar) ++ .blanks ++ .sign '('

/-- What a hook depends on: the last list before the end of its call. -/
def hookNeeds : Pattern :=
  .sign '[' ++ .blanks ++ .group 1 (.run (· != ']')) ++ .sign ']' ++ .blanks ++ .sign ')' ++
    .blanks ++ .maybe (.sign ';') ++ .blanks ++ .finish

/-- The hooks that come with the framework. -/
def builtinHooks : List String :=
  ["useState", "useEffect", "useContext", "useReducer", "useCallback", "useMemo", "useRef",
    "useLayoutEffect", "useImperativeHandle", "useDebugValue", "useId", "useTransition",
    "useDeferredValue", "useSyncExternalStore"]

/-- The hooks that say what they depend on. -/
def dependentHooks : List String := ["useEffect", "useCallback", "useMemo", "useLayoutEffect"]

/-- What the hook that is called on a line depends on. -/
def needsOf (body : List String) (i : Nat) (line : String) : List String :=
  let last := if hasPart "\x7b" line then blockEnd body i else i
  ((body[last]?.bind hookNeeds.search?).map fun m => listItems (m.group 1)).getD []

/-- The hooks that a component calls. -/
def hooksOf (body : List String) (offset : Nat) : List Hook :=
  body.zipIdx.flatMap fun (line, i) =>
    (hookCall.findAll line).map fun m =>
      let name := m.group 1
      ⟨name, if builtinHooks.contains name then "builtin" else "custom",
        if dependentHooks.contains name then needsOf body i line else [], offset + i + 1⟩

/-- The declaration of a handler: its name is the first group, and its parameters are the second or
the third. -/
def handlerPattern : Pattern :=
  let arrow : Pattern :=
    .sign '=' ++ .blanks ++ .maybe (.text "async" ++ .blanks) ++ .maybe (.sign '(') ++
      .group 2 (.run (Pattern.noneOf ")=")) ++ .maybe (.sign ')') ++ .blanks ++ .text "=>"
  .anyOf ["const", "let", "function"] ++ .blanks1 ++
    .group 1 (.anyOf ["handle", "on"] ++ .capital ++ .run isWordChar) ++ .blanks ++
    (arrow <|> (.sign '(' ++ .group 3 (.run (· != ')')) ++ .sign ')'))

/-- An attribute that handles an event. -/
def eventSetting : Pattern :=
  .wordEdge ++ .text "on" ++ .group 1 (.capital ++ .run isWordChar) ++ .text "=\x7b" ++
    .group 2 (.run (· != '\x7d')) ++ .sign '\x7d'

/-- The handlers on a line. -/
def eventsOn (line : String) (number : Nat) : List EventHandler :=
  let declared :=
    (handlerPattern.search? line).toList.map fun m =>
      let params := (m.group? 2).getD (m.group 3)
      (⟨m.group 1, "handler", (Parameter.ofList params.toList).map (·.name), number, none⟩ :
        EventHandler)
  let attached :=
    (eventSetting.findAll line).map fun m =>
      (⟨trimmed (m.group 2), lowered (m.group 1), [], number, some ("on" ++ m.group 1)⟩ :
        EventHandler)
  declared ++ attached

/-- The handlers of a component. -/
def eventsOf (body : List String) (offset : Nat) : List EventHandler :=
  body.zipIdx.flatMap fun (line, i) => eventsOn line (offset + i + 1)

/-- The name under which a member of a module is known. -/
def knownAs (name : String) : String :=
  trimmed (lastPiece (name.length + 1) name.toList)
where
  /-- What stands after the last ` as `. -/
  lastPiece : Nat → List Char → String
    | 0, s => String.ofList s
    | fuel + 1, s =>
      match cutAt [' ', 'a', 's', ' '] s with
      | some (_, rest) => lastPiece fuel rest
      | none => String.ofList s

/-- Whether a text holds a name as a word of its own. -/
def mentions (text name : String) : Bool :=
  !name.isEmpty && (Pattern.wordEdge ++ .text name ++ .wordEdge).occursIn text

/-- The modules from which a component uses a name. -/
def dependenciesOf (body : List String) (imports : List Import) : List String :=
  let text := joined "\n" body
  let used := imports.filter fun i => i.names.any fun n => mentions text (knownAs n)
  (used.map (·.source)).eraseDups

/-- The word for a component without state, or for how it is declared. -/
def kindOf (style : Style) (state : List StateVariable) : String :=
  match style with
  | .classBased => "class"
  | .functional => if state.isEmpty then "stateless" else "functional"

/-- The component that is declared on a line. -/
def component (file : String) (lines : List String) (start : Nat) (name : String) (style : Style) :
    Component :=
  let last := (componentEnd? lines start).getD start
  let body := slice lines start (last + 1)
  let imports := importsOf (lines.take start) 0
  let state := stateOf body start style
  { name := name
    file := file
    first := start + 1
    last := last + 1
    kind := kindOf style state
    props := propsOf body start
    state := state
    hooks := hooksOf body start
    imports := imports
    «exports» := exportsOf (lines.drop (last + 1)) (last + 1)
    events := eventsOf body start
    children := childrenOf body start name
    styling := stylingOf body start
    dependencies := dependenciesOf body imports }

/-- The components of a file. -/
def components (file : String) (lines : List String) : List Component :=
  lines.zipIdx.filterMap fun (line, i) =>
    (declared? line).map fun (name, style) => component file lines i name style

end Restack.Outline.React
