import Restack.Outline.React
import Restack.Outline.Vue

/-!
# Services and stores by line

A service is a class whose name ends in `Service`. A store is a whole file.
-/

namespace Restack.Outline

open Restack.Text

/-- Words that begin a statement and name no function. -/
def controlWords : List String := ["if", "for", "while", "switch", "catch", "return", "function"]

namespace Service

/-- The declaration of a service, its name being the first group. -/
def classPattern : Pattern :=
  React.declarationStart ++ .text "class" ++ .blanks1 ++
    .group 1 (.capitalized ++ .text "Service") ++ .wordEdge

/-- A method: who may call it is the first group, whether it waits the second, its name the third,
its parameters the fourth and the type of its result the fifth. -/
def methodPattern : Pattern :=
  .blanks1 ++ .maybe (.group 1 (.anyOf ["public", "private", "protected"]) ++ .blanks1) ++
    .maybe (.text "static" ++ .blanks1) ++ .maybe (.group 2 (.text "async" ++ .blanks1)) ++
    .group 3 .word ++ .blanks ++ .sign '(' ++ .group 4 (.run (· != ')')) ++ .sign ')' ++ .blanks ++
    .maybe (.sign ':' ++ .blanks ++ .group 5 (.thriftyRun1 (· != '\x7b')) ++ .blanks) ++
    .sign '\x7b'

/-- Who may call a method that does not say it: names that begin with a low line are private. -/
def visibilityOf (name : String) : String :=
  if hasStart "_" name then "private" else "public"

/-- The method on a line, if there is one. -/
def methodOn? (lines : List String) (offset i : Nat) (line : String) : Option Method := do
  let m ← methodPattern.matchStart? line
  let name := m.group 3
  guard (!controlWords.contains name)
  return {
    name := name
    params := Parameter.ofList (m.group 4).toList
    returnType := trimmed ((m.group? 5).getD "void")
    first := offset + i + 1
    last := offset + blockEnd lines i + 1
    isAsync := (m.group? 2).isSome
    visibility := (m.group? 1).getD (visibilityOf name) }

/-- The methods on lines. -/
def methodsOf (lines : List String) (offset : Nat) : List Method :=
  lines.zipIdx.filterMap fun (line, i) => methodOn? lines offset i line

/-- The service that is declared on a line. -/
def ofLine? (file : String) (lines : List String) (line : String) (i : Nat) : Option Service :=
  (classPattern.matchStart? (trimmed line)).map fun m =>
    let last := blockEnd lines i
    let body := slice lines i (last + 1)
    { name := m.group 1
      file := file
      first := i + 1
      last := last + 1
      methods := methodsOf body i
      dependencies := (importsOf (lines.take i) 0).map (·.source)
      «exports» := exportsOf body i }

/-- The services of a file. -/
def ofLines (file : String) (lines : List String) : List Service :=
  lines.zipIdx.filterMap fun (line, i) => ofLine? file lines line i

end Service

namespace Store

/-- A constant that a function with this name makes. -/
def constantFrom (function : String) : Pattern :=
  .text "const" ++ .blanks1 ++ .group 1 .word ++ .blanks ++ .sign '=' ++ .blanks ++ .text function

/-- A case of a reducer. -/
def casePattern : Pattern :=
  .text "case" ++ .blanks1 ++ .quotes ++
    .group 1 (.run1 fun c => isWordChar c || c == '/' || c == ':' || c == '-') ++ .quotes ++
    .blanks ++ .sign ':'

/-- A function that takes the state. -/
def reducerPattern : Pattern :=
  .blanks1 ++ .group 1 .word ++ .blanks ++ .maybe (.sign ':' ++ .blanks) ++ .sign '(' ++ .blanks ++
    .text "state" ++ .wordEdge

/-- The action on a line: one that waits, one that does not, a case, or a function of the state. -/
def actionOn? (line : String) : Option (String × String) :=
  let found? (pattern : Pattern) (kind : String) : Option (String × String) :=
    (pattern.search? line).map fun m => (m.group 1, kind)
  (found? (constantFrom "createAsyncThunk") "async").or <|
    (found? (constantFrom "createAction") "sync").or <|
      (found? casePattern "sync").or <|
        match (reducerPattern.matchStart? line).map (·.group 1) with
        | some name => if controlWords.contains name then none else some (name, "sync")
        | none => none

/-- The library that a store is made with. -/
def kindOf (text : String) : String :=
  if hasPart "zustand" text then "zustand"
  else if hasPart "mobx" text then "mobx"
  else if hasPart "valtio" text then "valtio"
  else if hasPart "createContext" text then "context"
  else "redux"

/-- The state that the first object of a state with an entry gives. -/
def stateOf (lines : List String) : List StateVariable :=
  (lines.zipIdx.findSome? fun (line, i) =>
    if React.initialState.occursIn line then
      match objectEntries lines i with
      | [] => none
      | entries => some (stateOfEntries entries 0)
    else none).getD []

/-- The store that a file is, if its path says so. -/
def ofLines (file : String) (lines : List String) : List Store :=
  if hasPart "store" file || hasPart "redux" file then
    [{ name := fileStem file
       file := file
       last := lines.length
       kind := kindOf (joined "\n" lines)
       state := stateOf lines
       actions := lines.zipIdx.filterMap fun (line, i) =>
         (actionOn? line).map fun (name, kind) => ⟨name, kind, i + 1⟩ }]
  else []

end Store

end Restack.Outline
