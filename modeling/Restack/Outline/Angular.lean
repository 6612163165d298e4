import Restack.Outline.Element
import Restack.Outline.Imports

/-!
# Angular components by line

A component is a class with a decorator in front of it.
-/

namespace Restack.Outline.Angular

open Restack.Text

/-- The declaration of a class. -/
def classPattern : Pattern :=
  .text "class" ++ .blanks1 ++ .group 1 .capitalized

/-- The type after a colon, if there is one, as group `n`. -/
def typeAfterColon (n : Nat) : Pattern :=
  .maybe (.sign ':' ++ .blanks ++ .group n (.thriftyRun1 (Pattern.noneOf "=;")))

/-- An input: its name is the first group, its type the second and its first value the third. -/
def inputPattern : Pattern :=
  .text "@Input(" ++ .run (· != ')') ++ .sign ')' ++ .blanks ++ .group 1 .word ++ .blanks ++
    .maybe (.oneOf "!?") ++ .blanks ++ typeAfterColon 2 ++ .blanks ++
    .maybe (.sign '=' ++ .blanks ++ .group 3 (.run1 (· != ';'))) ++ .sign ';'

/-- Whether a question mark stands right after the first place where a name occurs on a line. -/
def isOptionalOn (line name : String) : Bool :=
  match cutAt name.toList line.toList with
  | some (_, rest) => rest.head? == some '?'
  | none => false

/-- The inputs of a class. -/
def inputsOf (lines : List String) (offset : Nat) : List Property :=
  lines.zipIdx.filterMap fun (line, i) =>
    (inputPattern.search? line).map fun m =>
      let name := m.group 1
      let type := m.group 2
      { name := name
        type := trimmed (if type.isEmpty then "any" else type)
        isRequired := (m.group? 3).isNone && !isOptionalOn line name
        standard := (m.group? 3).map fun raw => readLiteral raw.toList
        line := offset + i + 1 }

/-- A field with a first value: its name is the first group, its type the second and the value the
third. -/
def fieldPattern : Pattern :=
  .blanks1 ++ .many (.anyOf ["public", "private", "protected", "readonly"] ++ .blanks1) ++
    .group 1 .word ++ .blanks ++ .maybe (.oneOf "!?") ++ .blanks ++ typeAfterColon 2 ++ .blanks ++
    .sign '=' ++ .blanks ++ .group 3 (.run1 (· != ';')) ++ .sign ';'

/-- The field on a line of a class. -/
def fieldOn? (line : String) (number : Nat) : Option StateVariable :=
  if hasPart "@Input" line || hasPart "@Output" line then none
  else
    (fieldPattern.matchStart? line).map fun m =>
      let raw := m.group 3
      let type := m.group 2
      ⟨m.group 1, trimmed (if type.isEmpty then literalType raw.toList else type),
        readLiteral raw.toList, number⟩

/-- The fields that stand at the first level of a class. -/
def fieldsBelow (depth : Int) : List (String × Nat) → List StateVariable
  | [] => []
  | (line, number) :: rest =>
    (if depth == 1 then (fieldOn? line number).toList else []) ++
      fieldsBelow (depth + braceBalance line.toList) rest

/-- A function that the framework calls. -/
def lifecycle : Pattern :=
  .wordEdge ++
    .group 1
      (.anyOf ["ngOnInit", "ngOnDestroy", "ngOnChanges", "ngDoCheck", "ngAfterContentInit",
        "ngAfterContentChecked", "ngAfterViewInit", "ngAfterViewChecked"]) ++
    .blanks ++ .sign '('

/-- An output. -/
def outputPattern : Pattern :=
  .text "@Output(" ++ .run (· != ')') ++ .sign ')' ++ .blanks ++ .group 1 .word

/-- The constructor, its parameters being the first group. -/
def constructorPattern : Pattern :=
  .text "constructor" ++ .blanks ++ .sign '(' ++ .group 1 (.run (· != ')')) ++ .sign ')'

/-- The types of what a class is constructed from. -/
def dependenciesOf (lines : List String) : List String :=
  match constructorPattern.search? (joined "\n" lines) with
  | none => []
  | some m =>
    let params := Parameter.ofList (replaced "\n" " " (m.group 1)).toList
    (params.map (·.type)).filter (· != "any")

/-- The line on which a decorator ends: the first that closes a parenthesis and opens none. -/
def decoratorEnd (lines : List String) (start : Nat) : Nat :=
  (firstLine? (fun line => hasPart ")" line && !hasPart "(" line) lines start).getD start

/-- The component whose decorator begins on a line. -/
def component? (file : String) (lines : List String) (i : Nat) : Option Component := do
  let decorated := decoratorEnd lines i
  let start ← firstLine? (hasPart "class") lines decorated
  let line ← lines[start]?
  let name := (← classPattern.search? line).group 1
  let last := blockEnd lines start
  let body := slice lines start last
  return {
    name := name
    file := file
    first := i + 1
    last := last + 1
    kind := "class"
    props := inputsOf body start
    state := fieldsBelow 0 (body.zipIdx (start + 1))
    hooks := findOnLines lifecycle body start fun m line => ⟨m.group 1, "lifecycle", [], line⟩
    imports := importsOf (lines.take i) 0
    «exports» := []
    events :=
      findOnLines outputPattern body start fun m line => ⟨m.group 1, "output", [], line, none⟩
    children := []
    styling := stylingOf (slice lines i (decorated + 1)) i
    dependencies := dependenciesOf body }

/-- The components of a file. -/
def components (file : String) (lines : List String) : List Component :=
  lines.zipIdx.filterMap fun (line, i) =>
    if hasPart "@Component" line then component? file lines i else none

end Restack.Outline.Angular
