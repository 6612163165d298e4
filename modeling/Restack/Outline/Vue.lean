import Restack.Outline.Element
import Restack.Outline.Imports
import Restack.Text.Case

/-!
# Vue components by line

A file with a script holds one component, which is named in the script or after the file.
-/

namespace Restack.Outline

open Restack.Text

/-- The last part of a path up to its first dot. -/
def fileStem (path : String) : String :=
  let name := ((splitOnChar '/' path.toList).getLast?).getD []
  let stem := name.takeWhile (· != '.')
  if stem.isEmpty then "unknown" else String.ofList stem

/-- The longest runs of ASCII letters and digits. -/
def asciiWords (s : List Char) : List (List Char) :=
  (splitOnChar ' ' (s.map fun c => if isAsciiLetter c || isAsciiDigit c then c else ' ')).filter
    (!·.isEmpty)

/-- A name with each of its words capitalized and nothing between them. -/
def pascalCase (name : List Char) : List Char :=
  let parts := (asciiWords name).flatMap capitalize
  if parts.isEmpty then "Component".toList else parts

/-- A string in capitalized words. -/
def pascalCased (name : String) : String :=
  String.ofList (pascalCase name.toList)

namespace Vue

/-- The name that a script gives. -/
def namePattern : Pattern :=
  .wordEdge ++ .text "name" ++ .blanks ++ .sign ':' ++ .blanks ++ .quotes ++
    .group 1 (.run1 fun c => isWordChar c || c == '-') ++ .quotes

/-- A list of properties. -/
def propsList : Pattern :=
  .wordEdge ++ .text "props" ++ .blanks ++ .sign ':' ++ .blanks ++ .sign '[' ++
    .group 1 (.run (· != ']')) ++ .sign ']'

/-- The beginning of an object of properties. -/
def propsObject : Pattern :=
  (.wordEdge ++ .text "props" ++ .blanks ++ .sign ':' ++ .blanks ++ .sign '\x7b') <|>
    (.text "defineProps" ++ .maybe (.sign '<' ++ .run (· != '>') ++ .sign '>') ++ .sign '(' ++
      .blanks ++ .sign '\x7b')

/-- The type of a property. -/
def propType : Pattern :=
  .text "type" ++ .blanks ++ .sign ':' ++ .blanks ++ .group 1 .word

/-- The items of a list without the quotes around them. -/
def quotedItems (s : String) : List String :=
  ((splitOnChar ',' s.toList).map fun item =>
    String.ofList (stripBoth (fun c => c == '\x27' || c == '"') (trim item))).filter (!·.isEmpty)

/-- The name of a property's type by how it is described. -/
def typeIn (raw : String) : String :=
  match (propType.search? raw).or ((Pattern.group 1 .word).matchStart? raw) with
  | some m => lowered (m.group 1)
  | none => "any"

/-- The properties that a script declares. -/
def propsOf (lines : List String) (offset : Nat) : List Property :=
  lines.zipIdx.flatMap fun (line, i) =>
    match propsList.search? line with
    | some m =>
      (quotedItems (m.group 1)).map fun name => ⟨name, "any", false, none, offset + i + 1⟩
    | none =>
      if propsObject.occursIn line then
        (objectEntries lines i).map fun entry =>
          ⟨entry.key, typeIn entry.raw, hasPart "required: true" entry.raw, none,
            offset + entry.line + 1⟩
      else []

/-- The beginning of the function that gives the data. -/
def dataPattern : Pattern :=
  .wordEdge ++ .text "data" ++ .blanks ++ .sign '(' ++ .blanks ++ .sign ')' ++ .blanks ++
    .sign '\x7b'

/-- The beginning of an object that is returned. -/
def returnPattern : Pattern :=
  .text "return" ++ .blanks ++ .sign '\x7b'

/-- A reactive variable. -/
def refPattern : Pattern :=
  .text "const" ++ .blanks1 ++ .group 1 .word ++ .blanks ++ .sign '=' ++ .blanks ++
    .anyOf ["ref", "reactive"] ++ .sign '(' ++ .group 2 (.run (· != ')')) ++ .sign ')'

/-- The variables that a script keeps. -/
def stateOf (lines : List String) (offset : Nat) : List StateVariable :=
  lines.zipIdx.flatMap fun (line, i) =>
    let data :=
      if dataPattern.occursIn line then
        match firstLine? returnPattern.occursIn lines i with
        | some first => stateOfEntries (objectEntries lines first) offset
        | none => []
      else []
    data ++
      (refPattern.search? line).toList.map fun m => .ofText (m.group 1) (m.group 2) (offset + i + 1)

/-- A function that the framework calls. -/
def lifecycle : Pattern :=
  .wordEdge ++
    .group 1
      (.anyOf ["beforeCreate", "created", "beforeMount", "mounted", "beforeUpdate", "updated",
        "beforeUnmount", "unmounted", "onBeforeMount", "onMounted", "onBeforeUpdate", "onUpdated",
        "onBeforeUnmount", "onUnmounted"]) ++
    .blanks ++ .sign '('

/-- The functions that the framework calls. -/
def hooksOf (lines : List String) (offset : Nat) : List Hook :=
  findOnLines lifecycle lines offset fun m line => ⟨m.group 1, "lifecycle", [], line⟩

/-- An event that is sent. -/
def emitPattern : Pattern :=
  .maybe (.sign '$') ++ .text "emit(" ++ .blanks ++ .quotes ++
    .group 1 (.run1 fun c => isWordChar c || c == ':' || c == '-') ++ .quotes

/-- A list of events that can be sent. -/
def emitsList : Pattern :=
  .text "defineEmits(" ++ .blanks ++ .sign '[' ++ .group 1 (.run (· != ']')) ++ .sign ']'

/-- The events that a script sends. -/
def eventsOf (lines : List String) (offset : Nat) : List EventHandler :=
  lines.zipIdx.flatMap fun (line, i) =>
    let sent (name : String) : EventHandler := ⟨name, "emit", [], offset + i + 1, none⟩
    (emitPattern.findAll line).map (fun m => sent (m.group 1)) ++
      ((emitsList.search? line).toList.flatMap fun m => (quotedItems (m.group 1)).map sent)

/-- An attribute that handles an event. -/
def templateEvent : Pattern :=
  (.sign '@' <|> .text "v-on:") ++
    .group 1 (.run1 fun c => isWordChar c || c == '.' || c == '-') ++ .text "=\"" ++
    .group 2 (.run (· != '"')) ++ .sign '"'

/-- The events that a template handles. -/
def templateEventsOf (lines : List String) (offset : Nat) : List EventHandler :=
  findOnLines templateEvent lines offset fun m line =>
    ⟨m.group 2, m.group 1, [], line, some (m.group 1)⟩

/-- The tag of a component: its name is capitalized or has a dash in it. -/
def templateChild : Pattern :=
  let small (c : Char) : Bool := 'a' ≤ c && c ≤ 'z'
  let dashed : Pattern :=
    let part : Pattern := .sign '-' ++ .run1 fun c => small c || isAsciiDigit c
    .run1 small ++ part ++ .many part
  .sign '<' ++ .group 1 (.capitalized <|> dashed) ++
    .maybe (.group 2 (.one isBlank ++ .run (· != '>'))) ++ .maybe (.sign '/') ++ .sign '>'

/-- The components that a template uses. -/
def templateChildrenOf (lines : List String) (offset : Nat) : List Child :=
  findOnLines templateChild lines offset fun m line => ⟨m.group 1, settingsIn (m.group 2), line⟩

/-- The component of a file, if it has a script. -/
def component? (file : String) (lines : List String) : Option Component := do
  let (first, last) ← sectionBounds? lines "<script" "</script>"
  let script := slice lines first last
  let (templateFirst, templateLast) :=
    (sectionBounds? lines "<template" "</template>").getD (0, 0)
  let template := slice lines templateFirst templateLast
  let name :=
    match script.findSome? namePattern.search? with
    | some m => pascalCased (m.group 1)
    | none => pascalCased (fileStem file)
  return {
    name := name
    file := file
    first := first + 1
    last := last + 1
    kind := "functional"
    props := propsOf script first
    state := stateOf script first
    hooks := hooksOf script first
    imports := importsOf script first
    «exports» := []
    events := eventsOf script first ++ templateEventsOf template templateFirst
    children := templateChildrenOf template templateFirst
    styling := stylingOf lines 0
    dependencies := [] }

end Vue

end Restack.Outline
