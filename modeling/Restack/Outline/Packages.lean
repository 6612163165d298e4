import Restack.Document.Reader
import Restack.Outline.Definition
import Restack.Value.Access

/-!
# Packages that a project depends on

The packages that a description of a project lists. A description that cannot be read lists none,
and a remark says why.
-/

namespace Restack.Outline

/-- The entries of one list of a description. The list may be missing or false. -/
def Dependency.entriesOf (list : String) (fields : List (Document.Str × Document)) :
    Except Fault (List (Document.Str × Document)) :=
  match fields.lookup (.ofString list) with
  | none => .ok []
  | some (.object entries) => .ok entries
  | some found => if found.truthy then .error (.noAttribute found.kind "items") else .ok []

/-- The packages in one list of a description. -/
def Dependency.listed (fields : List (Document.Str × Document)) (list kind : String)
    (isRequired : Bool) : Except Fault (List Dependency) := do
  let entries ← entriesOf list fields
  return entries.map fun entry => ⟨entry.1, entry.2.display, kind, isRequired⟩

/-- The packages in a description: those that are needed to run, then those needed to develop. -/
def Dependency.ofDescription (fields : List (Document.Str × Document)) :
    Except Fault (List Dependency) := do
  let needed ← listed fields "dependencies" "dependency" true
  let forDevelopment ← listed fields "devDependencies" "devDependency" false
  return needed ++ forDevelopment

/-- The remark that a fault stopped work on a file. -/
def Diagnostic.ofFault (file : String) (fault : Fault) : Diagnostic :=
  ⟨file, 0, fault.family.name ++ ": " ++ fault.message, "warning"⟩

/-- The packages that the content of a file lists, and remarks about it. -/
def Dependency.ofContent (file content : String) : List Dependency × List Diagnostic :=
  match Document.read content with
  | .error ⟨.tooManyDigits count, _⟩ => ([], [.ofFault file (.tooManyDigits count)])
  | .error flaw =>
    ([], [⟨file, flaw.line, "Invalid package.json: " ++ flaw.cause.message, "warning"⟩])
  | .ok (.object fields) =>
    match ofDescription fields with
    | .ok found => (found, [])
    | .error fault => ([], [.ofFault file fault])
  | .ok _ => ([], [])

end Restack.Outline
