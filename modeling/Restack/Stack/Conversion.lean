import Restack.Outline.Project
import Restack.Stack.Package

/-!
# Moving a project to another stack

The outline of a project is read as the current stack asks for, its components are given the form of
the target, and each line of a converted file is tied to the line with the same number of the file
it comes from.
-/

namespace Restack.Stack

open Restack.Text

/-- The framework of the first layer that names one, in small letters. -/
def frameworkAmong (stack : Value) : List String → Except Fault String
  | [] => .ok "unknown"
  | layer :: rest => do
    match ← stack.getTruthy? layer with
    | none => frameworkAmong stack rest
    | some info =>
      match ← info.getTruthy? "name" with
      | none => frameworkAmong stack rest
      | some name => return lowered (← name.textFor "lower")

/-- The framework that a stack is known by. -/
def primaryFramework (stack : Value) : Except Fault String :=
  frameworkAmong stack ["frontend", "backend", "mobile"]

/-- A line of a converted file and the line that it comes from, both counted from one. -/
structure LineMapping where
  source : String
  sourceLine : Nat
  converted : String
  convertedLine : Nat
deriving DecidableEq, Repr

/-- A line mapping as it is reported. -/
def LineMapping.toValue (mapping : LineMapping) : Value :=
  .object
    [("originalFile", .str mapping.source),
      ("originalLine", .ofNat mapping.sourceLine),
      ("newFile", .str mapping.converted),
      ("newLine", .ofNat mapping.convertedLine),
      ("type", .str "transformed")]

/-- The lines of a converted file that have a line with the same number in the last file with the
path that it comes from. -/
def mappingsOf (sources : List SourceFile) (file : ConvertedFile) : List LineMapping :=
  match sources.reverse.find? (·.path == file.source) with
  | none => []
  | some source =>
    (List.range (min (SourceFile.lineCount source.content) file.lines)).map fun i =>
      ⟨source.path, i + 1, file.path, i + 1⟩

/-- The line mappings of converted files. -/
def lineMappings (sources : List SourceFile) (files : List ConvertedFile) : List LineMapping :=
  files.flatMap (mappingsOf sources)

/-- What keeps a conversion from being a success. -/
inductive Failure where
  /-- Nothing was converted. -/
  | noFiles
  /-- A record could not be used. -/
  | fault (reason : Fault)
deriving DecidableEq, Repr

namespace Failure

/-- The wording of a failure. -/
def message : Failure → String
  | .noFiles => "No files were generated during conversion"
  | .fault reason => "Conversion failed: " ++ reason.message

/-- A failure as it is reported. -/
def toValue (failure : Failure) : Value :=
  .object
    [("file", .str "system"), ("line", .ofNat 0), ("message", .str failure.message),
      ("severity", .str "error"), ("originalCode", .str "")]

end Failure

/-- What is wrong with the files of a conversion. -/
def failuresOf (files : List ConvertedFile) : List Failure :=
  if files.isEmpty then [.noFiles] else []

/-- A remark about a file. -/
structure Warning where
  file : String
  line : Nat
  message : String
deriving DecidableEq, Repr

/-- A remark as it is reported. -/
def Warning.toValue (warning : Warning) : Value :=
  .object
    [("file", .str warning.file), ("line", .ofNat warning.line), ("message", .str warning.message)]

/-- A remark of an outline. -/
def Warning.ofDiagnostic (diagnostic : Outline.Diagnostic) : Warning :=
  ⟨diagnostic.file, diagnostic.line, diagnostic.message⟩

/-- What a conversion amounts to. -/
structure Summary where
  totalFiles : Nat
  convertedFiles : Nat
  skippedFiles : Nat
  generatedFiles : Nat
  totalLines : Nat
  convertedLines : Nat
  generatedLines : Nat
  /-- The time that it took, in milliseconds. -/
  milliseconds : Int
  /-- The stack that it comes from. -/
  source : Value
  /-- The stack that it goes to. -/
  target : Value

namespace Summary

/-- Nothing was done. -/
def empty (source target : Value) : Summary := ⟨0, 0, 0, 0, 0, 0, 0, 0, source, target⟩

/-- The summary of a conversion. -/
def ofFiles (sources : List SourceFile) (files : List ConvertedFile) (milliseconds : Int)
    (source target : Value) : Summary :=
  let generated := files.filter (·.source.isEmpty)
  { totalFiles := sources.length
    convertedFiles := files.length
    skippedFiles := sources.length - files.length
    generatedFiles := generated.length
    totalLines := (sources.map fun file => SourceFile.lineCount file.content).foldr (· + ·) 0
    convertedLines := (files.map (·.lines)).foldr (· + ·) 0
    generatedLines := (generated.map (·.lines)).foldr (· + ·) 0
    milliseconds, source, target }

/-- A summary as it is reported. -/
def toValue (summary : Summary) : Value :=
  .object
    [("totalFiles", .ofNat summary.totalFiles),
      ("convertedFiles", .ofNat summary.convertedFiles),
      ("skippedFiles", .ofNat summary.skippedFiles),
      ("generatedFiles", .ofNat summary.generatedFiles),
      ("totalLines", .ofNat summary.totalLines),
      ("convertedLines", .ofNat summary.convertedLines),
      ("generatedLines", .ofNat summary.generatedLines),
      ("conversionTime", .int summary.milliseconds),
      ("frameworks", .object [("from", summary.source), ("to", summary.target)])]

end Summary

/-- The result of a conversion. -/
structure Result where
  project : Outline.Project
  files : List ConvertedFile
  mappings : List LineMapping
  failures : List Failure
  warnings : List Warning
  summary : Summary

namespace Result

/-- A conversion succeeds when nothing is wrong with it. -/
def success (result : Result) : Bool := result.failures.isEmpty

/-- A result as it is reported. -/
def toValue (result : Result) : Value :=
  .object
    [("success", .bool result.success),
      ("convertedProject", result.project.toValue),
      ("files", .list (result.files.map ConvertedFile.toValue)),
      ("lineMappings", .list (result.mappings.map LineMapping.toValue)),
      ("errors", .list (result.failures.map Failure.toValue)),
      ("warnings", .list (result.warnings.map Warning.toValue)),
      ("summary", result.summary.toValue)]

end Result

/-- The files of a converted project: its components, what its build needs and its package. -/
def convertOutline (project : Outline.Project) (target : Value) :
    Except Fault (List ConvertedFile) := do
  let components ←
    match ← target.getTruthy? "frontend" with
    | some info => convertComponents info (project.components.map Outline.Component.toValue)
    | none => pure []
  let frontend ← Frontend.ofStack target
  return components ++ configFiles frontend ++ (packageFile? frontend).toList

/-- Converts a project from one stack to another, unless a record cannot be used. -/
def convert (source target : Value) (records : List Value) : Except Fault Result := do
  let framework ← primaryFramework source
  let _ ← primaryFramework target
  let sources ← records.mapM (SourceFile.ofValue (.noAttribute · "endswith"))
  let project := Outline.Project.ofFiles sources framework
  let files ← convertOutline project target
  return {
    project, files
    mappings := lineMappings sources files
    failures := failuresOf files
    warnings := project.diagnostics.map Warning.ofDiagnostic
    summary := .ofFiles sources files 0 source target }

/-- Converts a project from one stack to another. A record that cannot be used leaves nothing but
the failure. -/
def convertStack (source target : Value) (records : List Value) : Result :=
  match convert source target records with
  | .ok result => result
  | .error reason => ⟨.empty, [], [], [.fault reason], [], .empty source target⟩

end Restack.Stack
