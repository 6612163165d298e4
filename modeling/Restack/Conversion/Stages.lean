import Restack.Ir.Lowering
import Restack.Script.Summary
import Restack.Style.Sheet
import Restack.Target.Platform

/-!
# Stages of a conversion

Each source file is reported on, the reports are lowered to nodes, and each node is written for the
target. A file or a node that cannot be used is left out with a remark, and the others go on.
-/

namespace Restack.Conversion

open Restack.Text

/-- The endings of scripts. -/
def scriptEndings : List String := [".js", ".jsx", ".ts", ".tsx"]

/-- The endings of style sheets. -/
def sheetEndings : List String := [".css", ".scss"]

/-- A source file and the report on it. -/
structure Parsed where
  file : Value
  report : Value

/-- The report on a file with such a path, unless it is neither a script nor a style sheet. -/
def reportOn (parser : Script.Parser) (path : String) (file : Value) :
    Except Fault (Option Value) := do
  if scriptEndings.any (hasEnd · path) then
    match ← file.field "content" with
    | .str code => return some (Script.report parser path code)
    | value => return some (Script.failure path (Fault.noAttribute value.kind "encode").message)
  else if sheetEndings.any (hasEnd · path) then
    match ← file.field "content" with
    | .str code => return some (Style.Sheet.report path code)
    | value => .error (.notText value.kind)
  else return none

/-- The remark that a file could not be used. -/
def remark (path : Value) (reason : String) : String :=
  "Could not process file " ++ path.display ++ ": " ++ reason

/-- What came of a stage: what it passes on, and remarks. -/
structure Outcome (α : Type) where
  passed : List α
  remarks : List String

namespace Outcome

variable {α β : Type}

/-- Nothing yet. -/
def empty : Outcome α := ⟨[], []⟩

/-- One thing after the other. -/
def append (a b : Outcome α) : Outcome α := ⟨a.passed ++ b.passed, a.remarks ++ b.remarks⟩

/-- What comes of each item in turn. -/
def gather (step : β → Except Fault (Outcome α)) : List β → Except Fault (Outcome α)
  | [] => .ok empty
  | item :: rest => do
    let first ← step item
    return first.append (← gather step rest)

end Outcome

/-- Reports on one source file. -/
def parseSource (parser : Script.Parser) (file : Value) : Except Fault (Outcome Parsed) := do
  let path ← file.field "path"
  match ← reportOn parser (← path.textFor "endswith") file with
  | none => return .empty
  | some report =>
    if (← report.get "type") == .str "Error" then
      let reason := ((← report.get? "name").getD (.str "parse error")).display
      return ⟨[], [remark path reason]⟩
    else return ⟨[⟨file, report⟩], []⟩

/-- Reports on source files. -/
def parseSources (parser : Script.Parser) (files : List Value) : Except Fault (Outcome Parsed) :=
  Outcome.gather (parseSource parser) files

/-- Lowers the report on one file. -/
def lowerReport (framework : String) (parsed : Parsed) : Except Fault (Outcome Ir.Node) := do
  let path ← parsed.file.field "path"
  match Ir.Lowering.nodes parsed.report path.display framework with
  | .ok nodes => return ⟨nodes, []⟩
  | .error fault => return ⟨[], [remark path fault.message]⟩

/-- Lowers the reports on files. -/
def lowerReports (framework : String) (parsed : List Parsed) : Except Fault (Outcome Ir.Node) :=
  Outcome.gather (lowerReport framework) parsed

/-- Writes one node, and its test if tests are wanted and it is a component. -/
def emitNode (platform : Target.Platform) (options node : Value) :
    Except Fault (Outcome Target.File) := do
  match platform.emit node options with
  | .error fault => failed [] fault
  | .ok file =>
    match wantedTest with
    | .error fault => failed [file] fault
    | .ok tests => return ⟨file :: tests, []⟩
where
  /-- The test of the node, if it is wanted. -/
  wantedTest : Except Fault (List Target.File) := do
    if (← options.get "generateTests").truthy && (← Target.isComponent node) then
      return [← platform.test node]
    else return []
  /-- What came of the node when a fault ended the work on it. -/
  failed (files : List Target.File) (fault : Fault) : Except Fault (Outcome Target.File) := do
    let name ← node.get "name"
    return ⟨files, ["Failed to convert " ++ name.display ++ ": " ++ fault.message]⟩

/-- Writes nodes for a target: nothing where the target is not known. -/
def emitNodes (target : String) (options : Value) (nodes : List Value) :
    Except Fault (Outcome Target.File) :=
  match Target.Platform.ofName? target with
  | some platform => Outcome.gather (emitNode platform options) nodes
  | none => .ok .empty

/-- Writes one node: nothing where the target is not known. -/
def convertNode (target : String) (options node : Value) : Except Fault (Option Target.File) :=
  match Target.Platform.ofName? target with
  | some platform => (platform.emit node options).map some
  | none => .ok none

/-- The files of a project beside those of its nodes. -/
def projectFiles (source target : String) (options : Value) (parsed nodes : Nat)
    (moment : Time.Moment) : Except Fault (List Target.File) := do
  let files ← Target.configFiles target options
  return files ++ [⟨"README.md", Target.readme source target parsed nodes moment, "markdown"⟩]

/-- The result of a conversion. -/
structure Result where
  success : Bool
  files : List Target.File
  errors : List String
  warnings : List String

namespace Result

/-- A result as it is reported. -/
def toValue (result : Result) : Value :=
  .object
    [("success", .bool result.success), ("files", .list (result.files.map Target.File.toValue)),
      ("errors", .ofStrings result.errors), ("warnings", .ofStrings result.warnings)]

end Result

/-- Converts a project, stage by stage. -/
def convert (parser : Script.Parser) (files : List Value) (source target : String) (options : Value)
    (moment : Time.Moment) : Except Fault Result := do
  let parsed ← parseSources parser files
  let lowered ← lowerReports source parsed.passed
  let emitted ← emitNodes target options (lowered.passed.map Ir.Node.toValue)
  let more ←
    projectFiles source target options parsed.passed.length lowered.passed.length moment
  let all := emitted.passed ++ more
  return ⟨!all.isEmpty, all, emitted.remarks, parsed.remarks ++ lowered.remarks⟩

/-- Converts a project; a fault that is not confined to one file or node becomes the only error. -/
def transpile (parser : Script.Parser) (files : List Value) (source target : String)
    (options : Value) (moment : Time.Moment) : Result :=
  match convert parser files source target options moment with
  | .ok result => result
  | .error fault => ⟨false, [], ["Transpilation failed: " ++ fault.message], []⟩

end Restack.Conversion
