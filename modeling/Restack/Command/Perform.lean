import Restack.Command.Dialogue
import Restack.Command.Request
import Restack.Command.StackSpec
import Restack.Jobs.Runner
import Restack.Stack.Conversion
import Restack.Workspace.Loading

/-!
# What the commands do

Each request as a dialogue: the project is taken in, and what comes of it is said or written.
-/

namespace Restack.Command

open Restack.Text Restack.Workspace Restack.Intake

/-- What commands are carried out with. -/
structure Circumstances where
  environment : Environment
  /-- What gives scripts their syntax trees. -/
  parser : Script.Parser
  /-- The moment that conversions are dated with. -/
  moment : Time.Moment

/-- The settings under some circumstances. -/
def Circumstances.settings (circumstances : Circumstances) : Except Settings.Flaw Settings :=
  Settings.ofEnvironment circumstances.environment

/-- What jobs are run with under some circumstances. -/
def Circumstances.service (circumstances : Circumstances) : Jobs.Service :=
  .standard circumstances.parser circumstances.moment

namespace Dialogue

/-- Says what something is made of, in full. -/
def tellData (value : Value) : Dialogue Unit := tell (Value.write .readable value)

/-- Takes in the project at a path, and gives the place where it is too. -/
def load (circumstances : Circumstances) (path : String) :
    Dialogue (List String × List ProjectFile) :=
  .look path fun source =>
    match filesOf circumstances.settings source with
    | .error refusal => fail refusal.message
    | .ok [] => fail ("No readable files under " ++ path)
    | .ok files => .result (source.place, files)

/-- Writes an archive, if need be after asking whether a file may be overwritten. -/
def saveArchive (path : String) (overwrite : Bool) (entries : List Archive.Entry) :
    Dialogue Unit :=
  let shown := (Location.ofText path).text
  let data := Archive.write entries
  let write : Dialogue Unit :=
    .save path data fun saved =>
      if saved then tell ("  ✓ Wrote " ++ shown ++ " (" ++ toString data.size ++ " bytes)")
      else .stop 1
  if overwrite then write
  else
    .isThere path fun there =>
      if there then
        .confirm (shown ++ " already exists. Overwrite?") fun answer =>
          if answer then write else tell "  ✗ Aborted."
      else write

/-- Writes records to an archive. -/
def saveRecords (path : String) (overwrite : Bool) (records : List Value) : Dialogue Unit :=
  let fields := records.filterMap fun record => record.entries.toOption
  match pack fields with
  | .ok entries => saveArchive path overwrite entries
  | .error _ => .stop 1

end Dialogue

open Dialogue

/-- A text that is there and not empty. -/
def filled (text? : Option String) : Option String := text?.filter (!·.isEmpty)

/-- The name of a project by its place: without what follows the last dot. -/
def projectName (place : List String) : String := stemOf (nameOf place)

/-- The files of a project as records. -/
def recordsOf (files : List ProjectFile) : List Value := files.map ProjectFile.toValue

/-- Says what the files of a project are made of. -/
def describe (report : Analysis.Report) : Dialogue Unit := do
  tell <| "[stackshift] " ++ toString report.totalFiles ++ " files, " ++
    toString report.totalLines ++ " lines"
  report.languages.forM fun share =>
    tell <| "  - " ++ share.title ++ ": " ++ (Value.float share.percentage).display ++ "% (" ++
      toString share.files ++ " files, " ++ share.purpose ++ ")"
  let names := joined ", " report.frameworks
  tell ("[stackshift] Frameworks: " ++ (if names.isEmpty then "none detected" else names))

/-- Finds out what a project is made of. -/
def analyze (circumstances : Circumstances) (path : String) (asData : Bool) : Dialogue Unit := do
  let (_, files) ← load circumstances path
  match Analysis.analyze .standard (recordsOf files) with
  | .error _ => .stop 1
  | .ok report => if asData then tellData report.toValue else describe report

/-- A text with blanks in front up to a width. -/
def rightAligned (width : Nat) (text : String) : String :=
  String.ofList (List.replicate (width - text.length) ' ') ++ text

/-- A text with blanks behind it up to a width. -/
def leftAligned (width : Nat) (text : String) : String :=
  text ++ String.ofList (List.replicate (width - text.length) ' ')

/-- How an event of a job is said. -/
def eventLine (event : Jobs.Event) : String :=
  "  [" ++ rightAligned 3 event.progress.display ++ "%] " ++ event.stage.toValue.display

/-- Somebody who only listens. -/
def observer : Jobs.Listener := ⟨"command", fun _ _ => []⟩

/-- The options of a conversion that is asked for on a command line. -/
def conversionOptions (withTests : Bool) : Value :=
  .object
    [("preserveStructure", .bool true), ("maintainState", .bool true),
      ("addTypeAnnotations", .bool true), ("convertApiCalls", .bool true),
      ("generateTests", .bool withTests)]

/-- A store for the time of one command. -/
def freshStore : Jobs.Store :=
  .empty ⟨fun n => "row-" ++ toString n, fun n => "moment-" ++ toString n⟩ []

/-- Runs a job that converts files: what it has come to, and what the listeners heard. -/
def runConversion (service : Jobs.Service) (name source target : String) (options : Value)
    (files : List ProjectFile) : Option (Jobs.Job × List Jobs.Event) := do
  let (project, store) ←
    (freshStore.createProject service.tables (.str name) (recordsOf files)).toOption
  let key := project.id.display
  let (job, store) ←
    store.createJob key (.str source) (.str target) (.str "frontend") options
  let session := (Jobs.Session.ofStore store).subscribe observer
  let (outcome, session) := session.run service job.id.display
  let job ← outcome.toOption
  return (job, session.log.filterMap fun note =>
    match note with
    | .heard _ event => some event
    | .asked .. => none)

/-- The items of a field of a result. -/
def itemsOf (key : String) (result : Value) : List Value :=
  match result with
  | .object fields =>
    match fields.lookup key with
    | some (.list items) => items
    | _ => []
  | _ => []

/-- Says what has come of a conversion, and writes its files. -/
def deliver (job : Jobs.Job) (path : String) (overwrite : Bool) : Dialogue Unit := do
  match job.status with
  | .completed =>
    (itemsOf "warnings" job.result).forM fun remark => tell ("  ! " ++ remark.display)
    (itemsOf "errors" job.result).forM fun remark => complain ("  ✗ " ++ remark.display)
    saveRecords path overwrite (itemsOf "files" job.result)
  | status =>
    fail <|
      match job.error with
      | .str reason => reason
      | _ => "Conversion ended with status " ++ status.toValue.display

/-- Converts a project file by file. -/
def convert (circumstances : Circumstances) (path source : String) (target output : Option String)
    (withTests overwrite : Bool) : Dialogue Unit := do
  let target ←
    match filled target, circumstances.settings with
    | some target, _ => pure target
    | none, .ok settings => pure settings.defaultTarget
    | none, .error _ => .stop 1
  let (place, files) ← load circumstances path
  let name := projectName place
  let options := conversionOptions withTests
  match runConversion circumstances.service name source target options files with
  | none => .stop 1
  | some (job, events) =>
    tell <| "[stackshift] Converting " ++ name ++ ": " ++ source ++ " → " ++ target ++ " (" ++
      toString files.length ++ " files)"
    events.forM fun event => tell (eventLine event)
    deliver job ((filled output).getD (name ++ "_converted_to_" ++ target ++ ".zip")) overwrite

/-- Says what has come of moving a project to another stack. -/
def summarize (result : Stack.Result) : Dialogue Unit := do
  tell <| "[stackshift] " ++ toString result.summary.convertedFiles ++ " files generated from " ++
    toString result.summary.totalFiles ++ " in " ++ toString result.summary.milliseconds ++ " ms"
  result.files.forM fun file =>
    tell ("  - " ++ file.path ++ " (" ++ toString file.lines ++ " lines)")
  result.warnings.forM fun warning => tell ("  ! " ++ warning.file ++ ": " ++ warning.message)

/-- Moves a project to another stack. -/
def convertStack (circumstances : Circumstances) (path : String)
    (sourceLayers targetLayers : List (String × Option String)) (output : Option String)
    (asData overwrite : Bool) : Dialogue Unit := do
  match stackOf sourceLayers, stackOf targetLayers with
  | .error flaw, _ | .ok _, .error flaw => fail flaw.message
  | .ok source, .ok target =>
    if source.isEmpty || target.isEmpty then
      fail "Both a current and a target stack are required"
    let (_, files) ← load circumstances path
    let result := Stack.convertStack (.object source) (.object target) (recordsOf files)
    if asData then tellData result.toValue else summarize result
    if !result.success then
      fail (joined "; " (result.failures.map Stack.Failure.message))
    match filled output with
    | none => return
    | some output => saveRecords output overwrite (result.files.map Stack.ConvertedFile.toValue)

/-- The nodes of files, with what is complained about on the way. -/
def nodesOf (parser : Script.Parser) (framework : String) :
    List ProjectFile → Dialogue (List Ir.Node)
  | [] => pure []
  | file :: rest =>
    match Conversion.reportOn parser file.path file.toValue with
    | .error _ => .stop 1
    | .ok none => nodesOf parser framework rest
    | .ok (some report) =>
      match report.get "type", Ir.Lowering.nodes report file.path framework with
      | .ok (.str "Error"), _ => do
        let name := ((report.get "name").toOption.getD .null).display
        complain ("  ! " ++ name)
        nodesOf parser framework rest
      | .ok _, .ok nodes => do
        return nodes ++ (← nodesOf parser framework rest)
      | _, _ => .stop 1

/-- Says what is read of a project. -/
def parse (circumstances : Circumstances) (path framework mode : String) : Dialogue Unit := do
  let (_, files) ← load circumstances path
  match mode with
  | "line" =>
    match Outline.Project.ofRecords (recordsOf files) framework with
    | .ok project => tellData project.toValue
    | .error _ => .stop 1
  | "ast" =>
    let nodes ← nodesOf circumstances.parser framework files
    tellData (.list (nodes.map Ir.Node.toValue))
  | _ => fail ("Unknown parse mode " ++ quoted mode ++ " (expected 'line' or 'ast')")

/-- A field of a record as a text. -/
def fieldText (key : String) (record : Value) : String :=
  ((record.get key).toOption.getD .null).display

/-- How a framework is said. -/
def frameworkLine (record : Value) : String :=
  "  - " ++ leftAligned 12 (fieldText "id" record) ++ " " ++
    leftAligned 12 (fieldText "name" record) ++ " [" ++ fieldText "category" record ++ "] " ++
    fieldText "description" record

/-- Says which frameworks are known. -/
def frameworks (category : Option String) : Dialogue Unit :=
  let known := Jobs.standardFrameworks
  let chosen :=
    match filled category with
    | some category => known.filter fun record => fieldText "category" record == category
    | none => known
  if chosen.isEmpty then
    tell ("[stackshift] No frameworks in category " ++ quoted (category.getD "") ++ ".")
  else chosen.forM fun record => tell (frameworkLine record)

/-- How the commands are used. -/
def usage : String :=
  joined "\n"
    ["Usage: [-v] COMMAND",
      "  analyze PATH [--json]",
      "  convert PATH --from NAME [--to NAME] [-o FILE] [--generate-tests] [-y]",
      "  convert-stack PATH [--from-frontend NAME:LANGUAGE] [--to-frontend NAME:LANGUAGE]",
      "    [--from-backend NAME:LANGUAGE] [--to-backend NAME:LANGUAGE] [-o FILE] [--json] [-y]",
      "  parse PATH -f NAME [--mode line|ast]",
      "  frameworks [-c CATEGORY]"]

/-- The code for a command line that cannot be understood. -/
def usageCode : Nat := 2

/-- Ends everything because a command line cannot be understood. -/
def refuse : Dialogue Unit := .say .error usage (.stop usageCode)

/-- Does what is asked for. -/
def Request.perform (circumstances : Circumstances) : Request → Dialogue Unit
  | .analyze path asData => Command.analyze circumstances path asData
  | .convert path source target output withTests overwrite =>
    Command.convert circumstances path source target output withTests overwrite
  | .convertStack path sourceFrontend targetFrontend sourceBackend targetBackend output asData
      overwrite =>
    Command.convertStack circumstances path
      [("frontend", sourceFrontend), ("backend", sourceBackend)]
      [("frontend", targetFrontend), ("backend", targetBackend)] output asData overwrite
  | .parse path framework mode => Command.parse circumstances path framework mode
  | .frameworks category => Command.frameworks category
  | .help => tell usage

/-- Does what a command line asks for. Unless everything is logged, the settings must be in order
before the words of the command are looked at. -/
def perform (circumstances : Circumstances) (words : List String) : Dialogue Unit :=
  match Opening.ofWords words with
  | .notUnderstood => refuse
  | .help => tell usage
  | .line line =>
    let act : Dialogue Unit :=
      match line.verb.read? line.words with
      | some request => request.perform circumstances
      | none => refuse
    match line.isVerbose, circumstances.settings with
    | false, .error flaw => fail flaw.message
    | _, _ => act

end Restack.Command
