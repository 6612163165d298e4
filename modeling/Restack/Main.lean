import Restack.Command.Perform
import Restack.Script.Reader
import Std.Time.DateTime.Timestamp

/-!
# The program

Carries out the dialogue of a command line with the files, the environment and the terminal of the
machine.
-/

namespace Restack.Terminal

open Command Workspace Intake

/-- The variables that settings are read from. -/
def settingNames : List String :=
  ["STACKSHIFT_MAX_FILE_SIZE", "STACKSHIFT_MAX_TOTAL_SIZE", "STACKSHIFT_LOG_LEVEL",
    "STACKSHIFT_DEFAULT_TARGET"]

/-- The variables of the machine that matter. -/
def readEnvironment : IO Environment := do
  let values ← settingNames.mapM fun name => return (name, ← IO.getEnv name)
  return values.filterMap fun (name, value?) => value?.map fun value => (name, value)

/-- The moment on the clock of the machine. -/
def readMoment : IO Time.Moment := do
  let nanos := (← Std.Time.Timestamp.now).toNanosecondsSinceUnixEpoch.toInt
  return .ofMicros (Int.fdiv nanos 1000)

/-- The files below a folder. -/
partial def readFolder (text : String) (parts : List String) : IO (List FolderFile) := do
  let items ← (← IO.FS.realPath text).readDir
  let files ← items.toList.mapM fun item => do
    let inside := parts ++ [item.fileName]
    if ← item.path.isDir then readFolder item.path.toString inside
    else return [⟨inside, ← IO.FS.readBinFile item.path⟩]
  return files.flatten

/-- What is found at a place of the machine. -/
def lookAt (home : List String) (path : String) : IO Source := do
  let place := (Location.ofText path).absolute home
  try
    let file ← IO.FS.realPath (textOf place)
    if ← file.isDir then return .folder place (← readFolder (textOf place) [])
    else return .file place (← IO.FS.readBinFile file)
  catch _ => return .missing place

/-- Writes a file with the folders that lead to it, and tells whether that was possible. -/
def writeAt (home : List String) (path : String) (data : ByteArray) : IO Bool := do
  let place := (Location.ofText path).absolute home
  try
    IO.FS.createDirAll (textOf place.dropLast)
    IO.FS.writeBinFile (textOf place) data
    return true
  catch _ => return false

/-- Asks until there is an answer or the input ends. -/
partial def askFor (question : String) : IO (Option Bool) := do
  let output ← IO.getStdout
  output.putStr (promptOf question)
  output.flush
  let line ← (← IO.getStdin).getLine
  if line.isEmpty then return none
  match answerOf? line with
  | some answer => return some answer
  | none =>
    output.putStr (notAnAnswer ++ "\n")
    askFor question

/-- Carries out a dialogue, and gives the code that it ends with. -/
def carryOut (home : List String) : Dialogue Unit → IO Nat
  | .result () => return 0
  | .stop code => return code
  | .say .output line next => do
    (← IO.getStdout).putStr (line ++ "\n")
    carryOut home next
  | .say .error line next => do
    (← IO.getStderr).putStr (line ++ "\n")
    carryOut home next
  | .look path next => do carryOut home (next (← lookAt home path))
  | .isThere path next => do
    let source ← lookAt home path
    let there :=
      match source with
      | .missing _ => false
      | _ => true
    carryOut home (next there)
  | .confirm question next => do
    match ← askFor question with
    | some answer => carryOut home (next answer)
    | none =>
      (← IO.getStderr).putStr (aborted ++ "\n")
      return 1
  | .save path data next => do carryOut home (next (← writeAt home path data))

end Restack.Terminal

open Restack Restack.Terminal Restack.Command Restack.Workspace in
/-- Does what a command line asks for. -/
def main (words : List String) : IO UInt32 := do
  let home := Location.stepsOf (← IO.currentDir).toString
  let circumstances : Circumstances := ⟨← readEnvironment, Script.parse, ← readMoment⟩
  return UInt32.ofNat (← carryOut home (perform circumstances words))
