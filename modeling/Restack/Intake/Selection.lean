import Restack.Archive.Zip
import Restack.Intake.ProjectFile
import Restack.Intake.Skip
import Restack.Settings
import Restack.Value.Show

/-!
# What of an archive or a folder is taken in

Files that are left out, and files that are too large, do not count. The others must not be too
large together; then each of them is taken in under a harmless path. Results are packed the other
way round.
-/

namespace Restack.Intake

open Restack.Archive

/-- Why nothing could be taken in or packed. -/
inductive Refusal where
  /-- There is nothing at this place. -/
  | notFound (place : String)
  /-- The octets are no archive. -/
  | notArchive (flaw : Archive.Flaw)
  /-- The files together are too large. -/
  | totalTooLarge (limit : Int)
  /-- A single file is too large. -/
  | fileTooLarge (size : Nat) (limit : Int)
  /-- The settings cannot be read. -/
  | settings (flaw : Settings.Flaw)
  /-- A record to be packed has no name. -/
  | unnamed
deriving DecidableEq, Repr

/-- The wording of a refusal. -/
def Refusal.message : Refusal → String
  | .notFound place => "File not found: " ++ place
  | .notArchive flaw => "Failed to open ZIP file: " ++ flaw.message
  | .totalTooLarge limit =>
    "Total upload size exceeds limit of " ++ toString (Int.fdiv limit (1024 * 1024)) ++ "MB"
  | .fileTooLarge size limit =>
    "File size " ++ toString size ++ " exceeds maximum of " ++ toString limit
  | .settings flaw => flaw.message
  | .unnamed => "Archive entry has neither 'path' nor 'newPath'"

/-- Whether an entry counts: it is a file that is neither left out nor too large. -/
def counts (settings : Settings) (entry : Entry) : Bool :=
  !isSkipped entry.name.toList && entry.data.size ≤ settings.maxFileSize

/-- Goes through entries as long as their sizes, added to what has been used, stay within a
limit. -/
def withinLimit (limit : Int) : Int → List Entry → Except Refusal (List Entry)
  | _, [] => .ok []
  | used, entry :: rest =>
    let used := used + entry.data.size
    if limit < used then .error (.totalTooLarge limit)
    else (withinLimit limit used rest).map (entry :: ·)

/-- The entries that are taken in. -/
def select (settings : Settings) (entries : List Entry) : Except Refusal (List Entry) :=
  withinLimit settings.maxTotalSize 0 (entries.filter (counts settings))

/-- The file that an entry becomes, unless nothing is left of its path. -/
def fileOf? (entry : Entry) : Option ProjectFile :=
  let path := cleanPath entry.name.toList
  if path.isEmpty then none else some (.ofOctets (String.ofList path) entry.data)

/-- The files of an archive, in its order. -/
def filesOfArchive (settings : Settings) (entries : List Entry) :
    Except Refusal (List ProjectFile) :=
  (select settings entries).map (·.filterMap fileOf?)

/-- The entries of octets that are an archive. -/
def openArchive (octets : ByteArray) : Except Refusal (List Entry) :=
  (Archive.read octets).mapError .notArchive

/-- Parts of paths that are never looked into below a folder. -/
def ignoredParts : List String := ["node_modules", "dist", "build"]

/-- Whether a path below a folder is looked at. -/
def isListed (parts : List String) : Bool :=
  !parts.any ignoredParts.contains

/-- A file below a folder: the parts of its path, and its octets. -/
structure FolderFile where
  parts : List String
  data : ByteArray

namespace FolderFile

/-- The file under its path with slashes. -/
def toEntry (file : FolderFile) : Entry :=
  ⟨Text.joined "/" file.parts, file.data⟩

end FolderFile

/-- The files of a folder, in the order of the parts of their paths. -/
def filesOfFolder (settings : Settings) (files : List FolderFile) :
    Except Refusal (List ProjectFile) :=
  let sorted :=
    (files.filter fun file => isListed file.parts).mergeSort fun a b => !b.parts.lex a.parts
  (select settings (sorted.map FolderFile.toEntry)).map fun entries =>
    entries.map fun entry => .ofOctets entry.name entry.data

/-- A single file that is taken in by its name. -/
def singleFile (settings : Settings) (name : String) (data : ByteArray) :
    Except Refusal ProjectFile :=
  if settings.maxFileSize < data.size then
    .error (.fileTooLarge data.size settings.maxFileSize)
  else .ok (.ofOctets name data)

/-- The entry that a record with a name and a content is packed as. -/
def entryOf (record : List (String × Value)) : Except Refusal Entry :=
  let named (key : String) : Option Value := (record.lookup key).filter Value.truthy
  match named "path" <|> named "newPath" with
  | none => .error .unnamed
  | some name =>
    let content := ((record.lookup "content").getD (.str "")).display
    .ok ⟨name.display, Text.octetsOfText content⟩

/-- The archive that records are packed into. -/
def pack (records : List (List (String × Value))) : Except Refusal (List Entry) :=
  records.mapM entryOf

end Restack.Intake
