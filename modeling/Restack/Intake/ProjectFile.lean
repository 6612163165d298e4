import Restack.Intake.Path
import Restack.Text.Utf8
import Restack.Value.Basic

/-!
# Files that have been taken in

A file of a project with its text. A file whose content is not text is kept by name only.
-/

namespace Restack.Intake

open Restack.Text

/-- A file that has been taken in. -/
structure ProjectFile where
  path : String
  content : String
  /-- The number of octets of the file. -/
  size : Nat
  type : String
deriving DecidableEq, Repr

namespace ProjectFile

/-- What stands for the content of a file that is not text. -/
def placeholder (path : String) : String :=
  "[Binary file: " ++ String.ofList (baseName path.toList) ++ "]"

/-- The file with a path and octets. -/
def ofOctets (path : String) (data : ByteArray) : ProjectFile :=
  { path
    content := if isBinary path.toList then placeholder path else textOfOctets data
    size := data.size
    type := fileType path.toList }

/-- A file as it is reported. -/
def toValue (file : ProjectFile) : Value :=
  .object
    [("path", .str file.path), ("content", .str file.content), ("size", .ofNat file.size),
      ("type", .str file.type)]

end ProjectFile

end Restack.Intake
