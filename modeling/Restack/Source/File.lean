import Restack.Value.Access

/-!
# Source files

A file of a project: where it stands and what it holds.
-/

namespace Restack

/-- A source file. -/
structure SourceFile where
  path : String
  content : String
deriving DecidableEq, Repr

namespace SourceFile

/-- The source file that a record describes. `pathFault` tells what is wrong with a path that is no
text. -/
def ofValue (pathFault : Value.Kind → Fault) (record : Value) : Except Fault SourceFile := do
  let path ← record.field "path"
  let content ← (← record.field "content").textFor "split"
  match path with
  | .str path => return ⟨path, content⟩
  | value => .error (pathFault value.kind)

/-- The number of lines of a text. A text without a line feed is one line. -/
def lineCount (content : String) : Nat :=
  content.toList.count '\n' + 1

end SourceFile

end Restack
