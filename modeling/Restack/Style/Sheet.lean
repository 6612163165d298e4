import Restack.Text.Pattern
import Restack.Value.Basic

/-!
# Style sheets

The classes of a style sheet and the properties that each of them sets. What stands outside the
blocks of classes is left out.
-/

namespace Restack.Style

open Restack.Text

/-- The classes of a style sheet with their properties, in the order in which they first stand. -/
structure Sheet where
  classes : List (String × List (String × String))
deriving Repr

namespace Sheet

/-- Characters of the name of a class. -/
def isClassChar (c : Char) : Bool :=
  isAsciiLetter c || isAsciiDigit c || c == '_' || c == '-'

/-- A class and its block: the name is the first group, and the block the second. -/
def classBlock : Pattern :=
  .one (· == '.') ++
    .group 1 (.one (fun c => isClassChar c && !isAsciiDigit c) ++ .run isClassChar) ++
    .blanks ++ .one (· == '\x7b') ++ .group 2 (.run (· != '\x7d')) ++ .one (· == '\x7d')

/-- A property and its value: the name is the first group, and the value the second. -/
def setting : Pattern :=
  .group 1 (.run1 fun c => isAsciiLetter c || c == '-') ++ .blanks ++ .one (· == ':') ++ .blanks ++
    .group 2 (.run1 (· != ';'))

/-- The properties that a block sets. A later value replaces an earlier one. -/
def settingsOf (block : String) : List (String × String) :=
  Value.ofEntries <| (setting.findAll block).map fun m => (trimmed (m.group 1), trimmed (m.group 2))

/-- The classes in a style sheet. A later block of a class replaces an earlier one. -/
def ofText (code : String) : Sheet :=
  ⟨Value.ofEntries <| (classBlock.findAll code).map fun m => (m.group 1, settingsOf (m.group 2))⟩

/-- The properties of each class as they are reported. -/
def toValue (sheet : Sheet) : Value :=
  .object <| sheet.classes.map fun entry =>
    (entry.1, .object (entry.2.map fun property => (property.1, .str property.2)))

/-- The report on a style sheet in a file. -/
def report (path code : String) : Value :=
  .object [("type", .str "Stylesheet"), ("name", .str path), ("styles", (ofText code).toValue)]

end Sheet

end Restack.Style
