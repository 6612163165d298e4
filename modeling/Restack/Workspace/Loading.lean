import Restack.Text.Case
import Restack.Workspace.Tree

/-!
# Taking in a project

A project is a folder, an archive, or a single file. An archive is told by the extension of its
name.
-/

namespace Restack.Workspace

open Restack.Text Restack.Intake

/-- The files of a project. Whether something is there is asked before the settings are. -/
def filesOf (settings : Except Settings.Flaw Settings) :
    Source → Except Refusal (List ProjectFile)
  | .missing place => .error (.notFound (textOf place))
  | .folder _ files => do
    filesOfFolder (← settings.mapError .settings) files
  | .file place data => do
    let settings ← settings.mapError .settings
    if lowered (suffixOf (nameOf place)) == ".zip" then
      filesOfArchive settings (← openArchive data)
    else return [← singleFile settings (nameOf place) data]

end Restack.Workspace
