import Restack.Workspace.Tree

/-!
# Files by pattern

The files that a text stands for: a single file, the files below a folder, or the files whose paths
fit a pattern.
-/

namespace Restack.Workspace

open Restack.Text Restack.Intake

/-- Why a text stands for no files. -/
inductive ListingFlaw where
  /-- Nothing fits. -/
  | noMatch (text : String)
  /-- A pattern begins at the root. -/
  | notRelative
  /-- Two stars stand beside other characters. -/
  | mixedStars
deriving DecidableEq, Repr

/-- The wording of a flaw. -/
def ListingFlaw.message : ListingFlaw → String
  | .noMatch text => "No files match path or pattern: " ++ text
  | .notRelative => "Non-relative patterns are unsupported"
  | .mixedStars => "Invalid pattern: '**' can only be an entire path component"

/-- A step of a pattern for paths. -/
inductive PatternStep where
  /-- To what has this name. -/
  | exact (name : String)
  /-- To everything in the folder whose name fits. -/
  | fitting (glob : Glob)
  /-- To the folder itself and every folder below it. -/
  | below
  /-- Nowhere, from a folder. -/
  | stay
deriving DecidableEq, Repr

/-- The step that a part of a pattern stands for. -/
def PatternStep.ofText (part : String) : Except ListingFlaw PatternStep :=
  if part == "**" then .ok .below
  else if hasPart "**" part then .error .mixedStars
  else if Glob.isPattern part.toList then .ok (.fitting (Glob.ofText part.toList))
  else .ok (.exact part)

/-- The steps of a pattern. A slash at its end asks for folders. -/
def patternSteps (text : String) : Except ListingFlaw (List PatternStep) := do
  if hasStart "/" text then .error .notRelative
  else
    let steps ← (Location.stepsOf text).mapM PatternStep.ofText
    return if hasEnd "/" text then steps ++ [.stay] else steps

/-- A place that a pattern leads to: the steps taken, and where they end. -/
structure Match where
  steps : List String
  place : List String
deriving DecidableEq, Repr

/-- The place one step on. -/
def Match.next (here : Match) (name : String) : Match :=
  ⟨here.steps ++ [name], Location.step here.place name⟩

/-- The places that the steps of a pattern lead to. Every step but the last must lead to a
folder. -/
def follow (tree : Tree) : List PatternStep → Match → List Match
  | [], here => [here]
  | step :: rest, here =>
    let usable (there : Match) : Bool :=
      if rest.isEmpty then tree.isThere there.place else tree.isFolder there.place
    match step with
    | .stay => [here]
    | .exact name =>
      let there := here.next name
      if usable there then follow tree rest there else []
    | .fitting glob =>
      (((tree.names here.place).filter fun name => glob.fits name.toList).map here.next).flatMap
        fun there => if usable there then follow tree rest there else []
    | .below =>
      ((tree.foldersBelow here.place).flatMap fun path =>
        follow tree rest (path.foldl Match.next here)).eraseDups

/-- The places of the files that a text stands for. -/
def listFiles (tree : Tree) (text : String) : Except ListingFlaw (List (List String)) :=
  match tree.look text with
  | .file place _ => .ok [place]
  | .folder place files =>
    .ok ((files.filter fun file => isListed file.parts).map fun file => place ++ file.parts)
  | .missing _ => do
    let found := follow tree (← patternSteps text) ⟨[], tree.home⟩
    if found.isEmpty then .error (.noMatch text)
    else
      return (found.filter fun found => (tree.data? found.place).isSome && isListed found.steps).map
        (·.place)

end Restack.Workspace
