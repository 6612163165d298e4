import Restack.Intake.Glob
import Restack.Intake.Path

/-!
# Files that are left out

What tools leave behind, what is installed rather than written, and what should not leave a machine
is not part of a project. Capital and small letters are not told apart.
-/

namespace Restack.Intake

open Restack.Text

/-- What a file is left out for. -/
inductive SkipRule where
  /-- It stands below a folder of this name. -/
  | folder (name : String)
  /-- It has this name. -/
  | named (name : String)
  /-- Its name fits this pattern. -/
  | pattern (text : String)
deriving DecidableEq, Repr

/-- The rules. -/
def skipRules : List SkipRule :=
  (["node_modules", ".git", ".svn", ".hg", "dist", "build", "out", "target", "bin", "obj", ".next",
      ".nuxt", ".output", ".cache", ".temp", ".tmp", "coverage", ".nyc_output", "logs", "__pycache__",
      ".pytest_cache", ".tox", "venv", "env", ".venv", ".idea", ".vscode"].map .folder) ++
    (["*.log", "*.pyc", "*.swp", "*.swo", "*~", ".env*"].map .pattern) ++
    ([".ds_store", "thumbs.db", "package-lock.json", "yarn.lock", "pnpm-lock.yaml", "composer.lock",
      "pipfile.lock", "poetry.lock", "gemfile.lock"].map .named)

/-- Whether a rule applies to a path that begins with a slash and is written in small letters. -/
def SkipRule.applies (path : List Char) : SkipRule → Bool
  | .folder name => occurs ('/' :: (name.toList ++ ['/'])) path
  | .named name => baseName path == name.toList
  | .pattern text => (Glob.ofText text.toList).fits (baseName path)

/-- A path as the rules look at it. -/
def skipForm (path : List Char) : List Char :=
  '/' :: lower (path.map slashed)

/-- Whether a file is left out: it is none but a folder, or some rule applies to it. -/
def isSkipped (path : List Char) : Bool :=
  endsWith ['/'] path || skipRules.any (SkipRule.applies (skipForm path))

end Restack.Intake
