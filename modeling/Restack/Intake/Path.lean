import Restack.Text.Case
import Restack.Text.Split

/-!
# Paths of files

What a path says about a file, and how a path from outside is made harmless: it loses every step
upwards, is written with slashes only, and begins below the place that it is used in.
-/

namespace Restack.Intake

open Restack.Text

/-- Takes out pairs of dots, from the left. -/
def dropDotPairs : List Char → List Char
  | '.' :: '.' :: rest => dropDotPairs rest
  | c :: rest => c :: dropDotPairs rest
  | [] => []

/-- A slash in place of a backslash. -/
def slashed (c : Char) : Char := if c == '\\' then '/' else c

/-- One slash in place of several in a row. -/
def squeezeSlashes : List Char → List Char
  | [] => []
  | c :: rest =>
    if c == '/' && rest.head? == some '/' then squeezeSlashes rest else c :: squeezeSlashes rest

/-- A path without steps upwards, backslashes, empty parts, or a slash in front. -/
def cleanPath (path : List Char) : List Char :=
  (squeezeSlashes ((dropDotPairs path).map slashed)).dropWhile (· == '/')

/-- The last part of a path. -/
def baseName (path : List Char) : List Char :=
  (path.reverse.takeWhile (· != '/')).reverse

/-- The last dot of a name and what follows it, when something other than dots stands before it. -/
def nameExtension (name : List Char) : List Char :=
  let tail := (name.reverse.takeWhile (· != '.')).reverse
  let front := name.take (name.length - tail.length - 1)
  if tail.length < name.length && front.any (· != '.') then '.' :: tail else []

/-- The extension of a path in small letters, with its dot; empty where there is none. -/
def extension (path : List Char) : String :=
  String.ofList (nameExtension (baseName (lower path)))

/-- The extensions of files whose content is not text. -/
def binaryExtensions : List String :=
  [".png", ".jpg", ".jpeg", ".gif", ".bmp", ".ico", ".woff", ".woff2", ".ttf", ".eot", ".otf",
    ".zip", ".tar", ".gz", ".rar", ".7z", ".pdf", ".doc", ".docx", ".xls", ".xlsx", ".mp3", ".mp4",
    ".avi", ".mov", ".wmv"]

/-- Whether a path is that of a file whose content is not text. -/
def isBinary (path : List Char) : Bool :=
  binaryExtensions.contains (extension path)

/-- The types of files by extension. -/
def fileTypes : List (String × String) :=
  [(".js", "javascript"), (".jsx", "javascript"), (".ts", "typescript"), (".tsx", "typescript"),
    (".py", "python"), (".dart", "dart"), (".go", "go"), (".html", "html"), (".css", "css"),
    (".scss", "scss"), (".sass", "sass"), (".less", "less"), (".json", "json"), (".yaml", "yaml"),
    (".yml", "yaml"), (".md", "markdown"), (".txt", "text"), (".svg", "svg"), (".png", "image"),
    (".jpg", "image"), (".jpeg", "image"), (".gif", "image")]

/-- The type of a file. -/
def fileType (path : List Char) : String :=
  (fileTypes.lookup (extension path)).getD "unknown"

end Restack.Intake
