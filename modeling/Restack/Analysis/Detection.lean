import Restack.Analysis.Tables
import Restack.Number.Rounding
import Restack.Source.File

/-!
# Languages and frameworks of a project

The language of each file, the share that each language has of the lines, and the frameworks. A
framework counts only if one file fits both by its path and by what stands in it.
-/

namespace Restack.Analysis

open Restack.Text

/-- The word for a language that cannot be told. -/
def unknownLanguage : String := "unknown"

/-- The language that a content looks like. -/
def sniffed (content : String) : String :=
  if ["def ", "import "].any (hasPart · content) then "python"
  else if ["function", "const ", "let "].any (hasPart · content) then "javascript"
  else unknownLanguage

/-- The language of a file: the first that its path fits, or else the one that its content looks
like. -/
def languageOf (tables : Tables) (file : SourceFile) : String :=
  match tables.languages.find? fun entry => entry.2.occursIn file.path with
  | some (language, _) => language
  | none => sniffed file.content

/-- The language of a file, if it can be told. -/
def languageOf? (tables : Tables) (file : SourceFile) : Option String :=
  let language := languageOf tables file
  if language == unknownLanguage then none else some language

namespace Framework

/-- Whether a path speaks for a framework. -/
def fitsPath (framework : Framework) (path : String) : Bool :=
  framework.paths.any (·.occursIn path)

/-- Whether a content speaks for a framework. -/
def fitsContent (framework : Framework) (content : String) : Bool :=
  framework.contents.any (·.occursIn content)

end Framework

/-- A text that is searched. -/
def searched : Value → Except Fault String
  | .str s => .ok s
  | value => .error (.notText value.kind)

/-- The frameworks found so far and this one, if a file speaks for it. The file is looked at only as
far as is needed. -/
def addFramework (file : Value) (found : List String) (framework : Framework) :
    Except Fault (List String) := do
  if found.contains framework.name then return found
  let path ← searched (← file.field "path")
  if !framework.fitsPath path then return found
  let content ← searched (← file.field "content")
  return if framework.fitsContent content then found ++ [framework.name] else found

/-- The frameworks that files speak for, in the order of the table. -/
def frameworksOf (tables : Tables) (files : List Value) : Except Fault (List String) := do
  let found ← files.foldlM
    (fun found file => tables.frameworks.foldlM (addFramework file) found) []
  return (tables.frameworks.map (·.name)).filter found.contains

/-- What a language has of a project. -/
structure LanguageShare where
  title : String
  percentage : Float
  files : Nat
  icon : String
  purpose : String

/-- What a project is made of. -/
structure Report where
  languages : List LanguageShare
  frameworks : List String
  totalFiles : Nat
  totalLines : Nat

/-- Whether some word occurs in one of the texts, all letters being small. -/
def speaksOf (texts words : List String) : Bool :=
  let text := joined " " (texts.map lowered)
  words.any (hasPart · text)

/-- What the files of a language seem to be for. -/
def purposeOf (tables : Tables) (language : String) (files : List SourceFile) : String :=
  let paths := files.map (·.path)
  let contents := files.map (·.content)
  if language == "javascript" || language == "typescript" then
    if speaksOf paths ["server", "api"] || speaksOf contents ["express", "app.listen"] then
      "Backend"
    else if speaksOf contents ["react", "component"] || speaksOf paths ["client"] then
      "Frontend"
    else
      "Full-stack"
  else if language == "python" then
    if speaksOf contents ["fastapi", "flask", "django"] then "Backend API"
    else if speaksOf contents ["pandas", "numpy", "sklearn"] then "Data Science"
    else "Backend"
  else
    match tables.purposes.lookup language with
    | some (purpose :: _) => purpose
    | _ => "General"

/-- The share that a number of lines has of another in percent, to one place. -/
def percentageOf (lines total : Nat) : Float :=
  let share := Number.quotient lines total * 100.0
  (Number.roundToTenth? share).getD share

/-- The number of lines of files. -/
def linesIn (files : List SourceFile) : Nat :=
  (files.map fun file => SourceFile.lineCount file.content).foldr (· + ·) 0

/-- The files whose language can be told, with it. -/
def knownFiles (tables : Tables) (files : List SourceFile) : List (String × SourceFile) :=
  files.filterMap fun file => (languageOf? tables file).map fun language => (language, file)

/-- What a language has of the known files. -/
def shareOf (tables : Tables) (known : List (String × SourceFile)) (language : String) :
    LanguageShare :=
  let own := (known.filter (·.1 == language)).map (·.2)
  { title := (tables.languageTitles.lookup language).getD language
    percentage := percentageOf (linesIn own) (linesIn (known.map (·.2)))
    files := own.length
    icon := (tables.icons.lookup language).getD "fas fa-file-code"
    purpose := purposeOf tables language own }

/-- The shares of the languages, the largest first. Equal shares stand in the order in which the
languages are met. -/
def sharesOf (tables : Tables) (known : List (String × SourceFile)) : List LanguageShare :=
  let languages := (known.map (·.1)).eraseDups
  (languages.map (shareOf tables known)).mergeSort fun a b => b.percentage ≤ a.percentage

/-- What a project is made of. -/
def analyze (tables : Tables) (records : List Value) : Except Fault Report := do
  let files ← records.mapM (SourceFile.ofValue .notText)
  let known := knownFiles tables files
  let frameworks ← frameworksOf tables records
  return {
    languages := sharesOf tables known
    frameworks := frameworks.map fun name => (tables.frameworkTitles.lookup name).getD name
    totalFiles := known.length
    totalLines := linesIn (known.map (·.2)) }

/-- The share of a language as it is reported. -/
def LanguageShare.toValue (share : LanguageShare) : Value :=
  .object
    [("language", .str share.title), ("percentage", .float share.percentage),
      ("files", .ofNat share.files), ("icon", .str share.icon), ("purpose", .str share.purpose)]

/-- A report as it is given. -/
def Report.toValue (report : Report) : Value :=
  .object
    [("languages", .list (report.languages.map LanguageShare.toValue)),
      ("frameworks", .ofStrings report.frameworks), ("totalFiles", .ofNat report.totalFiles),
      ("totalLines", .ofNat report.totalLines)]

end Restack.Analysis
