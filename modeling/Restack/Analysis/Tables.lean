import Restack.Text.Pattern
import Restack.Text.Split

/-!
# What languages and frameworks are known by

A language is known by the endings of its files. A framework is known by the paths of files and by
what stands in them. The tables also tell how each is called and shown.
-/

namespace Restack.Analysis

open Restack.Text

/-- A framework and what it is known by. -/
structure Framework where
  name : String
  contents : List Pattern
  paths : List Pattern

/-- What is known of languages and frameworks. The first language that fits counts, and frameworks
are told in the order of their table. -/
structure Tables where
  languages : List (String × Pattern)
  frameworks : List Framework
  languageTitles : List (String × String)
  icons : List (String × String)
  purposes : List (String × List String)
  frameworkTitles : List (String × String)

/-- Paths that end in one of several ways. -/
def endingIn (endings : List String) : Pattern :=
  .anyOf endings ++ .finish

/-- Whether a character is a small letter of ASCII or a large form of it. Some letters of other
alphabets are forms of `i` and `s`. -/
def isFormOf (letter c : Char) : Bool :=
  c == letter || ('A' ≤ c && c ≤ 'Z' && Char.ofNat (c.toNat + 32) == letter) ||
    (letter == 'i' && (c == 'ı' || c == 'İ')) || (letter == 's' && c == 'ſ')

/-- A text in small or large letters. -/
def inAnyCase (s : String) : Pattern :=
  s.toList.foldr (fun letter p => .seq (.one (isFormOf letter)) p) .empty

/-- The languages and the endings of their files. -/
def knownLanguages : List (String × Pattern) :=
  [("javascript", endingIn [".js", ".jsx"]), ("typescript", endingIn [".ts", ".tsx"]),
    ("python", endingIn [".py"]), ("dart", endingIn [".dart"]), ("go", endingIn [".go"]),
    ("html", endingIn [".html", ".htm"]),
    ("css", endingIn [".css", ".scss", ".sass", ".less"]), ("json", endingIn [".json"]),
    ("yaml", endingIn [".yml", ".yaml"]), ("markdown", endingIn [".md", ".markdown"])]

/-- React. -/
def react : Framework :=
  { name := "react"
    contents :=
      [inAnyCase "import" ++ .run (· != '\n') ++ inAnyCase "react",
        .text "from" ++ .blanks1 ++ .quotes ++ .text "react" ++ .quotes,
        .sign '<' ++ .capital, inAnyCase "jsx"]
    paths := [endingIn [".jsx", ".js"], endingIn [".tsx", ".ts"]] }

/-- Node. -/
def node : Framework :=
  { name := "nodejs"
    contents :=
      [.text "require" ++ .blanks ++ .sign '(', .text "module.exports", .text "express",
        .text "app.listen"]
    paths := [endingIn ["package.json"], endingIn ["server.js"], endingIn ["index.js"]] }

/-- TypeScript. -/
def typeScript : Framework :=
  { name := "typescript"
    contents :=
      [.text "interface" ++ .blanks1 ++ .word,
        .text "type" ++ .blanks1 ++ .word ++ .blanks ++ .sign '=', .sign ':' ++ .blanks ++ .word,
        .text "as" ++ .blanks1 ++ .word]
    paths := [endingIn [".ts"], endingIn [".tsx"], endingIn ["tsconfig.json"]] }

/-- Python. -/
def python : Framework :=
  { name := "python"
    contents :=
      [.text "from" ++ .blanks1 ++ .word ++ .blanks1 ++ .text "import",
        .text "def" ++ .blanks1 ++ .word ++ .sign '(', .text "class" ++ .blanks1 ++ .word,
        .text "if" ++ .blanks1 ++ .text "__name__" ++ .blanks ++ .text "==" ++ .blanks ++ .quotes ++
          .text "__main__" ++ .quotes ++ .sign ':']
    paths := [endingIn [".py"], endingIn ["requirements.txt"], endingIn ["setup.py"]] }

/-- Flutter. -/
def flutter : Framework :=
  { name := "flutter"
    contents :=
      [.text "import" ++ .blanks1 ++ .quotes ++ .text "flutter", .text "StatelessWidget",
        .text "StatefulWidget", .text "Widget" ++ .blanks1 ++ .text "build"]
    paths := [endingIn [".dart"], endingIn ["pubspec.yaml"]] }

/-- FastAPI. -/
def fastApi : Framework :=
  { name := "fastapi"
    contents :=
      [.text "from" ++ .blanks1 ++ .text "fastapi",
        .text "@app." ++ .anyOf ["get", "post", "put", "delete"], .text "FastAPI()"]
    paths := [endingIn [".py"]] }

/-- Express. -/
def express : Framework :=
  { name := "express"
    contents :=
      [.text "require(" ++ .quotes ++ .text "express" ++ .quotes, .text "app.use(",
        .text "app." ++ .anyOf ["get", "post", "put", "delete"]]
    paths := [endingIn [".js"], endingIn ["package.json"]] }

/-- The tables that are used unless others are given. -/
def Tables.standard : Tables :=
  { languages := knownLanguages
    frameworks := [react, node, typeScript, python, flutter, fastApi, express]
    languageTitles :=
      [("javascript", "JavaScript"), ("typescript", "TypeScript"), ("python", "Python"),
        ("dart", "Dart"), ("go", "Go"), ("html", "HTML"), ("css", "CSS"), ("json", "JSON"),
        ("yaml", "YAML"), ("markdown", "Markdown")]
    icons :=
      [("javascript", "fab fa-js-square"), ("typescript", "fab fa-js-square"),
        ("python", "fab fa-python"), ("dart", "fas fa-mobile-alt"), ("go", "fas fa-code"),
        ("html", "fab fa-html5"), ("css", "fab fa-css3-alt"), ("json", "fas fa-file-code"),
        ("yaml", "fas fa-file-code"), ("markdown", "fab fa-markdown")]
    purposes :=
      [("javascript", ["Frontend", "Backend", "Full-stack"]),
        ("typescript", ["Frontend", "Backend", "Full-stack"]),
        ("python", ["Backend", "Data Science", "Machine Learning"]),
        ("dart", ["Mobile Frontend", "Flutter Apps"]),
        ("go", ["Backend", "Microservices", "System Programming"]),
        ("html", ["Frontend", "Web UI"]), ("css", ["Frontend", "Styling"]),
        ("json", ["Configuration", "Data"]), ("yaml", ["Configuration", "DevOps"]),
        ("markdown", ["Documentation"])]
    frameworkTitles :=
      [("react", "React"), ("nodejs", "Node.js"), ("typescript", "TypeScript"),
        ("python", "Python"), ("flutter", "Flutter"), ("fastapi", "FastAPI"),
        ("express", "Express.js")] }

namespace Tables

/-- The tables with these languages alone, in this order. -/
def withLanguages (tables : Tables) (names : List String) : Tables :=
  { tables with
    languages := names.filterMap fun name => tables.languages.find? fun entry => entry.1 == name }

/-- The tables with these frameworks alone, in this order. -/
def withFrameworks (tables : Tables) (names : List String) : Tables :=
  { tables with
    frameworks := names.filterMap fun name => tables.frameworks.find? fun f => f.name == name }

end Tables

end Restack.Analysis
