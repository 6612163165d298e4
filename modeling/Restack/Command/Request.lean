import Restack.Command.Option

/-!
# Requests

What a command line asks for. A line that cannot be understood asks for nothing.
-/

namespace Restack.Command

/-- What is asked for. -/
inductive Request where
  /-- What a project is made of. -/
  | analyze (path : String) (asData : Bool)
  /-- A project converted file by file. -/
  | convert (path source : String) (target output : Option String) (withTests overwrite : Bool)
  /-- A project converted to another stack. -/
  | convertStack (path : String) (sourceFrontend targetFrontend sourceBackend targetBackend :
      Option String) (output : Option String) (asData overwrite : Bool)
  /-- What is read of a project. -/
  | parse (path framework mode : String)
  /-- The frameworks that are known. -/
  | frameworks (category : Option String)
  /-- How a command is used. -/
  | help
deriving DecidableEq, Repr

/-- The commands. -/
inductive Verb where
  | analyze | convert | convertStack | parse | frameworks
deriving DecidableEq, Repr

namespace Verb

/-- The command with a name. -/
def ofName? : String → Option Verb
  | "analyze" => some .analyze
  | "convert" => some .convert
  | "convert-stack" => some .convertStack
  | "parse" => some .parse
  | "frameworks" => some .frameworks
  | _ => none

/-- An option with a value. -/
def valued (name : String) (spellings : List String) : CommandOption := ⟨name, spellings, true⟩

/-- An option without a value. -/
def plain (name : String) (spellings : List String) : CommandOption := ⟨name, spellings, false⟩

/-- The options of a command. -/
def options : Verb → List CommandOption
  | .analyze => [plain "json" ["--json"]]
  | .convert =>
    [valued "from" ["--from"], valued "to" ["--to"], valued "output" ["--output", "-o"],
      plain "tests" ["--generate-tests"], plain "yes" ["--yes", "-y"]]
  | .convertStack =>
    [valued "from-frontend" ["--from-frontend"], valued "to-frontend" ["--to-frontend"],
      valued "from-backend" ["--from-backend"], valued "to-backend" ["--to-backend"],
      valued "output" ["--output", "-o"], plain "json" ["--json"], plain "yes" ["--yes", "-y"]]
  | .parse => [valued "framework" ["--framework", "-f"], valued "mode" ["--mode"]]
  | .frameworks => [valued "category" ["--category", "-c"]]

/-- What a command asks for with its words, if they are what it needs. -/
def request? (verb : Verb) (words : Words) : Option Request :=
  if words.asksHelp then some .help
  else
    match verb, words.arguments with
    | .analyze, [path] => some (.analyze path (words.has "json"))
    | .convert, [path] =>
      (words.value? "from").map fun source =>
        .convert path source (words.value? "to") (words.value? "output") (words.has "tests")
          (words.has "yes")
    | .convertStack, [path] =>
      some (.convertStack path (words.value? "from-frontend") (words.value? "to-frontend")
        (words.value? "from-backend") (words.value? "to-backend") (words.value? "output")
        (words.has "json") (words.has "yes"))
    | .parse, [path] =>
      (words.value? "framework").map fun framework =>
        .parse path framework ((words.value? "mode").getD "line")
    | .frameworks, [] => some (.frameworks (words.value? "category"))
    | _, _ => none

/-- What the words after the name of a command ask for. -/
def read? (verb : Verb) (words : List String) : Option Request := do
  let (words, _) ← readWords verb.options false none words .none
  verb.request? words

end Verb

/-- A command line up to the name of the command. -/
structure Line where
  /-- Whether everything that is done is logged. -/
  isVerbose : Bool
  verb : Verb
  /-- The words after the name. -/
  words : List String
deriving DecidableEq, Repr

/-- What a command line comes to at first. -/
inductive Opening where
  | line (line : Line)
  | help
  | notUnderstood
deriving DecidableEq, Repr

/-- Reads a command line up to the name of the command. -/
def Opening.ofWords (words : List String) : Opening :=
  match readWords [Verb.plain "verbose" ["--verbose", "-v"]] true none words .none with
  | none => .notUnderstood
  | some (front, rest) =>
    if front.asksHelp then .help
    else
      match rest with
      | [] => .notUnderstood
      | name :: rest =>
        match Verb.ofName? name with
        | some verb => .line ⟨front.has "verbose", verb, rest⟩
        | none => .notUnderstood

end Restack.Command
