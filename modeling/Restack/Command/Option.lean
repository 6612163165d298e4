/-!
# Options of commands

How the words of a command line are told apart: options with or without a value, and arguments.
Short options may share a dash, and a value may follow its option in the same word or in the next
one.
-/

namespace Restack.Command

/-- An option that a command takes. -/
structure CommandOption where
  /-- What the option is known by. -/
  name : String
  /-- How it is written, with its dashes. -/
  spellings : List String
  /-- Whether it takes a value. -/
  takesValue : Bool
deriving DecidableEq, Repr

/-- The words of a command line, told apart. -/
structure Words where
  /-- The options that were given; one without a value has an empty text. -/
  given : List (String × String)
  arguments : List String
  /-- Whether help was asked for. -/
  asksHelp : Bool
deriving DecidableEq, Repr

namespace Words

/-- No words. -/
def none : Words := ⟨[], [], false⟩

/-- One more option. The last value of an option counts. -/
def give (name value : String) (words : Words) : Words :=
  { words with given := (name, value) :: words.given }

/-- One more argument. -/
def argue (argument : String) (words : Words) : Words :=
  { words with arguments := words.arguments ++ [argument] }

/-- The value of an option. -/
def value? (name : String) (words : Words) : Option String := words.given.lookup name

/-- Whether an option was given. -/
def has (name : String) (words : Words) : Bool := (words.value? name).isSome

end Words

/-- A word that begins with a dash, taken apart. -/
inductive OptionWord where
  /-- A long spelling, perhaps with a value. -/
  | long (spelling : String) (value : Option String)
  /-- Letters after one dash. -/
  | short (letters : List Char)
deriving DecidableEq, Repr

/-- Takes a word apart that begins with a dash. -/
def OptionWord.ofText (word : List Char) : OptionWord :=
  match word with
  | '-' :: '-' :: _ =>
    let front := word.takeWhile (· != '=')
    let spelling := String.ofList front
    if front.length < word.length then
      .long spelling (some (String.ofList (word.drop (front.length + 1))))
    else .long spelling none
  | _ => .short (word.drop 1)

/-- The option with a spelling. -/
def optionSpelled? (options : List CommandOption) (spelling : String) : Option CommandOption :=
  options.find? (·.spellings.contains spelling)

/-- What letters after one dash give: a letter that takes a value takes the rest as its value, or
the next word, which is then said to be wanted. -/
def readLetters (options : List CommandOption) :
    List Char → Words → Option (Words × Option String)
  | [], words => some (words, none)
  | letter :: rest, words =>
    match optionSpelled? options (String.ofList ['-', letter]) with
    | none => none
    | some option =>
      if !option.takesValue then readLetters options rest (words.give option.name "")
      else if rest.isEmpty then some (words, some option.name)
      else some (words.give option.name (String.ofList rest), none)

/-- What one word with a dash gives, and the option whose value must follow. -/
def readOption (options : List CommandOption) (word : List Char) (words : Words) :
    Option (Words × Option String) :=
  match OptionWord.ofText word with
  | .short letters => readLetters options letters words
  | .long "--help" none => some ({ words with asksHelp := true }, none)
  | .long spelling value? =>
    match optionSpelled? options spelling, value? with
    | none, _ => none
    | some option, some value =>
      if option.takesValue then some (words.give option.name value, none) else none
    | some option, none =>
      if option.takesValue then some (words, some option.name)
      else some (words.give option.name "", none)

/-- Whether a word is an option. -/
def isOption (word : String) : Bool :=
  match word.toList with
  | '-' :: _ :: _ => true
  | _ => false

/-- Tells the words of a command line apart. `wanted` is the option whose value comes next. When
options end with the first argument, the other words are left. -/
def readWords (options : List CommandOption) (optionsEnd : Bool) :
    Option String → List String → Words → Option (Words × List String)
  | none, [], words => some (words, [])
  | some _, [], _ => none
  | some name, value :: rest, words =>
    readWords options optionsEnd none rest (words.give name value)
  | none, word :: rest, words =>
    if word == "--" then
      if optionsEnd then some (words, rest)
      else some ({ words with arguments := words.arguments ++ rest }, [])
    else if isOption word then
      match readOption options word.toList words with
      | none => none
      | some (words, wanted) => readWords options optionsEnd wanted rest words
    else if optionsEnd then some (words, word :: rest)
    else readWords options optionsEnd none rest (words.argue word)

end Restack.Command
