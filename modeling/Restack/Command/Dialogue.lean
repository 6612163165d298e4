import Restack.Text.Blank
import Restack.Text.Case
import Restack.Workspace.Tree

/-!
# Dialogues

What a command says, asks, looks at and writes, as a tree whose branches are the answers. A dialogue
can be rehearsed in a workspace that is held in memory, with the lines of an input as answers.
-/

namespace Restack.Command

open Restack.Text Restack.Workspace

/-- Where something is said. -/
inductive Channel where
  | output | error
deriving DecidableEq, Repr

/-- A dialogue that comes to something, or ends with a code. -/
inductive Dialogue (α : Type) where
  | result (value : α)
  /-- Ends everything with a code. -/
  | stop (code : Nat)
  /-- Says a line. -/
  | say (channel : Channel) (line : String) (next : Dialogue α)
  /-- Looks at a place. -/
  | look (path : String) (next : Source → Dialogue α)
  /-- Asks whether something is at a place. -/
  | isThere (path : String) (next : Bool → Dialogue α)
  /-- Asks for a yes or a no; without an answer everything ends. -/
  | confirm (question : String) (next : Bool → Dialogue α)
  /-- Writes a file, and tells whether that was possible. -/
  | save (path : String) (data : ByteArray) (next : Bool → Dialogue α)

namespace Dialogue

variable {α β : Type}

/-- A dialogue that goes on with what another comes to. -/
def andThen (f : α → Dialogue β) : Dialogue α → Dialogue β
  | .result value => f value
  | .stop code => .stop code
  | .say channel line next => .say channel line (andThen f next)
  | .look path next => .look path fun source => andThen f (next source)
  | .isThere path next => .isThere path fun there => andThen f (next there)
  | .confirm question next => .confirm question fun answer => andThen f (next answer)
  | .save path data next => .save path data fun saved => andThen f (next saved)

instance : Monad Dialogue where
  pure := .result
  bind dialogue f := dialogue.andThen f

/-- Says a line on the output. -/
def tell (line : String) : Dialogue Unit := .say .output line (.result ())

/-- Says a line on the error channel. -/
def complain (line : String) : Dialogue Unit := .say .error line (.result ())

/-- Ends everything with the reason on the error channel. -/
def fail (reason : String) : Dialogue α :=
  .say .error ("[stackshift] Error: " ++ reason) (.stop 1)

end Dialogue

/-- The answer that a line gives; an empty line is a no. -/
def answerOf? (line : String) : Option Bool :=
  match trimmed (lowered line) with
  | "y" | "yes" => some true
  | "n" | "no" | "" => some false
  | _ => none

/-- The question as it is put. -/
def promptOf (question : String) : String := question ++ " [y/N]: "

/-- What is said to a line that gives no answer. -/
def notAnAnswer : String := "Error: invalid input"

/-- What is said when the input ends before an answer. -/
def aborted : String := "Aborted."

/-- The lines of an input. -/
def inputLines (text : String) : List String :=
  let lines := go false text.toList
  (if lines.getLast? == some [] then lines.dropLast else lines).map String.ofList
where
  /-- The lines after a carriage return, or after something else. -/
  go (afterReturn : Bool) : List Char → List (List Char)
    | [] => [[]]
    | '\n' :: rest => if afterReturn then go false rest else [] :: go false rest
    | '\r' :: rest => [] :: go true rest
    | c :: rest =>
      match go false rest with
      | [] => [[c]]
      | line :: lines => (c :: line) :: lines

/-- What a rehearsal has come to. -/
structure Scene where
  tree : Tree
  /-- The lines of the input that have not been read. -/
  lines : List String
  output : String
  error : String

namespace Scene

/-- Says something. -/
def say (channel : Channel) (text : String) (scene : Scene) : Scene :=
  match channel with
  | .output => { scene with output := scene.output ++ text }
  | .error => { scene with error := scene.error ++ text }

/-- Puts a question, to each of the lines in turn, until one of them is an answer. What is typed is
seen on the output. -/
def ask (question : String) : List String → Scene → Option Bool × Scene
  | [], scene => (none, { scene.say .output (promptOf question) with lines := [] })
  | line :: rest, scene =>
    let scene := scene.say .output (promptOf question ++ line ++ "\n")
    match answerOf? line with
    | some answer => (some answer, { scene with lines := rest })
    | none => ask question rest (scene.say .output (notAnAnswer ++ "\n"))

end Scene

/-- The code that a dialogue ends with in a scene, and the scene at its end. -/
def Dialogue.rehearse : Dialogue Unit → Scene → Nat × Scene
  | .result (), scene => (0, scene)
  | .stop code, scene => (code, scene)
  | .say channel line next, scene => rehearse next (scene.say channel (line ++ "\n"))
  | .look path next, scene => rehearse (next (scene.tree.look path)) scene
  | .isThere path next, scene =>
    rehearse (next (scene.tree.find? (Location.ofText path)).isSome) scene
  | .confirm question next, scene =>
    match scene.ask question scene.lines with
    | (some answer, scene) => rehearse (next answer) scene
    | (none, scene) => (1, scene.say .error (aborted ++ "\n"))
  | .save path data next, scene =>
    match scene.tree.save? path data with
    | some tree => rehearse (next true) { scene with tree }
    | none => rehearse (next false) scene

end Restack.Command
