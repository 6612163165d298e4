import Restack.Script.Repair.Bench

/-!
# Reading a script

A script is read from left to right. What has been read lies in a row of frames, each of which holds
a symbol's part of the tree and the state after it. Where precedence leaves open what to do, the
reading goes on in several ways side by side, which are joined where they meet. The most favoured
one that comes to the end gives the tree. A script that cannot be read to its end is blamed on the
line of its first fault.
-/

namespace Restack.Script

namespace Tree

/-- A unit as a part of the tree. Ends without a text of their own are no parts. -/
def ofUnit (what : Terminal) (text : List Char) : List Tree :=
  match what.kind? with
  | some kind => [.node kind none [.token (String.ofList text)]]
  | none => if text.isEmpty then [] else [.token (String.ofList text)]

/-- Blanks as parts of the tree. -/
def ofBlank (blank : List Char) : List Tree :=
  if blank.isEmpty then [] else [.blank (String.ofList blank)]

/-- The parts that a symbol stands for, given the parts of its line. Both have the latest first. -/
def ofLine (owner : Symbol) (parts : List Tree) : List Tree :=
  match owner with
  | .rule (.node kind) => if kind.isUnit then parts else [.node kind none parts.reverse]
  | _ => parts

/-- Whether a part is a single word or unit. -/
def isSingle : Tree → Bool
  | .token _ => true
  | .node _ _ [.token _] => true
  | _ => false

/-- Parts in a guise. What is more than one word cannot pass for a word. -/
def inGuise (guise : Guise) (parts : List Tree) : List Tree :=
  match parts with
  | [.node kind label children] =>
    if guise.isWord && !isSingle (.node kind label children) then parts
    else [.node guise.kind label children]
  | _ =>
    if guise.isWord && !(parts.length == 1 && parts.all isSingle) then parts
    else [.node guise.kind none parts.reverse]

/-- Parts that play the role and have the guise of a step. -/
def atStep (step : Step) (parts : List Tree) : List Tree :=
  let parts :=
    match step.manner.guise with
    | some guise => inGuise guise parts
    | none => parts
  match step.manner.label, parts with
  | some label, [part] => [part.withLabel label]
  | _, _ => parts

end Tree

/-- A symbol that has been read. -/
structure Frame where
  symbol : Symbol
  /-- The state after it. -/
  state : State
  /-- Blanks and comments before it, the latest first. -/
  before : List Tree
  /-- Its parts of the tree, the latest first. -/
  parts : List Tree

namespace Frame

/-- The parts of the latest frames, if they hold the symbols of a line. What stands before the first
of them is left out. -/
def gather : List Frame → List Step → Option (List Tree)
  | _, [] => some []
  | [], _ :: _ => none
  | frame :: rest, step :: steps =>
    if frame.symbol == step.symbol then
      let parts := Tree.atStep step frame.parts
      if steps.isEmpty then some parts
      else (gather rest steps).map fun earlier => parts ++ frame.before ++ earlier
    else none

/-- Whether two rows of frames are in the same states. -/
def alike : List Frame → List Frame → Bool
  | [], [] => true
  | a :: as, b :: bs => a.state == b.state && alike as bs
  | _, _ => false

end Frame

/-- The unit that comes next, with blanks and comments before it, the latest first. -/
structure Lookahead where
  before : List Tree
  unit : Found Terminal
  /-- How many characters of the script there are up to its end. -/
  stop : Nat

/-- One way in which a script is being read. -/
structure Reading where
  /-- What has been read, the latest first. -/
  frames : List Frame
  /-- The unit that comes next, if it is known. -/
  ahead? : Option Lookahead
  /-- How much the lines are favoured that have been completed. -/
  favour : Int
  /-- How many characters of the script have been read. -/
  place : Nat
  /-- What is left of the script. -/
  rest : List Char

/-- What a step of reading leads to. -/
inductive Outcome where
  /-- The reading goes on in one way, and in others. -/
  | onward (first : Reading) (others : List Reading)
  /-- The script has been read. -/
  | complete (tree : Tree)
  /-- The script cannot be read further. -/
  | stuck

namespace Reading

variable (plan : Plan)

/-- The state that a row of frames leads to. -/
def stateAfter (frames : List Frame) : State :=
  match frames with
  | frame :: _ => frame.state
  | [] => plan.startOf (.node .program)

/-- The next unit in a script after a place, with what stands before it. -/
def look (expected : List Terminal) : Nat → Nat → List Tree → List Char → Option Lookahead
  | 0, _, _, _ => none
  | fuel + 1, place, before, s =>
    match Token.next? expected s with
    | none => none
    | some (.unit found) => some ⟨Tree.ofBlank found.blank ++ before, found, place + found.length⟩
    | some (.comment found) =>
      let comment := Tree.node found.what none [.token (String.ofList found.text)]
      look expected fuel (place + found.length) (comment :: (Tree.ofBlank found.blank ++ before))
        found.rest

/-- The unit as it is taken in a state, and its number: a word that has no meaning of its own there
is a name. -/
def unitIn? (state : State) (what : Terminal) : Option (Terminal × Nat) :=
  let expected := plan.expected state
  let fits (t : Terminal) : Option (Terminal × Nat) :=
    ((plan.number? (.terminal t)).filter fun number => expected.testBit number).map (t, ·)
  match what with
  | .word _ => (fits what).or (fits .name)
  | _ => fits what

/-- The reading after a unit. -/
def shift (reading : Reading) (ahead : Lookahead) (what : Terminal) (state : State) : Reading :=
  let frame : Frame :=
    ⟨.terminal what, state, ahead.before, Tree.ofUnit what ahead.unit.text⟩
  { frames := frame :: reading.frames
    ahead? := none
    favour := reading.favour
    place := ahead.stop
    rest := ahead.unit.rest }

/-- The reading after the line that ends at a place has been completed. -/
def completeLine (reading : Reading) (spot : Nat) : Option Reading := do
  let line ← plan.spots[spot]?
  let number ← plan.number? line.owner
  let count := line.trail.length
  let below := reading.frames.drop count
  let first ← reading.frames[count - 1]?
  let parts ← Frame.gather reading.frames line.trail
  let frame : Frame :=
    { symbol := line.owner
      state := plan.advance (stateAfter plan below) number
      before := first.before
      parts := Tree.ofLine line.owner parts }
  return {
    reading with
    frames := frame :: below
    favour := reading.favour + line.favour?.getD 0 }

/-- The whole tree, with what stands before and after it. -/
def program (reading : Reading) (ahead : Lookahead) : Tree :=
  let parts := reading.frames.flatMap fun frame => frame.parts ++ frame.before
  .node .program none (ahead.before ++ parts).reverse

/-- Whether a place is the end of the whole script. -/
def isProgram (spot : Nat) : Bool :=
  plan.spots[spot]?.map (·.owner) == some (.rule (.node .program))

/-- A step of reading, with the unit that comes next. -/
def stepWith (reading : Reading) (ahead : Lookahead) : Outcome :=
  let state := stateAfter plan reading.frames
  match unitIn? plan state ahead.unit.what with
  | none => .stuck
  | some (what, number) =>
    let choice := plan.choose state number
    if choice.completed.any (isProgram plan) then .complete (reading.program ahead)
    else
      let completed := choice.completed.filterMap (reading.completeLine plan)
      match choice.next? with
      | some next =>
        .onward (reading.shift ahead what next)
          (completed.map fun r => { r with ahead? := none })
      | none =>
        match completed.reverse with
        | [] => .stuck
        | last :: others =>
          .onward { last with ahead? := some ahead }
            (others.reverse.map fun r => { r with ahead? := none })

/-- A step of reading. -/
def step (reading : Reading) : Outcome :=
  match reading.ahead? with
  | some ahead => reading.stepWith plan ahead
  | none =>
    let expected := plan.terminals (plan.expected (stateAfter plan reading.frames))
    match look expected (reading.rest.length + 1) reading.place [] reading.rest with
    | some ahead => reading.stepWith plan ahead
    | none => .stuck

/-- Whether two readings have come to the same point. -/
def meets (a b : Reading) : Bool := a.place == b.place && Frame.alike a.frames b.frames

/-- Adds a reading to others. Of two that meet, the more favoured one is kept. -/
def join (reading : Reading) : List Reading → List Reading
  | [] => [reading]
  | other :: rest =>
    if reading.meets other then
      (if other.favour < reading.favour then reading else other) :: rest
    else other :: join reading rest

/-- The most readings that are followed side by side. -/
def limit : Nat := 24

/-- The readings that are followed further: of those that meet only one, and the most favoured ones
first. -/
def settled (readings : List Reading) : List Reading :=
  let joined := readings.foldl (fun others reading => reading.join others) []
  (joined.mergeSort fun a b => b.favour ≤ a.favour).take limit

/-- The more favoured of a tree that has been found before and another one. -/
def better (best? : Option (Int × Tree)) (favour : Int) (tree : Tree) : Option (Int × Tree) :=
  if best?.all fun best => best.1 < favour then some (favour, tree) else best?

/-- Goes on with readings until they have come past a place; other ways of reading follow behind.
`past` are those that have done so, the latest first. -/
def pass (place : Nat) : Nat → List Reading → List Reading → Option (Int × Tree) →
    List Reading × Option (Int × Tree)
  | 0, _, past, best? => (past.reverse, best?)
  | _ + 1, [], past, best? => (past.reverse, best?)
  | fuel + 1, reading :: readings, past, best? =>
    if place < reading.place then pass place fuel readings (reading :: past) best?
    else
      match reading.step plan with
      | .complete tree => pass place fuel readings past (better best? reading.favour tree)
      | .stuck => pass place fuel readings past best?
      | .onward first others => pass place fuel (first :: (readings ++ others)) past best?

/-- Follows all ways of reading to their ends, and gives the most favoured tree. -/
def follow : Nat → List Reading → Option (Int × Tree) → Option (Int × Tree)
  | 0, _, best? => best?
  | fuel + 1, readings, best? =>
    match (readings.map (·.place)).min? with
    | none => best?
    | some place =>
      let (readings, best?) := pass plan place fuel readings [] best?
      follow fuel (settled readings) best?

end Reading

/-- The parser that reads scripts by the grammar. Of a script with faults it only tells where the
first of them is. -/
def parse : Parser := fun dialect code =>
  let s := code.toList
  let start : Reading := ⟨[], none, 0, 0, s⟩
  match Reading.follow dialect.plan (1000 * (s.length + 10)) [start] none with
  | some (_, tree) => .ok tree
  | none => .error (.node ((Repair.faultyLine dialect.plan s).getD 1) true [])

end Restack.Script
