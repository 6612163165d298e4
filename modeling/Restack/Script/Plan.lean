import Std.Data.HashMap
import Restack.Script.Grammar

/-!
# Plans of a grammar

A plan is a grammar laid out for reading from left to right. The lines of a symbol that begin alike
share their beginning, so that the places within them form a tree, and the plan tells which units
may come next at a place. Symbols have numbers, and a set of units is a number with their bits.
-/

namespace Restack.Script

/-- A place within the lines of a symbol. -/
structure Spot where
  /-- The symbol that the lines stand for. -/
  owner : Symbol
  /-- The steps before the place, the latest first. -/
  trail : List Step
  /-- The numbers of the symbols that may come next, with the places after them. -/
  moves : List (Nat × List Nat)
  /-- How much the line is favoured that ends here, if one does. -/
  favour? : Option Int

/-- What may follow a symbol at the beginning of another one. -/
structure Followers where
  /-- The units that are known to follow. -/
  known : Nat
  /-- Whether all that follows the other symbol may follow, too. -/
  inherits : Bool
deriving DecidableEq

namespace Followers

/-- What follows is one or the other. -/
def join (a b : Followers) : Followers := ⟨a.known ||| b.known, a.inherits || b.inherits⟩

/-- The units that follow, given those that follow the other symbol. -/
def units (f : Followers) (outer : Nat) : Nat :=
  if f.inherits then f.known ||| outer else f.known

/-- What follows a symbol at the beginning of another one that `outer` tells of. -/
def within (f outer : Followers) : Followers :=
  ⟨f.units outer.known, f.inherits && outer.inherits⟩

end Followers

/-- The symbols of a grammar with their numbers and lines. -/
structure Survey where
  numbers : Std.HashMap Symbol Nat
  rows : Array (Symbol × List Line)

namespace Survey

/-- A survey of nothing. -/
def empty : Survey := ⟨∅, #[]⟩

/-- Adds a symbol, unless it is there. -/
def add (survey : Survey) (symbol : Symbol) (lines : List Line) : Survey :=
  ⟨survey.numbers.insert symbol survey.rows.size, survey.rows.push (symbol, lines)⟩

/-- Adds symbols and all that their lines mention. -/
def collect (grammar : Rule → Form) : Nat → List Symbol → Survey → Survey
  | 0, _, survey => survey
  | _ + 1, [], survey => survey
  | fuel + 1, symbol :: rest, survey =>
    if survey.numbers.contains symbol then collect grammar fuel rest survey
    else
      let lines := symbol.lines grammar
      let mentioned := lines.flatMap fun line => line.steps.map Step.symbol
      collect grammar fuel (mentioned ++ rest) (survey.add symbol lines)

/-- The number of a symbol. -/
def number (survey : Survey) (symbol : Symbol) : Nat :=
  survey.numbers.getD symbol survey.rows.size

/-- The place after a step from a place; it is added if it is new. -/
def follow (survey : Survey) (spots : Array Spot) (here : Nat) (step : Step) :
    Array Spot × Nat :=
  match spots[here]? with
  | none => (spots, here)
  | some spot =>
    let number := survey.number step.symbol
    let after := (spot.moves.lookup number).getD []
    match after.find? fun n => (spots[n]?.bind (·.trail.head?)) == some step with
    | some n => (spots, n)
    | none =>
      let next := spots.size
      let moves := (number, next :: after) :: spot.moves.filter fun move => move.1 != number
      let new : Spot := ⟨spot.owner, step :: spot.trail, [], none⟩
      ((spots.setIfInBounds here { spot with moves }).push new, next)

/-- Lays out a line of the symbol with this number. -/
def layLine (survey : Survey) (number : Nat) (spots : Array Spot) (line : Line) : Array Spot :=
  let (spots, last) :=
    line.steps.foldl (fun (spots, here) step => survey.follow spots here step) (spots, number)
  spots.modify last fun spot => { spot with favour? := some line.favour }

/-- The places of all lines. The place before the lines of a symbol has the symbol's number. -/
def spots (survey : Survey) : Array Spot :=
  let roots := survey.rows.map fun row => (⟨row.1, [], [], none⟩ : Spot)
  (survey.rows.toList.zipIdx).foldl
    (fun spots (row, number) => row.2.foldl (survey.layLine number) spots)
    roots

end Survey

namespace Plan

/-- The units that one of these symbols may begin with, when `first` tells it of each. -/
def begins (first : Array Nat) (moves : List (Nat × List Nat)) : Nat :=
  moves.foldl (fun units move => units ||| first.getD move.1 0) 0

/-- Repeats a step until it changes nothing. -/
def settle (next : Array Nat → Array Nat) : Nat → Array Nat → Array Nat
  | 0, sets => sets
  | fuel + 1, sets =>
    let new := next sets
    if new == sets then sets else settle next fuel new

/-- The units that each symbol may begin with. -/
def firstUnits (survey : Survey) (spots : Array Spot) : Array Nat :=
  let start :=
    survey.rows.mapIdx fun number row => if row.1.terminal?.isSome then 1 <<< number else 0
  let next (first : Array Nat) : Array Nat :=
    first.mapIdx fun number units =>
      match spots[number]? with
      | some spot => units ||| begins first spot.moves
      | none => units
  settle next survey.rows.size start

/-- What may follow each symbol that a symbol's lines begin with. -/
def openings (spots : Array Spot) (ahead : Array Nat) (number : Nat) :
    List (Nat × Followers) :=
  match spots[number]? with
  | none => []
  | some spot =>
    spot.moves.map fun (next, after) =>
      (next,
        after.foldl
          (fun f n =>
            f.join ⟨ahead.getD n 0, (spots[n]?.bind (·.favour?)).isSome⟩)
          ⟨0, false⟩)

/-- Adds what may follow a symbol. A symbol of which more is known than before has to be looked at
again. -/
def learn (known : Std.HashMap Nat Followers) (todo : List Nat) (number : Nat)
    (f : Followers) : Std.HashMap Nat Followers × List Nat :=
  match known[number]? with
  | none => (known.insert number f, number :: todo)
  | some old =>
    let both := old.join f
    if both == old then (known, todo) else (known.insert number both, number :: todo)

/-- Follows the beginnings of lines as deep as they go. -/
def descend (opening : Array (List (Nat × Followers))) :
    Nat → Std.HashMap Nat Followers → List Nat → Std.HashMap Nat Followers
  | 0, known, _ => known
  | _ + 1, known, [] => known
  | fuel + 1, known, number :: todo =>
    let outer := known.getD number ⟨0, false⟩
    let (known, todo) :=
      (opening.getD number []).foldl
        (fun (known, todo) (next, f) => learn known todo next (f.within outer))
        (known, todo)
    descend opening fuel known todo

end Plan

/-- A grammar laid out for reading. -/
structure Plan where
  numbers : Std.HashMap Symbol Nat
  /-- The units with their numbers. -/
  units : List (Nat × Terminal)
  spots : Array Spot
  /-- The units that may come next at each place. -/
  ahead : Array Nat
  /-- The symbols whose lines begin with each symbol, with the places after it. -/
  starters : Array (List (Nat × List Nat))
  /-- What may follow the symbols that a symbol can begin with, however deep. -/
  within : Array (Thunk (Std.HashMap Nat Followers))

namespace Plan

/-- The most steps that laying out a grammar takes. -/
def limit : Nat := 1000000

/-- Lays out a grammar for reading what a rule says. -/
def ofGrammar (grammar : Rule → Form) (start : Rule) : Plan :=
  let survey :=
    Survey.collect grammar limit [.rule start, .terminal .finish] Survey.empty
  let spots := survey.spots
  let first := firstUnits survey spots
  let ahead := spots.map fun spot => begins first spot.moves
  let symbols : List (Nat × Symbol) :=
    survey.rows.toList.zipIdx.map fun (row, number) => (number, row.1)
  let units :=
    symbols.filterMap fun (number, symbol) => symbol.terminal?.map fun t => (number, t)
  let starters :=
    symbols.foldl
      (fun (starters : Array (List (Nat × List Nat))) (number, _) =>
        ((spots[number]?.map (·.moves)).getD []).foldl
          (fun starters (next, after) => starters.modify next ((number, after) :: ·))
          starters)
      (survey.rows.map fun _ => [])
  let opening := survey.rows.mapIdx fun number _ => openings spots ahead number
  let within :=
    survey.rows.mapIdx fun number _ =>
      Thunk.mk fun _ => descend opening limit (.ofList [(number, ⟨0, true⟩)]) [number]
  ⟨survey.numbers, units, spots, ahead, starters, within⟩

/-- The number of a symbol, if the grammar mentions it. -/
def number? (plan : Plan) (symbol : Symbol) : Option Nat := plan.numbers[symbol]?

/-- The place before the lines of a rule. -/
def root? (plan : Plan) (rule : Rule) : Option Nat := plan.number? (.rule rule)

/-- Whether a symbol is a unit. -/
def isUnit (plan : Plan) (number : Nat) : Bool :=
  (plan.spots[number]?.bind (·.owner.terminal?)).isSome

/-- The units that can be told without knowing what is expected. -/
def looseUnits (plan : Plan) : List Terminal :=
  (plan.units.map (·.2)).filter Terminal.isLoose

/-- The units of a set. -/
def terminals (plan : Plan) (set : Nat) : List Terminal :=
  plan.units.filterMap fun (number, t) => if set.testBit number then some t else none

end Plan

/-- The plan of the dialect with markup. -/
def markupPlan : Plan := .ofGrammar (grammar .markup) (.node .program)

/-- The plan of the dialect without markup. -/
def plainPlan : Plan := .ofGrammar (grammar .plain) (.node .program)

/-- The plan of a dialect. -/
def Dialect.plan : Dialect → Plan
  | .markup => markupPlan
  | .plain => plainPlan

end Restack.Script
