import Restack.Script.Plan
import Restack.Script.Binding

/-!
# States of reading

A state holds the places within lines at which a script may have been read so far, each with the
units that may follow the whole line. It tells which units may come next, and what is done with one
of them: to go on within lines, or to complete a line. Where both can be done, or several lines can
be completed, precedence decides; what it leaves open is tried in all ways.
-/

namespace Restack.Script

/-- A place within a line, and the units that may follow the whole line. -/
structure Item where
  spot : Nat
  followers : Nat
deriving DecidableEq

/-- The places that have been reached, in order. -/
abbrev State := List Item

namespace State

/-- Adds a place to a state. -/
def insert (spot followers : Nat) : State → State
  | [] => [⟨spot, followers⟩]
  | item :: rest =>
    if spot < item.spot then ⟨spot, followers⟩ :: item :: rest
    else if spot == item.spot then ⟨spot, item.followers ||| followers⟩ :: rest
    else item :: insert spot followers rest

/-- Adds several places with the same units after their lines. -/
def insertAll (spots : List Nat) (followers : Nat) (state : State) : State :=
  spots.foldl (fun state spot => state.insert spot followers) state

end State

namespace Plan

/-- The state in which the reading of a rule begins. -/
def startOf (plan : Plan) (rule : Rule) : State :=
  match plan.root? rule, plan.number? (.terminal .finish) with
  | some spot, some finish => [⟨spot, 1 <<< finish⟩]
  | _, _ => []

/-- Whether a line ends at a place. -/
def isEnd (plan : Plan) (spot : Nat) : Bool :=
  (plan.spots[spot]?.bind (·.favour?)).isSome

/-- The units that may come after a place: those that go on with the line, and those that follow it
if it ends there. -/
def after (plan : Plan) (item : Item) : Nat :=
  let ahead := plan.ahead.getD item.spot 0
  if plan.isEnd item.spot then ahead ||| item.followers else ahead

/-- The units that may come next in a state. -/
def expected (plan : Plan) (state : State) : Nat :=
  state.foldl (fun units item => units ||| plan.after item) 0

/-- The moves from a place. -/
def moves (plan : Plan) (spot : Nat) : List (Nat × List Nat) :=
  (plan.spots[spot]?.map (·.moves)).getD []

/-- The state after a symbol: it goes on from the places of a state, or it begins a line of a symbol
that may come next. -/
def advance (plan : Plan) (state : State) (number : Nat) : State :=
  let starters := plan.starters.getD number []
  state.foldl
    (fun new item =>
      let moves := plan.moves item.spot
      let new := new.insertAll ((moves.lookup number).getD []) item.followers
      if starters.isEmpty then new
      else
        moves.foldl
          (fun new (next, spots) =>
            if plan.isUnit next then new
            else
              let outer :=
                spots.foldl (fun units spot => units ||| plan.after ⟨spot, item.followers⟩) 0
              let known := (plan.within.getD next (Thunk.pure ∅)).get
              starters.foldl
                (fun new (inner, begun) =>
                  match known[inner]? with
                  | some f => new.insertAll begun (f.units outer)
                  | none => new)
                new)
          new)
    []

end Plan

/-- Lines that may be completed at a unit, none of which binds tighter than another. -/
structure Completions where
  /-- The places at which they end. -/
  spots : List Nat
  /-- How the last one binds, with the rules of all. -/
  binding : Binding
  /-- The sides from which rows of their forms are grouped. -/
  sides : List (Option Side)

namespace Completions

/-- No lines. -/
def none : Completions := ⟨[], ⟨.none, []⟩, []⟩

/-- Adds a line, unless the others bind tighter. If it binds tighter, they are dropped. -/
def add (done : Completions) (spot : Nat) (step? : Option Step) (rules : List Rule) :
    Completions :=
  let tier := step?.bind (·.manner.tier)
  let side := step?.bind (·.manner.side)
  if done.spots.isEmpty then ⟨[spot], ⟨tier, rules⟩, [side]⟩
  else
    match Binding.compare ⟨tier, rules⟩ done.binding with
    | .gt => ⟨[spot], ⟨tier, rules⟩, [side]⟩
    | .eq =>
      ⟨done.spots ++ [spot], ⟨tier, rules ++ done.binding.rules⟩, side :: done.sides⟩
    | .lt => done

end Completions

/-- What is done with a unit in a state. -/
structure Choice where
  /-- The places at which lines are completed, the preferred ones last. -/
  completed : List Nat
  /-- The state after the unit, if it goes on within lines. -/
  next? : Option State

namespace Plan

/-- The rules that a place belongs to: its own, or none within a repetition. -/
def rulesAt (plan : Plan) (spot : Nat) : List Rule :=
  (plan.spots[spot]?.bind (·.owner.rule?)).toList

/-- The step before a place. -/
def lastStep? (plan : Plan) (spot : Nat) : Option Step :=
  plan.spots[spot]?.bind (·.trail.head?)

/-- The lines that may be completed when a unit follows. -/
def completions (plan : Plan) (state : State) (unit : Nat) : Completions :=
  state.foldl
    (fun done item =>
      if plan.isEnd item.spot && item.followers.testBit unit then
        done.add item.spot (plan.lastStep? item.spot) (plan.rulesAt item.spot)
      else done)
    .none

/-- How the lines bind that have begun and that a unit goes on with. -/
def continued (plan : Plan) (state : State) (unit : Nat) : List Binding :=
  state.filterMap fun item =>
    match plan.lastStep? item.spot with
    | some step =>
      if (plan.ahead.getD item.spot 0).testBit unit then
        some ⟨step.manner.tier, plan.rulesAt item.spot⟩
      else none
    | none => none

/-- Whether the line that ends at a place is at least as much preferred as another one: the longer
line is, and of two that are equally long the one whose rule is. -/
def prefers (plan : Plan) (spot other : Nat) : Bool :=
  let key (spot : Nat) : Nat × Nat :=
    match plan.spots[spot]? with
    | some line =>
      (line.trail.length,
        match line.owner.rule? with
        | some rule => preference.idxOf rule
        | none => 0)
    | none => (0, 0)
  let a := key spot
  let b := key other
  b.1 < a.1 || (a.1 == b.1 && b.2 ≤ a.2)

/-- What is done with a unit in a state. Between completing lines and going on within others, the
tighter form decides; if they bind alike, a row grouped from the left is completed and one grouped
from the right goes on. -/
def choose (plan : Plan) (state : State) (unit : Nat) : Choice :=
  let done := plan.completions state unit
  let completed := done.spots.mergeSort fun spot other => plan.prefers other spot
  let next := plan.advance state unit
  if next.isEmpty then ⟨completed, none⟩
  else if completed.isEmpty then ⟨[], some next⟩
  else
    let orders := (plan.continued state unit).map fun b => b.compare done.binding
    let tighter := orders.contains .gt
    let looser := orders.contains .lt
    if tighter && !looser then ⟨[], some next⟩
    else if looser && !tighter then ⟨completed, none⟩
    else if !tighter && done.sides.all (· == some .left) then ⟨completed, none⟩
    else if !tighter && done.sides.all (· == some .right) then ⟨[], some next⟩
    else ⟨completed, some next⟩

end Plan

end Restack.Script
