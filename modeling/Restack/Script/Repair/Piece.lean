import Restack.Script.Form

/-!
# Pieces of a faulty script

What is left of a script's tree when only its faults matter: how large each part is, what the
repairs in it cost, and where the first of them is.
-/

namespace Restack.Script.Repair

/-- A place in a script. -/
structure Place where
  /-- How many bytes stand before it. -/
  bytes : Nat
  /-- How many line ends stand before it. -/
  lines : Nat
deriving DecidableEq

/-- The beginning of a script. -/
def Place.origin : Place := ⟨0, 0⟩

/-- The place after a text. -/
def Place.past (place : Place) (s : List Char) : Place :=
  s.foldl (fun p c => ⟨p.bytes + c.utf8Size, if c == '\n' then p.lines + 1 else p.lines⟩) place

/-- What a piece is. -/
inductive Nature where
  /-- A unit, or a part that follows the grammar. -/
  | sound
  /-- A unit that was put in. -/
  | missing
  /-- A character that begins no unit. -/
  | unknown
  /-- Parts that were left out. -/
  | fault
  /-- Units that were passed over while no place to go on was found. -/
  | passed
deriving DecidableEq

/-- A part of a script with its repairs. -/
structure Piece where
  nature : Nature
  /-- Whether it is a part of its own in the tree. -/
  shown : Bool
  /-- Comments and faults may stand anywhere. -/
  free : Bool
  /-- The parts of their own directly in it. -/
  inner : Nat
  /-- All parts of their own in it. -/
  nodes : Nat
  /-- What its repairs cost. -/
  cost : Nat
  favour : Int
  /-- Where the blanks before it begin. -/
  lead : Place
  start : Place
  stop : Place
  /-- Where the first fault in it begins. -/
  fault? : Option Place
  /-- What a fault holds. -/
  parts : List Piece

namespace Piece

/-- The cost of a repair as such. -/
def repairCost : Nat := 500

/-- The further cost of a unit that is put in. -/
def missingCost : Nat := 110

/-- The further cost of a part that is left out. -/
def partCost : Nat := 100

/-- The further cost of each line end between parts that are left out. -/
def lineCost : Nat := 30

/-- A unit between two places. -/
def unit (shown free : Bool) (lead start stop : Place) : Piece :=
  ⟨.sound, shown, free, 0, 0, 0, 0, lead, start, stop, none, []⟩

/-- A unit that is put in at a place. -/
def missing (shown : Bool) (place : Place) : Piece :=
  ⟨.missing, shown, false, 0, 0, missingCost + repairCost, 0, place, place, place, some place, []⟩

/-- A character that begins no unit. -/
def unknown (lead start stop : Place) : Piece :=
  ⟨.unknown, true, false, 0, 0, 0, 0, lead, start, stop, some start, []⟩

/-- How much a piece counts as a part that is left out. -/
def loss (piece : Piece) : Nat :=
  if piece.free || piece.nature == .unknown then 0
  else if piece.shown then partCost
  else partCost * piece.inner

/-- How many parts of their own a piece has, itself included, when it stands in another one. -/
def count (dressed : Bool) (piece : Piece) : Nat × Nat :=
  if dressed || piece.shown then (1, piece.nodes + 1) else (piece.inner, piece.nodes)

/-- Whether each piece stands in a guise, by the steps of a line. -/
def dressed : List Step → List Piece → List Bool
  | _, [] => []
  | steps, piece :: rest =>
    if piece.free then false :: dressed steps rest
    else
      match steps with
      | step :: steps => step.manner.guise.isSome :: dressed steps rest
      | [] => false :: dressed [] rest

/-- A piece made of others in order. -/
def group (nature : Nature) (shown : Bool) (favour : Int) (place : Place) (steps : List Step)
    (parts : List Piece) : Piece :=
  let counts := (parts.zip (dressed steps parts)).map fun (part, inGuise) => count inGuise part
  let whole := parts.filter fun part => part.nature != .passed
  let start := (parts.head?.map (·.start)).getD place
  let stop := (parts.getLast?.map (·.stop)).getD place
  let isFault := nature == .fault || nature == .passed
  let lost :=
    if isFault then
      (parts.map loss).foldr (· + ·) 0 + repairCost + (stop.bytes - start.bytes) +
        lineCost * (stop.lines - start.lines)
    else 0
  { nature
    shown
    free := false
    inner := (counts.map (·.1)).foldr (· + ·) 0
    nodes := (counts.map (·.2)).foldr (· + ·) 0
    cost := (whole.map (·.cost)).foldr (· + ·) 0 + lost
    favour := favour + (parts.map (·.favour)).foldr (· + ·) 0
    lead := (parts.head?.map (·.lead)).getD place
    start
    stop
    fault? := if nature == .fault then some start else parts.findSome? (·.fault?)
    parts := if isFault then parts else [] }

/-- Parts that are left out. -/
def fault (place : Place) (parts : List Piece) : Piece :=
  { group .fault true 0 place [] parts with free := true }

/-- Units that are passed over. -/
def passed (parts : List Piece) : Piece := group .passed false 0 .origin [] parts

end Piece

end Restack.Script.Repair
