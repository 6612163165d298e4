import Restack.Script.Repair.Piece
import Restack.Script.State
import Restack.Script.Token

/-!
# Attempts to read a faulty script

An attempt has read a script up to some place, with repairs. When its next unit does not fit, it is
broken: it then looks for a unit with which it can go on from an earlier state, and what lies
between is left out. Attempts are compared by what their repairs cost and by how far they have come
since.
-/

namespace Restack.Script.Repair

/-- What an attempt has come to. -/
structure Totals where
  place : Place
  cost : Nat
  /-- The parts of their own that have been read. -/
  nodes : Nat
  favour : Int

namespace Totals

/-- Nothing has been read. -/
def zero : Totals := ⟨.origin, 0, 0, 0⟩

/-- Takes a piece into account. -/
def add (totals : Totals) (piece : Piece) : Totals where
  place := piece.stop
  cost := totals.cost + piece.cost
  nodes :=
    totals.nodes + piece.nodes + (if piece.shown then 1 else 0) +
      (if piece.nature == .passed then 1 else 0)
  favour := totals.favour + piece.favour

end Totals

/-- A piece that has been read, the state after it, and what the attempt has come to. -/
structure Cell where
  state : State
  piece : Piece
  totals : Totals

/-- A row of pieces, the latest first. -/
abbrev Row := List Cell

namespace Row

/-- What a row comes to. -/
def totals (row : Row) : Totals := (row.head?.map (·.totals)).getD .zero

/-- The state that a row leads to. -/
def state (plan : Plan) (row : Row) : State :=
  match row with
  | cell :: _ => cell.state
  | [] => plan.startOf (.node .program)

/-- Adds a piece. -/
def push (row : Row) (state : State) (piece : Piece) : Row :=
  ⟨state, piece, row.totals.add piece⟩ :: row

/-- The latest pieces, so many of them, and the row before them. Comments and faults between them
are not counted. -/
def pop? : Nat → Row → Option (List Piece × Row)
  | 0, row => some ([], row)
  | _ + 1, [] => none
  | count + 1, cell :: below =>
    (pop? (if cell.piece.free then count + 1 else count) below).map fun t =>
      (cell.piece :: t.1, t.2)

/-- Whether two rows are in the same states at the same places. -/
def alike : Row → Row → Bool
  | [], [] => true
  | a :: as, b :: bs =>
    a.state == b.state && a.totals.place == b.totals.place && alike as bs
  | _, _ => false

end Row

/-- What comes next for an attempt. -/
structure Sight where
  /-- The unit, or nothing if a character begins none. -/
  unit? : Option Terminal
  start : Place
  stop : Place
  /-- What follows it. -/
  rest : List Char

/-- A state that a broken attempt may go back to. -/
structure Refuge where
  state : State
  place : Place
  /-- How many pieces lie after it. -/
  depth : Nat

/-- How an attempt is doing. -/
inductive Status where
  | active
  /-- What comes next does not fit. -/
  | paused (sight : Sight)
  | halted

/-- An attempt to read a script. -/
structure Attempt where
  row : Row
  /-- Of a broken attempt: the rows besides the first, the pieces since, the latest first, and the
  states to go back to. -/
  broken? : Option (List Row × List Piece × List Refuge)
  rest : List Char
  status : Status
  /-- The parts of their own that had been read at the latest repair. -/
  mark : Nat

/-- How an attempt stands beside others. -/
structure Standing where
  cost : Nat
  progress : Nat
  favour : Int
  inFault : Bool

/-- Which of two attempts is the better one, and whether the other is given up for it. -/
inductive Judgement where
  | takeLeft | preferLeft | even | preferRight | takeRight
deriving DecidableEq

namespace Judgement

/-- How much worse an attempt may be, times its progress, before it is given up. -/
def tolerance : Nat := 1800

/-- Judges two attempts by their standing. -/
def of (a b : Standing) : Judgement :=
  if !a.inFault && b.inFault then if a.cost < b.cost then takeLeft else preferLeft
  else if a.inFault && !b.inFault then if b.cost < a.cost then takeRight else preferRight
  else if a.cost < b.cost then
    if tolerance < (b.cost - a.cost) * (1 + a.progress) then takeLeft else preferLeft
  else if b.cost < a.cost then
    if tolerance < (a.cost - b.cost) * (1 + b.progress) then takeRight else preferRight
  else if b.favour < a.favour then preferLeft
  else if a.favour < b.favour then preferRight
  else even

end Judgement

namespace Attempt

/-- An attempt that has read nothing. -/
def start (s : List Char) : Attempt := ⟨[], none, s, .active, 0⟩

/-- Whether an attempt can go on. -/
def isActive (a : Attempt) : Bool := a.status matches .active

/-- Whether what comes next does not fit. -/
def isPaused (a : Attempt) : Bool := a.status matches .paused _

/-- What an attempt has come to. -/
def totals (a : Attempt) : Totals :=
  match a.broken? with
  | some (_, since, _) => since.foldr (fun piece totals => totals.add piece) a.row.totals
  | none => a.row.totals

/-- The place that an attempt has come to. -/
def place (a : Attempt) : Place := a.totals.place

/-- What the repairs cost, one that is being made included. -/
def cost (a : Attempt) : Nat :=
  let fresh :=
    match a.broken? with
    | some (_, since, _) => since.isEmpty
    | none => false
  a.totals.cost + if a.isPaused || fresh then Piece.repairCost else 0

/-- The parts of their own that have been read since the latest repair. -/
def progress (a : Attempt) : Nat := a.totals.nodes - a.mark

/-- How an attempt stands beside others. -/
def standing (a : Attempt) : Standing :=
  ⟨a.cost + (if a.isPaused then Piece.partCost else 0), a.progress, a.totals.favour,
    a.isPaused || a.broken?.isSome⟩

/-- Whether two attempts have come to the same state and place at the same cost. -/
def canJoin (plan : Plan) (a b : Attempt) : Bool :=
  a.isActive && b.isActive && a.place == b.place && a.totals.cost == b.totals.cost &&
    match a.broken?, b.broken? with
    | none, none => a.row.state plan == b.row.state plan
    | some (_, since, _), some (_, since', _) => since.isEmpty == since'.isEmpty
    | _, _ => false

/-- Two attempts as one, if they have read alike or are broken alike. -/
def join? (plan : Plan) (a b : Attempt) : Option Attempt :=
  if !a.canJoin plan b then none
  else
    match a.broken?, b.broken? with
    | some (rows, since, refuges), some (rows', _, _) =>
      some { a with
        broken? := some (rows ++ b.row :: rows', since, refuges)
        mark := a.totals.nodes }
    | _, _ =>
      if a.row.alike b.row then
        some
          (if a.totals.favour < b.totals.favour then { a with row := b.row, mark := b.mark } else a)
      else none

/-- Whether the latest piece that was read after a repair has any text. Before that, places where a
statement ends without a semicolon are not looked for. -/
def hasAdvanced (a : Attempt) : Bool :=
  a.totals.cost == 0 || advancedIn a.mark a.row
where
  /-- Whether the latest piece of a row has any text, empty ones without faults aside. -/
  advancedIn (mark : Nat) : Row → Bool
    | [] => false
    | cell :: below =>
      cell.piece.lead.bytes < cell.piece.stop.bytes ||
        (mark < cell.totals.nodes && cell.piece.cost == 0 && advancedIn mark below)

/-- An attempt with a comment or another piece that may stand anywhere. -/
def withFree (plan : Plan) (a : Attempt) (piece : Piece) (rest : List Char) : Attempt :=
  match a.broken? with
  | some (rows, since, refuges) =>
    { a with broken? := some (rows, piece :: since, refuges), rest := rest }
  | none => { a with row := a.row.push (a.row.state plan) piece, rest := rest }

/-- An attempt after the line that ends at a place has been completed. Comments at its end stay
outside. -/
def completeLine (plan : Plan) (a : Attempt) (spot : Nat) : Option Attempt := do
  let line ← plan.spots[spot]?
  let number ← plan.number? line.owner
  let (popped, below) ← a.row.pop? line.trail.length
  let after := popped.takeWhile (·.free)
  let parts := (popped.dropWhile (·.free)).reverse
  let state := plan.advance (below.state plan) number
  guard !state.isEmpty
  let shown := line.owner matches .rule (.node _)
  let piece :=
    Piece.group .sound shown (line.favour?.getD 0) below.totals.place line.trail.reverse parts
  let row := after.foldr (fun piece row => Row.push row state piece) (below.push state piece)
  return { a with row := row }

/-- An attempt that goes on with a unit. -/
def shift (a : Attempt) (what : Terminal) (sight : Sight) (state : State) : Attempt :=
  let piece := Piece.unit what.isShown false a.place sight.start sight.stop
  { a with row := a.row.push state piece, rest := sight.rest }

/-- What comes next: a comment, or something else. -/
def look (plan : Plan) (a : Attempt) : Sight × Bool :=
  let here := a.place
  let sight {α : Type} (unit? : Option Terminal) (found : Found α) : Sight :=
    let start := here.past found.blank
    ⟨unit?, start, start.past found.text, found.rest⟩
  let loose (asNames : Bool) : Sight × Bool :=
    match Token.ordinary plan.looseUnits a.rest with
    | some (.unit found) =>
      let what :=
        match found.what with
        | .word w => if asNames then .name else .word w
        | what => what
      (sight (some what) found, false)
    | some (.comment found) => (sight none found, true)
    | none =>
      let blank := a.rest.takeWhile Lexeme.isSpace
      let rest := a.rest.dropWhile Lexeme.isSpace
      (sight none (⟨(), blank, rest.take 1, rest.drop 1⟩ : Found Unit), false)
  if a.broken?.isSome then loose false
  else
    let expected := plan.terminals (plan.expected (a.row.state plan))
    let special :=
      match Token.special expected a.rest with
      | some (.unit found) =>
        if found.text.isEmpty && !a.hasAdvanced then none else some (Next.unit found)
      | next => next
    match special.or (Token.plain? expected a.rest) with
    | some (.unit found) => (sight (some found.what) found, false)
    | some (.comment found) => (sight none found, true)
    | none => loose true

end Attempt

end Restack.Script.Repair
