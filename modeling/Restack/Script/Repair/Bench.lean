import Restack.Script.Repair.Attempt

/-!
# Attempts beside each other

The attempts to read a faulty script in the order of their promise, and what has come out of those
that have read it to its end. An attempt that is not sure how to go on gives rise to others; one
whose next unit does not fit looks for a repair: a unit that is put in, or parts that are left out
up to a unit with which it can go on.
-/

namespace Restack.Script.Repair

/-- A reading of the whole script: what its repairs cost, and where the first fault is. -/
structure Result where
  cost : Nat
  favour : Int
  fault? : Option Place

/-- The attempts, and the best of the results so far. -/
structure Bench where
  attempts : List Attempt
  best? : Option Result
  /-- How many results there have been. -/
  results : Nat

namespace Bench

variable (plan : Plan)

/-- The most attempts that are kept from round to round. -/
def capacity : Nat := 6

/-- Replaces an attempt. -/
def set (bench : Bench) (i : Nat) (a : Attempt) : Bench :=
  { bench with attempts := bench.attempts.set i a }

/-- Removes an attempt. -/
def erase (bench : Bench) (i : Nat) : Bench :=
  { bench with attempts := bench.attempts.eraseIdx i }

/-- Whether a result is to be preferred to an earlier one. -/
def improves (result best : Result) : Bool :=
  if result.cost != best.cost then result.cost < best.cost
  else if result.favour != best.favour then best.favour < result.favour
  else 0 < best.cost

/-- Takes the result of an attempt, which is over then. -/
def finish (bench : Bench) (i : Nat) (result : Result) : Bench where
  attempts := bench.attempts.modify i fun a => { a with status := .halted }
  best? := if bench.best?.all (improves result) then some result else bench.best?
  results := bench.results + 1

/-- Joins an attempt to the first of the others that it can be joined to, the one with this number
aside. -/
def joinFrom? (except : Nat) (new : Attempt) : Nat → List Attempt → Option (List Attempt)
  | _, [] => none
  | k, a :: rest =>
    match if k == except then none else a.join? plan new with
    | some joined => some (joined :: rest)
    | none => (joinFrom? except new (k + 1) rest).map (a :: ·)

/-- Adds an attempt that comes from the one with this number, unless it can be joined to another.
Tells whether it was added. -/
def add (bench : Bench) (i : Nat) (new : Attempt) : Bench × Bool :=
  match joinFrom? plan i new 0 bench.attempts with
  | some attempts => ({ bench with attempts := attempts }, false)
  | none => ({ bench with attempts := bench.attempts ++ [new] }, true)

/-- Completes lines in an attempt, each in a new one. Tells whether the latest of them was added. -/
def complete (bench : Bench) (i : Nat) (a : Attempt) (spots : List Nat) : Bench × Bool :=
  spots.foldl
    (fun (bench, _) spot =>
      match a.completeLine plan spot with
      | some new => bench.add plan i new
      | none => (bench, false))
    (bench, false)

/-- Puts the latest attempt in the place of the one that it comes from. -/
def replace (bench : Bench) (i : Nat) : Bench :=
  match bench.attempts.getLast? with
  | some a => { bench with attempts := bench.attempts.dropLast.set i a }
  | none => bench

/-- Whether some other attempt is better than one would be at this cost. -/
def hasBetter (bench : Bench) (i : Nat) (a : Attempt) (cost : Nat) : Bool :=
  (bench.best?.any fun best => best.cost ≤ cost) ||
    let standing : Standing := ⟨cost, a.progress, a.totals.favour, false⟩
    bench.attempts.zipIdx.any fun (other, k) =>
      k != i && other.isActive && a.place.bytes ≤ other.place.bytes &&
        match Judgement.of standing other.standing with
        | .takeRight => true
        | .preferRight => other.canJoin plan a
        | _ => false

/-- The number of the unit in sight, if it is expected in a state. -/
def fits? (state : State) (unit : Terminal) : Option Nat :=
  (plan.number? (.terminal unit)).filter fun number => (plan.expected state).testBit number

/-- The lines that may be completed in a state before a unit, or before any unit, with the symbols
that they stand for told apart, and whether the reading may go on within lines. -/
def possible (state : State) (unit? : Option Nat) : List Nat × Bool :=
  let key (spot : Nat) : Option (Symbol × Nat) :=
    plan.spots[spot]?.map fun line => (line.owner, line.trail.length)
  let closing :=
    state.foldl
      (fun units item => if plan.isEnd item.spot then units ||| item.followers else units) 0
  let ahead := state.foldl (fun units item => units ||| plan.ahead.getD item.spot 0) 0
  let units :=
    match unit? with
    | some unit => if (plan.expected state).testBit unit then [unit] else []
    | none => (plan.units.map Prod.fst).filter fun unit => closing.testBit unit
  units.foldl
    (fun ((spots, goesOn) : List Nat × Bool) unit =>
      let choice := plan.choose state unit
      let new := choice.completed.filter fun spot => !spots.any fun other => key other == key spot
      (spots ++ new, goesOn || choice.next?.isSome))
    ([], unit?.isNone && ahead &&& closing != ahead)

/-- Completes all lines that may be completed in an attempt and in those that come from it, whatever
unit follows, or before one unit. Attempts that cannot go on with that unit are removed. Tells
whether some attempt can. `first` is the number of the first new attempt, `k` that of the next one
to look at. -/
def completeAll (unit? : Option Nat) (start first : Nat) :
    Nat → Nat → Nat → Bool → Bench → Bench × Bool
  | 0, _, _, able, bench => (bench, able)
  | fuel + 1, round, k, able, bench =>
    match bench.attempts[k]? with
    | none => (bench, able)
    | some a =>
      let earlier := (bench.attempts.take k).zipIdx.findSome? fun (other, j) =>
        if first ≤ j then (other.join? plan a).map fun joined => (j, joined) else none
      match earlier with
      | some (j, joined) =>
        completeAll unit? start first fuel (round + 1) k able ((bench.set j joined).erase k)
      | none =>
        let count := bench.attempts.length
        let next := if k == start then count else k + 1
        let (spots, goesOn) :=
          if a.broken?.isSome then ([], false) else possible plan (a.row.state plan) unit?
        let (bench, added) := bench.complete plan k a spots
        if goesOn then completeAll unit? start first fuel (round + 1) next true bench
        else if added && round < capacity then
          completeAll unit? start first fuel (round + 1) k able (bench.replace k)
        else
          let bench := if unit?.isSome then bench.erase k else bench
          completeAll unit? start first fuel (round + 1) next able bench

/-- The bench with a unit put in before the one in sight, if some attempt can go on then. -/
def withMissing? (bench : Bench) (a : Attempt) (unit : Nat) : Option Bench :=
  let state := a.row.state plan
  let names := plan.units.filter fun (_, t) => t == .name
  let others := plan.units.filter fun (_, t) => t != .name
  (names ++ others).findSome? fun (number, t) =>
    if !(plan.expected state).testBit number then none
    else
      match (plan.choose state number).next? with
      | none => none
      | some after =>
        if after == state || !(plan.expected after).testBit unit ||
            (plan.choose after unit).completed.isEmpty then none
        else
          let k := bench.attempts.length
          let piece := Piece.missing t.isShown a.place
          let new := { a with row := a.row.push after piece, status := .active }
          let t :=
            completeAll plan (some unit) k (k + 1) 1000 0 k false
              { bench with attempts := bench.attempts ++ [new] }
          if t.2 then some t.1 else none

/-- The greatest number of pieces that an attempt goes back over. -/
def reach : Nat := 16

/-- The states to which an attempt may go back, the nearest first. -/
def refuges : Nat → List (Row × Nat) → List Refuge → List Refuge
  | 0, _, found => found
  | fuel + 1, rows, found =>
    let near := rows.filter fun (_, depth) => depth ≤ reach
    let found :=
      near.foldl
        (fun found (row, depth) =>
          let state := row.state plan
          if found.any fun r => r.depth == depth && r.state == state then found
          else found ++ [⟨state, row.totals.place, depth⟩])
        found
    let deeper :=
      near.filterMap fun (row, depth) =>
        match row with
        | [] => none
        | cell :: below => some (below, if cell.piece.free then depth else depth + 1)
    if deeper.isEmpty then found else refuges fuel deeper found

/-- Adds the parts of a fault that lies just before. -/
def withFault (parts : List Piece) (row : Row) : List Piece × Row :=
  match row with
  | cell :: below =>
    if cell.piece.nature == .fault then (cell.piece.parts ++ parts, below) else (parts, row)
  | [] => (parts, row)

/-- The attempt that goes back to a state and leaves out what lies after it. -/
def goBack? (a : Attempt) (rows : List Row) (since : List Piece) (state : State) (depth : Nat) :
    Option Attempt :=
  let count := depth - 1 - (since.filter fun piece => !piece.free).length
  rows.findSome? fun row => do
    let (popped, below) ← row.pop? count
    guard (Row.state plan below == state)
    let parts := popped.reverse ++ since.reverse
    let (parts, below) := withFault parts below
    let after := (parts.reverse.takeWhile (·.free)).reverse
    let lost := (parts.reverse.dropWhile (·.free)).reverse
    let fault := if lost.isEmpty then [] else [Piece.fault (Row.totals below).place lost]
    return {
      a with
      row := (fault ++ after).foldl (fun row piece => Row.push row state piece) below
      broken? := none
      status := .active }

/-- The result of an attempt that leaves out the whole script. -/
def resultOfFault (a : Attempt) (since : List Piece) (sight : Sight) : Result :=
  let finish := Piece.unit false true a.place sight.start sight.stop
  let parts := a.row.reverse.map (·.piece) ++ since.reverse ++ [finish]
  let whole := Piece.fault a.place parts
  ⟨whole.cost, whole.favour, whole.fault?⟩

/-- Goes back to the nearest state in which a unit can come next, unless another attempt is there or
would be better. -/
def findRefuge? (bench : Bench) (i : Nat) (a : Attempt) (rows : List Row) (since : List Piece)
    (number : Nat) : List Refuge → Option Attempt
  | [] => none
  | refuge :: rest =>
    let here := a.place
    let isTaken :=
      bench.attempts.any fun b =>
        b.broken?.isNone && b.row.state plan == refuge.state && b.place == here
    let cost :=
      a.cost + Piece.partCost * refuge.depth + (here.bytes - refuge.place.bytes) +
        Piece.lineCost * (here.lines - refuge.place.lines)
    if refuge.place == here || isTaken then findRefuge? bench i a rows since number rest
    else if bench.hasBetter plan i a cost then none
    else if !(plan.expected refuge.state).testBit number then
      findRefuge? bench i a rows since number rest
    else
      let depth := if 0 < a.progress then refuge.depth + 1 else refuge.depth
      match goBack? plan a rows since refuge.state depth with
      | some new => some new
      | none => findRefuge? bench i a rows since number rest

/-- Lets a broken attempt deal with what is in sight: it goes back to a state in which that can come
next, and it also passes over it. -/
def recover (bench : Bench) (i : Nat) (sight : Sight) : Bench :=
  match bench.attempts[i]?.bind fun a => a.broken?.map fun b => (a, b) with
  | none => bench
  | some (a, others, since, refuges) =>
    let here := a.place
    let new? :=
      (sight.unit?.bind fun unit => plan.number? (.terminal unit)).bind fun number =>
        findRefuge? plan bench i a (a.row :: others) since number refuges
    let bench := { bench with attempts := bench.attempts ++ new?.toList }
    if new?.isSome && capacity < bench.attempts.length then bench.set i { a with status := .halted }
    else if sight.unit? == some .finish then bench.finish i (resultOfFault a since sight)
    else
      let cost :=
        a.cost + Piece.partCost + (sight.stop.bytes - here.bytes) +
          Piece.lineCost * (sight.stop.lines - here.lines)
      if bench.hasBetter plan i a cost then bench.set i { a with status := .halted }
      else
        let unit :=
          match sight.unit? with
          | some t => Piece.unit t.isShown false here sight.start sight.stop
          | none => Piece.unknown here sight.start sight.stop
        let skipped := Piece.passed [unit]
        let since :=
          if 0 < a.progress then
            let free := since.takeWhile (·.free)
            let rest := since.dropWhile (·.free)
            Piece.passed ((free ++ rest.take 1).reverse ++ [skipped]) :: rest.drop 1
          else skipped :: since
        bench.set i { a with broken? := some (others, since, refuges), rest := sight.rest }

/-- Begins the repair of an attempt whose next unit does not fit. -/
def mend (bench : Bench) (i : Nat) (a : Attempt) (sight : Sight) : Bench :=
  let before := bench.attempts.length
  let bench := bench.set i { a with status := .active }
  let bench := (completeAll plan none i before 1000 0 i false bench).1
  match bench.attempts[i]? with
  | none => bench
  | some a =>
    let kin := bench.attempts.drop before
    let number? := sight.unit?.bind fun unit => plan.number? (.terminal unit)
    let mended := number?.bind fun unit => (a :: kin).findSome? (withMissing? plan bench · unit)
    let added := (mended.map fun b => b.attempts.drop bench.attempts.length).getD []
    let rows := kin.map (·.row)
    let states := refuges plan 1000 ((a.row :: rows).map fun row => (row, 1)) []
    let broken := { a with broken? := some (rows, [], states), mark := a.totals.nodes }
    recover plan
      { bench with attempts := (bench.attempts.take before).set i broken ++ added } i sight

/-- Whether the line that ends at a place is the whole script. -/
def isWhole (spot : Nat) : Bool :=
  plan.spots[spot]?.map (·.owner) == some (.rule (.node .program))

/-- Goes on with an attempt by the unit in sight. A word that has no meaning of its own where it
stands is a name. -/
def advanceWith (i : Nat) : Nat → Sight → Bench → Bench
  | 0, _, bench => bench
  | fuel + 1, sight, bench =>
    match bench.attempts[i]? with
    | none => bench
    | some a =>
      let state := a.row.state plan
      let paused := bench.set i { a with status := .paused sight }
      match sight.unit?.bind fun t => (fits? plan state t).map fun number => (t, number) with
      | none =>
        let isWord := sight.unit?.any fun t => t matches .word _
        if isWord && (fits? plan state .name).isSome then
          advanceWith i fuel { sight with unit? := some .name } bench
        else paused
      | some (what, number) =>
        let choice := plan.choose state number
        if choice.completed.any (isWhole plan) then
          bench.finish i
            ⟨a.totals.cost, a.totals.favour, a.row.reverse.findSome? fun cell => cell.piece.fault?⟩
        else
          let (bench, added) := bench.complete plan i a choice.completed
          match choice.next? with
          | some next => bench.set i (a.shift what sight next)
          | none =>
            if added then advanceWith i fuel sight (bench.replace i)
            else bench.set i { a with status := .halted }

/-- Goes on with an attempt by what comes next. -/
def advance (bench : Bench) (i : Nat) : Bench :=
  match bench.attempts[i]? with
  | none => bench
  | some a =>
    let (sight, isComment) := a.look plan
    if isComment then
      let piece := Piece.unit true true a.place sight.start sight.stop
      bench.set i (a.withFree plan piece sight.rest)
    else if a.broken?.isSome then bench.recover plan i sight
    else advanceWith plan i 1000 sight bench

/-- Goes on with an attempt until it has come further than to a place that the attempts before it
have come to. -/
def advanceFrom (i : Nat) : Nat → Nat → Bench → Nat × Bench
  | 0, last, bench => (last, bench)
  | fuel + 1, last, bench =>
    match bench.attempts[i]? with
    | none => (last, bench)
    | some a =>
      if !a.isActive then (last, bench)
      else
        let bench := bench.advance plan i
        let bytes := (bench.attempts[i]?.map (·.place.bytes)).getD last
        if last < bytes || (0 < i && bytes == last) then (bytes, bench)
        else advanceFrom i fuel last bench

/-- Goes on with all attempts in order, the new ones included. -/
def advanceAll : Nat → Nat → Nat → Bench → Nat × Bench
  | 0, _, last, bench => (last, bench)
  | fuel + 1, i, last, bench =>
    if bench.attempts.length ≤ i then (last, bench)
    else
      let (last, bench) := advanceFrom plan i 1000 last bench
      advanceAll fuel (i + 1) last bench

/-- Compares an attempt with those before it: it is joined to one of them, given up, or takes the
place of one that is worse. Gives the number of the next attempt to look at. -/
def settleOne (standing : Standing) : Nat → Nat → Nat → Bench → Nat × Bench
  | 0, i, _, bench => (i + 1, bench)
  | fuel + 1, i, j, bench =>
    if i ≤ j then (i + 1, bench)
    else
      match bench.attempts[i]?, bench.attempts[j]? with
      | some a, some b =>
        match Judgement.of b.standing standing with
        | .takeLeft => (i, bench.erase i)
        | .takeRight => settleOne standing fuel (i - 1) j (bench.erase j)
        | judgement =>
          match b.join? plan a with
          | some joined => (i, (bench.set j joined).erase i)
          | none =>
            if judgement == .preferRight then
              settleOne standing fuel i (j + 1) ((bench.set i b).set j a)
            else settleOne standing fuel i (j + 1) bench
      | _, _ => (i + 1, bench)

/-- Puts the attempts in the order of their promise and gives up those that are clearly worse than
others. Gives the least cost of those that are not at fault. -/
def settle : Nat → Nat → Option Nat → Bench → Option Nat × Bench
  | 0, _, least?, bench => (least?, bench)
  | fuel + 1, i, least?, bench =>
    match bench.attempts[i]? with
    | none => (least?, bench)
    | some a =>
      if a.status matches .halted then settle fuel i least? (bench.erase i)
      else
        let standing := a.standing
        let least? :=
          if standing.inFault then least?
          else some (least?.elim standing.cost (min standing.cost))
        let (next, bench) := settleOne plan standing 1000 i 0 bench
        settle fuel next least? bench

/-- Orders the attempts. If the most promising one is paused, it is repaired; the others that are
paused are given up. Gives the least cost of those that go on. -/
def condense (bench : Bench) : Option Nat × Bench :=
  let (least?, bench) := settle plan 1000 0 none bench
  let kept := bench.attempts.take capacity
  let active := { bench with attempts := kept.filter fun a => !a.isPaused }
  match kept with
  | [] => (least?, active)
  | a :: _ =>
    match a.status with
    | .paused sight =>
      if bench.results < capacity then
        (some a.cost, mend plan { bench with attempts := a :: active.attempts } 0 a sight)
      else (least?, active)
    | _ => (least?, active)

/-- Goes on in rounds until there is a result that no attempt can improve. -/
def run : Nat → Nat → Bench → Option Result
  | 0, _, bench => bench.best?
  | fuel + 1, last, bench =>
    let (last, bench) := advanceAll plan 1000 0 last bench
    let (least?, bench) := condense plan bench
    let isDone :=
      bench.attempts.isEmpty ||
        bench.best?.any fun best => least?.all fun least => best.cost < least
    if isDone then bench.best? else run fuel last bench

end Bench

/-- The line of the first fault in a script, when it is repaired at the least cost. -/
def faultyLine (plan : Plan) (s : List Char) : Option Nat :=
  let bench : Bench := ⟨[Attempt.start s], none, 0⟩
  ((Bench.run plan (100 * (s.length + 10)) 0 bench).bind (·.fault?)).map fun place =>
    place.lines + 1

end Restack.Script.Repair
