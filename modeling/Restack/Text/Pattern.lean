import Restack.Text.Blank
import Restack.Text.Word

/-!
# Patterns and where they match

A pattern describes a stretch of text. Alternatives are tried in the order in which they are
written, a repetition takes as much as it can, and a thrifty one as little as it can, as long as the
rest of the pattern still matches. So each pattern matches in at most one way at each place.
-/

namespace Restack.Text

/-- A pattern. -/
inductive Pattern where
  /-- Matches the empty text. -/
  | empty
  /-- One character that satisfies the test. -/
  | one (p : Char → Bool)
  /-- Characters that satisfy the test, as many as possible. -/
  | run (p : Char → Bool)
  /-- Characters that satisfy the test, as few as possible. -/
  | thriftyRun (p : Char → Bool)
  /-- One pattern after the other. -/
  | seq (a b : Pattern)
  /-- The first of two patterns that leads to a match. -/
  | alt (a b : Pattern)
  /-- The pattern any number of times, as often as possible. -/
  | many (a : Pattern)
  /-- The pattern, its text being kept under a number. -/
  | group (n : Nat) (a : Pattern)
  /-- The end of the text, or a line feed that ends the text. -/
  | finish
  /-- A place between a word character and something else. -/
  | wordEdge

namespace Pattern

instance : Append Pattern := ⟨seq⟩

instance : OrElse Pattern := ⟨fun a b => alt a (b ())⟩

/-- A fixed text. -/
def text (s : String) : Pattern :=
  s.toList.foldr (fun c p => seq (one (· == c)) p) empty

/-- One character. -/
def sign (c : Char) : Pattern := one (· == c)

/-- The pattern or nothing. -/
def maybe (a : Pattern) : Pattern := alt a empty

/-- Characters that satisfy the test, at least one and as many as possible. -/
def run1 (p : Char → Bool) : Pattern := seq (one p) (run p)

/-- Characters that satisfy the test, at least one and as few as possible. -/
def thriftyRun1 (p : Char → Bool) : Pattern := seq (one p) (thriftyRun p)

/-- One of the characters of a text. -/
def oneOf (s : String) : Pattern := one (s.toList.contains ·)

/-- A test for the characters that do not stand in a text. -/
def noneOf (s : String) (c : Char) : Bool := !s.toList.contains c

/-- Any number of blanks. -/
def blanks : Pattern := run isBlank

/-- At least one blank. -/
def blanks1 : Pattern := run1 isBlank

/-- A word. -/
def word : Pattern := run1 isWordChar

/-- A capital letter of ASCII. -/
def capital : Pattern := one fun c => 'A' ≤ c && c ≤ 'Z'

/-- A capital letter of ASCII and any letters and digits of ASCII after it. -/
def capitalized : Pattern := seq capital (run fun c => isAsciiLetter c || isAsciiDigit c)

/-- Either kind of quotation mark. -/
def quotes : Pattern := oneOf "'\""

/-- The first of several fixed texts that leads to a match. -/
def anyOf : List String → Pattern
  | [] => one fun _ => false
  | [s] => text s
  | s :: rest => alt (text s) (anyOf rest)

end Pattern

/-- The text of a group and the place where it begins. -/
structure Capture where
  number : Nat
  start : Nat
  text : List Char
deriving Repr

/-- A place in a text: the character before it, the text after it, how many characters stand before
it, and the groups matched on the way there, the latest first. -/
structure Spot where
  before : Option Char
  rest : List Char
  pos : Nat
  captures : List Capture
deriving Repr

namespace Spot

/-- The beginning of a text. -/
def start (s : List Char) : Spot := ⟨none, s, 0, []⟩

/-- The place after the next character. -/
def advance (spot : Spot) (c : Char) (rest : List Char) : Spot :=
  ⟨some c, rest, spot.pos + 1, spot.captures⟩

/-- Whether a word character stands on exactly one side. -/
def atWordEdge (spot : Spot) : Bool :=
  spot.before.any isWordChar != spot.rest.head?.any isWordChar

/-- Whether the text ends here or after a line feed. -/
def atFinish (spot : Spot) : Bool :=
  match spot.rest with
  | [] => true
  | [c] => c == '\n'
  | _ => false

/-- The places reached over characters that satisfy a test, the furthest first. -/
def reach (p : Char → Bool) (spot : Spot) : List Spot :=
  go [] spot spot.rest
where
  /-- Collects the places, the furthest first. -/
  go (done : List Spot) (here : Spot) : List Char → List Spot
    | [] => here :: done
    | c :: rest => if p c then go (here :: done) (here.advance c rest) rest else here :: done

/-- The first place from which the continuation succeeds. -/
def firstOf (next : Spot → Option Spot) : List Spot → Option Spot
  | [] => none
  | spot :: rest =>
    match next spot with
    | some found => some found
    | none => firstOf next rest

/-- Repeats a step as often as possible, then goes on with `next`. A step that stays where it is
ends the repetition. -/
def repeatStep (step : (Spot → Option Spot) → Spot → Option Spot) (next : Spot → Option Spot) :
    Nat → Spot → Option Spot
  | 0, spot => next spot
  | fuel + 1, spot =>
    match step (fun reached =>
        if reached.pos == spot.pos then none else repeatStep step next fuel reached) spot with
    | some found => some found
    | none => next spot

end Spot

namespace Pattern

/-- Matches a pattern at a place and goes on with `next`. -/
def follow : Pattern → (Spot → Option Spot) → Spot → Option Spot
  | .empty, next, spot => next spot
  | .one p, next, spot =>
    match spot.rest with
    | c :: rest => if p c then next (spot.advance c rest) else none
    | [] => none
  | .run p, next, spot => Spot.firstOf next (spot.reach p)
  | .thriftyRun p, next, spot => Spot.firstOf next (spot.reach p).reverse
  | .seq a b, next, spot => a.follow (b.follow next) spot
  | .alt a b, next, spot =>
    match a.follow next spot with
    | some found => some found
    | none => b.follow next spot
  | .many a, next, spot => Spot.repeatStep a.follow next (spot.rest.length + 1) spot
  | .group n a, next, spot =>
    a.follow (fun reached =>
      let text := spot.rest.take (reached.pos - spot.pos)
      let captures := ⟨n, spot.pos, text⟩ :: reached.captures
      next ⟨reached.before, reached.rest, reached.pos, captures⟩) spot
  | .finish, next, spot => if spot.atFinish then next spot else none
  | .wordEdge, next, spot => if spot.atWordEdge then next spot else none

end Pattern

/-- A stretch of text that a pattern matches. -/
structure Match where
  start : Nat
  finish : Nat
  captures : List Capture
deriving Repr

namespace Match

/-- The capture of a group that took part in the match. -/
def capture? (m : Match) (n : Nat) : Option Capture :=
  m.captures.find? fun c => c.number == n

/-- The text of a group that took part in the match. -/
def group? (m : Match) (n : Nat) : Option String :=
  (m.capture? n).map fun c => String.ofList c.text

/-- The text of a group, empty where the group took no part. -/
def group (m : Match) (n : Nat) : String :=
  (m.group? n).getD ""

end Match

namespace Pattern

/-- The match that begins at a place, and the place where it ends. -/
def matchFrom? (p : Pattern) (spot : Spot) : Option (Match × Spot) :=
  (p.follow some { spot with captures := [] }).map fun reached =>
    (⟨spot.pos, reached.pos, reached.captures⟩, reached)

/-- The match at the beginning of a text. -/
def matchStart? (p : Pattern) (s : String) : Option Match :=
  (p.matchFrom? (Spot.start s.toList)).map Prod.fst

/-- The leftmost match from a place on, and the place where it ends. -/
def searchFrom? (p : Pattern) (spot : Spot) : Option (Match × Spot) :=
  go spot spot.rest
where
  /-- Moves on by one character while there is no match. -/
  go (here : Spot) : List Char → Option (Match × Spot)
    | [] => p.matchFrom? here
    | c :: rest =>
      match p.matchFrom? here with
      | some found => some found
      | none => go (here.advance c rest) rest

/-- The leftmost match. -/
def search? (p : Pattern) (s : String) : Option Match :=
  (p.searchFrom? (Spot.start s.toList)).map Prod.fst

/-- Whether the pattern matches somewhere. -/
def occursIn (p : Pattern) (s : String) : Bool :=
  (p.search? s).isSome

/-- The matches from left to right, none of which overlap. -/
def findAll (p : Pattern) (s : String) : List Match :=
  go (s.length + 1) (Spot.start s.toList)
where
  /-- Goes on after each match, by at least one character. -/
  go : Nat → Spot → List Match
    | 0, _ => []
    | fuel + 1, spot =>
      match p.searchFrom? spot with
      | none => []
      | some (found, reached) =>
        if found.finish == found.start then
          match reached.rest with
          | [] => [found]
          | c :: rest => found :: go fuel (reached.advance c rest)
        else found :: go fuel reached

end Pattern

end Restack.Text
