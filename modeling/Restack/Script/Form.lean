import Restack.Script.Rule
import Restack.Script.Terminal

/-!
# Forms

A form says how a part of a script is written: which units and parts follow each other, which
alternatives there are, and what becomes of them in the syntax tree. `Form.lines` tells the ways to
write a form apart: each of them is a row of symbols.
-/

namespace Restack.Script

/-- How a part of a script is written. -/
inductive Form where
  /-- Nothing. -/
  | empty
  /-- A unit. -/
  | unit (t : Terminal)
  /-- What follows a rule. -/
  | rule (r : Rule)
  /-- One form after the other. -/
  | seq (a b : Form)
  /-- One of two forms. -/
  | alt (a b : Form)
  /-- A form any number of times. -/
  | many (a : Form)
  /-- A form whose node has a role. -/
  | label (l : Label) (a : Form)
  /-- A form that stands in a guise. -/
  | renamed (guise : Guise) (a : Form)
  /-- A form that binds in some way. -/
  | bound (tier : Option Tier) (side : Option Side) (a : Form)
  /-- A form that is preferred to others, or, with a negative number, avoided. -/
  | favoured (n : Int) (a : Form)
deriving DecidableEq, Hashable, Repr

/-- What a line is a row of. -/
inductive Symbol where
  | terminal (t : Terminal)
  | rule (r : Rule)
  /-- A form, once or more often. -/
  | repeated (a : Form)
deriving DecidableEq, Hashable, Repr

/-- What the forms around a symbol say about it. -/
structure Manner where
  tier : Option Tier
  side : Option Side
  guise : Option Guise
  label : Option Label
deriving DecidableEq, Repr

/-- A symbol on a line. -/
structure Step where
  symbol : Symbol
  manner : Manner
deriving DecidableEq, Repr

/-- One way to write a form, and how much it is favoured. -/
structure Line where
  steps : List Step
  favour : Int
deriving DecidableEq, Repr

/-- Nothing is said about a symbol. -/
def Manner.plain : Manner := ⟨none, none, none, none⟩

namespace Line

/-- Of two preferences, the stronger one. -/
def stronger (a b : Int) : Int := if a.natAbs < b.natAbs then b else a

/-- One line after another. -/
def append (a b : Line) : Line := ⟨a.steps ++ b.steps, stronger a.favour b.favour⟩

/-- A line of one symbol. -/
def single (symbol : Symbol) (manner : Manner) : Line := ⟨[⟨symbol, manner⟩], 0⟩

end Line

namespace Form

instance : Append Form := ⟨seq⟩

instance : OrElse Form := ⟨fun a b => alt a (b ())⟩

/-- The form or nothing. -/
def maybe (a : Form) : Form := alt a empty

/-- A sign. -/
def sign (text : String) : Form := unit (.sign text)

/-- A word. -/
def word (text : String) : Form := unit (.word text)

/-- One of several units. -/
def oneOf (terminal : String → Terminal) : List String → Form
  | [] => empty
  | [text] => unit (terminal text)
  | text :: rest => alt (unit (terminal text)) (oneOf terminal rest)

/-- One of several words. -/
def words : List String → Form := oneOf .word

/-- One of several signs. -/
def signs : List String → Form := oneOf .sign

/-- A node of its own kind. -/
def node (kind : Kind) : Form := rule (.node kind)

/-- A part that is no node. -/
def part (p : Part) : Form := rule (.part p)

/-- At least one item, with commas between them. -/
def commaList1 (item : Form) : Form := item ++ many (sign "," ++ item)

/-- Items with commas between them. -/
def commaList (item : Form) : Form := maybe (commaList1 item)

/-- A form on a tier. -/
def tiered (t : Tier) (a : Form) : Form := bound (some t) none a

/-- A form on a tier, of which a row is grouped from the left. -/
def leftTiered (t : Tier) (a : Form) : Form := bound (some t) (some .left) a

/-- A form on a tier, of which a row is grouped from the right. -/
def rightTiered (t : Tier) (a : Form) : Form := bound (some t) (some .right) a

/-- A form of which a row is grouped from the left. -/
def leftward (a : Form) : Form := bound none (some .left) a

/-- A form of which a row is grouped from the right. -/
def rightward (a : Form) : Form := bound none (some .right) a

/-- The ways to write a form. -/
def lines (manner : Manner) : Form → List Line
  | .empty => [⟨[], 0⟩]
  | .unit t => [.single (.terminal t) manner]
  | .rule r => [.single (.rule r) manner]
  | .seq a b => (a.lines manner).flatMap fun x => (b.lines manner).map x.append
  | .alt a b => a.lines manner ++ b.lines manner
  | .many a => [.single (.repeated a) manner, ⟨[], 0⟩]
  | .label l a => a.lines { manner with label := some l }
  | .renamed guise a => a.lines { manner with guise := some guise }
  | .bound tier side a =>
    a.lines { manner with tier := tier.or manner.tier, side := side.or manner.side }
  | .favoured n a =>
    (a.lines manner).map fun line => { line with favour := Line.stronger n line.favour }

end Form

/-- The ways to write what a symbol stands for, with the forms of the rules. -/
def Symbol.lines (grammar : Rule → Form) : Symbol → List Line
  | .terminal _ => []
  | .rule r => (grammar r).lines .plain
  | .repeated a =>
    (a.lines .plain).map (Line.append (.single (.repeated a) .plain)) ++ a.lines .plain

/-- The unit that a symbol stands for. -/
def Symbol.terminal? : Symbol → Option Terminal
  | .terminal t => some t
  | _ => none

/-- The rule that a symbol stands for. -/
def Symbol.rule? : Symbol → Option Rule
  | .rule r => some r
  | _ => none

end Restack.Script
