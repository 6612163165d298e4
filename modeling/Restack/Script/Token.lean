import Restack.Script.Ending
import Restack.Script.Terminal

/-!
# The next unit of a script

Which unit comes next depends on the units that are expected. Units that blanks would break up, and
places where something ends, come first; otherwise the longest unit counts, and a word with a
meaning of its own has it only where it is expected.
-/

namespace Restack.Script

/-- A unit at the front of a text: the blanks before it, its own text, and what follows. -/
structure Found (α : Type) where
  what : α
  blank : List Char
  text : List Char
  rest : List Char

/-- How many characters a unit has with the blanks before it. -/
def Found.length {α : Type} (found : Found α) : Nat := found.blank.length + found.text.length

/-- What comes next in a script: a unit, or a comment of some kind. -/
inductive Next where
  | unit (found : Found Terminal)
  | comment (found : Found Kind)

namespace Token

/-- A unit that a reader takes from the front of a text, after some blanks. -/
def taken {α : Type} (what : α) (blank : List Char) (t : Taken) : Option (Found α) :=
  t.map fun (text, rest) => ⟨what, blank, text, rest⟩

/-- The question mark of a choice between two values: it is no part of another sign, and more
follows than the mark of a property that may be missing. -/
def choiceMark (s : List Char) : Option (Found Terminal) :=
  let blank := s.takeWhile Lexeme.isGap
  match s.dropWhile Lexeme.isGap with
  | '?' :: rest =>
    let more : Bool :=
      match rest with
      | '?' :: _ => false
      | '.' :: after => after.head?.any Text.isAsciiDigit
      | _ => !(rest.dropWhile Lexeme.isGap).head?.any fun c => c == ':' || c == ')' || c == ','
    if more then some ⟨.choiceMark, blank, ['?'], rest⟩ else none
  | _ => none

/-- An end of a statement without a semicolon, or the mark of a choice where the search for one
stops. -/
def statementEnd (expected : List Terminal) (s : List Char) : Option (Found Terminal) :=
  let signature := expected.contains .signatureEnd
  let e := Ending.find signature (expected.contains (.sign "||")) s
  if e.ends then some ⟨.statementEnd, [], [], s⟩
  else if !e.comment && expected.contains .choiceMark && e.rest.head? == some '?' then
    (choiceMark e.rest).map fun found =>
      { found with blank := s.take (s.length - e.rest.length) }
  else none

/-- A comment as pages have them, after blanks. -/
def pageComment (s : List Char) : Option (Found Kind) :=
  let isBlank (c : Char) : Bool := Lexeme.isGap c || Lexeme.endsLine c
  taken .htmlComment (s.takeWhile isBlank) (Lexeme.pageComment (s.dropWhile isBlank))

/-- Units that depend on what is expected before all else. If one of them is expected and does not
come, some of the others are not looked for. -/
def special (expected : List Terminal) (s : List Char) : Option Next :=
  let has (t : Terminal) : Bool := expected.contains t
  if has .templatePart then
    if has .statementEnd then none
    else (taken .templatePart [] (Lexeme.templatePart s)).map .unit
  else
    let text := if has .markupText then taken .markupText [] (Lexeme.markupText s) else none
    match text with
    | some found => some (.unit found)
    | none =>
      if has .statementEnd || has .signatureEnd then (statementEnd expected s).map .unit
      else if has .choiceMark then (choiceMark s).map .unit
      else if has (.sign "||") || has .escape || has .regexBody then none
      else (pageComment s).map .comment

/-- The reader of a unit that no blanks may stand before. -/
def innerReader? : Terminal → Option (List Char → Taken)
  | .stringPart mark => some (Lexeme.stringPart mark)
  | .attributePart mark => some (Lexeme.attributePart mark)
  | .regexEnd => some fun s => if s.head? == some '/' then some (['/'], s.drop 1) else none
  | _ => none

/-- The reader of a unit that no blanks may stand before, where something longer may come. -/
def edgeReader? : Terminal → Option (List Char → Taken)
  | .escape => some Lexeme.escape
  | .regexFlags => some (Lexeme.run fun c => 'a' ≤ c && c ≤ 'z')
  | .regexBody => some Lexeme.regexBody
  | _ => none

/-- The reader of a unit after blanks. -/
def reader? : Terminal → Option (List Char → Taken)
  | .sign text => some fun s => (Text.afterPart? text.toList s).map fun rest => (text.toList, rest)
  | .number => some Lexeme.number
  | .privateName => some Lexeme.privateName
  | .interpreterLine => some Lexeme.interpreterLine
  | .dashedName => some Lexeme.dashedName
  | .entity => some Lexeme.entity
  | _ => none

/-- The longest of several units; of two with one length, a sign counts, and otherwise the first. -/
def longest (units : List (Found Terminal)) : Option (Found Terminal) :=
  units.foldl
    (fun best unit =>
      match best with
      | none => some unit
      | some b => if b.text.length < unit.text.length then some unit else best)
    none

/-- A name, or a word that has a meaning of its own where it stands. -/
def nameOrWord (expected : List Terminal) (blank s : List Char) : Option (Found Terminal) :=
  let wanted :=
    expected.any fun t =>
      match t with
      | .word _ => true
      | .name => true
      | _ => false
  if wanted then
    (Lexeme.name s).map fun (text, rest) =>
      let word := Terminal.word (String.ofList text)
      ⟨if expected.contains word then word else .name, blank, text, rest⟩
  else none

/-- The next unit by its length, or a comment. -/
def ordinary (expected : List Terminal) (s : List Char) : Option Next :=
  let blank := s.takeWhile Lexeme.isSpace
  let rest := s.dropWhile Lexeme.isSpace
  let edge :=
    expected.findSome? fun t => (edgeReader? t).bind fun read => (taken t [] (read s))
  if rest.isEmpty then
    if expected.contains .finish then some (.unit ⟨.finish, blank, [], []⟩)
    else edge.map .unit
  else
    let comment := taken .comment blank (Lexeme.comment rest)
    let found := expected.filterMap fun t => (reader? t).bind fun read => taken t blank (read rest)
    let signs := found.filter fun unit => unit.what matches .sign _
    let others := found.filter fun unit => !(unit.what matches .sign _)
    let plain := others ++ (nameOrWord expected blank rest).toList
    let edges :=
      match edge with
      | some unit =>
        if unit.what == .regexBody && (comment.isSome || !signs.isEmpty || !plain.isEmpty) then []
        else [unit]
      | none => []
    let best := longest ((longest signs).toList ++ edges ++ plain)
    match comment with
    | none => best.map .unit
    | some c =>
      match best with
      | none => some (.comment c)
      | some unit =>
        if c.text.length < unit.text.length then some (.unit unit) else some (.comment c)

/-- What comes next, places aside where something ends and others that are looked for first. -/
def plain? (expected : List Terminal) (s : List Char) : Option Next :=
  match expected.findSome? fun t => (innerReader? t).bind fun read => taken t [] (read s) with
  | some found => some (.unit found)
  | none => ordinary expected s

/-- What comes next at the front of a text when these units are expected. -/
def next? (expected : List Terminal) (s : List Char) : Option Next :=
  (special expected s).or (plain? expected s)

end Token

end Restack.Script
