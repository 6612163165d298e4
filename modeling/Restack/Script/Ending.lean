import Restack.Script.Lexeme

/-!
# Where a statement ends without a semicolon

A statement may end at the end of the script, before a closing brace, and at a line end, unless what
follows on the next line can only go on with it. Between the line end and what follows there may be
comments.
-/

namespace Restack.Script

/-- Whether a statement ends at a place. -/
structure Ending where
  ends : Bool
  /-- Whether a comment was passed on the way. -/
  comment : Bool
  /-- Where the search for an end stopped. -/
  rest : List Char

namespace Ending

/-- The rest after a comment between signs. One that is not closed goes up to the end. -/
def afterBlockComment : List Char → List Char
  | [] => []
  | '*' :: '/' :: rest => rest
  | _ :: rest => afterBlockComment rest

/-- Goes over blanks and comments. Gives whether there was a comment up to a line end, and what
follows: nothing after a slash that begins no comment. -/
def gap : Nat → Bool → List Char → Bool × Option (List Char)
  | 0, comment, s => (comment, some s)
  | fuel + 1, comment, s =>
    match s.dropWhile Lexeme.isGap with
    | '/' :: '/' :: rest => gap fuel true (rest.dropWhile (· != '\n'))
    | '/' :: '*' :: rest => gap fuel comment (afterBlockComment rest)
    | '/' :: _ => (comment, none)
    | rest => (comment, some rest)

/-- The word that compares an object with its class. The part after its first two letters. -/
def instanceRest : List Char := "stanceof".toList

/-- Whether a letter of any script comes first. -/
def startsLetter (s : List Char) : Bool :=
  s.head?.any fun c => Text.isWordChar c && c != '_' && !Text.isAsciiDigit c

/-- Whether a word that begins with `i` is neither `in` nor `instanceof`. `s` is what stands after
the letter. -/
def isOtherWord (s : List Char) : Bool × List Char :=
  match s with
  | 'n' :: rest =>
    if !startsLetter rest then (false, rest)
    else
      match Text.afterPart? instanceRest rest with
      | some after => (startsLetter after, after)
      | none => (true, rest)
  | _ => (true, s)

/-- Whether a statement ends before a line that begins so. `signature` says that the head of a
function may end here, `operand` that an operator may follow. -/
def beforeLine (signature operand comment : Bool) (s : List Char) : Ending :=
  match s with
  | '\x7b' :: _ => ⟨!signature, comment, s⟩
  | '(' :: _ => ⟨!operand, comment, s⟩
  | '[' :: _ => ⟨!operand, comment, s⟩
  | '+' :: rest => ⟨rest.head? == some '+', comment, rest⟩
  | '-' :: rest => ⟨rest.head? == some '-', comment, rest⟩
  | '!' :: rest => ⟨rest.head? != some '=', comment, rest⟩
  | 'i' :: rest =>
    let t := isOtherWord rest
    ⟨t.1, comment, t.2⟩
  | c :: _ => ⟨!"\x60,.;*%><=?^|&/:".toList.contains c, comment, s⟩
  | [] => ⟨true, comment, []⟩

/-- Whether a statement ends before a closing brace, which `s` follows. Before a type it does only
where an operand could end, as within a choice between two values. -/
def beforeBrace (operand : Bool) (s : List Char) : Bool :=
  operand || (s.dropWhile Lexeme.isGap).head? != some ':'

/-- Whether a statement ends here. `signature` says that the head of a function may end here,
`operand` that an operator may follow. -/
def find (signature operand : Bool) : List Char → Ending
  | [] => ⟨true, false, []⟩
  | c :: rest =>
    if c == '\x7d' then ⟨beforeBrace operand rest, false, rest.dropWhile Lexeme.isGap⟩
    else if c == '\n' then
      match gap (rest.length + 1) false rest with
      | (comment, some next) => beforeLine signature operand comment next
      | (comment, none) => ⟨false, comment, []⟩
    else if Lexeme.isGap c then find signature operand rest
    else ⟨false, false, c :: rest⟩

end Ending

end Restack.Script
