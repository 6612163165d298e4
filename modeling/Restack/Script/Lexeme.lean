import Restack.Text.Quoted
import Restack.Text.Split
import Restack.Text.Word
import Restack.Document.Reader

/-!
# Lexemes

The units that a script is written in. Each reader takes a unit from the front of a text and gives
the unit and the text after it, or nothing when the text does not begin with such a unit.
-/

namespace Restack.Script

open Restack.Text

/-- A unit at the front of a text and the text after it. -/
abbrev Taken := Option (List Char × List Char)

namespace Lexeme

/-- Characters that end a line. -/
def endsLine (c : Char) : Bool :=
  c == '\n' || c == '\u2028' || c == '\u2029'

/-- Spaces of any width, line ends and marks without width. The sign for a next line is not among
them: it is a character of names. -/
def isSpace (c : Char) : Bool :=
  let n := c.toNat
  (9 ≤ n && n ≤ 13) || n == 32 ||
    (128 ≤ n && n != 0x85 && (isBlank c || n == 0xFEFF || n == 0x2060 || n == 0x200B))

/-- Spaces and line ends that may stand where a statement ends without a semicolon. Spaces that
forbid a break are not among them. -/
def isGap (c : Char) : Bool :=
  let n := c.toNat
  (9 ≤ n && n ≤ 13) || n == 32 ||
    (128 ≤ n && isBlank c && n != 0x85 && n != 0xA0 && n != 0x2007 && n != 0x202F)

/-- Characters that a name may hold. -/
def isNameChar (c : Char) : Bool :=
  if c.toNat < 128 then isWordChar c || c == '$' || c.toNat == 127
  else !isSpace c

/-- Characters that a name may begin with. -/
def isNameStart (c : Char) : Bool :=
  isNameChar c && !isAsciiDigit c

/-- A hexadecimal digit. -/
def isHex (c : Char) : Bool :=
  (Document.hexValue? c).isSome

/-- Exactly so many hexadecimal digits. -/
def takeHex : Nat → List Char → Taken
  | 0, s => some ([], s)
  | n + 1, c :: rest =>
    if isHex c then (takeHex n rest).map fun t => (c :: t.1, t.2) else none
  | _ + 1, [] => none

/-- A character by its number, after a backslash and the letter `u`. -/
def takeNumberEscape (s : List Char) : Taken :=
  match s with
  | '\x7b' :: rest =>
    match rest.span isHex with
    | ([], _) => none
    | (digits, '\x7d' :: after) => some ('\x7b' :: (digits ++ ['\x7d']), after)
    | _ => none
  | _ => takeHex 4 s

/-- One character of a name, or an escape that stands for one. -/
def takeNameChar (p : Char → Bool) (s : List Char) : Taken :=
  match s with
  | '\\' :: 'u' :: rest => (takeNumberEscape rest).map fun t => ('\\' :: 'u' :: t.1, t.2)
  | c :: rest => if p c then some ([c], rest) else none
  | [] => none

/-- The characters of a name after the first. -/
def takeNameRest : Nat → List Char → List Char × List Char
  | 0, s => ([], s)
  | fuel + 1, s =>
    match takeNameChar isNameChar s with
    | some (c, rest) =>
      let t := takeNameRest fuel rest
      (c ++ t.1, t.2)
    | none => ([], s)

/-- A name. -/
def name (s : List Char) : Taken :=
  match takeNameChar isNameStart s with
  | some (c, rest) =>
    let t := takeNameRest rest.length rest
    some (c ++ t.1, t.2)
  | none => none

/-- A name of a member that is private to its class. -/
def privateName (s : List Char) : Taken :=
  match s with
  | '#' :: rest => (name rest).map fun t => ('#' :: t.1, t.2)
  | _ => none

/-- Digits with single low lines between them. -/
def takeDigitRun (p : Char → Bool) : Bool → List Char → List Char × List Char
  | _, [] => ([], [])
  | inside, c :: rest =>
    if p c then
      let t := takeDigitRun p true rest
      (c :: t.1, t.2)
    else if inside && c == '_' && rest.head?.any p then
      let t := takeDigitRun p false rest
      (c :: t.1, t.2)
    else ([], c :: rest)

/-- At least one digit. -/
def takeDigitRun1 (p : Char → Bool) (s : List Char) : Taken :=
  match takeDigitRun p false s with
  | ([], _) => none
  | t => some t

/-- A number in another base, after its two letters. -/
def takeBased (letters : List Char) (p : Char → Bool) (s : List Char) : Taken :=
  match s with
  | '0' :: c :: rest =>
    if letters.contains c then (takeDigitRun1 p rest).map fun t => ('0' :: c :: t.1, t.2) else none
  | _ => none

/-- Adds the letter that marks a whole number of any size. -/
def withBigMark : Taken → Taken
  | some (digits, 'n' :: rest) => some (digits ++ ['n'], rest)
  | t => t

/-- An exponent, empty when there is none. -/
def takeExponent (s : List Char) : List Char × List Char :=
  match s with
  | c :: rest =>
    if c == 'e' || c == 'E' then
      let (sign, rest) :=
        match rest with
        | '-' :: more => (['-'], more)
        | '+' :: more => (['+'], more)
        | _ => ([], rest)
      match takeDigitRun1 isAsciiDigit rest with
      | some (digits, after) => (c :: (sign ++ digits), after)
      | none => ([], s)
    else ([], s)
  | [] => ([], s)

/-- Digits that may stand before a point: a zero, or a number with at most one zero in front. -/
def beforePoint (digits : List Char) : Bool :=
  match digits with
  | ['0'] => true
  | '0' :: c :: _ => '1' ≤ c && c ≤ '9'
  | _ => true

/-- A number in base ten. -/
def takeDecimal (s : List Char) : Taken :=
  match takeDigitRun isAsciiDigit false s with
  | ([], _) =>
    match s with
    | '.' :: rest =>
      match takeDigitRun1 isAsciiDigit rest with
      | some (fraction, after) =>
        let e := takeExponent after
        some ('.' :: (fraction ++ e.1), e.2)
      | none => none
    | _ => none
  | (whole, rest) =>
    if !beforePoint whole then withBigMark (some (whole, rest))
    else
      match rest with
      | '.' :: after =>
        let f := takeDigitRun isAsciiDigit false after
        let e := takeExponent f.2
        some (whole ++ '.' :: (f.1 ++ e.1), e.2)
      | _ =>
        match takeExponent rest with
        | ([], _) => withBigMark (some (whole, rest))
        | (e, after) => some (whole ++ e, after)

/-- A number. -/
def number (s : List Char) : Taken :=
  match takeBased ['x', 'X'] isHex s with
  | some t => withBigMark (some t)
  | none =>
    match takeBased ['b', 'B'] (fun c => c == '0' || c == '1') s with
    | some t => withBigMark (some t)
    | none =>
      match takeBased ['o', 'O'] (fun c => '0' ≤ c && c ≤ '7') s with
      | some t => withBigMark (some t)
      | none => takeDecimal s

/-- What an escape stands for begins here, after the backslash. -/
def takeEscape (s : List Char) : Taken :=
  match s with
  | [] => none
  | 'x' :: rest => (takeHex 2 rest).map fun t => ('x' :: t.1, t.2)
  | 'u' :: rest => (takeNumberEscape rest).map fun t => ('u' :: t.1, t.2)
  | c :: d :: rest =>
    if (c == '\r' || c == '?') && endsLine d then some ([c, d], rest) else some ([c], d :: rest)
  | c :: rest => some ([c], rest)

/-- An escape with its backslash. -/
def escape (s : List Char) : Taken :=
  match s with
  | '\\' :: rest => (takeEscape rest).map fun t => ('\\' :: t.1, t.2)
  | _ => none

/-- At least one character of a kind, and all that follow. -/
def run (p : Char → Bool) (s : List Char) : Taken :=
  match s.span p with
  | ([], _) => none
  | t => some t

/-- Part of a string between marks of this kind. -/
def stringPart (mark : Char) (s : List Char) : Taken :=
  run (fun c => c != mark && c != '\\' && c != '\n' && c != '\r') s

/-- Characters of an attribute's string. An ampersand must be followed by something that begins no
character by name or number. -/
def takeAttributeChars (mark : Char) : List Char → List Char × List Char
  | [] => ([], [])
  | ['&'] => ([], ['&'])
  | '&' :: c :: rest =>
    if c == '#' || isAsciiLetter c then ([], '&' :: c :: rest)
    else
      let t := takeAttributeChars mark rest
      ('&' :: c :: t.1, t.2)
  | c :: rest =>
    if c == mark then ([], c :: rest)
    else
      let t := takeAttributeChars mark rest
      (c :: t.1, t.2)

/-- Part of an attribute's string, which may go over several lines. -/
def attributePart (mark : Char) (s : List Char) : Taken :=
  match takeAttributeChars mark s with
  | ([], _) => none
  | t => some t

/-- Characters of a template up to what ends them: the mark that closes it, a substitution or an
escape. The template has to go on after them. -/
def takeTemplateChars : List Char → Taken
  | [] => none
  | '$' :: '\x7b' :: rest => some ([], '$' :: '\x7b' :: rest)
  | c :: rest =>
    if c == '\x60' || c == '\\' then some ([], c :: rest)
    else (takeTemplateChars rest).map fun t => (c :: t.1, t.2)

/-- Part of a template. -/
def templatePart (s : List Char) : Taken :=
  match takeTemplateChars s with
  | some ([], _) => none
  | t => t

/-- The rest of a set of characters in a regular expression. -/
def takeSetRest : List Char → Taken
  | '\\' :: c :: rest =>
    if c == '\n' then none else (takeSetRest rest).map fun t => ('\\' :: c :: t.1, t.2)
  | ']' :: rest => some ([']'], rest)
  | c :: rest =>
    if c == '\n' || c == '\\' then none else (takeSetRest rest).map fun t => (c :: t.1, t.2)
  | [] => none

/-- Characters of a regular expression up to the slash that closes it. -/
def takeRegexChars : Nat → List Char → List Char × List Char
  | 0, s => ([], s)
  | fuel + 1, s =>
    match s with
    | '[' :: rest =>
      match takeSetRest rest with
      | some (set, after) =>
        let t := takeRegexChars fuel after
        ('[' :: (set ++ t.1), t.2)
      | none => ([], s)
    | '\\' :: c :: rest =>
      if c == '\n' then ([], s)
      else
        let t := takeRegexChars fuel rest
        ('\\' :: c :: t.1, t.2)
    | c :: rest =>
      if c == '/' || c == '\\' || c == '\n' then ([], s)
      else
        let t := takeRegexChars fuel rest
        (c :: t.1, t.2)
    | [] => ([], [])

/-- What stands between the slashes of a regular expression. -/
def regexBody (s : List Char) : Taken :=
  match takeRegexChars s.length s with
  | ([], _) => none
  | t => some t

/-- A name with dashes in it. -/
def dashedName (s : List Char) : Taken :=
  let inner (c : Char) : Bool := isAsciiLetter c || isAsciiDigit c || c == '_' || c == '$'
  match s with
  | c :: rest =>
    let dashed := rest.span fun c => inner c || c == '-'
    if (isAsciiLetter c || c == '_' || c == '$') && dashed.1.contains '-' then
      some (c :: dashed.1, dashed.2)
    else none
  | [] => none

/-- Whether a stretch of characters between tags is more than line ends and the blanks after
them. -/
def isText : Bool → List Char → Bool
  | _, [] => false
  | newLine, c :: rest =>
    if c == '\n' then isText true rest else !(newLine && isGap c) || isText true rest

/-- Text between the tags of markup. -/
def markupText (s : List Char) : Taken :=
  let t := s.span fun c => !"<>&\x7b\x7d".toList.contains c
  if isText false t.1 then some t else none

/-- A character of markup by its name or number. -/
def entity (s : List Char) : Taken :=
  let close (lead : List Char) (limit : Nat) (body : List Char × List Char) : Taken :=
    match body with
    | ([], _) => none
    | (digits, ';' :: rest) =>
      if digits.length ≤ limit then some (lead ++ digits ++ [';'], rest) else none
    | _ => none
  match s with
  | '&' :: '#' :: c :: rest =>
    if c == 'x' || c == 'X' then close ['&', '#', c] 6 (rest.span isHex)
    else close ['&', '#'] 5 ((c :: rest).span isAsciiDigit)
  | '&' :: rest => close ['&'] 30 (rest.span isAsciiLetter)
  | _ => none

/-- The line that names an interpreter. -/
def interpreterLine (s : List Char) : Taken :=
  match s with
  | '#' :: '!' :: rest =>
    let line := rest.span fun c => !endsLine c
    some ('#' :: '!' :: line.1, line.2)
  | _ => none

/-- A comment up to the end of its line. -/
def lineComment (s : List Char) : Taken :=
  match s with
  | '/' :: '/' :: rest =>
    let line := rest.span fun c => !endsLine c && c != '\r'
    some ('/' :: '/' :: line.1, line.2)
  | _ => none

/-- A comment between its two signs. -/
def blockComment (s : List Char) : Taken :=
  match s with
  | '/' :: '*' :: rest =>
    (cutAt ['*', '/'] rest).map fun t => ('/' :: '*' :: (t.1 ++ ['*', '/']), t.2)
  | _ => none

/-- A comment as pages have them: it goes up to the end of its line. -/
def pageComment (s : List Char) : Taken :=
  if startsWith "<!--".toList s || startsWith "-->".toList s then some (s.span fun c => !endsLine c)
  else none

/-- A comment. -/
def comment (s : List Char) : Taken :=
  match lineComment s with
  | some t => some t
  | none => blockComment s

/-- A text without its quotes, if it stands between two quotes of one kind. -/
def unquoted (s : List Char) : List Char :=
  (betweenQuotes? s).getD s

end Lexeme

end Restack.Script
