import Restack.Document.Basic
import Restack.Number.Numeral
import Restack.Text.Split

/-!
# Reading data documents

The document format is JSON with the words `NaN`, `Infinity` and `-Infinity` besides. The first
place that cannot be read is reported with the line that it stands on.
-/

namespace Restack.Document

open Restack.Text

/-- What is wrong with a document. -/
inductive Malformed where
  | byteOrderMark
  | extraData
  | valueExpected
  | nameExpected
  | colonExpected
  | commaExpected
  | unterminatedString
  | controlCharacter
  | badEscape
  | badUnitEscape
  | tooManyDigits (count : Nat)
deriving DecidableEq, Repr

/-- The wording of a complaint about a document. -/
def Malformed.message : Malformed → String
  | .byteOrderMark => "Unexpected UTF-8 BOM (decode using utf-8-sig)"
  | .extraData => "Extra data"
  | .valueExpected => "Expecting value"
  | .nameExpected => "Expecting property name enclosed in double quotes"
  | .colonExpected => "Expecting ':' delimiter"
  | .commaExpected => "Expecting ',' delimiter"
  | .unterminatedString => "Unterminated string starting at"
  | .controlCharacter => "Invalid control character at"
  | .badEscape => "Invalid \\escape"
  | .badUnitEscape => "Invalid \\uXXXX escape"
  | .tooManyDigits _ => "too many digits"

/-- A complaint and the text from the place on that it is about. -/
abbrev Complaint := Malformed × List Char

/-- A part of a document and the text that follows it. -/
abbrev Part (α : Type) := Except Complaint (α × List Char)

/-- The blanks between the signs of a document. -/
def isDocumentBlank (c : Char) : Bool :=
  c == ' ' || c == '\t' || c == '\n' || c == '\r'

/-- The text after blanks. -/
def skipBlanks (s : List Char) : List Char :=
  s.dropWhile isDocumentBlank

/-- The value of a hexadecimal digit. -/
def hexValue? (c : Char) : Option Nat :=
  if '0' ≤ c && c ≤ '9' then some (c.toNat - 48)
  else if 'a' ≤ c && c ≤ 'f' then some (c.toNat - 87)
  else if 'A' ≤ c && c ≤ 'F' then some (c.toNat - 55)
  else none

/-- The number that hexadecimal digits denote. -/
def hexNumber? (digits : List Char) : Option Nat :=
  digits.foldl (fun n c => n.bind fun n => (hexValue? c).map fun d => 16 * n + d) (some 0)

/-- A UTF-16 unit at the front, where at least one character follows it. -/
def readUnit? (s : List Char) : Option (Nat × List Char) :=
  match s with
  | a :: b :: c :: d :: rest@(_ :: _) => (hexNumber? [a, b, c, d]).map fun n => (n, rest)
  | _ => none

/-- The second unit of a pair, when one follows. -/
def readLowUnit? (s : List Char) : Option (Nat × List Char) :=
  match s with
  | '\\' :: 'u' :: rest =>
    match readUnit? rest with
    | some (n, rest) => if ClosesPair n then some (n, rest) else none
    | none => none
  | _ => none

/-- A sign written by its UTF-16 units; `s` follows the letter `u`. A unit of a pair that stands
alone is kept as it is. -/
def readUnits (s : List Char) : Part Symbol :=
  match readUnit? s with
  | none => .error (.badUnitEscape, s)
  | some (n, rest) =>
    if hopens : OpensPair n then
      match readLowUnit? rest with
      | some (low, rest) =>
        .ok (.char (Char.ofNat (0x10000 + (n - 0xD800) * 0x400 + (low - 0xDC00))), rest)
      | none => .ok (.unit n (.inl hopens), rest)
    else if hcloses : ClosesPair n then .ok (.unit n (.inr hcloses), rest)
    else .ok (.char (Char.ofNat n), rest)

/-- The character that an escape of one letter stands for. -/
def shortEscape? (c : Char) : Option Char :=
  if c == '\x22' || c == '\\' || c == '/' then some c
  else if c == 'b' then some '\x08'
  else if c == 'f' then some '\x0c'
  else if c == 'n' then some '\n'
  else if c == 'r' then some '\r'
  else if c == 't' then some '\t'
  else none

/-- The rest of a string, `start` being the text from its opening mark on. -/
def readString (start : List Char) : Nat → List Symbol → List Char → Part Str
  | 0, _, _ => .error (.unterminatedString, start)
  | _ + 1, _, [] => .error (.unterminatedString, start)
  | fuel + 1, done, c :: rest =>
    if c == '\x22' then .ok (⟨done.reverse⟩, rest)
    else if c == '\\' then
      match rest with
      | [] => .error (.unterminatedString, start)
      | 'u' :: more =>
        match readUnits more with
        | .ok (symbol, rest) => readString start fuel (symbol :: done) rest
        | .error complaint => .error complaint
      | letter :: more =>
        match shortEscape? letter with
        | some c => readString start fuel (.char c :: done) more
        | none => .error (.badEscape, c :: rest)
    else if c.toNat < 32 then .error (.controlCharacter, c :: rest)
    else readString start fuel (.char c :: done) rest

/-- The digits at the front. -/
def spanDigits (s : List Char) : List Char × List Char :=
  s.span isAsciiDigit

/-- A fraction at the front: a point and at least one digit. -/
def readFraction (s : List Char) : List Char × List Char :=
  match s with
  | '.' :: rest =>
    match spanDigits rest with
    | ([], _) => ([], s)
    | (digits, rest) => ('.' :: digits, rest)
  | _ => ([], s)

/-- An exponent at the front: its letter, a sign perhaps, and at least one digit. -/
def readExponent (s : List Char) : List Char × List Char :=
  match s with
  | c :: rest =>
    if c == 'e' || c == 'E' then
      let (sign, rest) :=
        match rest with
        | '-' :: more => (['-'], more)
        | '+' :: more => (['+'], more)
        | _ => ([], rest)
      match spanDigits rest with
      | ([], _) => ([], s)
      | (digits, rest) => (c :: (sign ++ digits), rest)
    else ([], s)
  | [] => ([], s)

/-- The whole part of a number: a zero, or digits that begin with another digit. -/
def readWhole? (s : List Char) : Option (List Char × List Char) :=
  match s with
  | '0' :: rest => some (['0'], rest)
  | c :: _ => if isAsciiDigit c then some (spanDigits s) else none
  | [] => none

/-- A number at the front. -/
def readNumber (s : List Char) : Part Document :=
  let (sign, rest) :=
    match s with
    | '-' :: more => (['-'], more)
    | _ => ([], s)
  match readWhole? rest with
  | none => .error (.valueExpected, s)
  | some (whole, rest) =>
    let (fraction, rest) := readFraction rest
    let (exponent, rest) := readExponent rest
    if fraction.isEmpty && exponent.isEmpty then
      match Number.readInt? (sign ++ whole) with
      | some n => .ok (.int n, rest)
      | none => .error (.tooManyDigits whole.length, s)
    else
      match Number.readFloat? (sign ++ whole ++ fraction ++ exponent) with
      | some x => .ok (.float x, rest)
      | none => .error (.valueExpected, s)

/-- The words of the format. -/
def wordValues : List (List Char × Document) :=
  [("null".toList, .null), ("true".toList, .bool true), ("false".toList, .bool false),
    ("NaN".toList, .float (0.0 / 0.0)), ("Infinity".toList, .float (1.0 / 0.0)),
    ("-Infinity".toList, .float (-1.0 / 0.0))]

/-- A word or a number at the front. -/
def readScalar (s : List Char) : Part Document :=
  match wordValues.findSome? fun word => (afterPart? word.1 s).map fun rest => (word.2, rest) with
  | some found => .ok found
  | none => readNumber s

mutual

/-- A value at the front. -/
def readValue : Nat → List Char → Part Document
  | 0, s => .error (.valueExpected, s)
  | fuel + 1, s =>
    match s with
    | [] => .error (.valueExpected, s)
    | c :: rest =>
      if c == '\x22' then
        (readString s (rest.length + 1) [] rest).map fun part => (.str part.1, part.2)
      else if c == '\x7b' then
        match skipBlanks rest with
        | '\x7d' :: after => .ok (.object [], after)
        | inside =>
          (readFields fuel [] inside).map fun part => (.object (Value.ofEntries part.1), part.2)
      else if c == '[' then
        match skipBlanks rest with
        | ']' :: after => .ok (.list [], after)
        | inside => (readItems fuel [] inside).map fun part => (.list part.1, part.2)
      else readScalar s

/-- The items of a list from one of them on. -/
def readItems : Nat → List Document → List Char → Part (List Document)
  | 0, _, s => .error (.valueExpected, s)
  | fuel + 1, done, s =>
    match readValue fuel s with
    | .error complaint => .error complaint
    | .ok (item, rest) =>
      match skipBlanks rest with
      | ']' :: after => .ok ((item :: done).reverse, after)
      | ',' :: after => readItems fuel (item :: done) (skipBlanks after)
      | other => .error (.commaExpected, other)

/-- The fields of an object from one of them on. -/
def readFields :
    Nat → List (Str × Document) → List Char → Part (List (Str × Document))
  | 0, _, s => .error (.nameExpected, s)
  | fuel + 1, done, s =>
    match s with
    | '\x22' :: inside =>
      match readString s (inside.length + 1) [] inside with
      | .error complaint => .error complaint
      | .ok (key, rest) =>
        match skipBlanks rest with
        | ':' :: after =>
          match readValue fuel (skipBlanks after) with
          | .error complaint => .error complaint
          | .ok (value, rest) =>
            match skipBlanks rest with
            | '\x7d' :: after => .ok (((key, value) :: done).reverse, after)
            | ',' :: after => readFields fuel ((key, value) :: done) (skipBlanks after)
            | other => .error (.commaExpected, other)
        | other => .error (.colonExpected, other)
    | _ => .error (.nameExpected, s)

end

/-- A complaint about a document and the number of the line that it is about. -/
structure DocumentFault where
  cause : Malformed
  line : Nat
deriving DecidableEq, Repr

/-- Reads a whole document. -/
def readDocument (text : List Char) : Except Complaint Document :=
  match text with
  | '\ufeff' :: _ => .error (.byteOrderMark, text)
  | _ =>
    match readValue (2 * text.length + 2) (skipBlanks text) with
    | .error complaint => .error complaint
    | .ok (value, rest) =>
      match skipBlanks rest with
      | [] => .ok value
      | extra => .error (.extraData, extra)

/-- The number of the line on which a part of the text begins that reaches to its end. -/
def lineOf (text tail : List Char) : Nat :=
  (text.take (text.length - tail.length)).count '\n' + 1

/-- The document that a text denotes. -/
def read (text : String) : Except DocumentFault Document :=
  match readDocument text.toList with
  | .ok value => .ok value
  | .error (cause, tail) => .error ⟨cause, lineOf text.toList tail⟩

end Restack.Document
