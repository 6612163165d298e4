/-!
# Reading UTF-8

The characters of a sequence of octets. What is not well formed is replaced: each longest beginning
of a character that cannot be completed becomes one replacement character.
-/

namespace Restack.Text

/-- What stands for octets that form no character. -/
def replacementChar : Char := Char.ofNat 0xFFFD

/-- A continuation octet. -/
def isContinuation (b : Nat) : Bool :=
  0x80 ≤ b && b ≤ 0xBF

/-- How many continuation octets a first octet announces, and the range of the next one. Only the
range of the second octet depends on the first: it keeps out long spellings, surrogates and numbers
that are too large. -/
def leadShape? (b : Nat) : Option (Nat × Nat × Nat) :=
  if 0xC2 ≤ b && b ≤ 0xDF then some (1, 0x80, 0xBF)
  else if b == 0xE0 then some (2, 0xA0, 0xBF)
  else if b == 0xED then some (2, 0x80, 0x9F)
  else if 0xE1 ≤ b && b ≤ 0xEF then some (2, 0x80, 0xBF)
  else if b == 0xF0 then some (3, 0x90, 0xBF)
  else if b == 0xF4 then some (3, 0x80, 0x8F)
  else if 0xF1 ≤ b && b ≤ 0xF3 then some (3, 0x80, 0xBF)
  else none

/-- The bits of a first octet that belong to the number of the character. -/
def leadBits (b count : Nat) : Nat :=
  match count with
  | 1 => b % 0x20
  | 2 => b % 0x10
  | _ => b % 0x08

/-- The state of the reader between two octets. -/
inductive Utf8State where
  /-- Between characters. -/
  | between
  /-- Within a character: how many octets are missing, the range of the next one, and the number
  read so far. -/
  | within (missing low high number : Nat)
deriving Repr, DecidableEq

/-- Reads an octet that begins a character. -/
def utf8Lead (b : Nat) : List Char × Utf8State :=
  if b < 0x80 then ([Char.ofNat b], .between)
  else
    match leadShape? b with
    | some (count, low, high) => ([], .within count low high (leadBits b count))
    | none => ([replacementChar], .between)

/-- Reads one octet. -/
def utf8Step (state : Utf8State) (b : Nat) : List Char × Utf8State :=
  match state with
  | .between => utf8Lead b
  | .within missing low high number =>
    if low ≤ b && b ≤ high then
      let number := number * 64 + b % 64
      if missing ≤ 1 then ([Char.ofNat number], .between)
      else ([], .within (missing - 1) 0x80 0xBF number)
    else
      let next := utf8Lead b
      (replacementChar :: next.1, next.2)

/-- Reads octets from a state on; a character that the end cuts short is replaced. -/
def decodeUtf8From : Utf8State → List Nat → List Char
  | .between, [] => []
  | .within .., [] => [replacementChar]
  | state, b :: rest =>
    let step := utf8Step state b
    step.1 ++ decodeUtf8From step.2 rest

/-- The characters of a sequence of octets. -/
def decodeUtf8 (bytes : List Nat) : List Char :=
  decodeUtf8From .between bytes

/-- The octets of one character. -/
def encodeChar (c : Char) : List Nat :=
  let n := c.toNat
  if n < 0x80 then [n]
  else if n < 0x800 then [0xC0 + n / 64, 0x80 + n % 64]
  else if n < 0x10000 then [0xE0 + n / 4096, 0x80 + n / 64 % 64, 0x80 + n % 64]
  else [0xF0 + n / 262144, 0x80 + n / 4096 % 64, 0x80 + n / 64 % 64, 0x80 + n % 64]

/-- The octets of a text. -/
def encodeUtf8 (s : List Char) : List Nat :=
  s.flatMap encodeChar

/-- The text of a file. -/
def textOfOctets (octets : ByteArray) : String :=
  String.ofList (decodeUtf8 (octets.data.toList.map UInt8.toNat))

/-- The octets of a text. -/
def octetsOfText (s : String) : ByteArray :=
  ⟨((encodeUtf8 s.toList).map UInt8.ofNat).toArray⟩

end Restack.Text
