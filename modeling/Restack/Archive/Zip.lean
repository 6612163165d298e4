import Restack.Archive.Inflate
import Restack.Text.Utf8

/-!
# Archives

An archive holds named contents. It is written as the contents, each with a header, followed by a
directory of them and a record of where the directory is; it is read from that record back. Contents
are written as they are, and read as they are or compressed.
-/

namespace Restack.Archive

open Restack.Text

/-- A named content. The name of a folder ends with a slash. -/
structure Entry where
  name : String
  data : ByteArray

/-- Why octets are no archive that can be read. -/
inductive Flaw where
  /-- There is no record of a directory. -/
  | noDirectory
  /-- The directory would begin before the archive. -/
  | badOffset
  /-- The directory is cut short. -/
  | truncated
  /-- Something in the directory is no entry. -/
  | badEntry
  /-- A content cannot be unpacked. -/
  | badContent
deriving DecidableEq, Repr

/-- The wording of a flaw. -/
def Flaw.message : Flaw → String
  | .noDirectory => "File is not a zip file"
  | .badOffset => "Bad offset for central directory"
  | .truncated => "Truncated central directory"
  | .badEntry => "Bad magic number for central directory"
  | .badContent => "Bad content"

/-- A number in two octets, the lower one first. -/
def twoOctets (n : Nat) : List UInt8 := [UInt8.ofNat n, UInt8.ofNat (n / 256)]

/-- A number in four octets, the lowest first. -/
def fourOctets (n : Nat) : List UInt8 := twoOctets n ++ twoOctets (n / 65536)

/-- The number that two octets at a place stand for. -/
def twoAt (octets : ByteArray) (place : Nat) : Nat :=
  let octet (i : Nat) : Nat := ((octets[i]?).getD 0).toNat
  octet place + 256 * octet (place + 1)

/-- The number that four octets at a place stand for. -/
def fourAt (octets : ByteArray) (place : Nat) : Nat :=
  twoAt octets place + 65536 * twoAt octets (place + 2)

/-- A checksum after one bit. -/
def checksumBit (sum : UInt32) : UInt32 :=
  if sum &&& 1 == 1 then (sum >>> 1) ^^^ 0xEDB88320 else sum >>> 1

/-- A checksum after one octet. -/
def checksumOctet (sum : UInt32) (octet : UInt8) : UInt32 :=
  (List.range 8).foldl (fun sum _ => checksumBit sum) (sum ^^^ octet.toUInt32)

/-- The checksum of a content. -/
def checksum (data : ByteArray) : UInt32 :=
  data.data.foldl checksumOctet 0xFFFFFFFF ^^^ 0xFFFFFFFF

/-- The mark of a header before a content. -/
def contentMark : Nat := 0x04034B50

/-- The mark of an entry of the directory. -/
def entryMark : Nat := 0x02014B50

/-- The mark of the record of the directory. -/
def recordMark : Nat := 0x06054B50

/-- What a header and an entry of the directory both say of a content: the version that reads it,
that its name is in UTF-8, that it is not compressed, the first day that can be told, its checksum,
its size twice, and the length of its name. -/
def description (entry : Entry) : List UInt8 :=
  twoOctets 20 ++ twoOctets 0x800 ++ twoOctets 0 ++ twoOctets 0 ++ twoOctets 0x21 ++
    fourOctets (checksum entry.data).toNat ++ fourOctets entry.data.size ++
    fourOctets entry.data.size ++ twoOctets (octetsOfText entry.name).size

/-- A content with its header. -/
def content (entry : Entry) : ByteArray :=
  ⟨(fourOctets contentMark ++ description entry ++ twoOctets 0).toArray⟩ ++
    octetsOfText entry.name ++ entry.data

/-- The entry of the directory for a content that begins at a place. -/
def directoryEntry (entry : Entry) (place : Nat) : ByteArray :=
  ⟨(fourOctets entryMark ++ twoOctets 20 ++ description entry ++ twoOctets 0 ++ twoOctets 0 ++
    twoOctets 0 ++ twoOctets 0 ++ fourOctets 0x01800000 ++ fourOctets place).toArray⟩ ++
    octetsOfText entry.name

/-- The contents and the directory after those that have been written. -/
def sections (contents directory : ByteArray) : List Entry → ByteArray × ByteArray
  | [] => (contents, directory)
  | entry :: rest =>
    sections (contents ++ content entry) (directory ++ directoryEntry entry contents.size) rest

/-- An archive of entries. -/
def write (entries : List Entry) : ByteArray :=
  let (contents, directory) := sections ByteArray.empty ByteArray.empty entries
  contents ++ directory ++
    ⟨(fourOctets recordMark ++ twoOctets 0 ++ twoOctets 0 ++ twoOctets entries.length ++
      twoOctets entries.length ++ fourOctets directory.size ++ fourOctets contents.size ++
      twoOctets 0).toArray⟩

/-- The last place before a bound where a record may begin, but no more than `steps` places back. -/
def lastRecord? (octets : ByteArray) : Nat → Nat → Option Nat
  | 0, _ => none
  | steps + 1, bound =>
    match bound with
    | 0 => none
    | place + 1 =>
      if fourAt octets place == recordMark && place + 22 ≤ octets.size then some place
      else lastRecord? octets steps place

/-- Where the record of the directory is: at the very end, or before a remark. -/
def recordPlace? (octets : ByteArray) : Option Nat :=
  if octets.size < 22 then none else lastRecord? octets 65558 (octets.size - 21)

/-- A name, which a null character ends. -/
def nameOfOctets (octets : ByteArray) : String :=
  String.ofList ((textOfOctets octets).toList.takeWhile (· != '\x00'))

/-- The content that an entry of the directory at a place describes. `shift` is how far the archive
is from where its record says that it begins. -/
def contentAt (octets : ByteArray) (shift place : Nat) : Except Flaw ByteArray :=
  let method := twoAt octets (place + 10)
  let packed := fourAt octets (place + 20)
  let header := fourAt octets (place + 42) + shift
  let start := header + 30 + twoAt octets (header + 26) + twoAt octets (header + 28)
  let data := octets.extract start (start + packed)
  if data.size < packed then .error .badContent
  else if method == 0 then .ok data
  else if method == 8 then
    match inflate? data with
    | some data => .ok data
    | none => .error .badContent
  else .error .badContent

/-- Some entries of a directory from a place up to a bound. -/
def entriesFrom (octets : ByteArray) (shift bound : Nat) : Nat → Nat → Except Flaw (List Entry)
  | 0, _ => .ok []
  | fuel + 1, place =>
    if bound ≤ place then .ok []
    else if bound < place + 46 then .error .truncated
    else if fourAt octets place != entryMark then .error .badEntry
    else do
      let name := place + 46
      let stop := name + twoAt octets (place + 28)
      let data ← contentAt octets shift place
      let entry : Entry := ⟨nameOfOctets (octets.extract name stop), data⟩
      let rest ←
        entriesFrom octets shift bound fuel
          (stop + twoAt octets (place + 30) + twoAt octets (place + 32))
      return entry :: rest

/-- The entries of an archive. -/
def read (octets : ByteArray) : Except Flaw (List Entry) :=
  match recordPlace? octets with
  | none => .error .noDirectory
  | some record =>
    let size := fourAt octets (record + 12)
    let offset := fourAt octets (record + 16)
    if record < size + offset then .error .badOffset
    else entriesFrom octets (record - size - offset) record octets.size (record - size)

end Restack.Archive
