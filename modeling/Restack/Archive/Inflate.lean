/-!
# Unpacking compressed octets

A compressed text is a sequence of blocks. A block holds octets as they are, or symbols in a code
whose words differ in length: octets, and copies of what has been unpacked before.
-/

namespace Restack.Archive

/-- Where a reader stands: a sequence of octets, and the number of bits of it that have been
read. -/
structure BitSource where
  octets : ByteArray
  place : Nat

namespace BitSource

/-- The next bit. -/
def bit? (source : BitSource) : Option (Nat × BitSource) :=
  match source.octets[source.place / 8]? with
  | some octet =>
    some (octet.toNat / Nat.pow 2 (source.place % 8) % 2, { source with place := source.place + 1 })
  | none => none

/-- A number of some bits, the lowest first. -/
def number? : Nat → BitSource → Option (Nat × BitSource)
  | 0, source => some (0, source)
  | count + 1, source => do
    let (low, source) ← source.bit?
    let (high, source) ← number? count source
    return (low + 2 * high, source)

/-- Goes on to the beginning of an octet. -/
def align (source : BitSource) : BitSource :=
  { source with place := (source.place + 7) / 8 * 8 }

end BitSource

/-- A code: how many words there are of each length from one on, and the symbols in the order of
their words. -/
structure PrefixCode where
  counts : List Nat
  symbols : Array Nat

namespace PrefixCode

/-- The code whose words have these lengths, symbol by symbol; a length of zero means no word. -/
def ofLengths (lengths : List Nat) : PrefixCode :=
  let sizes := (List.range 15).map (· + 1)
  { counts := sizes.map lengths.count
    symbols :=
      (sizes.flatMap fun size =>
        lengths.zipIdx.filterMap fun (length, symbol) =>
          if length == size then some symbol else none).toArray }

/-- Reads a symbol. `word` is what has been read of the word, `first` the first word of this length,
and `skipped` the number of symbols with shorter words. -/
def symbolFrom? (code : PrefixCode) (word first skipped : Nat) :
    List Nat → BitSource → Option (Nat × BitSource)
  | [], _ => none
  | count :: rest, source => do
    let (bit, source) ← source.bit?
    let word := 2 * word + bit
    if word < first + count then
      let symbol ← code.symbols[skipped + (word - first)]?
      return (symbol, source)
    else symbolFrom? code word (2 * (first + count)) (skipped + count) rest source

/-- Reads a symbol. -/
def symbol? (code : PrefixCode) (source : BitSource) : Option (Nat × BitSource) :=
  code.symbolFrom? 0 0 0 code.counts source

/-- The code of octets and lengths in blocks that bring none. -/
def standardSymbols : PrefixCode :=
  ofLengths
    (List.replicate 144 8 ++ List.replicate 112 9 ++ List.replicate 24 7 ++ List.replicate 8 8)

/-- The code of distances in blocks that bring none. -/
def standardDistances : PrefixCode := ofLengths (List.replicate 30 5)

end PrefixCode

/-- The lengths of copies by symbol: the shortest, and how many more bits follow. -/
def copyLengths : Array (Nat × Nat) :=
  #[(3, 0), (4, 0), (5, 0), (6, 0), (7, 0), (8, 0), (9, 0), (10, 0),
    (11, 1), (13, 1), (15, 1), (17, 1), (19, 2), (23, 2), (27, 2), (31, 2),
    (35, 3), (43, 3), (51, 3), (59, 3), (67, 4), (83, 4), (99, 4), (115, 4),
    (131, 5), (163, 5), (195, 5), (227, 5), (258, 0)]

/-- The distances of copies by symbol: the shortest, and how many more bits follow. -/
def copyDistances : Array (Nat × Nat) :=
  #[(1, 0), (2, 0), (3, 0), (4, 0), (5, 1), (7, 1), (9, 2), (13, 2), (17, 3), (25, 3),
    (33, 4), (49, 4), (65, 5), (97, 5), (129, 6), (193, 6), (257, 7), (385, 7), (513, 8), (769, 8),
    (1025, 9), (1537, 9), (2049, 10), (3073, 10), (4097, 11), (6145, 11), (8193, 12), (12289, 12),
    (16385, 13), (24577, 13)]

/-- Copies octets from some distance back, one by one, so that a copy may run into itself. -/
def copyBack (distance : Nat) : Nat → ByteArray → ByteArray
  | 0, out => out
  | count + 1, out =>
    copyBack distance count (out.push ((out[out.size - distance]?).getD 0))

/-- A number that a symbol begins and more bits complete. -/
def completed? (table : Array (Nat × Nat)) (symbol : Nat) (source : BitSource) :
    Option (Nat × BitSource) := do
  let (base, extra) ← table[symbol]?
  let (more, source) ← source.number? extra
  return (base + more, source)

/-- Unpacks symbols up to the end of a block. Each symbol takes a bit at least, so that the number
of bits left is fuel enough. -/
def unpackSymbols (symbols distances : PrefixCode) :
    Nat → ByteArray → BitSource → Option (ByteArray × BitSource)
  | 0, _, _ => none
  | fuel + 1, out, source => do
    let (symbol, source) ← symbols.symbol? source
    if symbol < 256 then unpackSymbols symbols distances fuel (out.push (UInt8.ofNat symbol)) source
    else if symbol == 256 then return (out, source)
    else
      let (length, source) ← completed? copyLengths (symbol - 257) source
      let (symbol, source) ← distances.symbol? source
      let (distance, source) ← completed? copyDistances symbol source
      if out.size < distance then none
      else unpackSymbols symbols distances fuel (copyBack distance length out) source

/-- The order in which the lengths of the code for lengths are given. -/
def lengthOrder : List Nat := [16, 17, 18, 0, 8, 7, 9, 6, 10, 5, 11, 4, 12, 3, 13, 2, 14, 1, 15]

/-- Reads word lengths until there are enough of them; a run of one length may be given by a
count. -/
def wordLengths? (code : PrefixCode) (wanted : Nat) :
    Nat → List Nat → BitSource → Option (List Nat × BitSource)
  | 0, _, _ => none
  | fuel + 1, lengths, source => do
    if wanted ≤ lengths.length then return (lengths, source)
    else
      let (symbol, source) ← code.symbol? source
      if symbol < 16 then wordLengths? code wanted fuel (lengths ++ [symbol]) source
      else
        let (repeated, base, extra) ←
          match symbol with
          | 16 => lengths.getLast?.map fun last => (last, 3, 2)
          | 17 => some (0, 3, 3)
          | _ => some (0, 11, 7)
        let (more, source) ← source.number? extra
        wordLengths? code wanted fuel (lengths ++ List.replicate (base + more) repeated) source

/-- Reads some numbers of three bits. -/
def triples? : Nat → BitSource → Option (List Nat × BitSource)
  | 0, source => some ([], source)
  | count + 1, source => do
    let (n, source) ← source.number? 3
    let (rest, source) ← triples? count source
    return (n :: rest, source)

/-- Reads the codes that a block brings. -/
def codes? (source : BitSource) : Option (PrefixCode × PrefixCode × BitSource) := do
  let (symbols, source) ← source.number? 5
  let (distances, source) ← source.number? 5
  let (given, source) ← source.number? 4
  let (lengths, source) ← triples? (given + 4) source
  let table := lengthOrder.zip lengths
  let code := PrefixCode.ofLengths ((List.range 19).map fun i => (table.lookup i).getD 0)
  let wanted := symbols + 257 + (distances + 1)
  let (lengths, source) ← wordLengths? code wanted (wanted + 1) [] source
  return (PrefixCode.ofLengths (lengths.take (symbols + 257)),
    PrefixCode.ofLengths (lengths.drop (symbols + 257)), source)

/-- Reads a block of octets that are kept as they are. -/
def plainBlock? (out : ByteArray) (source : BitSource) : Option (ByteArray × BitSource) := do
  let (length, source) ← source.align.number? 16
  let (_, source) ← source.number? 16
  let start := source.place / 8
  if source.octets.size < start + length then none
  else
    return (out ++ source.octets.extract start (start + length),
      { source with place := 8 * (start + length) })

/-- Unpacks blocks up to the last one. -/
def unpackBlocks? : Nat → ByteArray → BitSource → Option ByteArray
  | 0, _, _ => none
  | fuel + 1, out, source => do
    let (last, source) ← source.number? 1
    let (kind, source) ← source.number? 2
    let bits := 8 * source.octets.size + 1
    let (out, source) ←
      match kind with
      | 0 => plainBlock? out source
      | 1 =>
        unpackSymbols PrefixCode.standardSymbols PrefixCode.standardDistances bits out source
      | 2 => do
        let (symbols, distances, source) ← codes? source
        unpackSymbols symbols distances bits out source
      | _ => none
    if last == 1 then return out else unpackBlocks? fuel out source

/-- Unpacks compressed octets. -/
def inflate? (octets : ByteArray) : Option ByteArray :=
  unpackBlocks? (8 * octets.size + 1) ByteArray.empty ⟨octets, 0⟩

end Restack.Archive
