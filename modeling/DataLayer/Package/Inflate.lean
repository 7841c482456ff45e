import DataLayer.Package.Bits

/-!
Decompression of deflated data: blocks that are stored, or coded with fixed or with own codes, and
in a coded block literal octets and copies of earlier output. Codes are canonical, so the lengths
of the code words determine them.
-/

namespace DataLayer.Package.Inflate

/-- A canonical code: how many words of each length from 1 to 15 there are, and the symbols in the
order of their words. -/
structure Code where
  counts : List Nat
  symbols : Array Nat

namespace Code

def lengths : List Nat := [1, 2, 3, 4, 5, 6, 7, 8, 9, 10, 11, 12, 13, 14, 15]

/-- The share of all words of 15 bits that the code words cover. -/
def coverage : List Nat → List Nat → Nat
  | count :: counts, length :: lengths => count * Nat.pow 2 (15 - length) + coverage counts lengths
  | _, _ => 0

/-- The code with these word lengths by symbol, where length 0 means no word. It must cover all
words exactly unless it has at most one. -/
def ofLengths? (wordLengths : List Nat) : Option Code :=
  let counts := lengths.map fun length => wordLengths.count length
  let symbols := lengths.flatMap fun length =>
    (wordLengths.zipIdx.filter (·.1 == length)).map (·.2)
  if coverage counts lengths = Nat.pow 2 15 || symbols.length ≤ 1 then some ⟨counts, symbols.toArray⟩
  else none

/-- Reads on from a word of the bits so far. The words of the next length start at `2 * first`, and
their symbols at `index`. -/
def symbolFrom? (symbols : Array Nat) :
    List Nat → (word first index : Nat) → BitReader → Option (Nat × BitReader)
  | [], _, _, _, _ => none
  | count :: counts, word, first, index, r =>
    match r.bit? with
    | none => none
    | some (b, r) =>
      let word := 2 * word + b
      let first := 2 * first
      if word < first + count then
        match symbols[index + (word - first)]? with
        | none => none
        | some s => some (s, r)
      else symbolFrom? symbols counts word (first + count) (index + count) r

/-- Reads a code word. -/
def symbol? (c : Code) (r : BitReader) : Option (Nat × BitReader) :=
  symbolFrom? c.symbols c.counts 0 0 0 r

end Code

/-- Base values with numbers of extra bits. -/
abbrev Ranges := Array (Nat × Nat)

def lengthRanges : Ranges := #[
  (3, 0), (4, 0), (5, 0), (6, 0), (7, 0), (8, 0), (9, 0), (10, 0), (11, 1), (13, 1), (15, 1),
  (17, 1), (19, 2), (23, 2), (27, 2), (31, 2), (35, 3), (43, 3), (51, 3), (59, 3), (67, 4),
  (83, 4), (99, 4), (115, 4), (131, 5), (163, 5), (195, 5), (227, 5), (258, 0)]

def distanceRanges : Ranges := #[
  (1, 0), (2, 0), (3, 0), (4, 0), (5, 1), (7, 1), (9, 2), (13, 2), (17, 3), (25, 3), (33, 4),
  (49, 4), (65, 5), (97, 5), (129, 6), (193, 6), (257, 7), (385, 7), (513, 8), (769, 8),
  (1025, 9), (1537, 9), (2049, 10), (3073, 10), (4097, 11), (6145, 11), (8193, 12), (12289, 12),
  (16385, 13), (24577, 13)]

/-- Reads the value of a range: its base and the number in its extra bits. -/
def rangeValue? (ranges : Ranges) (i : Nat) (r : BitReader) : Option (Nat × BitReader) :=
  match ranges[i]? with
  | none => none
  | some (base, extra) => (r.bits? extra).map fun (n, r) => (base + n, r)

/-- Repeats output from `distance` octets back; what is repeated may be repeated again. -/
def copyBack (distance : Nat) : Nat → Array UInt8 → Array UInt8
  | 0, out => out
  | n + 1, out => copyBack distance n (out.push (out.getD (out.size - distance) 0))

/-- The codes of literals and lengths, and of distances. -/
structure Codes where
  literals : Code
  distances : Code

/-- Reads the length and the distance of a copy. -/
def copy? (codes : Codes) (symbol : Nat) (r : BitReader) : Option (Nat × Nat × BitReader) :=
  match rangeValue? lengthRanges (symbol - 257) r with
  | none => none
  | some (length, r) =>
    match codes.distances.symbol? r with
    | none => none
    | some (d, r) => (rangeValue? distanceRanges d r).map fun (distance, r) => (length, distance, r)

/-- Decodes a block up to its end symbol. Every symbol takes at least one bit, so `fuel` symbols
are enough if there are that many bits. -/
def decode? (codes : Codes) : (fuel : Nat) → BitReader → Array UInt8 →
    Option (BitReader × Array UInt8)
  | 0, _, _ => none
  | fuel + 1, r, out =>
    match codes.literals.symbol? r with
    | none => none
    | some (symbol, r) =>
      if symbol < 256 then decode? codes fuel r (out.push symbol.toUInt8)
      else if symbol = 256 then some (r, out)
      else
        match copy? codes symbol r with
        | none => none
        | some (length, distance, r) =>
          if out.size < distance then none
          else decode? codes fuel r (copyBack distance length out)

def fixedCodes? : Option Codes := do
  return ⟨← Code.ofLengths? (List.replicate 144 8 ++ List.replicate 112 9 ++ List.replicate 24 7 ++
      List.replicate 8 8), ← Code.ofLengths? (List.replicate 32 5)⟩

/-- The order in which the word lengths of the code for word lengths stand. -/
def lengthOrder : List Nat := [16, 17, 18, 0, 8, 7, 9, 6, 10, 5, 11, 4, 12, 3, 13, 2, 14, 1, 15]

/-- Reads numbers of three bits. -/
def triples? : Nat → BitReader → Option (List Nat × BitReader)
  | 0, r => some ([], r)
  | n + 1, r => do
    let (x, r) ← r.bits? 3
    let (xs, r) ← triples? n r
    return (x :: xs, r)

/-- Reads word lengths until there are `n`. A symbol above 15 repeats a length: 16 the last one,
17 and 18 the length zero. The lengths so far are given last first. -/
def wordLengths? (c : Code) (n : Nat) : (fuel : Nat) → List Nat → BitReader →
    Option (List Nat × BitReader)
  | 0, _, _ => none
  | fuel + 1, done, r =>
    if done.length = n then some (done.reverse, r)
    else if n < done.length then none
    else do
      let (symbol, r) ← c.symbol? r
      if symbol < 16 then wordLengths? c n fuel (symbol :: done) r
      else if symbol = 16 then
        let last ← done.head?
        let (k, r) ← r.bits? 2
        wordLengths? c n fuel (List.replicate (k + 3) last ++ done) r
      else
        let (k, r) ← if symbol = 17 then r.bits? 3 else r.bits? 7
        wordLengths? c n fuel (List.replicate (k + if symbol = 17 then 3 else 11) 0 ++ done) r

/-- Reads the codes at the start of a block. -/
def ownCodes? (r : BitReader) : Option (Codes × BitReader) := do
  let (literalCount, r) ← r.bits? 5
  let (distanceCount, r) ← r.bits? 5
  let (lengthCount, r) ← r.bits? 4
  let literalCount := literalCount + 257
  let distanceCount := distanceCount + 1
  if literalCount > 286 || distanceCount > 30 then none
  else
    let (found, r) ← triples? (lengthCount + 4) r
    let inOrder := lengthOrder.zip found
    let c ← Code.ofLengths? ((List.range 19).map fun s => (inOrder.lookup s).getD 0)
    let total := literalCount + distanceCount
    let (all, r) ← wordLengths? c total (total + 1) [] r
    let literals ← Code.ofLengths? (all.take literalCount)
    let distances ← Code.ofLengths? (all.drop literalCount)
    return (⟨literals, distances⟩, r)

/-- Reads a stored block: its length, the complement of that, and its octets. -/
def stored? (r : BitReader) (out : Array UInt8) : Option (BitReader × Array UInt8) :=
  let bytes := r.aligned
  let length := numberOf (bytes.take 2)
  let body := (bytes.drop 4).take length
  if bytes.length < 4 || numberOf ((bytes.drop 2).take 2) + length ≠ 0xFFFF ||
      body.length ≠ length then none
  else some (.ofOctets (bytes.drop (4 + length)), out ++ body)

def block? (fuel : Nat) (kind : Nat) (r : BitReader) (out : Array UInt8) :
    Option (BitReader × Array UInt8) :=
  match kind with
  | 0 => stored? r out
  | 1 => fixedCodes?.bind fun codes => decode? codes fuel r out
  | 2 => (ownCodes? r).bind fun (codes, r) => decode? codes fuel r out
  | _ => none

/-- Reads blocks up to one that is marked as the last. -/
def blocks? (bitCount : Nat) : (fuel : Nat) → BitReader → Array UInt8 → Option (Array UInt8)
  | 0, _, _ => none
  | fuel + 1, r, out =>
    match r.bits? 3 with
    | none => none
    | some (header, r) =>
      match block? bitCount (header / 2) r out with
      | none => none
      | some (r, out) => if header % 2 = 1 then some out else blocks? bitCount fuel r out

/-- What deflated data decompress to. What follows the last block is not read. -/
def inflate? (bytes : List UInt8) : Option (List UInt8) :=
  let bitCount := 8 * bytes.length
  (blocks? bitCount bitCount (.ofOctets bytes) #[]).map Array.toList

end DataLayer.Package.Inflate
