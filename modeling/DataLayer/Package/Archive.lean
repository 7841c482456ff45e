import DataLayer.Package.Bits
import DataLayer.Package.Crc32
import DataLayer.Text.Utf8

/-!
Archives of named entries. An end record at the end of an archive points to its directory, and a
directory entry to the data of an entry. What stands before the first entry moves all offsets by
its length, so the directory is looked for from its offset on.
-/

namespace DataLayer.Package

/-- A directory entry: where the data of an entry are, and how they are packed. -/
structure Entry where
  name : List UInt8
  encrypted : Bool
  /-- 0 for stored data and 8 for deflated data. -/
  method : Nat
  crc : Nat
  packedSize : Nat
  dataStart : Nat
  deriving DecidableEq

abbrev Archive := List Entry

namespace Archive

def endSignature : List UInt8 := [0x50, 0x4B, 5, 6]

def directorySignature : List UInt8 := [0x50, 0x4B, 1, 2]

def localSignature : List UInt8 := [0x50, 0x4B, 3, 4]

/-- The number in a field of a record. -/
def field (record : List UInt8) (offset width : Nat) : Nat :=
  numberOf ((record.drop offset).take width)

/-- The first offset from `offset` on, and before the end of the octets, at which a signature
stands. -/
def find? (signature : List UInt8) (offset : Nat) : List UInt8 → Option Nat
  | [] => none
  | b :: rest =>
    if signature.isPrefixOf (b :: rest) then some offset else find? signature (offset + 1) rest

/-- The offsets at which a signature stands, the last first. -/
def findAll (signature : List UInt8) (offset : Nat) (found : List Nat) : List UInt8 → List Nat
  | [] => found
  | b :: rest =>
    if signature.isPrefixOf (b :: rest) then findAll signature (offset + 1) (offset :: found) rest
    else findAll signature (offset + 1) found rest

/-- Where the data of a directory entry start: behind its local header, which must come before the
directory as the data must. -/
def dataStart? (bytes : List UInt8) (directory headerStart : Nat) : Option Nat :=
  let header := bytes.drop headerStart
  let start := headerStart + 30 + field header 26 2 + field header 28 2
  if headerStart < directory && localSignature.isPrefixOf header && 30 ≤ (header.take 30).length &&
      start ≤ directory then some start
  else none

/-- Reads directory entries. `shift` is added to the offsets in them. -/
def entries? (bytes : List UInt8) (directory shift : Nat) :
    (count : Nat) → List UInt8 → Option (List Entry)
  | 0, _ => some []
  | count + 1, record => do
    let nameLength := field record 28 2
    let size := 46 + nameLength + field record 30 2 + field record 32 2
    if !directorySignature.isPrefixOf record || (record.take size).length < size then none
    let dataStart ← dataStart? bytes directory (field record 42 4 + shift)
    let entry : Entry :=
      { name := (record.drop 46).take nameLength
        encrypted := field record 8 2 % 2 == 1
        method := field record 10 2
        crc := field record 16 4
        packedSize := field record 20 4
        dataStart := dataStart }
    return entry :: (← entries? bytes directory shift count (record.drop size))

/-- Reads the archive that an end record at this offset ends. -/
def ofEnd? (bytes : List UInt8) (endOffset : Nat) : Option Archive :=
  let record := bytes.drop endOffset
  let directoryOffset := field record 16 4
  if (record.take 22).length < 22 || (record.drop 22).length < field record 20 2 then none
  else if field record 4 2 ≠ field record 6 2 then none
  else if field record 10 2 = 0 then some []
  else if endOffset ≤ directoryOffset then none
  else do
    let directory ← find? directorySignature directoryOffset
      ((bytes.take endOffset).drop directoryOffset)
    entries? bytes directory (directory - directoryOffset) (field record 8 2) (bytes.drop directory)

/-- Reads an archive. Of several end records the last one that fits counts. -/
def ofOctets? (bytes : List UInt8) : Option Archive :=
  (findAll endSignature 0 [] bytes).findSome? (ofEnd? bytes)

/-- The entry of a name. Of several the last one counts. -/
def find (archive : Archive) (name : List UInt8) : Option Entry :=
  archive.reverse.find? (·.name == name)

/-! Writing -/

/-- The octets of a number, the lowest first. -/
def octetsOf : (width : Nat) → Nat → List UInt8
  | 0, _ => []
  | width + 1, n => n.toUInt8 :: octetsOf width (n / 256)

/-- What the local header and the directory entry of a stored entry have in common. -/
def commonFields (name content : List UInt8) : List UInt8 :=
  octetsOf 2 20 ++ octetsOf 2 0x0800 ++ octetsOf 2 0 ++ octetsOf 2 0 ++ octetsOf 2 0x21 ++
    octetsOf 4 (Crc32.ofOctets content).toNat ++ octetsOf 4 content.length ++
    octetsOf 4 content.length ++ octetsOf 2 name.length ++ octetsOf 2 0

def localRecord (name content : List UInt8) : List UInt8 :=
  localSignature ++ commonFields name content ++ name ++ content

def directoryRecord (name content : List UInt8) (headerStart : Nat) : List UInt8 :=
  directorySignature ++ octetsOf 2 20 ++ commonFields name content ++ octetsOf 2 0 ++
    octetsOf 2 0 ++ octetsOf 2 0 ++ octetsOf 4 0 ++ octetsOf 4 headerStart ++ name

/-- The records of entries that start at an offset, and their directory. -/
def records (offset : Nat) : List (List UInt8 × List UInt8) → List UInt8 × List UInt8
  | [] => ([], [])
  | (name, content) :: rest =>
    let record := localRecord name content
    let (more, directory) := records (offset + record.length) rest
    (record ++ more, directoryRecord name content offset ++ directory)

/-- An archive that holds entries as they are. -/
def encode (entries : List (List UInt8 × List UInt8)) : List UInt8 :=
  let (body, directory) := records 0 entries
  body ++ directory ++ endSignature ++ octetsOf 2 0 ++ octetsOf 2 0 ++
    octetsOf 2 entries.length ++ octetsOf 2 entries.length ++ octetsOf 4 directory.length ++
    octetsOf 4 body.length ++ octetsOf 2 0

end Archive

end DataLayer.Package
