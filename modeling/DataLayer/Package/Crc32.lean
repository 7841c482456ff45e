/-!
The 32-bit cyclic redundancy check: the remainder of the octets, the lowest bit of each first,
under the reflected polynomial `0xEDB88320`. It starts and ends complemented.
-/

namespace DataLayer.Package.Crc32

def polynomial : UInt32 := 0xEDB88320

/-- Moves the remainder on by one bit. -/
def shift (r : UInt32) : UInt32 :=
  if r &&& 1 == 1 then (r >>> 1) ^^^ polynomial else r >>> 1

def shifts : Nat → UInt32 → UInt32
  | 0, r => r
  | n + 1, r => shifts n (shift r)

def addOctet (r : UInt32) (b : UInt8) : UInt32 := shifts 8 (r ^^^ b.toUInt32)

def ofOctets (bytes : List UInt8) : UInt32 := ~~~(bytes.foldl addOctet (~~~0))

end DataLayer.Package.Crc32
