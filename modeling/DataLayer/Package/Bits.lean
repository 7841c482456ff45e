/-!
Reading numbers from octets, the lowest bits and the lowest octets first.
-/

namespace DataLayer.Package

/-- The number that octets give, the lowest first. -/
def numberOf : List UInt8 → Nat
  | [] => 0
  | b :: rest => b.toNat + 256 * numberOf rest

/-- Octets that are read bit by bit; so many bits of the first octet are read already. -/
structure BitReader where
  bytes : List UInt8
  used : Nat

namespace BitReader

def ofOctets (bytes : List UInt8) : BitReader := ⟨bytes, 0⟩

def bit? (r : BitReader) : Option (Nat × BitReader) :=
  match r.bytes with
  | [] => none
  | b :: rest =>
    some (b.toNat >>> r.used % 2, if r.used < 7 then ⟨b :: rest, r.used + 1⟩ else ⟨rest, 0⟩)

/-- The number of the next bits, the lowest first. -/
def bits? : Nat → BitReader → Option (Nat × BitReader)
  | 0, r => some (0, r)
  | n + 1, r =>
    match r.bit? with
    | none => none
    | some (b, r) =>
      match bits? n r with
      | none => none
      | some (high, r) => some (b + 2 * high, r)

/-- The octets from the next full one on. -/
def aligned (r : BitReader) : List UInt8 := if r.used = 0 then r.bytes else r.bytes.drop 1

end BitReader

end DataLayer.Package
