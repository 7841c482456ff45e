/-!
Character properties given as tables of closed ranges of code points, and the test of membership
in such a table.
-/

namespace DataLayer.Text

/-- A character belongs to a table when its code point lies in one of the ranges. -/
def inRanges (table : Array (Nat × Nat)) (c : Char) : Bool :=
  table.any fun r => r.1 ≤ c.toNat && c.toNat ≤ r.2

end DataLayer.Text
