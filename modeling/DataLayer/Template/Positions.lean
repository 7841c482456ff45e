/-!
The positions that a rendering has reached: for each nesting level and tag, how many separators
were asked for since a block was last entered at that level or further out.
-/

namespace DataLayer.Template

/-- Counts by level and tag. -/
structure Positions where
  counts : List ((Nat × Nat) × Nat)
  deriving DecidableEq, Repr

namespace Positions

def empty : Positions := ⟨[]⟩

def isEmpty (p : Positions) : Bool := p.counts.isEmpty

def count (p : Positions) (level tag : Nat) : Nat := (p.counts.lookup (level, tag)).getD 0

/-- Forgets the counts of a level and of all deeper ones. -/
def enterBlock (p : Positions) (level : Nat) : Positions :=
  ⟨p.counts.filter fun e => e.1.1 < level⟩

/-- Adds one to the count of a key, or starts it. -/
def bump (key : Nat × Nat) : List ((Nat × Nat) × Nat) → List ((Nat × Nat) × Nat)
  | [] => [(key, 1)]
  | (k, n) :: rest => if k = key then (k, n + 1) :: rest else (k, n) :: bump key rest

/-- The current position of a tag at a level, which moves on by one. -/
def next (p : Positions) (level tag : Nat) : Nat × Positions :=
  (p.count level tag, ⟨bump (level, tag) p.counts⟩)

end Positions

end DataLayer.Template
