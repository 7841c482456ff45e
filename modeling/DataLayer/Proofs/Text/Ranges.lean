import DataLayer.Text.Alphabetic
import DataLayer.Text.Blank

/-!
Tables of code points that have nothing in common. The characters that delimit the parts of a tag
are neither letters nor digits.
-/

namespace DataLayer.Text

/-- Whether no range of one table meets a range of the other. -/
def disjointRanges (table table' : Array (Nat × Nat)) : Bool :=
  table.toList.all fun r => table'.toList.all fun s => r.2 < s.1 || s.2 < r.1

theorem inRanges_eq_false {table table' : Array (Nat × Nat)}
    (h : disjointRanges table table' = true) {c : Char} (hc : inRanges table c = true) :
    inRanges table' c = false := by
  unfold inRanges at hc ⊢
  rw [← Array.any_toList, List.any_eq_true] at hc
  rw [← Array.any_toList, List.any_eq_false]
  obtain ⟨r, hr, hrc⟩ := hc
  intro s hs hsc
  have hapart := List.all_eq_true.mp (List.all_eq_true.mp h r hr) s hs
  simp only [Bool.and_eq_true, Bool.or_eq_true, decide_eq_true_eq] at hrc hsc hapart
  omega

/-- White space, the marks of tags, quotes, parentheses, braces and the pipe. -/
def delimiterRanges : Array (Nat × Nat) :=
  blankRanges ++ #[(0x21, 0x23), (0x27, 0x29), (0x2f, 0x2f), (0x5e, 0x5e), (0x7b, 0x7d)]

def isDelimiter (c : Char) : Bool := inRanges delimiterRanges c

theorem isDelimiter_of_isBlank {c : Char} (h : isBlank c = true) : isDelimiter c = true := by
  unfold isDelimiter inRanges delimiterRanges
  rw [Array.any_append, Bool.or_eq_true]
  exact Or.inl h

theorem isAlphanumeric_of_isDelimiter {c : Char} (h : isDelimiter c = true) :
    isAlphanumeric c = false := by
  have halphabetic : disjointRanges delimiterRanges alphabeticRanges = true := by decide +kernel
  have hnumeric : disjointRanges delimiterRanges numericRanges = true := by decide +kernel
  rw [isAlphanumeric, isAlphabetic, isNumeric, inRanges_eq_false halphabetic h,
    inRanges_eq_false hnumeric h, Bool.or_self]

end DataLayer.Text
