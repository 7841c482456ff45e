import DataLayer.Text.Utf8

/-!
Offsets in octets. A part of a text is found by the number of octets before it, since every
character has at least one.
-/

namespace DataLayer.Text

theorem octetCount_append (cs cs' : List Char) :
    octetCount (cs ++ cs') = octetCount cs + octetCount cs' := by
  have hfold (n : Nat) (xs : List Char) :
      xs.foldl (fun n c => n + c.utf8Size) n = n + octetCount xs := by
    unfold octetCount
    induction xs generalizing n with
    | nil => rfl
    | cons x xs ih => rw [List.foldl_cons, List.foldl_cons, ih, ih (0 + x.utf8Size)]; omega
  rw [octetCount, List.foldl_append, hfold, ← octetCount]

@[simp] theorem octetCount_nil : octetCount [] = 0 := rfl

@[simp] theorem octetCount_cons (c : Char) (cs : List Char) :
    octetCount (c :: cs) = c.utf8Size + octetCount cs := by
  have hfirst : octetCount [c] = c.utf8Size := Nat.zero_add _
  rw [← hfirst, ← octetCount_append]
  rfl

theorem octetCount_eq_zero_iff {cs : List Char} : octetCount cs = 0 ↔ cs = [] := by
  cases cs with
  | nil => simp
  | cons c cs =>
    have hpos := c.utf8Size_pos
    exact iff_of_false (by rw [octetCount_cons]; omega) (List.cons_ne_nil c cs)

theorem octetCount_toList (s : String) : octetCount s.toList = s.utf8ByteSize := by
  have hofList (cs : List Char) : (String.ofList cs).utf8ByteSize = octetCount cs := by
    induction cs with
    | nil => simp
    | cons c cs ih =>
      rw [octetCount_cons, ← ih, ← String.utf8ByteSize_singleton, ← String.utf8ByteSize_append]
      congr 1
      rw [← String.toList_inj]
      simp
  rw [← hofList, String.ofList_toList]

/-- Of two parts of a text, the one with more octets before it is part of what the other starts. -/
theorem exists_between_of_octetCount_le {before before' after after' : List Char}
    (h : before ++ after = before' ++ after') (hle : octetCount before ≤ octetCount before') :
    ∃ between, before' = before ++ between ∧ after = between ++ after' := by
  rcases List.append_eq_append_iff.mp h with ⟨between, hbefore, hafter⟩ | ⟨between, rfl, rfl⟩
  · exact ⟨between, hbefore, hafter⟩
  · cases between with
    | nil => exact ⟨[], by simp, by simp⟩
    | cons c cs =>
      have hpos := c.utf8Size_pos
      rw [octetCount_append, octetCount_cons] at hle
      omega

end DataLayer.Text
