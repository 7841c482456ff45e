import DataLayer.Text.Blank

/-! Texts without white space at their ends: what is left of a text that is trimmed. -/

namespace DataLayer.Text

theorem isBlank_newline : isBlank '\n' = true := by simp [isBlank, inRanges, blankRanges]

theorem isBlank_space : isBlank ' ' = true := by simp [isBlank, inRanges, blankRanges]

/-- Visible characters of ASCII are not white space. -/
theorem isBlank_eq_false {c : Char} (hlow : 32 < c.toNat) (hhigh : c.toNat < 127) :
    isBlank c = false := by
  simp [isBlank, inRanges, blankRanges]
  omega

theorem dropWhile_eq_self {p : Char → Bool} {cs : List Char} (h : ∀ c ∈ cs.head?, p c = false) :
    cs.dropWhile p = cs := by
  cases cs with
  | nil => rfl
  | cons c cs => exact List.dropWhile_cons_of_neg (by simp [h c rfl])

theorem of_mem_head?_dropWhile {p : Char → Bool} {cs : List Char} {c : Char}
    (hc : c ∈ (cs.dropWhile p).head?) : p c = false := by
  have h := List.head?_dropWhile_not p cs
  rw [Option.mem_def.mp hc] at h
  exact h

theorem dropEndWhile_prefix (p : Char → Bool) (cs : List Char) : dropEndWhile p cs <+: cs := by
  have h := List.reverse_prefix.mpr (List.dropWhile_suffix (l := cs.reverse) p)
  rwa [List.reverse_reverse] at h

/-- A trimmed text is the text without some white space at its ends. -/
theorem exists_blanks_around (cs : List Char) :
    ∃ lead trail, cs = lead ++ (trimChars cs ++ trail) ∧
      (∀ c ∈ lead, isBlank c = true) ∧ ∀ c ∈ trail, isBlank c = true := by
  have hfront : cs = cs.takeWhile isBlank ++ cs.dropWhile isBlank :=
    List.takeWhile_append_dropWhile.symm
  have hback (l : List Char) :
      l = dropEndWhile isBlank l ++ (l.reverse.takeWhile isBlank).reverse := by
    rw [dropEndWhile, ← List.reverse_append, List.takeWhile_append_dropWhile, List.reverse_reverse]
  refine ⟨cs.takeWhile isBlank, ((cs.dropWhile isBlank).reverse.takeWhile isBlank).reverse, ?_,
    fun c hc => ?_, fun c hc => ?_⟩
  · rw [trimChars, ← hback, ← hfront]
  · exact List.all_eq_true.mp List.all_takeWhile c hc
  · exact List.all_eq_true.mp List.all_takeWhile c (List.mem_reverse.mp hc)

theorem trimChars_append_newline (cs : List Char) : trimChars (cs ++ ['\n']) = trimChars cs := by
  unfold trimChars dropEndWhile
  rw [List.dropWhile_append]
  split
  · next h => simp [List.isEmpty_iff.mp h, isBlank_newline]
  · simp [isBlank_newline]

theorem dropEndWhile_cons {p : Char → Bool} {c : Char} (h : p c = false) (cs : List Char) :
    dropEndWhile p (c :: cs) = c :: dropEndWhile p cs := by
  unfold dropEndWhile
  rw [List.reverse_cons, List.dropWhile_append]
  split
  · next hempty => simp [List.isEmpty_iff.mp hempty, h]
  · simp

theorem trimChars_cons {c : Char} (h : isBlank c = false) (cs : List Char) :
    trimChars (c :: cs) = c :: dropEndWhile isBlank cs := by
  rw [trimChars, List.dropWhile_cons_of_neg (by simp [h]), dropEndWhile_cons h]

theorem of_mem_head?_trimChars {cs : List Char} {c : Char} (hc : c ∈ (trimChars cs).head?) :
    isBlank c = false := by
  obtain ⟨dropped, hdropped⟩ := dropEndWhile_prefix isBlank (cs.dropWhile isBlank)
  have hhead : c ∈ (cs.dropWhile isBlank).head? := by
    rw [← hdropped, List.head?_append, Option.mem_def, ← trimChars, Option.mem_def.mp hc]
    rfl
  exact of_mem_head?_dropWhile hhead

theorem of_mem_getLast?_trimChars {cs : List Char} {c : Char}
    (hc : c ∈ (trimChars cs).getLast?) : isBlank c = false := by
  rw [trimChars, dropEndWhile, List.getLast?_reverse] at hc
  exact of_mem_head?_dropWhile hc

/-- Only white space is dropped. -/
theorem mem_trimChars_iff {cs : List Char} {c : Char} (hc : isBlank c = false) :
    c ∈ trimChars cs ↔ c ∈ cs := by
  have hdrop (l : List Char) : c ∈ l.dropWhile isBlank ↔ c ∈ l := by
    induction l with
    | nil => rfl
    | cons d l ih =>
      cases hd : isBlank d with
      | true =>
        have hne : c ≠ d := by
          rintro rfl
          rw [hc] at hd
          contradiction
        rw [List.dropWhile_cons_of_pos hd, ih, List.mem_cons, or_iff_right hne]
      | false => rw [List.dropWhile_cons_of_neg (by simp [hd])]
  rw [trimChars, dropEndWhile, List.mem_reverse, hdrop, List.mem_reverse, hdrop]

/-- Nothing is dropped from a text exactly if it has no white space at its ends. -/
theorem trimChars_eq_self_iff {cs : List Char} :
    trimChars cs = cs ↔
      (∀ c ∈ cs.head?, isBlank c = false) ∧ ∀ c ∈ cs.getLast?, isBlank c = false := by
  constructor
  · intro h
    rw [← h]
    exact ⟨fun c => of_mem_head?_trimChars, fun c => of_mem_getLast?_trimChars⟩
  · rintro ⟨hhead, hlast⟩
    rw [trimChars, dropWhile_eq_self hhead, dropEndWhile, dropWhile_eq_self, List.reverse_reverse]
    rwa [List.head?_reverse]

@[simp] theorem trimChars_trimChars (cs : List Char) : trimChars (trimChars cs) = trimChars cs :=
  trimChars_eq_self_iff.mpr
    ⟨fun _ => of_mem_head?_trimChars, fun _ => of_mem_getLast?_trimChars⟩

theorem trimChars_eq_self {cs : List Char} (h : ∀ c ∈ cs, isBlank c = false) :
    trimChars cs = cs :=
  trimChars_eq_self_iff.mpr
    ⟨fun c hc => h c (List.mem_of_mem_head? hc), fun c hc => h c (List.mem_of_mem_getLast? hc)⟩

/-- Between two trimmed texts nothing is dropped. -/
theorem trimChars_append {cs cs' : List Char} (hne : cs ≠ []) (hne' : cs' ≠ [])
    (h : trimChars cs = cs) (h' : trimChars cs' = cs') (between : List Char) :
    trimChars (cs ++ (between ++ cs')) = cs ++ (between ++ cs') := by
  rw [trimChars_eq_self_iff] at h h' ⊢
  obtain ⟨first, more, rfl⟩ := List.exists_cons_of_ne_nil hne
  refine ⟨h.1, fun c hc => h'.2 c ?_⟩
  rw [← List.append_assoc, List.getLast?_append] at hc
  rcases Option.or_eq_some_iff.mp hc with hlast | ⟨hnone, -⟩
  · exact hlast
  · exact absurd (List.getLast?_eq_none_iff.mp hnone) hne'

end DataLayer.Text
