import DataLayer.Text.Split

/-!
Splitting texts. A character that cuts in the state that is reached at it has the parts of both
sides around it. Where it is one character that cuts, the parts hold none of it and give the text
again when they are joined by it, so a text is split at the places where two texts have been put
together.
-/

namespace DataLayer.Text

/-! Splitting with a state. -/

section State

variable {σ : Type} {cut : σ → Char → Bool} {step : σ → Char → σ} {s : σ}

theorem consFirst_append {ps : List (List Char)} (h : ps ≠ []) (c : Char)
    (qs : List (List Char)) : consFirst c (ps ++ qs) = consFirst c ps ++ qs := by
  cases ps with
  | nil => contradiction
  | cons p ps => rfl

/-- A character that cuts has the parts of both sides around it. -/
theorem splitScan_append_cons {before : List Char} {c : Char}
    (h : cut (before.foldl step s) c = true) (after : List Char) :
    splitScan cut step s (before ++ c :: after) =
      splitScan cut step s before ++
        splitScan cut step (step (before.foldl step s) c) after := by
  induction before generalizing s with
  | nil =>
    have hcut : cut s c = true := h
    simp [splitScan, hcut]
  | cons d before ih =>
    rw [List.cons_append, splitScan, splitScan, ih h, List.foldl_cons]
    split
    · rfl
    · exact consFirst_append (splitScan_ne_nil cut step (step s d) before) d _

/-- Characters that do not cut in a state and keep it become part of the next part. -/
theorem splitScan_append_of_keeps {cs : List Char}
    (h : ∀ c ∈ cs, cut s c = false ∧ step s c = s) (rest : List Char) :
    splitScan cut step s (cs ++ rest) = cs.foldr consFirst (splitScan cut step s rest) := by
  induction cs with
  | nil => rfl
  | cons c cs ih =>
    obtain ⟨hcut, hstep⟩ := h c List.mem_cons_self
    rw [List.cons_append, splitScan, if_neg (by simp [hcut]), hstep,
      ih fun d hd => h d (List.mem_cons_of_mem c hd), List.foldr_cons]

theorem foldl_of_keeps {cs : List Char} (h : ∀ c ∈ cs, step s c = s) : cs.foldl step s = s := by
  induction cs with
  | nil => rfl
  | cons c cs ih =>
    rw [List.foldl_cons, h c List.mem_cons_self]
    exact ih fun d hd => h d (List.mem_cons_of_mem c hd)

theorem foldr_consFirst (cs p : List Char) (ps : List (List Char)) :
    cs.foldr consFirst (p :: ps) = (cs ++ p) :: ps := by
  induction cs with
  | nil => rfl
  | cons c cs ih => rw [List.foldr_cons, ih, consFirst, List.cons_append]

theorem splitScan_of_notMem {separator : Char} (hcut : ∀ s c, cut s c = true → c = separator)
    {cs : List Char} (h : separator ∉ cs) (s : σ) : splitScan cut step s cs = [cs] := by
  induction cs generalizing s with
  | nil => rfl
  | cons c cs ih =>
    simp only [List.mem_cons, not_or] at h
    have hc : cut s c ≠ true := fun hc => h.1 (hcut s c hc).symm
    rw [splitScan, if_neg hc, ih h.2]
    rfl

end State

/-! What stands in front of a character, and between quotes. -/

theorem cutAtFirst_eq_none {separator : Char} {cs : List Char} (h : separator ∉ cs) :
    cutAtFirst separator cs = none := by
  induction cs with
  | nil => rfl
  | cons c cs ih =>
    have hc : c ≠ separator := (List.ne_of_not_mem_cons h).symm
    simp [cutAtFirst, hc, ih (List.not_mem_of_not_mem_cons h)]

theorem cutAtFirst_append {separator : Char} {before : List Char} (h : separator ∉ before)
    (after : List Char) :
    cutAtFirst separator (before ++ separator :: after) = some (before, after) := by
  induction before with
  | nil => simp [cutAtFirst]
  | cons c before ih =>
    have hc : c ≠ separator := (List.ne_of_not_mem_cons h).symm
    simp [cutAtFirst, hc, ih (List.not_mem_of_not_mem_cons h)]

theorem between?_eq_some {q : Char} {cs argument : List Char} :
    between? q cs = some argument ↔ cs = q :: (argument ++ [q]) := by
  cases cs with
  | nil => simp [between?]
  | cons c cs =>
    have hends : (c == q && cs.getLast? == some q) = true ↔ c = q ∧ cs.getLast? = some q := by simp
    rw [between?]
    by_cases h : c = q ∧ cs.getLast? = some q
    · rw [if_pos (hends.mpr h)]
      obtain ⟨rfl, hlast⟩ := h
      obtain ⟨inner, rfl⟩ := List.getLast?_eq_some_iff.mp hlast
      simp
    · rw [if_neg (mt hends.mp h)]
      constructor
      · intro hnone
        cases hnone
      · intro heq
        obtain ⟨rfl, rfl⟩ := List.cons.inj heq
        exact absurd ⟨rfl, by simp⟩ h

/-! Splitting at one character. -/

/-- Splitting at one character is that of the library. -/
theorem splitAt_eq_splitOn (separator : Char) (cs : List Char) :
    splitAt separator cs = cs.splitOn separator := by
  induction cs with
  | nil => simp [splitAt, splitScan]
  | cons c cs ih =>
    have hcons : splitAt separator (c :: cs) =
        if c == separator then [] :: splitAt separator cs
        else consFirst c (splitAt separator cs) := rfl
    rw [hcons, List.splitOn_cons_eq_if_modifyHead, ih]
    obtain ⟨first, more, hfirst⟩ := List.exists_cons_of_ne_nil (List.splitOn_ne_nil separator cs)
    rw [hfirst]
    rfl

theorem splitAt_ne_nil (separator : Char) (cs : List Char) : splitAt separator cs ≠ [] := by
  rw [splitAt_eq_splitOn]
  exact List.splitOn_ne_nil separator cs

theorem splitAt_of_notMem {separator : Char} {cs : List Char} (h : separator ∉ cs) :
    splitAt separator cs = [cs] := by
  rw [splitAt_eq_splitOn, List.splitOn_eq_singleton h]

theorem splitAt_append_cons (separator : Char) (cs cs' : List Char) :
    splitAt separator (cs ++ separator :: cs') =
      splitAt separator cs ++ splitAt separator cs' := by
  simp only [splitAt_eq_splitOn, List.splitOn_append_cons_self]

theorem intercalate_splitAt (separator : Char) (cs : List Char) :
    [separator].intercalate (splitAt separator cs) = cs := by
  rw [splitAt_eq_splitOn, List.intercalate_splitOn]

theorem splitAt_intercalate {separator : Char} {parts : List (List Char)} (hne : parts ≠ [])
    (h : ∀ part ∈ parts, separator ∉ part) :
    splitAt separator ([separator].intercalate parts) = parts := by
  rw [splitAt_eq_splitOn, List.splitOn_intercalate separator h hne]

/-- No part holds the character. -/
theorem notMem_of_mem_splitAt {separator : Char} {cs part : List Char}
    (h : part ∈ splitAt separator cs) : separator ∉ part := by
  induction cs generalizing part with
  | nil =>
    obtain rfl : part = [] := by simpa [splitAt, splitScan] using h
    simp
  | cons c cs ih =>
    rw [splitAt, splitScan] at h
    split at h
    · rcases List.mem_cons.mp h with rfl | h
      · simp
      · exact ih h
    · next hc =>
      obtain ⟨first, more, hfirst⟩ :=
        List.exists_cons_of_ne_nil (splitAt_ne_nil separator cs)
      change part ∈ consFirst c (splitAt separator cs) at h
      rw [hfirst] at h ih
      rcases List.mem_cons.mp h with rfl | h
      · have hseparator : ¬separator = c := fun heq => hc (by simp [heq])
        simp [hseparator, ih (List.mem_cons_self ..)]
      · exact ih (List.mem_cons_of_mem first h)

theorem splitAt_eq_singleton_iff {separator : Char} {cs : List Char} :
    splitAt separator cs = [cs] ↔ separator ∉ cs := by
  constructor
  · intro h
    have hself : cs ∈ splitAt separator cs := by simp [h]
    exact notMem_of_mem_splitAt hself
  · exact splitAt_of_notMem

/-- A text that does not end in the character ends as its last part does. -/
theorem exists_getLast?_splitAt {separator c : Char} {cs : List Char} (hc : cs.getLast? = some c)
    (hne : c ≠ separator) :
    ∃ last, (splitAt separator cs).getLast? = some last ∧ last.getLast? = some c := by
  induction cs with
  | nil => contradiction
  | cons d cs ih =>
    obtain ⟨first, more, hfirst⟩ := List.exists_cons_of_ne_nil (splitAt_ne_nil separator cs)
    have hcons : splitAt separator (d :: cs) =
        if d == separator then [] :: splitAt separator cs
        else consFirst d (splitAt separator cs) := rfl
    rw [hcons, hfirst]
    by_cases hcs : cs = []
    · subst hcs
      obtain rfl : d = c := by simpa using hc
      obtain ⟨rfl, rfl⟩ := List.cons.inj hfirst
      exact ⟨[d], by simp [hne, consFirst]⟩
    · rw [List.getLast?_cons_of_ne_nil hcs] at hc
      obtain ⟨last, hlast, hend⟩ := ih hc
      rw [hfirst] at hlast
      split
      · exact ⟨last, by rw [List.getLast?_cons_cons, hlast], hend⟩
      · cases more with
        | nil =>
          obtain rfl : first = last := by simpa using hlast
          obtain ⟨front, rfl⟩ := List.getLast?_eq_some_iff.mp hend
          exact ⟨d :: (front ++ [c]), rfl, by simp [List.getLast?_cons]⟩
        | cons second more => exact ⟨last, by simpa [consFirst] using hlast, hend⟩

end DataLayer.Text
