import DataLayer.Config.Settings

/-!
What readers of documents leave: the end of what they have been given.
-/

namespace DataLayer.Config

section Rest

variable {cs said rest : List Char}

theorem Read.exists_of_push {c : Option Char} {r : Read (List Char)}
    (h : Read.push c r = some (said, rest)) : ∃ said', r = some (said', rest) := by
  obtain ⟨c, -, h⟩ := Option.bind_eq_some_iff.mp h
  obtain ⟨⟨said', rest'⟩, hr, heq⟩ := Option.map_eq_some_iff.mp h
  obtain ⟨-, rfl⟩ := Prod.mk.inj heq
  exact ⟨said', hr⟩

theorem readBasic_suffix (h : readBasic cs = some (said, rest)) : rest <:+ cs := by
  fun_induction readBasic cs generalizing said with
  | case1 | case8 => cases h
  | case2 =>
    cases h
    apply List.suffix_cons
  | case3 | case4 | case5 | case6 | case7 =>
    rename_i ih
    obtain ⟨said', hread⟩ := Read.exists_of_push h
    simp only [List.suffix_cons_iff, ih hread, or_true]

theorem readLiteral_suffix (h : readLiteral cs = some (said, rest)) : rest <:+ cs := by
  fun_induction readLiteral cs generalizing said with
  | case1 | case4 => cases h
  | case2 =>
    cases h
    apply List.suffix_cons
  | case3 c tail hquote htext ih =>
    obtain ⟨said', hread⟩ := Read.exists_of_push h
    exact (ih hread).trans (List.suffix_cons c tail)

theorem closingQuotes_suffix (q : Char) (cs : List Char) : (closingQuotes q cs).2 <:+ cs := by
  fun_cases closingQuotes q cs
  all_goals simp [List.suffix_cons_iff, *]

theorem readMultiline_suffix {mode : Folding} (h : readMultiline mode cs = some (said, rest)) :
    rest <:+ cs := by
  fun_induction readMultiline mode cs generalizing said with
  | case1 | case5 | case16 => cases h
  | case2 | case3 | case4 | case6 | case11 | case12 | case13 =>
    rename_i ih
    simp only [List.suffix_cons_iff, ih h, or_true]
  | case7 mode hmode tail hfold =>
    have hclosing := closingQuotes_suffix '"' tail
    rw [Option.some.inj h] at hclosing
    simp only [List.suffix_cons_iff, hclosing, or_true]
  | case8 | case9 | case10 | case14 | case15 =>
    rename_i ih
    obtain ⟨said', hread⟩ := Read.exists_of_push h
    simp only [List.suffix_cons_iff, ih hread, or_true]

theorem readMultilineLiteral_suffix (h : readMultilineLiteral cs = some (said, rest)) :
    rest <:+ cs := by
  fun_induction readMultilineLiteral cs generalizing said with
  | case1 | case4 => cases h
  | case2 tail =>
    have hclosing := closingQuotes_suffix '\'' tail
    rw [Option.some.inj h] at hclosing
    simp only [List.suffix_cons_iff, hclosing, or_true]
  | case3 =>
    rename_i ih
    obtain ⟨said', hread⟩ := Read.exists_of_push h
    simp only [List.suffix_cons_iff, ih hread, or_true]

theorem dropLineEnd_suffix (cs : List Char) : dropLineEnd cs <:+ cs := by
  fun_cases dropLineEnd cs
  all_goals simp [List.suffix_cons_iff]

theorem readText_suffix (h : readText cs = some (said, rest)) : rest <:+ cs := by
  unfold readText at h
  split at h
  · next tail =>
    have hread := (readMultiline_suffix h).trans (dropLineEnd_suffix tail)
    simp only [List.suffix_cons_iff, hread, or_true]
  · exact (readBasic_suffix h).trans (List.suffix_cons ..)
  · next tail =>
    have hread := (readMultilineLiteral_suffix h).trans (dropLineEnd_suffix tail)
    simp only [List.suffix_cons_iff, hread, or_true]
  · exact (readLiteral_suffix h).trans (List.suffix_cons ..)
  · cases h

theorem skipFill_suffix {inComment : Bool} (h : skipFill inComment cs = some rest) :
    rest <:+ cs := by
  fun_induction skipFill inComment cs with
  | case1 =>
    cases h
    apply List.suffix_refl
  | case2 | case3 | case5 | case6 =>
    rename_i ih
    exact (ih h).trans (List.suffix_cons ..)
  | case4 => cases h
  | case7 =>
    cases h
    apply List.suffix_refl

theorem readName_suffix {name : String} (h : readName cs = some (name, rest)) : rest <:+ cs := by
  unfold readName at h
  split at h
  · obtain ⟨⟨said, rest'⟩, hread, heq⟩ := Option.map_eq_some_iff.mp h
    obtain ⟨-, rfl⟩ := Prod.mk.inj heq
    exact (readBasic_suffix hread).trans (List.suffix_cons ..)
  · obtain ⟨⟨said, rest'⟩, hread, heq⟩ := Option.map_eq_some_iff.mp h
    obtain ⟨-, rfl⟩ := Prod.mk.inj heq
    exact (readLiteral_suffix hread).trans (List.suffix_cons ..)
  · dsimp only at h
    split at h
    · cases h
    · cases h
      apply List.dropWhile_suffix

theorem skipSpaces_suffix (cs : List Char) : skipSpaces cs <:+ cs := List.dropWhile_suffix _

theorem readSettingName_suffix {name : String} (h : readSettingName cs = some (name, rest)) :
    rest <:+ cs := by
  obtain ⟨⟨name', rest'⟩, hname, h⟩ := Option.bind_eq_some_iff.mp h
  dsimp only at h
  split at h
  · next tail htail =>
    cases h
    have hskip := skipSpaces_suffix rest'
    rw [htail] at hskip
    apply (skipSpaces_suffix tail).trans
    apply (List.suffix_cons '=' tail).trans
    exact hskip.trans (readName_suffix hname)
  · cases h

theorem readHeader_suffix {name : String} (h : readHeader cs = some (name, rest)) :
    rest <:+ cs := by
  obtain ⟨⟨name', rest'⟩, hname, h⟩ := Option.bind_eq_some_iff.mp h
  dsimp only at h
  split at h
  · next tail htail =>
    cases h
    have hskip := skipSpaces_suffix rest'
    rw [htail] at hskip
    have htwo : rest <:+ ']' :: ']' :: rest := by simp [List.suffix_cons_iff]
    apply htwo.trans
    exact hskip.trans ((readName_suffix hname).trans (skipSpaces_suffix cs))
  · cases h

theorem readLineEnd_suffix {inComment : Bool} (h : readLineEnd inComment cs = some rest) :
    rest <:+ cs := by
  fun_induction readLineEnd inComment cs with
  | case1 =>
    cases h
    apply List.suffix_refl
  | case2 =>
    cases h
    apply List.suffix_cons
  | case3 inComment c tail =>
    cases h
    exact (List.drop_suffix 1 tail).trans (List.suffix_cons ..)
  | case4 | case6 | case7 =>
    rename_i ih
    exact (ih h).trans (List.suffix_cons ..)
  | case5 | case8 => cases h

end Rest

end DataLayer.Config
