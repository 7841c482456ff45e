import DataLayer.Proofs.Text.Splitting
import DataLayer.Proofs.Text.Trimming
import DataLayer.SqlName

/-!
Qualified names that are put together from parts. Splitting a name gives the parts that it was made
of, whether they were written in brackets or not, so the last part and the name with underscores can
be told from the parts.
-/

namespace DataLayer.SqlName

open Text

/-- A part of a name, as it is written: in brackets, where it may hold dots and white space, or
bare. -/
inductive NamePart where
  | bracketed (text : String) (plain : ∀ c ∈ text.toList, c ≠ '[' ∧ c ≠ ']')
  | bare (text : String) (plain : ∀ c ∈ text.toList, c ≠ '.' ∧ c ≠ '[' ∧ c ≠ ']')
    (head : ∀ c ∈ text.toList.head?, isBlank c = false)
    (last : ∀ c ∈ text.toList.getLast?, isBlank c = false)

/-- A text with underscores for dots. -/
def underscored (s : String) : String :=
  String.ofList (s.toList.map fun c => if c == '.' then '_' else c)

/-- A bracket that closes leaves none open. -/
theorem foldl_inBrackets {cs : List Char} (h : cs.getLast? = some ']') (inside : Bool) :
    cs.foldl inBrackets inside = false := by
  obtain ⟨front, rfl⟩ := List.getLast?_eq_some_iff.mp h
  rw [List.foldl_append]
  rfl

theorem inBrackets_of_plain {c : Char} (h : c ≠ '[' ∧ c ≠ ']') (inside : Bool) :
    inBrackets inside c = inside := by
  simp [inBrackets, h.1, h.2]

namespace NamePart

def text : NamePart → String
  | bracketed text _ => text
  | bare text _ _ _ => text

def written : NamePart → String
  | bracketed text _ => "[" ++ text ++ "]"
  | bare text _ _ _ => text

theorem toList_bracketed (text : String) :
    ("[" ++ text ++ "]").toList = '[' :: (text.toList ++ [']']) := by
  simp

theorem foldl_written (p : NamePart) : p.written.toList.foldl inBrackets false = false := by
  cases p with
  | bracketed text plain =>
    refine foldl_inBrackets ?_ false
    rw [written, toList_bracketed, ← List.cons_append, List.getLast?_concat]
  | bare text plain => exact foldl_of_keeps fun c hc => inBrackets_of_plain (plain c hc).2 false

/-- The dots of a part do not split it. -/
theorem rawParts_written (p : NamePart) : rawParts p.written.toList = [p.written.toList] := by
  let cut (inside : Bool) (c : Char) : Bool := !inside && c == '.'
  cases p with
  | bracketed text plain =>
    have hinside : splitScan cut inBrackets true (text.toList ++ [']']) =
        text.toList.foldr consFirst [[']']] :=
      splitScan_append_of_keeps (fun c hc => ⟨rfl, inBrackets_of_plain (plain c hc) true⟩) [']']
    have hsplit : rawParts ('[' :: (text.toList ++ [']'])) =
        consFirst '[' (splitScan cut inBrackets true (text.toList ++ [']'])) := rfl
    rw [written, toList_bracketed, hsplit, hinside, foldr_consFirst]
    rfl
  | bare text plain =>
    have hsplit : splitScan cut inBrackets false (text.toList ++ []) =
        text.toList.foldr consFirst [[]] :=
      splitScan_append_of_keeps
        (fun c hc => ⟨by simp [cut, (plain c hc).1], inBrackets_of_plain (plain c hc).2 false⟩) []
    rwa [foldr_consFirst, List.append_nil] at hsplit

/-- Nothing but its brackets is taken off a part. -/
theorem stripBrackets_written (p : NamePart) : stripBrackets p.written.toList = p.text.toList := by
  have hkept {cs : List Char} (h : ∀ c ∈ cs, c ≠ ']') : dropEndWhile (· == ']') cs = cs := by
    rw [dropEndWhile, dropWhile_eq_self, List.reverse_reverse]
    exact fun c hc => by simpa using h c (List.mem_reverse.mp (List.mem_of_mem_head? hc))
  unfold stripBrackets
  cases p with
  | bracketed text plain =>
    have hbrackets : trimChars ['['] = ['['] ∧ trimChars [']'] = [']'] :=
      ⟨trimChars_eq_self (by simp [isBlank_eq_false]),
        trimChars_eq_self (by simp [isBlank_eq_false])⟩
    have htrim : trimChars ('[' :: (text.toList ++ [']'])) = '[' :: (text.toList ++ [']']) :=
      trimChars_append (List.cons_ne_nil _ _) (List.cons_ne_nil _ _) hbrackets.1 hbrackets.2
        text.toList
    have hopen : (text.toList ++ [']']).dropWhile (· == '[') = text.toList ++ [']'] := by
      refine dropWhile_eq_self fun c hc => ?_
      rcases List.mem_append.mp (List.mem_of_mem_head? hc) with hc | hc
      · simpa using (plain c hc).1
      · simp [List.mem_singleton.mp hc]
    have hclose : dropEndWhile (· == ']') (text.toList ++ [']']) =
        dropEndWhile (· == ']') text.toList := by
      simp [dropEndWhile]
    rw [written, toList_bracketed, htrim, List.dropWhile_cons_of_pos (by decide), hopen, hclose]
    exact hkept fun c hc => (plain c hc).2
  | bare text plain head last =>
    have hopen : text.toList.dropWhile (· == '[') = text.toList :=
      dropWhile_eq_self fun c hc => by simpa using (plain c (List.mem_of_mem_head? hc)).2.1
    rw [written, trimChars_eq_self_iff.mpr ⟨head, last⟩, hopen]
    exact hkept fun c hc => (plain c hc).2.2

end NamePart

/-! Parts that are joined by dots. -/

def qualified (ps : List NamePart) : String := ".".intercalate (ps.map NamePart.written)

theorem qualified_cons {ps : List NamePart} (h : ps ≠ []) (p : NamePart) :
    qualified (p :: ps) = p.written ++ "." ++ qualified ps :=
  String.intercalate_cons_of_ne_nil (by simpa using h)

theorem rawParts_qualified {ps : List NamePart} (h : ps ≠ []) :
    rawParts (qualified ps).toList = ps.map (·.written.toList) := by
  induction ps with
  | nil => contradiction
  | cons p ps ih =>
    by_cases hne : ps = []
    · subst hne
      rw [qualified, List.map_singleton, String.intercalate_singleton, p.rawParts_written]
      rfl
    · have hdot : (qualified (p :: ps)).toList =
          p.written.toList ++ '.' :: (qualified ps).toList := by
        simp [qualified_cons hne]
      have hcut : (!p.written.toList.foldl inBrackets false && '.' == '.') = true := by
        rw [p.foldl_written]
        rfl
      have hstep : inBrackets (p.written.toList.foldl inBrackets false) '.' = false := by
        rw [p.foldl_written]
        rfl
      rw [hdot, rawParts, splitScan_append_cons hcut, hstep, ← rawParts, ← rawParts,
        p.rawParts_written, ih hne]
      rfl

theorem parts_qualified {ps : List NamePart} (h : ps ≠ []) :
    parts (qualified ps) = ps.map NamePart.text := by
  rw [parts, rawParts_qualified h, List.map_map]
  refine List.map_congr_left fun p _ => ?_
  show String.ofList (stripBrackets p.written.toList) = p.text
  rw [p.stripBrackets_written, String.ofList_toList]

/-- The name of a part without brackets, with underscores for dots. -/
theorem bare_written (p : NamePart) : bare p.written = underscored p.text := by
  have hkept {cs : List Char} (h : ∀ c ∈ cs, c ≠ '[' ∧ c ≠ ']') :
      cs.filter (fun c => c != '[' && c != ']') = cs :=
    List.filter_eq_self.mpr fun c hc => by simpa using h c hc
  unfold bare underscored
  cases p with
  | bracketed text plain =>
    rw [NamePart.written, NamePart.toList_bracketed, List.filter_cons_of_neg (by decide),
      List.filter_append, hkept plain, List.filter_cons_of_neg (by decide), List.filter_nil,
      List.append_nil]
    rfl
  | bare text plain =>
    rw [NamePart.written, hkept fun c hc => (plain c hc).2]
    rfl

theorem bare_append (s t : String) : bare (s ++ t) = bare s ++ bare t := by
  simp [bare]

theorem bare_qualified (ps : List NamePart) :
    bare (qualified ps) = "_".intercalate (ps.map fun p => underscored p.text) := by
  induction ps with
  | nil => rfl
  | cons p ps ih =>
    by_cases hne : ps = []
    · subst hne
      simp [qualified, bare_written]
    · have hdot : bare "." = "_" := by decide
      rw [qualified_cons hne, bare_append, bare_append, bare_written, ih, hdot, List.map_cons,
        String.intercalate_cons_of_ne_nil (by simpa using hne)]

/-- Splitting undoes qualification: a name that is put together from parts has these parts, the last
of them for its short name, and them with underscores between and in them for its bare name. -/
theorem splitting_undoes_qualification {ps : List NamePart} (h : ps ≠ []) :
    parts (qualified ps) = ps.map NamePart.text ∧ short (qualified ps) = (ps.getLast h).text ∧
      bare (qualified ps) = "_".intercalate (ps.map fun p => underscored p.text) := by
  refine ⟨parts_qualified h, ?_, bare_qualified ps⟩
  rw [short, parts_qualified h, List.getLastD_eq_getLast?, List.getLast?_map,
    List.getLast?_eq_some_getLast h]
  rfl

/-- A part with a dot and white space, an empty one, and a bare one of several octets. -/
def mixedParts : List NamePart := [
  .bracketed " my.db" (by simp),
  .bracketed "" (by simp),
  .bare "é t" (by simp) (by simp [isBlank, inRanges, blankRanges]) (by simp [isBlank_eq_false])]

theorem splitting_undoes_qualification_mixed :
    mixedParts ≠ [] ∧ qualified mixedParts = "[ my.db].[].é t" ∧
      parts "[ my.db].[].é t" = [" my.db", "", "é t"] ∧ short "[ my.db].[].é t" = "é t" ∧
      bare "[ my.db].[].é t" = " my_db__é t" := by
  have hne : mixedParts ≠ [] := by simp [mixedParts]
  have hname : qualified mixedParts = "[ my.db].[].é t" := by decide +kernel
  obtain ⟨hparts, hshort, hbare⟩ := splitting_undoes_qualification hne
  rw [hname] at hparts hshort hbare
  exact ⟨hne, hname, hparts, hshort, hbare⟩

end DataLayer.SqlName
