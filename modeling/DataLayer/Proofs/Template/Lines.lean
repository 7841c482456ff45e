import DataLayer.Proofs.Template.Tokens
import DataLayer.Proofs.Text.Separators
import DataLayer.Proofs.Text.Trimming

/-!
Lines of template sources. A source is read line by line from the front: reducing its standalone
lines goes on behind each line end, and a line is standalone if it is one tag with white space
around it, which the reduction takes away.
-/

namespace DataLayer.Template

open Text

/-! Sources as sequences of lines. -/

theorem lines_cons {l : List Char} (h : '\n' ∉ l) (rest : List Char) :
    lines (l ++ '\n' :: rest) = (l ++ ['\n']) :: lines rest := by
  induction l with
  | nil => simp [lines]
  | cons c l ih =>
    simp only [List.mem_cons, not_or] at h
    have hc : (c == '\n') = false := beq_false_of_ne (Ne.symm h.1)
    rw [List.cons_append, lines, hc, ih h.2]
    rfl

theorem lines_last {cs : List Char} (h : '\n' ∉ cs) (hne : cs ≠ []) : lines cs = [cs] := by
  induction cs with
  | nil => exact absurd rfl hne
  | cons c cs ih =>
    simp only [List.mem_cons, not_or] at h
    have hc : (c == '\n') = false := beq_false_of_ne (Ne.symm h.1)
    rw [lines, hc]
    cases cs with
    | nil => rfl
    | cons d cs => rw [ih h.2 (List.cons_ne_nil d cs)]; rfl

/-- Induction over sources, the first line first. -/
@[elab_as_elim]
theorem lines_induction {motive : List Char → Prop} (last : ∀ cs, '\n' ∉ cs → motive cs)
    (line : ∀ l rest, '\n' ∉ l → motive rest → motive (l ++ '\n' :: rest)) (cs : List Char) :
    motive cs := by
  -- What stands behind the first line is shorter, so the induction is over the length.
  induction hlength : cs.length using Nat.strongRecOn generalizing cs with
  | _ n ih =>
    subst hlength
    by_cases h : '\n' ∈ cs
    · obtain ⟨l, rest, rfl, hl⟩ := List.eq_append_cons_of_mem h
      exact line l rest hl (ih rest.length (by simp; omega) rest rfl)
    · exact last cs h

/-- Nothing is lost between lines. -/
theorem flatten_lines (cs : List Char) : (lines cs).flatten = cs := by
  induction cs using lines_induction with
  | last cs h =>
    by_cases hne : cs = []
    · subst hne
      rfl
    · rw [lines_last h hne, List.flatten_singleton]
  | line l rest h ih => rw [lines_cons h, List.flatten_cons, ih, List.append_assoc]; rfl

/-- Only the last line can lack its line end. -/
theorem getLast?_of_lines_eq {cs line : List Char} {before after : List (List Char)}
    (h : lines cs = before ++ line :: after) : ∀ l ∈ before, l.getLast? = some '\n' := by
  induction cs using lines_induction generalizing before with
  | last cs hcs =>
    by_cases hne : cs = []
    · subst hne
      cases before <;> cases h
    · rw [lines_last hcs hne] at h
      obtain ⟨rfl, -⟩ | ⟨-, hnil⟩ := List.singleton_eq_append_iff.mp h
      · simp
      · cases hnil
  | line first rest hfirst ih =>
    rw [lines_cons hfirst] at h
    cases before with
    | nil => simp
    | cons l before =>
      obtain ⟨rfl, hrest⟩ := List.cons.inj h
      rw [List.forall_mem_cons]
      exact ⟨by simp, ih hrest⟩

/-! Reducing the lines of a source. -/

theorem stripStandalone_line {l : List Char} (h : '\n' ∉ l) (rest : List Char) :
    stripStandalone (l ++ '\n' :: rest) = stripLine (l ++ ['\n']) ++ stripStandalone rest := by
  rw [stripStandalone, lines_cons h, List.flatMap_cons]
  rfl

theorem stripStandalone_last {cs : List Char} (h : '\n' ∉ cs) :
    stripStandalone cs = stripLine cs := by
  by_cases hne : cs = []
  · subst hne
    rfl
  · rw [stripStandalone, lines_last h hne, List.flatMap_singleton]

/-- A source that is empty or ends at a line end. -/
def EndsLine (cs : List Char) : Prop := ∀ c ∈ cs.getLast?, c = '\n'

instance (cs : List Char) : Decidable (EndsLine cs) :=
  decidable_of_iff (cs.getLast?.all (· == '\n') = true) (by simp [EndsLine, Option.all_eq_true])

theorem endsLine_line_iff {l rest : List Char} :
    EndsLine (l ++ '\n' :: rest) ↔ EndsLine rest := by
  cases rest with
  | nil => simp [EndsLine]
  | cons c rest => simp [EndsLine]

theorem EndsLine.eq_nil {cs : List Char} (h : EndsLine cs) (hline : '\n' ∉ cs) : cs = [] := by
  rcases List.eq_nil_or_concat cs with rfl | ⟨front, c, rfl⟩
  · rfl
  · obtain rfl := h c (by simp)
    exact absurd (by simp) hline

/-- Behind a line end the reduction starts anew. -/
theorem EndsLine.stripStandalone_append {cs : List Char} (h : EndsLine cs) (rest : List Char) :
    stripStandalone (cs ++ rest) = stripStandalone cs ++ stripStandalone rest := by
  induction cs using lines_induction with
  | last cs hcs =>
    obtain rfl := h.eq_nil hcs
    rfl
  | line l more hl ih =>
    rw [List.append_assoc, List.cons_append, stripStandalone_line hl, stripStandalone_line hl,
      ih (endsLine_line_iff.mp h), List.append_assoc]

/-! Standalone lines. -/

theorem brace_notMem_of_blank {cs : List Char} (h : ∀ c ∈ cs, isBlank c = true) : '{' ∉ cs := by
  intro hmem
  have hbrace : isBlank '{' = false := isBlank_eq_false (by decide) (by decide)
  rw [h '{' hmem] at hbrace
  contradiction

theorem eq_braced_of_tagContent? {cs content : List Char} (h : tagContent? cs = some content) :
    cs = braced content := by
  unfold tagContent? at h
  split at h
  · next rest =>
    split at h
    · next content' hrest =>
      obtain rfl := Option.some.inj h
      rw [List.reverse_eq_cons_iff] at hrest
      simp [braced, hrest]
    · contradiction
  · contradiction

theorem tagContent?_braced (content : List Char) :
    tagContent? (braced content) = some content := by
  simp [braced, tagContent?]

theorem eq_braced_of_isStandalone {cs : List Char} (h : isStandalone cs = true) :
    ∃ content, cs = braced content := by
  unfold isStandalone at h
  split at h
  · next c rest hcontent => exact ⟨_, eq_braced_of_tagContent? hcontent⟩
  · contradiction

theorem isStandalone_braced_iff {content : List Char} :
    isStandalone (braced content) = true ↔ (∃ c ∈ content.head?, isSilentMark c = true) ∧
      hasPair '{' content = false ∧ hasPair '}' content = false := by
  rw [isStandalone, tagContent?_braced]
  cases content <;> simp [and_assoc]

theorem trimChars_braced (content : List Char) : trimChars (braced content) = braced content := by
  have hopen : isBlank '{' = false := isBlank_eq_false (by decide) (by decide)
  have hclose : isBlank '}' = false := isBlank_eq_false (by decide) (by decide)
  simp [trimChars, dropEndWhile, braced, hopen, hclose]

theorem stripLine_eq_self {l : List Char} (h : isStandalone (trimChars l) = false) :
    stripLine l = l := by
  simp [stripLine, h]

theorem stripLine_eq_trimChars {l : List Char} (h : isStandalone (trimChars l) = true) :
    stripLine l = trimChars l := by
  simp [stripLine, h]

theorem getLast?_braced (content : List Char) : (braced content).getLast? = some '}' := by
  rw [braced, ← List.cons_append, ← List.cons_append, List.getLast?_append]
  rfl

/-- No reduced line ends in an opening brace. -/
theorem getLast?_stripLine {l : List Char} (h : l.getLast? = some '\n') :
    (stripLine l).getLast? ≠ some '{' := by
  cases hstandalone : isStandalone (trimChars l) with
  | false => simp [stripLine_eq_self hstandalone, h]
  | true =>
    obtain ⟨content, hcontent⟩ := eq_braced_of_isStandalone hstandalone
    simp [stripLine_eq_trimChars hstandalone, hcontent, getLast?_braced]

theorem getLast?_flatMap_stripLine {ls : List (List Char)} (h : ∀ l ∈ ls, l.getLast? = some '\n') :
    (ls.flatMap stripLine).getLast? ≠ some '{' := by
  induction ls with
  | nil => simp
  | cons l ls ih =>
    rw [List.flatMap_cons, List.getLast?_append, Ne, Option.or_eq_some_iff, not_or]
    refine ⟨ih fun l' hl' => h l' (List.mem_cons_of_mem l hl'), ?_⟩
    exact fun hlast => getLast?_stripLine (h l List.mem_cons_self) hlast.2

theorem EndsLine.getLast?_of_mem_lines {cs : List Char} (h : EndsLine cs) :
    ∀ l ∈ lines cs, l.getLast? = some '\n' := by
  induction cs using lines_induction with
  | last cs hcs =>
    obtain rfl := h.eq_nil hcs
    simp [lines]
  | line l rest hl ih =>
    rw [lines_cons hl, List.forall_mem_cons]
    exact ⟨by simp, ih (endsLine_line_iff.mp h)⟩

theorem EndsLine.getLast?_stripStandalone {cs : List Char} (h : EndsLine cs) :
    (stripStandalone cs).getLast? ≠ some '{' :=
  getLast?_flatMap_stripLine h.getLast?_of_mem_lines

/-- A standalone line is a tag, perhaps with a brace behind it that opens nothing, and white space
around them. The reduction takes the white space away. -/
theorem exists_of_isStandalone {l : List Char} (h : isStandalone (trimChars l) = true) :
    ∃ lead content brace trail, l = lead ++ (braced content ++ (brace ++ trail)) ∧
      stripLine l = braced content ++ brace ∧ Unpaired '}' content ∧ '{' ∉ brace ∧
      (∀ c ∈ lead, isBlank c = true) ∧ ∀ c ∈ trail, isBlank c = true := by
  obtain ⟨lead, trail, hl, hlead, htrail⟩ := exists_blanks_around l
  obtain ⟨content, hcontent⟩ := eq_braced_of_isStandalone h
  have hstrip := stripLine_eq_trimChars h
  rw [hcontent, isStandalone_braced_iff] at h
  rw [hcontent] at hl hstrip
  obtain ⟨-, -, hpair⟩ := h
  -- The content may end in a brace, which is then one of the first pair of closing ones.
  by_cases hlast : content.getLast? = some '}'
  · obtain ⟨front, rfl⟩ := List.getLast?_eq_some_iff.mp hlast
    have hbraced : braced (front ++ ['}']) = braced front ++ ['}'] := by simp [braced]
    rw [hbraced] at hl hstrip
    refine ⟨lead, front, ['}'], trail, ?_, hstrip, hpair, by decide, hlead, htrail⟩
    rw [hl, List.append_assoc]
  · exact ⟨lead, content, [], trail, hl, by rw [hstrip, List.append_nil],
      unpaired_iff.mpr ⟨hpair, hlast⟩, by decide, hlead, htrail⟩

/-! Tags without text between them. -/

/-- Each pair of closing braces stands at the end or in front of an opening brace. -/
def TagsTouch (cs : List Char) : Prop :=
  ∀ after, '}' :: '}' :: after <:+ cs → after = [] ∨ after.head? = some '{'

/-- Behind unpaired text comes the first pair, and other pairs come behind its first brace. -/
theorem suffix_of_unpaired {x rest after : List Char} (hx : Unpaired '}' x)
    (h : '}' :: '}' :: after <:+ x ++ '}' :: '}' :: rest) :
    after = rest ∨ '}' :: '}' :: after <:+ '}' :: rest := by
  obtain ⟨y, hy⟩ := h
  rcases List.append_eq_append_iff.mp hy with ⟨z, rfl, hz⟩ | ⟨z, rfl, hz⟩
  · -- The pair starts in `x`, so `x` would hold one, but for a pair that starts behind it.
    match z with
    | [] =>
      rw [List.nil_append, List.cons.injEq, List.cons.injEq] at hz
      exact Or.inl hz.2.2
    | [c] =>
      obtain ⟨rfl, -⟩ := List.cons.inj hz
      have hlast := (unpaired_iff.mp hx).2
      simp at hlast
    | c :: d :: z =>
      rw [List.cons_append, List.cons_append, List.cons.injEq, List.cons.injEq] at hz
      obtain ⟨rfl, rfl, -⟩ := hz
      have hpair : ¬['}', '}'] <:+: y ++ '}' :: '}' :: z := not_infix_iff_hasPair.mpr hx.hasPair
      exact absurd ⟨y, z, by simp⟩ hpair
  · match z with
    | [] =>
      rw [List.nil_append, List.cons.injEq, List.cons.injEq] at hz
      exact Or.inl hz.2.2.symm
    | c :: z =>
      obtain ⟨-, hz⟩ := List.cons.inj hz
      exact Or.inr ⟨z, hz.symm⟩

theorem tagsTouch_flatMap_braced {contents : List (List Char)}
    (h : ∀ content ∈ contents, Unpaired '}' content) : TagsTouch (contents.flatMap braced) := by
  induction contents with
  | nil =>
    intro after hsuffix
    simp at hsuffix
  | cons content rest ih =>
    rw [List.forall_mem_cons] at h
    have hopen : Unpaired '}' ['{', '{'] := by decide
    have hfront : Unpaired '}' ('{' :: '{' :: content) := hopen.append h.1
    have hbehind : rest.flatMap braced = [] ∨ (rest.flatMap braced).head? = some '{' := by
      cases rest with
      | nil => exact Or.inl rfl
      | cons next rest => exact Or.inr rfl
    intro after hsuffix
    have hsplit : (content :: rest).flatMap braced =
        ('{' :: '{' :: content) ++ '}' :: '}' :: rest.flatMap braced := by simp [braced]
    rw [hsplit] at hsuffix
    rcases suffix_of_unpaired hfront hsuffix with rfl | hsuffix
    · exact hbehind
    · rcases List.suffix_cons_iff.mp hsuffix with hbrace | hsuffix
      · obtain ⟨-, hbrace⟩ := List.cons.inj hbrace
        rw [← hbrace] at hbehind
        simp at hbehind
      · exact ih h.2 after hsuffix

/-- A line is not reduced where text stands behind its last tag. -/
theorem TagsTouch.eq_nil_of_isStandalone {cs lead content brace trail after : List Char}
    (h : TagsTouch cs) (hcs : lead ++ (braced content ++ (brace ++ trail)) ++ after <:+ cs)
    (hbrace : '{' ∉ brace) (htrail : ∀ c ∈ trail, isBlank c = true) : brace ++ trail = [] := by
  have hclose : '}' :: '}' :: (brace ++ (trail ++ after)) <:+ cs := by
    refine List.IsSuffix.trans ⟨lead ++ '{' :: '{' :: content, ?_⟩ hcs
    simp [braced]
  have hnot : '{' ∉ brace ++ trail := by
    rw [List.mem_append, not_or]
    exact ⟨hbrace, brace_notMem_of_blank htrail⟩
  rw [← List.append_assoc] at hclose
  cases hrest : brace ++ trail with
  | nil => rfl
  | cons c rest =>
    rw [hrest] at hclose hnot
    rcases h _ hclose with hnil | hhead
    · cases hnil
    · obtain rfl := Option.some.inj hhead
      exact absurd List.mem_cons_self hnot

theorem TagsTouch.stripStandalone_eq_self {cs last : List Char} (h : TagsTouch cs)
    (hline : '\n' ∉ last) (hlast : '}' :: '}' :: braced last <:+ cs) :
    stripStandalone cs = cs := by
  have hend : '\n' ∉ '}' :: '}' :: braced last := by simp [braced, hline]
  induction cs using lines_induction with
  | last cs hcs =>
    rw [stripStandalone_last hcs]
    refine stripLine_eq_self (Bool.eq_false_iff.mpr fun hstandalone => ?_)
    obtain ⟨lead, content, brace, trail, rfl, -, hcontent, hbrace, hlead, htrail⟩ :=
      exists_of_isStandalone hstandalone
    have hwhole : lead ++ (braced content ++ (brace ++ trail)) ++ [] <:+
        lead ++ (braced content ++ (brace ++ trail)) := by rw [List.append_nil]
    have hnil := h.eq_nil_of_isStandalone hwhole hbrace htrail
    rw [hnil, List.append_nil] at hlast
    -- In front of its closing braces the tag would hold those of the tag before.
    obtain ⟨front, hfront⟩ := hlast
    have hsame : front ++ '}' :: '}' :: '{' :: '{' :: last = lead ++ '{' :: '{' :: content := by
      refine (List.append_left_inj ['}', '}']).mp ?_
      simpa [braced] using hfront
    have hopen : Unpaired '}' ['{', '{'] := by decide
    have hblank : Unpaired '}' lead := .of_notMem fun hmem => by
      have hclose : isBlank '}' = false := isBlank_eq_false (by decide) (by decide)
      rw [hlead _ hmem] at hclose
      contradiction
    have hpair := not_infix_iff_hasPair.mpr (hblank.append (hopen.append hcontent)).hasPair
    exact hpair ⟨front, '{' :: '{' :: last, by simpa using hsame⟩
  | line l rest hl ih =>
    have hrest : rest <:+ l ++ '\n' :: rest := ⟨l ++ ['\n'], by simp⟩
    rw [stripStandalone_line hl, ih (fun after hafter => h after (hafter.trans hrest))
      (suffix_of_notMem hlast hend)]
    have hplain : isStandalone (trimChars (l ++ ['\n'])) = false := by
      refine Bool.eq_false_iff.mpr fun hstandalone => ?_
      obtain ⟨lead, content, brace, trail, heq, -, -, hbrace, -, htrail⟩ :=
        exists_of_isStandalone hstandalone
      have hwhole : lead ++ (braced content ++ (brace ++ trail)) ++ rest <:+ l ++ '\n' :: rest := by
        rw [← heq, List.append_assoc]
        exact List.suffix_rfl
      have hnil := h.eq_nil_of_isStandalone hwhole hbrace htrail
      rw [hnil, List.append_nil] at heq
      have hclose := congrArg List.getLast? heq
      simp [getLast?_braced] at hclose
    rw [stripLine_eq_self hplain, List.append_assoc]
    rfl

/-- Tags one right behind the other are not reduced where two of them stand on the last line. -/
theorem stripStandalone_flatMap_braced {front : List (List Char)} {content last : List Char}
    (h : ∀ cs ∈ front ++ [content, last], Unpaired '}' cs) (hline : '\n' ∉ last) :
    stripStandalone ((front ++ [content, last]).flatMap braced) =
      (front ++ [content, last]).flatMap braced := by
  refine (tagsTouch_flatMap_braced h).stripStandalone_eq_self hline ?_
  exact ⟨front.flatMap braced ++ '{' :: '{' :: content, by simp [braced]⟩

end DataLayer.Template
