import DataLayer.Proofs.Template.Lines
import DataLayer.Template.Parser

/-!
Tags without an end. The reader reports the first pair of opening braces behind which no pair of
closing ones follows, and it counts the octets of the reduced source. All that the reduction of
standalone lines takes away stands before such a tag, so the place is that of the source itself
exactly if nothing is reduced.
-/

namespace DataLayer.Template

open Text

/-! Places of tags without an end. -/

/-- At this octet of a source stands a pair of opening braces, and no pair of closing ones comes
behind it. -/
def OpensAt (cs : List Char) (offset : Nat) : Prop :=
  ∃ before after, cs = before ++ '{' :: '{' :: after ∧ octetCount before = offset ∧
    ¬['}', '}'] <:+: after

/-- A source that ends in a pair of closing braces and text that opens nothing. -/
def EndsTag (cs : List Char) : Prop :=
  ∃ front trail, cs = front ++ '}' :: '}' :: trail ∧ '{' ∉ trail

theorem EndsTag.prepend {cs : List Char} (h : EndsTag cs) (front : List Char) :
    EndsTag (front ++ cs) := by
  obtain ⟨more, trail, rfl, htrail⟩ := h
  exact ⟨front ++ more, trail, (List.append_assoc ..).symm, htrail⟩

theorem EndsTag.append {cs more : List Char} (h : EndsTag cs) (hmore : '{' ∉ more) :
    EndsTag (cs ++ more) := by
  obtain ⟨front, trail, rfl, htrail⟩ := h
  exact ⟨front, trail ++ more, by simp, by simp [htrail, hmore]⟩

theorem endsTag_braced (content : List Char) : EndsTag (braced content) :=
  ⟨'{' :: '{' :: content, [], rfl, by simp⟩

theorem suffix_of_cons_suffix {c : Char} {cs trail rest : List Char}
    (h : c :: cs <:+ trail ++ rest) (htrail : c ∉ trail) : c :: cs <:+ rest := by
  induction trail with
  | nil => exact h
  | cons d trail ih =>
    rcases List.suffix_cons_iff.mp h with heq | hsuffix
    · exact absurd (List.cons.inj heq).1 (List.ne_of_not_mem_cons htrail)
    · exact ih hsuffix (List.not_mem_of_not_mem_cons htrail)

/-- Tags without an end stand behind every tag that has one. -/
theorem EndsTag.opensAt_append_iff {cs : List Char} (h : EndsTag cs) {rest : List Char}
    {offset : Nat} :
    OpensAt (cs ++ rest) offset ↔ ∃ n, OpensAt rest n ∧ offset = octetCount cs + n := by
  constructor
  · rintro ⟨before, after, hsource, rfl, hafter⟩
    obtain ⟨front, trail, rfl, htrail⟩ := h
    have hopen : ¬['}', '}'] <:+: '{' :: '{' :: after := by
      simpa [List.infix_cons_iff] using hafter
    have hsuffix : '{' :: '{' :: after <:+ front ++ ('}' :: '}' :: (trail ++ rest)) :=
      ⟨before, by rw [← hsource, List.append_assoc]; rfl⟩
    have hbehind : '{' :: '{' :: after <:+ ['}', '}'] ++ trail ++ rest := by
      rcases List.suffix_or_suffix_of_suffix hsuffix (List.suffix_append ..) with hs | hs
      · exact hs
      · exact absurd ((List.prefix_append ['}', '}'] _).isInfix.trans hs.isInfix) hopen
    obtain ⟨before', rfl⟩ := suffix_of_cons_suffix hbehind (by simpa using htrail)
    refine ⟨octetCount before', ⟨before', after, rfl, rfl, hafter⟩, ?_⟩
    rw [← List.append_assoc] at hsource
    rw [← List.append_cancel_right hsource, octetCount_append]
  · rintro ⟨n, ⟨before, after, rfl, rfl, hafter⟩, rfl⟩
    exact ⟨cs ++ before, after, by rw [List.append_assoc], octetCount_append cs before, hafter⟩

/-- A pair of opening braces that no pair comes before is the first one. -/
theorem octetCount_le_of_no_pair {before after before' after' : List Char}
    (hbefore : ¬['{', '{'] <:+: before ++ ['{'])
    (h : before ++ '{' :: '{' :: after = before' ++ '{' :: '{' :: after') :
    octetCount before ≤ octetCount before' := by
  rcases Nat.lt_or_ge (octetCount before') (octetCount before) with hlt | hle
  · obtain ⟨between, rfl, hbetween⟩ := exists_between_of_octetCount_le h.symm (Nat.le_of_lt hlt)
    have hlength : 0 < between.length := by
      refine List.length_pos_iff.mpr ?_
      rintro rfl
      simp at hlt
    have hpair : ['{', '{'] <+: between ++ ['{'] := by
      refine List.prefix_of_prefix_length_le (List.prefix_append _ after') ?_ ?_
      · exact ⟨'{' :: after, by simpa using hbetween.symm⟩
      · simp only [List.length_append, List.length_cons, List.length_nil]
        omega
    rw [List.append_assoc] at hbefore
    exact absurd (hpair.isInfix.trans (List.suffix_append before' _).isInfix) hbefore
  · exact hle

/-- The tag without an end that a source is cut at is the first one. -/
theorem opensAt_of_unclosed {offset n : Nat} {cs : List Char}
    (h : Token.unclosed n ∈ tokens offset cs) :
    ∃ place, n = offset + place ∧ OpensAt cs place ∧
      ∀ other, OpensAt cs other → place ≤ other := by
  have hcut := cut_tokens offset cs
  generalize tokens offset cs = ts at hcut h
  induction hcut with
  | text => simp at h
  | @unclosed offset before after hbefore hafter =>
    obtain rfl : n = offset + octetCount before := by simpa using h
    refine ⟨octetCount before, rfl, ⟨before, after, rfl, rfl, hafter⟩, ?_⟩
    rintro other ⟨before', after', hsource, rfl, -⟩
    exact octetCount_le_of_no_pair hbefore hsource
  | @tag offset before content rest ts _ _ _ ih =>
    obtain ⟨place, rfl, hplace, hfirst⟩ := ih (by simpa using h)
    have hends := (endsTag_braced content).prepend before
    have hsource : before ++ (braced content ++ rest) = before ++ braced content ++ rest :=
      (List.append_assoc ..).symm
    refine ⟨octetCount (before ++ braced content) + place, ?_, ?_, fun other hother => ?_⟩
    · rw [octetCount_append, octetCount_braced]
      omega
    · rw [hsource]
      exact hends.opensAt_append_iff.mpr ⟨place, hplace, rfl⟩
    · rw [hsource] at hother
      obtain ⟨n, hn, rfl⟩ := hends.opensAt_append_iff.mp hother
      exact Nat.add_le_add_left (hfirst n hn) _

theorem unclosed_mem_of_build {stack : List OpenSection} {nodes : List Node} {ts : List Token}
    {offset : Nat} (h : build stack nodes ts = .error (.unclosedTag offset)) :
    .unclosed offset ∈ ts := by
  fun_induction build stack nodes ts with
  | case4 stack nodes n rest =>
    obtain rfl : n = offset := by simpa using h
    exact List.mem_cons_self
  | case1 | case2 | case5 | case9 | case11 => simp at h
  | case3 _ _ _ _ ih | case6 _ _ _ _ _ _ ih | case7 _ _ _ _ _ _ _ _ ih
  | case8 _ _ _ _ _ _ _ _ ih | case10 _ _ _ _ _ _ _ ih => exact List.mem_cons_of_mem _ (ih h)

/-! What the reduction of lines takes away. -/

theorem stripLine_cases (l : List Char) :
    stripLine l = l ∨
      EndsTag l ∧ EndsTag (stripLine l) ∧ octetCount (stripLine l) < octetCount l := by
  cases hstandalone : isStandalone (trimChars l) with
  | false => exact Or.inl (stripLine_eq_self hstandalone)
  | true =>
    obtain ⟨lead, content, brace, trail, hl, hstrip, -, hopen, -, htrail⟩ :=
      exists_of_isStandalone hstandalone
    have hends : EndsTag (braced content ++ brace) := (endsTag_braced content).append hopen
    have hl' : l = lead ++ (stripLine l ++ trail) := by rw [hstrip, List.append_assoc, hl]
    by_cases hnone : lead = [] ∧ trail = []
    · obtain ⟨rfl, rfl⟩ := hnone
      left
      rw [hstrip, hl, List.append_nil, List.nil_append]
    · right
      rw [← hstrip] at hends
      refine ⟨?_, hends, ?_⟩
      · rw [hl']
        exact (hends.append (brace_notMem_of_blank htrail)).prepend lead
      · have hoctets := congrArg octetCount hl'
        rw [octetCount_append, octetCount_append] at hoctets
        rw [← octetCount_eq_zero_iff, ← octetCount_eq_zero_iff] at hnone
        omega

/-- Either nothing is reduced, or something is taken away in front of a common rest. -/
theorem flatMap_stripLine_cases (ls : List (List Char)) :
    ls.flatMap stripLine = ls.flatten ∨
      ∃ front reduced rest, ls.flatten = front ++ rest ∧ ls.flatMap stripLine = reduced ++ rest ∧
        EndsTag front ∧ EndsTag reduced ∧ octetCount reduced < octetCount front := by
  induction ls with
  | nil => exact Or.inl rfl
  | cons l ls ih =>
    rw [List.flatten_cons, List.flatMap_cons]
    rcases ih with hsame | ⟨front, reduced, rest, hfront, hreduced, hends, hends', hless⟩
    · rw [hsame]
      rcases stripLine_cases l with hl | ⟨hl, hl', hless⟩
      · exact Or.inl (by rw [hl])
      · exact Or.inr ⟨l, stripLine l, ls.flatten, rfl, rfl, hl, hl', hless⟩
    · refine Or.inr ⟨l ++ front, stripLine l ++ reduced, rest, ?_, ?_, hends.prepend l,
        hends'.prepend (stripLine l), ?_⟩
      · rw [hfront, List.append_assoc]
      · rw [hreduced, List.append_assoc]
      · rw [octetCount_append, octetCount_append]
        rcases stripLine_cases l with hl | ⟨-, -, hl⟩
        · rw [hl]
          omega
        · omega

theorem stripStandalone_cases (cs : List Char) :
    stripStandalone cs = cs ∨
      ∃ front reduced rest, cs = front ++ rest ∧ stripStandalone cs = reduced ++ rest ∧
        EndsTag front ∧ EndsTag reduced ∧ octetCount reduced < octetCount front := by
  have hcases := flatMap_stripLine_cases (lines cs)
  rwa [flatten_lines] at hcases

/-! The place that is reported. -/

/-- The offset at which a source is reported to have a tag without an end. -/
def unclosedAt? (source : String) : Option Nat :=
  match parse source with
  | .error (.unclosedTag offset) => some offset
  | _ => none

/-- A tag without an end is reported as far behind the start as the first one stands in the reduced
source, which is its place in the source itself exactly if no line is reduced. -/
theorem unclosed_tags_located {source : String} {offset : Nat}
    (h : parse source = .error (.unclosedTag offset)) :
    (∃ place, OpensAt source.toList place ∧
      (∀ other, OpensAt source.toList other → place ≤ other) ∧
      place + octetCount (stripStandalone source.toList) = offset + octetCount source.toList) ∧
      (OpensAt source.toList offset ↔ stripStandalone source.toList = source.toList) := by
  obtain ⟨place, hoffset, hplace, hfirst⟩ := opensAt_of_unclosed (unclosed_mem_of_build h)
  obtain rfl : offset = place := by omega
  generalize source.toList = cs at hplace hfirst ⊢
  rcases stripStandalone_cases cs with
    hsame | ⟨front, reduced, rest, rfl, hstrip, hends, hends', hless⟩
  · rw [hsame] at hplace hfirst ⊢
    exact ⟨⟨offset, hplace, hfirst, rfl⟩, iff_of_true hplace rfl⟩
  · rw [hstrip] at hplace hfirst ⊢
    obtain ⟨n, hn, rfl⟩ := hends'.opensAt_append_iff.mp hplace
    have hmin (other : Nat) (hother : OpensAt (front ++ rest) other) :
        octetCount front + n ≤ other := by
      obtain ⟨m, hm, rfl⟩ := hends.opensAt_append_iff.mp hother
      have hle := hfirst _ (hends'.opensAt_append_iff.mpr ⟨m, hm, rfl⟩)
      omega
    refine ⟨⟨octetCount front + n, hends.opensAt_append_iff.mpr ⟨n, hn, rfl⟩, hmin, ?_⟩,
      iff_of_false (fun hopen => ?_) fun hsame => ?_⟩
    · rw [octetCount_append, octetCount_append]
      omega
    · have hle := hmin _ hopen
      omega
    · rw [List.append_cancel_right hsame] at hless
      omega

theorem eq_error_of_unclosedAt? {source : String} {offset : Nat}
    (h : unclosedAt? source = some offset) : parse source = .error (.unclosedTag offset) := by
  unfold unclosedAt? at h
  split at h
  · next heq => rw [heq, Option.some.inj h]
  · contradiction

/-- A comment on an indented line, and text of several octets, in front of a tag without an end. -/
def cutOffSource : String := "é\n  {{! c }}\n\x7b\x7bB\x7d\x7d \x7b\x7bx"

theorem unclosed_tags_located_cut_off :
    parse cutOffSource = .error (.unclosedTag 17) ∧ OpensAt cutOffSource.toList 20 ∧
      ¬OpensAt cutOffSource.toList 17 := by
  have h : parse cutOffSource = .error (.unclosedTag 17) :=
    eq_error_of_unclosedAt? (by decide +kernel)
  obtain ⟨⟨place, hplace, -, hoctets⟩, hiff⟩ := unclosed_tags_located h
  have hsource : octetCount cutOffSource.toList = 23 := by decide +kernel
  have hstripped : octetCount (stripStandalone cutOffSource.toList) = 20 := by decide +kernel
  obtain rfl : place = 20 := by omega
  exact ⟨h, hplace, fun hopen => absurd (congrArg octetCount (hiff.mp hopen)) (by omega)⟩

/-- A comment on a line of its own moves the place that is reported. -/
theorem unclosed_tag_misplaced :
    parse "{{! c }}\n\x7b\x7bx" = .error (.unclosedTag 8) ∧
      ¬OpensAt "{{! c }}\n\x7b\x7bx".toList 8 := by
  refine ⟨eq_error_of_unclosedAt? (by decide +kernel), ?_⟩
  rintro ⟨before, after, hsource, hoctets, -⟩
  have hsplit : "{{! c }}".toList ++ "\n\x7b\x7bx".toList = before ++ '{' :: '{' :: after := hsource
  have hcomment : octetCount "{{! c }}".toList = 8 := by decide
  obtain ⟨between, rfl, hbehind⟩ :=
    exists_between_of_octetCount_le hsplit (by omega)
  rw [octetCount_append, hcomment] at hoctets
  obtain rfl := octetCount_eq_zero_iff.mp (Nat.add_eq_left.mp hoctets)
  exact absurd (List.cons.inj hbehind).1 (by decide)

end DataLayer.Template
