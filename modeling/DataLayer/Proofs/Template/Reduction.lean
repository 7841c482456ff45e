import DataLayer.Proofs.Template.Seams

/-!
What the reduction of standalone lines changes. A line that all its tags end on is read apart from
the lines around it, reduced or not, so where every tag ends on its line the reduction takes nothing
but white space out of the texts: the source is read as the same tree up to white space, or refused
with the same error.
-/

namespace DataLayer.Template

open Text

/-- Whether a character is not white space. -/
def isSolid (c : Char) : Bool := !isBlank c

/-! White space that is taken away. -/

theorem filter_isSolid_of_blank {cs : List Char} (h : ∀ c ∈ cs, isBlank c = true) :
    cs.filter isSolid = [] :=
  List.filter_eq_nil_iff.mpr fun c hc => by simp [isSolid, h c hc]

theorem stripLine_sublist (l : List Char) : (stripLine l).Sublist l := by
  cases hstandalone : isStandalone (trimChars l) with
  | false => rw [stripLine_eq_self hstandalone]
  | true =>
    obtain ⟨lead, trail, hl, -, -⟩ := exists_blanks_around l
    have hinfix : trimChars l <:+: l := ⟨lead, trail, by rw [List.append_assoc, ← hl]⟩
    rw [stripLine_eq_trimChars hstandalone]
    exact hinfix.sublist

theorem filter_stripLine (l : List Char) : (stripLine l).filter isSolid = l.filter isSolid := by
  cases hstandalone : isStandalone (trimChars l) with
  | false => rw [stripLine_eq_self hstandalone]
  | true =>
    obtain ⟨lead, trail, hl, hlead, htrail⟩ := exists_blanks_around l
    have hl' := congrArg (List.filter isSolid) hl
    rw [stripLine_eq_trimChars hstandalone, hl', List.filter_append, List.filter_append,
      filter_isSolid_of_blank hlead, filter_isSolid_of_blank htrail, List.append_nil,
      List.nil_append]

/-- The reduction takes away characters, and all of them are white space. -/
theorem stripStandalone_removes_blanks (cs : List Char) :
    (stripStandalone cs).Sublist cs ∧
      (stripStandalone cs).filter isSolid = cs.filter isSolid := by
  induction cs using lines_induction with
  | last cs h =>
    rw [stripStandalone_last h]
    exact ⟨stripLine_sublist cs, filter_stripLine cs⟩
  | line l rest h ih =>
    have hsource : l ++ '\n' :: rest = l ++ ['\n'] ++ rest := by simp
    rw [stripStandalone_line h, hsource, List.filter_append, List.filter_append, ih.2,
      filter_stripLine]
    exact ⟨(stripLine_sublist _).append ih.1, rfl⟩

/-! Tags that end on their line. -/

/-- A tag that has its end, with no line end before it. -/
def Token.OnLine : Token → Prop
  | .text _ => True
  | .tag content _ => '\n' ∉ content
  | .unclosed _ => False

instance : (t : Token) → Decidable t.OnLine
  | .text _ => inferInstanceAs (Decidable True)
  | .tag content _ => inferInstanceAs (Decidable ('\n' ∉ content))
  | .unclosed _ => inferInstanceAs (Decidable False)

/-- Every tag ends on the line on which it starts. -/
def TagsOnLines (ts : List Token) : Prop := ∀ t ∈ ts, t.OnLine

instance (ts : List Token) : Decidable (TagsOnLines ts) :=
  inferInstanceAs (Decidable (∀ t ∈ ts, t.OnLine))

theorem TagsOnLines.allClosed {ts : List Token} (h : TagsOnLines ts) : AllClosed ts :=
  fun _ hmem => h _ hmem

/-- No tag reaches over a line end. -/
theorem TagsOnLines.allClosed_line {l rest : List Char} {offset : Nat}
    (h : TagsOnLines (tokens offset (l ++ rest))) (hl : l.getLast? = some '\n') :
    AllClosed (tokens offset l) := by
  have hcut := cut_tokens offset l
  generalize tokens offset l = ts at hcut
  induction hcut with
  | text => simp [AllClosed]
  | @unclosed offset before after hbefore hafter =>
    -- The tag would end behind the line, or not at all.
    have hlast : after.getLast? = some '\n' := by
      cases after with
      | nil => simp at hl
      | cons => simpa using hl
    have hopen : Unpaired '}' after := unpaired_iff.mpr
      ⟨not_infix_iff_hasPair.mp hafter, by rw [hlast]; decide⟩
    rw [not_infix_iff_hasPair] at hbefore
    rw [List.append_assoc, List.cons_append, List.cons_append] at h
    cases hcut : cutAtPair '}' rest with
    | none =>
      rw [tokens_unclosed hbefore (hopen.hasPair_append (hasPair_of_cutAtPair hcut))] at h
      exact absurd (h (.unclosed (offset + octetCount before)) (by simp)) id
    | some parts =>
      obtain ⟨content, behind⟩ := parts
      have hcontent := hopen.append (unpaired_of_cutAtPair hcut)
      have hsource : '{' :: '{' :: (after ++ rest) = braced (after ++ content) ++ behind := by
        simp [braced, eq_of_cutAtPair hcut]
      rw [hsource, tokens_braced hbefore hcontent] at h
      have htag : '\n' ∉ after ++ content :=
        h (.tag (after ++ content) (offset + octetCount before)) (by simp)
      exact absurd (List.mem_append_left content (List.mem_of_getLast? hlast)) htag
  | @tag offset before content more ts hbefore hcontent _ ih =>
    have hlast : more.getLast? = some '\n' := by
      rw [List.getLast?_append, List.getLast?_append, getLast?_braced] at hl
      cases hmore : more.getLast? with
      | none => simp [hmore] at hl
      | some c => simpa [hmore] using hl
    rw [List.append_assoc, List.append_assoc, tokens_braced (not_infix_iff_hasPair.mp hbefore)
      (not_infix_iff_hasPair.mp hcontent)] at h
    rw [allClosed_text_iff, allClosed_tag_iff]
    exact ih (fun t ht => h t (by simp [ht])) hlast

/-! Tokens side by side. -/

theorem mem_glue {t : Token} {us : List Token} (ht : t ∈ us) (htext : ∀ cs, t ≠ .text cs)
    (ts : List Token) : t ∈ glue ts us := by
  fun_induction glue ts us with
  | case1 => exact ht
  | case2 cs us =>
    unfold glueText
    split
    · next cs' us =>
      have hrest := (List.mem_cons.mp ht).resolve_left (htext cs')
      exact List.mem_cons_of_mem _ hrest
    · exact List.mem_cons_of_mem _ ht
  | case3 t' rest us _ ih => exact List.mem_cons_of_mem t' (ih ht)

theorem forall₂_glue {keep : Char → Bool} {ts ts' us us' : List Token}
    (hts : List.Forall₂ (Token.Like keep) ts ts') (hus : List.Forall₂ (Token.Like keep) us us') :
    List.Forall₂ (Token.Like keep) (glue ts us) (glue ts' us') := by
  induction hts with
  | nil => exact hus
  | @cons t t' rest rest' hlike hrest ih =>
    cases hlike with
    | tag => exact .cons .tag ih
    | @text cs cs' hcs =>
      cases hrest with
      | cons => exact .cons (.text hcs) ih
      | nil =>
        show List.Forall₂ _ (glueText cs us) (glueText cs' us')
        cases hus with
        | nil => exact .cons (.text hcs) .nil
        | cons hfirst hmore =>
          cases hfirst with
          | tag => exact .cons (.text hcs) (.cons .tag hmore)
          | text hfirst =>
            refine .cons (.text ?_) hmore
            rw [List.filter_append, List.filter_append, hcs, hfirst]

theorem AllClosed.of_forall₂ {keep : Char → Bool} {ts ts' : List Token}
    (h : List.Forall₂ (Token.Like keep) ts ts') : AllClosed ts := by
  induction h with
  | nil => simp [AllClosed]
  | cons hlike _ ih =>
    cases hlike with
    | text => exact allClosed_text_iff.mpr ih
    | tag => exact allClosed_tag_iff.mpr ih

/-! Sources with and without the white space. -/

theorem forall₂_like_stripLine {l : List Char} {offset : Nat}
    (h : AllClosed (tokens offset l)) (offset' : Nat) :
    List.Forall₂ (Token.Like isSolid) (tokens offset' (stripLine l)) (tokens offset l) := by
  cases hstandalone : isStandalone (trimChars l) with
  | false =>
    rw [stripLine_eq_self hstandalone]
    exact forall₂_like_tokens isSolid h offset'
  | true =>
    obtain ⟨lead, content, brace, trail, hl, hstrip, hcontent, hopen, hlead, htrail⟩ :=
      exists_of_isStandalone hstandalone
    have hbehind : '{' ∉ brace ++ trail := by
      simp [hopen, brace_notMem_of_blank htrail]
    have hreduced := tokens_braced (unpaired_nil '{') hcontent offset' brace
    rw [List.nil_append, ← hstrip] at hreduced
    rw [hreduced, hl, tokens_braced (.of_notMem (brace_notMem_of_blank hlead)) hcontent,
      tokens_unpaired (Unpaired.of_notMem hopen).hasPair,
      tokens_unpaired (Unpaired.of_notMem hbehind).hasPair]
    refine .cons (.text ?_) (.cons .tag (.cons (.text ?_) .nil))
    · rw [filter_isSolid_of_blank hlead, List.filter_nil]
    · rw [List.filter_append, filter_isSolid_of_blank htrail, List.append_nil]

/-- Reducing the lines of a source changes the white space of its texts only. -/
theorem forall₂_like_stripStandalone {cs : List Char} {offset : Nat}
    (h : TagsOnLines (tokens offset cs)) (offset' : Nat) :
    List.Forall₂ (Token.Like isSolid) (tokens offset' (stripStandalone cs)) (tokens offset cs) := by
  induction cs using lines_induction generalizing offset offset' with
  | last cs hcs =>
    rw [stripStandalone_last hcs]
    exact forall₂_like_stripLine h.allClosed offset'
  | line l rest hl ih =>
    have hsource : l ++ '\n' :: rest = l ++ ['\n'] ++ rest := by simp
    rw [hsource] at h ⊢
    rw [← hsource, stripStandalone_line hl, hsource]
    have hend : (l ++ ['\n']).getLast? = some '\n' := by simp
    have hclosed := h.allClosed_line hend
    have hline := forall₂_like_stripLine hclosed offset'
    have htokens := tokens_append hclosed (by rw [hend]; decide) rest
    rw [htokens] at h ⊢
    rw [tokens_append (.of_forall₂ hline) (getLast?_stripLine hend)]
    refine forall₂_glue hline (ih (fun t ht => ?_) _)
    cases t with
    | text => trivial
    | tag | unclosed => exact h _ (mem_glue ht (by simp) _)

/-- Fills a template from data, from fresh positions, with its standalone lines as they are. -/
def renderUnreduced (keywords : Keywords) (source : String) (data : Data) :
    Except TemplateError String := do
  let nodes ← parseStripped source.toList
  ((renderNodes keywords 0 [data] nodes).run.run .empty).1

/-- Sources that are read as the same tree, or refused with the same error, render alike. -/
theorem map_sift_renderFresh {keep : Char → Bool} {source : String}
    (h : (parse source).map (condensed keep) =
      (parseStripped source.toList).map (condensed keep)) (keywords : Keywords) (data : Data) :
    (renderFresh keywords source data).map (sift keep) =
      (renderUnreduced keywords source data).map (sift keep) := by
  rw [renderFresh_eq_renderIndexed, renderIndexed, renderUnreduced]
  cases hreduced : parse source with
  | error e =>
    cases hplain : parseStripped source.toList with
    | error e' =>
      rw [hreduced, hplain] at h
      rw [Except.error.inj h]
      rfl
    | ok nodes' =>
      rw [hreduced, hplain] at h
      contradiction
  | ok nodes =>
    cases hplain : parseStripped source.toList with
    | error e' =>
      rw [hreduced, hplain] at h
      contradiction
    | ok nodes' =>
      rw [hreduced, hplain] at h
      show (renderNodesAt keywords 0 [data] nodes).map (sift keep) = _
      rw [renderNodesAt_eq_of_condensed keywords (Except.ok.inj h),
        ← renderNodes_fresh keywords hplain data]
      rfl

/-- Where every tag ends on its line, the reduction of standalone lines takes away white space and
nothing else: from the source, from the texts of its tree, and from what it renders as. -/
theorem reduction_takes_only_blanks {source : String} (h : TagsOnLines (tokens 0 source.toList)) :
    ((stripStandalone source.toList).Sublist source.toList ∧
      (stripStandalone source.toList).filter isSolid = source.toList.filter isSolid) ∧
    (parse source).map (condensed isSolid) =
      (parseStripped source.toList).map (condensed isSolid) ∧
    ∀ (keywords : Keywords) (data : Data),
      (renderFresh keywords source data).map (sift isSolid) =
        (renderUnreduced keywords source data).map (sift isSolid) := by
  have hstart : Behind isSolid [] [] [] [] [] := .outside rfl
  have htrees := hstart.build (forall₂_like_stripStandalone h 0)
  exact ⟨stripStandalone_removes_blanks source.toList, htrees, map_sift_renderFresh htrees⟩

/-- A section on lines of its own, with a further brace behind its opener, and a comment and an
indented line in it, in front of a brace that opens nothing. -/
def bracedLinesSource : String :=
  "  {{#A}}\x7d\n\t{{!c}} \n  \x7b\x7b.\x7d\x7d;\n{{/A}} \n\x7b\n"

theorem reduction_takes_only_blanks_braced_lines :
    TagsOnLines (tokens 0 bracedLinesSource.toList) ∧
      renderUnreduced (.all [] []) bracedLinesSource listedData =
        .ok "  \x7d\n\t \n  a;\n\x7d\n\t \n  b;\n \n\x7b\n" ∧
      (renderFresh (.all [] []) bracedLinesSource listedData).map (sift isSolid) =
        .ok "\x7da;\x7db;\x7b" := by
  have htags : TagsOnLines (tokens 0 bracedLinesSource.toList) := by decide +kernel
  have hplain : renderUnreduced (.all [] []) bracedLinesSource listedData =
      .ok "  \x7d\n\t \n  a;\n\x7d\n\t \n  b;\n \n\x7b\n" :=
    eq_ok_of_toOption (by decide +kernel)
  refine ⟨htags, hplain, ?_⟩
  rw [(reduction_takes_only_blanks htags).2.2, hplain]
  exact congrArg Except.ok (by decide +kernel)

end DataLayer.Template
