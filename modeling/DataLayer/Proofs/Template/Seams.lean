import DataLayer.Proofs.Template.Condensed
import DataLayer.Proofs.Template.Lines
import DataLayer.Proofs.Text.Offsets

/-!
Seams between sources. Where the first of two sources ends outside of tags and not in an opening
brace, the tokens of both stand side by side, and the texts that meet at the seam are one. Behind a
line end that is so for all templates, so a template in front of another one renders in front of it.
-/

namespace DataLayer.Template

open Text

/-! Tokens side by side. -/

/-- Every tag has its end. -/
def AllClosed (ts : List Token) : Prop := ∀ offset, Token.unclosed offset ∉ ts

theorem allClosed_text_iff {cs : List Char} {ts : List Token} :
    AllClosed (.text cs :: ts) ↔ AllClosed ts := by
  simp [AllClosed]

theorem allClosed_tag_iff {content : List Char} {offset : Nat} {ts : List Token} :
    AllClosed (.tag content offset :: ts) ↔ AllClosed ts := by
  simp [AllClosed]

theorem not_allClosed_unclosed {t : Token} {offset : Nat} : ¬AllClosed [t, .unclosed offset] :=
  fun h => h offset (by simp)

/-- Puts a text in front of tokens; two texts that meet are one. -/
def glueText (cs : List Char) : List Token → List Token
  | .text cs' :: ts => .text (cs ++ cs') :: ts
  | ts => .text cs :: ts

/-- Puts tokens in front of others; two texts that meet are one. -/
def glue : List Token → List Token → List Token
  | [], ts => ts
  | [.text cs], ts => glueText cs ts
  | t :: rest, ts => t :: glue rest ts

/-- A text without a brace at its end becomes part of the first text. -/
theorem tokens_prepend {cs : List Char} (h : Unpaired '{' cs) (offset : Nat) (rest : List Char) :
    tokens offset (cs ++ rest) = glueText cs (tokens (offset + octetCount cs) rest) := by
  have hcut := cut_tokens (offset + octetCount cs) rest
  generalize tokens (offset + octetCount cs) rest = ts at hcut
  cases hcut with
  | text hrest =>
    rw [tokens_unpaired (h.hasPair_append (not_infix_iff_hasPair.mp hrest))]
    rfl
  | @unclosed _ before after hbefore hafter =>
    have hfront := h.append (not_infix_iff_hasPair.mp hbefore)
    rw [← List.append_assoc, tokens_unclosed hfront (not_infix_iff_hasPair.mp hafter),
      octetCount_append, Nat.add_assoc]
    rfl
  | @tag _ before content rest ts hbefore hcontent hrest =>
    have hfront := h.append (not_infix_iff_hasPair.mp hbefore)
    rw [← List.append_assoc, tokens_braced hfront (not_infix_iff_hasPair.mp hcontent),
      octetCount_append, ← Nat.add_assoc, cut_iff.mp hrest]
    rfl

theorem tokens_append {cs : List Char} {offset : Nat} (hclosed : AllClosed (tokens offset cs))
    (hlast : cs.getLast? ≠ some '{') (rest : List Char) :
    tokens offset (cs ++ rest) =
      glue (tokens offset cs) (tokens (offset + octetCount cs) rest) := by
  have hcut := cut_tokens offset cs
  generalize tokens offset cs = ts at hcut hclosed
  induction hcut with
  | text hcs =>
    exact tokens_prepend (unpaired_iff.mpr ⟨not_infix_iff_hasPair.mp hcs, hlast⟩) _ rest
  | unclosed => exact absurd hclosed not_allClosed_unclosed
  | @tag offset before content more ts hbefore hcontent _ ih =>
    have hmore : more.getLast? ≠ some '{' := by
      intro hmem
      simp [List.getLast?_append, hmem] at hlast
    have hrest : AllClosed ts := allClosed_tag_iff.mp (allClosed_text_iff.mp hclosed)
    have hoffset : offset + octetCount (before ++ (braced content ++ more)) =
        offset + octetCount before + octetCount content + 4 + octetCount more := by
      rw [octetCount_append, octetCount_append, octetCount_braced]
      omega
    rw [List.append_assoc, List.append_assoc, tokens_braced (not_infix_iff_hasPair.mp hbefore)
      (not_infix_iff_hasPair.mp hcontent), ih hmore hrest, hoffset]
    rfl

/-- Offsets make no difference to what tokens say. -/
theorem forall₂_like_tokens (keep : Char → Bool) {cs : List Char} {offset : Nat}
    (hclosed : AllClosed (tokens offset cs)) (offset' : Nat) :
    List.Forall₂ (Token.Like keep) (tokens offset' cs) (tokens offset cs) := by
  have hcut := cut_tokens offset cs
  generalize tokens offset cs = ts at hcut hclosed
  induction hcut generalizing offset' with
  | text hcs =>
    rw [tokens_unpaired (not_infix_iff_hasPair.mp hcs)]
    exact .cons (.text rfl) .nil
  | unclosed => exact absurd hclosed not_allClosed_unclosed
  | tag hbefore hcontent _ ih =>
    rw [tokens_braced (not_infix_iff_hasPair.mp hbefore) (not_infix_iff_hasPair.mp hcontent)]
    have hrest := allClosed_tag_iff.mp (allClosed_text_iff.mp hclosed)
    exact .cons (.text rfl) (.cons .tag (ih _ hrest))

/-! Reading what is put together. -/

/-- A reader that accepts its tokens has come to the end of every tag. -/
theorem allClosed_of_build {stack : List OpenSection} {nodes result : List Node} {ts : List Token}
    (h : build stack nodes ts = .ok result) : AllClosed ts := by
  fun_induction build stack nodes ts with
  | case1 => simp [AllClosed]
  | case2 | case4 | case5 | case9 | case11 => contradiction
  | case3 _ _ _ _ ih => exact allClosed_text_iff.mpr (ih h)
  | case6 _ _ _ _ _ _ ih | case7 _ _ _ _ _ _ _ _ ih | case8 _ _ _ _ _ _ _ _ ih
  | case10 _ _ _ _ _ _ _ ih => exact allClosed_tag_iff.mpr (ih h)

theorem glue_tag (content : List Char) (offset : Nat) (rest ts : List Token) :
    glue (.tag content offset :: rest) ts = .tag content offset :: glue rest ts := rfl

/-- A reader outside of sections that comes to a text with more behind it has this text before the
nodes of a new reader. -/
theorem build_glueText {keep : Char → Bool} (cs : List Char) (nodes : List Node)
    {us us' : List Token} (hus : List.Forall₂ (Token.Like keep) us us') :
    (build [] nodes (glueText cs us)).map (condensed keep) =
      (build [] [] us').map fun behind =>
        condensed keep ((pushText cs nodes).reverse ++ behind) := by
  have hstart : Behind keep (pushText cs nodes).reverse [] (pushText cs nodes) [] [] :=
    .outside (by simp)
  cases hus with
  | nil =>
    rw [glueText, build]
    · exact hstart.build .nil
    · simp
  | @cons _ _ us us' hlike hrest =>
    cases hlike with
    | tag =>
      rw [glueText, build]
      · exact hstart.build (.cons .tag hrest)
      · simp
    | @text first first' hfirst =>
      rw [glueText, build, build]
      refine Behind.build (.outside ?_) hrest
      calc condensed keep (pushText (cs ++ first) nodes).reverse
        _ = condensed keep (nodes.reverse ++ [.text (String.ofList (cs ++ first))]) :=
          condensed_reverse_pushText ..
        _ = condensed keep (nodes.reverse ++
              ([.text (String.ofList cs)] ++ [.text (String.ofList first)])) :=
          condensed_append_congr rfl (condensed_texts cs first).symm
        _ = condensed keep ((pushText cs nodes).reverse ++ [.text (String.ofList first')]) := by
          rw [← List.append_assoc]
          exact condensed_append_congr (condensed_reverse_pushText ..).symm
            (condensed_text_congr hfirst)
        _ = condensed keep ((pushText cs nodes).reverse ++ (pushText first' []).reverse) :=
          condensed_append_congr rfl (condensed_reverse_pushText first' []).symm

/-- A reader that has accepted tokens as the nodes `result` reads what is put behind them as a new
reader does, and has `result` before it. -/
theorem build_glue {keep : Char → Bool} {stack : List OpenSection} {nodes result : List Node}
    {ts us us' : List Token} (h : build stack nodes ts = .ok result)
    (hus : List.Forall₂ (Token.Like keep) us us') :
    (build stack nodes (glue ts us)).map (condensed keep) =
      (build [] [] us').map fun behind => condensed keep (result ++ behind) := by
  fun_induction build stack nodes ts with
  | case1 nodes =>
    obtain rfl := Except.ok.inj h
    exact (Behind.outside (by simp)).build hus
  | case3 stack nodes cs rest ih =>
    cases rest with
    | nil =>
      cases stack with
      | cons s outer => contradiction
      | nil =>
        obtain rfl := Except.ok.inj h
        exact build_glueText cs nodes hus
    | cons t rest =>
      show (build stack nodes (.text cs :: glue (t :: rest) us)).map _ = _
      rw [build]
      exact ih h
  | case6 stack nodes content offset rest hmark ih
  | case7 stack nodes content offset rest path pipes hmark ih
  | case8 stack nodes content offset rest path inverted hmark ih =>
    simp only [glue_tag, build, hmark]
    exact ih h
  | case10 nodes content offset rest s outer hmark ih =>
    simp only [glue_tag, build, hmark, if_true]
    exact ih h
  | case2 | case4 | case5 | case9 | case11 => contradiction

/-! Templates one behind the other. -/

theorem map_parse_append (keep : Char → Bool) {a b : String} {nodes : List Node}
    (ha : EndsLine a.toList) (hnodes : parse a = .ok nodes)
    (hclosed : AllClosed (tokens 0 (stripStandalone b.toList))) :
    (parse (a ++ b)).map (condensed keep) =
      (parse b).map fun behind => condensed keep (nodes ++ behind) := by
  have hfront : AllClosed (tokens 0 (stripStandalone a.toList)) := allClosed_of_build hnodes
  have htokens := tokens_append hfront ha.getLast?_stripStandalone (stripStandalone b.toList)
  rw [parse, parseStripped, String.toList_append, ha.stripStandalone_append, htokens]
  exact build_glue hnodes (forall₂_like_tokens keep hclosed _)

/-- A template that ends at a line end can be put in front of any other one. What they render
together is what they render apart, and the first error counts. -/
theorem templates_render_in_turn {a b : String} (ha : EndsLine a.toList)
    (hfirst : ∃ nodes, parse a = .ok nodes) (hsecond : ∃ nodes, parse b = .ok nodes) :
    (∃ nodes, parse (a ++ b) = .ok nodes) ∧ ∀ (keywords : Keywords) (data : Data),
      renderFresh keywords (a ++ b) data =
        renderFresh keywords a data ++ renderFresh keywords b data := by
  obtain ⟨first, hfirst⟩ := hfirst
  obtain ⟨second, hsecond⟩ := hsecond
  have hparse := map_parse_append (fun _ => true) ha hfirst (allClosed_of_build hsecond)
  rw [hsecond] at hparse
  cases hboth : parse (a ++ b) with
  | error e =>
    rw [hboth] at hparse
    contradiction
  | ok nodes =>
    rw [hboth] at hparse
    have hcondensed := Except.ok.inj hparse
    refine ⟨⟨nodes, rfl⟩, fun keywords data => ?_⟩
    have hrender := renderNodesAt_eq_of_condensed keywords hcondensed 0 [data]
    rw [sift_true, Except.map_id, renderNodesAt_append] at hrender
    simp only [renderFresh_eq_renderIndexed, renderIndexed, hboth, hfirst, hsecond]
    exact hrender

theorem exists_of_toOption {r : Except TemplateError (List Node)} (h : r.toOption.isSome = true) :
    ∃ nodes, r = .ok nodes := by
  cases r with
  | error e => contradiction
  | ok nodes => exact ⟨nodes, rfl⟩

/-- A list section on lines of its own, whose closer comes to stand in front of a brace. -/
def listedSource : String := "{{#A}}\n\x7b\x7b.|Join(\", \")\x7d\x7d;\n{{/A}}\n"

/-- A brace, a tag that prints no separator of its own, and a brace that opens no tag. -/
def bracedSource : String := "\x7d\x7b\x7bB|Join(\"; \")\x7d\x7d\x7b"

def listedData : Data := .record [("A", .list [.text "a", .text "b"]), ("B", .text "c")]

theorem templates_render_in_turn_listed :
    EndsLine listedSource.toList ∧ (∃ nodes, parse listedSource = .ok nodes) ∧
      (∃ nodes, parse bracedSource = .ok nodes) ∧
      renderFresh (.all [] []) (listedSource ++ bracedSource) listedData =
        .ok "a;\n, b;\n\x7dc\x7b" := by
  have hend : EndsLine listedSource.toList := by decide +kernel
  have hfirst := exists_of_toOption (r := parse listedSource) (by decide +kernel)
  have hsecond := exists_of_toOption (r := parse bracedSource) (by decide +kernel)
  have hlisted : renderFresh (.all [] []) listedSource listedData = .ok "a;\n, b;\n" :=
    eq_ok_of_toOption (by decide +kernel)
  have hbraced : renderFresh (.all [] []) bracedSource listedData = .ok "\x7dc\x7b" :=
    eq_ok_of_toOption (by decide +kernel)
  refine ⟨hend, hfirst, hsecond, ?_⟩
  rw [(templates_render_in_turn hend hfirst hsecond).2, hlisted, hbraced]
  rfl

end DataLayer.Template
