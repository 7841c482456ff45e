import DataLayer.Proofs.Template.Printing

/-!
Reading what is printed. A tree in normal form is given back by the reader as it was, with the
offsets of its tags for their numbers.
-/

namespace DataLayer.Template

open Text

/-! Tags of normal forms. -/

/-- What holds of segments and stays true when they are joined by pipes holds of a tag. -/
theorem intercalate_induction {motive : List Char → Prop} {segments : List (List Char)}
    (hne : segments ≠ []) (segment : ∀ s ∈ segments, motive s)
    (join : ∀ cs cs', motive cs → motive cs' → motive (cs ++ '|' :: cs')) :
    motive (['|'].intercalate segments) := by
  induction segments with
  | nil => exact absurd rfl hne
  | cons s rest ih =>
    have hs := segment s List.mem_cons_self
    cases rest with
    | nil => rwa [List.intercalate_singleton]
    | cons r rest =>
      rw [List.intercalate_cons_cons, List.append_assoc]
      exact join s _ hs (ih (by simp) fun s' hs' => segment s' (List.mem_cons_of_mem s hs'))

theorem segments_intercalate {segments : List (List Char)} (hne : segments ≠ [])
    (h : ∀ s ∈ segments, Closed s) : Segments (['|'].intercalate segments) segments := by
  induction segments with
  | nil => exact absurd rfl hne
  | cons s rest ih =>
    have hs := h s List.mem_cons_self
    cases rest with
    | nil =>
      rw [List.intercalate_singleton]
      exact .last hs
    | cons r rest =>
      rw [List.intercalate_cons_cons, List.append_assoc]
      exact .cons hs (ih (by simp) fun s' hs' => h s' (List.mem_cons_of_mem s hs'))

theorem head?_intercalate {s : List Char} (hs : s ≠ []) (rest : List (List Char)) :
    (['|'].intercalate (s :: rest)).head? = s.head? := by
  obtain ⟨c, cs, rfl⟩ := List.exists_cons_of_ne_nil hs
  cases rest with
  | nil => rw [List.intercalate_singleton]
  | cons r rest => rfl

/-- What a segment of a tag needs so that it is read as it is printed. -/
structure IsSegment (segment : List Char) : Prop where
  nonempty : segment ≠ []
  trimmed : trimChars segment = segment
  closed : Closed segment
  unpaired : Unpaired '}' segment

theorem IsTagPath.isSegment {path : List Char} (h : IsTagPath path) : IsSegment path where
  nonempty := h.nonempty
  trimmed := h.trimmed
  closed := .of_plain fun c hc => ⟨(h.plain c hc).2.2.1, (h.plain c hc).1⟩
  unpaired := .of_notMem fun hmem => (h.plain _ hmem).2.2.2 rfl

namespace IsKeyword

variable {keyword : List Char} (h : IsKeyword keyword)

include h

theorem trimmed : trimChars keyword = keyword := by
  refine trimChars_eq_self fun c hc => Bool.eq_false_iff.mpr fun hblank => ?_
  exact h.notMem (isDelimiter_of_isBlank hblank) hc

theorem closed : Closed keyword := by
  have hpipe : isDelimiter '|' = true := by decide +kernel
  have hquotes : isDelimiter '"' = true ∧ isDelimiter '\'' = true := by decide +kernel
  refine .of_plain fun c hc => ⟨?_, ?_⟩
  · rintro (rfl | rfl)
    · exact h.notMem hquotes.1 hc
    · exact h.notMem hquotes.2 hc
  · rintro rfl
    exact h.notMem hpipe hc

theorem unpaired : Unpaired '}' keyword :=
  .of_notMem (h.notMem (by decide +kernel))

theorem notMem_marks {c : Char} (hc : c ∈ keyword) : c ∉ ['!', '#', '^', '/'] := by
  have hmarks : ['!', '#', '^', '/'].all isDelimiter = true := by decide +kernel
  intro hmark
  exact h.notMem (List.all_eq_true.mp hmarks c hmark) hc

end IsKeyword

namespace Pipe.IsNormal

variable {p : Pipe} (h : p.IsNormal)

include h

theorem isSegment : IsSegment p.chars := by
  obtain ⟨keyword, argument⟩ := p
  have hkeyword := h.keyword
  cases argument with
  | none =>
    rw [chars, List.append_nil]
    exact ⟨hkeyword.1, hkeyword.trimmed, hkeyword.closed, hkeyword.unpaired⟩
  | some argument =>
    obtain ⟨hquote, hpair⟩ := h.argument argument rfl
    have hparens : Closed ['('] ∧ Closed [')'] :=
      ⟨.plain (by decide) (by decide) .nil, .plain (by decide) (by decide) .nil⟩
    have hclosed : Closed (quoted argument) := .quoted (Or.inl rfl) hquote .nil
    have hopen : Unpaired '}' ['(', '"'] := by decide
    have hclose : Unpaired '}' [')'] := by decide
    have hargument : Unpaired '}' (argument.toList ++ ['"']) := .concat hpair (by decide)
    have hparen : trimChars [')'] = [')'] := trimChars_eq_self (by simp [isBlank_eq_false])
    exact ⟨List.append_ne_nil_of_left_ne_nil hkeyword.1 _,
      trimChars_append hkeyword.1 (List.cons_ne_nil _ _) hkeyword.trimmed hparen
        ('(' :: quoted argument),
      hkeyword.closed.append (hparens.1.append (hclosed.append hparens.2)),
      hkeyword.unpaired.append ((hopen.append hargument).append hclose)⟩

theorem pipeText : PipeText p.chars p := by
  obtain ⟨keyword, argument⟩ := p
  have htrim := h.isSegment.trimmed
  have hkeyword := h.keyword
  cases argument with
  | none =>
    have hplain : PipeText (chars ⟨keyword, none⟩) ⟨String.ofList keyword.toList, none⟩ :=
      .plain (htrim.trans (List.append_nil _)) hkeyword
    rwa [String.ofList_toList] at hplain
  | some argument =>
    have hquote : trimChars ['"'] = ['"'] := trimChars_eq_self (by simp [isBlank_eq_false])
    have hinner : trimChars (quoted argument) = quoted argument :=
      trimChars_append (List.cons_ne_nil _ _) (List.cons_ne_nil _ _) hquote hquote argument.toList
    have hcall : PipeText (chars ⟨keyword, some argument⟩)
        ⟨String.ofList keyword.toList, some (String.ofList argument.toList)⟩ :=
      .call htrim (hkeyword.notMem (by decide +kernel)) hkeyword.trimmed hkeyword (Or.inl rfl)
        hinner
    rwa [String.ofList_toList, String.ofList_toList] at hcall

end Pipe.IsNormal

namespace Tag.IsNormal

variable {t : Tag} (h : t.IsNormal)

include h

theorem isSegment {s : List Char} (hs : s ∈ t.segments) : IsSegment s := by
  rcases List.mem_append.mp hs with hs | hs
  · obtain ⟨path, hpath, rfl⟩ := List.mem_map.mp hs
    exact (h.path path (Option.mem_toList.mp hpath)).isSegment
  · obtain ⟨p, hp, rfl⟩ := List.mem_map.mp hs
    exact (h.pipes p hp).isSegment

theorem forall₂_pipeText : List.Forall₂ PipeText (t.pipes.map Pipe.chars) t.pipes := by
  rw [List.forall₂_map_left_iff, List.forall₂_same]
  exact fun p hp => (h.pipes p hp).pipeText

/-- A tag does not start with a mark that has another meaning. -/
theorem exists_segments_cons : ∃ first rest, t.segments = first :: rest ∧
    ∀ c ∈ first.head?, c ∉ ['!', '#', '^', '/'] := by
  unfold segments
  cases hpath : t.path with
  | some path => exact ⟨_, _, rfl, (h.path path hpath).mark⟩
  | none =>
    obtain ⟨p, hp, -⟩ := h.call hpath
    obtain ⟨rest, hpipes⟩ := List.head?_eq_some_iff.mp hp
    have hkeyword := (h.pipes p (by simp [hpipes])).keyword
    refine ⟨p.chars, rest.map Pipe.chars, by rw [hpipes]; rfl, fun c hc => ?_⟩
    rw [Pipe.chars, List.head?_append_of_ne_nil _ hkeyword.1] at hc
    exact hkeyword.notMem_marks (List.mem_of_mem_head? hc)

theorem segments_ne_nil : t.segments ≠ [] := by
  obtain ⟨first, rest, hsegments, -⟩ := h.exists_segments_cons
  rw [hsegments]
  exact List.cons_ne_nil first rest

theorem chars_ne_nil_and_trimmed : t.chars ≠ [] ∧ trimChars t.chars = t.chars := by
  refine intercalate_induction (motive := fun cs => cs ≠ [] ∧ trimChars cs = cs) h.segments_ne_nil
    (fun s hs => ⟨(h.isSegment hs).nonempty, (h.isSegment hs).trimmed⟩) ?_
  rintro cs cs' ⟨hne, htrim⟩ ⟨hne', htrim'⟩
  exact ⟨by simp, trimChars_append hne hne' htrim htrim' ['|']⟩

theorem unpaired : Unpaired '}' t.chars := by
  refine intercalate_induction h.segments_ne_nil (fun s hs => (h.isSegment hs).unpaired) ?_
  intro cs cs' hcs hcs'
  have hpipe : Unpaired '}' ['|'] := by decide
  exact hcs.append (hpipe.append hcs')

theorem valueText : ValueText t.chars t.path t.pipes := by
  have hsegments : Segments t.chars t.segments :=
    segments_intercalate h.segments_ne_nil fun s hs => (h.isSegment hs).closed
  have hpipes := h.forall₂_pipeText
  unfold segments at hsegments
  cases hpath : t.path with
  | some path =>
    have hplain := h.path path hpath
    rw [hpath] at hsegments
    have hvalue : ValueText t.chars (some (String.ofList path.toList)) t.pipes :=
      .path hsegments hplain.trimmed hplain.nonempty (fun hmem => (hplain.plain _ hmem).2.1 rfl)
        hpipes
    rwa [String.ofList_toList] at hvalue
  | none =>
    obtain ⟨p, hp, hargument⟩ := h.call hpath
    obtain ⟨rest, hrest⟩ := List.head?_eq_some_iff.mp hp
    have hparen : '(' ∈ trimChars p.chars := by
      rw [(h.pipes p (by simp [hrest])).isSegment.trimmed]
      obtain ⟨argument, hargument⟩ := Option.isSome_iff_exists.mp hargument
      simp [Pipe.chars, hargument]
    rw [hpath, hrest] at hsegments
    rw [hrest] at hpipes ⊢
    exact .call hsegments hparen hpipes

/-- A tag in normal form is read as it is printed. -/
theorem tagText : TagText t.chars (.value t.path t.pipes) := by
  obtain ⟨first, rest, hsegments, hmark⟩ := h.exists_segments_cons
  have hfirst := (h.isSegment (s := first) (by simp [hsegments])).nonempty
  obtain ⟨c, cs, hcs⟩ := List.exists_cons_of_ne_nil h.chars_ne_nil_and_trimmed.1
  have hvalue := h.valueText
  have hhead : t.chars.head? = first.head? := by
    rw [chars, hsegments, head?_intercalate hfirst]
  rw [hcs] at hvalue hhead ⊢
  exact .value (hmark c hhead.symm) hvalue

end Tag.IsNormal

theorem IsSectionPath.isBlockPath {path : List Char} (h : IsSectionPath path) : IsBlockPath path :=
  ⟨h.nonempty, h.trimmed, .of_notMem h.plain⟩

theorem unpaired_openerChars {path : String} (h : IsSectionPath path.toList) (inverted : Bool) :
    Unpaired '}' (openerChars path inverted) := by
  cases inverted with
  | false => exact h.isBlockPath.unpaired_cons (by decide)
  | true => exact h.isBlockPath.unpaired_cons (by decide)

theorem unpaired_closerChars {path : String} (h : IsSectionPath path.toList) :
    Unpaired '}' (closerChars path) :=
  h.isBlockPath.unpaired_cons (by decide)

/-! Reading a printed tree. -/

/-- What can stand behind a tree: nothing if it is the last, and else a tag. -/
inductive Tail : Bool → List Char → Prop where
  | nil : Tail true []
  | tag {content rest : List Char} : Unpaired '}' content → Tail false (braced content ++ rest)

theorem build_tokens_text {last : Bool} {tail : List Char} (htail : Tail last tail)
    {pending : List Char} (hpair : hasPair '{' pending = false)
    (hend : tail ≠ [] → pending.getLast? ≠ some '{') (stack : List OpenSection)
    (before : List Node) (offset : Nat) :
    build stack before (tokens offset (pending ++ tail)) =
      build stack (pushText pending before) (tokens (offset + octetCount pending) tail) := by
  cases htail with
  | nil =>
    rw [List.append_nil, tokens_unpaired hpair, tokens_unpaired rfl, build, build]
    rfl
  | @tag content rest hcontent =>
    have hpending : Unpaired '{' pending := unpaired_iff.mpr ⟨hpair, hend (by simp [braced])⟩
    have hnone := tokens_braced (unpaired_nil '{') hcontent (offset + octetCount pending) rest
    rw [List.nil_append] at hnone
    rw [tokens_braced hpending hcontent, hnone, build, build]
    rfl

section Steps

variable {pending : List Char} (hpending : Unpaired '{' pending) (stack : List OpenSection)
  (before : List Node) (offset : Nat) (rest : List Char)

include hpending

/-- A reader that comes to a tag with a text pending has read this text when it is at the tag. -/
theorem build_tokens_braced {content : List Char} (hcontent : Unpaired '}' content) :
    build stack before (tokens offset (pending ++ (braced content ++ rest))) =
      build stack (pushText pending before) (.tag content (offset + octetCount pending) ::
        tokens (offset + octetCount pending + octetCount (braced content)) rest) := by
  rw [tokens_braced hpending hcontent, build, octetCount_braced, Nat.add_assoc _ _ 4]

theorem build_tag {t : Tag} (ht : t.IsNormal) :
    build stack before (tokens offset (pending ++ (braced t.chars ++ rest))) =
      build stack (.tag { t with id := offset + octetCount pending } :: pushText pending before)
        (tokens (offset + octetCount pending + octetCount (braced t.chars)) rest) := by
  have hread : Mark.ofContent? (trimChars t.chars) = some (.value t.path t.pipes) := by
    rw [ht.chars_ne_nil_and_trimmed.2]
    exact tagText_iff.mp ht.tagText
  rw [build_tokens_braced hpending stack before offset rest ht.unpaired, build]
  simp only [hread]

theorem build_opener {path : String} (hpath : IsSectionPath path.toList) (inverted : Bool) :
    build stack before (tokens offset (pending ++ (braced (openerChars path inverted) ++ rest))) =
      build (⟨path, inverted, pushText pending before⟩ :: stack) []
        (tokens (offset + octetCount pending + octetCount (braced (openerChars path inverted)))
          rest) := by
  have hread : Mark.ofContent? (trimChars (openerChars path inverted)) = _ :=
    hpath.isBlockPath.opener inverted
  rw [build_tokens_braced hpending stack before offset rest (unpaired_openerChars hpath inverted),
    build]
  simp only [hread]

end Steps

theorem build_closer {path : String} (hpath : IsSectionPath path.toList) (inverted : Bool)
    (stack : List OpenSection) (before nodes : List Node) (offset : Nat) (rest : List Char) :
    build (⟨path, inverted, before⟩ :: stack) nodes
        (tokens offset (braced (closerChars path) ++ rest)) =
      build stack (.block path inverted nodes.reverse :: before)
        (tokens (offset + octetCount (braced (closerChars path))) rest) := by
  have hread : Mark.ofContent? (trimChars (closerChars path)) = _ := hpath.isBlockPath.closer
  have htokens := build_tokens_braced (unpaired_nil '{') (⟨path, inverted, before⟩ :: stack) nodes
    offset rest (unpaired_closerChars hpath)
  rw [List.nil_append] at htokens
  rw [htokens, build]
  simp only [hread, if_true]
  rfl

theorem reverse_place_cons (offset : Nat) (node : Node) (rest before : List Node) :
    (place offset (node :: rest)).reverse ++ before =
      (place (offset + octetCount node.chars) rest).reverse ++ node.place offset :: before := by
  simp [place]

/-- A reader that comes to a tree in normal form with some text pending has read its nodes when it
is at what stands behind the tree. -/
theorem IsNormal.build_print {last : Bool} {nodes : List Node} (h : IsNormal last nodes) :
    ∀ {tail pending : List Char}, Tail last tail → hasPair '{' pending = false →
      (print nodes ++ tail ≠ [] → pending.getLast? ≠ some '{') →
      (pending = [] ∨ ∀ s, nodes.head? ≠ some (.text s)) → ∀ stack before offset,
      build stack before (tokens offset (pending ++ (print nodes ++ tail))) =
        build stack ((place (offset + octetCount pending) nodes).reverse ++ pushText pending before)
          (tokens (offset + octetCount pending + octetCount (print nodes)) tail) := by
  induction h with
  | nil =>
    intro tail pending htail hpair hend _ stack before offset
    exact build_tokens_text htail hpair hend stack before offset
  | @text last s rest hne hpair hlast hnext _ ih =>
    intro tail pending htail _ _ hstart stack before offset
    obtain rfl : pending = [] := hstart.resolve_right fun hhead => hhead s rfl
    have hend : print rest ++ tail ≠ [] → s.toList.getLast? ≠ some '{' := by
      refine fun hbehind => hlast ?_
      rintro ⟨rfl, rfl⟩
      cases htail
      exact hbehind rfl
    have hpush : pushText s.toList before = .text s :: before := by
      rw [pushText, if_neg (by simpa using hne), String.ofList_toList]
    -- The text is pending when the reader comes to the next node, which is none or a tag.
    have hbuild := ih htail hpair hend (Or.inr hnext) stack before offset
    rw [reverse_place_cons, print, octetCount_append, ← Nat.add_assoc, List.append_assoc]
    rw [hpush] at hbuild
    exact hbuild
  | @tag last t rest ht _ ih =>
    intro tail pending htail hpair hend _ stack before offset
    have hpending : Unpaired '{' pending :=
      unpaired_iff.mpr ⟨hpair, hend (by simp [print, Node.chars, braced])⟩
    rw [reverse_place_cons, print, octetCount_append, ← Nat.add_assoc, List.append_assoc,
      Node.chars, build_tag hpending stack before offset _ ht]
    exact ih htail rfl (fun _ => by simp) (Or.inl rfl) stack _ _
  | @block last path inverted children rest hpath _ _ ihchildren ihrest =>
    intro tail pending htail hpair hend _ stack before offset
    have hpending : Unpaired '{' pending :=
      unpaired_iff.mpr ⟨hpair, hend (by simp [print, Node.chars, braced])⟩
    -- Behind the children stands the closer, so they are never last.
    have htag : Tail false (braced (closerChars path) ++ (print rest ++ tail)) :=
      .tag (unpaired_closerChars hpath)
    have hchildren := ihchildren htag rfl (fun _ => by simp) (Or.inl rfl)
      (⟨path, inverted, pushText pending before⟩ :: stack) []
      (offset + octetCount pending + octetCount (braced (openerChars path inverted)))
    have hrest := ihrest htail rfl (fun _ => by simp) (Or.inl rfl) stack
    rw [List.nil_append] at hchildren
    rw [reverse_place_cons, print, octetCount_append, ← Nat.add_assoc, List.append_assoc,
      Node.chars, List.append_assoc, List.append_assoc,
      build_opener hpending stack before offset _ hpath, hchildren, build_closer hpath,
      List.reverse_append, List.reverse_reverse, octetCount_append (braced _),
      octetCount_append (print children), ← Nat.add_assoc, ← Nat.add_assoc]
    exact hrest _ _

/-- A tree in normal form is read from its source as it was, if the source has no standalone lines.
Every tag gets the octet at which it starts for its number, so the numbers increase. -/
theorem parse_print {nodes : List Node} (h : IsNormal true nodes)
    (hstrip : stripStandalone (print nodes) = print nodes) :
    parse (String.ofList (print nodes)) = .ok (place 0 nodes) ∧
    unnumbered (place 0 nodes) = unnumbered nodes ∧
    (∀ t ∈ tags (place 0 nodes), t.StandsIn 0 (print nodes)) ∧
    (tagIds (place 0 nodes)).Pairwise (· < ·) := by
  have hparse : parse (String.ofList (print nodes)) = .ok (place 0 nodes) := by
    have hpair : hasPair '{' [] = false := rfl
    have hend (offset : Nat) : tokens offset [] = [.text []] := tokens_unpaired hpair offset
    have hbuild := h.build_print .nil hpair (by simp) (Or.inl rfl) [] [] 0
    rw [List.nil_append, List.append_nil, hend] at hbuild
    rw [parse, String.toList_ofList, hstrip, parseStripped, hbuild]
    simp [build, pushText, octetCount]
  exact ⟨hparse, unnumbered_place 0 nodes, fun t => standsIn_of_mem_tags,
    tagIds_pairwise_of_parse hparse⟩

/-- A section with a call whose argument holds a pipe, a parenthesis, a quote, braces and a line
end, and a last text that ends in a brace. -/
def itemTree (call tag : Nat) : List Node := [
  .block "Items" false
    [.tag ⟨call, none, [⟨"Join", some "|('\x7b\x7b\n"⟩, ⟨"Trim", none⟩]⟩, .text "a\x7d"],
  .tag ⟨tag, some "A.B", [⟨"Plural", none⟩]⟩,
  .text "é \x7b"]

theorem isNormal_itemTree : IsNormal true (itemTree 0 0) := by
  have hkeyword {keyword : String} (hne : keyword.toList ≠ [])
      (h : keyword.toList.all isKeywordChar = true) : IsKeyword keyword.toList :=
    ⟨hne, List.all_eq_true.mp h⟩
  have hjoin : IsKeyword "Join".toList := hkeyword (by decide) (by decide +kernel)
  have htrim : IsKeyword "Trim".toList := hkeyword (by decide) (by decide +kernel)
  have hplural : IsKeyword "Plural".toList := hkeyword (by decide) (by decide +kernel)
  have hcall : Tag.IsNormal ⟨0, none, [⟨"Join", some "|('\x7b\x7b\n"⟩, ⟨"Trim", none⟩]⟩ := by
    refine ⟨nofun, fun _ => ⟨_, rfl, rfl⟩, fun p hp => ?_⟩
    rcases List.mem_pair.mp hp with rfl | rfl
    · refine ⟨hjoin, ?_⟩
      rintro _ ⟨⟩
      decide +kernel
    · exact ⟨htrim, nofun⟩
  have htag : Tag.IsNormal ⟨0, some "A.B", [⟨"Plural", none⟩]⟩ := by
    refine ⟨?_, nofun, fun p hp => ?_⟩
    · rintro _ ⟨⟩
      have hplain : "A.B".toList.all
          (fun c => c != '|' && c != '(' && !decide (IsQuote c) && c != '\x7d') = true := by
        decide +kernel
      have hhead : "A.B".toList.head? = some 'A' := by decide +kernel
      refine ⟨by decide +kernel, by decide +kernel, fun c hc => ?_, fun c hc => ?_⟩
      · simpa [and_assoc] using List.all_eq_true.mp hplain c hc
      · obtain rfl := Option.some.inj (hhead.symm.trans hc)
        decide
    · obtain rfl := List.mem_singleton.mp hp
      exact ⟨hplural, nofun⟩
  have hinner : IsNormal false [.text "a\x7d"] :=
    .text (by decide +kernel) (by decide +kernel) (fun _ => by decide +kernel) nofun .nil
  have hlast : IsNormal true [.text "é \x7b"] :=
    .text (by decide +kernel) (by decide +kernel) (fun hbehind => absurd ⟨rfl, rfl⟩ hbehind) nofun
      .nil
  have hpath : IsSectionPath "Items".toList :=
    ⟨by decide +kernel, by decide +kernel, by decide +kernel⟩
  exact .block hpath (.tag hcall hinner) (.tag htag hlast)

theorem parse_print_itemTree :
    IsNormal true (itemTree 0 0) ∧ stripStandalone (print (itemTree 0 0)) = print (itemTree 0 0) ∧
    parse ("\x7b\x7b#Items\x7d\x7d\x7b\x7bJoin(\"|('\x7b\x7b\n\")|Trim\x7d\x7da\x7d" ++
      "\x7b\x7b/Items\x7d\x7d\x7b\x7bA.B|Plural\x7d\x7dé \x7b") = .ok (itemTree 10 45) := by
  have hstrip : stripStandalone (print (itemTree 0 0)) = print (itemTree 0 0) := by
    decide +kernel
  have hsource : print (itemTree 0 0) =
      ("\x7b\x7b#Items\x7d\x7d\x7b\x7bJoin(\"|('\x7b\x7b\n\")|Trim\x7d\x7da\x7d" ++
        "\x7b\x7b/Items\x7d\x7d\x7b\x7bA.B|Plural\x7d\x7dé \x7b").toList := by
    decide +kernel
  have hplace : place 0 (itemTree 0 0) = itemTree 10 45 := by
    rfl
  obtain ⟨hparse, -⟩ := parse_print isNormal_itemTree hstrip
  rw [hsource, String.ofList_toList, hplace] at hparse
  exact ⟨isNormal_itemTree, hstrip, hparse⟩

end DataLayer.Template
