import DataLayer.Proofs.Template.Tokens
import DataLayer.Proofs.Text.Ranges
import DataLayer.Proofs.Text.Splitting
import DataLayer.Proofs.Text.Trimming
import DataLayer.Template.Parser
import Mathlib.Data.List.Forall2

/-!
The grammar of tags. What the content of a tag may look like is said here without its reader: which
pipes cut a tag, which of its segments are keywords, and what stands behind the mark of a section.
The reader accepts exactly these contents and gives each its only meaning.
-/

namespace DataLayer.Template

open Text

/-! Segments. -/

def IsQuote (c : Char) : Prop := c = '"' ∨ c = '\''

instance (c : Char) : Decidable (IsQuote c) := inferInstanceAs (Decidable (_ ∨ _))

/-- Text whose quotes are closed and whose pipes stand inside quotes. -/
inductive Closed : List Char → Prop where
  | nil : Closed []
  | plain {c : Char} {cs : List Char} : ¬IsQuote c → c ≠ '|' → Closed cs → Closed (c :: cs)
  | quoted {q : Char} {inner cs : List Char} : IsQuote q → q ∉ inner → Closed cs →
      Closed (q :: (inner ++ q :: cs))

/-- Text and its segments between the pipes outside quotes. A quote that is not closed reaches to
the end. -/
inductive Segments : List Char → List (List Char) → Prop where
  | last {cs : List Char} : Closed cs → Segments cs [cs]
  | unclosed {cs inner : List Char} {q : Char} : Closed cs → IsQuote q → q ∉ inner →
      Segments (cs ++ q :: inner) [cs ++ q :: inner]
  | cons {cs rest : List Char} {segments : List (List Char)} : Closed cs → Segments rest segments →
      Segments (cs ++ '|' :: rest) (cs :: segments)

theorem Closed.append {cs cs' : List Char} (h : Closed cs) (h' : Closed cs') :
    Closed (cs ++ cs') := by
  induction h with
  | nil => exact h'
  | plain hquote hpipe _ ih => exact .plain hquote hpipe ih
  | quoted hquote hinner _ ih =>
    rw [List.cons_append, List.append_assoc]
    exact .quoted hquote hinner ih

theorem Closed.of_plain {cs : List Char} (h : ∀ c ∈ cs, ¬IsQuote c ∧ c ≠ '|') : Closed cs := by
  induction cs with
  | nil => exact .nil
  | cons c cs ih =>
    have hc := h c List.mem_cons_self
    exact .plain hc.1 hc.2 (ih fun d hd => h d (List.mem_cons_of_mem c hd))

/-- Closed text in front becomes part of the first segment. -/
theorem Segments.prepend {cs rest : List Char} {segments : List (List Char)}
    (hrest : Segments rest segments) (hcs : Closed cs) :
    ∃ segments', Segments (cs ++ rest) segments' := by
  cases hrest with
  | last h => exact ⟨_, .last (hcs.append h)⟩
  | unclosed h hquote hinner =>
    rw [← List.append_assoc]
    exact ⟨_, .unclosed (hcs.append h) hquote hinner⟩
  | cons h hrest =>
    rw [← List.append_assoc]
    exact ⟨_, .cons (hcs.append h) hrest⟩

/-- Every text has segments. -/
theorem exists_segments (cs : List Char) : ∃ segments, Segments cs segments := by
  -- Behind a quoted text the induction goes on, so it is over the length.
  induction hlength : cs.length using Nat.strongRecOn generalizing cs with
  | _ n ih =>
    subst hlength
    cases cs with
    | nil => exact ⟨_, .last .nil⟩
    | cons c cs =>
      obtain ⟨segments, hsegments⟩ := ih cs.length (by simp) cs rfl
      by_cases hpipe : c = '|'
      · subst hpipe
        exact ⟨_, .cons .nil hsegments⟩
      · by_cases hquote : IsQuote c
        · by_cases hclosed : c ∈ cs
          · obtain ⟨inner, rest, rfl, hinner⟩ := List.eq_append_cons_of_mem hclosed
            obtain ⟨segments, hsegments⟩ := ih rest.length (by simp; omega) rest rfl
            have hprefix := hsegments.prepend (.quoted hquote hinner .nil)
            simpa using hprefix
          · exact ⟨_, .unclosed .nil hquote hclosed⟩
        · exact hsegments.prepend (.plain hquote hpipe .nil)

/-! The splitter on segments. -/

/-- The segments that the splitter gives when it comes to a text inside a quote or outside. -/
def segmentsFrom (quote : Option Char) (cs : List Char) : List (List Char) :=
  splitScan (fun q c => q.isNone && c == '|') openQuote quote cs

theorem segmentsFrom_nil (quote : Option Char) : segmentsFrom quote [] = [[]] := rfl

theorem segmentsFrom_pipe (cs : List Char) :
    segmentsFrom none ('|' :: cs) = [] :: segmentsFrom none cs := rfl

theorem segmentsFrom_plain {c : Char} (hquote : ¬IsQuote c) (hpipe : c ≠ '|') (cs : List Char) :
    segmentsFrom none (c :: cs) = consFirst c (segmentsFrom none cs) := by
  have hopen : openQuote none c = none := by simpa [openQuote, IsQuote] using hquote
  simp [segmentsFrom, splitScan, hpipe, hopen]

theorem segmentsFrom_open {q : Char} (h : IsQuote q) (cs : List Char) :
    segmentsFrom none (q :: cs) = consFirst q (segmentsFrom (some q) cs) := by
  rcases h with rfl | rfl <;> rfl

theorem segmentsFrom_close (q : Char) (cs : List Char) :
    segmentsFrom (some q) (q :: cs) = consFirst q (segmentsFrom none cs) := by
  simp [segmentsFrom, splitScan, openQuote]

/-- Inside a quote nothing cuts. -/
theorem segmentsFrom_inner {q : Char} {inner : List Char} (h : q ∉ inner) (cs : List Char) :
    segmentsFrom (some q) (inner ++ cs) = inner.foldr consFirst (segmentsFrom (some q) cs) := by
  refine splitScan_append_of_keeps (fun c hc => ⟨rfl, ?_⟩) cs
  have hne : q ≠ c := fun heq => h (heq ▸ hc)
  simp [openQuote, hne]

theorem Closed.segmentsFrom_append {cs : List Char} (h : Closed cs) (rest : List Char) :
    segmentsFrom none (cs ++ rest) = cs.foldr consFirst (segmentsFrom none rest) := by
  induction h with
  | nil => rfl
  | plain hquote hpipe _ ih =>
    rw [List.cons_append, segmentsFrom_plain hquote hpipe, ih, List.foldr_cons]
  | quoted hquote hinner _ ih =>
    rw [List.cons_append, List.append_assoc, segmentsFrom_open hquote, segmentsFrom_inner hinner,
      List.cons_append, segmentsFrom_close, ih, List.foldr_cons, List.foldr_append, List.foldr_cons]

theorem Segments.segmentsFrom {cs : List Char} {segments : List (List Char)}
    (h : Segments cs segments) : segmentsFrom none cs = segments := by
  induction h with
  | @last cs h =>
    have hcs := h.segmentsFrom_append []
    rwa [List.append_nil, segmentsFrom_nil, foldr_consFirst, List.append_nil] at hcs
  | @unclosed cs inner q h hquote hinner =>
    have hrest := segmentsFrom_inner hinner []
    rw [List.append_nil, segmentsFrom_nil, foldr_consFirst, List.append_nil] at hrest
    rw [h.segmentsFrom_append, segmentsFrom_open hquote, hrest, consFirst, foldr_consFirst]
  | cons h _ ih =>
    rw [h.segmentsFrom_append, segmentsFrom_pipe, ih, foldr_consFirst, List.append_nil]

/-- The splitter gives the segments of a text. -/
theorem segments_iff {cs : List Char} {segments : List (List Char)} :
    Segments cs segments ↔ splitOutsideQuotes '|' cs = segments := by
  constructor
  · exact Segments.segmentsFrom
  · rintro rfl
    obtain ⟨segments, h⟩ := exists_segments cs
    rwa [splitOutsideQuotes, ← segmentsFrom, h.segmentsFrom]

/-! Keyword calls. -/

def IsKeyword (keyword : List Char) : Prop :=
  keyword ≠ [] ∧ ∀ c ∈ keyword, isKeywordChar c = true

/-- A segment that is a keyword, alone or with one quoted argument in parentheses. White space does
not count around any of the three. -/
inductive PipeText (segment : List Char) : Pipe → Prop where
  | plain {keyword : List Char} : trimChars segment = keyword → IsKeyword keyword →
      PipeText segment ⟨String.ofList keyword, none⟩
  | call {before inner keyword argument : List Char} {q : Char} :
      trimChars segment = before ++ '(' :: (inner ++ [')']) → '(' ∉ before →
      trimChars before = keyword → IsKeyword keyword → IsQuote q →
      trimChars inner = q :: (argument ++ [q]) →
      PipeText segment ⟨String.ofList keyword, some (String.ofList argument)⟩

theorem isKeywordChar_of_isDelimiter {c : Char} (h : isDelimiter c = true) :
    isKeywordChar c = false := by
  have hunderscore : c ≠ '_' := by
    rintro rfl
    exact absurd h (by decide +kernel)
  rw [isKeywordChar, isAlphanumeric_of_isDelimiter h, Bool.false_or]
  exact beq_false_of_ne hunderscore

theorem IsKeyword.notMem {keyword : List Char} (h : IsKeyword keyword) {c : Char}
    (hc : isDelimiter c = true) : c ∉ keyword := by
  intro hmem
  have hchar := h.2 c hmem
  rw [isKeywordChar_of_isDelimiter hc] at hchar
  cases hchar

theorem unquote?_eq_some {cs argument : List Char} :
    unquote? cs = some argument ↔ ∃ q, IsQuote q ∧ cs = q :: (argument ++ [q]) := by
  have hor : unquote? cs = (between? '"' cs).or (between? '\'' cs) := by
    unfold unquote?
    cases between? '"' cs <;> rfl
  rw [hor, Option.or_eq_some_iff, between?_eq_some, between?_eq_some]
  constructor
  · rintro (h | ⟨-, h⟩)
    · exact ⟨'"', Or.inl rfl, h⟩
    · exact ⟨'\'', Or.inr rfl, h⟩
  · rintro ⟨q, rfl | rfl, rfl⟩
    · exact Or.inl rfl
    · exact Or.inr ⟨by simp [between?], rfl⟩

theorem ofKeyword?_eq_some {keyword : List Char} {argument : Option String} {pipe : Pipe} :
    Pipe.ofKeyword? keyword argument = some pipe ↔
      IsKeyword keyword ∧ pipe = ⟨String.ofList keyword, argument⟩ := by
  have hcondition :
      (keyword.isEmpty || !keyword.all isKeywordChar) = true ↔ ¬IsKeyword keyword := by
    rw [IsKeyword, Classical.not_and_iff_not_or_not, Bool.or_eq_true, List.isEmpty_iff, not_not]
    simp
  unfold Pipe.ofKeyword?
  by_cases h : IsKeyword keyword
  · rw [if_neg (fun hnot => hcondition.mp hnot h)]
    simp [h, eq_comm]
  · rw [if_pos (hcondition.mpr h)]
    simp [h]

/-- The reader of keyword calls follows their grammar. -/
theorem pipeText_iff {segment : List Char} {pipe : Pipe} :
    PipeText segment pipe ↔ Pipe.ofChars? segment = some pipe := by
  have hparen : isDelimiter '(' = true := by decide +kernel
  constructor
  · intro h
    simp only [Pipe.ofChars?]
    cases h with
    | @plain keyword htrim hkeyword =>
      rw [htrim, cutAtFirst_eq_none (hkeyword.notMem hparen)]
      exact ofKeyword?_eq_some.mpr ⟨hkeyword, rfl⟩
    | @call before inner keyword argument q htrim hbefore htrimBefore hkeyword hquote hinner =>
      have hunquote := unquote?_eq_some.mpr ⟨q, hquote, hinner⟩
      have hpipe : Pipe.ofKeyword? keyword (some (String.ofList argument)) = _ :=
        ofKeyword?_eq_some.mpr ⟨hkeyword, rfl⟩
      simp [htrim, cutAtFirst_append hbefore, hunquote, htrimBefore, hpipe]
  · intro h
    simp only [Pipe.ofChars?] at h
    cases hcut : cutAtFirst '(' (trimChars segment) with
    | none =>
      rw [hcut] at h
      obtain ⟨hkeyword, rfl⟩ := ofKeyword?_eq_some.mp h
      exact .plain rfl hkeyword
    | some parts =>
      obtain ⟨before, rest⟩ := parts
      rw [hcut] at h
      dsimp only at h
      split at h
      · next hlast =>
        obtain ⟨argument, hargument, hpipe⟩ := Option.bind_eq_some_iff.mp h
        obtain ⟨q, hquote, hinner⟩ := unquote?_eq_some.mp hargument
        obtain ⟨hkeyword, rfl⟩ := ofKeyword?_eq_some.mp hpipe
        obtain ⟨hsegment, hbefore⟩ := cutAtFirst_eq_some hcut
        obtain ⟨inner, rfl⟩ := List.getLast?_eq_some_iff.mp (beq_iff_eq.mp hlast)
        rw [List.dropLast_concat] at hinner
        exact .call hsegment hbefore rfl hkeyword hquote hinner
      · cases h

theorem forall₂_pipeText {segments : List (List Char)} {pipes : List Pipe} :
    List.Forall₂ PipeText segments pipes ↔ pipes? segments = some pipes := by
  induction segments generalizing pipes with
  | nil => simp [pipes?, eq_comm]
  | cons segment rest ih =>
    rw [pipes?, List.forall₂_cons_left_iff, Option.bind_eq_some_iff]
    simp only [pipeText_iff, ih, Option.map_eq_some_iff]
    constructor
    · rintro ⟨pipe, more, hpipe, hmore, rfl⟩
      exact ⟨pipe, hpipe, more, hmore, rfl⟩
    · rintro ⟨pipe, hpipe, more, hmore, rfl⟩
      exact ⟨pipe, more, hpipe, hmore, rfl⟩

/-! Values. -/

/-- The content of a tag that prints: a path and then keywords, or keywords alone of which the
first has an argument. -/
inductive ValueText (content : List Char) : Option String → List Pipe → Prop where
  | path {first path : List Char} {rest : List (List Char)} {pipes : List Pipe} :
      Segments content (first :: rest) → trimChars first = path → path ≠ [] → '(' ∉ path →
      List.Forall₂ PipeText rest pipes → ValueText content (some (String.ofList path)) pipes
  | call {first : List Char} {rest : List (List Char)} {pipes : List Pipe} :
      Segments content (first :: rest) → '(' ∈ trimChars first →
      List.Forall₂ PipeText (first :: rest) pipes → ValueText content none pipes

/-- White space around a keyword call does not count. -/
theorem ofChars?_trimChars (segment : List Char) :
    Pipe.ofChars? (trimChars segment) = Pipe.ofChars? segment := by
  simp only [Pipe.ofChars?, trimChars_trimChars]

theorem ValueText.valueOf? {content : List Char} {path : Option String} {pipes : List Pipe}
    (h : ValueText content path pipes) : Mark.valueOf? content = some (.value path pipes) := by
  unfold Mark.valueOf?
  cases h with
  | @path first path rest pipes hsegments htrim hne hparen hpipes =>
    rw [segments_iff.mp hsegments]
    simp [htrim, hne, hparen, forall₂_pipeText.mp hpipes]
  | @call first rest pipes hsegments hparen hpipes =>
    have hne : trimChars first ≠ [] := List.ne_nil_of_mem hparen
    have hall : pipes? (trimChars first :: rest) = some pipes := by
      rw [pipes?, ofChars?_trimChars]
      exact forall₂_pipeText.mp hpipes
    rw [segments_iff.mp hsegments]
    simp [hne, hparen, hall]

theorem exists_valueText {content : List Char} {mark : Mark}
    (h : Mark.valueOf? content = some mark) :
    ∃ path pipes, mark = .value path pipes ∧ ValueText content path pipes := by
  unfold Mark.valueOf? at h
  obtain ⟨segments, hsegments⟩ := exists_segments content
  rw [segments_iff.mp hsegments] at h
  cases segments with
  | nil => cases h
  | cons first rest =>
    dsimp only at h
    split at h
    · cases h
    · next hne =>
      split at h
      · next hparen =>
        obtain ⟨pipes, hpipes, rfl⟩ := Option.map_eq_some_iff.mp h
        rw [pipes?, ofChars?_trimChars] at hpipes
        exact ⟨_, _, rfl, .call hsegments (by simpa using hparen) (forall₂_pipeText.mpr hpipes)⟩
      · next hparen =>
        obtain ⟨pipes, hpipes, rfl⟩ := Option.map_eq_some_iff.mp h
        exact ⟨_, _, rfl, .path hsegments rfl (by simpa using hne) (by simpa using hparen)
          (forall₂_pipeText.mpr hpipes)⟩

/-! Marks. -/

/-- What the content of a tag means, by its first character. The path of a section stands behind
its mark, and an opener has one. -/
inductive TagText : List Char → Mark → Prop where
  | comment {cs : List Char} : TagText ('!' :: cs) .comment
  | opener {cs : List Char} : trimChars cs ≠ [] →
      TagText ('#' :: cs) (.opener (String.ofList (trimChars cs)) false)
  | inverted {cs : List Char} : trimChars cs ≠ [] →
      TagText ('^' :: cs) (.opener (String.ofList (trimChars cs)) true)
  | closer {cs : List Char} : TagText ('/' :: cs) (.closer (String.ofList (trimChars cs)))
  | value {c : Char} {cs : List Char} {path : Option String} {pipes : List Pipe} :
      c ∉ ['!', '#', '^', '/'] → ValueText (c :: cs) path pipes →
      TagText (c :: cs) (.value path pipes)

/-- The reader of tags follows their grammar. -/
theorem tagText_iff {content : List Char} {mark : Mark} :
    TagText content mark ↔ Mark.ofContent? content = some mark := by
  constructor
  · intro h
    cases h with
    | comment => rfl
    | opener hpath | inverted hpath => simp [Mark.ofContent?, hpath]
    | closer => rfl
    | value hmark hvalue =>
      simp only [List.mem_cons, List.not_mem_nil, or_false, not_or] at hmark
      obtain ⟨hcomment, hopener, hinverted, hcloser⟩ := hmark
      simp [Mark.ofContent?, hcomment, hopener, hinverted, hcloser, hvalue.valueOf?]
  · intro h
    cases content with
    | nil => cases h
    | cons c cs =>
      by_cases hmark : c ∈ ['!', '#', '^', '/']
      · have hopen {mark' : Mark} (hopener : (if (trimChars cs).isEmpty = true then none
            else some mark') = some mark) : trimChars cs ≠ [] ∧ mark' = mark := by
          split at hopener
          · cases hopener
          · next hne => exact ⟨by simpa using hne, Option.some.inj hopener⟩
        simp only [List.mem_cons, List.not_mem_nil, or_false] at hmark
        rcases hmark with rfl | rfl | rfl | rfl
        · obtain rfl := Option.some.inj h
          exact .comment
        · obtain ⟨hpath, rfl⟩ := hopen h
          exact .opener hpath
        · obtain ⟨hpath, rfl⟩ := hopen h
          exact .inverted hpath
        · obtain rfl := Option.some.inj h
          exact .closer
      · have hnot := hmark
        simp only [List.mem_cons, List.not_mem_nil, or_false, not_or] at hnot
        have hread : Mark.valueOf? (c :: cs) = some mark := by
          simpa [Mark.ofContent?, hnot] using h
        obtain ⟨path, pipes, rfl, hvalue⟩ := exists_valueText hread
        exact .value hmark hvalue

/-! Paths of sections. -/

/-- A path that is read as it is behind the mark of a section. -/
structure IsBlockPath (path : List Char) : Prop where
  nonempty : path ≠ []
  trimmed : trimChars path = path
  unpaired : Unpaired '}' path

namespace IsBlockPath

variable {path : String} (h : IsBlockPath path.toList)

include h

theorem trimmed_cons {mark : Char} (hmark : isBlank mark = false) :
    trimChars (mark :: path.toList) = mark :: path.toList := by
  have hfirst : trimChars [mark] = [mark] := trimChars_eq_self (by simpa using hmark)
  exact trimChars_append (List.cons_ne_nil mark []) h.nonempty hfirst h.trimmed []

theorem unpaired_cons {mark : Char} (hmark : mark ≠ '}') : Unpaired '}' (mark :: path.toList) :=
  (Unpaired.of_notMem (by simpa using hmark.symm : '}' ∉ [mark])).append h.unpaired

theorem opener (inverted : Bool) :
    Mark.ofContent? (trimChars ((if inverted then '^' else '#') :: path.toList)) =
      some (.opener path inverted) := by
  have hne : trimChars path.toList ≠ [] := by
    rw [h.trimmed]
    exact h.nonempty
  cases inverted with
  | false =>
    have hopener := tagText_iff.mp (TagText.opener hne)
    rw [h.trimmed, String.ofList_toList] at hopener
    rw [if_neg Bool.false_ne_true, h.trimmed_cons (isBlank_eq_false (by decide) (by decide))]
    exact hopener
  | true =>
    have hopener := tagText_iff.mp (TagText.inverted hne)
    rw [h.trimmed, String.ofList_toList] at hopener
    rw [if_pos rfl, h.trimmed_cons (isBlank_eq_false (by decide) (by decide))]
    exact hopener

theorem closer :
    Mark.ofContent? (trimChars ('/' :: path.toList)) = some (.closer path) := by
  have hcloser : Mark.ofContent? ('/' :: path.toList) = _ := tagText_iff.mp .closer
  rw [h.trimmed, String.ofList_toList] at hcloser
  rw [h.trimmed_cons (isBlank_eq_false (by decide) (by decide))]
  exact hcloser

end IsBlockPath

end DataLayer.Template
