import DataLayer.Proofs.Template.Reduction
import DataLayer.Proofs.Template.TagGrammar

/-!
Lines that are one tag. The reduction decides on the characters between the braces as they stand,
while the reader takes white space off the content of a tag first and cuts it at the first pair of
closing braces. So the two agree on a line exactly if the mark follows the opening braces at once
and no other pair of opening braces stands in the tag.
-/

namespace DataLayer.Template

open Text

/-! Tags that print nothing. -/

/-- Whether a tag prints nothing itself: a section opener, a closer or a comment. -/
def Mark.isSilent : Mark → Bool
  | .comment | .opener .. | .closer _ => true
  | .value .. => false

/-- Silent tags start with one of four marks. -/
theorem TagText.isSilentMark {content : List Char} {mark : Mark} (h : TagText content mark)
    (hsilent : mark.isSilent = true) : ∃ c ∈ content.head?, isSilentMark c = true := by
  cases h with
  | comment => exact ⟨'!', rfl, rfl⟩
  | opener => exact ⟨'#', rfl, rfl⟩
  | inverted => exact ⟨'^', rfl, rfl⟩
  | closer => exact ⟨'/', rfl, rfl⟩
  | value => contradiction

theorem isBlank_of_isSilentMark {c : Char} (h : isSilentMark c = true) : isBlank c = false := by
  simp only [isSilentMark, Bool.or_eq_true, beq_iff_eq] at h
  rcases h with ((rfl | rfl) | rfl) | rfl <;> exact isBlank_eq_false (by decide) (by decide)

/-- A tag with its mark right behind the opening braces, and without further opening braces. -/
def PlainContent (content : List Char) : Prop :=
  (∀ c ∈ content.head?, isBlank c = false) ∧ ¬['{', '{'] <:+: content

/-- A line of a source that is one silent tag, as the reader cuts it, with white space around it. No
tag that starts before it is open there, and its first pair of closing braces is its last. -/
structure TagLine (source : List Char) where
  before : List (List Char)
  line : List Char
  after : List (List Char)
  content : List Char
  lines_eq : lines source = before ++ line :: after
  trimmed : trimChars line = braced content
  cut : ¬['}', '}'] <:+: content ++ ['}']
  outside : AllClosed (tokens 0 (before.flatMap stripLine))
  silent : ∃ mark, Mark.ofContent? (trimChars content) = some mark ∧ mark.isSilent = true

namespace TagLine

variable {source : List Char} (t : TagLine source)

/-- The octets of the reduced source before the line. -/
def offset : Nat := octetCount (t.before.flatMap stripLine)

/-- The lines that the reduction takes for standalone ones. -/
theorem isStandalone_iff : isStandalone (trimChars t.line) = true ↔ PlainContent t.content := by
  rw [t.trimmed, isStandalone_braced_iff, PlainContent, not_infix_iff_hasPair]
  constructor
  · rintro ⟨⟨c, hc, hmark⟩, hopen, -⟩
    refine ⟨fun d hd => ?_, hopen⟩
    obtain rfl : c = d := Option.mem_unique hc hd
    exact isBlank_of_isSilentMark hmark
  · rintro ⟨hhead, hopen⟩
    obtain ⟨mark, hmark, hsilent⟩ := t.silent
    obtain ⟨c, hc, hc'⟩ := (tagText_iff.mpr hmark).isSilentMark hsilent
    have hclose := (unpaired_iff.mp (not_infix_iff_hasPair.mp t.cut)).1
    -- A content that starts with its mark keeps it when it is trimmed.
    refine ⟨⟨c, ?_, hc'⟩, hopen, hclose⟩
    cases hcontent : t.content with
    | nil => simp [hcontent, trimChars, dropEndWhile] at hc
    | cons d rest => rwa [hcontent, trimChars_cons (hhead d (by simp [hcontent]))] at hc

/-- The tag is read for itself, and the white space that the reduction leaves around it is text. -/
theorem tokens_eq {lead trail : List Char}
    (h : stripLine t.line = lead ++ (braced t.content ++ trail))
    (hlead : ∀ c ∈ lead, isBlank c = true) (htrail : ∀ c ∈ trail, isBlank c = true) :
    tokens 0 (stripStandalone source) =
      glue (tokens 0 (t.before.flatMap stripLine))
        (.text lead :: .tag t.content (t.offset + octetCount lead) ::
          glueText trail (tokens (t.offset + octetCount (stripLine t.line))
            (t.after.flatMap stripLine))) := by
  have hsource : stripStandalone source =
      t.before.flatMap stripLine ++ (stripLine t.line ++ t.after.flatMap stripLine) := by
    rw [stripStandalone, t.lines_eq, List.flatMap_append, List.flatMap_cons]
  have hlast := getLast?_flatMap_stripLine (getLast?_of_lines_eq t.lines_eq)
  have hoffset : t.offset + octetCount (stripLine t.line) =
      t.offset + octetCount lead + octetCount t.content + 4 + octetCount trail := by
    rw [h, octetCount_append, octetCount_append, octetCount_braced]
    omega
  rw [hsource, tokens_append t.outside hlast, hoffset, h, List.append_assoc, List.append_assoc,
    tokens_braced (.of_notMem (brace_notMem_of_blank hlead)) (not_infix_iff_hasPair.mp t.cut),
    tokens_prepend (.of_notMem (brace_notMem_of_blank htrail)), Nat.zero_add]
  rfl

end TagLine

/-- A line that is one silent tag is reduced to this tag exactly if it is the tag already or the tag
is plain, and it stays as it is otherwise. The white space that is left is what stands as text
next to the tag. -/
theorem tag_lines_reduced_iff {source : List Char} (t : TagLine source) :
    (stripLine t.line = braced t.content ↔ t.line = braced t.content ∨ PlainContent t.content) ∧
    (stripLine t.line = braced t.content ∨ stripLine t.line = t.line) ∧
    ∃ lead trail, stripLine t.line = lead ++ (braced t.content ++ trail) ∧
      (∀ c ∈ lead, isBlank c = true) ∧ (∀ c ∈ trail, isBlank c = true) ∧
      tokens 0 (stripStandalone source) =
        glue (tokens 0 (t.before.flatMap stripLine))
          (.text lead :: .tag t.content (t.offset + octetCount lead) ::
            glueText trail (tokens (t.offset + octetCount (stripLine t.line))
              (t.after.flatMap stripLine))) := by
  cases hstandalone : isStandalone (trimChars t.line) with
  | true =>
    have hstrip : stripLine t.line = braced t.content := by
      rw [stripLine_eq_trimChars hstandalone, t.trimmed]
    have hspare : stripLine t.line = [] ++ (braced t.content ++ []) := by simp [hstrip]
    exact ⟨iff_of_true hstrip (Or.inr (t.isStandalone_iff.mp hstandalone)), Or.inl hstrip, [], [],
      hspare, by simp, by simp, t.tokens_eq hspare (by simp) (by simp)⟩
  | false =>
    have hstrip : stripLine t.line = t.line := stripLine_eq_self hstandalone
    have hplain : ¬PlainContent t.content := by
      rw [← t.isStandalone_iff, hstandalone]
      decide
    obtain ⟨lead, trail, hline, hlead, htrail⟩ := exists_blanks_around t.line
    rw [t.trimmed] at hline
    have hspare := hstrip.trans hline
    refine ⟨?_, Or.inr hstrip, lead, trail, hspare, hlead, htrail, t.tokens_eq hspare hlead htrail⟩
    rw [hstrip, or_iff_left hplain]

/-- A section on lines of its own, with an indented comment in it. -/
def notedSource : String := "{{#A}}\n  {{! note }} \nx\n{{/A}}\n"

def notedLine : TagLine notedSource.toList where
  before := ["{{#A}}\n".toList]
  line := "  {{! note }} \n".toList
  after := ["x\n".toList, "{{/A}}\n".toList]
  content := "! note ".toList
  lines_eq := by decide +kernel
  trimmed := by decide +kernel
  cut := not_infix_iff_hasPair.mpr (by decide +kernel)
  outside := TagsOnLines.allClosed (by decide +kernel)
  silent := ⟨.comment, by decide +kernel, rfl⟩

theorem tag_lines_reduced_iff_noted :
    PlainContent notedLine.content ∧ stripLine notedLine.line = "{{! note }}".toList := by
  have hmark (c : Char) (hc : c ∈ notedLine.content.head?) : isBlank c = false := by
    obtain rfl : '!' = c := Option.some.inj hc
    exact isBlank_of_isSilentMark rfl
  have hplain : PlainContent notedLine.content :=
    ⟨hmark, not_infix_iff_hasPair.mpr (by decide +kernel)⟩
  exact ⟨hplain, (tag_lines_reduced_iff notedLine).1.mpr (Or.inr hplain)⟩

/-- A section on lines of its own, with white space in front of its marks. -/
def spacedSource : String := "{{ #A }}\nx\n{{ /A }}\n"

def spacedLine : TagLine spacedSource.toList where
  before := []
  line := "{{ #A }}\n".toList
  after := ["x\n".toList, "{{ /A }}\n".toList]
  content := " #A ".toList
  lines_eq := by decide +kernel
  trimmed := by decide +kernel
  cut := not_infix_iff_hasPair.mpr (by decide +kernel)
  outside := TagsOnLines.allClosed (by decide +kernel)
  silent := ⟨.opener "A" false, by decide +kernel, rfl⟩

/-- White space in front of the mark keeps a line from being reduced, and its end is printed. -/
theorem spaced_tag_lines_stay :
    ¬(∀ (source : List Char) (t : TagLine source), stripLine t.line = braced t.content) ∧
      renderFresh (.all [] []) spacedSource (.record [("A", .flag true)]) = .ok "\nx\n\n" := by
  refine ⟨fun hall => ?_, eq_ok_of_toOption (by decide +kernel)⟩
  exact absurd (hall spacedSource.toList spacedLine) (by decide +kernel)

end DataLayer.Template
