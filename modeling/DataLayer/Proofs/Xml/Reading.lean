import DataLayer.Proofs.Xml.StartTags

/-!
Written documents are read back as the trees that they were written from. Each construct takes a
builder from one text to the next, so a document is read construct by construct.
-/

namespace DataLayer.Xml

open Text

/-- The element that a start tag opens, with children that are in reverse order. -/
def Tag.opened (tag : Tag) (before : List Tree) : OpenElement :=
  ⟨utf8 tag.fullName, tag.name, tag.attributes, before⟩

namespace Builder

/-- A builder reads octets and becomes another one. The octets are cut on their own, whatever
follows them. -/
def Reads (b : Builder) (bs : Octets) (b' : Builder) : Prop :=
  ∀ position rest, ∃ found position',
    scan .text position (bs ++ rest) = found ++ scan .text position' rest ∧
      found.foldlM step b = .ok b'

variable {b b' b'' : Builder} {bs bs' : Octets}

theorem Reads.nil (b : Builder) : b.Reads [] b := fun position _ => ⟨[], position, rfl, rfl⟩

theorem Reads.append (h : b.Reads bs b') (h' : b'.Reads bs' b'') : b.Reads (bs ++ bs') b'' := by
  intro position rest
  obtain ⟨found, position', hscan, hfound⟩ := h position (bs' ++ rest)
  obtain ⟨found', position'', hscan', hfound'⟩ := h' position' rest
  refine ⟨found ++ found', position'', ?_, ?_⟩
  · rw [List.append_assoc, hscan, hscan', List.append_assoc]
  · rw [List.foldlM_append, hfound]
    exact hfound'

/-- Octets that are passed over. -/
theorem Reads.of_scan (h : ∀ position rest,
    ∃ position', scan .text position (bs ++ rest) = scan .text position' rest) : b.Reads bs b := by
  intro position rest
  obtain ⟨position', hscan⟩ := h position rest
  exact ⟨[], position', hscan, rfl⟩

/-- The octets of a tag. -/
theorem Reads.of_step (h : ∀ position rest, ∃ m position',
    scan .text position (bs ++ rest) = m :: scan .text position' rest ∧ b.step m = .ok b') :
    b.Reads bs b' := by
  intro position rest
  obtain ⟨m, position', hscan, hstep⟩ := h position rest
  refine ⟨[m], position', hscan, ?_⟩
  rw [List.foldlM_cons, hstep]
  rfl

/-- Whether `n` more elements may be completed: inside of an open element, or as the root. -/
def HasRoom (b : Builder) (n : Nat) : Prop := b.opened ≠ [] ∨ b.root.toList.length + n ≤ 1

/-- Completes elements one after another. -/
def completeAll (ts : List Tree) (b : Builder) : Builder := ts.foldl (fun b t => b.complete t) b

theorem HasRoom.complete {n : Nat} (h : b.HasRoom (n + 1)) (t : Tree) :
    (b.complete t).HasRoom n := by
  rcases b with ⟨_ | ⟨e, outer⟩, root⟩
  · rcases h with h | h
    · exact absurd rfl h
    · obtain rfl : n = 0 := by omega
      exact Or.inr (Nat.le_refl 1)
  · exact Or.inl (List.cons_ne_nil _ _)

theorem HasRoom.isSome_eq_false {n : Nat} (h : b.HasRoom (n + 1)) :
    (b.opened.isEmpty && b.root.isSome) = false := by
  rcases b with ⟨_ | ⟨e, outer⟩, _ | t⟩
  · rfl
  · rcases h with h | h
    · exact absurd rfl h
    · exact absurd h (by simp)
  · rfl
  · rfl

theorem completeAll_opened (tag : Tag) (ts before : List Tree) (outer : List OpenElement)
    (root : Option Tree) :
    completeAll ts ⟨tag.opened before :: outer, root⟩ =
      ⟨tag.opened (ts.reverse ++ before) :: outer, root⟩ := by
  induction ts generalizing before with
  | nil => rfl
  | cons t ts ih =>
    rw [List.reverse_cons, List.append_assoc]
    exact ih (t :: before)

/-! Constructs. -/

theorem reads_text {s : String} (h : '<' ∉ s.toList) (h' : '&' ∉ s.toList) :
    b.Reads (utf8 s.toList) b :=
  .of_scan fun _ _ => ⟨_, scan_text (octet_notMem_utf8 (by decide) h)
    (octet_notMem_utf8 (by decide) h')⟩

/-- Behind the two octets that a comment starts with. -/
theorem isChain_comment {s : String} (h : ¬['-', '-'] <:+: s.toList) :
    (0 :: 0 :: utf8 s.toList).IsChain fun b b' => ¬(b = octet '-' ∧ b' = octet '-') := by
  have hchars : s.toList.IsChain fun c c' => ¬(c = '-' ∧ c' = '-') := by
    rw [List.isChain_iff_forall_rel_of_append_cons_cons]
    rintro _ _ before after heq ⟨rfl, rfl⟩
    exact h ⟨before, after, by simp [heq]⟩
  have hzero (b : UInt8) : ¬((0 : UInt8) = octet '-' ∧ b = octet '-') := fun hb =>
    absurd hb.1 (by decide)
  exact .cons_cons (hzero _) (.cons (isChain_utf8 (by decide) hchars) fun b _ => hzero b)

theorem reads_comment {s : String} (h : ¬['-', '-'] <:+: s.toList) :
    b.Reads (utf8 (commentChars s)) b := by
  refine .of_scan fun position rest => ?_
  have hopening : utf8 "<!--".toList = [octet '<', octet '!', octet '-', octet '-'] := by decide
  have hclosing : utf8 "-->".toList = [octet '-', octet '-', octet '>'] := by decide
  have hoctets : utf8 (commentChars s) ++ rest =
      octet '<' :: octet '!' :: octet '-' :: octet '-' ::
        (utf8 s.toList ++ octet '-' :: octet '-' :: octet '>' :: rest) := by
    rw [commentChars, utf8_append, utf8_append, hopening, hclosing]
    simp
  rw [hoctets, scan_commentOpening]
  exact ⟨_, scan_comment (isChain_comment h)⟩

variable {tag : Tag}

theorem step_start (h : tag.Readable) {n : Nat} (hroom : b.HasRoom (n + 1)) :
    b.step (.opening (utf8 tag.chars)) = .ok ⟨tag.opened [] :: b.opened, b.root⟩ := by
  simp only [step, hroom.isSome_eq_false, Tag.splitEmptyMark_chars h, Tag.splitName_chars h,
    Tag.attributes?_items h, Tag.lossy_localPart_fullName h, Bool.false_eq_true, reduceIte,
    Tag.opened]

theorem step_empty (h : tag.Readable) {n : Nat} (hroom : b.HasRoom (n + 1)) :
    b.step (.opening (utf8 tag.chars ++ [octet '/'])) = .ok (b.complete (tag.element [])) := by
  simp only [step, hroom.isSome_eq_false, splitEmptyMark_concat, Tag.splitName_chars h,
    Tag.attributes?_items h, Tag.lossy_localPart_fullName h, Bool.false_eq_true, reduceIte,
    Tag.element]

theorem reads_start (h : tag.Readable) {n : Nat} (hroom : b.HasRoom (n + 1)) :
    b.Reads (utf8 tag.startChars) ⟨tag.opened [] :: b.opened, b.root⟩ := by
  refine .of_step fun position rest => ?_
  obtain ⟨position', hscan⟩ := Tag.exists_scan_chars h .nil position rest
  refine ⟨_, position', ?_, step_start h hroom⟩
  rw [List.append_nil] at hscan
  rw [← hscan, Tag.utf8_startChars, List.cons_append, List.append_assoc]
  rfl

theorem reads_empty (h : tag.Readable) {n : Nat} (hroom : b.HasRoom (n + 1)) :
    b.Reads (utf8 tag.emptyChars) (b.complete (tag.element [])) := by
  have hslash : KeepsOpen [octet '/'] := .cons (by decide) rfl .nil
  refine .of_step fun position rest => ?_
  obtain ⟨position', hscan⟩ := Tag.exists_scan_chars h hslash position rest
  refine ⟨_, position', ?_, step_empty h hroom⟩
  rw [← hscan, Tag.utf8_emptyChars, List.cons_append, List.append_assoc, List.append_assoc]
  rfl

/-- An end tag completes the element that its start tag opened. -/
theorem reads_end (h : tag.Readable) (before : List Tree) (outer : List OpenElement)
    (root : Option Tree) :
    Reads ⟨tag.opened before :: outer, root⟩ (utf8 tag.endChars)
      (complete (tag.element before.reverse) ⟨outer, root⟩) := by
  have hopen : KeepsOpen (utf8 tag.fullName) :=
    keepsOpen_of_plain fun b => Tag.isPlain_of_mem_fullName h
  refine .of_step fun position rest =>
    ⟨.closing (utf8 tag.fullName) position, position + (utf8 tag.fullName).length + 3, ?_, ?_⟩
  · rw [← scan_closing hopen, Tag.utf8_endChars, List.cons_append, List.cons_append,
      List.append_assoc]
    rfl
  · simp only [step, Tag.opened, Tag.closingName_fullName h, reduceIte, Tag.element]

end Builder

/-! Documents. -/

theorem Content.reads {c : Content} (hchosen : c.WellChosen)
    (hnamed : ∀ t ∈ c.trees, t.WellNamed) {b : Builder} (hroom : b.HasRoom c.trees.length) :
    b.Reads (utf8 c.chars) (b.completeAll c.trees) := by
  induction c generalizing b with
  | nothing => exact .nil b
  | text s rest ih =>
    rw [chars, utf8_append]
    exact (Builder.reads_text hchosen.1 hchosen.2.1).append (ih hchosen.2.2 hnamed hroom)
  | comment s rest ih =>
    rw [chars, utf8_append]
    exact (Builder.reads_comment hchosen.1).append (ih hchosen.2 hnamed hroom)
  | empty tag rest ih =>
    rw [trees, List.forall_mem_cons] at hnamed
    obtain ⟨⟨hword, hattributes, -⟩, hrest⟩ := hnamed
    rw [chars, utf8_append]
    exact (Builder.reads_empty ⟨hchosen.1, hword, hattributes⟩ hroom).append
      (ih hchosen.2 hrest (hroom.complete _))
  | element tag inner rest ihinner ihrest =>
    rw [trees, List.forall_mem_cons] at hnamed
    obtain ⟨⟨hword, hattributes, hinner⟩, hrest⟩ := hnamed
    obtain ⟨htag, hchosen, hchosen'⟩ := hchosen
    have htag : tag.Readable := ⟨htag, hword, hattributes⟩
    -- Inside of the start tag there is room for any number of elements.
    have hwithin := ihinner hchosen hinner (b := ⟨tag.opened [] :: b.opened, b.root⟩)
      (Or.inl (List.cons_ne_nil _ _))
    have hend := Builder.reads_end htag inner.trees.reverse b.opened b.root
    rw [Builder.completeAll_opened, List.append_nil] at hwithin
    rw [List.reverse_reverse] at hend
    rw [chars, utf8_append, utf8_append, utf8_append]
    exact (Builder.reads_start htag hroom).append
      (hwithin.append (hend.append (ihrest hchosen' hrest (hroom.complete _))))

/-- Only the character U+FEFF has the octets of a byte order mark. -/
theorem dropMark_utf8 (cs : List Char) :
    dropMark (utf8 cs) = utf8 cs ∨
      ∃ rest, cs = '\uFEFF' :: rest ∧ dropMark (utf8 cs) = utf8 rest := by
  unfold dropMark
  split
  · next rest heq =>
    have hmark : utf8 cs = utf8 ['\uFEFF'] ++ rest := heq
    have hcs := congrArg lossyChars hmark
    rw [lossyChars_utf8, lossyChars_utf8_append, List.singleton_append] at hcs
    rw [hcs] at hmark
    exact Or.inr ⟨_, hcs, (List.append_cancel_left hmark).symm⟩
  · exact Or.inl rfl

/-- A text that the document starts with is as good without its first character. -/
theorem Content.exists_tail {c : Content} {first : Char} {cs : List Char}
    (h : c.chars = first :: cs) (hfirst : first ≠ '<') :
    ∃ c' : Content, c'.chars = cs ∧ c'.trees = c.trees ∧ (c.WellChosen → c'.WellChosen) := by
  induction c with
  | nothing => cases h
  | text s rest ih =>
    rw [chars] at h
    cases hs : s.toList with
    | nil =>
      rw [hs, List.nil_append] at h
      obtain ⟨c', hchars, htrees, hchosen⟩ := ih h
      exact ⟨c', hchars, htrees, fun hc => hchosen hc.2.2⟩
    | cons c more =>
      rw [hs] at h
      refine ⟨.text (String.ofList more) rest, ?_, rfl, fun hc => ?_⟩
      · rw [chars, String.toList_ofList]
        exact (List.cons.inj h).2
      · obtain ⟨hless, hand, hrest⟩ := hc
        rw [hs, List.mem_cons, not_or] at hless hand
        rw [WellChosen, String.toList_ofList]
        exact ⟨hless.2, hand.2, hrest⟩
  | comment s rest => exact absurd (List.cons.inj h).1.symm hfirst
  | empty tag rest => exact absurd (List.cons.inj h).1.symm hfirst
  | element tag inner rest => exact absurd (List.cons.inj h).1.symm hfirst

theorem Content.exists_dropMark (c : Content) :
    ∃ c' : Content, dropMark c.octets = utf8 c'.chars ∧ c'.trees = c.trees ∧
      (c.WellChosen → c'.WellChosen) := by
  rw [octets, octets_ofList]
  rcases dropMark_utf8 c.chars with hsame | ⟨rest, hchars, hdrop⟩
  · exact ⟨c, hsame, rfl, id⟩
  · obtain ⟨c', hchars', htrees, hchosen⟩ := exists_tail hchars (by decide)
    exact ⟨c', by rw [hdrop, hchars'], htrees, hchosen⟩

/-- Reading undoes writing. -/
theorem Content.parse_octets {c : Content} {t : Tree} (hchosen : c.WellChosen)
    (hnamed : t.WellNamed) (htrees : c.trees = [t]) : parse c.octets = .ok t := by
  obtain ⟨c', hoctets, htrees', hchosen'⟩ := c.exists_dropMark
  rw [htrees] at htrees'
  have hnamed' : ∀ t' ∈ c'.trees, t'.WellNamed := by
    rw [htrees']
    exact List.forall_mem_singleton.mpr hnamed
  have hroom : Builder.HasRoom ⟨[], none⟩ c'.trees.length := Or.inr (by simp [htrees'])
  obtain ⟨found, position, hscan, hfound⟩ := reads (hchosen' hchosen) hnamed' hroom 0 []
  have hmarkups : markups c.octets = found := by
    rw [List.append_nil] at hscan
    rw [markups, hoctets, hscan, scan]
    exact List.append_nil found
  rw [htrees'] at hfound
  rw [parse, hmarkups, hfound]
  rfl

end DataLayer.Xml
