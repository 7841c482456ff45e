import DataLayer.Proofs.Text.Ranges
import DataLayer.Proofs.Text.Utf8
import DataLayer.Proofs.Xml.Writing

/-!
How documents are cut into tags. Texts and comments are passed over, and a tag goes on until a `>`
that stands in no quotes; where a construct ends does not depend on what follows it.
-/

namespace DataLayer.Xml

open Text

/-! Octets of names. -/

/-- The characters that are taken for markup in a tag. -/
def marks : List Char := "<>&!?/='\" \t\r\n".toList

def markRanges : Array (Nat × Nat) :=
  #[(0x9, 0xd), (0x20, 0x22), (0x26, 0x27), (0x2f, 0x2f), (0x3a, 0x3f)]

/-- Marks and the colon are not in words. -/
theorem notMem_of_isWordChar {c m : Char} (hc : isWordChar c = true) (hm : m ∈ ':' :: marks) :
    c ≠ m := by
  rintro rfl
  have hranges : (':' :: marks).all (inRanges markRanges) = true := by decide +kernel
  have halphabetic : disjointRanges alphabeticRanges markRanges = true := by decide +kernel
  have hnumeric : disjointRanges numericRanges markRanges = true := by decide +kernel
  have hin := List.all_eq_true.mp hranges c hm
  rw [isWordChar, isAlphanumeric, Bool.or_eq_true, Bool.or_eq_true, beq_iff_eq] at hc
  rcases hc with (hc | hc) | rfl
  · rw [inRanges_eq_false halphabetic hc] at hin
    exact Bool.false_ne_true hin
  · rw [inRanges_eq_false hnumeric hc] at hin
    exact Bool.false_ne_true hin
  · exact absurd hin (by decide +kernel)

/-- An octet that is no mark. -/
def IsPlain (b : UInt8) : Prop := b ∉ marks.map octet

namespace IsPlain

variable {b : UInt8}

theorem ne (h : IsPlain b) {m : Char} (hm : m ∈ marks) : b ≠ octet m := by
  rintro rfl
  exact h (List.mem_map_of_mem hm)

theorem isSpace (h : IsPlain b) : isSpace b = false := by
  simp [Xml.isSpace, h.ne (m := ' ') (by decide), h.ne (m := '\t') (by decide),
    h.ne (m := '\r') (by decide), h.ne (m := '\n') (by decide)]

theorem isQuote (h : IsPlain b) : isQuote b = false := by
  simp [Xml.isQuote, h.ne (m := '"') (by decide), h.ne (m := '\'') (by decide)]

end IsPlain

theorem octet_notMem_utf8 {cs : List Char} {m : Char} (hlt : m.toNat < 128) (hm : m ∉ cs) :
    octet m ∉ utf8 cs := fun h => hm ((mem_utf8_iff hlt).mp h)

theorem isPlain_of_mem_utf8 {cs : List Char} (h : ∀ m ∈ marks, m ∉ cs) {b : UInt8}
    (hb : b ∈ utf8 cs) : IsPlain b := by
  intro hmem
  obtain ⟨m, hm, rfl⟩ := List.mem_map.mp hmem
  have hlt : marks.all (·.toNat < 128) = true := by decide
  exact octet_notMem_utf8 (by simpa using List.all_eq_true.mp hlt m hm) (h m hm) hb

theorem IsWord.notMem {s : String} (h : IsWord s) {m : Char} (hm : m ∈ ':' :: marks) :
    m ∉ s.toList := fun hmem => notMem_of_isWordChar (h.chars m hmem) hm rfl

/-- The octets of a name, also with a prefix. -/
theorem isPlain_of_mem_qualified {q : Option String} {name : String}
    (hq : ∀ w ∈ q, IsWord w) (hname : IsWord name) {b : UInt8}
    (hb : b ∈ utf8 (qualified q name)) : IsPlain b := by
  refine isPlain_of_mem_utf8 (fun m hm => ?_) hb
  have hname' : m ∉ name.toList := hname.notMem (List.mem_cons_of_mem _ hm)
  cases q with
  | none => exact hname'
  | some q =>
    have hq' : m ∉ q.toList := (hq q rfl).notMem (List.mem_cons_of_mem _ hm)
    have hcolon : m ≠ ':' := by
      rintro rfl
      revert hm
      decide
    simp [qualified, hname', hq', hcolon]

theorem utf8_cons_of_lt {c : Char} (h : c.toNat < 128) (cs : List Char) :
    utf8 (c :: cs) = octet c :: utf8 cs := by
  rw [utf8_cons, encode_of_lt h]
  rfl

section scan

variable {position start : Nat} {bs rest : Octets}

theorem scan_cons {mode next : Mode} {b : UInt8} (h : mode.step position b = (some next, none)) :
    scan mode position (b :: rest) = scan next (position + 1) rest := by
  rw [scan, h]

theorem scan_cons_found {mode next : Mode} {b : UInt8} {found : Markup}
    (h : mode.step position b = (some next, some found)) :
    scan mode position (b :: rest) = found :: scan next (position + 1) rest := by
  rw [scan, h]

/-! Texts and comments. -/

theorem scan_text (h : octet '<' ∉ bs) (h' : octet '&' ∉ bs) :
    scan .text position (bs ++ rest) = scan .text (position + bs.length) rest := by
  induction bs generalizing position with
  | nil => rfl
  | cons b bs ih =>
    rw [List.mem_cons, not_or] at h h'
    have hstep : Mode.text.step position b = (some .text, none) := by
      simp [Mode.step, Ne.symm h.1, Ne.symm h'.1]
    rw [List.cons_append, scan_cons hstep, ih h.2 h'.2, List.length_cons, Nat.add_right_comm,
      Nat.add_assoc]

/-- A comment ends at the first `-->`, which the last two octets before it may be part of. -/
theorem scan_comment {a a' : UInt8}
    (h : (a :: a' :: bs).IsChain fun b b' => ¬(b = octet '-' ∧ b' = octet '-')) :
    scan (.comment start (a, a')) position (bs ++ octet '-' :: octet '-' :: octet '>' :: rest) =
      scan .text (position + bs.length + 3) rest := by
  induction bs generalizing a a' position with
  | nil =>
    have hfirst : (Mode.comment start (a, a')).step position (octet '-') =
        (some (.comment start (a', octet '-')), none) := rfl
    have hsecond : (Mode.comment start (a', octet '-')).step (position + 1) (octet '-') =
        (some (.comment start (octet '-', octet '-')), none) := rfl
    rw [List.nil_append, scan_cons hfirst, scan_cons hsecond, scan_cons rfl]
    rfl
  | cons b bs ih =>
    have hopen : ¬(b = octet '>' ∧ a = octet '-' ∧ a' = octet '-') := fun hend => h.rel hend.2
    have hstep : (Mode.comment start (a, a')).step position b =
        (some (.comment start (a', b)), none) := by
      simpa [Mode.step] using fun hb ha ha' => hopen ⟨hb, ha, ha'⟩
    rw [List.cons_append, scan_cons hstep, ih h.tail, List.length_cons]
    congr 1
    omega

theorem scan_commentOpening :
    scan .text position (octet '<' :: octet '!' :: octet '-' :: octet '-' :: rest) =
      scan (.comment position (0, 0)) (position + 4) rest := by
  rw [scan_cons rfl, scan_cons rfl, scan_cons rfl, scan_cons rfl]

/-! Tags. -/

/-- Octets after which a tag is still open, and in no quotes. -/
def KeepsOpen (bs : Octets) : Prop :=
  ∀ start closing content position rest,
    scan (.tag start closing none content) position (bs ++ rest) =
      scan (.tag start closing none (bs.reverse ++ content)) (position + bs.length) rest

theorem KeepsOpen.nil : KeepsOpen [] := fun _ _ _ _ _ => rfl

theorem KeepsOpen.append {bs' : Octets} (h : KeepsOpen bs) (h' : KeepsOpen bs') :
    KeepsOpen (bs ++ bs') := by
  intro start closing content position rest
  rw [List.append_assoc, h, h', List.reverse_append, List.append_assoc, List.length_append,
    Nat.add_assoc]

theorem KeepsOpen.cons {b : UInt8} (hend : b ≠ octet '>') (hquote : isQuote b = false)
    (h : KeepsOpen bs) : KeepsOpen (b :: bs) := by
  intro start closing content position rest
  have hstep : (Mode.tag start closing none content).step position b =
      (some (.tag start closing none (b :: content)), none) := by
    simp [Mode.step, hend, hquote]
  rw [List.cons_append, scan_cons hstep, h, List.reverse_cons, List.append_assoc,
    List.length_cons, Nat.add_right_comm, Nat.add_assoc]
  rfl

theorem keepsOpen_of_plain (h : ∀ b ∈ bs, IsPlain b) : KeepsOpen bs := by
  induction bs with
  | nil => exact .nil
  | cons b bs ih =>
    have hb := h b List.mem_cons_self
    exact .cons (hb.ne (by decide)) hb.isQuote (ih fun b hb => h b (List.mem_cons_of_mem _ hb))

theorem scan_quoted {closing : Bool} {content : Octets} (h : octet '"' ∉ bs) :
    scan (.tag start closing (some (octet '"')) content) position (bs ++ octet '"' :: rest) =
      scan (.tag start closing none (octet '"' :: (bs.reverse ++ content)))
        (position + bs.length + 1) rest := by
  induction bs generalizing position content with
  | nil => simp [scan, Mode.step]
  | cons b bs ih =>
    rw [List.mem_cons, not_or] at h
    have hstep : (Mode.tag start closing (some (octet '"')) content).step position b =
        (some (.tag start closing (some (octet '"')) (b :: content)), none) := by
      simp [Mode.step, Ne.symm h.1]
    rw [List.cons_append, scan_cons hstep, ih h.2, List.reverse_cons, List.append_assoc,
      List.length_cons]
    congr 1
    omega

/-- In quotes all octets but the quote are passed over. -/
theorem keepsOpen_quoted (h : octet '"' ∉ bs) :
    KeepsOpen (octet '"' :: (bs ++ [octet '"'])) := by
  intro start closing content position rest
  have hstep : (Mode.tag start closing none content).step position (octet '"') =
      (some (.tag start closing (some (octet '"')) (octet '"' :: content)), none) := rfl
  rw [List.cons_append, List.append_assoc, scan_cons hstep, List.singleton_append, scan_quoted h,
    List.reverse_cons, List.reverse_append, List.length_cons, List.length_append]
  congr 1
  · simp
  · rw [List.length_singleton]
    omega

/-- A tag that starts with an octet of a name is a start tag or an empty element. -/
theorem scan_opening {b : UInt8} (hb : IsPlain b) (h : KeepsOpen bs) :
    scan .text position (octet '<' :: b :: (bs ++ octet '>' :: rest)) =
      .opening (b :: bs) :: scan .text (position + bs.length + 3) rest := by
  have hstart : scan .text position (octet '<' :: b :: (bs ++ octet '>' :: rest)) =
      scan (.tag position false none [b]) (position + 2) (bs ++ octet '>' :: rest) := by
    simp [scan, Mode.step, Mode.afterAngle, hb.ne (m := '>') (by decide),
      hb.ne (m := '!') (by decide), hb.ne (m := '?') (by decide), hb.ne (m := '/') (by decide),
      hb.isQuote]
  have hfound : closedTag false position (bs.reverse ++ [b]) = .opening (b :: bs) := by
    simp [closedTag]
  rw [hstart, h, scan_cons_found rfl, hfound]
  congr 2
  omega

theorem scan_closing (h : KeepsOpen bs) :
    scan .text position (octet '<' :: octet '/' :: (bs ++ octet '>' :: rest)) =
      .closing bs position :: scan .text (position + bs.length + 3) rest := by
  have hstart : scan .text position (octet '<' :: octet '/' :: (bs ++ octet '>' :: rest)) =
      scan (.tag position true none []) (position + 2) (bs ++ octet '>' :: rest) := by
    rw [scan_cons rfl, scan_cons rfl]
    rfl
  have hfound : closedTag true position (bs.reverse ++ []) = .closing bs position := by
    simp [closedTag]
  rw [hstart, h, scan_cons_found rfl, hfound]
  congr 2
  omega

end scan

end DataLayer.Xml
