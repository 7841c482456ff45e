import DataLayer.Config.Check
import DataLayer.Proofs.Text.Offsets

/-!
Where a name stands between quotes. A search finds the first place, and then goes on behind it, so
its second find is the first place that has another one before it, wherever these are in the
document.
-/

namespace DataLayer.Config

open Text

/-- What a part of a document holds at an offset. -/
def StandsAt (part source : List Char) (offset : Nat) : Prop :=
  ∃ before after, source = before ++ (part ++ after) ∧ octetCount before = offset

/-- The first place of a part of a document before which it has stood in full. -/
structure IsSecond (part source : List Char) (offset : Nat) : Prop where
  stands : StandsAt part source offset
  stood : ∃ first, StandsAt part source first ∧ first + octetCount part ≤ offset
  least : ∀ first second, StandsAt part source first → StandsAt part source second →
    first + octetCount part ≤ second → offset ≤ second

theorem IsSecond.unique {part source : List Char} {offset offset' : Nat}
    (h : IsSecond part source offset) (h' : IsSecond part source offset') : offset = offset' := by
  obtain ⟨first, hfirst, hle⟩ := h.stood
  obtain ⟨first', hfirst', hle'⟩ := h'.stood
  exact Nat.le_antisymm (h.least first' offset' hfirst' h'.stands hle')
    (h'.least first offset hfirst h.stands hle)

section StandsAt

variable {part : List Char}

theorem not_standsAt_nil (hpart : part ≠ []) (offset : Nat) : ¬StandsAt part [] offset := by
  rintro ⟨before, after, h, -⟩
  simp_all

/-- Behind the beginning of a document are the places that the rest has. -/
theorem standsAt_append_iff (front cs : List Char) (offset : Nat) :
    StandsAt part (front ++ cs) (octetCount front + offset) ↔ StandsAt part cs offset := by
  constructor
  · rintro ⟨before, after, h, hbefore⟩
    obtain ⟨between, rfl, rfl⟩ := exists_between_of_octetCount_le h (by omega)
    rw [octetCount_append] at hbefore
    exact ⟨between, after, rfl, by omega⟩
  · rintro ⟨before, after, rfl, rfl⟩
    exact ⟨front ++ before, after, by simp, octetCount_append ..⟩

/-- A part of a document stands at its beginning, or behind its first character. -/
theorem standsAt_cons {c : Char} {cs : List Char} {offset : Nat}
    (h : StandsAt part (c :: cs) offset) :
    part <+: c :: cs ∧ offset = 0 ∨ ∃ o, StandsAt part cs o ∧ offset = c.utf8Size + o := by
  obtain ⟨before, after, heq, rfl⟩ := h
  cases before with
  | nil => exact Or.inl ⟨⟨after, heq.symm⟩, rfl⟩
  | cons d before =>
    obtain ⟨rfl, rfl⟩ := List.cons.inj heq
    exact Or.inr ⟨_, ⟨before, after, rfl, rfl⟩, octetCount_cons ..⟩

end StandsAt

section Occurrences

variable {needle : List Char}

/-- What has been found is passed over. -/
theorem occurrences_skip (offset : Nat) (front cs : List Char) :
    occurrences needle offset front.length (front ++ cs) =
      occurrences needle (offset + octetCount front) 0 cs := by
  induction front generalizing offset with
  | nil => rfl
  | cons c front ih =>
    rw [List.cons_append, List.length_cons, occurrences, ih, octetCount_cons, Nat.add_assoc]

/-- A search finds nothing, or the first place, and then goes on behind it. -/
theorem occurrences_cases (hneedle : needle ≠ []) (offset : Nat) (cs : List Char) :
    (∀ o, ¬StandsAt needle cs o) ∧ occurrences needle offset 0 cs = [] ∨
    ∃ before after, cs = before ++ (needle ++ after) ∧
      (∀ o, StandsAt needle cs o → octetCount before ≤ o) ∧
      occurrences needle offset 0 cs =
        (offset + octetCount before) ::
          occurrences needle (offset + octetCount before + octetCount needle) 0 after := by
  induction cs generalizing offset with
  | nil =>
    left
    exact ⟨not_standsAt_nil hneedle, by simp [occurrences, hneedle]⟩
  | cons c cs ih =>
    by_cases hstarts : needle.isPrefixOf (c :: cs)
    · right
      obtain ⟨d, rest, rfl⟩ := List.exists_cons_of_ne_nil hneedle
      obtain ⟨after, hafter⟩ := List.isPrefixOf_iff_prefix.mp hstarts
      refine ⟨[], after, hafter.symm, fun o _ => Nat.zero_le o, ?_⟩
      obtain ⟨rfl, rfl⟩ := List.cons.inj (show d :: (rest ++ after) = c :: cs from hafter)
      rw [occurrences, if_pos hstarts, List.length_cons, Nat.add_sub_cancel, occurrences_skip,
        octetCount_nil, Nat.add_zero, octetCount_cons, Nat.add_assoc]
    · have hbehind {o : Nat} (h : StandsAt needle (c :: cs) o) :
          ∃ o', StandsAt needle cs o' ∧ o = c.utf8Size + o' := by
        rcases standsAt_cons h with ⟨hstarts', -⟩ | hbehind
        · exact absurd (List.isPrefixOf_iff_prefix.mpr hstarts') hstarts
        · exact hbehind
      have hsearch : occurrences needle offset 0 (c :: cs) =
          occurrences needle (offset + c.utf8Size) 0 cs := by
        rw [occurrences, if_neg hstarts]
      rw [hsearch]
      rcases ih (offset + c.utf8Size) with ⟨hnone, hnil⟩ | ⟨before, after, rfl, hleast, hcons⟩
      · left
        refine ⟨fun o h => ?_, hnil⟩
        obtain ⟨o', ho', -⟩ := hbehind h
        exact hnone o' ho'
      · right
        refine ⟨c :: before, after, rfl, fun o h => ?_, ?_⟩
        · obtain ⟨o', ho', rfl⟩ := hbehind h
          have hle := hleast o' ho'
          rw [octetCount_cons]
          omega
        · rw [hcons, octetCount_cons, ← Nat.add_assoc]

/-- The second find of a search. -/
theorem occurrences_second_iff (hneedle : needle ≠ []) {source : List Char} {offset : Nat} :
    (occurrences needle 0 0 source)[1]? = some offset ↔ IsSecond needle source offset := by
  rcases occurrences_cases hneedle 0 source with
    ⟨hnone, hnil⟩ | ⟨before, behind, rfl, hfirst, hcons⟩
  · rw [hnil]
    constructor
    · intro h
      cases h
    · intro h
      exact absurd h.stands (hnone offset)
  · -- The second place is the first one in what is behind the first place.
    have hbehind {first second : Nat}
        (hf : StandsAt needle (before ++ (needle ++ behind)) first)
        (hs : StandsAt needle (before ++ (needle ++ behind)) second)
        (hle : first + octetCount needle ≤ second) :
        ∃ o, StandsAt needle behind o ∧ second = octetCount (before ++ needle) + o := by
      have hfirst' := hfirst first hf
      obtain ⟨o, rfl⟩ := Nat.exists_eq_add_of_le
        (show octetCount (before ++ needle) ≤ second by rw [octetCount_append]; omega)
      rw [← List.append_assoc, standsAt_append_iff] at hs
      exact ⟨o, hs, rfl⟩
    rw [hcons, List.getElem?_cons_succ, ← List.head?_eq_getElem?]
    rcases occurrences_cases hneedle (0 + octetCount before + octetCount needle) behind with
      ⟨hnone, hnil⟩ | ⟨between, after, rfl, hsecond, hcons'⟩
    · rw [hnil]
      constructor
      · intro h
        cases h
      · intro h
        obtain ⟨first, hf, hle⟩ := h.stood
        obtain ⟨o, ho, -⟩ := hbehind hf h.stands hle
        exact absurd ho (hnone o)
    · have hfound : IsSecond needle (before ++ (needle ++ (between ++ (needle ++ after))))
          (0 + octetCount before + octetCount needle + octetCount between) := by
        refine ⟨⟨before ++ (needle ++ between), after, by simp, ?_⟩,
          ⟨_, ⟨before, _, rfl, rfl⟩, by omega⟩, fun first second hf hs hle => ?_⟩
        · simp only [octetCount_append]
          omega
        · obtain ⟨o, ho, rfl⟩ := hbehind hf hs hle
          have hle' := hsecond o ho
          rw [octetCount_append]
          omega
      rw [hcons', List.head?_cons, Option.some.injEq]
      constructor
      · rintro rfl
        exact hfound
      · exact hfound.unique

end Occurrences

/-- A name between quotes. -/
def inQuotes (quote : Char) (name : String) : List Char := quote :: (name.toList ++ [quote])

theorem inQuotes_ne_nil (quote : Char) (name : String) : inQuotes quote name ≠ [] := by
  simp [inQuotes]

/-- Names are looked for between double quotes, and between single ones if they do not stand between
double quotes twice. -/
def LooksBetween (source name : String) (quote : Char) : Prop :=
  quote = '"' ∨ quote = '\'' ∧ ∀ offset, ¬IsSecond (inQuotes '"' name) source.toList offset

section QuotedSpan

variable {source name : String}

theorem standsAt_quote_eq {quote quote' : Char} {offset : Nat} {cs : List Char}
    (h : StandsAt (inQuotes quote name) cs offset)
    (h' : StandsAt (inQuotes quote' name) cs offset) : quote = quote' := by
  obtain ⟨before, after, rfl, rfl⟩ := h
  have hrest : StandsAt (inQuotes quote' name) (inQuotes quote name ++ after) 0 :=
    (standsAt_append_iff before _ 0).mp h'
  rcases standsAt_cons hrest with ⟨hstarts, -⟩ | ⟨o, -, hzero⟩
  · obtain ⟨after', heq⟩ := hstarts
    exact (List.cons.inj heq).1.symm
  · have hpos := quote.utf8Size_pos
    omega

/-- The place that a report of a name's second quotation points at. -/
theorem quotedSpan?_second_iff {span : Span} :
    quotedSpan? source name 1 = some span ↔ ∃ quote offset, LooksBetween source name quote ∧
      IsSecond (inQuotes quote name) source.toList offset ∧
      span = ⟨offset + 1, name.utf8ByteSize⟩ := by
  have hfound (quote : Char) {offset : Nat} :
      (occurrences (quote :: (name.toList ++ [quote])) 0 0 source.toList)[1]? = some offset ↔
        IsSecond (inQuotes quote name) source.toList offset :=
    occurrences_second_iff (inQuotes_ne_nil quote name)
  rw [quotedSpan?, List.findSome?_cons, List.findSome?_singleton]
  cases hdouble : (occurrences ('"' :: (name.toList ++ ['"'])) 0 0 source.toList)[1]? with
  | some offset =>
    have hsecond := (hfound '"').mp hdouble
    rw [Option.map_some, Option.some.injEq]
    constructor
    · rintro rfl
      exact ⟨'"', offset, Or.inl rfl, hsecond, rfl⟩
    · rintro ⟨quote, offset', rfl | ⟨-, hnone⟩, hsecond', rfl⟩
      · rw [hsecond.unique hsecond']
      · exact absurd hsecond (hnone offset)
  | none =>
    have hnone (offset : Nat) : ¬IsSecond (inQuotes '"' name) source.toList offset := by
      rw [← hfound, hdouble]
      simp
    rw [Option.map_none, Option.map_eq_some_iff]
    constructor
    · rintro ⟨offset, hsingle, rfl⟩
      exact ⟨'\'', offset, Or.inr ⟨rfl, hnone⟩, (hfound '\'').mp hsingle, rfl⟩
    · rintro ⟨quote, offset, rfl | ⟨rfl, -⟩, hsecond, rfl⟩
      · exact absurd hsecond (hnone offset)
      · exact ⟨offset, (hfound '\'').mpr hsecond, rfl⟩

end QuotedSpan

end DataLayer.Config
