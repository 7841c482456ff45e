import DataLayer.Proofs.Text.Offsets
import DataLayer.Template.Lines
import DataLayer.Template.Token

/-!
Sources cut into texts and tags. Every tag reaches from the leftmost pair of opening braces to the
first pair of closing braces behind it, and only the last one can lack its end.
-/

namespace DataLayer.Template

open Text

/-! Where pairs of a character are found. -/

/-- A pair of `c` behind these characters is the first one. -/
def Unpaired (c : Char) (cs : List Char) : Prop := hasPair c (cs ++ [c]) = false

instance (c : Char) (cs : List Char) : Decidable (Unpaired c cs) :=
  inferInstanceAs (Decidable (_ = _))

section Pairs

variable {c : Char} {cs cs' : List Char}

theorem hasPair_cons_cons (c a b : Char) (rest : List Char) :
    hasPair c (a :: b :: rest) = ((a == c && b == c) || hasPair c (b :: rest)) := rfl

theorem unpaired_nil (c : Char) : Unpaired c [] := rfl

theorem Unpaired.hasPair_append (h : Unpaired c cs) (h' : hasPair c cs' = false) :
    hasPair c (cs ++ cs') = false := by
  unfold Unpaired at h
  induction cs with
  | nil => exact h'
  | cons a rest ih =>
    cases rest with
    | nil =>
      have ha : (a == c) = false := by simpa [hasPair] using h
      cases cs' with
      | nil => rfl
      | cons b more =>
        rw [List.cons_append, List.nil_append, hasPair_cons_cons, ha]
        exact h'
    | cons b rest =>
      simp only [List.cons_append, hasPair_cons_cons, Bool.or_eq_false_iff] at h ⊢
      exact ⟨h.1, ih h.2⟩

theorem Unpaired.append (h : Unpaired c cs) (h' : Unpaired c cs') : Unpaired c (cs ++ cs') := by
  rw [Unpaired, List.append_assoc]
  exact h.hasPair_append h'

theorem Unpaired.of_notMem (h : c ∉ cs) : Unpaired c cs := by
  unfold Unpaired
  induction cs with
  | nil => rfl
  | cons a rest ih =>
    have ha : (a == c) = false := beq_false_of_ne fun e => h (by simp [e])
    have hrest := ih fun hmem => h (List.mem_cons_of_mem a hmem)
    cases rest with
    | nil => simp [hasPair, ha]
    | cons b rest =>
      rw [List.cons_append, List.cons_append, hasPair_cons_cons, ha]
      exact hrest

theorem hasPair_concat (c a : Char) (cs : List Char) :
    hasPair c (cs ++ [a]) =
      (hasPair c cs || (cs.getLast? == some c && a == c)) := by
  induction cs with
  | nil => rfl
  | cons b rest ih =>
    cases rest with
    | nil => simp [hasPair]
    | cons d rest =>
      rw [List.cons_append] at ih
      rw [List.cons_append, List.cons_append, hasPair_cons_cons, hasPair_cons_cons, ih,
        List.getLast?_cons_cons, Bool.or_assoc]

theorem unpaired_iff :
    Unpaired c cs ↔ hasPair c cs = false ∧ cs.getLast? ≠ some c := by
  rw [Unpaired, hasPair_concat]
  simp

theorem Unpaired.hasPair (h : Unpaired c cs) : hasPair c cs = false := (unpaired_iff.mp h).1

/-- Text without a pair is unpaired in front of every other character. -/
theorem Unpaired.concat {a : Char} (h : Template.hasPair c cs = false) (ha : a ≠ c) :
    Unpaired c (cs ++ [a]) := by
  rw [unpaired_iff, hasPair_concat, h]
  simp [ha]

theorem cutAtPair_eq_none (h : Template.hasPair c cs = false) : cutAtPair c cs = none := by
  induction cs with
  | nil => rfl
  | cons a rest ih =>
    cases rest with
    | nil => rfl
    | cons b rest =>
      rw [hasPair_cons_cons, Bool.or_eq_false_iff] at h
      simp [cutAtPair, h.1, ih h.2]

theorem Unpaired.cutAtPair (h : Unpaired c cs) (rest : List Char) :
    cutAtPair c (cs ++ c :: c :: rest) = some (cs, rest) := by
  unfold Unpaired at h
  induction cs with
  | nil => simp [Template.cutAtPair]
  | cons a more ih =>
    cases more with
    | nil =>
      have ha : (a == c) = false := by simpa [Template.hasPair] using h
      simp [Template.cutAtPair, ha]
    | cons b more =>
      simp only [List.cons_append, hasPair_cons_cons, Bool.or_eq_false_iff] at h ih ⊢
      rw [Template.cutAtPair, ih h.2, h.1]
      rfl

end Pairs

/-- A tag with its braces. -/
def braced (content : List Char) : List Char := '{' :: '{' :: (content ++ ['}', '}'])

theorem octetCount_braced (content : List Char) :
    octetCount (braced content) = octetCount content + 4 := by
  have hsplit : braced content = ['{', '{'] ++ (content ++ ['}', '}']) := rfl
  have hopen : octetCount ['{', '{'] = 2 := by decide
  have hclose : octetCount ['}', '}'] = 2 := by decide
  rw [hsplit, octetCount_append, octetCount_append, hopen, hclose]
  omega

theorem tokens_unpaired {cs : List Char} (h : hasPair '{' cs = false) (offset : Nat) :
    tokens offset cs = [.text cs] := by
  rw [tokens]
  split
  · rfl
  · next before after hcut =>
    rw [cutAtPair_eq_none h] at hcut
    cases hcut

theorem tokens_braced {before content : List Char} (hbefore : Unpaired '{' before)
    (hcontent : Unpaired '}' content) (offset : Nat) (rest : List Char) :
    tokens offset (before ++ (braced content ++ rest)) =
      .text before :: .tag content (offset + octetCount before) ::
        tokens (offset + octetCount before + octetCount content + 4) rest := by
  have hopen : before ++ (braced content ++ rest) =
      before ++ '{' :: '{' :: (content ++ '}' :: '}' :: rest) := by simp [braced]
  rw [hopen, tokens]
  split
  · next hcut =>
    rw [hbefore.cutAtPair] at hcut
    cases hcut
  · next b after hcut =>
    rw [hbefore.cutAtPair] at hcut
    cases hcut
    dsimp only
    split
    · next hcut' =>
      rw [hcontent.cutAtPair] at hcut'
      cases hcut'
    · next inner rest' hcut' =>
      rw [hcontent.cutAtPair] at hcut'
      cases hcut'
      rfl

theorem tokens_unclosed {before after : List Char} (hbefore : Unpaired '{' before)
    (hafter : hasPair '}' after = false) (offset : Nat) :
    tokens offset (before ++ '{' :: '{' :: after) =
      [.text before, .unclosed (offset + octetCount before)] := by
  rw [tokens]
  split
  · next hcut =>
    rw [hbefore.cutAtPair] at hcut
    cases hcut
  · next b rest hcut =>
    rw [hbefore.cutAtPair] at hcut
    cases hcut
    dsimp only
    split
    · rfl
    · next hcut' =>
      rw [cutAtPair_eq_none hafter] at hcut'
      cases hcut'

/-! Cuts. -/

/-- A source that starts at an octet offset, cut into texts and tags. Each of them ends at a pair of
braces that no pair comes before, not even one that shares a brace with it. -/
inductive Cut : Nat → List Char → List Token → Prop where
  | text {offset : Nat} {cs : List Char} : ¬['{', '{'] <:+: cs → Cut offset cs [.text cs]
  | unclosed {offset : Nat} {before after : List Char} : ¬['{', '{'] <:+: before ++ ['{'] →
      ¬['}', '}'] <:+: after →
      Cut offset (before ++ '{' :: '{' :: after)
        [.text before, .unclosed (offset + octetCount before)]
  | tag {offset : Nat} {before content rest : List Char} {ts : List Token} :
      ¬['{', '{'] <:+: before ++ ['{'] → ¬['}', '}'] <:+: content ++ ['}'] →
      Cut (offset + octetCount before + octetCount content + 4) rest ts →
      Cut offset (before ++ (braced content ++ rest))
        (.text before :: .tag content (offset + octetCount before) :: ts)

theorem infix_iff_hasPair {c : Char} {cs : List Char} : [c, c] <:+: cs ↔ hasPair c cs = true := by
  induction cs with
  | nil => simp [hasPair]
  | cons a rest ih =>
    rw [List.infix_cons_iff, ih]
    cases rest with
    | nil => simp [hasPair]
    | cons b rest =>
      have hsame : ([c, c] <+: a :: b :: rest) ↔ (a == c && b == c) = true := by
        rw [List.cons_prefix_cons, List.cons_prefix_cons, Bool.and_eq_true, beq_iff_eq, beq_iff_eq]
        simp only [List.nil_prefix, and_true]
        exact and_congr eq_comm eq_comm
      rw [hasPair_cons_cons, hsame, Bool.or_eq_true]

theorem not_infix_iff_hasPair {c : Char} {cs : List Char} :
    ¬[c, c] <:+: cs ↔ hasPair c cs = false := by
  rw [infix_iff_hasPair, Bool.not_eq_true]

theorem hasPair_of_cutAtPair {c : Char} {cs : List Char} (h : cutAtPair c cs = none) :
    hasPair c cs = false := by
  induction cs with
  | nil => rfl
  | cons a rest ih =>
    cases rest with
    | nil => rfl
    | cons b rest =>
      rw [cutAtPair] at h
      split at h
      · cases h
      · next hab =>
        rw [hasPair_cons_cons, ih (Option.map_eq_none_iff.mp h), Bool.or_false]
        exact Bool.eq_false_iff.mpr hab

theorem unpaired_of_cutAtPair {c : Char} {cs before after : List Char}
    (h : cutAtPair c cs = some (before, after)) : Unpaired c before := by
  fun_induction cutAtPair c cs generalizing before with
  | case1 a b rest hab =>
    obtain ⟨rfl, -⟩ := Prod.mk.inj (Option.some.inj h)
    exact unpaired_nil c
  | case2 a b rest hab ih =>
    obtain ⟨⟨more, after'⟩, hmore, hparts⟩ := Option.map_eq_some_iff.mp h
    obtain ⟨rfl, rfl⟩ := Prod.mk.inj hparts
    -- The character behind `a` is the same in front of the pair as it is in the source.
    obtain ⟨tail, htail⟩ : ∃ tail, more ++ [c] = b :: tail := by
      have hsource := eq_of_cutAtPair hmore
      cases more with
      | nil => exact ⟨[], by rw [(List.cons.inj hsource).1]; rfl⟩
      | cons m more => exact ⟨more ++ [c], by rw [(List.cons.inj hsource).1]; rfl⟩
    have hrest := ih hmore
    unfold Unpaired at hrest ⊢
    rw [htail] at hrest
    rw [List.cons_append, htail, hasPair_cons_cons, hrest, Bool.or_false]
    exact Bool.eq_false_iff.mpr hab
  | case3 => cases h

theorem cut_tokens (offset : Nat) (cs : List Char) : Cut offset cs (tokens offset cs) := by
  fun_induction tokens offset cs with
  | case1 offset cs hcut => exact .text (not_infix_iff_hasPair.mpr (hasPair_of_cutAtPair hcut))
  | case2 offset cs before after hcut start hcut' =>
    rw [eq_of_cutAtPair hcut]
    exact .unclosed (not_infix_iff_hasPair.mpr (unpaired_of_cutAtPair hcut))
      (not_infix_iff_hasPair.mpr (hasPair_of_cutAtPair hcut'))
  | case3 offset cs before after hcut start content rest hcut' ih =>
    have hsource : cs = before ++ (braced content ++ rest) := by
      rw [eq_of_cutAtPair hcut, eq_of_cutAtPair hcut']
      simp [braced]
    rw [hsource]
    exact .tag (not_infix_iff_hasPair.mpr (unpaired_of_cutAtPair hcut))
      (not_infix_iff_hasPair.mpr (unpaired_of_cutAtPair hcut')) ih

/-- The tokens of a source are its only cut. -/
theorem cut_iff {offset : Nat} {cs : List Char} {ts : List Token} :
    Cut offset cs ts ↔ ts = tokens offset cs := by
  constructor
  · intro h
    induction h with
    | text htext => rw [tokens_unpaired (not_infix_iff_hasPair.mp htext)]
    | unclosed hbefore hafter =>
      rw [tokens_unclosed (not_infix_iff_hasPair.mp hbefore) (not_infix_iff_hasPair.mp hafter)]
    | tag hbefore hcontent _ ih =>
      rw [tokens_braced (not_infix_iff_hasPair.mp hbefore) (not_infix_iff_hasPair.mp hcontent), ih]
  · rintro rfl
    exact cut_tokens offset cs

end DataLayer.Template
