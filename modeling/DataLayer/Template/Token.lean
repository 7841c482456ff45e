import DataLayer.Text.Utf8

/-!
Template sources cut into texts and tags. A tag starts at the leftmost pair of opening braces and
ends at the first pair of closing braces after it.
-/

namespace DataLayer.Template

open Text

/-- What stands before the first pair of a character, and what stands after it. -/
def cutAtPair (c : Char) : List Char → Option (List Char × List Char)
  | a :: b :: rest =>
    if a == c && b == c then some ([], rest)
    else (cutAtPair c (b :: rest)).map fun r => (a :: r.1, r.2)
  | _ => none

theorem eq_of_cutAtPair {c : Char} {cs before after : List Char}
    (h : cutAtPair c cs = some (before, after)) : cs = before ++ c :: c :: after := by
  fun_induction cutAtPair c cs generalizing before with
  | case1 a b rest hab =>
    simp only [Bool.and_eq_true, beq_iff_eq] at hab
    simp only [Option.some.injEq, Prod.mk.injEq] at h
    obtain ⟨rfl, rfl⟩ := h
    simp [hab.1, hab.2]
  | case2 a b rest _ ih =>
    simp only [Option.map_eq_some_iff, Prod.mk.injEq, Prod.exists] at h
    obtain ⟨p, q, hp, rfl, rfl⟩ := h
    simp [ih hp]
  | case3 => simp at h

inductive Token where
  | text (cs : List Char)
  | tag (content : List Char) (offset : Nat)
  | unclosed (offset : Nat)
  deriving DecidableEq, Repr

/-- The tokens of a source that starts at an octet offset. An unclosed tag is the last token. -/
def tokens (offset : Nat) (source : List Char) : List Token :=
  match _h : cutAtPair '{' source with
  | none => [.text source]
  | some (before, after) =>
    let start := offset + octetCount before
    match _h' : cutAtPair '}' after with
    | none => [.text before, .unclosed start]
    | some (content, rest) =>
      .text before :: .tag content start :: tokens (start + octetCount content + 4) rest
termination_by source.length
decreasing_by
  have e := congrArg List.length (eq_of_cutAtPair _h)
  have e' := congrArg List.length (eq_of_cutAtPair _h')
  simp only [List.length_append, List.length_cons] at e e'
  omega

end DataLayer.Template
