import Mathlib.Data.List.Infix

/-!
Texts that are joined by a separator of several characters. Where the first character of the
separator does not occur in it again, no two places of it overlap, so parts that do not hold the
separator can be told from the text that is joined.
-/

namespace DataLayer.Text

variable {α : Type} {first last : α} {rest : List α}

/-- A separator at the start of a text is the first one in it. -/
theorem eq_nil_of_append_separator {x r r' : List α} (hfirst : first ∉ rest)
    (hx : ¬(first :: rest) <:+: x) (h : first :: rest ++ r = x ++ (first :: rest ++ r')) :
    x = [] := by
  cases x with
  | nil => rfl
  | cons d y =>
    rw [List.cons_append, List.cons_append] at h
    obtain ⟨rfl, htail⟩ := List.cons.inj h
    -- Either the text holds the separator, or it ends inside of it and the next one starts there.
    rcases List.append_eq_append_iff.mp htail with ⟨more, rfl, -⟩ | ⟨more, rfl, hmore⟩
    · exact absurd (List.prefix_append (first :: rest) more).isInfix hx
    · cases more with
      | nil => exact absurd (by simp : first :: (y ++ []) <:+: first :: y) hx
      | cons d more =>
        obtain ⟨rfl, -⟩ := List.cons.inj hmore
        exact absurd (by simp) hfirst

/-- What stands before the first separator is told from the text. -/
theorem eq_of_append_separator {x x' r r' : List α} (hfirst : first ∉ rest)
    (hx : ¬(first :: rest) <:+: x) (hx' : ¬(first :: rest) <:+: x')
    (h : x ++ (first :: rest ++ r) = x' ++ (first :: rest ++ r')) : x = x' ∧ r = r' := by
  have hparts : x = x' := by
    rcases List.append_eq_append_iff.mp h with ⟨more, rfl, hmore⟩ | ⟨more, rfl, hmore⟩
    · have hnone : ¬(first :: rest) <:+: more := fun hmem =>
        hx' (hmem.trans (List.suffix_append x more).isInfix)
      rw [eq_nil_of_append_separator hfirst hnone hmore, List.append_nil]
    · have hnone : ¬(first :: rest) <:+: more := fun hmem =>
        hx (hmem.trans (List.suffix_append x' more).isInfix)
      rw [eq_nil_of_append_separator hfirst hnone hmore, List.append_nil]
  subst hparts
  exact ⟨rfl, List.append_cancel_left (List.append_cancel_left h)⟩

theorem intercalate_ne_nil {separator : List α} {xs : List (List α)} (hne : xs ≠ [])
    (hxs : ∀ x ∈ xs, x ≠ []) : separator.intercalate xs ≠ [] := by
  match xs with
  | [] => contradiction
  | [x] =>
    rw [List.intercalate_singleton]
    exact hxs x (by simp)
  | x :: y :: xs =>
    rw [List.intercalate_cons_cons]
    simp [hxs x]

/-- A part is no text of several parts, since these hold a separator. -/
theorem ne_intercalate {x y z : List α} {more : List (List α)} (hx : ¬(first :: rest) <:+: x) :
    x ≠ (first :: rest).intercalate (y :: z :: more) := by
  rintro rfl
  rw [List.intercalate_cons_cons] at hx
  exact hx ⟨y, _, rfl⟩

/-- Parts that are not empty and do not hold the separator are told from the text. -/
theorem intercalate_inj {xs ys : List (List α)} (hfirst : first ∉ rest)
    (hxs : ∀ x ∈ xs, x ≠ [] ∧ ¬(first :: rest) <:+: x)
    (hys : ∀ y ∈ ys, y ≠ [] ∧ ¬(first :: rest) <:+: y)
    (h : (first :: rest).intercalate xs = (first :: rest).intercalate ys) : xs = ys := by
  induction xs generalizing ys with
  | nil =>
    by_contra hne
    rw [List.intercalate_nil] at h
    exact intercalate_ne_nil (Ne.symm hne) (fun y hy => (hys y hy).1) h.symm
  | cons x xs ih =>
    have hx := hxs x (List.mem_cons_self ..)
    cases ys with
    | nil =>
      rw [List.intercalate_nil] at h
      exact absurd h (intercalate_ne_nil (List.cons_ne_nil _ _) fun x hx => (hxs x hx).1)
    | cons y ys =>
      have hy := hys y (List.mem_cons_self ..)
      match xs, ys with
      | [], [] => simpa using h
      | [], z :: ys =>
        rw [List.intercalate_singleton] at h
        exact absurd h (ne_intercalate hx.2)
      | z :: xs, [] =>
        rw [List.intercalate_singleton] at h
        exact absurd h.symm (ne_intercalate hy.2)
      | z :: xs, z' :: ys =>
        rw [List.intercalate_cons_cons, List.intercalate_cons_cons, List.append_assoc,
          List.append_assoc] at h
        obtain ⟨rfl, hrest⟩ := eq_of_append_separator hfirst hx.2 hy.2 h
        rw [ih (fun x hx => hxs x (List.mem_cons_of_mem _ hx))
          (fun y hy => hys y (List.mem_cons_of_mem _ hy)) hrest]

/-- A text that ends behind a character which it does not hold ends in what stands there. -/
theorem suffix_of_notMem {s x tail : List α} (h : s <:+ x ++ last :: tail) (hlast : last ∉ s) :
    s <:+ tail := by
  rcases List.suffix_or_suffix_of_suffix h (List.suffix_append x (last :: tail)) with hs | hs
  · rcases List.suffix_cons_iff.mp hs with rfl | hs
    · exact absurd (List.mem_cons_self ..) hlast
    · exact hs
  · exact absurd (hs.subset (List.mem_cons_self ..)) hlast

/-- A text that no part ends in is not the end of parts that are joined, where it does not hold the
last character of the separator. -/
theorem not_suffix_intercalate {s : List α} {xs : List (List α)} (front : List α) (last : α)
    (hs : s ≠ []) (hlast : last ∉ s) (hxs : ∀ x ∈ xs, ¬s <:+ x) :
    ¬s <:+ (front ++ [last]).intercalate xs := by
  induction xs with
  | nil =>
    rw [List.intercalate_nil, List.suffix_nil]
    exact hs
  | cons x xs ih =>
    cases xs with
    | nil =>
      rw [List.intercalate_singleton]
      exact hxs x (by simp)
    | cons y xs =>
      intro h
      rw [List.intercalate_cons_cons] at h
      have hsplit : s <:+ (x ++ front) ++ last :: (front ++ [last]).intercalate (y :: xs) := by
        simpa using h
      exact ih (fun z hz => hxs z (List.mem_cons_of_mem x hz)) (suffix_of_notMem hsplit hlast)

end DataLayer.Text
