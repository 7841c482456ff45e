import DataLayer.Identifier
import DataLayer.Proofs.Text.Ranges
import DataLayer.Proofs.Text.Splitting

/-!
What the names are that are accepted as identifiers and as namespaces: an identifier by its
characters, a namespace by the identifiers that it is put together from.
-/

namespace DataLayer.Identifier

open Text

/-- A letter or an underscore, then letters, digits and underscores, and not a reserved word. -/
def WellFormed (name : String) : Prop :=
  (∃ c ∈ name.toList.head?, isStart c = true) ∧ (∀ c ∈ name.toList.tail, isPart c = true) ∧
    name ∉ reservedWords

/-- Identifiers with dots between them. -/
def IsNamespace (name : String) : Prop :=
  ∃ parts : List String, parts ≠ [] ∧ (∀ part ∈ parts, WellFormed part) ∧
    name = ".".intercalate parts

variable {name : String}

theorem isValid_iff : IsValid name ↔ WellFormed name := by
  unfold IsValid fault? WellFormed
  cases hname : name.toList with
  | nil => simp
  | cons first rest =>
    by_cases hreserved : name ∈ reservedWords
    · simp [hreserved]
    · cases hfirst : isStart first <;> simp [hreserved, hfirst]

theorem isPart_of_isStart {c : Char} (h : isStart c = true) : isPart c = true := by
  unfold isStart at h
  unfold isPart Text.isAlphanumeric
  rcases Bool.or_eq_true_iff.mp h with h | h <;> simp [h]

theorem isPart_of_isValid (h : IsValid name) : ∀ c ∈ name.toList, isPart c = true := by
  obtain ⟨⟨first, hfirst, hstart⟩, hrest, -⟩ := isValid_iff.mp h
  obtain ⟨rest, hname⟩ := List.head?_eq_some_iff.mp hfirst
  rw [hname] at hrest ⊢
  exact List.forall_mem_cons.mpr ⟨isPart_of_isStart hstart, hrest⟩

/-- The marks between the parts of namespaces and of paths. -/
def separatorRanges : Array (Nat × Nat) := #[(0x2e, 0x2f)]

theorem isPart_of_isSeparator {c : Char} (h : inRanges separatorRanges c = true) :
    isPart c = false := by
  have halphabetic : disjointRanges separatorRanges alphabeticRanges = true := by decide +kernel
  have hnumeric : disjointRanges separatorRanges numericRanges = true := by decide +kernel
  have hunderscore : (c == '_') = false := by
    apply beq_false_of_ne
    intro hc
    simp [hc, inRanges, separatorRanges] at h
  rw [isPart, isAlphanumeric, isAlphabetic, isNumeric, inRanges_eq_false halphabetic h,
    inRanges_eq_false hnumeric h, hunderscore]
  rfl

theorem notMem_of_isSeparator {c : Char} (hc : inRanges separatorRanges c = true)
    (h : IsValid name) : c ∉ name.toList := by
  intro hmem
  have hpart := isPart_of_isValid h c hmem
  rw [isPart_of_isSeparator hc] at hpart
  contradiction

/-- An identifier is the name of a file, not a path. -/
theorem notMem_slash (h : IsValid name) : '/' ∉ name.toList :=
  notMem_of_isSeparator (by simp [inRanges, separatorRanges]) h

theorem notMem_dot (h : IsValid name) : '.' ∉ name.toList :=
  notMem_of_isSeparator (by simp [inRanges, separatorRanges]) h

/-- A dotted name without a fault is put together from identifiers. -/
theorem dottedFault?_eq_none_iff : dottedFault? name = none ↔ IsNamespace name := by
  have hdot : ".".toList = ['.'] := rfl
  unfold dottedFault?
  rw [List.findSome?_eq_none_iff]
  constructor
  · intro h
    refine ⟨(splitAt '.' name.toList).map String.ofList, ?_, ?_, ?_⟩
    · simp [splitAt_ne_nil]
    · intro part hpart
      obtain ⟨cs, hcs, rfl⟩ := List.mem_map.mp hpart
      exact isValid_iff.mp (h cs hcs)
    · rw [← String.toList_inj, String.toList_intercalate, hdot, List.map_map]
      simp [Function.comp_def, intercalate_splitAt]
  · rintro ⟨parts, hne, hparts, rfl⟩ cs hcs
    have hplain : ∀ part ∈ parts.map String.toList, '.' ∉ part := by
      intro part hpart
      obtain ⟨name, hname, rfl⟩ := List.mem_map.mp hpart
      exact notMem_dot (isValid_iff.mpr (hparts name hname))
    rw [String.toList_intercalate, hdot, splitAt_intercalate (by simpa using hne) hplain] at hcs
    obtain ⟨name, hname, rfl⟩ := List.mem_map.mp hcs
    rw [String.ofList_toList]
    exact isValid_iff.mpr (hparts name hname)

end DataLayer.Identifier
