import DataLayer.Proofs.Schema.Arena
import DataLayer.Proofs.Schema.Selection
import Mathlib.Data.List.Nodup
import Mathlib.Logic.Relation

/-!
Numbers in document order. Children have greater numbers than their parent, in the order in which
they stand; each element but the root has one parent; and an element makes up an interval of numbers
with all that it holds.
-/

namespace DataLayer.Schema

/-! Parents and children. -/

namespace Tree

/-- The numbers of the children of an element. -/
def childrenOf (t : Tree) (i : Nat) : List Nat := (⟨t, i⟩ : Element).node.children

/-- An element holds another one, at any depth, or is the same. -/
def Descends (t : Tree) : Nat → Nat → Prop := Relation.ReflTransGen fun i j => j ∈ t.childrenOf i

/-- The numbers of a document are in document order. -/
structure WellNumbered (t : Tree) : Prop where
  nonempty : 0 < t.nodes.size
  child : ∀ i, ∀ j ∈ t.childrenOf i, i < j ∧ j < t.nodes.size
  parent : ∀ j, 0 < j → j < t.nodes.size → ∃! i, j ∈ t.childrenOf i
  increasing : ∀ i, (t.childrenOf i).Pairwise (· < ·)
  interval : ∀ i < t.nodes.size, ∃ stop, i < stop ∧ stop ≤ t.nodes.size ∧
    ∀ j, t.Descends i j ↔ i ≤ j ∧ j < stop

variable {t : Tree} {i : Nat} {part : Xml.Tree}

theorem Holds.childrenOf (h : t.Holds i part) :
    t.childrenOf i = numbers (i + 1) part.children := by
  rw [Tree.childrenOf, h.node_eq]

theorem mem_children_iff {j : Nat} :
    (⟨t, j⟩ : Element) ∈ (⟨t, i⟩ : Element).children ↔ j ∈ t.childrenOf i := by
  simp [Element.children, Tree.childrenOf]

theorem size_pos (part : Xml.Tree) : 0 < part.size := by
  obtain ⟨name, attributes, children⟩ := part
  rw [Xml.Tree.size]
  omega

/-- What an element holds stands in the numbers of its part. -/
theorem Holds.within (h : t.Holds i part) {j : Nat} (hj : t.Descends i j) :
    ∃ sub, t.Holds j sub ∧ i ≤ j ∧ j + sub.size ≤ i + part.size := by
  induction hj with
  | refl => exact ⟨part, h, Nat.le_refl i, Nat.le_refl _⟩
  | tail _ hchild ih =>
    obtain ⟨sub, hsub, hle, hend⟩ := ih
    obtain ⟨sub', hsub', hlt, hend'⟩ := hsub.child_within (mem_children_iff.mpr hchild)
    dsimp only at hlt hend'
    exact ⟨sub', hsub', by omega, by omega⟩

mutual

/-- All numbers of a part are those of the element itself and of what it holds. -/
theorem Holds.descends {t : Tree} {i j : Nat} : {part : Xml.Tree} → t.Holds i part →
    i ≤ j → j < i + part.size → t.Descends i j
  | .element name attributes children, h, hle, hlt => by
    rcases Nat.eq_or_lt_of_le hle with rfl | hle
    · exact .refl
    · rw [Xml.Tree.size] at hlt
      obtain ⟨c, hc, hdescends⟩ :=
        h.holdsAll_children.exists_descends hle (by rw [Xml.Tree.children]; omega)
      exact .head (h.childrenOf ▸ hc) hdescends

theorem HoldsAll.exists_descends {t : Tree} {first j : Nat} : {parts : List Xml.Tree} →
    t.HoldsAll first parts → first ≤ j → j < first + Xml.Tree.sizes parts →
    ∃ c ∈ numbers first parts, t.Descends c j
  | [], _, hle, hlt => by
    rw [Xml.Tree.sizes] at hlt
    omega
  | part :: rest, h, hle, hlt => by
    obtain ⟨hfirst, hrest⟩ := h.cons
    rw [Xml.Tree.sizes] at hlt
    rcases Nat.lt_or_ge j (first + part.size) with hlt' | hge
    · exact ⟨first, List.mem_cons_self, hfirst.descends hle hlt'⟩
    · obtain ⟨c, hc, hdescends⟩ := hrest.exists_descends hge (by omega)
      exact ⟨c, List.mem_cons_of_mem first hc, hdescends⟩

end

theorem Holds.descends_iff (h : t.Holds i part) {j : Nat} :
    t.Descends i j ↔ i ≤ j ∧ j < i + part.size := by
  constructor
  · intro hj
    obtain ⟨sub, -, hle, hend⟩ := h.within hj
    have hpos := size_pos sub
    exact ⟨hle, by omega⟩
  · exact fun ⟨hle, hlt⟩ => h.descends hle hlt

/-- An element does not hold a sibling that comes after it. -/
theorem Holds.not_descends_sibling (h : t.Holds i part) {c d : Nat} (hc : c ∈ t.childrenOf i)
    (hd : d ∈ t.childrenOf i) (hlt : c < d) : ¬t.Descends c d := by
  rw [h.childrenOf] at hc hd
  let Apart (c d : Nat) : Prop := c < d → ¬t.Descends c d
  have hapart : (numbers (i + 1) part.children).Pairwise Apart := by
    refine h.holdsAll_children.pairwise.imp fun {c d} hprecedes _ hdescends => ?_
    obtain ⟨sub, hsub, hend⟩ := hprecedes
    have hwithin := (hsub.descends_iff.mp hdescends).2
    dsimp only at hwithin hend
    omega
  have hflip : (numbers (i + 1) part.children).Pairwise (flip Apart) := by
    refine h.holdsAll_children.pairwise.imp fun {c d} hprecedes hlt => ?_
    have hlt' := hprecedes.lt
    dsimp only at hlt'
    omega
  have hself (c : Nat) (_ : c ∈ numbers (i + 1) part.children) : Apart c c :=
    fun hlt => absurd hlt (Nat.lt_irrefl c)
  exact hapart.forall_of_forall_of_flip hself hflip hc hd hlt

end Tree

/-! Documents. -/

section Documents

variable {x : Xml.Tree} {i j : Nat}

theorem exists_holds_ofXml (hi : i < x.size) :
    ∃ part, (Tree.ofXml x).Holds i part ∧ i + part.size ≤ x.size := by
  have hroot := Tree.holds_ofXml x
  have hdescends := hroot.descends (Nat.zero_le i) (by omega)
  obtain ⟨part, hpart, -, hend⟩ := hroot.within hdescends
  exact ⟨part, hpart, by omega⟩

theorem childrenOf_eq_nil (hi : x.size ≤ i) : (Tree.ofXml x).childrenOf i = [] := by
  rw [← Tree.size_nodes_ofXml] at hi
  have hchildren : (⟨Tree.ofXml x, i⟩ : Element).children = [] := Element.children_eq_nil hi
  exact List.map_eq_nil_iff.mp hchildren

/-- A number with children is one of the document. -/
theorem lt_size_of_mem_childrenOf (hj : j ∈ (Tree.ofXml x).childrenOf i) : i < x.size := by
  refine Nat.lt_of_not_le fun hge => ?_
  rw [childrenOf_eq_nil hge] at hj
  cases hj

theorem child_ofXml (hj : j ∈ (Tree.ofXml x).childrenOf i) : i < j ∧ j < x.size := by
  obtain ⟨part, hpart, hend⟩ := exists_holds_ofXml (lt_size_of_mem_childrenOf hj)
  obtain ⟨sub, -, hlt, hend'⟩ := hpart.child_within (Tree.mem_children_iff.mpr hj)
  have hpos := Tree.size_pos sub
  dsimp only at hlt hend'
  omega

/-- Where two numbers have a child in common, neither of them stands above the other: else the
child would come behind a sibling that holds it. -/
theorem not_lt_of_mem_childrenOf {i' : Nat} (hj : j ∈ (Tree.ofXml x).childrenOf i)
    (hj' : j ∈ (Tree.ofXml x).childrenOf i') : ¬i < i' := by
  intro hlt
  obtain ⟨part, hpart, -⟩ := exists_holds_ofXml (lt_size_of_mem_childrenOf hj)
  have hchild := child_ofXml hj'
  have hwithin := (hpart.descends_iff.mp (.single hj)).2
  have hdescends := hpart.descends (Nat.le_of_lt hlt) (by omega)
  obtain rfl | ⟨c, hc, hbetween⟩ := hdescends.cases_head
  · exact absurd hlt (Nat.lt_irrefl i)
  · obtain ⟨sub, hsub, -⟩ := exists_holds_ofXml (child_ofXml hc).2
    have hle := (hsub.descends_iff.mp hbetween).1
    exact hpart.not_descends_sibling hc hj (by omega) (hbetween.tail hj')

theorem wellNumbered_ofXml (x : Xml.Tree) : (Tree.ofXml x).WellNumbered := by
  have hsize := Tree.size_nodes_ofXml x
  constructor
  case nonempty =>
    rw [hsize]
    exact Tree.size_pos x
  case child =>
    intro i j hj
    rw [hsize]
    exact child_ofXml hj
  case parent =>
    intro j hpos hj
    rw [hsize] at hj
    have hdescends := (Tree.holds_ofXml x).descends (Nat.zero_le j) (by omega)
    obtain rfl | ⟨i, -, hi⟩ := hdescends.cases_tail
    · exact absurd hpos (Nat.lt_irrefl 0)
    · refine ⟨i, hi, fun i' hi' => ?_⟩
      have hle := not_lt_of_mem_childrenOf hi hi'
      have hge := not_lt_of_mem_childrenOf hi' hi
      omega
  case increasing =>
    intro i
    rcases Nat.lt_or_ge i x.size with hi | hi
    · obtain ⟨part, hpart, -⟩ := exists_holds_ofXml hi
      rw [hpart.childrenOf]
      exact hpart.holdsAll_children.pairwise.imp Element.Precedes.lt
    · rw [childrenOf_eq_nil hi]
      exact .nil
  case interval =>
    intro i hi
    rw [hsize] at hi ⊢
    obtain ⟨part, hpart, hend⟩ := exists_holds_ofXml hi
    have hpos := Tree.size_pos part
    exact ⟨i + part.size, by omega, hend, fun j => hpart.descends_iff⟩

end Documents

end DataLayer.Schema
