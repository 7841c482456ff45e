import DataLayer.Proofs.Schema.Numbering

/-!
Ways through a document. Queries and traversals go from elements to their children, so in a document
whose numbers are in order they stay in it; and whoever visits the children of every element that
was visited, in whatever order, comes to each element once.
-/

namespace DataLayer.Schema

/-! Queries. -/

/-- An element with a number that a document has. -/
def Element.IsIn (e : Element) (t : Tree) : Prop := e.tree = t ∧ e.index < t.nodes.size

namespace Tree.WellNumbered

variable {t : Tree} (h : t.WellNumbered)

include h

theorem isIn_children {e x : Element} (he : e.IsIn t) (hx : x ∈ e.children) : x.IsIn t := by
  obtain ⟨rfl, -⟩ := he
  obtain ⟨j, hj, rfl⟩ := List.mem_map.mp hx
  exact ⟨rfl, (h.child e.index j hj).2⟩

theorem isIn_of_chain {steps : List Step} {e x : Element} (hchain : Chain steps e x)
    (he : e.IsIn t) : x.IsIn t := by
  induction hchain with
  | nil => exact he
  | cons hfirst _ ih =>
    obtain ⟨before, after, hchildren, -⟩ := hfirst
    exact ih (h.isIn_children he (by simp [hchildren]))

theorem isIn_select {e x : Element} (he : e.IsIn t) {path : String} (hx : x ∈ e.select path) :
    x.IsIn t :=
  h.isIn_of_chain (Element.mem_select.mp hx) he

theorem isIn_select_document {path : String} {x : Element} (hx : x ∈ t.select path) :
    x.IsIn t := by
  have hroot : t.root.IsIn t := ⟨rfl, h.nonempty⟩
  by_cases hpath : ∃ rest, path.toList = '/' :: rest
  · obtain ⟨rest, hpath⟩ := hpath
    obtain ⟨s, steps, -, -, hchain⟩ := (mem_select_absolute hpath).mp hx
    exact h.isIn_of_chain hchain hroot
  · rw [select_relative (not_exists.mp hpath)] at hx
    exact h.isIn_select hroot hx

/-! What elements hold. -/

theorem descends_root {j : Nat} (hj : j < t.nodes.size) : t.Descends 0 j := by
  induction j using Nat.strongRecOn with
  | _ j ih =>
    rcases Nat.eq_zero_or_pos j with rfl | hpos
    · exact .refl
    · obtain ⟨i, hi, -⟩ := h.parent j hpos hj
      have hlt := (h.child i j hi).1
      exact (ih i hlt (Nat.lt_trans hlt hj)).tail hi

theorem le_of_descends {i j : Nat} (hi : i < t.nodes.size) (hj : t.Descends i j) :
    i ≤ j ∧ j < t.nodes.size := by
  obtain ⟨stop, -, hstop, hinterval⟩ := h.interval i hi
  obtain ⟨hle, hlt⟩ := (hinterval j).mp hj
  exact ⟨hle, Nat.lt_of_lt_of_le hlt hstop⟩

/-- Two children of an element hold nothing in common: the second would stand in the interval of the
first one, and its parent would be there. -/
theorem apart_of_lt {i c d j : Nat} (hc : c ∈ t.childrenOf i) (hd : d ∈ t.childrenOf i)
    (hlt : c < d) (hcj : t.Descends c j) : ¬t.Descends d j := by
  intro hdj
  obtain ⟨hic, hcsize⟩ := h.child i c hc
  obtain ⟨hid, hdsize⟩ := h.child i d hd
  obtain ⟨stop, -, -, hinterval⟩ := h.interval c hcsize
  have hcd : t.Descends c d := by
    have hjstop := ((hinterval j).mp hcj).2
    have hdle := (h.le_of_descends hdsize hdj).1
    exact (hinterval d).mpr ⟨Nat.le_of_lt hlt, Nat.lt_of_le_of_lt hdle hjstop⟩
  obtain rfl | ⟨p, hcp, hp⟩ := hcd.cases_tail
  · exact Nat.lt_irrefl _ hlt
  · obtain rfl : p = i := (h.parent d (Nat.zero_lt_of_lt hid) hdsize).unique hp hd
    have hle := (h.le_of_descends hcsize hcp).1
    omega

end Tree.WellNumbered

namespace Tree

open scoped List

variable {t : Tree}

open scoped Classical in
/-- An element and all that it holds, by number. -/
noncomputable def below (t : Tree) (i : Nat) : List Nat :=
  (List.range t.nodes.size).filter fun j => t.Descends i j

theorem mem_below {i j : Nat} : j ∈ t.below i ↔ j < t.nodes.size ∧ t.Descends i j := by
  simp [below]

theorem nodup_below (t : Tree) (i : Nat) : (t.below i).Nodup := List.nodup_range.filter _

namespace WellNumbered

variable (h : t.WellNumbered)

include h

theorem below_root : t.below 0 = List.range t.nodes.size := by
  refine List.filter_eq_self.mpr fun j hj => ?_
  simpa using h.descends_root (List.mem_range.mp hj)

/-- What an element holds is what its children hold together. -/
theorem below_perm {i : Nat} (hi : i < t.nodes.size) :
    (t.below i).Perm (i :: (t.childrenOf i).flatMap t.below) := by
  have hself : i ∉ (t.childrenOf i).flatMap t.below := by
    intro hmem
    obtain ⟨c, hc, hic⟩ := List.mem_flatMap.mp hmem
    obtain ⟨hlt, hcsize⟩ := h.child i c hc
    have hle := (h.le_of_descends hcsize (mem_below.mp hic).2).1
    omega
  have hchildren : ((t.childrenOf i).flatMap t.below).Nodup := by
    rw [List.nodup_flatMap]
    refine ⟨fun c _ => t.nodup_below c, (h.increasing i).imp_of_mem fun hc hd hlt j hcj hdj => ?_⟩
    exact h.apart_of_lt hc hd hlt (mem_below.mp hcj).2 (mem_below.mp hdj).2
  refine (List.perm_ext_iff_of_nodup (t.nodup_below i)
    (List.nodup_cons.mpr ⟨hself, hchildren⟩)).mpr fun j => ?_
  rw [mem_below, Descends, Relation.ReflTransGen.cases_head_iff, List.mem_cons, List.mem_flatMap]
  constructor
  · rintro ⟨hj, rfl | ⟨c, hc, hcj⟩⟩
    · exact Or.inl rfl
    · exact Or.inr ⟨c, hc, mem_below.mpr ⟨hj, hcj⟩⟩
  · rintro (rfl | ⟨c, hc, hcj⟩)
    · exact ⟨hi, Or.inl rfl⟩
    · exact ⟨(mem_below.mp hcj).1, Or.inr ⟨c, hc, (mem_below.mp hcj).2⟩⟩

end WellNumbered

/-! Traversals. -/

/-- A traversal from the root, by the elements that are due and those that have been visited, the
last of them first. Any of those that are due can be visited next; its children become due then. -/
inductive Traversal (t : Tree) : List Nat → List Nat → Prop
  | start : Traversal t [t.root.index] []
  | visit {due rest due' visited : List Nat} {i : Nat} : Traversal t due visited →
      due.Perm (i :: rest) → due'.Perm (t.childrenOf i ++ rest) → Traversal t due' (i :: visited)

namespace Traversal

variable {due visited : List Nat}

/-- What was visited makes up the document together with what is due and all that it holds. -/
theorem perm (h : t.WellNumbered) (ht : t.Traversal due visited) :
    (visited ++ due.flatMap t.below).Perm (List.range t.nodes.size) ∧
      ∀ i ∈ due, i < t.nodes.size := by
  induction ht with
  | start =>
    refine ⟨?_, fun i hi => ?_⟩
    · simp [Tree.root, h.below_root]
    · rw [List.mem_singleton.mp hi]
      exact h.nonempty
  | @visit due rest due' visited i _ hdue hdue' ih =>
    obtain ⟨hperm, hin⟩ := ih
    have hi : i < t.nodes.size := hin i (hdue.mem_iff.mpr List.mem_cons_self)
    constructor
    · calc i :: visited ++ due'.flatMap t.below
        _ ~ i :: visited ++ (t.childrenOf i ++ rest).flatMap t.below :=
          (hdue'.flatMap_right t.below).append_left _
        _ ~ visited ++ (i :: (t.childrenOf i).flatMap t.below ++ rest.flatMap t.below) := by
          rw [List.flatMap_append]
          exact List.perm_middle.symm
        _ ~ visited ++ (t.below i ++ rest.flatMap t.below) :=
          ((h.below_perm hi).symm.append_right _).append_left _
        _ ~ visited ++ due.flatMap t.below := (hdue.flatMap_right t.below).symm.append_left _
        _ ~ List.range t.nodes.size := hperm
    · intro j hj
      rcases List.mem_append.mp (hdue'.mem_iff.mp hj) with hj | hj
      · exact (h.child i j hj).2
      · exact hin j (hdue.mem_iff.mpr (List.mem_cons_of_mem i hj))

variable (h : t.WellNumbered) (ht : t.Traversal due visited)

include h ht

theorem nodup : visited.Nodup :=
  ((perm h ht).1.nodup_iff.mpr List.nodup_range).of_append_left

theorem length_add_length : visited.length + (due.flatMap t.below).length = t.nodes.size := by
  rw [← List.length_append, (perm h ht).1.length_eq, List.length_range]

/-- A traversal has visited all elements exactly when none is due any more. -/
theorem due_eq_nil_iff : due = [] ↔ visited.length = t.nodes.size := by
  have hlength := length_add_length h ht
  constructor
  · rintro rfl
    simpa using hlength
  · intro hall
    refine List.eq_nil_iff_forall_not_mem.mpr fun i hi => ?_
    have hself : i ∈ t.below i := mem_below.mpr ⟨(perm h ht).2 i hi, .refl⟩
    have hpos := List.length_pos_of_mem (List.mem_flatMap.mpr ⟨i, hi, hself⟩)
    omega

theorem perm_range (hdone : due = []) : visited.Perm (List.range t.nodes.size) := by
  subst hdone
  simpa using (perm h ht).1

end Traversal

end Tree

/-- A document that is read has its elements in document order, and its nodes are those that are
pushed for its tags. So queries do not leave it, and a traversal from the root ends after as many
visits as there are elements, with one visit to each of them. -/
theorem documents_numbered_in_order {bytes : List UInt8} {t : Tree}
    (h : Tree.parse bytes = .ok t) :
    Arena.parse bytes = .ok t ∧ t.WellNumbered ∧
    (∀ e : Element, e.IsIn t → (∀ x ∈ e.children, x.IsIn t) ∧
      ∀ path, ∀ x ∈ e.select path, x.IsIn t) ∧
    (∀ path, ∀ x ∈ t.select path, x.IsIn t) ∧
    ∀ due visited, t.Traversal due visited → visited.Nodup ∧ visited.length ≤ t.nodes.size ∧
      (due = [] ↔ visited.length = t.nodes.size) ∧
      (due = [] → visited.Perm (List.range t.nodes.size)) := by
  obtain ⟨document, -, ht⟩ := exists_ofXml_of_parse h
  have hnumbered : t.WellNumbered := by
    rw [ht]
    exact wellNumbered_ofXml document
  refine ⟨(Arena.parse_eq bytes).trans h, hnumbered, fun e he => ⟨fun x => ?_, fun path x => ?_⟩,
    fun path x => hnumbered.isIn_select_document, fun due visited hway => ?_⟩
  · exact hnumbered.isIn_children he
  · exact hnumbered.isIn_select he
  · have hlength := hway.length_add_length hnumbered
    exact ⟨hway.nodup hnumbered, by omega, hway.due_eq_nil_iff hnumbered,
      hway.perm_range hnumbered⟩

/-- The last child of the root is visited before the first one and what this one holds. -/
theorem documents_numbered_in_order_quoted :
    Tree.parse (Text.octets "<a><b n=\"x/y\"><c/><d/><c/></b><b/></a>") =
      .ok (.ofXml quotedTree) ∧
    (Tree.ofXml quotedTree).Traversal [] [3, 2, 4, 1, 5, 0] ∧
    [3, 2, 4, 1, 5, 0].Perm (List.range 6) := by
  have hnamed : quotedTree.WellNamed := by decide +kernel
  have hchosen : quotedContent.WellChosen := by decide +kernel
  have htext : String.ofList quotedContent.chars =
      "<a><b n=\"x/y\"><c/><d/><c/></b><b/></a>" := by decide +kernel
  have hparse := Tree.parse_text hnamed hchosen rfl htext
  have hroot : (Tree.ofXml quotedTree).Traversal [5, 1] [0] :=
    .visit .start (.refl _) (by decide +kernel)
  have hlast : (Tree.ofXml quotedTree).Traversal [1] [5, 0] :=
    .visit hroot (.refl _) (by decide +kernel)
  have hfirst : (Tree.ofXml quotedTree).Traversal [4, 2, 3] [1, 5, 0] :=
    .visit hlast (.refl _) (by decide +kernel)
  have hinner : (Tree.ofXml quotedTree).Traversal [2, 3] [4, 1, 5, 0] :=
    .visit hfirst (.refl _) (by decide +kernel)
  have hnext : (Tree.ofXml quotedTree).Traversal [3] [2, 4, 1, 5, 0] :=
    .visit hinner (.refl _) (by decide +kernel)
  have hway : (Tree.ofXml quotedTree).Traversal [] [3, 2, 4, 1, 5, 0] :=
    .visit hnext (.refl _) (by decide +kernel)
  have hall := (documents_numbered_in_order hparse).2.2.2.2 [] _ hway
  exact ⟨hparse, hway, hall.2.2.2 rfl⟩

end DataLayer.Schema
