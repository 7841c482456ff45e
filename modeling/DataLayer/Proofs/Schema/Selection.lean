import DataLayer.Proofs.Schema.Loading

/-!
What paths select. A path describes chains of elements, in which each element is a child of the one
before and matches the next step; it selects the elements at the ends of these chains, each of them
once and in document order.
-/

namespace DataLayer.Schema

theorem getElem?_filter_eq_some {α : Type} {p : α → Bool} {l : List α} {i : Nat} {x : α} :
    (l.filter p)[i]? = some x ↔
      ∃ before after, l = before ++ x :: after ∧ p x = true ∧ before.countP p = i := by
  induction l generalizing i with
  | nil => simp
  | cons a l ih =>
    constructor
    · intro h
      by_cases ha : p a = true
      · rw [List.filter_cons_of_pos ha] at h
        cases i with
        | zero =>
          obtain rfl : a = x := by simpa using h
          exact ⟨[], l, rfl, ha, rfl⟩
        | succ i =>
          obtain ⟨before, after, rfl, hx, hcount⟩ := ih.mp (by simpa using h)
          exact ⟨a :: before, after, rfl, hx, by rw [List.countP_cons_of_pos ha, hcount]⟩
      · rw [List.filter_cons_of_neg ha] at h
        obtain ⟨before, after, rfl, hx, hcount⟩ := ih.mp h
        exact ⟨a :: before, after, rfl, hx, by rw [List.countP_cons_of_neg ha, hcount]⟩
    · rintro ⟨before, after, hl, hx, rfl⟩
      rw [hl, List.filter_append, List.filter_cons_of_pos hx, List.countP_eq_length_filter]
      simp

/-! The chains that steps describe. -/

namespace Step

/-- Whether a step describes an element that is number `position` of those of its name. -/
def Describes (s : Step) (x : Element) (position : Nat) : Prop :=
  (s.name = "*" ∨ x.name = s.name) ∧
    match s.test with
    | none => True
    | some (.attribute name value) => ∃ before after,
        x.attributes = before ++ ⟨name, value⟩ :: after ∧ ∀ a ∈ before, a.name ≠ name
    | some (.position n) => position = n
    | some .unreadable => False

/-- A step leads to a child that it describes, counted among the siblings that it names. -/
def LeadsTo (s : Step) (e x : Element) : Prop :=
  ∃ before after, e.children = before ++ x :: after ∧ s.Describes x (before.countP s.names + 1)

end Step

/-- From an element to another one, each step leads to a child. -/
inductive Chain : List Step → Element → Element → Prop
  | nil (e : Element) : Chain [] e e
  | cons {s : Step} {steps : List Step} {e y x : Element} (first : s.LeadsTo e y)
      (rest : Chain steps y x) : Chain (s :: steps) e x

theorem Element.attribute?_eq_some {e : Element} {name value : String} :
    e.attribute? name = some value ↔ ∃ before after,
      e.attributes = before ++ ⟨name, value⟩ :: after ∧ ∀ a ∈ before, a.name ≠ name := by
  unfold Element.attribute?
  rw [Option.map_eq_some_iff]
  constructor
  · rintro ⟨⟨name', value'⟩, hfind, rfl⟩
    obtain ⟨hname, before, after, hsplit, hbefore⟩ := List.find?_eq_some_iff_append.mp hfind
    obtain rfl : name' = name := by simpa using hname
    exact ⟨before, after, hsplit, fun a ha => by simpa using hbefore a ha⟩
  · rintro ⟨before, after, hsplit, hbefore⟩
    refine ⟨⟨name, value⟩, List.find?_eq_some_iff_append.mpr ⟨by simp, before, after, hsplit, ?_⟩,
      rfl⟩
    exact fun a ha => by simpa using hbefore a ha

namespace Step

variable {s : Step} {e x : Element}

theorem describes_iff {position : Nat} :
    s.Describes x position ↔ s.names x = true ∧ s.passes x position = true := by
  unfold Describes names passes
  rw [Bool.or_eq_true, beq_iff_eq, beq_iff_eq]
  refine and_congr_right fun _ => ?_
  rcases s.test with _ | ⟨name, value⟩ | n | _
  · simp
  · simp only [beq_iff_eq, Element.attribute?_eq_some]
  · simp
  · simp

theorem mem_select : x ∈ s.select e ↔ s.LeadsTo e x := by
  unfold select LeadsTo
  rw [List.mem_filterMap]
  constructor
  · rintro ⟨⟨child, position⟩, hmem, hpasses⟩
    dsimp only at hpasses
    split at hpasses
    · next hpass =>
      obtain rfl : child = x := by simpa using hpasses
      obtain ⟨hle, hget⟩ := List.mk_mem_zipIdx_iff_le_and_getElem?_sub.mp hmem
      obtain ⟨before, after, hchildren, hnames, hcount⟩ := getElem?_filter_eq_some.mp hget
      refine ⟨before, after, hchildren, describes_iff.mpr ⟨hnames, ?_⟩⟩
      rwa [hcount, Nat.sub_add_cancel hle]
    · cases hpasses
  · rintro ⟨before, after, hchildren, hdescribes⟩
    obtain ⟨hnames, hpass⟩ := describes_iff.mp hdescribes
    have hget := getElem?_filter_eq_some.mpr ⟨before, after, hchildren, hnames, rfl⟩
    refine ⟨(x, before.countP s.names + 1), ?_, by simp [hpass]⟩
    exact List.mk_mem_zipIdx_iff_le_and_getElem?_sub.mpr ⟨Nat.le_add_left _ _, hget⟩

/-- A step keeps the order of the children. -/
theorem select_sublist (s : Step) (e : Element) : (s.select e).Sublist e.children := by
  have hfirst (l : List (Element × Nat)) :
      (l.filterMap fun pair => if s.passes pair.1 pair.2 then some pair.1 else none).Sublist
        (l.map (·.1)) := by
    induction l with
    | nil => exact .slnil
    | cons pair l ih =>
      obtain ⟨child, position⟩ := pair
      rw [List.filterMap_cons, List.map_cons]
      dsimp only
      by_cases hpass : s.passes child position = true
      · rw [if_pos hpass]
        exact ih.cons_cons child
      · rw [if_neg hpass]
        exact ih.cons child
  have hnamed := hfirst ((e.children.filter s.names).zipIdx 1)
  rw [List.zipIdx_map_fst] at hnamed
  exact hnamed.trans List.filter_sublist

end Step

theorem mem_follow {steps : List Step} {es : List Element} {x : Element} :
    x ∈ follow steps es ↔ ∃ e ∈ es, Chain steps e x := by
  induction steps generalizing es with
  | nil =>
    constructor
    · exact fun h => ⟨x, h, .nil x⟩
    · rintro ⟨e, he, hchain⟩
      cases hchain
      exact he
  | cons s steps ih =>
    have hcons : follow (s :: steps) es = follow steps (es.flatMap s.select) := rfl
    rw [hcons, ih]
    constructor
    · rintro ⟨y, hy, hrest⟩
      obtain ⟨e, he, hfirst⟩ := List.mem_flatMap.mp hy
      exact ⟨e, he, .cons (Step.mem_select.mp hfirst) hrest⟩
    · rintro ⟨e, he, hchain⟩
      cases hchain with
      | cons hfirst hrest =>
        exact ⟨_, List.mem_flatMap.mpr ⟨e, he, Step.mem_select.mpr hfirst⟩, hrest⟩

theorem Element.mem_select {e x : Element} {path : String} :
    x ∈ e.select path ↔ Chain (stepsOf path.toList) e x := by
  unfold Element.select
  simp [mem_follow]

/-! Document order. -/

/-- The part that an element stands for ends before another element. -/
def Element.Precedes (x y : Element) : Prop :=
  ∃ part, x.tree.Holds x.index part ∧ x.index + part.size ≤ y.index

theorem Element.Precedes.lt {x y : Element} (h : x.Precedes y) : x.index < y.index := by
  obtain ⟨⟨name, attributes, children⟩, -, hle⟩ := h
  rw [Xml.Tree.size] at hle
  omega

namespace Tree

variable {t : Tree} {index first : Nat} {part : Xml.Tree} {parts : List Xml.Tree}

/-- The parts of a list lie in the numbers that they take up together. -/
theorem HoldsAll.within (h : t.HoldsAll first parts) {i : Nat} (hi : i ∈ numbers first parts) :
    ∃ part, t.Holds i part ∧ first ≤ i ∧ i + part.size ≤ first + Xml.Tree.sizes parts := by
  induction parts generalizing first with
  | nil => cases hi
  | cons part rest ih =>
    obtain ⟨hfirst, hrest⟩ := h.cons
    rw [Xml.Tree.sizes]
    rcases List.mem_cons.mp hi with rfl | hi
    · exact ⟨part, hfirst, Nat.le_refl _, by omega⟩
    · obtain ⟨sub, hsub, hle, hend⟩ := ih hrest hi
      exact ⟨sub, hsub, by omega, by omega⟩

theorem HoldsAll.pairwise (h : t.HoldsAll first parts) :
    (numbers first parts).Pairwise fun i j => (⟨t, i⟩ : Element).Precedes ⟨t, j⟩ := by
  induction parts generalizing first with
  | nil => exact .nil
  | cons part rest ih =>
    obtain ⟨hfirst, hrest⟩ := h.cons
    refine .cons (fun j hj => ⟨part, hfirst, ?_⟩) (ih hrest)
    obtain ⟨-, -, hle, -⟩ := hrest.within hj
    exact hle

theorem Holds.children_pairwise (h : t.Holds index part) :
    (⟨t, index⟩ : Element).children.Pairwise Element.Precedes := by
  unfold Element.children
  rw [h.node_eq, List.pairwise_map]
  exact h.holdsAll_children.pairwise

/-- The part of a child lies in the part of its parent. -/
theorem Holds.child_within (h : t.Holds index part) {x : Element}
    (hx : x ∈ (⟨t, index⟩ : Element).children) :
    ∃ sub, x.tree.Holds x.index sub ∧ index < x.index ∧
      x.index + sub.size ≤ index + part.size := by
  unfold Element.children at hx
  rw [h.node_eq] at hx
  obtain ⟨i, hi, rfl⟩ := List.mem_map.mp hx
  obtain ⟨sub, hsub, hle, hend⟩ := h.holdsAll_children.within hi
  obtain ⟨name, attributes, children⟩ := part
  rw [Xml.Tree.children] at hend
  refine ⟨sub, hsub, ?_, ?_⟩
  · exact hle
  · rw [Xml.Tree.size]
    dsimp only
    omega

end Tree

/-- Elements that stand for parts which follow on each other without overlap. -/
structure Ordered (es : List Element) : Prop where
  parts : ∀ e ∈ es, ∃ part, e.tree.Holds e.index part
  pairwise : es.Pairwise Element.Precedes

namespace Ordered

variable {es : List Element}

/-- A step stays inside of the parts that it starts from, so what it finds is ordered again. -/
theorem step (h : Ordered es) (s : Step) : Ordered (es.flatMap s.select) := by
  constructor
  · intro x hx
    obtain ⟨e, he, hx⟩ := List.mem_flatMap.mp hx
    obtain ⟨part, hpart⟩ := h.parts e he
    obtain ⟨sub, hsub, -⟩ := hpart.child_within ((s.select_sublist e).subset hx)
    exact ⟨sub, hsub⟩
  · rw [List.pairwise_flatMap]
    constructor
    · intro e he
      obtain ⟨part, hpart⟩ := h.parts e he
      exact hpart.children_pairwise.sublist (s.select_sublist e)
    · refine h.pairwise.imp_of_mem fun {e e'} _ he' hprecedes x hx y hy => ?_
      obtain ⟨part, hpart, hle⟩ := hprecedes
      obtain ⟨part', hpart'⟩ := h.parts e' he'
      obtain ⟨sub, hsub, -, hend⟩ := hpart.child_within ((s.select_sublist e).subset hx)
      obtain ⟨-, -, hlt, -⟩ := hpart'.child_within ((s.select_sublist e').subset hy)
      exact ⟨sub, hsub, by omega⟩

theorem follow (h : Ordered es) (steps : List Step) : Ordered (follow steps es) := by
  induction steps generalizing es with
  | nil => exact h
  | cons s steps ih => exact ih (h.step s)

theorem pairwise_lt (h : Ordered es) : es.Pairwise (·.index < ·.index) :=
  h.pairwise.imp Element.Precedes.lt

end Ordered

namespace Tree

mutual

/-- Every number of a part is that of a part of it. -/
theorem Holds.exists_holds {t : Tree} {index i : Nat} : {part : Xml.Tree} → t.Holds index part →
    index ≤ i → i < index + part.size → ∃ sub, t.Holds i sub
  | .element name attributes children, h, hle, hlt => by
    rcases Nat.eq_or_lt_of_le hle with rfl | hle
    · exact ⟨_, h⟩
    · rw [Xml.Tree.size] at hlt
      exact h.holdsAll_children.exists_holds hle (by rw [Xml.Tree.children]; omega)

theorem HoldsAll.exists_holds {t : Tree} {first i : Nat} : {parts : List Xml.Tree} →
    t.HoldsAll first parts → first ≤ i → i < first + Xml.Tree.sizes parts → ∃ sub, t.Holds i sub
  | [], _, hle, hlt => by
    rw [Xml.Tree.sizes] at hlt
    omega
  | part :: rest, h, hle, hlt => by
    obtain ⟨hfirst, hrest⟩ := h.cons
    rw [Xml.Tree.sizes] at hlt
    rcases Nat.lt_or_ge i (first + part.size) with hlt' | hge
    · exact hfirst.exists_holds hle hlt'
    · exact hrest.exists_holds hge (by omega)

end

theorem size_nodes_ofXml (x : Xml.Tree) : (ofXml x).nodes.size = x.size := by
  simp [ofXml, length_nodesOf]

end Tree

theorem follow_nil (steps : List Step) : follow steps [] = [] := by
  induction steps with
  | nil => rfl
  | cons s steps ih => exact ih

theorem Element.children_eq_nil {e : Element} (h : e.tree.nodes.size ≤ e.index) :
    e.children = [] := by
  simp [Element.children, Element.node, Array.getElem?_eq_none h]

/-- What steps lead to from an element of a document is in document order. -/
theorem pairwise_follow {x : Xml.Tree} {e : Element} (he : e.tree = .ofXml x)
    (steps : List Step) : (follow steps [e]).Pairwise (·.index < ·.index) := by
  rcases Nat.lt_or_ge e.index x.size with hlt | hge
  · have hholds : e.tree.Holds 0 x := by
      rw [he]
      exact Tree.holds_ofXml x
    obtain ⟨part, hpart⟩ := hholds.exists_holds (Nat.zero_le e.index) (by omega)
    have hordered : Ordered [e] := ⟨by simpa using ⟨part, hpart⟩, List.pairwise_singleton _ _⟩
    exact (hordered.follow steps).pairwise_lt
  -- A number that the document does not have stands for no children.
  · have hchildren : e.children = [] := by
      refine Element.children_eq_nil ?_
      rwa [he, Tree.size_nodes_ofXml]
    cases steps with
    | nil => exact List.pairwise_singleton _ _
    | cons s steps =>
      have hnone : s.select e = [] := by
        have hsub := s.select_sublist e
        rwa [hchildren, List.sublist_nil] at hsub
      have hfollow : follow (s :: steps) [e] = follow steps (s.select e ++ []) := rfl
      rw [hfollow, hnone, List.append_nil, follow_nil]
      exact .nil

theorem exists_ofXml_of_parse {bytes : List UInt8} {t : Tree} (h : Tree.parse bytes = .ok t) :
    ∃ x, Xml.parse bytes = .ok x ∧ t = .ofXml x := by
  unfold Tree.parse at h
  cases hparse : Xml.parse bytes with
  | error e =>
    rw [hparse] at h
    cases h
  | ok x =>
    rw [hparse] at h
    cases h
    exact ⟨x, rfl, rfl⟩

namespace Tree

variable {t : Tree} {path : String}

/-- An absolute path goes on from the root if its first step describes the root. -/
theorem select_absolute {rest : List Char} (hpath : path.toList = '/' :: rest) :
    t.select path = match stepsOf rest with
      | [] => []
      | s :: steps =>
        if s.names t.root && s.passes t.root 1 then follow steps [t.root] else [] := by
  unfold select
  rw [hpath]
  rfl

theorem select_relative (hpath : ∀ rest, path.toList ≠ '/' :: rest) :
    t.select path = t.root.select path := by
  unfold select
  split
  · next rest heq => exact absurd heq (hpath rest)
  · rfl

theorem mem_select_absolute {rest : List Char} (hpath : path.toList = '/' :: rest) {x : Element} :
    x ∈ t.select path ↔
      ∃ s steps, stepsOf rest = s :: steps ∧ s.Describes t.root 1 ∧ Chain steps t.root x := by
  rw [select_absolute hpath]
  cases stepsOf rest with
  | nil => simp
  | cons s steps =>
    dsimp only
    constructor
    · intro hx
      split at hx
      · next hroot =>
        rw [Bool.and_eq_true] at hroot
        obtain ⟨e, he, hchain⟩ := mem_follow.mp hx
        obtain rfl : e = t.root := by simpa using he
        exact ⟨s, steps, rfl, Step.describes_iff.mpr hroot, hchain⟩
      · cases hx
    · rintro ⟨s', steps', hsteps, hroot, hchain⟩
      obtain ⟨rfl, rfl⟩ := List.cons.inj hsteps
      rw [if_pos (by simpa using Step.describes_iff.mp hroot)]
      exact mem_follow.mpr ⟨t.root, by simp, hchain⟩

theorem pairwise_select {x : Xml.Tree} (ht : t = .ofXml x) (path : String) :
    (t.select path).Pairwise (·.index < ·.index) := by
  by_cases hpath : ∃ rest, path.toList = '/' :: rest
  · obtain ⟨rest, hpath⟩ := hpath
    rw [select_absolute hpath]
    cases stepsOf rest with
    | nil => exact .nil
    | cons s steps =>
      dsimp only
      split
      · exact pairwise_follow ht steps
      · exact .nil
  · rw [select_relative (not_exists.mp hpath)]
    exact pairwise_follow ht _

end Tree

/-- A path selects the ends of the chains that it describes, in document order and each of them
once. An absolute path must describe the root in its first step, as the first of its name, and then
goes on from there; the others start from an element, which is the root where none is given. -/
theorem paths_select_ends_of_chains {bytes : List UInt8} {t : Tree}
    (h : Tree.parse bytes = .ok t) (path : String) :
    (∀ e : Element, e.tree = t →
      (e.select path).Pairwise (·.index < ·.index) ∧
      ∀ x, x ∈ e.select path ↔ Chain (stepsOf path.toList) e x) ∧
    (t.select path).Pairwise (·.index < ·.index) ∧
    (∀ rest, path.toList = '/' :: rest → ∀ x, x ∈ t.select path ↔
      ∃ s steps, stepsOf rest = s :: steps ∧ s.Describes t.root 1 ∧ Chain steps t.root x) ∧
    ((∀ rest, path.toList ≠ '/' :: rest) → t.select path = t.root.select path) := by
  obtain ⟨document, -, ht⟩ := exists_ofXml_of_parse h
  refine ⟨fun e he => ⟨?_, fun x => Element.mem_select⟩, Tree.pairwise_select ht path,
    fun rest hpath x => Tree.mem_select_absolute hpath, Tree.select_relative⟩
  exact pairwise_follow (he.trans ht) _

/-- A document with a slash in the value of an attribute. -/
def quotedTree : Xml.Tree :=
  .element "a" [] [
    .element "b" [⟨"n", "x/y"⟩] [.element "c" [] [], .element "d" [] [], .element "c" [] []],
    .element "b" [] []]

def quotedContent : Xml.Content :=
  .element ⟨none, "a", []⟩
    (.element ⟨none, "b", [.given none ⟨"n", "x/y"⟩]⟩
      (.empty ⟨none, "c", []⟩ <| .empty ⟨none, "d", []⟩ <| .empty ⟨none, "c", []⟩ .nothing) <|
      .empty ⟨none, "b", []⟩ .nothing)
    .nothing

/-- The slash between quotes starts no step, and the second `c` is not the second child. -/
theorem paths_select_ends_of_chains_quoted :
    Tree.parse (Text.octets "<a><b n=\"x/y\"><c/><d/><c/></b><b/></a>") =
      .ok (.ofXml quotedTree) ∧
    ((Tree.ofXml quotedTree).root.select "b[@n='x/y']/c[2]").map (·.index) = [4] ∧
    ∀ x, x ∈ (Tree.ofXml quotedTree).root.select "b[@n='x/y']/c[2]" ↔
      Chain [⟨"b", some (.attribute "n" "x/y")⟩, ⟨"c", some (.position 2)⟩]
        (Tree.ofXml quotedTree).root x := by
  have hnamed : quotedTree.WellNamed := by decide +kernel
  have hchosen : quotedContent.WellChosen := by decide +kernel
  have htext : String.ofList quotedContent.chars =
      "<a><b n=\"x/y\"><c/><d/><c/></b><b/></a>" := by decide +kernel
  have hparse := Tree.parse_text hnamed hchosen rfl htext
  have hsteps : stepsOf "b[@n='x/y']/c[2]".toList =
      [⟨"b", some (.attribute "n" "x/y")⟩, ⟨"c", some (.position 2)⟩] := by decide +kernel
  refine ⟨hparse, by decide +kernel, fun x => ?_⟩
  have hselect := (paths_select_ends_of_chains hparse "b[@n='x/y']/c[2]").1
    (Tree.ofXml quotedTree).root rfl
  rw [← hsteps]
  exact hselect.2 x

end DataLayer.Schema
