import DataLayer.Schema.Query
import Mathlib.Data.List.Forall2

/-!
Elements as parts of a document. What an element says about itself, and what a path selects from
it, depends on the part of the document that it stands for, and not on where this part stands or
what else the document holds.
-/

namespace DataLayer

namespace Schema

/-! Numbers of nodes. -/

mutual

theorem length_nodesOf (index : Nat) : (part : Xml.Tree) → (nodesOf index part).length = part.size
  | .element name attributes children => by
    rw [nodesOf, List.length_cons, length_nodesOfAll, Xml.Tree.size]

theorem length_nodesOfAll (first : Nat) :
    (parts : List Xml.Tree) → (nodesOfAll first parts).length = Xml.Tree.sizes parts
  | [] => rfl
  | part :: rest => by
    rw [nodesOfAll, List.length_append, length_nodesOf, length_nodesOfAll, Xml.Tree.sizes]

end

theorem nodesOf_eq (index : Nat) (part : Xml.Tree) :
    nodesOf index part =
      ⟨part.name, part.attributes, numbers (index + 1) part.children⟩ ::
        nodesOfAll (index + 1) part.children := by
  cases part
  rw [nodesOf]
  rfl

namespace Tree

/-- The nodes of a part stand in the document from a number on. -/
def Holds (t : Tree) (index : Nat) (part : Xml.Tree) : Prop :=
  nodesOf index part <+: t.nodes.toList.drop index

/-- The nodes of parts stand side by side from a number on. -/
def HoldsAll (t : Tree) (first : Nat) (parts : List Xml.Tree) : Prop :=
  nodesOfAll first parts <+: t.nodes.toList.drop first

theorem holds_ofXml (part : Xml.Tree) : (ofXml part).Holds 0 part := by
  simp [Holds, ofXml]

variable {t : Tree} {index first : Nat} {part : Xml.Tree} {parts : List Xml.Tree}

theorem Holds.node_eq (h : t.Holds index part) :
    (⟨t, index⟩ : Element).node =
      ⟨part.name, part.attributes, numbers (index + 1) part.children⟩ := by
  obtain ⟨rest, hrest⟩ := h
  rw [nodesOf_eq] at hrest
  have hget : t.nodes.toList[index]? =
      some ⟨part.name, part.attributes, numbers (index + 1) part.children⟩ := by
    rw [← List.head?_drop, ← hrest]
    rfl
  rw [Array.getElem?_toList] at hget
  simp [Element.node, hget]

theorem Holds.holdsAll_children (h : t.Holds index part) :
    t.HoldsAll (index + 1) part.children := by
  obtain ⟨rest, hrest⟩ := h
  rw [nodesOf_eq] at hrest
  refine ⟨rest, ?_⟩
  rw [← List.drop_drop, ← hrest]
  rfl

/-- The first of several parts is followed by the others. -/
theorem HoldsAll.cons (h : t.HoldsAll first (part :: parts)) :
    t.Holds first part ∧ t.HoldsAll (first + part.size) parts := by
  obtain ⟨after, hafter⟩ := h
  rw [nodesOfAll, List.append_assoc] at hafter
  refine ⟨⟨_, hafter⟩, after, ?_⟩
  rw [← List.drop_drop, ← hafter, ← length_nodesOf first part, List.drop_left]

/-- Each of several parts stands at its own number. -/
theorem HoldsAll.forall₂ (h : t.HoldsAll first parts) :
    List.Forall₂ t.Holds (numbers first parts) parts := by
  induction parts generalizing first with
  | nil => exact .nil
  | cons part rest ih => exact .cons h.cons.1 (ih h.cons.2)

end Tree

namespace Element

/-- An element stands for a part of its document. -/
def StandsFor (e : Element) (part : Xml.Tree) : Prop := e.tree.Holds e.index part

/-- Two elements stand for the same part, each of its own document. -/
def Alike (e e' : Element) : Prop :=
  ∃ part, e.tree.Holds e.index part ∧ e'.tree.Holds e'.index part

/-- In two lists the elements are pairwise alike. -/
abbrev AllAlike (es es' : List Element) : Prop := List.Forall₂ Alike es es'

variable {e e' : Element} {es es' : List Element}

theorem StandsFor.name {part : Xml.Tree} (h : e.StandsFor part) : e.name = part.name := by
  unfold Element.name
  rw [Tree.Holds.node_eq h]

theorem StandsFor.children {part : Xml.Tree} (h : e.StandsFor part) :
    List.Forall₂ StandsFor e.children part.children := by
  unfold Element.children
  rw [Tree.Holds.node_eq h, List.forall₂_map_left_iff]
  exact (Tree.Holds.holdsAll_children h).forall₂

/-- Elements that stand for the same parts are alike. -/
theorem allAlike_of_forall₂ {parts : List Xml.Tree} (h : List.Forall₂ StandsFor es parts)
    (h' : List.Forall₂ StandsFor es' parts) : AllAlike es es' := by
  induction h generalizing es' with
  | nil =>
    cases h'
    exact .nil
  | cons hfirst _ ih =>
    cases h' with
    | cons hfirst' hrest' => exact .cons ⟨_, hfirst, hfirst'⟩ (ih hrest')

theorem Alike.name (h : e.Alike e') : e.name = e'.name := by
  obtain ⟨part, hpart, hpart'⟩ := h
  exact (StandsFor.name hpart).trans (StandsFor.name hpart').symm

theorem Alike.attribute? (h : e.Alike e') (name : String) :
    e.attribute? name = e'.attribute? name := by
  obtain ⟨part, hpart, hpart'⟩ := h
  unfold Element.attribute? Element.attributes
  rw [hpart.node_eq, hpart'.node_eq]

theorem Alike.children (h : e.Alike e') : AllAlike e.children e'.children := by
  obtain ⟨part, hpart, hpart'⟩ := h
  exact allAlike_of_forall₂ (StandsFor.children hpart) (StandsFor.children hpart')

end Element

/-! What steps select. -/

theorem forall₂_zipIdx {α β : Type} {R : α → β → Prop} {xs : List α} {ys : List β}
    (h : List.Forall₂ R xs ys) (n : Nat) :
    List.Forall₂ (fun x y => R x.1 y.1 ∧ x.2 = y.2) (xs.zipIdx n) (ys.zipIdx n) := by
  induction h generalizing n with
  | nil => exact .nil
  | cons hfirst _ ih => exact .cons ⟨hfirst, rfl⟩ (ih (n + 1))

theorem filterMap_eq_of_forall₂ {α β γ : Type} {R : α → β → Prop} {f : α → Option γ}
    {g : β → Option γ} (hfg : ∀ x y, R x y → f x = g y) {xs : List α} {ys : List β}
    (h : List.Forall₂ R xs ys) : xs.filterMap f = ys.filterMap g := by
  induction h with
  | nil => rfl
  | cons hfirst _ ih => rw [List.filterMap_cons, List.filterMap_cons, hfg _ _ hfirst, ih]

namespace Element

variable {e e' : Element} {es es' : List Element}

theorem Alike.step (h : e.Alike e') (s : Step) : AllAlike (s.select e) (s.select e') := by
  have hnames {x x' : Element} (hx : x.Alike x') : s.names x ↔ s.names x' := by
    unfold Step.names
    rw [hx.name]
  have hpasses {x x' : Element} (hx : x.Alike x') (position : Nat) :
      s.passes x position = s.passes x' position := by
    unfold Step.passes
    simp only [hx.attribute?]
  have hnamed : AllAlike (e.children.filter s.names) (e'.children.filter s.names) :=
    List.rel_filter (fun _ _ hx => hnames hx) h.children
  refine List.rel_filterMap ?_ (forall₂_zipIdx hnamed 1)
  rintro ⟨x, position⟩ ⟨x', position'⟩ ⟨hx, hposition⟩
  obtain rfl : position = position' := hposition
  dsimp only at hx ⊢
  rw [hpasses hx]
  split
  · exact .some hx
  · exact .none

/-- Steps lead from alike elements to alike elements. -/
theorem AllAlike.follow (h : AllAlike es es') (steps : List Step) :
    AllAlike (Schema.follow steps es) (Schema.follow steps es') := by
  induction steps generalizing es es' with
  | nil => exact h
  | cons s steps ih => exact ih (List.rel_flatMap h fun _ _ hx => hx.step s)

theorem Alike.select (h : e.Alike e') (path : String) :
    AllAlike (e.select path) (e'.select path) :=
  AllAlike.follow (.cons h .nil) _

theorem Alike.objectName? (h : e.Alike e') : e.objectName? = e'.objectName? := h.attribute? "Name"

theorem Alike.property? (h : e.Alike e') (name : String) :
    e.property? name = e'.property? name := by
  have hselect := h.select ("Property[@Name='" ++ name ++ "']")
  unfold Element.property? Element.first?
  generalize e.select _ = es at hselect
  generalize e'.select _ = es' at hselect
  cases hselect with
  | nil => rfl
  | cons hfirst _ => exact hfirst.attribute? "Value"

theorem Alike.flag? (h : e.Alike e') (name : String) : e.flag? name = e'.flag? name := by
  unfold Element.flag?
  rw [h.property? name]

theorem Alike.references (h : e.Alike e') (relationship : String) :
    e.references relationship = e'.references relationship :=
  filterMap_eq_of_forall₂ (fun _ _ hx => hx.attribute? "Name") (h.select _)

theorem Alike.reference? (h : e.Alike e') (relationship : String) :
    e.reference? relationship = e'.reference? relationship := by
  unfold Element.reference?
  rw [h.references relationship]

theorem Alike.typeReference? (h : e.Alike e') (relationship : String) :
    e.typeReference? relationship = e'.typeReference? relationship := by
  have hrelated : AllAlike (e.related relationship .typeSpecifier)
      (e'.related relationship .typeSpecifier) := h.select _
  unfold Element.typeReference?
  generalize e.related relationship .typeSpecifier = es at hrelated
  generalize e'.related relationship .typeSpecifier = es' at hrelated
  induction hrelated with
  | nil => rfl
  | cons hfirst _ ih => rw [List.findSome?_cons, List.findSome?_cons, hfirst.reference? "Type", ih]

end Element

end Schema

/-! A document that declares tables. -/

namespace Xml.Tree

/-- A reference, inside of its relationship. -/
def reference (relationship name : String) : Xml.Tree :=
  .element "Relationship" [⟨"Name", relationship⟩]
    [.element "Entry" [] [.element "References" [⟨"Name", name⟩] []]]

/-- A column by its qualified name and its type. -/
def column (name type : String) : Xml.Tree :=
  .element "Element" [⟨"Type", "SqlSimpleColumn"⟩, ⟨"Name", name⟩] [
    .element "Property" [⟨"Name", "IsNullable"⟩, ⟨"Value", "False"⟩] [],
    .element "Relationship" [⟨"Name", "TypeSpecifier"⟩] [.element "Entry" []
      [.element "Element" [⟨"Type", "SqlTypeSpecifier"⟩] [reference "Type" type]]]]

def table (name : String) (columns : List Xml.Tree) : Xml.Tree :=
  .element "Element" [⟨"Type", "SqlTable"⟩, ⟨"Name", name⟩]
    [.element "Relationship" [⟨"Name", "Columns"⟩] (columns.map fun c => .element "Entry" [] [c])]

def schema (tables : List Xml.Tree) : Xml.Tree :=
  .element "DataSchemaModel" [] [.element "Model" [] tables]

end Xml.Tree

end DataLayer
