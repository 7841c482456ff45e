import DataLayer.Proofs.Schema.Selection

/-!
The objects of a schema document. Those of one kind are the objects that have its type, in the order
of the document.
-/

namespace DataLayer

namespace Xml.Tree

/-- The parts of a part that have a name. -/
def named (name : String) (x : Xml.Tree) : List Xml.Tree := x.children.filter (·.name == name)

/-- The type of an object. -/
def type? (x : Xml.Tree) : Option String := (x.attributes.find? (·.name == "Type")).map (·.value)

/-- The objects of a schema document. -/
def objects (x : Xml.Tree) : List Xml.Tree :=
  if x.name = "DataSchemaModel" then (x.named "Model").flatMap (named "Element") else []

end Xml.Tree

namespace Schema

/-! Objects as elements. -/

namespace Element

variable {e : Element} {part : Xml.Tree}

theorem StandsFor.typeName? (h : e.StandsFor part) : e.typeName? = part.type? := by
  unfold Element.typeName? Element.attribute? Element.attributes
  rw [Tree.Holds.node_eq h]
  rfl

end Element

open Element (StandsFor)

theorem Step.select_plain (name : String) (e : Element) :
    (⟨name, none⟩ : Step).select e = e.children.filter (⟨name, none⟩ : Step).names := by
  have hall : (fun pair : Element × Nat =>
      if (⟨name, none⟩ : Step).passes pair.1 pair.2 then some pair.1 else none) =
        some ∘ Prod.fst := rfl
  unfold Step.select
  rw [hall, List.filterMap_eq_map, List.zipIdx_map_fst]

/-- A step without a test leads to the parts that have its name. -/
theorem Element.StandsFor.select {e : Element} {part : Xml.Tree} (h : e.StandsFor part)
    {name : String} (hname : name ≠ "*") :
    List.Forall₂ StandsFor ((⟨name, none⟩ : Step).select e) (part.named name) := by
  rw [Step.select_plain]
  refine List.rel_filter (fun x p hx => ?_) h.children
  unfold Step.names
  simp [hname, hx.name]

/-- A test of an attribute takes away some of the elements that the name leads to. -/
theorem Step.select_attribute (name key value : String) (e : Element) :
    (⟨name, some (.attribute key value)⟩ : Step).select e =
      ((⟨name, none⟩ : Step).select e).filter (·.attribute? key == some value) := by
  have htest : (fun pair : Element × Nat =>
      if (⟨name, some (.attribute key value)⟩ : Step).passes pair.1 pair.2 then some pair.1
      else none) = (Option.guard fun x : Element => x.attribute? key == some value) ∘ Prod.fst := by
    funext pair
    simp [Step.passes, Option.guard]
  rw [Step.select_plain]
  unfold Step.select
  rw [htest, ← List.filterMap_map, List.zipIdx_map_fst, List.filterMap_eq_filter]
  rfl

theorem select_objects (t : Tree) : t.select "/DataSchemaModel/Model/Element" =
    if t.root.name = "DataSchemaModel" then
      ((⟨"Model", none⟩ : Step).select t.root).flatMap (⟨"Element", none⟩ : Step).select
    else [] := by
  have hsteps : stepsOf "DataSchemaModel/Model/Element".toList =
      [⟨"DataSchemaModel", none⟩, ⟨"Model", none⟩, ⟨"Element", none⟩] := by decide +kernel
  have hpath : "/DataSchemaModel/Model/Element".toList =
      '/' :: "DataSchemaModel/Model/Element".toList := by decide +kernel
  rw [Tree.select_absolute hpath, hsteps]
  simp [Step.names, Step.passes, follow]

/-- The elements of a document that are objects stand for its objects. -/
theorem forall₂_select_objects (x : Xml.Tree) :
    List.Forall₂ StandsFor ((Tree.ofXml x).select "/DataSchemaModel/Model/Element") x.objects := by
  have hroot : (Tree.ofXml x).root.StandsFor x := Tree.holds_ofXml x
  rw [select_objects, hroot.name, Xml.Tree.objects]
  split
  · exact List.rel_flatMap (hroot.select (by decide)) fun _ _ hx => StandsFor.select hx (by decide)
  · exact .nil

theorem Tree.objects_eq (t : Tree) (kind : Kind) : t.objects kind =
    (t.select "/DataSchemaModel/Model/Element").filter
      (·.typeName? == some kind.typeName) := by
  have hpath : ("/DataSchemaModel/Model/Element[@Type='" ++ kind.typeName ++ "']").toList =
      '/' :: ("DataSchemaModel/Model/Element[@Type='" ++ kind.typeName ++ "']").toList := by
    have hslash : "/DataSchemaModel/Model/Element[@Type='".toList =
        '/' :: "DataSchemaModel/Model/Element[@Type='".toList := by decide +kernel
    simp only [String.toList_append, hslash, List.cons_append]
  have hsteps : stepsOf ("DataSchemaModel/Model/Element[@Type='" ++ kind.typeName ++ "']").toList =
      [⟨"DataSchemaModel", none⟩, ⟨"Model", none⟩,
        ⟨"Element", some (.attribute "Type" kind.typeName)⟩] := by
    cases kind <;> decide +kernel
  unfold Tree.objects
  rw [Tree.select_absolute hpath, hsteps, select_objects]
  have htest : (⟨"Element", some (.attribute "Type" kind.typeName)⟩ : Step).select = fun e =>
      ((⟨"Element", none⟩ : Step).select e).filter (·.typeName? == some kind.typeName) :=
    funext (Step.select_attribute "Element" "Type" kind.typeName)
  by_cases hroot : t.root.name = "DataSchemaModel"
  · simp [Step.names, Step.passes, follow, hroot, htest, List.filter_flatMap]
  · simp [Step.names, hroot]

theorem forall₂_objects (x : Xml.Tree) (kind : Kind) :
    List.Forall₂ StandsFor ((Tree.ofXml x).objects kind)
      (x.objects.filter (·.type? == some kind.typeName)) := by
  rw [Tree.objects_eq]
  refine List.rel_filter (fun e part h => ?_) (forall₂_select_objects x)
  simp only [h.typeName?]

end Schema

end DataLayer
