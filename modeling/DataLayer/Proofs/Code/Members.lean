import DataLayer.Proofs.Code.EntityFile
import DataLayer.Proofs.Model.Owners

/-!
The members of entities that the data access class uses: properties, whose values it saves, and
collections, to which it assigns child rows. The class follows the links of accessors, and the file
of an entity declares one collection for each name of a child; every member that is used is among
those that are declared.
-/

namespace DataLayer

open Template Code

/-- A text of lines has this line. -/
def HasLine (text line : String) : Prop := ∃ before after, text = ofLines (before ++ line :: after)

theorem hasLine_ofLines {lines : List String} {line : String} (h : line ∈ lines) :
    HasLine (ofLines lines) line := by
  obtain ⟨before, after, rfl⟩ := List.append_of_mem h
  exact ⟨before, after, rfl⟩

/-! Collections. -/

/-- The names that are kept are those that have not been seen. -/
theorem Accessor.mem_map_firstPerEntity {as : List Accessor} {seen : List String} {name : String} :
    name ∈ (firstPerEntity seen as).map (·.entity) ↔ name ∈ as.map (·.entity) ∧ name ∉ seen := by
  induction as generalizing seen with
  | nil => simp [firstPerEntity]
  | cons a as ih =>
    unfold firstPerEntity
    by_cases hseen : a.entity ∈ seen
    · rw [if_pos (List.contains_iff_mem.mpr hseen), ih, List.map_cons, List.mem_cons]
      constructor
      · rintro ⟨hmem, hnew⟩
        exact ⟨.inr hmem, hnew⟩
      · rintro ⟨rfl | hmem, hnew⟩
        · exact absurd hseen hnew
        · exact ⟨hmem, hnew⟩
    · rw [if_neg (by simpa using hseen), List.map_cons, List.map_cons, List.mem_cons, ih,
        List.mem_cons, List.mem_cons, not_or]
      by_cases hname : name = a.entity
      · simp [hname, hseen]
      · simp [hname]

/-- An entity has a collection for every foreign key that it refers to, though not always one made
from this key. -/
theorem Entity.exists_mem_collections {m : Model} {e : Entity} {id : Nat} {f : Accessor}
    (hid : id ∈ e.foreigns) (hf : m.accessors[id]? = some f) :
    ∃ g ∈ e.collections m, g.entity = f.entity := by
  have hchild : f ∈ m.accessorsAt e.foreigns := List.mem_filterMap.mpr ⟨id, hid, hf⟩
  exact List.mem_map.mp (Accessor.mem_map_firstPerEntity.mpr
    ⟨List.mem_map_of_mem hchild, List.not_mem_nil⟩)

/-! Declarations in the file of an entity. -/

namespace Entity.Typed

variable {c : Config} {m : Model} {e : Entity} {text : String}

theorem eq_ofLines (h : e.Typed c) (htext : c.renderer.entityText c m e = .ok text) :
    text = ofLines (e.headCode c ++ e.properties.flatMap (fun p => p.code p.type) ++
      e.tailCode c m) := by
  rw [h.entityText_eq m] at htext
  cases hfind : e.properties.find? (·.type.kind == .unknown) with
  | some p =>
    rw [hfind] at htext
    cases htext
  | none =>
    rw [hfind] at htext
    exact (Except.ok.inj htext).symm

theorem hasLine_property (h : e.Typed c) (htext : c.renderer.entityText c m e = .ok text)
    {p : Property} (hp : p ∈ e.properties) :
    HasLine text (indent 8 ("public " ++ p.type.name ++ " " ++ p.shortName ++
      " \x7b get; set; \x7d")) := by
  rw [h.eq_ofLines htext]
  refine hasLine_ofLines (List.mem_append_left _ (List.mem_append_right _ ?_))
  exact List.mem_flatMap.mpr ⟨p, hp, List.mem_append_right _ (List.mem_singleton_self _)⟩

theorem hasLine_collection (h : e.Typed c) (htext : c.renderer.entityText c m e = .ok text)
    {g : Accessor} (hg : g ∈ e.collections m) :
    HasLine text (indent 8 ("public " ++ listType g.entity ++ " " ++ c.plural g.entity ++
      " \x7b get; set; \x7d")) := by
  rw [h.eq_ofLines htext]
  refine hasLine_ofLines (List.mem_append_right _ (List.mem_append_left _ ?_))
  exact List.mem_flatMap.mpr ⟨g, hg, by simp⟩

end Entity.Typed

/-! Assignments in the data access class. -/

/-- The get of an accessor assigns the rows of every foreign key that it is linked to. -/
theorem hasLine_assignment {c : Config} {m : Model} {a f : Accessor} {id : Nat}
    (ha : a ∈ m.accessors) (hunique : a.unique = true) (hid : id ∈ a.foreigns)
    (hf : m.accessors[id]? = some f) {classText interfaceText : String}
    (htexts : c.renderer.aggregateTexts c m = .ok (classText, interfaceText)) :
    HasLine classText (indent 16 ("ret." ++ c.plural f.entity ++
      " = reader.GetResultCollection<" ++ f.entity ++ ">(\"" ++ c.plural f.entity ++ "\");")) := by
  have hdeclaration : (⟨a, .getOne⟩ : Declaration) ∈ m.declarations :=
    List.mem_flatMap.mpr ⟨.getOne, by decide, List.mem_map_of_mem
      (List.mem_filter.mpr ⟨ha, hunique⟩)⟩
  have hlinked : f ∈ m.accessorsAt a.foreigns := List.mem_filterMap.mpr ⟨id, hid, hf⟩
  rw [(Prod.mk.inj (eq_of_aggregateTexts htexts)).1]
  refine hasLine_ofLines ?_
  unfold Model.classCode
  have hbody : indent 16 ("ret." ++ c.plural f.entity ++ " = reader.GetResultCollection<" ++
      f.entity ++ ">(\"" ++ c.plural f.entity ++ "\");") ∈ Accessor.getOneBody c m a := by
    unfold Accessor.getOneBody
    refine List.mem_append_left _ (List.mem_append_right _ ?_)
    exact List.mem_flatMap.mpr ⟨f, hlinked, by simp⟩
  have hmethod : indent 16 ("ret." ++ c.plural f.entity ++ " = reader.GetResultCollection<" ++
      f.entity ++ ">(\"" ++ c.plural f.entity ++ "\");") ∈
        m.declarations.flatMap (·.methodCode c m) :=
    List.mem_flatMap.mpr ⟨_, hdeclaration, List.mem_append_left _ (List.mem_append_right _ hbody)⟩
  exact List.mem_append_left _ (List.mem_append_left _ (List.mem_append_right _ hmethod))

/-- The data access class uses no member of an entity that the file of the entity does not declare.
What an accessor saves are properties of its entity. A collection that a get assigns is declared,
if need be for another foreign key from the same child. -/
theorem used_members_declared (c : Config) (t : Schema.Tree) :
    let m := (Model.ofSchema c t).1
    ∀ a ∈ m.accessors, ∃ e, m.entity? a.table = some e ∧ a.entity = e.name ∧
      (∀ p ∈ a.columns ++ a.identityColumns, p ∈ e.properties ∧
        ∀ text, c.renderer.entityText c m e = .ok text →
          HasLine text (indent 8 ("public " ++ p.type.name ++ " " ++ SqlName.short p.name ++
            " \x7b get; set; \x7d"))) ∧
      ∀ id ∈ a.foreigns, ∃ f, m.accessors[id]? = some f ∧
        (∃ children, (e.data c m).field? "Foreigns" = some (.list children) ∧
          ∃ child ∈ children, child.field? "EntityName" = some (.text f.entity)) ∧
        (∀ text, c.renderer.entityText c m e = .ok text →
          HasLine text (indent 8 ("public " ++ listType f.entity ++ " " ++ c.plural f.entity ++
            " \x7b get; set; \x7d"))) ∧
        ∀ classText interfaceText,
          c.renderer.aggregateTexts c m = .ok (classText, interfaceText) →
          HasLine classText (indent 16 ("ret." ++ c.plural f.entity ++
            " = reader.GetResultCollection<" ++ f.entity ++ ">(\"" ++ c.plural f.entity ++
            "\");")) := by
  intro m a ha
  obtain ⟨e, he, howned⟩ := Model.exists_ownedBy c t ha
  have htyped : e.Typed c := Model.typed_ofSchema t e he
  refine ⟨e, howned.entity?, howned.name, fun p hp => ?_, fun id hid => ?_⟩
  · rw [howned.columns, howned.identityColumns] at hp
    have hmem : p ∈ e.properties := e.columns_append_identityColumns.mem_iff.mp hp
    exact ⟨hmem, fun text htext => htyped.hasLine_property htext hmem⟩
  · obtain ⟨hunique, hmem, f, hf, -⟩ := howned.foreigns id hid
    obtain ⟨g, hg, hentity⟩ := Entity.exists_mem_collections hmem hf
    refine ⟨f, hf, ⟨_, rfl, g.data m, List.mem_map_of_mem hg, ?_⟩, fun text htext => ?_, ?_⟩
    · rw [← hentity]
      rfl
    · have hline := htyped.hasLine_collection htext hg
      rwa [hentity] at hline
    · intro classText interfaceText htexts
      exact hasLine_assignment ha hunique hid hf htexts

/-- The primary key of addresses is linked to the second foreign key from orders. The collection of
orders is made from the first, and under the one name it is both declared and assigned. -/
theorem used_members_declared_addresses :
    Accessor.address ∈ (Model.ofSchema Config.initial .addresses).1.accessors ∧
    Accessor.address.foreigns = [1] ∧
    (Entity.address.collections .addresses).map (·.key) = ["[dbo].[FK_Bill]"] ∧
    ∃ text classText interfaceText,
      Config.initial.renderer.entityText Config.initial .addresses .address = .ok text ∧
      HasLine text "        public int Id \x7b get; set; \x7d" ∧
      HasLine text "        public IList<Order> Orders \x7b get; set; \x7d" ∧
      Config.initial.renderer.aggregateTexts Config.initial .addresses =
        .ok (classText, interfaceText) ∧
      HasLine classText
        "                ret.Orders = reader.GetResultCollection<Order>(\"Orders\");" := by
  have hmem : Accessor.address ∈ (Model.ofSchema Config.initial .addresses).1.accessors := by
    rw [Model.ofSchema_addresses]
    decide +kernel
  obtain ⟨e, he, -, hproperties, hlinks⟩ :=
    used_members_declared Config.initial .addresses .address hmem
  obtain ⟨f, hf, -, hdeclared, hassigned⟩ := hlinks 1 (by decide)
  rw [Model.ofSchema_addresses] at he hproperties hf hdeclared hassigned
  obtain rfl : Entity.address = e := Option.some.inj he
  obtain rfl : Accessor.orders "[dbo].[FK_Ship]" "[dbo].[Order].[Ship]"
      "[dbo].[Address].[Id]" = f := Option.some.inj hf
  have htyped : Entity.address.Typed Config.initial := by
    unfold Entity.Typed
    decide +kernel
  have hknown : Entity.address.properties.find? (·.type.kind == .unknown) = none := by
    decide +kernel
  have htext := htyped.entityText_eq .addresses
  rw [hknown] at htext
  have hfault : Model.addresses.declarations.findSome? (·.methodFault Config.initial) = none := by
    decide +kernel
  have htexts := aggregateTexts_eq Config.initial .addresses
  rw [hfault] at htexts
  have hid : SqlName.short "[dbo].[Address].[Id]" = "Id" := by decide +kernel
  have hproperty :=
    (hproperties (.number "[dbo].[Address].[Id]" none) (by decide +kernel)).2 _ htext
  simp only [Property.number, hid] at hproperty
  exact ⟨hmem, rfl, by decide +kernel, _, _, _, htext, hproperty, hdeclared _ htext, htexts,
    hassigned _ _ htexts⟩

end DataLayer
