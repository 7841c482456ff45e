import DataLayer.Proofs.Code.Members

/-!
The names of the members that the file of an entity declares. It has one collection for each name of
a child, under the plural form of this name. Different children have different plurals unless one is
declared for them that another one has too. Properties are named after columns, which are not asked
for the names of collections.
-/

namespace DataLayer

open Template Code

/-! One collection for each child. -/

namespace Accessor

theorem nodup_map_firstPerEntity (seen : List String) (as : List Accessor) :
    ((firstPerEntity seen as).map (·.entity)).Nodup := by
  induction as generalizing seen with
  | nil => exact List.nodup_nil
  | cons a as ih =>
    unfold firstPerEntity
    by_cases hseen : a.entity ∈ seen
    · rw [if_pos (List.contains_iff_mem.mpr hseen)]
      exact ih seen
    · rw [if_neg (by simpa using hseen), List.map_cons, List.nodup_cons, mem_map_firstPerEntity]
      exact ⟨fun hmem => hmem.2 (List.mem_cons_self ..), ih _⟩

end Accessor

namespace Entity

/-- The names of the tables that refer to an entity, one for each foreign key. -/
def childNames (m : Model) (e : Entity) : List String := (m.accessorsAt e.foreigns).map (·.entity)

/-- The names of the children that an entity has collections for. -/
def collectionNames (m : Model) (e : Entity) : List String := (e.collections m).map (·.entity)

theorem mem_collectionNames {m : Model} {e : Entity} {name : String} :
    name ∈ e.collectionNames m ↔ name ∈ e.childNames m :=
  Accessor.mem_map_firstPerEntity.trans (and_iff_left List.not_mem_nil)

theorem nodup_collectionNames (m : Model) (e : Entity) : (e.collectionNames m).Nodup :=
  Accessor.nodup_map_firstPerEntity [] _

end Entity

/-! Plural forms. -/

namespace Config

variable {c : Config}

theorem plural_eq (c : Config) (name : String) :
    c.plural name = (c.overrides.plural? name).getD (name ++ "s") := rfl

/-- Plurals that are made from the names differ as the names do. -/
theorem eq_of_plural_eq {name other : String} (hname : c.overrides.plural? name = none)
    (hother : c.overrides.plural? other = none) (h : c.plural name = c.plural other) :
    name = other := by
  rw [plural_eq, plural_eq, hname, hother] at h
  exact String.append_left_inj "s" |>.mp h

/-- Names have different plurals unless one is declared that another name has too. -/
theorem plural_injOn_iff {names : List String} :
    (∀ name ∈ names, ∀ other ∈ names, c.plural name = c.plural other → name = other) ↔
      ∀ name ∈ names, ∀ plural, c.overrides.plural? name = some plural →
        ∀ other ∈ names, c.plural other = plural → other = name := by
  constructor
  · intro h name hname plural hplural other hother hsame
    refine h other hother name hname ?_
    rw [hsame, plural_eq, hplural, Option.getD_some]
  · intro h name hname other hother hsame
    cases hplural : c.overrides.plural? name with
    | some plural =>
      have hplural' : c.plural name = plural := by rw [plural_eq, hplural, Option.getD_some]
      exact (h name hname plural hplural other hother (hsame ▸ hplural')).symm
    | none =>
      cases hplural' : c.overrides.plural? other with
      | some plural =>
        refine h other hother plural hplural' name hname ?_
        rw [hsame, plural_eq, hplural', Option.getD_some]
      | none => exact eq_of_plural_eq hplural hplural' hsame

end Config

/-! The members of a file. -/

namespace Entity

variable {c : Config} {m : Model} {e : Entity}

theorem nodup_map_plural_iff :
    ((e.collectionNames m).map c.plural).Nodup ↔
      ∀ name ∈ e.childNames m, ∀ plural, c.overrides.plural? name = some plural →
        ∀ other ∈ e.childNames m, c.plural other = plural → other = name := by
  rw [List.nodup_map_iff_inj_on (e.nodup_collectionNames m)]
  simp only [mem_collectionNames]
  exact Config.plural_injOn_iff

theorem tailCode_eq (c : Config) (m : Model) (e : Entity) :
    e.tailCode c m = (e.collectionNames m).flatMap (fun name => ["",
      indent 8 ("public " ++ listType name ++ " " ++ c.plural name ++ " \x7b get; set; \x7d")]) ++
      [indent 4 closing, closing] := by
  rw [collectionNames, List.flatMap_map, tailCode]

end Entity

/-- The file of an entity declares its properties under their short names, and under their plurals
one collection for each name of a child. The names of the collections are different exactly if no
child has a plural declared for it that is the plural of another child, and no property takes one of
them exactly if none has the plural of a child for its short name. -/
theorem member_names_distinct_iff (c : Config) (t : Schema.Tree) {e : Entity}
    (he : e ∈ (Model.ofSchema c t).1.entities) :
    let m := (Model.ofSchema c t).1
    (e.collectionNames m).Nodup ∧ (∀ name, name ∈ e.collectionNames m ↔ name ∈ e.childNames m) ∧
    (∀ text, c.renderer.entityText c m e = .ok text →
      text = ofLines (e.headCode c ++
        e.properties.flatMap (fun p => annotationCode 8 p.annotations ++
          [indent 8 ("public " ++ p.type.name ++ " " ++ p.shortName ++ " \x7b get; set; \x7d")]) ++
        ((e.collectionNames m).flatMap (fun name => ["",
          indent 8 ("public " ++ listType name ++ " " ++ c.plural name ++
            " \x7b get; set; \x7d")]) ++
        [indent 4 closing, closing]))) ∧
    ((((e.collectionNames m).map c.plural).Nodup ∧
        ∀ p ∈ e.properties, p.shortName ∉ (e.collectionNames m).map c.plural) ↔
      (∀ name ∈ e.childNames m, ∀ plural, c.overrides.plural? name = some plural →
        ∀ other ∈ e.childNames m, c.plural other = plural → other = name) ∧
      ∀ name ∈ e.childNames m, ∀ p ∈ e.properties, p.shortName ≠ c.plural name) := by
  intro m
  have htyped : e.Typed c := Model.typed_ofSchema t e he
  refine ⟨e.nodup_collectionNames m, fun name => Entity.mem_collectionNames, fun text htext => ?_,
    and_congr Entity.nodup_map_plural_iff ?_⟩
  · rw [htyped.eq_ofLines htext, Entity.tailCode_eq]
    rfl
  · simp only [List.mem_map, Entity.mem_collectionNames, not_exists, not_and]
    constructor
    · intro h name hname p hp hsame
      exact h p hp name hname hsame.symm
    · intro h p hp name hname hsame
      exact h name hname p hp hsame.symm

/-- Two foreign keys from orders to addresses give one collection, and no property has its name. -/
theorem member_names_distinct_addresses :
    Entity.address ∈ (Model.ofSchema Config.initial .addresses).1.entities ∧
    Entity.address.childNames .addresses = ["Order", "Order"] ∧
    Entity.address.collectionNames .addresses = ["Order"] ∧
    (((Entity.address.collectionNames .addresses).map Config.initial.plural).Nodup ∧
      ∀ p ∈ Entity.address.properties,
        p.shortName ∉ (Entity.address.collectionNames .addresses).map Config.initial.plural) := by
  have hmem : Entity.address ∈ (Model.ofSchema Config.initial .addresses).1.entities := by
    rw [Model.ofSchema_addresses]
    decide +kernel
  obtain ⟨-, -, -, hiff⟩ := member_names_distinct_iff Config.initial .addresses hmem
  rw [Model.ofSchema_addresses] at hiff
  refine ⟨hmem, by decide +kernel, by decide +kernel,
    hiff.mpr ⟨fun name _ plural hplural => ?_, ?_⟩⟩
  · cases hplural
  · decide +kernel

/-- Customers with a column for the count of their orders, and orders that refer to them. -/
def Schema.Tree.customers : Schema.Tree := .ofXml (.schema [
  .table "[dbo].[Customer]"
    [.column "[dbo].[Customer].[Id]" "[int]", .column "[dbo].[Customer].[Orders]" "[int]"],
  .table "[dbo].[Order]" [.column "[dbo].[Order].[Customer]" "[int]"],
  .foreignKey "[dbo].[FK_Customer]" "[dbo].[Order]" "[dbo].[Order].[Customer]" "[dbo].[Customer]"
    "[dbo].[Customer].[Id]"])

theorem Schema.Tree.tables_customers : customers.tables = [
    ⟨"[dbo].[Customer]", [⟨"[dbo].[Customer].[Id]", "[int]", false, false⟩,
      ⟨"[dbo].[Customer].[Orders]", "[int]", false, false⟩]⟩,
    ⟨"[dbo].[Order]", [⟨"[dbo].[Order].[Customer]", "[int]", false, false⟩]⟩] := by
  decide +kernel

theorem Schema.Tree.keys_customers : customers.keys = [
    ⟨.foreignKey, "[dbo].[FK_Customer]", "[dbo].[Order]", ["[dbo].[Order].[Customer]"],
      some "[dbo].[Customer]", ["[dbo].[Customer].[Id]"], false⟩] := by
  decide +kernel

/-- The entity of customers, with a link to the foreign key that leads to it. -/
def Entity.customer : Entity where
  table := "[dbo].[Customer]"
  name := "Customer"
  properties := [.number "[dbo].[Customer].[Id]" none, .number "[dbo].[Customer].[Orders]" none]
  annotations := []
  access := "public"
  includeForeignKey := true
  foreigns := [0]

/-- The columns of each table have different names, and the file of customers declares `Orders`
twice: for the column, and for the rows of orders. -/
theorem member_declared_twice_customers :
    Config.ofText "" = .ok Config.initial ∧
    (∀ table ∈ Schema.Tree.customers.tables, (table.columns.map (·.name)).Nodup) ∧
    ∃ m, (Model.ofSchema Config.initial .customers).1 = m ∧ Entity.customer ∈ m.entities ∧
      "Orders" ∈ Entity.customer.properties.map (·.shortName) ∧
      "Orders" ∈ (Entity.customer.collections m).map (fun a => Config.initial.plural a.entity) ∧
      ∃ text, Config.initial.renderer.entityText Config.initial m Entity.customer = .ok text ∧
        HasLine text "        public int Orders \x7b get; set; \x7d" ∧
        HasLine text "        public IList<Order> Orders \x7b get; set; \x7d" := by
  have hcolumns : ∀ table ∈ Schema.Tree.customers.tables,
      (table.columns.map (·.name)).Nodup := by
    rw [Schema.Tree.tables_customers]
    decide
  have hmem : Entity.customer ∈ (Model.ofSchema Config.initial .customers).1.entities := by
    rw [Model.ofSchema_fst, Schema.Tree.tables_customers, Schema.Tree.keys_customers]
    decide +kernel
  have hchildren : (Entity.customer.collections
      (Model.ofSchema Config.initial .customers).1).map (·.entity) = ["Order"] := by
    rw [Model.ofSchema_fst, Schema.Tree.tables_customers, Schema.Tree.keys_customers]
    decide +kernel
  obtain ⟨a, ha, hentity⟩ : ∃ a ∈ Entity.customer.collections
      (Model.ofSchema Config.initial .customers).1, a.entity = "Order" :=
    List.mem_map.mp (hchildren ▸ List.mem_singleton_self "Order")
  have htyped : Entity.customer.Typed Config.initial := Model.typed_ofSchema _ _ hmem
  have htext := htyped.entityText_eq (Model.ofSchema Config.initial .customers).1
  have hknown : Entity.customer.properties.find? (·.type.kind == .unknown) = none := by
    decide +kernel
  rw [hknown] at htext
  have hproperty := htyped.hasLine_property htext
    (p := .number "[dbo].[Customer].[Orders]" none) (by decide +kernel)
  have hcollection := htyped.hasLine_collection htext ha
  have hshort : SqlName.short "[dbo].[Customer].[Orders]" = "Orders" := by decide +kernel
  simp only [Property.shortName, Property.number, hshort] at hproperty
  rw [hentity] at hcollection
  refine ⟨Config.ofText_empty, hcolumns, _, rfl, hmem, by decide +kernel,
    List.mem_map.mpr ⟨a, ha, ?_⟩, _, htext, hproperty, hcollection⟩
  rw [hentity]
  decide +kernel

end DataLayer
