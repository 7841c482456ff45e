import DataLayer.Model.Resolve
import DataLayer.Proofs.Config.Checked
import DataLayer.Proofs.Model.Links

/-!
The accessors of a resolved model and the entities that own them. An accessor has the properties of
its entity for its columns and parameters, and it refers to foreign keys that its entity refers to
as well.
-/

namespace DataLayer

open Schema (KeyElement)

/-- What ties an accessor to the entity of its table. -/
structure Accessor.OwnedBy (m : Model) (e : Entity) (a : Accessor) : Prop where
  entity? : m.entity? a.table = some e
  name : a.entity = e.name
  columns : a.columns = e.columns
  identityColumns : a.identityColumns = e.identityColumns
  params : ∀ q ∈ a.params, ∃ p ∈ e.properties, p.name = q.name
  foreigns : ∀ id ∈ a.foreigns, a.unique = true ∧ id ∈ e.foreigns ∧
    ∃ f, m.accessors[id]? = some f ∧ f.RefersTo a

namespace Schema.KeyElement.IsAccessor

variable {c : Config} {e : Entity} {d : KeyElement} {a : Accessor}

/-- Every parameter stands for a property of the entity, which has its name. -/
theorem exists_property (h : d.IsAccessor c e a) {q : Property} (hq : q ∈ a.params) :
    ∃ p ∈ e.properties, p.name = q.name := by
  obtain ⟨i, hi, rfl⟩ := List.getElem_of_mem hq
  have hlength : i < d.columns.length := h.length ▸ hi
  obtain ⟨p, hp, hparam⟩ := h.params i _ (List.getElem?_eq_getElem hlength)
  rw [List.getElem?_eq_getElem hi] at hparam
  refine ⟨p, List.mem_of_find?_eq_some hp, ?_⟩
  rw [Option.some.inj hparam]

/-- A primary key finds a single row. -/
theorem unique_of_primaryKey (h : d.IsAccessor c e a) (hkind : a.kind = .primaryKey) :
    a.unique = true := by
  rw [h.unique, KeyElement.isUnique, ← h.kind, hkind]

end Schema.KeyElement.IsAccessor

namespace Model

/-- Routines stand beside the model that tables and keys give. -/
theorem ofSchema_fst (c : Config) (t : Schema.Tree) :
    (ofSchema c t).1 = { (addKeys c t.keys ⟨(entitiesOf c t.tables).1, [], []⟩).1 with
      routines := t.routines } := rfl

/-- A link of an accessor is the one that a search among those of its entity finds. -/
theorem Links.exists_refersTo {m : Model} (h : m.Links) {a : Accessor} (ha : a ∈ m.accessors)
    {e : Entity} (he : m.entity? a.table = some e) {id : Nat} (hid : id ∈ a.foreigns) :
    a.kind = .primaryKey ∧ id ∈ e.foreigns ∧ ∃ f, m.accessors[id]? = some f ∧ f.RefersTo a := by
  have hkind : a.kind = .primaryKey := by
    by_contra hother
    rw [h.accessor a ha, if_neg hother] at hid
    cases hid
  rcases h.primary ha hkind he with ⟨hnone, -⟩ | ⟨before, found, after, f, happend, hf, hrefers,
    hfound, -⟩
  · rw [hnone] at hid
    cases hid
  · rw [hfound, List.mem_singleton] at hid
    subst hid
    exact ⟨hkind, by simp [happend], f, hf, hrefers⟩

theorem exists_ownedBy_addKeys (c : Config) (t : Schema.Tree) {es : List Entity}
    (hes : ∀ e ∈ es, e.foreigns = []) {a : Accessor}
    (ha : a ∈ (addKeys c t.keys ⟨es, [], []⟩).1.accessors) :
    ∃ e, a.OwnedBy (addKeys c t.keys ⟨es, [], []⟩).1 e := by
  obtain ⟨d, -, old, hold, hda⟩ := exists_of_forall₂_mem (KeyElement.forall₂_accessors c es t) ha
  have hfind : es.find? (·.table == a.table) = some old := by
    unfold KeyElement.owner? at hold
    rwa [hda.table] at hold
  -- The entity has got links since the accessor was made from it, and nothing else.
  have hentity := (Resolves.addKeys c es t.keys).entity a.table
  rw [hfind, Option.map_some] at hentity
  refine ⟨_, hentity, hda.entity, hda.columns, hda.identityColumns,
    fun q hq => hda.exists_property hq, fun id hid => ?_⟩
  obtain ⟨hkind, hmem, hrefers⟩ := (links_addKeys c t hes).exists_refersTo ha hentity hid
  exact ⟨hda.unique_of_primaryKey hkind, hmem, hrefers⟩

/-- Every accessor of a resolved model has an entity that owns it. -/
theorem exists_ownedBy (c : Config) (t : Schema.Tree) {a : Accessor}
    (ha : a ∈ (ofSchema c t).1.accessors) :
    ∃ e, e ∈ (ofSchema c t).1.entities ∧ a.OwnedBy (ofSchema c t).1 e := by
  rw [ofSchema_fst] at ha ⊢
  obtain ⟨e, he⟩ := exists_ownedBy_addKeys c t (foreigns_entitiesFrom c [] _) ha
  exact ⟨e, List.mem_of_find?_eq_some he.entity?, he.entity?, he.name, he.columns,
    he.identityColumns, he.params, he.foreigns⟩

end Model

/-! A document with keys. -/

namespace Xml.Tree

/-- A primary key over one column. -/
def primaryKey (name table column : String) : Xml.Tree :=
  .element "Element" [⟨"Type", "SqlPrimaryKeyConstraint"⟩, ⟨"Name", name⟩] [
    reference "DefiningTable" table,
    .element "Relationship" [⟨"Name", "ColumnSpecifications"⟩] [.element "Entry" []
      [.element "Element" [⟨"Type", "SqlIndexedColumnSpecification"⟩] [reference "Column" column]]]]

/-- A foreign key from one column to another. -/
def foreignKey (name table column foreignTable foreignColumn : String) : Xml.Tree :=
  .element "Element" [⟨"Type", "SqlForeignKeyConstraint"⟩, ⟨"Name", name⟩] [
    reference "DefiningTable" table, reference "Columns" column,
    reference "ForeignTable" foreignTable, reference "ForeignColumns" foreignColumn]

end Xml.Tree

namespace Schema.Tree

/-- Addresses, to which two foreign keys lead from orders. The second of them refers to the primary
key. -/
def addresses : Schema.Tree := .ofXml (.schema [
  .table "[dbo].[Address]"
    [.column "[dbo].[Address].[Id]" "[int]", .column "[dbo].[Address].[Code]" "[int]"],
  .table "[dbo].[Order]"
    [.column "[dbo].[Order].[Bill]" "[int]", .column "[dbo].[Order].[Ship]" "[int]"],
  .foreignKey "[dbo].[FK_Bill]" "[dbo].[Order]" "[dbo].[Order].[Bill]" "[dbo].[Address]"
    "[dbo].[Address].[Code]",
  .foreignKey "[dbo].[FK_Ship]" "[dbo].[Order]" "[dbo].[Order].[Ship]" "[dbo].[Address]"
    "[dbo].[Address].[Id]",
  .primaryKey "[dbo].[PK_Address]" "[dbo].[Address]" "[dbo].[Address].[Id]"])

theorem tables_addresses : addresses.tables = [
    ⟨"[dbo].[Address]", [⟨"[dbo].[Address].[Id]", "[int]", false, false⟩,
      ⟨"[dbo].[Address].[Code]", "[int]", false, false⟩]⟩,
    ⟨"[dbo].[Order]", [⟨"[dbo].[Order].[Bill]", "[int]", false, false⟩,
      ⟨"[dbo].[Order].[Ship]", "[int]", false, false⟩]⟩] := by
  decide +kernel

theorem keys_addresses : addresses.keys = [
    ⟨.foreignKey, "[dbo].[FK_Bill]", "[dbo].[Order]", ["[dbo].[Order].[Bill]"],
      some "[dbo].[Address]", ["[dbo].[Address].[Code]"], false⟩,
    ⟨.foreignKey, "[dbo].[FK_Ship]", "[dbo].[Order]", ["[dbo].[Order].[Ship]"],
      some "[dbo].[Address]", ["[dbo].[Address].[Id]"], false⟩,
    ⟨.primaryKey, "[dbo].[PK_Address]", "[dbo].[Address]", ["[dbo].[Address].[Id]"], none, [],
      true⟩] := by
  decide +kernel

theorem routines_addresses : addresses.routines = [] := by
  decide +kernel

end Schema.Tree

/-- A column of numbers, which may refer to another one. -/
def Property.number (name : String) (foreignName : Option String) : Property :=
  ⟨name, "[int]", ⟨.integer, "int"⟩, false, false, foreignName, []⟩

/-- The entity of addresses, with links to the foreign keys that lead to it. -/
def Entity.address : Entity where
  table := "[dbo].[Address]"
  name := "Address"
  properties := [.number "[dbo].[Address].[Id]" none, .number "[dbo].[Address].[Code]" none]
  annotations := []
  access := "public"
  includeForeignKey := true
  foreigns := [0, 1]

/-- An accessor of orders, by a foreign key over one column. -/
def Accessor.orders (key column foreignColumn : String) : Accessor where
  kind := .foreignKey
  key := key
  table := "[dbo].[Order]"
  entity := "Order"
  params := [.number column (some foreignColumn)]
  columns := [.number "[dbo].[Order].[Bill]" none, .number "[dbo].[Order].[Ship]" none]
  identityColumns := []
  unique := false
  asyncs := ⟨false, false, false⟩
  foreigns := []

/-- The accessor of addresses, by their primary key. -/
def Accessor.address : Accessor where
  kind := .primaryKey
  key := "[dbo].[PK_Address]"
  table := "[dbo].[Address]"
  entity := "Address"
  params := [.number "[dbo].[Address].[Id]" none]
  columns := [.number "[dbo].[Address].[Id]" none, .number "[dbo].[Address].[Code]" none]
  identityColumns := []
  unique := true
  asyncs := ⟨false, false, false⟩
  foreigns := [1]

namespace Model

/-- The model of addresses and orders. -/
def addresses : Model where
  entities := [
    .address,
    ⟨"[dbo].[Order]", "Order",
      [.number "[dbo].[Order].[Bill]" none, .number "[dbo].[Order].[Ship]" none], [], "public",
      true, []⟩]
  accessors := [
    .orders "[dbo].[FK_Bill]" "[dbo].[Order].[Bill]" "[dbo].[Address].[Code]",
    .orders "[dbo].[FK_Ship]" "[dbo].[Order].[Ship]" "[dbo].[Address].[Id]",
    .address]
  routines := []

/-- The primary key is linked to the foreign key that refers to it, which is not the first. -/
theorem ofSchema_addresses : (ofSchema Config.initial .addresses).1 = addresses := by
  rw [ofSchema_fst, Schema.Tree.tables_addresses, Schema.Tree.keys_addresses,
    Schema.Tree.routines_addresses]
  decide +kernel

end Model

end DataLayer
