import DataLayer.Proofs.Model.OverrideUse

/-!
The names of properties. An override that adds a property to the entity of a table has no column of
this table for its key: the override of that name would apply to the column, and be in use. So where
the columns of each table have different names, the properties of each entity have, a property is
found by its name, and the name of a column that has dropped out does not return.
-/

namespace DataLayer

open Schema (Column Table)

/-- Where the names are different, every property is the one that its name finds. -/
theorem Entity.property?_name {e : Entity} (hnames : (e.properties.map (·.name)).Nodup)
    {p : Property} (hp : p ∈ e.properties) : e.property? p.name = some p := by
  obtain ⟨q, hq⟩ : ∃ q, e.property? p.name = some q := by
    rw [← Option.isSome_iff_exists, Entity.property?, List.find?_isSome]
    exact ⟨p, hp, beq_self_eq_true p.name⟩
  have hname : q.name = p.name := by simpa using List.find?_some hq
  rw [hq, List.inj_on_of_nodup_map hnames (List.mem_of_find?_eq_some hq) hp hname]

namespace Model

variable {c : Config} {t : Schema.Tree} {before : List Table} {table : Table}

theorem columnProperty?_eq_none {column : Column} :
    columnProperty? c column = none ↔
      SqlType.isRowVersion (overridden c column).sqlType = true ∨
        c.overrides.isIgnored column.name = true := by
  unfold columnProperty?
  dsimp only
  rw [overridden_name]
  split <;> simp_all

theorem name_of_columnProperty? {column : Column} {p : Property}
    (h : columnProperty? c column = some p) : p.name = column.name := by
  obtain ⟨-, -, rfl⟩ := columnProperty?_eq_some.mp h
  exact overridden_name c column

/-- Columns keep their names and their order, and may drop out. -/
theorem map_name_columnProperties_sublist (c : Config) (columns : List Column) :
    ((columns.filterMap (columnProperty? c)).map (·.name)).Sublist (columns.map (·.name)) := by
  induction columns with
  | nil => exact .slnil
  | cons column rest ih =>
    rw [List.filterMap_cons, List.map_cons]
    cases h : columnProperty? c column with
    | none => exact ih.cons _
    | some p =>
      rw [← name_of_columnProperty? h]
      exact ih.cons_cons _

/-- The name of a column that drops out is given to no other column. -/
theorem not_mem_map_name_columnProperties (hcolumns : (table.columns.map (·.name)).Nodup)
    {column : Column} (hcolumn : column ∈ table.columns)
    (hdropped : columnProperty? c column = none) :
    column.name ∉ (table.columns.filterMap (columnProperty? c)).map (·.name) := by
  intro hmem
  obtain ⟨p, hp, hname⟩ := List.mem_map.mp hmem
  obtain ⟨other, hother, hproperty⟩ := List.mem_filterMap.mp hp
  rw [name_of_columnProperty? hproperty] at hname
  obtain rfl := List.inj_on_of_nodup_map hcolumns hother hcolumn hname
  rw [hdropped] at hproperty
  contradiction

/-- What is added to a table has the name of none of its columns, dropped ones included. -/
theorem not_mem_columns_of_mem_addedTo {o : KeyedOverride} (h : o ∈ addedTo c before table) :
    o.1 ∉ table.columns.map (·.name) := by
  intro hmem
  obtain ⟨column, hcolumn, hname⟩ := List.mem_map.mp hmem
  obtain ⟨hdeclared, hfree⟩ := List.mem_filter.mp h
  have happlied : o.1 ∈ appliedKeys c table := by
    rw [← hname]
    exact mem_appliedKeys hcolumn (hname ▸ List.mem_map_of_mem hdeclared)
  simp [happlied] at hfree

theorem mem_addedTo_of_mem_map_name {key : String}
    (h : key ∈ ((addedTo c before table).filterMap (additionProperty? c)).map (·.name)) :
    ∃ o ∈ addedTo c before table, o.1 = key := by
  rw [map_name_additions] at h
  exact List.mem_map.mp (List.mem_of_mem_filter h)

theorem nodup_map_name_propertiesOf (hkeys : (c.overrides.columns.map (·.1)).Nodup)
    (hcolumns : (table.columns.map (·.name)).Nodup) :
    ((propertiesOf c before table).map (·.name)).Nodup := by
  have hfirst := hcolumns.sublist (map_name_columnProperties_sublist c table.columns)
  have hadded : ((addedTo c before table).map (·.1)).Nodup :=
    hkeys.sublist (List.filter_sublist.map _)
  have hlast : (((addedTo c before table).filterMap (additionProperty? c)).map (·.name)).Nodup := by
    rw [map_name_additions]
    exact hadded.filter _
  rw [propertiesOf, List.map_append]
  refine hfirst.append hlast fun name hcolumn hmem => ?_
  obtain ⟨o, ho, rfl⟩ := mem_addedTo_of_mem_map_name hmem
  exact not_mem_columns_of_mem_addedTo ho
    ((map_name_columnProperties_sublist c table.columns).subset hcolumn)

theorem not_mem_map_name_propertiesOf (hcolumns : (table.columns.map (·.name)).Nodup)
    {column : Column} (hcolumn : column ∈ table.columns)
    (hdropped : columnProperty? c column = none) :
    column.name ∉ (propertiesOf c before table).map (·.name) := by
  rw [propertiesOf, List.map_append, List.mem_append, not_or]
  refine ⟨not_mem_map_name_columnProperties hcolumns hcolumn hdropped, fun hmem => ?_⟩
  obtain ⟨o, ho, hname⟩ := mem_addedTo_of_mem_map_name hmem
  exact not_mem_columns_of_mem_addedTo ho (hname ▸ List.mem_map_of_mem hcolumn)

/-! What is added to all tables. -/

/-- The overrides that add properties, for each table that is not ignored. -/
def addedOverrides (c : Config) (t : Schema.Tree) : List (List KeyedOverride) :=
  (keptTables c t).mapIdx fun i table => addedTo c ((keptTables c t).take i) table

/-- What is added to a table is used up for those behind it. -/
theorem not_mem_addedTo_of_mem {tables : List Table} {o o' : KeyedOverride}
    (h : o ∈ addedTo c before table) (htable : table ∈ tables) (hkey : o'.1 = o.1)
    {other : Table} : o' ∉ addedTo c tables other := by
  intro hother
  have hstart : o.1.startsWith (table.name ++ ".") = true := by
    have hfree := (List.mem_filter.mp h).2
    simp only [Bool.and_eq_true] at hfree
    exact hfree.1.1
  have hused : tables.any (usesUp c o.1) = true :=
    List.any_eq_true.mpr ⟨table, htable, usesUp_iff.mpr (.inr hstart)⟩
  have hfree := (List.mem_filter.mp hother).2
  rw [hkey, hused] at hfree
  simp at hfree

/-- No key stands twice among the overrides that add properties. -/
theorem nodup_addedOverrides (hkeys : (c.overrides.columns.map (·.1)).Nodup) (t : Schema.Tree) :
    ((addedOverrides c t).flatten.map (·.1)).Nodup := by
  rw [List.map_flatten, List.nodup_flatten]
  constructor
  · intro keys hmem
    obtain ⟨added, hadded, rfl⟩ := List.mem_map.mp hmem
    obtain ⟨i, -, rfl⟩ := List.mem_mapIdx.mp hadded
    exact hkeys.sublist (List.filter_sublist.map _)
  · rw [List.pairwise_map, List.pairwise_iff_getElem]
    intro i j hi hj hlt key hkey hkey'
    simp only [addedOverrides, List.getElem_mapIdx, List.length_mapIdx] at hi hj hkey hkey'
    obtain ⟨o, ho, rfl⟩ := List.mem_map.mp hkey
    obtain ⟨o', ho', hsame⟩ := List.mem_map.mp hkey'
    have hbefore : (keptTables c t)[i] ∈ (keptTables c t).take j :=
      List.mem_take_iff_getElem.mpr ⟨i, by omega, rfl⟩
    exact not_mem_addedTo_of_mem ho hbefore hsame ho'

theorem entitiesOf_eq_zipWith (c : Config) (t : Schema.Tree) :
    (entitiesOf c t.tables).1 = List.zipWith (fun table added =>
      entityOf c table.name (table.columns.filterMap (columnProperty? c) ++
        added.filterMap (additionProperty? c))) (keptTables c t) (addedOverrides c t) := by
  rw [entitiesOf_fst]
  refine List.ext_getElem (by simp [addedOverrides]) fun i hi hi' => ?_
  simp [addedOverrides, propertiesOf]

/-- The properties of an entity have different names, so each is found by its name, where the columns
of each table have; the keys of overrides are different, as in all configurations that are read. A
column that drops out, for a version of rows or as ignored, leaves no property of its name to the
entity of its table. The properties behind those of columns come of overrides, and no key gives two
of them. -/
theorem property_names_distinct (c : Config) (t : Schema.Tree)
    (hkeys : (c.overrides.columns.map (·.1)).Nodup)
    (hcolumns : ∀ table ∈ t.tables, (table.columns.map (·.name)).Nodup) :
    (∀ e ∈ (entitiesOf c t.tables).1, (e.properties.map (·.name)).Nodup ∧
      ∀ p ∈ e.properties, e.property? p.name = some p) ∧
    List.Forall₂ (fun table e => e.table = table.name ∧
        ∀ column ∈ table.columns, SqlType.isRowVersion (overridden c column).sqlType = true ∨
          c.overrides.isIgnored column.name = true → column.name ∉ e.properties.map (·.name))
      (keptTables c t) (entitiesOf c t.tables).1 ∧
    (entitiesOf c t.tables).1 = List.zipWith (fun table added =>
      entityOf c table.name (table.columns.filterMap (columnProperty? c) ++
        added.filterMap (additionProperty? c))) (keptTables c t) (addedOverrides c t) ∧
    ((addedOverrides c t).flatten.map (·.1)).Nodup := by
  have hkept : ∀ table ∈ keptTables c t, (table.columns.map (·.name)).Nodup := fun table htable =>
    hcolumns table (mem_tables_of_mem_keptTables htable)
  refine ⟨fun e he => ?_, ?_, entitiesOf_eq_zipWith c t, nodup_addedOverrides hkeys t⟩
  · obtain ⟨before, table, after, hsplit, rfl⟩ := mem_entities_iff.mp he
    have htable : table ∈ keptTables c t := by simp [hsplit]
    have hnames : ((propertiesOf c before table).map (·.name)).Nodup :=
      nodup_map_name_propertiesOf hkeys (hkept table htable)
    exact ⟨hnames, fun p hp => Entity.property?_name hnames hp⟩
  · rw [entitiesOf_fst, List.forall₂_iff_get]
    refine ⟨by simp, fun i hi hi' => ?_⟩
    simp only [List.get_eq_getElem, List.getElem_mapIdx]
    refine ⟨rfl, fun column hcolumn hdropped => ?_⟩
    exact not_mem_map_name_propertiesOf (hkept _ (List.getElem_mem hi)) hcolumn
      (columnProperty?_eq_none.mpr hdropped)

end Model

/-- A configuration that adds a property to a table and turns a column of it into a version of
rows. -/
def Config.withDroppedColumn : Config :=
  { Config.initial with overrides := { Config.initial.overrides with
      columns := [
        ("[dbo].[A].[Extra]", ⟨"[dbo].[A].[Extra]", some "int", none, none⟩),
        ("[dbo].[A].[Name]", ⟨"[dbo].[A].[Name]", some "rowversion", none, none⟩)] } }

theorem Config.ofText_withDroppedColumn : ofText
    "[[column_overrides]]\nname = \"[dbo].[A].[Extra]\"\ntype = \"int\"
[[column_overrides]]\nname = \"[dbo].[A].[Name]\"\ntype = \"rowversion\"\n" =
      .ok withDroppedColumn := by
  decide +kernel

/-- The override of the column is in use, and adds no property to the entity that has lost it. -/
theorem Model.dropped_name_does_not_return :
    (Config.withDroppedColumn.overrides.columns.map (·.1)).Nodup ∧
    (∀ table ∈ Schema.Tree.withNames.tables, (table.columns.map (·.name)).Nodup) ∧
    (∀ e ∈ (entitiesOf Config.withDroppedColumn Schema.Tree.withNames.tables).1,
      (e.properties.map (·.name)).Nodup) ∧
    (entitiesOf Config.withDroppedColumn Schema.Tree.withNames.tables).1.map
        (fun e => e.properties.map (·.name)) =
      [["[dbo].[A].[Id]", "[dbo].[A].[Extra]"], ["[dbo].[B].[Name]"]] := by
  have hkeys := Config.nodup_columns_of_ofText Config.ofText_withDroppedColumn
  have hcolumns : ∀ table ∈ Schema.Tree.withNames.tables,
      (table.columns.map (·.name)).Nodup := by
    rw [Schema.Tree.tables_withNames]
    decide
  have hnames := property_names_distinct Config.withDroppedColumn .withNames hkeys hcolumns
  refine ⟨hkeys, hcolumns, fun e he => (hnames.1 e he).1, ?_⟩
  rw [Schema.Tree.tables_withNames]
  decide +kernel

end DataLayer
