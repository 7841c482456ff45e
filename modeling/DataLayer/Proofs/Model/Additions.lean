import DataLayer.Proofs.Config.Checked
import DataLayer.Proofs.Model.Entities

/-!
The properties that overrides add. An override is used up by the tables that have a column it
applies to, and by those that its key names a column of; it adds a property to the first table of
the second sort unless it is used up before. So the entities follow from the tables alone, without
the record of what is in use.

Columns never give versions of rows. Overrides may add them.
-/

namespace DataLayer

namespace Model

open Schema (Table)

variable {c : Config} {before tables : List Table} {used : List String}

/-- Whether an override applies to a column of a table or has a key that names one. -/
def usesUp (c : Config) (key : String) (table : Table) : Bool :=
  (appliedKeys c table).contains key || key.startsWith (table.name ++ ".")

theorem usesUp_iff {key : String} {table : Table} : usesUp c key table = true ↔
    key ∈ appliedKeys c table ∨ key.startsWith (table.name ++ ".") = true := by
  rw [usesUp, Bool.or_eq_true_iff, List.contains_iff_mem]

/-- The overrides that add properties to a table, where other tables stand before it. -/
def addedTo (c : Config) (before : List Table) (table : Table) : List KeyedOverride :=
  c.overrides.columns.filter fun o =>
    o.1.startsWith (table.name ++ ".") && !(appliedKeys c table).contains o.1 &&
      !before.any (usesUp c o.1)

/-- The properties of the entity of a table. -/
def propertiesOf (c : Config) (before : List Table) (table : Table) : List Property :=
  table.columns.filterMap (columnProperty? c) ++
    (addedTo c before table).filterMap (additionProperty? c)

/-- The keys in use are those that tables have used up. -/
def Accounts (c : Config) (tables : List Table) (used : List String) : Prop :=
  ∀ o ∈ c.overrides.columns, used.contains o.1 = tables.any (usesUp c o.1)

theorem accounts_nil (c : Config) : Accounts c [] [] := fun _ _ => rfl

theorem Accounts.additions_eq (h : Accounts c before used) (table : Table) :
    additions c table (used ++ appliedKeys c table) = addedTo c before table := by
  unfold additions addedTo
  refine List.filter_congr fun o ho => ?_
  rw [List.contains_append, h o ho]
  cases before.any (usesUp c o.1) <;> cases (appliedKeys c table).contains o.1 <;> simp

theorem Accounts.step (h : Accounts c before used) (table : Table) :
    Accounts c (before ++ [table])
      (used ++ appliedKeys c table ++ (addedTo c before table).map (·.1)) := by
  intro o ho
  -- What is added has the prefix of the table, and what has it is added if it is not in use.
  have hadded : ((addedTo c before table).map (·.1)).contains o.1 =
      (o.1.startsWith (table.name ++ ".") && !(appliedKeys c table).contains o.1 &&
        !before.any (usesUp c o.1)) := by
    rw [Bool.eq_iff_iff, List.contains_iff_mem, List.mem_map]
    constructor
    · rintro ⟨o', ho', hkey⟩
      rw [← hkey]
      exact (List.mem_filter.mp ho').2
    · intro hfree
      exact ⟨o, List.mem_filter.mpr ⟨ho, hfree⟩, rfl⟩
  have hlast : [table].any (usesUp c o.1) =
      ((appliedKeys c table).contains o.1 || o.1.startsWith (table.name ++ ".")) := by
    rw [List.any_cons, List.any_nil, Bool.or_false, usesUp]
  rw [List.contains_append, List.contains_append, h o ho, hadded, List.any_append, hlast]
  cases before.any (usesUp c o.1) <;> cases (appliedKeys c table).contains o.1 <;> simp

/-- What the first table gives, and with which keys in use the others follow. -/
theorem Accounts.entitiesFrom_cons (h : Accounts c before used) (table : Table)
    (rest : List Table) :
    entitiesFrom c used (table :: rest) =
      let r := entitiesFrom c
        (used ++ appliedKeys c table ++ (addedTo c before table).map (·.1)) rest
      (entityOf c table.name (propertiesOf c before table) :: r.1, r.2) := by
  rw [Model.entitiesFrom, propertiesOf]
  dsimp only
  rw [h.additions_eq table]

/-- What the tables give, and what they leave in use. -/
theorem Accounts.entitiesFrom (h : Accounts c before used) (tables : List Table) :
    (entitiesFrom c used tables).1 = (tables.mapIdx fun i table =>
        entityOf c table.name (propertiesOf c (before ++ tables.take i) table)) ∧
      Accounts c (before ++ tables) (entitiesFrom c used tables).2 := by
  induction tables generalizing before used with
  | nil =>
    rw [List.append_nil]
    exact ⟨rfl, h⟩
  | cons table rest ih =>
    obtain ⟨hentities, hused⟩ := ih (h.step table)
    rw [h.entitiesFrom_cons]
    constructor
    · rw [List.mapIdx_cons]
      dsimp only
      rw [hentities]
      simp
    · rw [List.append_cons]
      exact hused

theorem entitiesOf_tables (c : Config) (t : Schema.Tree) :
    entitiesOf c t.tables = ((entitiesFrom c [] (keptTables c t)).1,
      ((c.overrides.columns.map (·.1)).filter
        (!(entitiesFrom c [] (keptTables c t)).2.contains ·)).map .unusedOverride) := rfl

/-- Entities without the record of what is in use. -/
theorem entitiesOf_fst (c : Config) (t : Schema.Tree) :
    (entitiesOf c t.tables).1 = (keptTables c t).mapIdx fun i table =>
      entityOf c table.name (propertiesOf c ((keptTables c t).take i) table) := by
  rw [entitiesOf_tables]
  exact ((accounts_nil c).entitiesFrom (keptTables c t)).1

/-- A warning for every override that no table uses up. -/
theorem entitiesOf_snd (c : Config) (t : Schema.Tree) :
    (entitiesOf c t.tables).2 = ((c.overrides.columns.map (·.1)).filter fun key =>
      !(keptTables c t).any (usesUp c key)).map .unusedOverride := by
  have hused : Accounts c (keptTables c t) (entitiesFrom c [] (keptTables c t)).2 :=
    ((accounts_nil c).entitiesFrom (keptTables c t)).2
  rw [entitiesOf_tables]
  dsimp only
  congr 1
  refine List.filter_congr fun key hkey => ?_
  obtain ⟨o, ho, rfl⟩ := List.mem_map.mp hkey
  rw [hused o ho]

theorem mem_entities_iff {t : Schema.Tree} {e : Entity} :
    e ∈ (entitiesOf c t.tables).1 ↔ ∃ before table after,
      keptTables c t = before ++ table :: after ∧
        e = entityOf c table.name (propertiesOf c before table) := by
  rw [entitiesOf_fst, List.mem_mapIdx]
  constructor
  · rintro ⟨i, hi, rfl⟩
    refine ⟨(keptTables c t).take i, (keptTables c t)[i], (keptTables c t).drop (i + 1), ?_, rfl⟩
    simp
  · rintro ⟨before, table, after, hsplit, rfl⟩
    refine ⟨before.length, by simp [hsplit], ?_⟩
    simp [hsplit]

/-! Versions of rows and ignored names. -/

theorem of_mem_propertiesOf {table : Table} {p : Property} (h : p ∈ propertiesOf c before table) :
    (SqlType.isRowVersion p.sqlType = false ∧ c.overrides.isIgnored p.name = false) ∨
      ∃ o ∈ addedTo c before table, c.overrides.isIgnored o.1 = false ∧ p = addition c o := by
  rcases List.mem_append.mp h with hp | hp
  · obtain ⟨column, -, hcolumn⟩ := List.mem_filterMap.mp hp
    obtain ⟨htype, hname, rfl⟩ := columnProperty?_eq_some.mp hcolumn
    rw [← overridden_name c column] at hname
    exact Or.inl ⟨htype, hname⟩
  · obtain ⟨o, ho, hp⟩ := List.mem_filterMap.mp hp
    exact Or.inr ⟨o, ho, additionProperty?_eq_some.mp hp⟩

/-- No property has an ignored name. None is a version of rows exactly if no override that adds a
property has such a type: columns of these types drop out, and overrides are not looked at. -/
theorem row_versions_only_added (c : Config) (t : Schema.Tree) :
    (∀ e ∈ (entitiesOf c t.tables).1, ∀ p ∈ e.properties,
      c.overrides.isIgnored p.name = false) ∧
    ((∀ e ∈ (entitiesOf c t.tables).1, ∀ p ∈ e.properties,
        SqlType.isRowVersion p.sqlType = false) ↔
      ∀ before table after, keptTables c t = before ++ table :: after →
        ∀ o ∈ addedTo c before table, c.overrides.isIgnored o.1 = false →
          SqlType.isRowVersion (o.2.sqlType.getD "") = false) := by
  constructor
  · intro e he p hp
    obtain ⟨before, table, after, -, rfl⟩ := mem_entities_iff.mp he
    rcases of_mem_propertiesOf hp with ⟨-, hkept⟩ | ⟨o, -, hkept, rfl⟩
    · exact hkept
    · exact hkept
  · constructor
    · intro hfree before table after hsplit o ho hkept
      have hadded : addition c o ∈ propertiesOf c before table :=
        List.mem_append_right _
          (List.mem_filterMap.mpr ⟨o, ho, additionProperty?_eq_some.mpr ⟨hkept, rfl⟩⟩)
      have he := mem_entities_iff.mpr ⟨before, table, after, hsplit, rfl⟩
      rw [← addition_sqlType c o]
      exact hfree _ he _ hadded
    · intro hfree e he p hp
      obtain ⟨before, table, after, hsplit, rfl⟩ := mem_entities_iff.mp he
      rcases of_mem_propertiesOf hp with ⟨htype, -⟩ | ⟨o, ho, hkept, rfl⟩
      · exact htype
      · rw [addition_sqlType]
        exact hfree before table after hsplit o ho hkept

end Model

/-- A configuration that declares a version of rows for a table. -/
def Config.withRowVersion : Config :=
  { Config.initial with overrides := { Config.initial.overrides with
      columns := [("[dbo].[T].[V]", ⟨"[dbo].[T].[V]", some "rowversion", none, none⟩)] } }

/-- The table has no columns, and its entity has a property that is a version of rows. -/
theorem Model.row_version_added :
    Config.ofText "[[column_overrides]]\nname = \"[dbo].[T].[V]\"\ntype = \"rowversion\"\n" =
      .ok Config.withRowVersion ∧
    ∃ e ∈ (entitiesOf Config.withRowVersion
        (Schema.Tree.ofXml (.schema [.table "[dbo].[T]" []])).tables).1,
      ∃ p ∈ e.properties, SqlType.isRowVersion p.sqlType = true := by
  constructor
  · decide +kernel
  · decide +kernel

end DataLayer
