import DataLayer.Model.Basic

/-!
Entities from tables. A column becomes a property by its own declaration and the configuration
alone. Overrides of columns that a table does not have add properties to it, and overrides that
are used nowhere give warnings.
-/

namespace DataLayer.Model

open Schema (Column Table)

/-- An override by key. -/
abbrev KeyedOverride := String × ColumnOverride

/-- The override of a column: the one with its qualified name, else the first one that is declared
for its unqualified name. -/
def columnOverride? (overrides : List KeyedOverride) (column : String) : Option KeyedOverride :=
  overrides.find? (·.1 == column) <|> overrides.find? fun o =>
    (SqlName.parts o.1).length == 1 && SqlName.short o.1 == SqlName.short column

/-- Replaces what an override sets. -/
def override (o : ColumnOverride) (p : Property) : Property :=
  { p with
    sqlType := o.sqlType.getD p.sqlType
    nullable := o.nullable.getD p.nullable
    annotations := o.annotations.getD p.annotations }

/-- A property of a declared column, before its type is known. -/
def declared (column : Column) : Property :=
  ⟨column.name, column.sqlType, .unmapped, column.nullable, column.identity, none, []⟩

/-- A property that only an override declares. -/
def undeclared (name : String) : Property := ⟨name, "", .unmapped, true, false, none, []⟩

/-- Gives a property its type. -/
def typed (c : Config) (p : Property) : Property :=
  { p with type := SqlType.resolve c.overrides.enums p.sqlType p.nullable (some p.name) }

/-- A column with the override that applies to it. -/
def overridden (c : Config) (column : Column) : Property :=
  match columnOverride? c.overrides.columns column.name with
  | none => declared column
  | some (_, o) => override o (declared column)

/-- The property of a column. Versions of rows and ignored columns have none. -/
def columnProperty? (c : Config) (column : Column) : Option Property :=
  let p := overridden c column
  if SqlType.isRowVersion p.sqlType || c.overrides.isIgnored p.name then none
  else some (typed c p)

/-- The keys of the overrides that apply to columns of a table. -/
def appliedKeys (c : Config) (table : Table) : List String :=
  table.columns.filterMap fun column =>
    (columnOverride? c.overrides.columns column.name).map (·.1)

/-- The overrides that are not used so far and name a column of the table. -/
def additions (c : Config) (table : Table) (used : List String) : List KeyedOverride :=
  c.overrides.columns.filter fun o =>
    !used.contains o.1 && o.1.startsWith (table.name ++ ".")

/-- The property that an override adds to a table unless it is ignored. -/
def additionProperty? (c : Config) (o : KeyedOverride) : Option Property :=
  if c.overrides.isIgnored o.1 then none else some (typed c (override o.2 (undeclared o.1)))

/-- An entity with what the configuration says about its table. -/
def entityOf (c : Config) (table : String) (properties : List Property) : Entity :=
  let o := c.overrides.entity? table
  { table := table
    name := (o.bind (·.name)).getD (SqlName.short table)
    properties := properties
    annotations := (o.bind (·.annotations)).getD []
    access := (o.bind (·.access)).getD "public"
    includeForeignKey := (o.bind (·.includeForeignKey)).getD true
    foreigns := [] }

/-- The entities of tables, and the keys of the overrides that are used then. Properties that
overrides add stand behind those of columns. -/
def entitiesFrom (c : Config) (used : List String) : List Table → List Entity × List String
  | [] => ([], used)
  | table :: rest =>
    let used := used ++ appliedKeys c table
    let added := additions c table used
    let properties := table.columns.filterMap (columnProperty? c) ++
      added.filterMap (additionProperty? c)
    let (entities, used) := entitiesFrom c (used ++ added.map (·.1)) rest
    (entityOf c table.name properties :: entities, used)

/-- An entity for every table that is not ignored, and warnings about overrides without use. -/
def entitiesOf (c : Config) (tables : List Table) : List Entity × List Warning :=
  let (entities, used) := entitiesFrom c [] (tables.filter fun t => !c.overrides.isIgnored t.name)
  (entities, ((c.overrides.columns.map (·.1)).filter (!used.contains ·)).map .unusedOverride)

end DataLayer.Model
