import DataLayer.Model.Basic

/-!
Accessors from keys. A key is resolved against the entity of its table, and becomes an accessor if
that entity has all of its columns. Foreign keys come first, so that a primary key can refer to
the foreign keys that refer to it.
-/

namespace DataLayer

open Schema (Key)

/-- Whether keys of this kind give accessors. -/
def Features.admits (f : Features) (k : Key) : Bool :=
  match k.kind with
  | .foreignKey => f.foreignKey
  | .primaryKey => f.primaryKey
  | .index => if k.unique then f.uniqueIndex else f.nonUniqueIndex

/-- Whether a configuration keeps a key. -/
def Config.keeps (c : Config) (k : Key) : Bool :=
  c.features.admits k && !c.overrides.isIgnored k.table

namespace Accessor

/-- The properties of an entity for the columns of a key, each with the column it refers to. The
failure is the first column that the entity does not have. -/
def paramsOf (e : Entity) : List String → List String → Except String (List Property)
  | [], _ => .ok []
  | column :: columns, foreignColumns =>
    match e.property? column with
    | none => .error column
    | some p =>
      (paramsOf e columns foreignColumns.tail).map
        ({ p with foreignName := foreignColumns.head? } :: ·)

/-- The accessor of a key of an entity. -/
def ofKey (c : Config) (e : Entity) (k : Key) : Except String Accessor :=
  (paramsOf e k.columns k.foreignColumns).map fun params =>
    { kind := k.kind
      key := k.name
      table := e.table
      entity := e.name
      params := params
      columns := e.columns
      identityColumns := e.identityColumns
      unique := k.unique
      asyncs := (c.overrides.async? k.name).getD c.asyncDefaults
      foreigns := [] }

end Accessor

namespace Model

/-- A model with the warnings of its resolution so far. -/
abbrev Resolution := Model × List Warning

/-- The first foreign key of an entity that refers to exactly these columns. -/
def referring? (m : Model) (e : Entity) (columns : List String) : Option Nat :=
  e.foreigns.find? fun number => (m.accessor? number).any (·.references columns)

/-- Lets the entity that a foreign key refers to know the accessor of the key. -/
def linkForeign (k : Key) (number : Nat) (r : Resolution) : Resolution :=
  match k.foreignTable with
  | none => r
  | some table =>
    match r.1.entity? table with
    | none => (r.1, r.2 ++ [.missingForeignTable k.name table])
    | some e => if e.includeForeignKey then (r.1.link table [number], r.2) else r

/-- Adds the accessor of a key. -/
def addAccessor (k : Key) (e : Entity) (a : Accessor) (r : Resolution) : Resolution :=
  match k.kind with
  | .foreignKey => linkForeign k r.1.accessors.length (r.1.push a, r.2)
  | .primaryKey => (r.1.push { a with foreigns := (r.1.referring? e k.columns).toList }, r.2)
  | .index => (r.1.push a, r.2)

/-- Resolves a key. A key of something that has no entity is passed over. -/
def addKey (c : Config) (r : Resolution) (k : Key) : Resolution :=
  match r.1.entity? k.table with
  | none => r
  | some e =>
    match Accessor.ofKey c e k with
    | .error column => (r.1, r.2 ++ [.missingColumn k.kind k.name column])
    | .ok a => addAccessor k e a r

/-- Adds the accessors of the keys that the configuration keeps. -/
def addKeys (c : Config) (keys : List Key) (m : Model) : Resolution :=
  (keys.filter c.keeps).foldl (addKey c) (m, [])

end Model

end DataLayer
