import DataLayer.Schema.Query

/-!
The declarations of a schema document: tables with their columns, the keys and indexes over them,
and stored routines. What lacks a name, or a table that it belongs to, declares nothing.
-/

namespace DataLayer.Schema

structure Column where
  name : String
  sqlType : String
  nullable : Bool
  identity : Bool
  deriving DecidableEq, Repr

structure Table where
  name : String
  columns : List Column
  deriving DecidableEq, Repr

inductive KeyKind where
  | foreignKey | primaryKey | index
  deriving DecidableEq, Repr

def KeyKind.label : KeyKind → String
  | foreignKey => "foreign key"
  | primaryKey => "primary key"
  | index => "index"

/-- A key or index over columns of a table. The columns that a foreign key refers to stand in the
order of its own. -/
structure Key where
  kind : KeyKind
  name : String
  table : String
  columns : List String
  foreignTable : Option String
  foreignColumns : List String
  unique : Bool
  deriving DecidableEq, Repr

inductive RoutineKind where
  | procedure | scalarFunction | inlineFunction | tableFunction
  deriving DecidableEq, Repr

namespace RoutineKind

def all : List RoutineKind := [procedure, scalarFunction, inlineFunction, tableFunction]

def label : RoutineKind → String
  | procedure => "stored procedure"
  | scalarFunction => "scalar function"
  | inlineFunction => "inline table function"
  | tableFunction => "table function"

def objectKind : RoutineKind → Kind
  | procedure => .procedure
  | scalarFunction => .scalarFunction
  | inlineFunction => .inlineFunction
  | tableFunction => .tableFunction

end RoutineKind

structure Parameter where
  name : String
  sqlType : String
  deriving DecidableEq, Repr

/-- The signature of a stored routine. -/
structure Routine where
  kind : RoutineKind
  name : String
  params : List Parameter
  deriving DecidableEq, Repr

/-- Columns are optional and no identity unless they say so. -/
def Column.ofElement? (e : Element) : Option Column :=
  e.objectName?.map fun name =>
    ⟨name, (e.typeReference? "TypeSpecifier").getD "", (e.flag? "IsNullable").getD true,
      (e.flag? "IsIdentity").getD false⟩

def Table.ofElement? (e : Element) : Option Table :=
  e.objectName?.map fun name =>
    ⟨name, (e.related "Columns" .simpleColumn).filterMap Column.ofElement?⟩

namespace Key

def ofForeignKey? (e : Element) : Option Key :=
  e.objectName?.bind fun name =>
  (e.reference? "DefiningTable").map fun table =>
    ⟨.foreignKey, name, table, e.references "Columns", e.reference? "ForeignTable",
      e.references "ForeignColumns", false⟩

def ofPrimaryKey? (e : Element) : Option Key :=
  e.objectName?.bind fun name =>
  (e.reference? "DefiningTable").map fun table =>
    ⟨.primaryKey, name, table, e.keyColumns, none, [], true⟩

def ofIndex? (e : Element) : Option Key :=
  e.objectName?.bind fun name =>
  (e.reference? "IndexedObject").map fun table =>
    ⟨.index, name, table, e.keyColumns, none, [], (e.flag? "IsUnique").getD false⟩

end Key

def Parameter.ofElement? (e : Element) : Option Parameter :=
  e.objectName?.map fun name => ⟨name, (e.typeReference? "Type").getD ""⟩

def Routine.ofElement? (kind : RoutineKind) (e : Element) : Option Routine :=
  e.objectName?.map fun name =>
    ⟨kind, name, (e.related "Parameters" .parameter).filterMap Parameter.ofElement?⟩

namespace Tree

def tables (t : Tree) : List Table := (t.objects .table).filterMap Table.ofElement?

/-- Foreign keys, then primary keys, then indexes. -/
def keys (t : Tree) : List Key :=
  (t.objects .foreignKey).filterMap Key.ofForeignKey? ++
    (t.objects .primaryKey).filterMap Key.ofPrimaryKey? ++
    (t.objects .index).filterMap Key.ofIndex?

/-- The routines kind by kind. -/
def routines (t : Tree) : List Routine :=
  RoutineKind.all.flatMap fun kind =>
    (t.objects kind.objectKind).filterMap (Routine.ofElement? kind)

end Tree

end DataLayer.Schema
