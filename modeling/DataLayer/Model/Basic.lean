import DataLayer.Config.Basic
import DataLayer.Schema.Declaration

/-!
The model of a run: an entity for every table, an accessor for every key, and the routines.
Accessors have numbers, by which entities and other accessors refer to them.
-/

namespace DataLayer

open Schema (KeyKind RoutineKind Routine)

/-- A property of an entity, or a parameter of an accessor. -/
structure Property where
  name : String
  sqlType : String
  type : PropertyType
  nullable : Bool
  identity : Bool
  /-- The column that a parameter of a foreign key refers to. -/
  foreignName : Option String
  annotations : List String
  deriving DecidableEq, Repr

def Property.shortName (p : Property) : String := SqlName.short p.name

/-- The record type that is generated for a table. -/
structure Entity where
  table : String
  name : String
  properties : List Property
  annotations : List String
  access : String
  includeForeignKey : Bool
  /-- The accessors of foreign keys that refer to the table, by number. -/
  foreigns : List Nat
  deriving DecidableEq, Repr

namespace Entity

def property? (e : Entity) (name : String) : Option Property :=
  e.properties.find? (·.name == name)

/-- The properties that are written; identities are not. -/
def columns (e : Entity) : List Property := e.properties.filter (!·.identity)

def identityColumns (e : Entity) : List Property := e.properties.filter (·.identity)

end Entity

/-- The operations on the rows of an entity by the columns of a key. -/
structure Accessor where
  kind : KeyKind
  key : String
  table : String
  entity : String
  params : List Property
  columns : List Property
  identityColumns : List Property
  unique : Bool
  asyncs : AsyncPolicy
  /-- Accessors whose rows are read together with a row of this one, by number. -/
  foreigns : List Nat
  deriving DecidableEq, Repr

namespace Accessor

def foreignNames (a : Accessor) : List (Option String) := a.params.map (·.foreignName)

/-- Whether the parameters refer to these columns, each to the one at its position. -/
def references (a : Accessor) (columns : List String) : Bool :=
  a.foreignNames == columns.map some

end Accessor

structure Model where
  entities : List Entity
  accessors : List Accessor
  routines : List Routine
  deriving DecidableEq, Repr

namespace Model

def empty : Model := ⟨[], [], []⟩

/-- The first entity of a table. -/
def entity? (m : Model) (table : String) : Option Entity := m.entities.find? (·.table == table)

def accessor? (m : Model) (number : Nat) : Option Accessor := m.accessors[number]?

/-- The accessors with these numbers; numbers that none has are passed over. -/
def accessorsAt (m : Model) (numbers : List Nat) : List Accessor := numbers.filterMap m.accessor?

/-- Adds an accessor. Its number is the count of those before it. -/
def push (m : Model) (a : Accessor) : Model := { m with accessors := m.accessors ++ [a] }

/-- Lets the first entity of a table refer to more accessors. -/
def linkFirst (table : String) (numbers : List Nat) : List Entity → List Entity
  | [] => []
  | e :: es =>
    if e.table == table then { e with foreigns := e.foreigns ++ numbers } :: es
    else e :: linkFirst table numbers es

def link (m : Model) (table : String) (numbers : List Nat) : Model :=
  { m with entities := linkFirst table numbers m.entities }

/-- Accessors whose rows are saved without a value to read back. -/
def nonQueryAccessors (m : Model) : List Accessor :=
  m.accessors.filter fun a => a.unique && a.identityColumns.isEmpty

/-- Accessors whose rows get their identity when they are saved. -/
def scalarAccessors (m : Model) : List Accessor := m.accessors.filter (!·.identityColumns.isEmpty)

/-- Accessors that find at most one row. -/
def uniqueAccessors (m : Model) : List Accessor := m.accessors.filter (·.unique)

def multipleAccessors (m : Model) : List Accessor := m.accessors.filter (!·.unique)

def routinesOf (m : Model) (kind : RoutineKind) : List Routine :=
  m.routines.filter (·.kind == kind)

end Model

/-- What a resolution passes over without failing. -/
inductive Warning where
  | unusedOverride (key : String)
  | missingColumn (kind : KeyKind) (key column : String)
  | missingForeignTable (key table : String)
  deriving DecidableEq, Repr

def Warning.message : Warning → String
  | unusedOverride key => "column override '" ++ key ++ "' matches no column"
  | missingColumn kind key column =>
    kind.label ++ " " ++ key ++ " uses column " ++ column ++ ", which is not generated"
  | missingForeignTable key table =>
    "foreign key " ++ key ++ " references " ++ table ++ ", which is not generated"

end DataLayer
