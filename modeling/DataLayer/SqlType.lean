import DataLayer.SqlName
import DataLayer.Text.Case

/-!
The types of generated properties: a table from column types of the database to C# types, the
enumerations that replace them for single columns, and the tag under which a value is bound.
-/

namespace DataLayer

open Text

/-- What sort of value a type holds. -/
inductive TypeKind where
  | integer | decimal | boolean | text | binary | date | guid | enumeration | unknown
  deriving DecidableEq, Repr

namespace TypeKind

def label : TypeKind → String
  | integer => "integer"
  | decimal => "decimal"
  | boolean => "boolean"
  | text => "text"
  | binary => "binary"
  | date => "date"
  | guid => "guid"
  | enumeration => "enum"
  | unknown => "unknown"

end TypeKind

/-- A property type; the name is empty when the kind is unknown. -/
structure PropertyType where
  kind : TypeKind
  name : String
  deriving DecidableEq, Repr

namespace PropertyType

def unmapped : PropertyType := ⟨.unknown, ""⟩

def isUnknown (t : PropertyType) : Bool := t.kind == .unknown

end PropertyType

/-- A row of the type table: the type of a required column, and that of an optional column where
it differs. -/
structure TypeRow where
  sql : String
  kind : TypeKind
  name : String
  optional : Option String

def TypeRow.propertyType (r : TypeRow) (nullable : Bool) : PropertyType :=
  ⟨r.kind, if nullable then r.optional.getD r.name else r.name⟩

/-- The enumeration declared for each column, by qualified column name. -/
abbrev EnumTypes := List (String × String)

namespace SqlType

def rows : List TypeRow := [
  ⟨"bigint", .integer, "long", some "long?"⟩,
  ⟨"binary", .binary, "byte[]", none⟩,
  ⟨"bit", .boolean, "bool", some "bool?"⟩,
  ⟨"char", .text, "string", none⟩,
  ⟨"date", .date, "DateTime", some "DateTime?"⟩,
  ⟨"datetime", .date, "DateTime", some "DateTime?"⟩,
  ⟨"datetime2", .date, "DateTime", some "DateTime?"⟩,
  ⟨"datetimeoffset", .date, "DateTimeOffset", some "DateTimeOffset?"⟩,
  ⟨"decimal", .decimal, "decimal", some "decimal?"⟩,
  ⟨"float", .decimal, "decimal", some "decimal?"⟩,
  ⟨"image", .binary, "byte[]", none⟩,
  ⟨"int", .integer, "int", some "int?"⟩,
  ⟨"money", .decimal, "decimal", some "decimal?"⟩,
  ⟨"nchar", .text, "string", none⟩,
  ⟨"ntext", .text, "string", none⟩,
  ⟨"numeric", .decimal, "decimal", some "decimal?"⟩,
  ⟨"nvarchar", .text, "string", none⟩,
  ⟨"real", .decimal, "float", some "float?"⟩,
  ⟨"rowversion", .binary, "byte[]", none⟩,
  ⟨"smalldatetime", .date, "DateTime", some "DateTime?"⟩,
  ⟨"smallint", .integer, "short", some "short?"⟩,
  ⟨"smallmoney", .decimal, "decimal", some "decimal?"⟩,
  ⟨"text", .text, "string", none⟩,
  ⟨"time", .date, "TimeSpan", some "TimeSpan?"⟩,
  ⟨"timestamp", .binary, "byte[]", none⟩,
  ⟨"tinyint", .integer, "byte", some "byte?"⟩,
  ⟨"uniqueidentifier", .guid, "Guid", some "Guid?"⟩,
  ⟨"varbinary", .binary, "byte[]", none⟩,
  ⟨"varchar", .text, "string", none⟩,
  ⟨"xml", .text, "string", none⟩]

def storageTags : List (String × String) := [
  ("bigint", "BigInt"),
  ("datetime", "DateTime"),
  ("datetime2", "DateTime2"),
  ("datetimeoffset", "DateTimeOffset"),
  ("nchar", "Nchar"),
  ("ntext", "Ntext"),
  ("nvarchar", "Nvarchar"),
  ("rowversion", "Binary"),
  ("smalldatetime", "SmallDateTime"),
  ("smallint", "SmallInt"),
  ("smallmoney", "SmallMoney"),
  ("timestamp", "Binary"),
  ("tinyint", "TinyInt"),
  ("uniqueidentifier", "Guid"),
  ("varbinary", "VarBinary"),
  ("varchar", "Varchar")]

/-- The last part of a type name in lower case. -/
def normalize (sqlType : String) : String := lower (SqlName.short sqlType)

/-- Versions that the database maintains itself; a column of such a type has no property. -/
def isRowVersion (sqlType : String) : Bool :=
  normalize sqlType == "timestamp" || normalize sqlType == "rowversion"

def row? (normalized : String) : Option TypeRow := rows.find? (·.sql == normalized)

/-- The type that the table gives. -/
def map (sqlType : String) (nullable : Bool) : PropertyType :=
  match row? (normalize sqlType) with
  | some r => r.propertyType nullable
  | none => .unmapped

def storageTag? (normalized : String) : Option String := storageTags.lookup normalized

/-- The tag under which a value of this type is bound, by default the type's own name. -/
def storage (sqlType : String) : String :=
  (storageTag? (normalize sqlType)).getD (normalize sqlType)

/-- The enumeration declared for a column, under its name without white space at the ends. -/
def enumType? (enums : EnumTypes) (column : String) : Option String := enums.lookup (trim column)

/-- The type of a column: its enumeration if it has one, else the type that the table gives. -/
def resolve (enums : EnumTypes) (sqlType : String) (nullable : Bool) (column : Option String) :
    PropertyType :=
  match column.bind (enumType? enums) with
  | some e => ⟨.enumeration, e ++ if nullable then "?" else ""⟩
  | none => map sqlType nullable

end SqlType

end DataLayer
