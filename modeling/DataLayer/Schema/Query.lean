import DataLayer.Schema.Path
import DataLayer.Text.Case

/-!
What schema documents say about database objects: their kind and name, their properties, and the
objects that they refer to or consist of.
-/

namespace DataLayer.Schema

/-- The kinds of objects that matter, and of the parts they have. -/
inductive Kind where
  | table | simpleColumn | primaryKey | foreignKey | index | indexedColumn
  | procedure | scalarFunction | inlineFunction | tableFunction | parameter | typeSpecifier
  deriving DecidableEq, Repr

def Kind.typeName : Kind → String
  | table => "SqlTable"
  | simpleColumn => "SqlSimpleColumn"
  | primaryKey => "SqlPrimaryKeyConstraint"
  | foreignKey => "SqlForeignKeyConstraint"
  | index => "SqlIndex"
  | indexedColumn => "SqlIndexedColumnSpecification"
  | procedure => "SqlProcedure"
  | scalarFunction => "SqlScalarFunction"
  | inlineFunction => "SqlInlineTableValuedFunction"
  | tableFunction => "SqlMultiStatementTableValuedFunction"
  | parameter => "SqlSubroutineParameter"
  | typeSpecifier => "SqlTypeSpecifier"

namespace Element

def typeName? (e : Element) : Option String := e.attribute? "Type"

def objectName? (e : Element) : Option String := e.attribute? "Name"

/-- The value of a property. -/
def property? (e : Element) (name : String) : Option String :=
  (e.first? ("Property[@Name='" ++ name ++ "']")).bind (·.attribute? "Value")

/-- A property that is `true` or `false`, in any case of letters. -/
def flag? (e : Element) (name : String) : Option Bool :=
  (e.property? name).bind fun value =>
    if Text.eqIgnoreAsciiCase value "true" then some true
    else if Text.eqIgnoreAsciiCase value "false" then some false
    else none

/-- The names that a relationship refers to. -/
def references (e : Element) (relationship : String) : List String :=
  (e.select ("Relationship[@Name='" ++ relationship ++ "']/Entry/References")).filterMap
    (·.attribute? "Name")

def reference? (e : Element) (relationship : String) : Option String :=
  (e.references relationship).head?

/-- The parts of one kind that a relationship holds. -/
def related (e : Element) (relationship : String) (kind : Kind) : List Element :=
  e.select ("Relationship[@Name='" ++ relationship ++ "']/Entry/Element[@Type='" ++
    kind.typeName ++ "']")

/-- The type that a relationship specifies. -/
def typeReference? (e : Element) (relationship : String) : Option String :=
  (e.related relationship .typeSpecifier).findSome? (·.reference? "Type")

/-- The columns of a key in key order. -/
def keyColumns (e : Element) : List String :=
  (e.related "ColumnSpecifications" .indexedColumn).filterMap (·.reference? "Column")

end Element

/-- The objects of one kind in the order of their declaration. -/
def Tree.objects (t : Tree) (kind : Kind) : List Element :=
  t.select ("/DataSchemaModel/Model/Element[@Type='" ++ kind.typeName ++ "']")

end DataLayer.Schema
