import DataLayer.Data
import DataLayer.Model.Basic

/-!
Models as template data. Names of fields are capitalised. A list of accessors holds each of them
with the accessors it refers to, and those with none.
-/

namespace DataLayer

open Schema (Routine)

/-- The version of the runtime that generated code is written for. -/
def helperVersion : String := "1.0.0.4"

def Property.data (p : Property) : Data := .record [
  ("Name", .text p.name),
  ("SqlType", .text p.sqlType),
  ("TypeKind", .text p.type.kind.label),
  ("Nullable", .flag p.nullable),
  ("Identity", .flag p.identity),
  ("ForeignName", .optionalText p.foreignName),
  ("Annotations", .texts p.annotations)]

def Property.list (ps : List Property) : Data := .list (ps.map Property.data)

namespace Accessor

/-- What asynchronous verbs have at the end of their names. -/
def asyncSuffix (isAsync : Bool) : String := if isAsync then "Async" else ""

/-- An accessor with the accessors it refers to. -/
def dataWith (a : Accessor) (foreigns : List Data) : Data := .record [
  ("KeyName", .text a.key),
  ("TableName", .text a.table),
  ("EntityName", .text a.entity),
  ("Kind", .text a.kind.label),
  ("Params", Property.list a.params),
  ("Columns", Property.list a.columns),
  ("IdentityColumns", Property.list a.identityColumns),
  ("Unique", .flag a.unique),
  ("GetAsync", .text (asyncSuffix a.asyncs.get)),
  ("SaveAsync", .text (asyncSuffix a.asyncs.save)),
  ("DeleteAsync", .text (asyncSuffix a.asyncs.delete)),
  ("Foreigns", .list foreigns)]

def data (m : Model) (a : Accessor) : Data :=
  a.dataWith ((m.accessorsAt a.foreigns).map (·.dataWith []))

def list (m : Model) (as : List Accessor) : Data := .list (as.map (·.data m))

/-- The first accessor of each entity that is not among `seen`. -/
def firstPerEntity (seen : List String) : List Accessor → List Accessor
  | [] => []
  | a :: rest =>
    if seen.contains a.entity then firstPerEntity seen rest
    else a :: firstPerEntity (a.entity :: seen) rest

end Accessor

/-- The foreign keys that give an entity its collections of child rows, one for each child. -/
def Entity.collections (m : Model) (e : Entity) : List Accessor :=
  Accessor.firstPerEntity [] (m.accessorsAt e.foreigns)

/-- The data of the file of an entity. -/
def Entity.data (c : Config) (m : Model) (e : Entity) : Data := .record [
  ("TableName", .text e.table),
  ("Name", .text e.name),
  ("Access", .text e.access),
  ("Annotations", .texts e.annotations),
  ("IncludeForeignKey", .flag e.includeForeignKey),
  ("Properties", Property.list e.properties),
  ("Foreigns", Accessor.list m (e.collections m)),
  ("Namespace", .text c.modelNamespace),
  ("Usings", .texts c.usings)]

def routineData (r : Routine) : Data := .record [
  ("Name", .text r.name),
  ("Params", .list (r.params.map fun p =>
    .record [("Name", .text p.name), ("SqlType", .text p.sqlType)]))]

def routineList (rs : List Routine) : Data := .list (rs.map routineData)

/-- The data of the data access class and of its interface. -/
def Model.data (c : Config) (m : Model) : Data := .record [
  ("Namespace", .text c.modelNamespace),
  ("DalNamespace", .text c.accessNamespace),
  ("DataAccessClassName", .text c.className),
  ("ClassAccess", .text c.classAccess),
  ("HelperVersion", .text helperVersion),
  ("Usings", .texts c.usings),
  ("NonQueryMethods", Accessor.list m m.nonQueryAccessors),
  ("ScalarMethods", Accessor.list m m.scalarAccessors),
  ("UniqueMethods", Accessor.list m m.uniqueAccessors),
  ("MultipleMethods", Accessor.list m m.multipleAccessors),
  ("Sps", routineList (m.routinesOf .procedure)),
  ("ScalarFunctions", routineList (m.routinesOf .scalarFunction)),
  ("InlineTableFunctions", routineList (m.routinesOf .inlineFunction)),
  ("TableFunctions", routineList (m.routinesOf .tableFunction))]

end DataLayer
