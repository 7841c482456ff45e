import DataLayer.Code.Fragment

/-!
The template of the data access class. Its accessors stand in the order of its interface; each
sends one query whose parameters are bound to the parameters of the accessor or to the properties
of the entity.
-/

namespace DataLayer.Code

/-- The mark of asynchronous methods. -/
def asyncMark : String := "async "

/-- The condition that a row has the values of the key. -/
def keyCondition : String :=
  within "Params" (separator " AND " ++ "[" ++ shortName ++ "] = @" ++ shortName)

/-- The condition that a child row refers to the row that is read. -/
def foreignCondition : String :=
  within "Params" (separator " AND " ++ "[" ++ shortName ++ "] = @" ++ tag "ForeignName|ShortName")

def selectRows (condition : String) : String :=
  "SELECT * FROM " ++ tag "TableName" ++ " WHERE " ++ condition

/-- Child rows are read only on demand. -/
def selectForeigns : String :=
  within "Foreigns" (" IF(@include" ++ pluralName ++ " = 1) " ++ selectRows foreignCondition)

def deleteRows : String := "DELETE FROM " ++ tag "TableName" ++ " WHERE " ++ keyCondition

def updateRow : String :=
  "IF EXISTS(SELECT 1 FROM " ++ tag "TableName" ++ " WHERE " ++ keyCondition ++ ") UPDATE " ++
    tag "TableName" ++ " SET " ++
    within "Columns" (separator ", " ++ "[" ++ shortName ++ "] = @" ++ shortName) ++
    " WHERE " ++ keyCondition

def insertRow : String :=
  "INSERT INTO " ++ tag "TableName" ++ " (" ++
    within "Columns" (separator ", " ++ "[" ++ shortName ++ "]") ++ ") VALUES(" ++
    within "Columns" (separator ", " ++ "@" ++ shortName) ++ ")"

def saveRow : String := updateRow ++ " ELSE " ++ insertRow

def saveRowForIdentity : String :=
  updateRow ++ " ELSE BEGIN " ++ insertRow ++ " SELECT SCOPE_IDENTITY() END"

def queryLine (query : String) : String :=
  indent 12 ("const string query = \"" ++ query ++ "\";")

/-- Further calls on a query stand below its dot. -/
def call (line : String) : String := indent 25 ("." ++ line)

/-- Binds a value under the name of its column. -/
def parameterLine (value : String) : String :=
  call ("Add" ++ tag "SqlType|StorageKind|FirstUpper" ++ "InParam(\"" ++ shortName ++ "\", " ++
    value ++ ", true)")

def enumCast : String := tag "SqlType|EnumCast(\"Name\")"

def bindParams : List String :=
  blockLines "Params" [parameterLine (enumCast ++ tag "Name|ShortName|FirstLower")]

/-- The value of a property of the entity that is saved. -/
def propertyValue : String := entityVariable ++ "." ++ shortName

def bindColumns : List String := blockLines "Columns" [parameterLine (enumCast ++ propertyValue)]

def bindIdentities : List String := blockLines "IdentityColumns" [parameterLine propertyValue]

def await (flag : String) : String := within flag "await "

def execute (flag : String) : String := call ("ExecuteSqlString" ++ tag flag ++ "();")

/-- A public method for every accessor of a list, after an empty line. -/
def methodLines (path signature : String) (body : List String) : List String :=
  blockLines path (
    ["", indent 8 ("public " ++ signature), indent 8 opening] ++ body ++ [indent 8 closing])

def getOneLines : List String :=
  methodLines "UniqueMethods" (getOne asyncMark) (
    [queryLine (selectRows keyCondition ++ selectForeigns),
      indent 12 ("var reader = " ++ await "GetAsync" ++ "_db.BeginReader(query)")] ++
    bindParams ++
    blockLines "Foreigns"
      [call ("AddBitInParam(\"include" ++ pluralName ++ "\", include" ++ pluralName ++ ")")] ++
    [call ("AutoMapResult<" ++ entityName ++ ">()")] ++
    blockLines "Foreigns"
      [call ("AutoMapResult<" ++ entityName ++ ">(\"" ++ pluralName ++ "\")")] ++
    [execute "GetAsync",
      indent 12 ("var ret = reader.GetResultCollection<" ++ entityName ++
        ">().FirstOrDefault();")] ++
    blockLines "Foreigns" [
      indent 12 ("if (include" ++ pluralName ++ " && ret != null)"),
      indent 12 opening,
      indent 16 ("ret." ++ pluralName ++ " = reader.GetResultCollection<" ++ entityName ++ ">(\"" ++
        pluralName ++ "\");"),
      indent 12 closing] ++
    [indent 12 "return ret;"])

def getManyLines : List String :=
  methodLines "MultipleMethods" (getMany asyncMark) (
    [queryLine (selectRows keyCondition),
      indent 12 ("var reader = " ++ await "GetAsync" ++ "_db.BeginReader(query)")] ++
    bindParams ++
    [call ("AutoMapResult<" ++ entityName ++ ">()"),
      execute "GetAsync",
      indent 12 ("return reader.GetResult<" ++ listType entityName ++ ">();")])

def saveNonQueryLines : List String :=
  methodLines "NonQueryMethods" (saveNonQuery asyncMark) (
    [queryLine saveRow, indent 12 (await "SaveAsync" ++ "_db.BeginNonQuery(query)")] ++
    bindColumns ++
    [execute "SaveAsync"])

def saveScalarLines : List String :=
  methodLines "ScalarMethods" (saveScalar asyncMark) (
    [queryLine saveRowForIdentity,
      indent 12 ("var scalar = " ++ await "SaveAsync" ++ "_db.BeginScalar<" ++ identityType ++
        ">(query)")] ++
    bindIdentities ++ bindColumns ++
    [execute "SaveAsync", indent 12 "return scalar.GetResult();"])

def deleteLines (path signature : String) : List String :=
  methodLines path signature (
    [queryLine deleteRows, indent 12 (await "DeleteAsync" ++ "_db.BeginNonQuery(query)")] ++
    bindParams ++
    [execute "DeleteAsync"])

/-- A class with a constant for the name of every routine of a list, under its signature. -/
def routineLines (name path : String) : List String :=
  ["", indent 8 ("public static class " ++ name), indent 8 opening] ++
  blockLines path [
    indent 12 ("// " ++ tag "Name" ++ "(" ++ within "Params" (separator ", " ++ shortName ++ " " ++
      tag "SqlType|ShortName") ++ ")"),
    indent 12 ("public const string " ++ tag "Name|Sanitize" ++ " = \"" ++ tag "Name" ++ "\";")] ++
  [indent 8 closing]

def classHeaderLines : List String :=
  ["// <auto-generated>",
    "// Generated by dacgen. Requires the data-access helper runtime " ++ tag "HelperVersion" ++
      " or later.",
    "// Changes to this file are overwritten.",
    "// </auto-generated>",
    "using System;",
    "using System.Collections.Generic;",
    "using System.Linq;",
    "using System.Threading.Tasks;",
    "using CpsDbHelper;",
    "using CpsDbHelper.Extensions;",
    "using CpsDbHelper.Utils;"] ++
  usingLines ++ namespaceLines

/-- What the class holds besides accessors and names of routines. -/
def connectionLines : List String := [
  indent 8 ("public const string HelperVersion = \"" ++ tag "HelperVersion" ++ "\";"),
  "",
  indent 8 "private readonly DbHelperFactory _db;",
  "",
  indent 8 ("public " ++ tag "DataAccessClassName" ++ "(string connectionString)"),
  indent 8 opening,
  indent 12 "_db = new DbHelperFactory(connectionString);",
  indent 8 closing,
  "",
  indent 8 "public void BeginTransaction()",
  indent 8 opening,
  indent 12 "_db.BeginTransaction();",
  indent 8 closing,
  "",
  indent 8 "public void EndTransaction(bool commit = true)",
  indent 8 opening,
  indent 12 "_db.EndConnection(commit);",
  indent 8 closing]

def classLines : List String :=
  classHeaderLines ++
  ["", "namespace " ++ tag "DalNamespace", opening,
    indent 4 (tag "ClassAccess" ++ " partial class " ++ tag "DataAccessClassName" ++ " : I" ++
      tag "DataAccessClassName"),
    indent 4 opening] ++
  connectionLines ++ getOneLines ++ getManyLines ++ saveNonQueryLines ++ saveScalarLines ++
  deleteLines "UniqueMethods" (deleteOne asyncMark) ++
  deleteLines "MultipleMethods" (deleteMany asyncMark) ++
  routineLines "StoredProcedures" "Sps" ++
  routineLines "ScalarFunctions" "ScalarFunctions" ++
  routineLines "InlineTableFunctions" "InlineTableFunctions" ++
  routineLines "TableFunctions" "TableFunctions" ++
  [indent 4 closing, closing]

def classTemplate : String := ofLines classLines

end DataLayer.Code
