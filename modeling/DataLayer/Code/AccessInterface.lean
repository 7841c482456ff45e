import DataLayer.Code.Fragment

/-! The template of the interface of the data access class: a declaration for every accessor. -/

namespace DataLayer.Code

/-- A declaration for every accessor of a list. -/
def declarationLines (path signature : String) : List String :=
  blockLines path [indent 8 (signature ++ ";")]

def interfaceLines : List String :=
  ["// <auto-generated>",
    "// Generated by dacgen. Changes to this file are overwritten.",
    "// </auto-generated>",
    "using System;",
    "using System.Collections.Generic;",
    "using System.Threading.Tasks;"] ++
  usingLines ++ namespaceLines ++
  ["", "namespace " ++ tag "DalNamespace", opening,
    indent 4 ("public partial interface I" ++ tag "DataAccessClassName"), indent 4 opening,
    indent 8 "void BeginTransaction();",
    indent 8 "void EndTransaction(bool commit = true);"] ++
  declarationLines "UniqueMethods" (getOne "") ++
  declarationLines "MultipleMethods" (getMany "") ++
  declarationLines "NonQueryMethods" (saveNonQuery "") ++
  declarationLines "ScalarMethods" (saveScalar "") ++
  declarationLines "UniqueMethods" (deleteOne "") ++
  declarationLines "MultipleMethods" (deleteMany "") ++
  [indent 4 closing, closing]

def interfaceTemplate : String := ofLines interfaceLines

end DataLayer.Code
