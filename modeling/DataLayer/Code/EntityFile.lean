import DataLayer.Code.Fragment

/-! The template of the file of an entity: its properties, and its collections of child rows. -/

namespace DataLayer.Code

def annotationLines (n : Nat) : List String :=
  blockLines "Annotations" [indent n ("[" ++ tag "." ++ "]")]

def entityLines : List String :=
  ["// <auto-generated>",
    "// Generated by dacgen from " ++ tag "TableName" ++ ". Changes to this file are overwritten.",
    "// </auto-generated>",
    "using System;",
    "using System.Collections.Generic;"] ++
  usingLines ++
  ["", "namespace " ++ tag "Namespace", opening] ++
  annotationLines 4 ++
  [indent 4 (tag "Access" ++ " partial class " ++ tag "Name"), indent 4 opening] ++
  blockLines "Properties" (annotationLines 8 ++ [indent 8 (autoProperty typeName shortName)]) ++
  blockLines "Foreigns" ["", indent 8 (autoProperty (listType entityName) pluralName)] ++
  [indent 4 closing, closing]

def entityTemplate : String := ofLines entityLines

end DataLayer.Code
