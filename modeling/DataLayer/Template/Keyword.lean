import DataLayer.Data
import DataLayer.SqlType
import DataLayer.Template.Error
import DataLayer.Template.Positions

/-!
Keywords: the functions that a tag may send its value through. A keyword takes a text, and may
also look at its argument, at the data in scope, and at the position of its tag.
-/

namespace DataLayer.Template

/-- The plural form declared for each entity name. -/
abbrev Plurals := List (String × String)

inductive Keyword where
  | plural (plurals : Plurals)
  | firstUpper
  | firstLower
  | shortName
  | sanitize
  | type (enums : EnumTypes)
  | enumCast (enums : EnumTypes)
  | storageKind
  | join

/-- Rendering keeps the positions it has reached also when it fails. -/
abbrev RenderM := ExceptT TemplateError (StateM Positions)

/-- Where a keyword is called. -/
structure Call where
  argument : Option String
  level : Nat
  tag : Nat
  scope : Scope

namespace Keyword

def name : Keyword → String
  | plural _ => "Plural"
  | firstUpper => "FirstUpper"
  | firstLower => "FirstLower"
  | shortName => "ShortName"
  | sanitize => "Sanitize"
  | type _ => "Type"
  | enumCast _ => "EnumCast"
  | storageKind => "StorageKind"
  | join => "Join"

/-- The plural form of a name: the one declared for it, else the name with an `s`. -/
def pluralOf (plurals : Plurals) (name : String) : String :=
  (plurals.lookup name).getD (name ++ "s")

/-- The flag of a name in scope. -/
def flagInScope? (scope : Scope) (name : String) : Option Bool :=
  (scope.lookup name).bind Data.flag?

/-- The text in scope under the name that the argument gives. -/
def column? (call : Call) : Option String :=
  call.argument.bind fun field => (call.scope.lookup field).bind Data.text?

/-- The C# type of a column type. -/
def typeText (enums : EnumTypes) (call : Call) (sqlType : String) : Except TemplateError String :=
  let column := column? call
  let t := SqlType.resolve enums sqlType ((flagInScope? call.scope "Nullable").getD false) column
  if t.isUnknown then .error (.unmappedType (column.getD "") sqlType) else .ok t.name

/-- A cast to the type under an enumeration, for columns that have one. -/
def castText (enums : EnumTypes) (call : Call) (sqlType : String) : Except TemplateError String :=
  match column? call with
  | none => .ok ""
  | some column =>
    if (SqlType.enumType? enums column).isNone then .ok ""
    else
      let t := SqlType.map sqlType ((flagInScope? call.scope "Nullable").getD true)
      if t.isUnknown then .error (.unmappedType column sqlType) else .ok ("(" ++ t.name ++ ")")

/-- The text that a keyword makes of a text. -/
def applyText (call : Call) (text : String) : Keyword → RenderM String
  | plural plurals => pure (pluralOf plurals text)
  | firstUpper => pure (Text.firstUpper text)
  | firstLower => pure (Text.firstLower text)
  | shortName => pure (SqlName.short text)
  | sanitize => pure (SqlName.bare text)
  | type enums => ExceptT.mk (pure (typeText enums call text))
  | enumCast enums => ExceptT.mk (pure (castText enums call text))
  | storageKind => pure (SqlType.storage text)
  | join => do
    let position ← modifyGet fun p => p.next call.level call.tag
    pure (if position = 0 then text else call.argument.getD "" ++ text)

def apply (k : Keyword) (call : Call) (value : Data) : RenderM Data :=
  match value.scalarText? with
  | none => throw (.keywordInput k.name)
  | some text => return .text (← k.applyText call text)

end Keyword

/-- The keywords that a template may use, in the order of their registration. -/
abbrev Keywords := List Keyword

namespace Keywords

/-- Adds a keyword, in place of the one that has its name. -/
def register (k : Keyword) : Keywords → Keywords
  | [] => [k]
  | k' :: rest => if k'.name = k.name then k :: rest else k' :: register k rest

def get? (keywords : Keywords) (name : String) : Option Keyword := keywords.find? (·.name == name)

/-- All keywords, with the plurals and enumerations of a configuration. -/
def all (plurals : Plurals) (enums : EnumTypes) : Keywords :=
  [.plural plurals, .firstUpper, .firstLower, .shortName, .sanitize, .type enums, .enumCast enums,
    .storageKind, .join]

end Keywords

end DataLayer.Template
