import DataLayer.Text.Alphabetic
import DataLayer.Text.Split

/-! Names that may stand in C# code, dotted namespaces, and access modifiers. -/

namespace DataLayer

open Text

/-- Why a text is no identifier. -/
inductive IdentifierFault where
  | empty | reserved | badStart | badCharacter
  deriving DecidableEq, Repr

def IdentifierFault.reason : IdentifierFault → String
  | empty => "name cannot be empty"
  | reserved => "name is a C# reserved keyword"
  | badStart => "name must start with a letter or underscore"
  | badCharacter => "name must contain only letters, numbers, and underscores"

namespace Identifier

def reservedWords : List String := [
  "abstract", "as", "base", "bool", "break", "byte", "case", "catch", "char", "checked",
  "class", "const", "continue", "decimal", "default", "delegate", "do", "double", "else",
  "enum", "event", "explicit", "extern", "false", "finally", "fixed", "float", "for",
  "foreach", "goto", "if", "implicit", "in", "int", "interface", "internal", "is", "lock",
  "long", "namespace", "new", "null", "object", "operator", "out", "override", "params",
  "private", "protected", "public", "readonly", "ref", "return", "sbyte", "sealed", "short",
  "sizeof", "stackalloc", "static", "string", "struct", "switch", "this", "throw", "true",
  "try", "typeof", "uint", "ulong", "unchecked", "unsafe", "ushort", "using", "virtual",
  "void", "volatile", "while"]

def isStart (c : Char) : Bool := isAlphabetic c || c == '_'

def isPart (c : Char) : Bool := isAlphanumeric c || c == '_'

def fault? (name : String) : Option IdentifierFault :=
  match name.toList with
  | [] => some .empty
  | c :: cs =>
    if reservedWords.contains name then some .reserved
    else if !isStart c then some .badStart
    else if !cs.all isPart then some .badCharacter
    else none

def IsValid (name : String) : Prop := fault? name = none

instance (name : String) : Decidable (IsValid name) := inferInstanceAs (Decidable (_ = _))

/-- The fault of the first part of a dotted name that has one. -/
def dottedFault? (name : String) : Option IdentifierFault :=
  (splitAt '.' name.toList).findSome? fun part => fault? (String.ofList part)

end Identifier

/-- The modifiers that a generated type may carry. -/
def accessModifiers : List String :=
  ["public", "internal", "private", "protected", "protected internal", "private protected"]

end DataLayer
