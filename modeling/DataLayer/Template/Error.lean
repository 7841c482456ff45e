/-! What can be wrong with a template, or with the data it is filled from. -/

namespace DataLayer

inductive TemplateError where
  | unclosedTag (offset : Nat)
  | invalidTag (tag : String)
  | unclosedSection (path : String)
  | mismatchedSection (expected found : String)
  | unknownKeyword (keyword : String)
  | keywordInput (keyword : String)
  | notScalar (path : String)
  | unmappedType (column sqlType : String)
  | invalidData (reason : String)
  deriving DecidableEq, Repr

def TemplateError.message : TemplateError → String
  | unclosedTag offset => "unclosed tag at byte " ++ toString offset
  | invalidTag tag => "invalid tag '\x7b\x7b" ++ tag ++ "\x7d\x7d'"
  | unclosedSection path => "section '" ++ path ++ "' is never closed"
  | mismatchedSection expected found =>
    "'" ++ found ++ "' closes a section that was not opened (expected '" ++ expected ++ "')"
  | unknownKeyword keyword => "unknown keyword '" ++ keyword ++ "'"
  | keywordInput keyword => "keyword '" ++ keyword ++ "' expects a text value"
  | notScalar path => "'" ++ path ++ "' is a list or object and cannot be printed"
  | unmappedType column sqlType =>
    "column '" ++ column ++ "' has unmapped SQL type '" ++ sqlType ++ "'"
  | invalidData reason => "template data could not be built: " ++ reason

end DataLayer
