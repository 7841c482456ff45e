import DataLayer.Xml.Tree

/-! Why a schema package cannot be loaded. -/

namespace DataLayer

inductive SchemaError where
  | badArchive (path : String)
  | missingEntry (path entry : String)
  | unreadableEntry (path entry : String)
  | document (e : Xml.Error)
  deriving DecidableEq, Repr

namespace SchemaError

def message : SchemaError → String
  | badArchive path => "failed to open schema package '" ++ path ++ "'"
  | missingEntry path entry => "schema package '" ++ path ++ "' has no '" ++ entry ++ "' entry"
  | unreadableEntry path entry => "failed to read '" ++ entry ++ "' from '" ++ path ++ "'"
  | document (.badMarkup position) => "malformed schema document at byte " ++ toString position
  | document .badAttributes => "malformed schema document"
  | document .manyRoots => "malformed schema document: more than one root element"
  | document (.unclosed name) =>
    "malformed schema document: element '" ++ name ++ "' is never closed"
  | document .noRoot => "schema document has no root element"

/-- Whether the archive is at fault, and not the document in it. -/
def isArchiveFault : SchemaError → Bool
  | badArchive _ => true
  | missingEntry _ _ => true
  | unreadableEntry _ _ => true
  | document _ => false

end SchemaError

end DataLayer
