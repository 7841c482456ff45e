import DataLayer.Identifier

/-! Why a configuration cannot be used. -/

namespace DataLayer

/-- A stretch of a document, in octets. -/
structure Span where
  offset : Nat
  length : Nat
  deriving DecidableEq, Repr

inductive ConfigError where
  | unreadable (path : String)
  | malformed
  | invalidAccess (access : String) (span : Option Span)
  | duplicateKey (table key : String) (span : Option Span)
  | invalidIdentifier (name role : String) (fault : IdentifierFault) (span : Option Span)
  deriving DecidableEq, Repr

namespace ConfigError

def message : ConfigError → String
  | unreadable path => "failed to read '" ++ path ++ "'"
  | malformed => "failed to parse configuration"
  | invalidAccess access _ =>
    "invalid access modifier '" ++ access ++ "', expected one of: " ++
      ", ".intercalate accessModifiers
  | duplicateKey table key _ => "duplicate key '" ++ key ++ "' in " ++ table
  | invalidIdentifier name role _ _ => "invalid " ++ role ++ " '" ++ name ++ "'"

def code? : ConfigError → Option String
  | unreadable _ => some "dacgen::config_missing"
  | malformed => some "dacgen::parse_error"
  | invalidAccess _ _ => some "dacgen::validation_error"
  | duplicateKey _ _ _ => some "dacgen::duplicate_override"
  | invalidIdentifier _ _ _ _ => none

def help? : ConfigError → Option String
  | unreadable _ => some "run 'dacgen init' to create a default dacgen.toml"
  | malformed => none
  | invalidAccess _ _ => none
  | duplicateKey table _ _ =>
    some ("each " ++ table ++ " entry must target a different object; merge the two entries")
  | invalidIdentifier _ _ fault _ =>
    some (fault.reason ++
      ". Use only letters, numbers, and underscores, starting with a letter or underscore.")

/-- What the error points at, with the words that stand there. -/
def label? (e : ConfigError) : Option (String × Span) :=
  match e with
  | unreadable _ => none
  | malformed => none
  | invalidAccess _ span => span.map fun s => (e.message, s)
  | duplicateKey _ _ span => span.map fun s => ("declared again here", s)
  | invalidIdentifier _ _ _ span => span.map fun s => ("invalid identifier", s)

end ConfigError

end DataLayer
