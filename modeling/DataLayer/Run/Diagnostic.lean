/-! Remarks that a run makes without failing. -/

namespace DataLayer

inductive Severity where
  | error | warning | info
  deriving DecidableEq, Repr

def Severity.label : Severity → String
  | error => "error"
  | warning => "warning"
  | info => "info"

structure Diagnostic where
  severity : Severity
  /-- The phase that makes the remark. -/
  phase : String
  message : String
  /-- The object that the remark is about. -/
  location : Option String
  deriving DecidableEq, Repr

namespace Diagnostic

def warning (phase message : String) : Diagnostic := ⟨.warning, phase, message, none⟩

def isError (d : Diagnostic) : Bool := d.severity == .error

def isWarning (d : Diagnostic) : Bool := d.severity == .warning

/-- A remark on one line. -/
def text (d : Diagnostic) : String :=
  d.severity.label ++ ": " ++ d.message ++
    match d.location with
    | none => ""
    | some location => " (at " ++ location ++ ")"

/-- A remark without its severity, with the location on a line of its own. -/
def detail (d : Diagnostic) : String :=
  match d.location with
  | none => d.message
  | some location => d.message ++ "\n  --> " ++ location

end Diagnostic

end DataLayer
