import DataLayer.Report.Line
import DataLayer.Run.Generation

/-! What a check of the configuration and the schema finds. -/

namespace DataLayer

/-- How much was resolved from which package. -/
structure CheckSummary where
  package : String
  entities : Nat
  accessors : Nat
  routines : Nat
  deriving DecidableEq, Repr

structure CheckReport where
  configPath : String
  /-- Why a run would be skipped, if it would. -/
  skipped : Option String
  /-- What was resolved, unless a run would be skipped. -/
  summary : Option CheckSummary
  errors : List String
  warnings : List String
  infos : List String
  deriving DecidableEq, Repr

namespace CheckReport

def isValid (r : CheckReport) : Bool := r.errors.isEmpty

def details (severity : Severity) (ds : List Diagnostic) : List String :=
  (ds.filter (·.severity == severity)).map Diagnostic.detail

def ofOutcome (configPath : String) : Outcome → CheckReport
  | .skipped reason => ⟨configPath, some reason.message, none, [], [], []⟩
  | .generated g =>
    { configPath := configPath
      skipped := none
      summary := some ⟨g.package, g.model.entities.length, g.model.accessors.length,
        g.model.routines.length⟩
      errors := details .error g.diagnostics
      warnings := details .warning g.diagnostics
      infos := details .info g.diagnostics }

def summaryLines (s : CheckSummary) : List Line := [
  .keyValueIndented "Schema" s.package,
  .keyValueIndented "Entities" (toString s.entities),
  .keyValueIndented "Accessors" (toString s.accessors),
  .keyValueIndented "Routines" (toString s.routines)]

/-- What follows the remarks of a valid check. -/
def resultLines (r : CheckReport) : List Line :=
  .preformatted ("✓ " ++ r.configPath ++ " is valid") ::
    (r.skipped.toList.map (.keyValueIndented "Skipped") ++ r.summary.toList.flatMap summaryLines)

def lines (r : CheckReport) : List Line :=
  r.errors.map .error ++ r.warnings.map .warning ++
    r.infos.map (fun i => .preformatted ("info: " ++ i)) ++
    (if r.warnings.isEmpty && r.errors.isEmpty then [] else [.newline]) ++
    (if r.isValid then r.resultLines else [])

end CheckReport

end DataLayer
