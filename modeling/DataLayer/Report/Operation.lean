import DataLayer.Report.Check
import DataLayer.Report.Explain
import DataLayer.Report.Generate

/-! The operations of the program: each runs as far as it needs to, and reports the outcome. -/

namespace DataLayer

inductive Operation where
  | check
  | explain
  | generate (dryRun : Bool)
  deriving DecidableEq, Repr

/-- The lines of a report, and whether what it reports is a success. -/
structure Report where
  lines : List Line
  success : Bool
  deriving DecidableEq, Repr

/-- The phases of a run that writes, by name and description. -/
def phaseNames (m : Type → Type) [Monad m] [FileSystem m] (r : Renderer) :
    List (String × String) :=
  (Mode.write.phases r : List (Phase m)).map fun p => (p.name, p.description)

namespace Operation

def mode : Operation → Mode
  | check | explain => .resolve
  | generate dryRun => if dryRun then .render else .write

/-- What a failure of the operation is announced as. -/
def announcement : Operation → Option String
  | check => some "Validation failed"
  | explain => some "Pipeline failed"
  | generate _ => none

variable {m : Type → Type} [Monad m] [FileSystem m]

def report (op : Operation) (configPath : String) (phases : List (String × String))
    (outcome : Outcome) : Report :=
  match op with
  | check =>
    let r := CheckReport.ofOutcome configPath outcome
    ⟨r.lines, r.isValid⟩
  | explain => ⟨Explanation.lines configPath phases outcome, true⟩
  | generate dryRun => ⟨GenerationReport.lines dryRun outcome, true⟩

/-- Performs an operation with the configuration from `configPath`. -/
def run (op : Operation) (configPath : String) (r : Renderer) (c : Config) (o : RunOptions) :
    m (Except RunError Report) := do
  match ← DataLayer.generate r c o op.mode with
  | .error e => return .error e
  | .ok outcome => return .ok (op.report configPath (phaseNames m r) outcome)

end Operation

/-- The report of a new configuration file. -/
def createdLines (path : String) : List Line := [
  .preformatted ("Created " ++ path),
  .newline,
  .heading "Next steps",
  .listItem "point `source_project` or `dacpac` at your database project",
  .listItem "set `model_namespace` and `dal_namespace`",
  .listItem "run `dacgen check`, then `dacgen generate`"]

end DataLayer
