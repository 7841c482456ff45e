import DataLayer.Run.Diagnostic
import DataLayer.Run.Error

/-!
The state of a run, and its phases. Observers are called before and after every phase. The first
step that fails ends the run, and its error gets the phase as its stage.
-/

namespace DataLayer

/-- What the phases of a run have done so far. -/
structure RunState where
  config : Config
  /-- The path of the schema package. -/
  package : String
  schema : Option Schema.Tree
  model : Model
  files : List OutputFile
  diagnostics : List Diagnostic

namespace RunState

def start (c : Config) (package : String) : RunState := ⟨c, package, none, .empty, [], []⟩

def add (s : RunState) (d : Diagnostic) : RunState :=
  { s with diagnostics := s.diagnostics ++ [d] }

def errors (s : RunState) : List Diagnostic := s.diagnostics.filter Diagnostic.isError

def warnings (s : RunState) : List Diagnostic := s.diagnostics.filter Diagnostic.isWarning

end RunState

/-- A step of a run. What it did to the state stays also if it fails. -/
abbrev RunM (m : Type → Type) := ExceptT RunError (StateT RunState m)

structure Phase (m : Type → Type) where
  name : String
  /-- What the phase is doing, as the stage of a run. -/
  description : String
  action : RunM m Unit

/-- What is told the name of every phase before it starts and after it ends. -/
structure Observer (m : Type → Type) where
  name : String
  before : String → RunM m Unit
  after : String → RunM m Unit

variable {m : Type → Type} [Monad m]

/-- Runs steps in order. -/
def runSteps : List (RunM m Unit) → RunM m Unit
  | [] => pure ()
  | step :: rest => do
    step
    runSteps rest

/-- Names the stage of a failure. -/
def inStage (stage : String) (step : RunM m Unit) : RunM m Unit :=
  tryCatch step fun e => throw (e.inStage stage)

namespace Phase

/-- The steps of a phase with its observers. -/
def steps (observers : List (Observer m)) (p : Phase m) : List (RunM m Unit) :=
  observers.map (·.before p.name) ++ [p.action] ++ observers.map (·.after p.name)

def run (observers : List (Observer m)) (p : Phase m) : RunM m Unit :=
  inStage p.description (runSteps (p.steps observers))

end Phase

def runPhases (observers : List (Observer m)) (phases : List (Phase m)) : RunM m Unit :=
  runSteps (phases.map (·.run observers))

end DataLayer
