import DataLayer.CommandLine.Usage
import DataLayer.Config.Create
import DataLayer.Report.Operation

/-! The program: it reads its arguments, performs a command, and says what came of it. -/

namespace DataLayer.CommandLine

/-- How the program ends, and what it writes to its two outputs. -/
structure Ending where
  exitCode : Nat
  output : String
  remarks : String
  deriving DecidableEq, Repr

namespace Ending

def shown (text : String) : Ending := ⟨0, text, ""⟩

/-- The arguments were wrong. -/
def misused (text : String) : Ending := ⟨2, "", text⟩

/-- The command failed, with a reason on each line. -/
def failed (reasons : List String) : Ending :=
  ⟨1, "", "Error: " ++ "\n  caused by: ".intercalate reasons ++ "\n"⟩

def reported (success : Bool) (lines : List Line) : Ending :=
  ⟨if success then 0 else 1, Line.output lines, Line.remarks lines⟩

def ofStop : Stop → Ending
  | .help place => shown (helpText place)
  | .version => shown versionText
  | .usage => misused (helpText none)

end Ending

/-- The reasons that a fault has in turn. -/
def faultReasons : RunFault → List String
  | .config e => e.message :: e.help?
  | .schema e => [(RunFault.schema e).message, e.message]
  | .render f => [(RunFault.render f).message, f.error.message]
  | fault => [fault.message]

/-- The reasons of a failed operation, from the outermost in. -/
def failureReasons (op : Operation) (e : RunError) : List String :=
  (op.announcement : List String) ++ e.stages.map RunError.stageMessage ++ faultReasons e.fault

variable {m : Type → Type} [Monad m] [FileSystem m]

/-- Loads the configuration and performs an operation with it. -/
def runOperation (op : Operation) (a : RunArguments) : m Ending := do
  match ← Config.load a.configPath with
  | .error e => return .failed (faultReasons (.config e))
  | .ok c =>
    match ← op.run a.configPath c.renderer c ⟨a.configuration, a.package⟩ with
    | .error e => return .failed (failureReasons op e)
    | .ok r => return .reported r.success r.lines

def runCommand : Command → m Ending
  | .generate a dryRun => runOperation (.generate dryRun) a
  | .check a => runOperation .check a
  | .explain a => runOperation .explain a
  | .init directory => do
    match ← Config.create directory with
    | .error e => return .failed [e.message]
    | .ok path => return .reported true (createdLines path)
  | .completions shell => return .shown (completionScript shell)

/-- The whole program. -/
def run (arguments : List String) : m Ending :=
  match Command.ofArguments arguments with
  | .error stop => return .ofStop stop
  | .ok command => runCommand command

end DataLayer.CommandLine
