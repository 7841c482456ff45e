import DataLayer.Run.Phases

/-!
Whole runs. A run is skipped if the configuration says so, or if there is no schema package and the
configuration allows that. Otherwise it resolves the model, renders the files if they are asked
for, and writes them last of all.
-/

namespace DataLayer

/-- What a run is asked for besides its configuration file. -/
structure RunOptions where
  /-- The build configuration. -/
  configuration : String
  /-- A schema package that takes precedence over that of the configuration file. -/
  package : Option String
  deriving DecidableEq, Repr

inductive SkipReason where
  | disabled
  | otherConfiguration (configuration : String)
  | missingPackage (path : String)
  | noPackage
  deriving DecidableEq, Repr

def SkipReason.message : SkipReason → String
  | disabled => "generation is disabled"
  | otherConfiguration configuration =>
    "generation is not enabled for the '" ++ configuration ++ "' configuration"
  | missingPackage path => "schema package '" ++ path ++ "' does not exist"
  | noPackage => "no schema package is configured"

/-- Whether a run can go ahead, and with which package. -/
inductive Readiness where
  | skip (reason : SkipReason)
  | ready (package : String)
  deriving DecidableEq, Repr

/-- How far a run goes. -/
inductive Mode where
  | resolve | render | write
  deriving DecidableEq, Repr

/-- What a run has made. -/
structure Generation where
  package : String
  model : Model
  files : List OutputFile
  diagnostics : List Diagnostic
  /-- The paths of the files that were written. -/
  written : List String

def Generation.warnings (g : Generation) : List Diagnostic :=
  g.diagnostics.filter Diagnostic.isWarning

inductive Outcome where
  | skipped (reason : SkipReason)
  | generated (g : Generation)

variable {m : Type → Type} [Monad m] [FileSystem m]

/-- Why a run may not go ahead without a package: an error if the configuration asks for one. -/
def withoutPackage (c : Config) (fault : RunFault) (reason : SkipReason) :
    Except RunError Readiness :=
  if c.requirePackage then .error ((RunError.ofFault fault).inStage "checking the schema package")
  else .ok (.skip reason)

def preflight (c : Config) (o : RunOptions) : m (Except RunError Readiness) := do
  if !c.enabled then return .ok (.skip .disabled)
  else if !c.isEnabledFor o.configuration then
    return .ok (.skip (.otherConfiguration o.configuration))
  else
    match o.package <|> c.packagePath? o.configuration with
    | none => return withoutPackage c .noPackage .noPackage
    | some path =>
      if ← isFile path then return .ok (.ready path)
      else return withoutPackage c (.missingPackage path) (.missingPackage path)

namespace Mode

def phases (r : Renderer) : Mode → List (Phase m)
  | resolve => Phase.resolution
  | render | write => Phase.resolution ++ Phase.rendering r

/-- Runs the phases on a package. -/
def run (mode : Mode) (r : Renderer) (c : Config) (package : String) :
    m (Except RunError RunState) := do
  let (result, state) ← (runPhases [] (mode.phases r)).run.run (.start c package)
  match result with
  | .error e => return .error e
  | .ok _ => return .ok state

end Mode

/-- Writes the files of a run if the mode asks for it. -/
def writeFiles (mode : Mode) (files : List OutputFile) : m (Except RunError (List String)) :=
  match mode with
  | .resolve | .render => pure (.ok [])
  | .write => do
    match ← OutputFile.flush files with
    | .error path =>
      return .error ((RunError.ofFault (.unwritable path)).inStage "writing generated files")
    | .ok written => return .ok written

/-- Runs as far as the mode says. -/
def generate (r : Renderer) (c : Config) (o : RunOptions) (mode : Mode) :
    m (Except RunError Outcome) := do
  match ← preflight c o with
  | .error e => return .error e
  | .ok (.skip reason) => return .ok (.skipped reason)
  | .ok (.ready package) =>
    match ← mode.run r c package with
    | .error e => return .error e
    | .ok s =>
      match ← writeFiles mode s.files with
      | .error e => return .error e
      | .ok written => return .ok (.generated ⟨package, s.model, s.files, s.diagnostics, written⟩)

end DataLayer
