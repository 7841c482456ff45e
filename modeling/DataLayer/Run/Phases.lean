import DataLayer.Model.Resolve
import DataLayer.Package.Load
import DataLayer.Run.Basic

/-!
The phases of a run. Those that read the schema package and resolve the model belong to every run;
those that render files follow if files are asked for.
-/

namespace DataLayer

namespace RunState

def warnAll (phase : String) (warnings : List Warning) (s : RunState) : RunState :=
  { s with diagnostics := s.diagnostics ++ warnings.map fun w => .warning phase w.message }

end RunState

namespace Phase

variable {m : Type → Type} [Monad m]

/-- The schema, which the first phase reads. -/
def loadedSchema : RunM m Schema.Tree := do
  match (← get).schema with
  | some t => pure t
  | none => throw (.ofFault .schemaNotLoaded)

def load [FileSystem m] : Phase m where
  name := "load"
  description := "loading the schema package"
  action := do
    match ← (Package.load (← get).package : m _) with
    | .error e => throw (.ofFault (.schema e))
    | .ok t => modify fun s => { s with schema := some t }

def entities : Phase m where
  name := "entities"
  description := "resolving entities"
  action := do
    let t ← loadedSchema
    modify fun s =>
      let (entities, warnings) := Model.entitiesOf s.config t.tables
      { s with model := { s.model with entities := entities } }.warnAll "entities" warnings

def accessors : Phase m where
  name := "methods"
  description := "resolving methods"
  action := do
    let t ← loadedSchema
    modify fun s =>
      let (model, warnings) := Model.addKeys s.config t.keys s.model
      { s with model := model }.warnAll "methods" warnings

def routines : Phase m where
  name := "routines"
  description := "resolving routines"
  action := do
    let t ← loadedSchema
    modify fun s => { s with model := { s.model with routines := t.routines } }

/-- Adds rendered files, or fails for the file that could not be rendered. -/
def addFiles (files : RunState → Except RenderFailure (List OutputFile)) : RunM m Unit := do
  match files (← get) with
  | .error f => throw (.ofFault (.render f))
  | .ok files => modify fun s => { s with files := s.files ++ files }

def renderEntities (r : Renderer) : Phase m where
  name := "render-entities"
  description := "rendering entity files"
  action := addFiles fun s => r.entityFiles s.config s.model s.model.entities

def renderAggregate (r : Renderer) : Phase m where
  name := "render-aggregate"
  description := "rendering the data-access class"
  action := addFiles fun s => r.aggregateFiles s.config s.model

/-- The phases that every run starts with. -/
def resolution [FileSystem m] : List (Phase m) := [load, entities, accessors, routines]

def rendering (r : Renderer) : List (Phase m) := [renderEntities r, renderAggregate r]

end Phase

end DataLayer
