import DataLayer.Code.File
import DataLayer.Config.Error
import DataLayer.Schema.Error

/-! Why a run fails, and in which of its stages. -/

namespace DataLayer

/-- The cause of a failed run. -/
inductive RunFault where
  | config (e : ConfigError)
  | missingPackage (path : String)
  | noPackage
  | schema (e : SchemaError)
  | schemaNotLoaded
  | render (f : RenderFailure)
  | unwritable (path : String)
  /-- What an added phase or an observer gives as its reason. -/
  | aborted (reason : String)
  deriving DecidableEq, Repr

def RunFault.message : RunFault → String
  | config _ => "failed to load configuration"
  | missingPackage path => "schema package not found at '" ++ path ++ "'"
  | noPackage => "no schema package configured; set `dacpac` or `source_project`"
  | schema _ => "failed to load schema package"
  | schemaNotLoaded => "schema package has not been loaded"
  | render f => "failed to render " ++ f.typeName
  | unwritable path => "failed to write '" ++ path ++ "'"
  | aborted reason => reason

/-- A cause, with the stages of the run that are named for it, the outermost first. -/
structure RunError where
  stages : List String
  fault : RunFault
  deriving DecidableEq, Repr

namespace RunError

/-- An optional text, as the texts that there are. -/
instance : Coe (Option String) (List String) := ⟨Option.toList⟩

def ofFault (fault : RunFault) : RunError := ⟨[], fault⟩

/-- Names the stage, unless one is named already. -/
def inStage (stage : String) (e : RunError) : RunError :=
  match e.stages with
  | [] => ⟨[stage], e.fault⟩
  | _ :: _ => e

def stageMessage (stage : String) : String := "generation failed while " ++ stage

/-- With a known stage, the outermost stage alone; the cause has its own message. -/
def message (e : RunError) : String :=
  match e.stages with
  | [] => e.fault.message
  | stage :: _ => stageMessage stage

@[simp] theorem inStage_inStage (e : RunError) (s t : String) :
    (e.inStage s).inStage t = e.inStage s := by
  obtain ⟨stages, fault⟩ := e
  cases stages <;> rfl

@[simp] theorem inStage_fault (e : RunError) (s : String) : (e.inStage s).fault = e.fault := by
  obtain ⟨stages, fault⟩ := e
  cases stages <;> rfl

end RunError

end DataLayer
